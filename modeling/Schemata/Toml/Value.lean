import Schemata.Tree

/-!
Values of TOML text, and what they read as.
-/
namespace Schemata.Toml

inductive Value where
  | string (s : String)
  | integer (n : Int)
  | float
  | bool (b : Bool)
  | date
  | array (items : List Value)
  | table (entries : List (String × Value))
  deriving Repr, Inhabited

namespace Value

def isEmptyCollection : Value → Bool
  | .array [] => true
  | .table [] => true
  | _ => false

mutual

/-- A table with one entry that holds nothing can stand for the entry's key. A date reads as a table
without entries of interest. -/
def toTree : Value → Tree
  | .string s => .text s
  | .integer n => if 0 ≤ n then .nat n.toNat else .ofAtom .other
  | .float => .ofAtom .other
  | .bool b => .bool b
  | .date => .map none []
  | .array items => .list (itemsToTree items)
  | .table entries =>
    .map (match entries with
      | [(name, v)] => if v.isEmptyCollection then some name else none
      | _ => none) (entriesToTree entries)

def itemsToTree : List Value → List Tree
  | [] => []
  | v :: rest => toTree v :: itemsToTree rest

def entriesToTree : List (String × Value) → List (Tree × Tree)
  | [] => []
  | (key, v) :: rest => (.text key, toTree v) :: entriesToTree rest

end

end Value

end Schemata.Toml
