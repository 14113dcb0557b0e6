import Schemata.Toml.Value

/-!
Tables while a document fills them. A dotted key and a header create the tables on their way, and
each table remembers how it came about: a header may define a table once, and later only add tables
inside of it; a dotted key may pass only through tables that no header has defined.
-/
namespace Schemata.Toml

inductive Item where
  | value (v : Value)
  /-- `implied`: created on the way to another table; `dotted`: by a dotted key. -/
  | table (implied dotted : Bool) (entries : List (String × Item))
  /-- An array of tables, of which the last one is being filled. -/
  | tables (earlier : List (List (String × Item))) (last : List (String × Item))
  deriving Inhabited

abbrev Entries := List (String × Item)

namespace Entries

/-- Changes the table at the end of a path. `change` is told whether a dotted key created it. -/
def descend (byDots : Bool) (change : Bool → Entries → Option Entries) :
    List String → Bool → Entries → Option Entries
  | [], dotted, es => change dotted es
  | key :: path, _, es =>
    match Dict.find? es key with
    | none => do
      let inner ← descend byDots change path byDots []
      return Dict.insert es key (.table true byDots inner)
    | some (.table implied dotted inner) =>
      if byDots && !implied then none
      else do
        let inner ← descend byDots change path dotted inner
        return Dict.insert es key (.table implied dotted inner)
    | some (.tables earlier last) => do
      let last ← descend byDots change path false last
      return Dict.insert es key (.tables earlier last)
    | some (.value _) => none

/-- Writes a new key. Behind dots it belongs to a table that dots created, and otherwise not. -/
def define (key : String) (v : Value) (path : List String) (dotted : Bool) (es : Entries) :
    Option Entries :=
  if dotted == path.isEmpty then none
  else if (Dict.find? es key).isSome then none
  else some (es ++ [(key, .value v)])

/-- A dotted key and its value, inside the table at hand. -/
def assign? (path : List String) (key : String) (v : Value) (es : Entries) : Option Entries :=
  descend true (define key v path) path false es

/-- The same inside the table that a header names. -/
def assignIn? (header path : List String) (key : String) (v : Value) (es : Entries) :
    Option Entries :=
  descend false (descend true (define key v path) path) header false es

/-- The header of a table. -/
def openTable? (path : List String) (key : String) (es : Entries) : Option Entries :=
  descend false (fun _ es =>
    match Dict.find? es key with
    | none => some (es ++ [(key, .table false false [])])
    | some (.table true false inner) => some (Dict.insert es key (.table false false inner))
    | some _ => none) path false es

/-- The header of one more table in an array of tables. -/
def openArray? (path : List String) (key : String) (es : Entries) : Option Entries :=
  descend false (fun _ es =>
    match Dict.find? es key with
    | none => some (es ++ [(key, .tables [] [])])
    | some (.tables earlier last) => some (Dict.insert es key (.tables (earlier ++ [last]) []))
    | some _ => none) path false es

end Entries

mutual

def Item.toValue : Item → Value
  | .value v => v
  | .table _ _ entries => .table (entriesToValues entries)
  | .tables earlier last => .array (tablesToValues earlier ++ [.table (entriesToValues last)])

def entriesToValues : List (String × Item) → List (String × Value)
  | [] => []
  | (key, x) :: rest => (key, x.toValue) :: entriesToValues rest

def tablesToValues : List (List (String × Item)) → List Value
  | [] => []
  | t :: rest => .table (entriesToValues t) :: tablesToValues rest

end

end Schemata.Toml
