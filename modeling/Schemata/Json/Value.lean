import Schemata.Number.Double
import Schemata.Dict

/-!
JSON values. Numbers are integers of 64 bits, signed or unsigned, or doubles. Objects keep their
members in order.
-/
namespace Schemata

inductive Json where
  | null
  | bool (b : Bool)
  | int (n : Int)
  | float (x : Double)
  | string (s : String)
  | array (items : List Json)
  | object (members : List (String × Json))
  deriving Repr, Inhabited

namespace Json

/-- A number as JSON has it: infinities and nans become null. -/
def ofDouble (x : Double) : Json := if x.isFinite then .float x else .null

def isNull : Json → Bool
  | .null => true
  | _ => false

def bool? : Json → Option Bool
  | .bool b => some b
  | _ => none

def string? : Json → Option String
  | .string s => some s
  | _ => none

/-- A signed integer of 64 bits. -/
def int64? : Json → Option Int
  | .int n => if -Nat.pow 2 63 ≤ n ∧ n < Nat.pow 2 63 then some n else none
  | _ => none

/-- Any number, rounded to a double. -/
def double? : Json → Option Double
  | .int n => some (.ofInt n)
  | .float x => some x
  | _ => none

end Json

/-- A row of a table or a record of a store: values by column or field name, in order. -/
abbrev Record := List (String × Json)

end Schemata
