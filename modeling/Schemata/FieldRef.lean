import Schemata.Name

/-!
References to a field of a format, written `format.field`. Reading drops white space around the two
names, after checking that neither part is empty.
-/
namespace Schemata

structure FieldRef where
  formatName : String
  fieldName : String
  deriving DecidableEq, Repr

namespace FieldRef

def render (r : FieldRef) : String := r.formatName ++ "." ++ r.fieldName

/-- Reads a reference: two parts with one point between them, neither of them empty. -/
def parse? (s : String) : Option FieldRef :=
  let cs := s.toList
  let first := cs.takeWhile (· != '.')
  match cs.dropWhile (· != '.') with
  | [] => none
  | _ :: second =>
    if first.isEmpty || second.isEmpty || second.contains '.' then none
    else some ⟨Text.trim (String.ofList first), Text.trim (String.ofList second)⟩

def tableName (r : FieldRef) : String := Name.table r.formatName

def columnName (r : FieldRef) : String := Name.column r.fieldName

/-- The column that refers to this field in a join table. -/
def joinColumn (r : FieldRef) : String := r.tableName ++ "_" ++ r.columnName

end FieldRef

end Schemata
