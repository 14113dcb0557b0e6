import Schemata.Field
import Schemata.FieldRef
import Schemata.Json.Value

/-!
Data formats: a name, a plural and the fields of one kind of record. Rows come back from the
database keyed by column and are keyed again by field.
-/
namespace Schemata

structure DataFormat where
  name : String
  pluralName : Option String
  fields : List Field
  deriving DecidableEq, Repr

namespace DataFormat

/-- The declared plural, or the name with an `s` behind it. -/
def pluralized (f : DataFormat) : String := f.pluralName.getD (f.name ++ "s")

def tableName (f : DataFormat) : String := Name.table f.name

def field? (f : DataFormat) (name : String) : Option Field := f.fields.find? (·.name == name)

def hasField (f : DataFormat) (name : String) : Bool := (f.field? name).isSome

def fieldRef? (f : DataFormat) (name : String) : Option FieldRef :=
  (f.field? name).map fun x => ⟨f.name, x.name⟩

def columnNames (f : DataFormat) : List String := f.fields.map (·.columnName)

/-- The field name under which a record holds the value of a column. -/
def keyOfColumn (f : DataFormat) (column : String) : String :=
  match f.fields.find? (·.columnName == column) with
  | some x => x.name
  | none => Name.ofColumn column

/-- A row keyed by field names. -/
def recordOfRow (f : DataFormat) (row : Record) : Record :=
  Dict.ofPairs (row.map fun (column, value) => (f.keyOfColumn column, value))

/-- The format of a name. -/
def find? (formats : List DataFormat) (name : String) : Option DataFormat :=
  formats.find? (·.name == name)

/-- One format for each name: the place of the first and the content of the last. -/
def keyed (formats : List DataFormat) : List DataFormat :=
  (Dict.ofPairs (formats.map fun f => (f.name, f))).map (·.2)

end DataFormat

end Schemata
