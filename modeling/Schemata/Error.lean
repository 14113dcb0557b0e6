import Schemata.FieldRef

/-!
Why a schema, a store operation or a database statement fails, and the texts that say so.
-/
namespace Schemata

inductive SchemaError where
  | duplicateFormat (name : String)
  | duplicateField (format field : String)
  | unknownFormat (name : String)
  | unknownFieldRef (relation : String) (ref : FieldRef)
  | selfReference (relation : String)
  | duplicateRelation (name : String)
  | duplicateJoinTable (table first second : String)
  | joinColumnCollision (relation column : String)
  /-- Two relations give one store two accessors of one name. -/
  | duplicateAccessor (format accessor first second : String)
  /-- The formats whose foreign keys wait for each other. -/
  | cycle (formats : List String)
  | invalidFieldRef (text : String)
  | invalidIdentifier (fault : Name.Fault)
  | io (reason : String)
  | parse
  deriving DecidableEq, Repr

namespace SchemaError

def message : SchemaError → String
  | .duplicateFormat name => s!"Duplicate data format: {name}"
  | .duplicateField format field => s!"Data format {format} declares field {field} more than once"
  | .unknownFormat name => s!"Unknown data format: {name}"
  | .unknownFieldRef relation ref =>
    s!"Unknown field reference {ref.render} in relation {relation}"
  | .selfReference relation => s!"Relation {relation} references the same field on both ends"
  | .duplicateRelation name => s!"Duplicate relation: {name}"
  | .duplicateJoinTable table first second =>
    s!"Join table {table} is produced by both {first} and {second}"
  | .joinColumnCollision relation column =>
    s!"Join table columns of relation {relation} collide: {column}"
  | .duplicateAccessor format accessor first second =>
    s!"Function name {accessor} on the {format} store is produced by both {first} and {second}"
  | .cycle formats =>
    "Foreign keys form a cycle between data formats: " ++ String.intercalate ", " formats
  | .invalidFieldRef text => s!"Invalid field reference '{text}', expected 'format.field'"
  | .invalidIdentifier fault => "Invalid identifier: " ++ fault.message
  | .io reason => s!"IO error: {reason}"
  | .parse => "Parse error"

/-- The message for the user of the command line, with a hint where there is one. -/
def userMessage : SchemaError → String
  | .unknownFieldRef relation ref =>
    s!"Relation {relation} references {ref.render}, which is not declared.\n\n" ++
      "Hint: Check the data format and field names of the relation."
  | .duplicateAccessor format accessor first second =>
    s!"Relations {first} and {second} both generate {accessor} on the {format} store.\n\n" ++
      "Hint: Give one of them an explicit accessor name."
  | .cycle formats =>
    "Foreign keys form a cycle between: " ++ String.intercalate ", " formats ++ "\n\n" ++
      "Hint: Turn one of the relations into a many-to-many relation."
  | e => e.message

end SchemaError

/-- Why a database handle does not answer. -/
inductive DbError where
  | connection (reason : String)
  | query (reason : String)
  | conversion (reason : String)
  deriving DecidableEq, Repr

def DbError.message : DbError → String
  | .connection reason => s!"Connection error: {reason}"
  | .query reason => s!"Query error: {reason}"
  | .conversion reason => s!"Conversion error: {reason}"

inductive StoreError where
  | unknownFunction (format accessor : String)
  | unknownField (format field : String)
  | database (e : DbError)
  deriving DecidableEq, Repr

def StoreError.message : StoreError → String
  | .unknownFunction format accessor => s!"Store for {format} has no function named {accessor}"
  | .unknownField format field => s!"Data format {format} has no field named {field}"
  | .database e => e.message

end Schemata
