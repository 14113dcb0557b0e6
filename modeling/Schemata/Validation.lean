import Schemata.DataFormat
import Schemata.Relation.Collection

/-!
What is checked before anything is derived from formats and declarations. Formats are checked in
order, each with its fields, then declarations in order; the first fault found is reported.
-/
namespace Schemata.Validation

def identifier (r : Except Name.Fault Unit) : Except SchemaError Unit :=
  r.mapError .invalidIdentifier

/-- Checks the fields of a format. `columns` are those of the fields before. -/
def fields (format : String) (columns : List String) : List Field → Except SchemaError Unit
  | [] => .ok ()
  | f :: rest => do
    identifier (Name.checkDeclared .field f.name)
    if f.columnName ∈ columns then throw (.duplicateField format f.name)
    fields format (f.columnName :: columns) rest

/-- Checks formats. `tables` are those of the formats before. -/
def formats (tables : List String) : List DataFormat → Except SchemaError Unit
  | [] => .ok ()
  | f :: rest => do
    identifier (Name.checkDeclared .dataFormat f.name)
    if f.tableName ∈ tables then throw (.duplicateFormat f.name)
    fields f.name [] f.fields
    formats (f.tableName :: tables) rest

/-- Whether a format of that name declares a field of that name. -/
def declares (fs : List DataFormat) (r : FieldRef) : Bool :=
  (DataFormat.find? fs r.formatName).any (·.hasField r.fieldName)

def fieldRef (fs : List DataFormat) (relation : String) (r : FieldRef) : Except SchemaError Unit :=
  if declares fs r then .ok () else .error (.unknownFieldRef relation r)

def accessorName : Option String → Except SchemaError Unit
  | none => .ok ()
  | some name => identifier (Name.checkFunction name)

/-- Identifiers longer than the database allows would be cut off, and two of them could then
coincide. -/
def generatedNames (d : Declaration) : Except SchemaError Unit :=
  if d.shape = .manyToMany then do
    identifier (Name.checkGenerated .joinTable d.joinTableName)
    for r in [d.first.field, d.second.field] do
      identifier (Name.checkGenerated .joinColumn r.joinColumn)
      identifier (Name.checkGenerated .constraint (d.joinConstraintName r))
  else
    identifier (Name.checkGenerated .constraint (d.second.field.constraintName d.first.field))

/-- Checks the join table of a many-to-many declaration against those of the declarations before,
which `joinTables` lists with the relations they belong to. -/
def joinTable (joinTables : List (String × String)) (d : Declaration) :
    Except SchemaError Unit := do
  if d.first.field.joinColumn = d.second.field.joinColumn then
    throw (.joinColumnCollision d.name d.first.field.joinColumn)
  match Dict.find? joinTables d.joinTableName with
  | some owner =>
    if owner ≠ d.name then throw (.duplicateJoinTable d.joinTableName owner d.name)
  | none => pure ()

/-- Checks declarations. `joinTables` are those of the declarations before. -/
def declarations (fs : List DataFormat) (joinTables : List (String × String)) :
    List Declaration → Except SchemaError Unit
  | [] => .ok ()
  | d :: rest => do
    fieldRef fs d.name d.first.field
    fieldRef fs d.name d.second.field
    if d.first.field = d.second.field then throw (.selfReference d.name)
    accessorName d.first.accessorName
    accessorName d.second.accessorName
    generatedNames d
    if d.shape = .manyToMany then
      joinTable joinTables d
      declarations fs (Dict.insert joinTables d.joinTableName d.name) rest
    else declarations fs joinTables rest

end Schemata.Validation
