import Schemata.Schema

/-!
Scripts that create or drop all tables of a schema. Entity tables are created in provisioning order
and join tables after them; dropping goes the opposite way.
-/
namespace Schemata

/-- The table of a format, with the foreign keys of the given relations. -/
def DataFormat.createTable (f : DataFormat) (rs : List Relation) (o : SqlOptions) :
    Sql.CreateTable where
  kind := .entity
  name := o.qualify f.tableName
  columns := f.fields.map (·.column)
  foreignKeys := rs.filterMap (·.foreignKey?)
  tablespace := o.tablespace
  owner := o.owner

namespace Schema

def createTable (s : Schema) (f : DataFormat) : Sql.CreateTable :=
  f.createTable (Relations.imposingOn s.relations.toList f.name) s.options

/-- The formats in provisioning order. -/
def orderedFormats (s : Schema) : Except SchemaError (List DataFormat) := do
  let names ← s.provisioningOrder
  names.mapM s.requireFormat

/-- All tables, each after the tables it refers to. -/
def tables (s : Schema) : Except SchemaError (List Sql.CreateTable) := do
  let formats ← s.orderedFormats
  return formats.map s.createTable ++ s.relations.joinTables

/-- All table names, each before the tables it refers to. -/
def dropOrder (s : Schema) : Except SchemaError (List Sql.TableName) := do
  let formats ← s.orderedFormats
  return (s.relations.joinTables.map (·.name)).reverse ++
    (formats.map fun f => s.options.qualify f.tableName).reverse

end Schema

/-- Statements with blank lines between them and a line feed at the end. -/
def scriptOf (statements : List String) : String :=
  if statements.isEmpty then "" else String.intercalate "\n\n" statements ++ "\n"

namespace Schema

def createScript (s : Schema) : Except SchemaError String := do
  return scriptOf ((← s.tables).map (·.render))

def dropScript (s : Schema) : Except SchemaError String := do
  return scriptOf ((← s.dropOrder).map (·.renderDrop))

end Schema

end Schemata
