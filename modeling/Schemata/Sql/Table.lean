import Schemata.Options

/-!
Table definitions as data, and their text. A create statement lists columns, then foreign keys,
then says where the table is stored and who owns it. Entity tables and join tables differ only in
the style of their foreign key clauses.
-/
namespace Schemata.Sql

structure TableName where
  schema : String
  table : String
  deriving DecidableEq, Repr

def TableName.render (t : TableName) : String := t.schema ++ "." ++ t.table

structure Column where
  name : String
  type : String
  /-- A primary key is written without further constraints. -/
  primaryKey : Bool
  nullable : Bool
  unique : Bool
  deriving DecidableEq, Repr

def Column.render (c : Column) : String :=
  c.name ++ " " ++ c.type ++
    if c.primaryKey then " PRIMARY KEY"
    else (if c.nullable then "" else " NOT NULL") ++ (if c.unique then " UNIQUE" else "")

/-- The column `column` of the table that carries the key refers to `targetColumn` of `target`. -/
structure ForeignKey where
  constraint : String
  column : String
  target : TableName
  targetColumn : String
  deriving DecidableEq, Repr

inductive TableKind where
  | entity | join
  deriving DecidableEq, Repr

def ForeignKey.render (kind : TableKind) (k : ForeignKey) : String :=
  match kind with
  | .entity =>
    s!"  constraint {k.constraint} foreign key ({k.column})\n" ++
    s!"    references {k.target.render} ({k.targetColumn}) match simple\n" ++
    "    on update no action\n    on delete no action"
  | .join =>
    s!"    CONSTRAINT {k.constraint} FOREIGN KEY ({k.column})\n" ++
    s!"        REFERENCES {k.target.render} ({k.targetColumn}) MATCH SIMPLE\n" ++
    "        ON UPDATE NO ACTION\n        ON DELETE NO ACTION"

structure CreateTable where
  kind : TableKind
  name : TableName
  columns : List Column
  foreignKeys : List ForeignKey
  tablespace : Option String
  owner : Option String
  deriving DecidableEq, Repr

namespace CreateTable

def definitions (t : CreateTable) : List String :=
  t.columns.map (fun c => "    " ++ c.render) ++ t.foreignKeys.map (·.render t.kind)

/-- Tablespace clause, end of the statement, and the statement that assigns the owner. -/
def storage (t : CreateTable) : String :=
  (match t.tablespace with
    | some tablespace => "\n\nTABLESPACE " ++ tablespace
    | none => "") ++ ";" ++
  (match t.owner with
    | some owner => s!"\n\nALTER TABLE IF EXISTS {t.name.render}\n    OWNER to {owner};"
    | none => "")

def render (t : CreateTable) : String :=
  s!"CREATE TABLE IF NOT EXISTS {t.name.render}\n(\n" ++
    String.intercalate ",\n" t.definitions ++ "\n)" ++ t.storage

end CreateTable

/-- The statement that drops a table. -/
def TableName.renderDrop (t : TableName) : String := s!"drop table if exists {t.render};"

end Schemata.Sql

namespace Schemata.SqlOptions

def qualify (o : SqlOptions) (table : String) : Sql.TableName := ⟨o.schema, table⟩

end Schemata.SqlOptions
