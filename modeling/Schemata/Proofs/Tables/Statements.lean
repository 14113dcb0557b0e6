import Schemata.Proofs.Tables.Sequence

/-!
Statements and scripts in full. The statement that creates a table defines its columns and then its
foreign keys, a comma behind all but the last, and says where the table is stored and who owns it. A
script has its statements with a blank line between any two.
-/
namespace Schemata

namespace Sql

/-- The line that defines a column. -/
def Column.line (c : Column) : String :=
  "    " ++ c.name ++ " " ++ c.type ++
    match c.primaryKey, c.nullable, c.unique with
    | true, _, _ => " PRIMARY KEY"
    | false, true, true => " UNIQUE"
    | false, true, false => ""
    | false, false, true => " NOT NULL UNIQUE"
    | false, false, false => " NOT NULL"

/-- The lines of a foreign key: in small letters on the table of a format, in capitals and further
indented on a join table. -/
def ForeignKey.lines (kind : TableKind) (k : ForeignKey) : String :=
  let target := k.target.schema ++ "." ++ k.target.table
  match kind with
  | .entity =>
    "  constraint " ++ k.constraint ++ " foreign key (" ++ k.column ++ ")\n" ++
      "    references " ++ target ++ " (" ++ k.targetColumn ++ ") match simple\n" ++
      "    on update no action\n    on delete no action"
  | .join =>
    "    CONSTRAINT " ++ k.constraint ++ " FOREIGN KEY (" ++ k.column ++ ")\n" ++
      "        REFERENCES " ++ target ++ " (" ++ k.targetColumn ++ ") MATCH SIMPLE\n" ++
      "        ON UPDATE NO ACTION\n        ON DELETE NO ACTION"

/-- The statement that creates a table. -/
def CreateTable.text (t : CreateTable) : String :=
  let name := t.name.schema ++ "." ++ t.name.table
  "CREATE TABLE IF NOT EXISTS " ++ name ++ "\n(\n" ++
    String.intercalate ",\n" (t.columns.map (·.line) ++ t.foreignKeys.map (·.lines t.kind)) ++
    "\n)" ++ (t.tablespace.elim "" fun tablespace => "\n\nTABLESPACE " ++ tablespace) ++ ";" ++
    t.owner.elim "" fun owner =>
      "\n\nALTER TABLE IF EXISTS " ++ name ++ "\n    OWNER to " ++ owner ++ ";"

/-- The statement that drops a table. -/
def TableName.dropText (t : TableName) : String :=
  "drop table if exists " ++ t.schema ++ "." ++ t.table ++ ";"

theorem Column.render_eq (c : Column) : "    " ++ c.render = c.line := by
  obtain ⟨name, type, primaryKey, nullable, unique⟩ := c
  cases primaryKey <;> cases nullable <;> cases unique <;>
    simp [render, line, String.append_assoc]

theorem ForeignKey.render_eq (kind : TableKind) (k : ForeignKey) :
    k.render kind = k.lines kind := by
  cases kind <;> dsimp only [render, lines, TableName.render] <;>
    simp only [toString, String.append_assoc]

theorem CreateTable.definitions_eq (t : CreateTable) :
    t.definitions = t.columns.map (·.line) ++ t.foreignKeys.map (·.lines t.kind) := by
  simp only [definitions, Column.render_eq, ForeignKey.render_eq]

theorem CreateTable.render_eq (t : CreateTable) : t.render = t.text := by
  dsimp only [render, text, storage, TableName.render]
  simp only [definitions_eq, toString]
  cases t.tablespace <;> cases t.owner <;>
    simp only [Option.elim, String.append_assoc, String.empty_append, String.append_empty]

theorem TableName.renderDrop_eq (t : TableName) : t.renderDrop = t.dropText := by
  dsimp only [renderDrop, dropText, render]
  simp only [toString, String.append_assoc]

end Sql

/-! ### Scripts -/

theorem scriptOf_eq (statements : List String) :
    scriptOf statements =
      if statements = [] then "" else String.intercalate "\n\n" statements ++ "\n" := by
  cases statements <;> rfl

namespace Schema

variable {s : Schema} {ts : List Sql.CreateTable}

theorem createScript_text (h : s.tables = .ok ts) :
    s.createScript =
      .ok (if ts = [] then "" else String.intercalate "\n\n" (ts.map (·.text)) ++ "\n") := by
  rw [createScript_of_tables h, scriptOf_eq]
  simp only [List.map_eq_nil_iff, Sql.CreateTable.render_eq]

theorem dropScript_text (h : s.tables = .ok ts) :
    s.dropScript =
      .ok (if ts = [] then ""
        else String.intercalate "\n\n" ((ts.map (·.name)).reverse.map (·.dropText)) ++ "\n") := by
  rw [dropScript_of_tables h, scriptOf_eq]
  simp only [List.map_eq_nil_iff, List.reverse_eq_nil_iff, Sql.TableName.renderDrop_eq]

end Schema

end Schemata
