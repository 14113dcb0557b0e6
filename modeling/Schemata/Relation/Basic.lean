import Schemata.Relation.Naming
import Schemata.Sql.Table

/-!
Relations: declarations with the DDL they call for. A many-to-many relation has a join table, the
other shapes put a foreign key on the table of their second end. With SQL disabled a relation has
neither.
-/
namespace Schemata

inductive RelationSql where
  | joinTable (t : Sql.CreateTable)
  | foreignKey (k : Sql.ForeignKey)
  deriving DecidableEq, Repr

structure Relation where
  declaration : Declaration
  sql : Option RelationSql
  deriving DecidableEq, Repr

namespace Declaration

/-- The column of the join table that refers to `r`. -/
def joinColumnDefinition (r : FieldRef) : Sql.Column :=
  ⟨r.joinColumn, "integer", false, false, false⟩

def joinForeignKey (d : Declaration) (o : SqlOptions) (r : FieldRef) : Sql.ForeignKey :=
  ⟨d.joinConstraintName r, r.joinColumn, o.qualify r.tableName, r.columnName⟩

/-- The join table: a row number and one column for each end. -/
def joinTable (d : Declaration) (o : SqlOptions) : Sql.CreateTable where
  kind := .join
  name := o.qualify d.joinTableName
  columns :=
    [⟨"id", "SERIAL", true, false, false⟩, joinColumnDefinition d.first.field,
      joinColumnDefinition d.second.field]
  foreignKeys := [d.joinForeignKey o d.first.field, d.joinForeignKey o d.second.field]
  tablespace := o.tablespace
  owner := o.owner

/-- The key by which the second end refers to the first. -/
def foreignKey (d : Declaration) (o : SqlOptions) : Sql.ForeignKey :=
  ⟨d.second.field.constraintName d.first.field, d.second.field.columnName,
    o.qualify d.first.field.tableName, d.first.field.columnName⟩

def relation (d : Declaration) (o : SqlOptions) : Relation :=
  ⟨d, if o.enableSql then
      some <|
        if d.shape = .manyToMany then .joinTable (d.joinTable o)
        else .foreignKey (d.foreignKey o)
    else none⟩

end Declaration

namespace Relation

def name (r : Relation) : String := r.declaration.name

def joinTable? (r : Relation) : Option Sql.CreateTable :=
  match r.sql with
  | some (.joinTable t) => some t
  | _ => none

def foreignKey? (r : Relation) : Option Sql.ForeignKey :=
  match r.sql with
  | some (.foreignKey k) => some k
  | _ => none

/-- Whether the relation's shape puts a foreign key on the table of the format. -/
def imposesOn (r : Relation) (formatName : String) : Bool :=
  r.declaration.holder?.any (·.formatName == formatName)

@[simp] theorem declaration_relation (d : Declaration) (o : SqlOptions) :
    (d.relation o).declaration = d := rfl

@[simp] theorem name_relation (d : Declaration) (o : SqlOptions) :
    (d.relation o).name = d.name := rfl

end Relation

end Schemata
