import Schemata.Relation.Declaration

/-!
The identifiers that relations bring into the database: join tables with their columns, and the
constraints of foreign keys.
-/
namespace Schemata

namespace FieldRef

/-- The constraint on the table of `holder` that refers to the table of `referenced`. -/
def constraintName (holder referenced : FieldRef) : String :=
  s!"{holder.tableName}_to_{referenced.tableName}_{holder.columnName}_fkey"

end FieldRef

namespace Declaration

def joinTableName (d : Declaration) : String :=
  s!"{d.first.field.tableName}_to_{d.second.field.tableName}"

/-- The join table's constraint on the column that refers to `r`. -/
def joinConstraintName (d : Declaration) (r : FieldRef) : String :=
  s!"{d.joinTableName}_{r.joinColumn}_fkey"

end Declaration

end Schemata
