import Schemata.Sql.Query

/-!
What a statement selects. A database gives each table its rows, of which several may be alike, and a
row gives each column a value, or none where the column is null. A condition compares two values
that are there: null equals nothing, not even null.
-/
namespace Schemata.Sql

/-- The value of each column, none for null. -/
def Row (ν : Type) := String → Option ν

/-- The rows of each table. -/
def Contents (ν : Type) := TableName → List (Row ν)

variable {ν : Type} [DecidableEq ν]

/-- The condition that two columns, or a column and a parameter, are equal. -/
def equal (a b : Option ν) : Bool := a.isSome && a == b

theorem equal_iff (a b : Option ν) : equal a b ↔ ∃ v, a = some v ∧ b = some v := by
  cases a with
  | none => simp [equal]
  | some v => simpa [equal] using eq_comm

theorem equal_comm (a b : Option ν) : equal a b = equal b a := by
  rw [Bool.eq_iff_iff, equal_iff, equal_iff]
  exact exists_congr fun _ => and_comm

/-- The rows of a table to which a route leads from a value. By way of a join table a row is found
once for each row there that meets it. -/
def Route.rows (route : Route) (db : Contents ν) (table : TableName) (value : Option ν) :
    List (Row ν) :=
  match route with
  | .direct column => (db table).filter fun r => equal (r column) value
  | .through joinTable linkColumn column valueColumn =>
    (db table).flatMap fun r =>
      ((db joinTable).filter fun j =>
        equal (j linkColumn) (r column) && equal (j valueColumn) value).map fun _ => r

/-- The rows of its table that a statement selects for a parameter, before columns are chosen.
Statements that change a table select none. -/
def Query.selected (q : Query) (db : Contents ν) (value : Option ν) : List (Row ν) :=
  match q with
  | .all table _ => db table
  | .matching table _ column => (Route.direct column).rows db table value
  | .related table _ route => route.rows db table value
  | .insert .. | .delete .. => []

theorem Route.mem_rows_direct {db : Contents ν} {table : TableName} {value : Option ν}
    {column : String} {r : Row ν} :
    r ∈ (Route.direct column).rows db table value ↔ r ∈ db table ∧ equal (r column) value :=
  List.mem_filter

/-- However often it is found, a row is selected if some row of the join table meets it. -/
theorem Route.mem_rows_through {db : Contents ν} {table joinTable : TableName}
    {value : Option ν} {linkColumn column valueColumn : String} {r : Row ν} :
    r ∈ (Route.through joinTable linkColumn column valueColumn).rows db table value ↔
      r ∈ db table ∧
        ∃ j ∈ db joinTable, equal (j linkColumn) (r column) ∧ equal (j valueColumn) value := by
  simp only [rows, List.mem_flatMap, List.mem_map, List.mem_filter, Bool.and_eq_true]
  constructor
  · rintro ⟨r, hr, j, ⟨hj, he⟩, rfl⟩
    exact ⟨hr, j, hj, he⟩
  · rintro ⟨hr, j, hj, he⟩
    exact ⟨r, hr, j, ⟨hj, he⟩, rfl⟩

end Schemata.Sql
