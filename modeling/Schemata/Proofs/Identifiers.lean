import Schemata.Proofs.Accessors.Plans
import Schemata.Proofs.Admission
import Schemata.Proofs.Names.SnakeCase

/-!
The identifiers in the SQL of a schema. They are written without quotes, so they must need none, and
the database cuts them off behind their 63rd byte, so they must not be longer. Names are checked as
they are declared and as they are put together for relations, and SQL is made elsewhere; but all
that is ever written are the names of tables and columns and the identifiers of relations.
-/
namespace Schemata

/-- An identifier that needs no quotes and is kept whole. -/
structure Name.Plain (identifier : String) : Prop extends Name.Snake identifier where
  length : identifier.utf8ByteSize ≤ 63

theorem Name.Declarable.plain {name : String} (h : Name.Declarable name) :
    Name.Plain (Text.snakeCase name) :=
  ⟨h.camel.snake, h.length⟩

theorem Name.plain_id : Name.Plain "id" :=
  ⟨⟨⟨'i', ['d'], rfl, rfl⟩, List.all_eq_true.mp (by decide)⟩, by decide⟩

/-! ### Identifiers of statements -/

namespace Sql

def ForeignKey.identifiers (k : ForeignKey) : List String :=
  [k.constraint, k.column, k.target.table, k.targetColumn]

/-- The name of a table, its columns, and what its foreign keys are made of. -/
def CreateTable.identifiers (t : CreateTable) : List String :=
  t.name.table :: (t.columns.map (·.name) ++ t.foreignKeys.flatMap (·.identifiers))

theorem ForeignKey.forall_identifiers {P : String → Prop} {k : ForeignKey} :
    (∀ i ∈ k.identifiers, P i) ↔
      P k.constraint ∧ P k.column ∧ P k.target.table ∧ P k.targetColumn := by
  simp [identifiers]

theorem CreateTable.forall_identifiers {P : String → Prop} {t : CreateTable} :
    (∀ i ∈ t.identifiers, P i) ↔
      P t.name.table ∧ (∀ c ∈ t.columns, P c.name) ∧
        ∀ k ∈ t.foreignKeys, ∀ i ∈ k.identifiers, P i := by
  simp only [identifiers, List.forall_mem_cons, List.forall_mem_append, List.forall_mem_map,
    List.forall_mem_flatMap]

def Route.identifiers : Route → List String
  | .direct column => [column]
  | .through joinTable linkColumn column valueColumn =>
    [joinTable.table, linkColumn, column, valueColumn]

def Query.identifiers : Query → List String
  | .all table columns => table.table :: columns
  | .matching table columns column => table.table :: column :: columns
  | .related table columns route => table.table :: (columns ++ route.identifiers)
  | .insert table values returning => table.table :: (values ++ returning)
  | .delete table column returning => table.table :: column :: returning

end Sql

/-- The row statements that the operations of a store issue. -/
inductive Store.Issues (t : Store) : String → Prop where
  | getAll : t.Issues t.getAll.statement.sql
  | getBy {field : String} {value : Json} {r : Request (Option Record)}
      (h : t.getBy field value = .ok r) : t.Issues r.statement.sql
  | getManyBy {field : String} {value : Json} {r : Request (List Record)}
      (h : t.getManyBy field value = .ok r) : t.Issues r.statement.sql
  | deleteBy {field : String} {value : Json} {r : Request (List Record)}
      (h : t.deleteBy field value = .ok r) : t.Issues r.statement.sql
  | add {record : Record} {r : Request (Option Record)}
      (h : t.add record = .ok r) : t.Issues r.statement.sql
  | call {name : String} {value : Json} {r : Request Related}
      (h : t.call name value = .ok r) : t.Issues r.statement.sql

namespace Store

variable {t : Store}

/-- The column that is looked up for a field is one of the store's. -/
theorem mem_columns_of_column {field column : String} (h : t.column field = .ok column) :
    column ∈ t.columns := by
  unfold Store.column at h
  split at h
  · rename_i x hx
    obtain rfl := Except.ok.inj h
    exact List.mem_map_of_mem (List.mem_of_find?_eq_some hx)
  · cases h

/-- Statements that look a field up name the table, the column of the field and all columns. -/
theorem names_of_column {field column : String} (h : t.column field = .ok column) :
    ∀ i ∈ t.table.table :: column :: t.columns, i = t.table.table ∨ i ∈ t.columns :=
  List.forall_mem_cons.mpr ⟨.inl rfl,
    List.forall_mem_cons.mpr ⟨.inr (mem_columns_of_column h), fun _ => .inr⟩⟩

theorem mem_columns_of_assignments {record : Record} {x : String × Json}
    (h : x ∈ t.assignments record) : x.1 ∈ t.columns := by
  obtain ⟨f, hf, hx⟩ := List.mem_filterMap.mp h
  have hc : x.1 = f.columnName := by
    split at hx
    · split at hx
      · cases hx
      · rw [← Option.some.inj hx]
    · cases hx
  rw [hc]
  exact List.mem_map_of_mem hf

end Store

theorem Accessor.sql_call (a : Accessor) (value : Json) :
    (a.call value).statement.sql = a.plan.query.render := by
  unfold call
  split <;> rfl

theorem Store.sql_add {t : Store} {record : Record} {r : Request (Option Record)}
    (h : t.add record = .ok r) : r.statement.sql =
      (Sql.Query.insert t.table ((t.assignments record).map (·.1)) t.columns).render := by
  unfold Store.add at h
  split at h
  · cases h
  · rw [← Except.ok.inj h, Request.statement]

/-- The statement that a store issues is one that names its table and its columns only, or that of
an accessor. -/
theorem Store.Issues.exists_query {t : Store} {sql : String} (h : t.Issues sql) :
    ∃ q : Sql.Query, sql = q.render ∧
      ((∀ i ∈ q.identifiers, i = t.table.table ∨ i ∈ t.columns) ∨
        ∃ a ∈ t.accessors, q = a.plan.query) := by
  cases h with
  | getAll =>
    exact ⟨.all t.table t.columns, rfl, .inl (List.forall_mem_cons.mpr ⟨.inl rfl, fun c => .inr⟩)⟩
  | getBy h | getManyBy h =>
    obtain ⟨c, hc, h⟩ := bind_eq_ok_iff.mp h
    obtain rfl := Except.ok.inj h
    exact ⟨.matching t.table t.columns c, rfl, .inl (names_of_column hc)⟩
  | deleteBy h =>
    obtain ⟨c, hc, h⟩ := bind_eq_ok_iff.mp h
    obtain rfl := Except.ok.inj h
    exact ⟨.delete t.table c t.columns, rfl, .inl (names_of_column hc)⟩
  | @add record _ h =>
    have hvalues : ∀ c ∈ (t.assignments record).map (·.1), c ∈ t.columns :=
      List.forall_mem_map.mpr fun x => mem_columns_of_assignments
    refine ⟨_, sql_add h, .inl fun i hi => ?_⟩
    rw [Sql.Query.identifiers, List.mem_cons, List.mem_append] at hi
    exact hi.imp_right fun h => h.elim (hvalues i) id
  | call h =>
    unfold Store.call at h
    split at h
    · rename_i a ha
      obtain rfl := Except.ok.inj h
      exact ⟨_, a.sql_call _, .inr ⟨a, List.mem_of_find?_eq_some ha, rfl⟩⟩
    · cases h

/-! ### Identifiers of relations -/

/-- Both the table and the column of the field are in snake case. -/
structure FieldRef.Snake (r : FieldRef) : Prop where
  tableName : Name.Snake r.tableName
  columnName : Name.Snake r.columnName

theorem FieldRef.Camel.snake {r : FieldRef} (h : r.Camel) : r.Snake :=
  ⟨h.formatName.snake, h.fieldName.snake⟩

namespace FieldRef.Snake

variable {r q : FieldRef}

theorem joinColumn (h : r.Snake) : Name.Snake r.joinColumn :=
  (h.tableName.append (by decide)).append h.columnName.all

theorem constraintName (hr : r.Snake) (hq : q.Snake) : Name.Snake (r.constraintName q) :=
  ((((hr.tableName.append (by decide)).append hq.tableName.all).append (by decide)).append
    hr.columnName.all).append (by decide)

end FieldRef.Snake

namespace Declaration

variable {d : Declaration}

theorem snake_joinTableName (h : d.Camel) : Name.Snake d.joinTableName :=
  (h.first.snake.tableName.append (by decide)).append h.second.snake.tableName.all

theorem snake_joinConstraintName (h : d.Camel) {r : FieldRef} (hr : r.Snake) :
    Name.Snake (d.joinConstraintName r) :=
  (((snake_joinTableName h).append (by decide)).append hr.joinColumn.all).append (by decide)

/-- What is put together from names in snake case is in snake case. -/
theorem snake_identifiers (h : d.Camel) {i : String} (hi : i ∈ d.identifiers) : Name.Snake i := by
  unfold identifiers at hi
  split at hi
  · simp only [List.mem_cons, List.not_mem_nil, or_false] at hi
    obtain rfl | rfl | rfl | rfl | rfl := hi
    · exact snake_joinTableName h
    · exact h.first.snake.joinColumn
    · exact snake_joinConstraintName h h.first.snake
    · exact h.second.snake.joinColumn
    · exact snake_joinConstraintName h h.second.snake
  · obtain rfl := List.mem_singleton.mp hi
    exact h.second.snake.constraintName h.first.snake

end Declaration

namespace Admissible

variable {fs : List DataFormat} {ds : List Declaration} {d : Declaration} {f : DataFormat}

theorem plain_tableName (h : Admissible fs ds) (hf : f ∈ fs) : Name.Plain f.tableName :=
  (h.formatNames f hf).plain

theorem plain_columnNames (h : Admissible fs ds) (hf : f ∈ fs) :
    ∀ c ∈ f.columnNames, Name.Plain c :=
  List.forall_mem_map.mpr fun x hx => (h.fieldNames f hf x hx).plain

/-- The table and the column of an end are those of a declared field. -/
theorem plain_endpoint (h : Admissible fs ds) (hd : d ∈ ds) (side : Side) :
    Name.Plain (d.endpoint side).field.tableName ∧
      Name.Plain (d.endpoint side).field.columnName := by
  obtain ⟨f, hf, hn, x, hx, hm⟩ := h.fields d hd side
  rw [FieldRef.tableName, FieldRef.columnName, ← hn, ← hm]
  exact ⟨(h.formatNames f hf).plain, (h.fieldNames f hf x hx).plain⟩

theorem plain_identifiers (h : Admissible fs ds) (hd : d ∈ ds) :
    ∀ i ∈ d.identifiers, Name.Plain i :=
  fun i hi => ⟨Declaration.snake_identifiers (h.camel hd) hi, h.identifiers d hd i hi⟩

/-! ### Identifiers of tables -/

theorem plain_foreignKey (h : Admissible fs ds) (hd : d ∈ ds) (hm : d.shape ≠ .manyToMany)
    (o : SqlOptions) : ∀ i ∈ (d.foreignKey o).identifiers, Name.Plain i := by
  have hi := h.plain_identifiers hd
  rw [Declaration.identifiers, if_neg hm, List.forall_mem_singleton] at hi
  obtain ⟨hft, hfc⟩ := h.plain_endpoint hd .first
  obtain ⟨-, hsc⟩ := h.plain_endpoint hd .second
  exact Sql.ForeignKey.forall_identifiers.mpr ⟨hi, hsc, hft, hfc⟩

/-- The identifiers of a join table, end by end. -/
theorem plain_joinNames (h : Admissible fs ds) (hd : d ∈ ds) (hm : d.shape = .manyToMany) :
    Name.Plain d.joinTableName ∧ ∀ side, Name.Plain (d.endpoint side).field.joinColumn ∧
      Name.Plain (d.joinConstraintName (d.endpoint side).field) := by
  have hi := h.plain_identifiers hd
  simp only [Declaration.identifiers, if_pos hm, List.forall_mem_cons] at hi
  obtain ⟨ht, hc1, hn1, hc2, hn2, -⟩ := hi
  refine ⟨ht, fun side => ?_⟩
  cases side with
  | first => exact ⟨hc1, hn1⟩
  | second => exact ⟨hc2, hn2⟩

theorem plain_joinTable (h : Admissible fs ds) (hd : d ∈ ds) (hm : d.shape = .manyToMany)
    (o : SqlOptions) : ∀ i ∈ (d.joinTable o).identifiers, Name.Plain i := by
  obtain ⟨ht, hends⟩ := h.plain_joinNames hd hm
  have hkey : ∀ side, ∀ i ∈ (d.joinForeignKey o (d.endpoint side).field).identifiers,
      Name.Plain i := by
    intro side
    obtain ⟨hc, hn⟩ := hends side
    obtain ⟨hft, hfc⟩ := h.plain_endpoint hd side
    exact Sql.ForeignKey.forall_identifiers.mpr ⟨hn, hc, hft, hfc⟩
  refine Sql.CreateTable.forall_identifiers.mpr ⟨ht, ?_, ?_⟩
  · simp only [Declaration.joinTable, List.forall_mem_cons]
    exact ⟨Name.plain_id, (hends .first).1, (hends .second).1, nofun⟩
  · simp only [Declaration.joinTable, List.forall_mem_cons]
    exact ⟨hkey .first, hkey .second, nofun⟩

end Admissible

/-- A foreign key comes from a relation of a shape that has one. -/
theorem Declaration.of_foreignKey?_eq_some {d : Declaration} {o : SqlOptions} {k : Sql.ForeignKey}
    (h : (d.relation o).foreignKey? = some k) : d.shape ≠ .manyToMany ∧ k = d.foreignKey o := by
  by_cases ho : o.enableSql <;> by_cases hm : d.shape = .manyToMany <;>
    simp_all [relation, Relation.foreignKey?]

theorem Declaration.of_joinTable?_eq_some {d : Declaration} {o : SqlOptions} {t : Sql.CreateTable}
    (h : (d.relation o).joinTable? = some t) : d.shape = .manyToMany ∧ t = d.joinTable o := by
  by_cases ho : o.enableSql <;> by_cases hm : d.shape = .manyToMany <;>
    simp_all [relation, Relation.joinTable?]

namespace Admissible

variable {s : Schema} {ds : List Declaration} {f : DataFormat} {t : Sql.CreateTable}

theorem plain_createTable (h : Admissible s.formats ds)
    (hr : s.relations.toList = ds.map (·.relation s.options)) (hf : f ∈ s.formats) :
    ∀ i ∈ (s.createTable f).identifiers, Name.Plain i := by
  refine Sql.CreateTable.forall_identifiers.mpr
    ⟨h.plain_tableName hf, List.forall_mem_map.mpr (h.fieldNames f hf · · |>.plain), ?_⟩
  intro k hk
  obtain ⟨r, hrm, hk⟩ := List.mem_filterMap.mp hk
  have hrm := List.mem_of_mem_filter hrm
  rw [hr] at hrm
  obtain ⟨d, hd, rfl⟩ := List.mem_map.mp hrm
  obtain ⟨hm, rfl⟩ := Declaration.of_foreignKey?_eq_some hk
  exact h.plain_foreignKey hd hm _

theorem plain_joinTables (h : Admissible s.formats ds)
    (hr : s.relations.toList = ds.map (·.relation s.options)) (ht : t ∈ s.relations.joinTables) :
    ∀ i ∈ t.identifiers, Name.Plain i := by
  obtain ⟨r, hrm, ht⟩ := List.mem_filterMap.mp ht
  rw [hr] at hrm
  obtain ⟨d, hd, rfl⟩ := List.mem_map.mp hrm
  obtain ⟨hm, rfl⟩ := Declaration.of_joinTable?_eq_some ht
  exact h.plain_joinTable hd hm _

/-! ### Identifiers of row statements -/

theorem plain_route {d : Declaration} (h : Admissible s.formats ds) (hd : d ∈ ds) (side : Side) :
    ∀ i ∈ (d.route s.options (d.endpoint side).field (d.endpoint side.other).field).identifiers,
      Name.Plain i := by
  obtain ⟨-, hc⟩ := h.plain_endpoint hd side.other
  unfold Declaration.route
  split
  · rename_i hm
    obtain ⟨ht, hends⟩ := h.plain_joinNames hd hm
    simp only [Sql.Route.identifiers, List.forall_mem_cons]
    exact ⟨ht, (hends side.other).1, hc, (hends side).1, nofun⟩
  · exact List.forall_mem_singleton.mpr hc

theorem plain_query {d : Declaration} {side : Side} {p : AccessorPlan}
    (h : Admissible s.formats ds) (hd : d ∈ ds) (hl : p.Leads s.formats s.options d side) :
    ∀ i ∈ p.query.identifiers, Name.Plain i := by
  obtain ⟨f, hf, hq⟩ := hl.query
  obtain ⟨hf, -⟩ := DataFormat.of_find?_eq_some hf
  rw [hq]
  exact List.forall_mem_cons.mpr ⟨h.plain_tableName hf,
    List.forall_mem_append.mpr ⟨h.plain_columnNames hf, h.plain_route hd side⟩⟩

/-- Every statement that a store of the schema issues is the text of one whose identifiers are
plain. -/
theorem plain_issued {policy : DuplicatePolicy} {formatName : String} {t : Store} {sql : String}
    (h : Admissible s.formats ds) (hr : s.relations.toList = ds.map (·.relation s.options))
    (ht : Store.create s.formats s.relations.toList s.options policy formatName = .ok t)
    (hi : t.Issues sql) :
    ∃ q : Sql.Query, sql = q.render ∧ ∀ i ∈ q.identifiers, Name.Plain i := by
  obtain ⟨hf, -, hp, -, -⟩ := Store.of_create_eq_ok ht
  obtain ⟨hf, -⟩ := DataFormat.of_find?_eq_some hf
  obtain ⟨q, rfl, hq | ⟨a, ha, rfl⟩⟩ := hi.exists_query
  · refine ⟨q, rfl, fun i hi => ?_⟩
    obtain rfl | hc := hq i hi
    · exact h.plain_tableName hf
    · exact h.plain_columnNames hf i hc
  · obtain ⟨d, hd, side, -, hl⟩ := Schema.leads_of_mem_plans hr hp (List.mem_map_of_mem ha)
    exact ⟨_, rfl, h.plain_query hd hl⟩

end Admissible

/-- All that the SQL of a schema names are plain identifiers, with SQL enabled for relations or not:
the tables and columns of formats, the identifiers of relations, and so what the statements that
create tables and those that stores issue are made of. -/
theorem identifiers_plain (fs : List DataFormat) (ds : List Declaration) (o : SqlOptions)
    (s : Schema) (h : Schema.create fs ds o = .ok s) :
    (∀ f ∈ s.formats, Name.Plain f.tableName ∧ ∀ c ∈ f.columnNames, Name.Plain c) ∧
      (∀ d ∈ s.declarations, ∀ i ∈ d.identifiers, Name.Plain i) ∧
      (∀ t, (∃ f ∈ s.formats, t = s.createTable f) ∨ t ∈ s.relations.joinTables →
        ∀ i ∈ t.identifiers, Name.Plain i) ∧
      ∀ policy formatName t,
        Store.create s.formats s.relations.toList s.options policy formatName = .ok t →
        ∀ sql, t.Issues sql →
          ∃ q : Sql.Query, sql = q.render ∧ ∀ i ∈ q.identifiers, Name.Plain i := by
  obtain ⟨ha, rfl, hr, rfl⟩ := (Schema.create_eq_ok_iff fs ds o s).mp h
  have ha := ha.admissible
  refine ⟨fun f hf => ⟨ha.plain_tableName hf, ha.plain_columnNames hf⟩, ?_, ?_, ?_⟩
  · rw [Schema.declarations_eq hr]
    exact fun d hd => ha.plain_identifiers hd
  · rintro t (⟨f, hf, rfl⟩ | ht)
    · exact ha.plain_createTable hr hf
    · exact ha.plain_joinTables hr ht
  · exact fun policy formatName t ht sql hi => ha.plain_issued hr ht hi

/-- The longest identifiers of users and reviews are those of the constraints in the join table. -/
theorem identifiers_plain_reviewSchema :
    Schema.create reviewSchema.formats reviewing .standard = .ok reviewSchema ∧
      ∃ t ∈ reviewSchema.relations.joinTables,
        t.identifiers = ["review_to_user", "id", "review_id", "user_id",
          "review_to_user_review_id_fkey", "review_id", "review", "id",
          "review_to_user_user_id_fkey", "user_id", "user", "id"] ∧
        ∀ i ∈ t.identifiers, Name.Plain i := by
  obtain ⟨-, -, ht, -⟩ := identifiers_plain _ _ _ _ create_reviewSchema
  have hm : reviewSchema.relations.joinTables =
      [Declaration.joinTable (reviewing.getLast (by decide)) .standard] := by rfl
  have hj : ∀ t ∈ reviewSchema.relations.joinTables, ∀ i ∈ t.identifiers, Name.Plain i :=
    fun t h => ht t (.inr h)
  rw [hm] at hj ⊢
  exact ⟨create_reviewSchema, _, .head _, by rfl, hj _ (.head _)⟩

end Schemata
