import Schemata.Proofs.Accessors.Plans
import Schemata.Proofs.Tables.ForeignKeys

/-!
What the statements of accessors read. Statements are made from the fields of relations, and tables
from formats and relations, apart from each other. In an accepted schema they meet: a statement
selects all columns of one created table and compares a column of that table, and where it goes by
way of a join table, that is created too, and its two columns in the statement are those of its two
foreign keys.
-/
namespace Schemata

namespace Sql.CreateTable

def columnNames (t : CreateTable) : List String := t.columns.map (·.name)

/-- The statement for rows `r` of the table, as far as the table. -/
def selection (t : CreateTable) : String :=
  "SELECT " ++ commaList (t.columnNames.map fun c => "r." ++ c) ++ " FROM " ++ t.name.render ++ " r"

end Sql.CreateTable

namespace AccessorPlan

/-- The statement of the plan selects the rows of the table `t` by one of its columns. -/
structure Compares (p : AccessorPlan) (t : Sql.CreateTable) (column : String) : Prop where
  mem_columns : column ∈ t.columnNames
  query : p.query = .related t.name t.columnNames (.direct column)
  text : p.query.render = t.selection ++ (" WHERE r." ++ column ++ " = $1")

/-- The statement of the plan selects the rows of the table `t` by way of the join table `j`. The
row of `j` meets the row of `t` by the foreign key `link` and holds the value in the column of the
foreign key `value`. -/
structure Joins (p : AccessorPlan) (t j : Sql.CreateTable) (link value : Sql.ForeignKey) :
    Prop where
  /-- The join table has these two foreign keys and no other. -/
  foreignKeys : j.foreignKeys.Perm [link, value]
  columns_ne : link.column ≠ value.column
  link_mem : link.column ∈ j.columnNames
  value_mem : value.column ∈ j.columnNames
  target : link.target = t.name
  target_mem : link.targetColumn ∈ t.columnNames
  query : p.query = .related t.name t.columnNames
    (.through j.name link.column link.targetColumn value.column)
  text : p.query.render = t.selection ++ (" JOIN " ++ j.name.render ++ " j ON j." ++ link.column ++
    " = r." ++ link.targetColumn ++ " WHERE j." ++ value.column ++ " = $1")

/-- The statement of the plan reads the created table `t` and, for a many-to-many relation, one of
the join tables `js`. -/
def Reads (p : AccessorPlan) (t : Sql.CreateTable) (js : List Sql.CreateTable) : Prop :=
  if p.role.shape = .manyToMany then ∃ j ∈ js, ∃ link value, p.Joins t j link value
  else ∃ column, p.Compares t column

end AccessorPlan

theorem Schema.columnNames_createTable (s : Schema) (f : DataFormat) :
    (s.createTable f).columnNames = f.columnNames := by
  simp [Sql.CreateTable.columnNames, createTable, DataFormat.createTable, DataFormat.columnNames,
    Field.column, Function.comp_def]

/-- What is created are the tables of all formats and the join tables. -/
theorem Schema.mem_tables_iff {s : Schema} (hn : (s.formats.map (·.name)).Nodup)
    {ts : List Sql.CreateTable} (h : s.tables = .ok ts) (t : Sql.CreateTable) :
    t ∈ ts ↔ (∃ f ∈ s.formats, t = s.createTable f) ∨ t ∈ s.relations.joinTables := by
  obtain ⟨gs, hg, rfl⟩ := (s.tables_eq_ok_iff ts).mp h
  obtain ⟨order, ho, -⟩ := bind_eq_ok_iff.mp hg
  have hp : gs.Perm s.formats := orderedFormats_perm hn ho hg
  simp only [tablesOf, List.mem_append, List.mem_map, hp.mem_iff, eq_comm]

namespace Accepted

variable {fs : List DataFormat} {ds : List Declaration}

/-- The field on an end is one of the columns of its format's table. -/
theorem columnName_mem (h : Accepted fs ds) {d : Declaration} (hd : d ∈ ds) (side : Side)
    {f : DataFormat} (hf : f ∈ fs) (hn : f.name = (d.endpoint side).field.formatName) :
    (d.endpoint side).field.columnName ∈ f.columnNames := by
  obtain ⟨g, hg, hgn, x, hx, hxn⟩ := h.exists_field hd side
  obtain rfl : f = g := List.inj_on_of_nodup_map h.formatNames hf hg (hn.trans hgn.symm)
  rw [FieldRef.columnName, ← hxn]
  exact List.mem_map_of_mem hx

end Accepted

namespace Declaration

variable {d : Declaration} {o : SqlOptions}

/-- The two foreign keys of a join table, that of either end in front. -/
theorem foreignKeys_joinTable (d : Declaration) (o : SqlOptions) (side : Side) :
    (d.joinTable o).foreignKeys.Perm
      [d.joinForeignKey o (d.endpoint side).field,
        d.joinForeignKey o (d.endpoint side.other).field] := by
  cases side with
  | first => exact .refl _
  | second => exact .swap _ _ _

theorem joinColumn_mem (d : Declaration) (o : SqlOptions) (side : Side) :
    (d.endpoint side).field.joinColumn ∈ (d.joinTable o).columnNames := by
  cases side <;> simp [Sql.CreateTable.columnNames, joinTable, joinColumnDefinition, endpoint]

theorem joinColumn_ne (h : d.first.field.joinColumn ≠ d.second.field.joinColumn) (side : Side) :
    (d.endpoint side).field.joinColumn ≠ (d.endpoint side.other).field.joinColumn := by
  cases side with
  | first => exact h
  | second => exact h.symm

end Declaration

namespace AccessorPlan.Leads

variable {s : Schema} {ds : List Declaration} {d : Declaration} {side : Side} {p : AccessorPlan}

/-- What a plan selects is the table of the format on the far end. -/
theorem exists_table (h : p.Leads s.formats s.options d side) :
    ∃ f ∈ s.formats, f.name = p.target ∧
      p.query = .related (s.createTable f).name (s.createTable f).columnNames
        (d.route s.options (d.endpoint side).field (d.endpoint side.other).field) := by
  obtain ⟨f, hf, hq⟩ := h.query
  obtain ⟨hm, hn⟩ := DataFormat.of_find?_eq_some hf
  exact ⟨f, hm, hn, by rw [hq, s.columnNames_createTable]; rfl⟩

theorem compares (h : p.Leads s.formats s.options d side) (ha : Accepted s.formats ds)
    (hd : d ∈ ds) (hm : d.shape ≠ .manyToMany) :
    ∃ f ∈ s.formats, f.name = p.target ∧
      p.Compares (s.createTable f) (d.endpoint side.other).field.columnName := by
  obtain ⟨f, hf, hn, hq⟩ := h.exists_table
  rw [Declaration.route, if_neg hm] at hq
  refine ⟨f, hf, hn, ?_, hq, by rw [hq]; rfl⟩
  rw [s.columnNames_createTable]
  exact ha.columnName_mem hd side.other hf (hn.trans h.target)

/-- The far end is what the row of the join table meets, and the near end has the value. -/
theorem joins (h : p.Leads s.formats s.options d side) (ha : Accepted s.formats ds)
    (hd : d ∈ ds) (hm : d.shape = .manyToMany) :
    ∃ f ∈ s.formats, f.name = p.target ∧
      p.Joins (s.createTable f) (d.joinTable s.options)
        (d.joinForeignKey s.options (d.endpoint side.other).field)
        (d.joinForeignKey s.options (d.endpoint side).field) := by
  obtain ⟨f, hf, hn, hq⟩ := h.exists_table
  rw [Declaration.route, if_pos hm] at hq
  have hname : f.name = (d.endpoint side.other).field.formatName := hn.trans h.target
  refine ⟨f, hf, hn, (d.foreignKeys_joinTable s.options side).trans (.swap _ _ _), ?_,
    d.joinColumn_mem _ _, d.joinColumn_mem _ _, s.qualify_tableName hname, ?_, hq, by rw [hq]; rfl⟩
  · exact (Declaration.joinColumn_ne ((ha.declarations d hd).joinColumns hm) side).symm
  · rw [s.columnNames_createTable]
    exact ha.columnName_mem hd side.other hf hname

theorem reads (h : p.Leads s.formats s.options d side) (ha : Accepted s.formats ds)
    (hr : s.relations.toList = ds.map (·.relation s.options))
    (ho : s.options.enableSql = true) (hd : d ∈ ds) :
    ∃ f ∈ s.formats, f.name = p.target ∧ p.Reads (s.createTable f) s.relations.joinTables := by
  have hshape : p.role.shape = d.shape := by rw [h.role]
  by_cases hm : d.shape = .manyToMany
  · obtain ⟨f, hf, hn, hj⟩ := h.joins ha hd hm
    have hmem : d.joinTable s.options ∈ s.relations.joinTables := by
      rw [Relations.joinTables_eq ho hr]
      exact List.mem_map_of_mem (List.mem_filter.mpr ⟨hd, by simpa using hm⟩)
    refine ⟨f, hf, hn, ?_⟩
    rw [Reads, if_pos (hshape.trans hm)]
    exact ⟨_, hmem, _, _, hj⟩
  · obtain ⟨f, hf, hn, hc⟩ := h.compares ha hd hm
    refine ⟨f, hf, hn, ?_⟩
    rw [Reads, if_neg fun he => hm (hshape.symm.trans he)]
    exact ⟨_, hc⟩

end AccessorPlan.Leads

/-- In an accepted schema with SQL enabled every statement of an accessor, under any policy, reads
the table of the format that the accessor leads to, and for a many-to-many relation a join table.
All of these are among the tables that are created. -/
theorem plans_read_created_tables (fs : List DataFormat) (ds : List Declaration) (o : SqlOptions)
    (s : Schema) (policy : DuplicatePolicy) (formatName : String) (plans : List AccessorPlan)
    (h : Schema.create fs ds o = .ok s) (ho : o.enableSql = true)
    (hp : s.plans policy formatName = .ok plans) :
    (∀ p ∈ plans, ∃ f ∈ s.formats, f.name = p.target ∧
      p.Reads (s.createTable f) s.relations.joinTables) ∧
    (∀ f ∈ s.formats, (s.createTable f).columnNames = f.fields.map (·.columnName)) ∧
    ∀ ts, s.tables = .ok ts →
      ∀ t, t ∈ ts ↔ (∃ f ∈ s.formats, t = s.createTable f) ∨ t ∈ s.relations.joinTables := by
  obtain ⟨ha, rfl, hr, rfl⟩ := (Schema.create_eq_ok_iff fs ds o s).mp h
  refine ⟨fun p hpm => ?_, fun f _ => s.columnNames_createTable f,
    fun ts ht => Schema.mem_tables_iff ha.formatNames ht⟩
  obtain ⟨d, hd, side, -, hl⟩ := Schema.leads_of_mem_plans hr hp hpm
  exact hl.reads ha hr ho hd

/-- Users lead to themselves by two accessors, to reviews by two, and of the latter one goes by way
of the join table. -/
theorem plans_read_reviewSchema :
    ∃ plans, Schema.create reviewSchema.formats reviewing .standard = .ok reviewSchema ∧
      SqlOptions.standard.enableSql = true ∧
      reviewSchema.plans .overwrite "user" = .ok plans ∧
      (reviewSchema.plans .overwrite "user").map (List.map (·.query.render)) = .ok
        ["SELECT r.id, r.inviter_id FROM public.user r WHERE r.inviter_id = $1",
          "SELECT r.id, r.inviter_id FROM public.user r WHERE r.id = $1",
          "SELECT r.id, r.user_id FROM public.review r WHERE r.user_id = $1",
          "SELECT r.id, r.user_id FROM public.review r JOIN public.review_to_user j " ++
            "ON j.review_id = r.id WHERE j.user_id = $1"] ∧
      ∀ p ∈ plans, ∃ f ∈ reviewSchema.formats, f.name = p.target ∧
        p.Reads (reviewSchema.createTable f) reviewSchema.relations.joinTables := by
  obtain ⟨plans, hp⟩ : ∃ plans, reviewSchema.plans .overwrite "user" = .ok plans := ⟨_, rfl⟩
  obtain ⟨hreads, -, -⟩ := plans_read_created_tables _ _ _ _ _ _ _ create_reviewSchema rfl hp
  exact ⟨plans, create_reviewSchema, rfl, hp, by rfl, hreads⟩

end Schemata
