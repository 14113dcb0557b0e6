import Schemata.Proofs.Tables.Names
import Schemata.Proofs.Tables.Statements

/-!
Where foreign keys stand. The relations that are selected for a format's table, the clauses they
carry and the edges by which formats are ordered all say the same about who holds a key: the format
of the second end. So each clause stands in one table, a table refers to tables before it or to
itself, and it is dropped before the tables it refers to.
-/
namespace Schemata

/-! ### Keys and join tables between two fields -/

namespace SqlOptions

/-- The key by which the field `x` of `f` refers to the field `y` of `g`. -/
def keyBetween (o : SqlOptions) (g : DataFormat) (y : Field) (f : DataFormat) (x : Field) :
    Sql.ForeignKey where
  constraint := f.tableName ++ "_to_" ++ g.tableName ++ "_" ++ x.columnName ++ "_fkey"
  column := x.columnName
  target := ⟨o.schema, g.tableName⟩
  targetColumn := y.columnName

/-- The table that joins the field `y` of `g` and the field `x` of `f`. -/
def tableBetween (o : SqlOptions) (g : DataFormat) (y : Field) (f : DataFormat) (x : Field) :
    Sql.CreateTable :=
  let table := g.tableName ++ "_to_" ++ f.tableName
  let column (h : DataFormat) (z : Field) : String := h.tableName ++ "_" ++ z.columnName
  let key (h : DataFormat) (z : Field) : Sql.ForeignKey :=
    ⟨table ++ "_" ++ column h z ++ "_fkey", column h z, ⟨o.schema, h.tableName⟩, z.columnName⟩
  { kind := .join
    name := ⟨o.schema, table⟩
    columns :=
      [⟨"id", "SERIAL", true, false, false⟩, ⟨column g y, "integer", false, false, false⟩,
        ⟨column f x, "integer", false, false, false⟩]
    foreignKeys := [key g y, key f x]
    tablespace := o.tablespace
    owner := o.owner }

end SqlOptions

/-- The key stands on a column of the table `t` and refers to a column of the table `u`. -/
structure Sql.ForeignKey.PointsTo (k : Sql.ForeignKey) (t u : Sql.CreateTable) : Prop where
  column : k.column ∈ t.columns.map (·.name)
  target : k.target = u.name
  targetColumn : k.targetColumn ∈ u.columns.map (·.name)

/-- The ends of the relation are the field `y` of `g` and the field `x` of `f`. -/
structure Declaration.Between (fs : List DataFormat) (d : Declaration) (g : DataFormat) (y : Field)
    (f : DataFormat) (x : Field) : Prop where
  first : d.first.field = ⟨g.name, y.name⟩
  second : d.second.field = ⟨f.name, x.name⟩
  firstFormat : g ∈ fs
  firstField : y ∈ g.fields
  secondFormat : f ∈ fs
  secondField : x ∈ f.fields

theorem Accepted.exists_between {fs : List DataFormat} {ds : List Declaration}
    (h : Accepted fs ds) {d : Declaration} (hd : d ∈ ds) : ∃ g y f x, d.Between fs g y f x := by
  obtain ⟨g, hg, hgn, y, hy, hyn⟩ := h.exists_field hd .first
  obtain ⟨f, hf, hfn, x, hx, hxn⟩ := h.exists_field hd .second
  exact ⟨g, y, f, x, by rw [hgn, hyn]; rfl, by rw [hfn, hxn]; rfl, hg, hy, hf, hx⟩

namespace Declaration.Between

variable {fs : List DataFormat} {d : Declaration} {g f : DataFormat} {y x : Field}

theorem foreignKey_eq (h : d.Between fs g y f x) (o : SqlOptions) :
    d.foreignKey o = o.keyBetween g y f x := by
  rw [foreignKey, h.first, h.second]
  rfl

theorem joinTable_eq (h : d.Between fs g y f x) (o : SqlOptions) :
    d.joinTable o = o.tableBetween g y f x := by
  simp only [joinTable, joinForeignKey, joinColumnDefinition, joinConstraintName, joinTableName,
    FieldRef.joinColumn, h.first, h.second]
  rfl

end Declaration.Between

namespace Declaration

/-- The second end of the relation lies on the format, and the key on its table. -/
def HeldBy (d : Declaration) (formatName : String) : Prop :=
  d.shape ≠ .manyToMany ∧ d.second.field.formatName = formatName

instance (d : Declaration) (formatName : String) : Decidable (d.HeldBy formatName) :=
  inferInstanceAs (Decidable (_ ∧ _))

variable {o : SqlOptions}

/-- The selection of relations for a table. -/
theorem imposesOn_relation (d : Declaration) (o : SqlOptions) (formatName : String) :
    (d.relation o).imposesOn formatName = decide (d.HeldBy formatName) := by
  by_cases hm : d.shape = .manyToMany <;>
    simp [Relation.imposesOn, holder?, HeldBy, hm, beq_eq_decide]

/-- The clauses that relations carry. -/
theorem foreignKey?_relation (d : Declaration) (ho : o.enableSql = true) :
    (d.relation o).foreignKey? = if d.shape = .manyToMany then none else some (d.foreignKey o) := by
  by_cases hm : d.shape = .manyToMany <;> simp [relation, Relation.foreignKey?, ho, hm]

/-- The edges between formats. -/
theorem orders_relation_iff (d : Declaration) (ho : o.enableSql = true) (a b : String) :
    (d.relation o).Orders a b ↔
      d.shape ≠ .manyToMany ∧ d.first.field.formatName = a ∧ d.second.field.formatName = b ∧
        a ≠ b := by
  by_cases hm : d.shape = .manyToMany <;>
    simp [Relation.Orders, foreignKey?_relation d ho, referenced?, holder?, hm]

/-- Of two keys on one column that refer to one table, the constraints tell the tables apart. -/
theorem holder_of_foreignKey_eq {d e : Declaration} (h : d.foreignKey o = e.foreignKey o) :
    d.second.field.tableName = e.second.field.tableName := by
  simp only [foreignKey, Sql.ForeignKey.mk.injEq, SqlOptions.qualify_inj] at h
  obtain ⟨hc, hcol, ht, -⟩ := h
  rw [FieldRef.constraintName, FieldRef.constraintName, hcol, ht] at hc
  simpa [String.ext_iff, toString] using hc

end Declaration

namespace Schema

variable {s : Schema} {ds : List Declaration} {gs : List DataFormat}

/-- The table that a reference to a field of the format means. -/
theorem qualify_tableName (s : Schema) {f : DataFormat} {r : FieldRef}
    (hn : f.name = r.formatName) :
    s.options.qualify r.tableName = (s.createTable f).name := by
  rw [createTable, DataFormat.createTable, DataFormat.tableName, FieldRef.tableName, hn]

/-- A table in sequence is that of a format, at the place of the format, or a join table behind
all of them. -/
theorem of_getElem?_tablesOf {i : Nat} {t : Sql.CreateTable} (hi : (s.tablesOf gs)[i]? = some t) :
    (∃ f, gs[i]? = some f ∧ t = s.createTable f) ∨
      (gs.length ≤ i ∧ t ∈ s.relations.joinTables) := by
  rcases Nat.lt_or_ge i gs.length with hlt | hge
  · rw [tablesOf, List.getElem?_append_left (by simpa using hlt), List.getElem?_map] at hi
    obtain ⟨f, hf, rfl⟩ := Option.map_eq_some_iff.mp hi
    exact .inl ⟨f, hf, rfl⟩
  · rw [tablesOf, List.getElem?_append_right (by simpa using hge)] at hi
    exact .inr ⟨hge, List.mem_of_getElem? hi⟩

theorem getElem?_tablesOf {j : Nat} {f : DataFormat} (hj : gs[j]? = some f) :
    (s.tablesOf gs)[j]? = some (s.createTable f) := by
  obtain ⟨hlt, rfl⟩ := List.getElem?_eq_some_iff.mp hj
  rw [tablesOf, List.getElem?_append_left (by simpa using hlt), List.getElem?_map, hj,
    Option.map_some]

/-- The clauses of a format's table are those of the relations it holds, as they are declared. -/
theorem foreignKeys_createTable (hr : s.relations.toList = ds.map (·.relation s.options))
    (ho : s.options.enableSql = true) (f : DataFormat) :
    (s.createTable f).foreignKeys =
      (ds.filter (·.HeldBy f.name)).map (·.foreignKey s.options) := by
  simp only [createTable, DataFormat.createTable, Relations.imposingOn, hr,
    List.filter_map, List.filterMap_map, Function.comp_def, Declaration.imposesOn_relation]
  rw [← List.filterMap_eq_map']
  refine List.filterMap_congr fun d hd => ?_
  have hm : d.HeldBy f.name := by simpa using (List.mem_filter.mp hd).2
  rw [Declaration.foreignKey?_relation d ho, if_neg hm.1]

/-- The key between two fields stands on a column of one table and refers to one of the other. -/
theorem pointsTo_keyBetween (s : Schema) {g f : DataFormat} {y x : Field} (hy : y ∈ g.fields)
    (hx : x ∈ f.fields) :
    (s.options.keyBetween g y f x).PointsTo (s.createTable f) (s.createTable g) where
  column := List.mem_map.mpr ⟨x.column, List.mem_map_of_mem hx, rfl⟩
  target := rfl
  targetColumn := List.mem_map.mpr ⟨y.column, List.mem_map_of_mem hy, rfl⟩

/-- Each key of a join table stands on one of its columns and refers to the field on one end. -/
theorem exists_pointsTo_tableBetween (s : Schema) {d : Declaration} {g f : DataFormat} {y x : Field}
    (hb : d.Between s.formats g y f x) {k : Sql.ForeignKey}
    (hk : k ∈ (s.options.tableBetween g y f x).foreignKeys) :
    ∃ e z, e ∈ s.formats ∧ z ∈ e.fields ∧
      k.PointsTo (s.options.tableBetween g y f x) (s.createTable e) := by
  have hcolumn : ∀ {e : DataFormat} {z : Field}, z ∈ e.fields →
      z.columnName ∈ (s.createTable e).columns.map (·.name) :=
    fun {e z} hz => List.mem_map.mpr ⟨z.column, List.mem_map_of_mem hz, rfl⟩
  simp only [SqlOptions.tableBetween, List.mem_cons, List.not_mem_nil, or_false] at hk
  rcases hk with rfl | rfl
  · exact ⟨g, y, hb.firstFormat, hb.firstField, .tail _ (.head _), rfl, hcolumn hb.firstField⟩
  · exact ⟨f, x, hb.secondFormat, hb.secondField, .tail _ (.tail _ (.head _)), rfl,
      hcolumn hb.secondField⟩

/-- An accepted schema with SQL enabled, and its formats in the order of provisioning. -/
structure Sequence (s : Schema) (ds : List Declaration) (gs : List DataFormat) : Prop where
  accepted : Accepted s.formats ds
  relations : s.relations.toList = ds.map (·.relation s.options)
  enabled : s.options.enableSql = true
  perm : gs.Perm s.formats
  precedes : ∀ a b, Precedes s.relations.toList a b →
    (gs.map (·.name)).idxOf a < (gs.map (·.name)).idxOf b

theorem exists_sequence {fs : List DataFormat} {o : SqlOptions} {order : List String}
    (h : Schema.create fs ds o = .ok s) (ho : o.enableSql = true)
    (hp : s.provisioningOrder = .ok order) :
    ∃ gs, s.Sequence ds gs ∧ s.orderedFormats = .ok gs := by
  obtain ⟨ha, rfl, hr, rfl⟩ := (create_eq_ok_iff fs ds o s).mp h
  obtain ⟨gs, hg⟩ := exists_orderedFormats hp
  obtain ⟨hname, -⟩ := orderedFormats_spec hp hg
  refine ⟨gs, ⟨ha, hr, ho, orderedFormats_perm ha.formatNames hp hg, ?_⟩, hg⟩
  rw [hname]
  exact (leastArrangement_of_eq_ok hp).precedes

namespace Sequence

theorem mem_foreignKeys (h : s.Sequence ds gs) (f : DataFormat) (k : Sql.ForeignKey) :
    k ∈ (s.createTable f).foreignKeys ↔
      ∃ d ∈ ds, d.HeldBy f.name ∧ k = d.foreignKey s.options := by
  rw [foreignKeys_createTable h.relations h.enabled, List.mem_map]
  constructor
  · rintro ⟨d, hd, rfl⟩
    obtain ⟨hd, hm⟩ := List.mem_filter.mp hd
    exact ⟨d, hd, by simpa using hm, rfl⟩
  · rintro ⟨d, hd, hm, rfl⟩
    exact ⟨d, List.mem_filter.mpr ⟨hd, by simpa using hm⟩, rfl⟩

theorem mem_joinTables (h : s.Sequence ds gs) {t : Sql.CreateTable}
    (ht : t ∈ s.relations.joinTables) : ∃ d ∈ ds, t = d.joinTable s.options := by
  rw [Relations.joinTables_eq h.enabled h.relations] at ht
  obtain ⟨d, hd, rfl⟩ := List.mem_map.mp ht
  exact ⟨d, (List.mem_filter.mp hd).1, rfl⟩

theorem nodup_names (h : s.Sequence ds gs) : (gs.map (·.name)).Nodup :=
  (h.perm.map _).nodup_iff.mpr h.accepted.formatNames

/-- The place of a format is that of its name. -/
theorem idxOf_name (h : s.Sequence ds gs) {i : Nat} {f : DataFormat} (hi : gs[i]? = some f) :
    (gs.map (·.name)).idxOf f.name = i := by
  obtain ⟨hlt, rfl⟩ := List.getElem?_eq_some_iff.mp hi
  have hn := h.nodup_names.idxOf_getElem i (by simpa using hlt)
  simpa using hn

/-- No other table in sequence is of the kind of a format's. -/
theorem of_kind_entity (h : s.Sequence ds gs) {i : Nat} {t : Sql.CreateTable}
    (hi : (s.tablesOf gs)[i]? = some t) (hk : t.kind = .entity) :
    ∃ f, gs[i]? = some f ∧ t = s.createTable f := by
  refine (of_getElem?_tablesOf hi).resolve_right fun ⟨_, hm⟩ => ?_
  obtain ⟨d, -, rfl⟩ := h.mem_joinTables hm
  cases hk

/-- The table of a format stands at the place of the format only. -/
theorem place_of_createTable (h : s.Sequence ds gs) {j : Nat} {f : DataFormat}
    (hf : f ∈ s.formats) (hj : (s.tablesOf gs)[j]? = some (s.createTable f)) :
    gs[j]? = some f := by
  obtain ⟨g, hg, he⟩ := h.of_kind_entity hj rfl
  have ht : f.tableName = g.tableName :=
    (s.options.qualify_inj _ _).mp (congrArg Sql.CreateTable.name he)
  have hgf : g ∈ s.formats := h.perm.mem_iff.mp (List.mem_of_getElem? hg)
  rw [hg, h.accepted.eq_of_tableName hf hgf ht]

theorem eq_of_getElem? (h : s.Sequence ds gs) {i j : Nat} {f g : DataFormat}
    (hi : gs[i]? = some f) (hj : gs[j]? = some g) (hn : f.name = g.name) : i = j := by
  rw [← h.idxOf_name hi, ← h.idxOf_name hj, hn]

/-- The format on the second end of a relation is the one that the end names. -/
theorem eq_of_second (h : s.Sequence ds gs) {d : Declaration} {f f' g : DataFormat} {y x : Field}
    (hb : d.Between s.formats g y f' x) (hf : f ∈ s.formats)
    (hn : d.second.field.formatName = f.name) : f' = f := by
  rw [hb.second] at hn
  exact List.inj_on_of_nodup_map h.accepted.formatNames hb.secondFormat hf hn

/-- A relation that a format holds has its second end on a field of the format. -/
theorem exists_between (h : s.Sequence ds gs) {f : DataFormat} (hf : f ∈ s.formats)
    {d : Declaration} (hd : d ∈ ds) (hh : d.HeldBy f.name) :
    ∃ g y x, d.Between s.formats g y f x := by
  obtain ⟨g, y, f', x, hb⟩ := h.accepted.exists_between hd
  obtain rfl := h.eq_of_second hb hf hh.2
  exact ⟨g, y, x, hb⟩

theorem mem_of_getElem? (h : s.Sequence ds gs) {i : Nat} {f : DataFormat}
    (hi : gs[i]? = some f) : f ∈ s.formats :=
  h.perm.mem_iff.mp (List.mem_of_getElem? hi)

theorem exists_getElem? (h : s.Sequence ds gs) {f : DataFormat} (hf : f ∈ s.formats) :
    ∃ i : Nat, gs[i]? = some f :=
  List.mem_iff_getElem?.mp (h.perm.mem_iff.mpr hf)

/-- The key that a format holds refers to a table before its own, or to its own. -/
theorem le_of_between (h : s.Sequence ds gs) {i j : Nat} {f g : DataFormat} {y x : Field}
    (hi : gs[i]? = some f) (hj : gs[j]? = some g) {d : Declaration} (hd : d ∈ ds)
    (hm : d.shape ≠ .manyToMany) (hb : d.Between s.formats g y f x) :
    j < i ∨ j = i ∧ g = f := by
  by_cases he : g.name = f.name
  · exact .inr ⟨h.eq_of_getElem? hj hi he,
      List.inj_on_of_nodup_map h.accepted.formatNames hb.firstFormat hb.secondFormat he⟩
  · have hp : Precedes s.relations.toList g.name f.name := by
      refine ⟨d.relation s.options, ?_, ?_⟩
      · rw [h.relations]
        exact List.mem_map_of_mem hd
      · rw [d.orders_relation_iff h.enabled, hb.first, hb.second]
        exact ⟨hm, rfl, rfl, he⟩
    have hlt := h.precedes _ _ hp
    rw [h.idxOf_name hj, h.idxOf_name hi] at hlt
    exact .inl hlt

/-- The table of a format that a table refers to stands before it, or is the table itself. -/
theorem exists_referenced (h : s.Sequence ds gs) {i : Nat} {t : Sql.CreateTable}
    (hi : (s.tablesOf gs)[i]? = some t) {k : Sql.ForeignKey} (hk : k ∈ t.foreignKeys) :
    ∃ (j : Nat) (f : DataFormat), gs[j]? = some f ∧ k.PointsTo t (s.createTable f) ∧
      (j < i ∨ j = i ∧ ∃ d ∈ ds, ∃ y x, d.Between s.formats f y f x ∧
        k = s.options.keyBetween f y f x) := by
  rcases of_getElem?_tablesOf hi with ⟨f, hf, rfl⟩ | ⟨hge, hm⟩
  · obtain ⟨d, hd, hh, rfl⟩ := (h.mem_foreignKeys f k).mp hk
    obtain ⟨g, y, x, hb⟩ := h.exists_between (h.mem_of_getElem? hf) hd hh
    obtain ⟨j, hj⟩ := h.exists_getElem? hb.firstFormat
    refine ⟨j, g, hj, ?_, ?_⟩
    · rw [hb.foreignKey_eq]
      exact s.pointsTo_keyBetween hb.firstField hb.secondField
    · refine (h.le_of_between hf hj hd hh.1 hb).imp_right ?_
      rintro ⟨rfl, rfl⟩
      exact ⟨rfl, d, hd, y, x, hb, hb.foreignKey_eq _⟩
  · obtain ⟨d, hd, rfl⟩ := h.mem_joinTables hm
    obtain ⟨g, y, f, x, hb⟩ := h.accepted.exists_between hd
    rw [hb.joinTable_eq] at hk ⊢
    obtain ⟨e, z, he, hz, hp⟩ := s.exists_pointsTo_tableBetween hb hk
    obtain ⟨j, hj⟩ := h.exists_getElem? he
    obtain ⟨hlt, -⟩ := List.getElem?_eq_some_iff.mp hj
    exact ⟨j, e, hj, hp, .inl (Nat.lt_of_lt_of_le hlt hge)⟩

/-- Two formats hold one key only if they have one table. -/
theorem eq_of_mem_foreignKeys (h : s.Sequence ds gs) {i j : Nat} {f g : DataFormat}
    (hi : gs[i]? = some f) (hj : gs[j]? = some g) {k : Sql.ForeignKey}
    (hf : k ∈ (s.createTable f).foreignKeys) (hg : k ∈ (s.createTable g).foreignKeys) : i = j := by
  obtain ⟨d, -, ⟨-, hd⟩, rfl⟩ := (h.mem_foreignKeys f k).mp hf
  obtain ⟨e, -, ⟨-, he⟩, hk⟩ := (h.mem_foreignKeys g _).mp hg
  have ht : f.tableName = g.tableName := by
    have ht := Declaration.holder_of_foreignKey_eq hk
    rwa [FieldRef.tableName, FieldRef.tableName, hd, he] at ht
  exact h.eq_of_getElem? hi hj
    (congrArg _ (h.accepted.eq_of_tableName (h.mem_of_getElem? hi) (h.mem_of_getElem? hj) ht))

/-- A table of a format that another table refers to stands before that. -/
theorem lt_of_target (h : s.Sequence ds gs) {i j : Nat} {t : Sql.CreateTable} {f : DataFormat}
    {k : Sql.ForeignKey} (hi : (s.tablesOf gs)[i]? = some t) (hf : f ∈ s.formats)
    (hj : (s.tablesOf gs)[j]? = some (s.createTable f)) (hij : i ≠ j) (hk : k ∈ t.foreignKeys)
    (ht : k.target = (s.createTable f).name) : j < i := by
  obtain ⟨j', g, hj', hp, hlt⟩ := h.exists_referenced hi hk
  have hgf : g = f := h.accepted.eq_of_tableName (h.mem_of_getElem? hj') hf
    ((s.options.qualify_inj _ _).mp (hp.target.symm.trans ht))
  subst hgf
  obtain rfl := h.eq_of_getElem? hj' (h.place_of_createTable hf hj) rfl
  exact hlt.resolve_right fun he => hij he.1.symm

end Sequence

/-- Where the clauses stand in tables that are created in the order `ts` and dropped in the order
`drops`. -/
structure ClausesInOrder (s : Schema) (ds : List Declaration) (ts : List Sql.CreateTable)
    (drops : List Sql.TableName) : Prop where
  /-- The table of a format has the columns of its fields and the keys of the relations whose second
  end lies on it, as they are declared. -/
  formats : ∀ f ∈ s.formats, ∃ keys,
    List.Forall₂
        (fun d k => ∃ g y x, d.Between s.formats g y f x ∧ k = s.options.keyBetween g y f x)
        (ds.filter fun d => d.shape ≠ .manyToMany ∧ d.second.field.formatName = f.name) keys ∧
      s.createTable f =
        { kind := .entity
          name := ⟨s.options.schema, f.tableName⟩
          columns := f.fields.map fun x =>
            ⟨x.columnName, x.dataType.sqlType x.maxLength, x.dataType = .serial, x.allowNull,
              x.unique⟩
          foreignKeys := keys
          tablespace := s.options.tablespace
          owner := s.options.owner }
  /-- Each many-to-many relation has its join table, as they are declared. -/
  joins : List.Forall₂
    (fun d t => ∃ g y f x, d.Between s.formats g y f x ∧ t = s.options.tableBetween g y f x)
    (ds.filter (·.shape = .manyToMany)) s.relations.joinTables
  /-- The clause of a relation stands in the table of its holder and in that of no other format. -/
  once : ∀ d ∈ ds, d.shape ≠ .manyToMany →
    ∃ g y f x, d.Between s.formats g y f x ∧ ∃ i : Nat, ts[i]? = some (s.createTable f) ∧
      s.options.keyBetween g y f x ∈ (s.createTable f).foreignKeys ∧
      ∀ (j : Nat) t, ts[j]? = some t → t.kind = .entity →
        s.options.keyBetween g y f x ∈ t.foreignKeys → j = i
  /-- A table is referred to by tables behind it, or by itself in a relation within one format. -/
  earlier : ∀ (i : Nat) t k, ts[i]? = some t → k ∈ t.foreignKeys →
    ∃ (j : Nat) (f : DataFormat), f ∈ s.formats ∧ ts[j]? = some (s.createTable f) ∧
      k.PointsTo t (s.createTable f) ∧
      (j < i ∨ j = i ∧ ∃ d ∈ ds, ∃ y x, d.Between s.formats f y f x ∧
        k = s.options.keyBetween f y f x)
  /-- The table of a format is dropped after the others that refer to it. -/
  dropped : ∀ (i j : Nat) t f k, ts[i]? = some t → f ∈ s.formats →
    ts[j]? = some (s.createTable f) → i ≠ j → k ∈ t.foreignKeys →
    k.target = (s.createTable f).name →
    drops[ts.length - 1 - i]? = some t.name ∧
      drops[ts.length - 1 - j]? = some (s.createTable f).name ∧
      ts.length - 1 - i < ts.length - 1 - j

/-- What is created at a place from the front is dropped at that place from the back. -/
theorem getElem?_reverse_names {ts : List Sql.CreateTable} {i : Nat} {t : Sql.CreateTable}
    (hi : ts[i]? = some t) : (ts.map (·.name)).reverse[ts.length - 1 - i]? = some t.name := by
  obtain ⟨hlt, -⟩ := List.getElem?_eq_some_iff.mp hi
  rw [List.getElem?_reverse (by simpa using by omega), List.getElem?_map, List.length_map,
    Nat.sub_sub_self (by omega), hi, Option.map_some]

theorem Sequence.clausesInOrder (h : s.Sequence ds gs) {ts : List Sql.CreateTable}
    (hts : ts = s.tablesOf gs) :
    s.ClausesInOrder ds ts (ts.map (·.name)).reverse where
  formats f hf := by
    refine ⟨(s.createTable f).foreignKeys, ?_, ?_⟩
    · have hk : (s.createTable f).foreignKeys =
          (ds.filter fun d => d.shape ≠ .manyToMany ∧ d.second.field.formatName = f.name).map
            (·.foreignKey s.options) := foreignKeys_createTable h.relations h.enabled f
      rw [hk, List.forall₂_map_right_iff, List.forall₂_same]
      intro d hd
      obtain ⟨hd, hh⟩ := List.mem_filter.mp hd
      obtain ⟨g, y, x, hb⟩ := h.exists_between hf hd (of_decide_eq_true hh)
      exact ⟨g, y, x, hb, hb.foreignKey_eq _⟩
    · simp [createTable, DataFormat.createTable, Field.column, Field.isSerial, SqlOptions.qualify,
        beq_eq_decide]
  joins := by
    rw [Relations.joinTables_eq h.enabled h.relations, List.forall₂_map_right_iff,
      List.forall₂_same]
    intro d hd
    obtain ⟨g, y, f, x, hb⟩ := h.accepted.exists_between (List.mem_filter.mp hd).1
    exact ⟨g, y, f, x, hb, hb.joinTable_eq _⟩
  once := by
    subst hts
    intro d hd hm
    obtain ⟨g, y, f, x, hb⟩ := h.accepted.exists_between hd
    obtain ⟨i, hi⟩ := h.exists_getElem? hb.secondFormat
    have hk : d.foreignKey s.options ∈ (s.createTable f).foreignKeys :=
      (h.mem_foreignKeys f _).mpr ⟨d, hd, ⟨hm, by rw [hb.second]⟩, rfl⟩
    rw [hb.foreignKey_eq] at hk
    refine ⟨g, y, f, x, hb, i, getElem?_tablesOf hi, hk, fun j t hj he hkt => ?_⟩
    obtain ⟨e, hg, rfl⟩ := h.of_kind_entity hj he
    exact h.eq_of_mem_foreignKeys hg hi hkt hk
  earlier := by
    subst hts
    intro i t k hi hk
    obtain ⟨j, f, hj, hp, hlt⟩ := h.exists_referenced hi hk
    exact ⟨j, f, h.mem_of_getElem? hj, getElem?_tablesOf hj, hp, hlt⟩
  dropped := by
    intro i j t f k hi hf hj hij hk ht
    have hlt : j < i := by
      subst hts
      exact h.lt_of_target hi hf hj hij hk ht
    obtain ⟨hlen, -⟩ := List.getElem?_eq_some_iff.mp hi
    exact ⟨getElem?_reverse_names hi, getElem?_reverse_names hj, by omega⟩

end Schema

/-- Whenever there is an order of provisioning there are both scripts. They run over the tables of
all formats and then the join tables, and over their names in the opposite order; in a create
statement the columns come first, and every foreign key clause stands where the tables it needs are
there. -/
theorem scripts_clausesInOrder (fs : List DataFormat) (ds : List Declaration) (o : SqlOptions)
    (s : Schema) (order : List String) (h : Schema.create fs ds o = .ok s)
    (ho : o.enableSql = true) (hp : s.provisioningOrder = .ok order) :
    ∃ (gs : List DataFormat) (ts : List Sql.CreateTable) (drops : List Sql.TableName),
      gs.Perm fs ∧ gs.map (·.name) = order ∧
      s.tables = .ok ts ∧ ts = gs.map s.createTable ++ s.relations.joinTables ∧
      drops = (ts.map (·.name)).reverse ∧
      s.createScript =
        .ok (if ts = [] then "" else String.intercalate "\n\n" (ts.map (·.text)) ++ "\n") ∧
      s.dropScript =
        .ok (if ts = [] then ""
          else String.intercalate "\n\n" (drops.map (·.dropText)) ++ "\n") ∧
      s.ClausesInOrder ds ts drops := by
  obtain ⟨gs, hs, hg⟩ := Schema.exists_sequence h ho hp
  have ht := (s.tables_eq_ok_iff _).mpr ⟨gs, hg, rfl⟩
  obtain ⟨-, rfl, -, -⟩ := (Schema.create_eq_ok_iff fs ds o s).mp h
  exact ⟨gs, _, _, hs.perm, (Schema.orderedFormats_spec hp hg).1, ht, rfl, rfl,
    Schema.createScript_text ht, Schema.dropScript_text ht, hs.clausesInOrder rfl⟩

/-- The table of reviews refers to that of users, and the users to themselves. -/
theorem clausesInOrder_reviewSchema :
    Schema.create reviewSchema.formats reviewing .standard = .ok reviewSchema ∧
      SqlOptions.standard.enableSql = true ∧
      reviewSchema.provisioningOrder = .ok ["user", "review"] ∧
      ∃ users reviews likes : Sql.CreateTable,
        reviewSchema.ClausesInOrder reviewing [users, reviews, likes]
          [likes.name, reviews.name, users.name] ∧
        reviews.text =
          String.intercalate "\n"
            ["CREATE TABLE IF NOT EXISTS public.review",
              "(",
              "    id SERIAL PRIMARY KEY,",
              "    user_id integer NOT NULL,",
              "  constraint review_to_user_user_id_fkey foreign key (user_id)",
              "    references public.user (id) match simple",
              "    on update no action",
              "    on delete no action",
              ")",
              "",
              "TABLESPACE pg_default;",
              "",
              "ALTER TABLE IF EXISTS public.review",
              "    OWNER to postgres;"] ∧
        reviewSchema.createScript =
          .ok (users.text ++ "\n\n" ++ reviews.text ++ "\n\n" ++ likes.text ++ "\n") ∧
        reviewSchema.dropScript =
          .ok ("drop table if exists public.review_to_user;\n\n" ++
            "drop table if exists public.review;\n\n" ++
            "drop table if exists public.user;\n") := by
  have hs : Schema.create reviewSchema.formats reviewing .standard = .ok reviewSchema := by rfl
  have hp : reviewSchema.provisioningOrder = .ok ["user", "review"] := by rfl
  obtain ⟨gs, ts, drops, -, -, ht, -, rfl, hcreate, hdrop, h⟩ :=
    scripts_clausesInOrder _ _ _ _ _ hs rfl hp
  obtain rfl := Except.ok.inj (ht.symm.trans (rfl : reviewSchema.tables = .ok [_, _, _]))
  exact ⟨hs, rfl, hp, _, _, _, h, by decide +kernel, hcreate, hdrop.trans (by decide +kernel)⟩

end Schemata
