import Schemata.Entities
import Schemata.Proofs.Accessors.Plans
import Schemata.Proofs.Failure
import Schemata.Proofs.Tables.ForeignKeys

/-!
What an accepted schema can still be refused for. Every later step looks formats up by name and has
an error for a name that is not there, but all names come from declarations whose fields have been
found. What is left are foreign keys in a cycle and accessors of one name, and where later accessors
replace earlier ones only the cycle is left.
-/
namespace Schemata

/-- A relation between different formats puts a foreign key on `holder` that refers to
`referenced`. -/
def Refers (ds : List Declaration) (referenced holder : String) : Prop :=
  ∃ d ∈ ds, d.shape ≠ .manyToMany ∧ d.first.field.formatName = referenced ∧
    d.second.field.formatName = holder ∧ referenced ≠ holder

/-! ### The order of provisioning -/

theorem Declaration.foreignKey?_relation_of_disabled (d : Declaration) {o : SqlOptions}
    (ho : o.enableSql = false) : (d.relation o).foreignKey? = none := by
  simp [relation, Relation.foreignKey?, ho]

namespace Schema

variable {s : Schema} {ds : List Declaration}

/-- Formats are ordered by their foreign keys, or not at all. -/
theorem precedes_iff (hr : s.relations.toList = ds.map (·.relation s.options)) (a b : String) :
    Precedes s.relations.toList a b ↔ s.options.enableSql = true ∧ Refers ds a b := by
  have hm : Precedes s.relations.toList a b ↔ ∃ d ∈ ds, (d.relation s.options).Orders a b := by
    simp [Precedes, hr]
  rw [hm]
  cases ho : s.options.enableSql with
  | false => simp [Relation.Orders, Declaration.foreignKey?_relation_of_disabled _ ho]
  | true => simp only [Declaration.orders_relation_iff _ ho, Refers, true_and]

/-- The formats that foreign keys order have been declared. -/
theorem known (ha : Accepted s.formats ds)
    (hr : s.relations.toList = ds.map (·.relation s.options)) :
    Known s.formatNames s.relations.toList := by
  intro a b hp
  obtain ⟨-, d, hd, -, rfl, rfl, -⟩ := (precedes_iff hr a b).mp hp
  have hmem : ∀ side, (d.endpoint side).field.formatName ∈ s.formatNames := by
    intro side
    obtain ⟨f, hf, hn, -⟩ := ha.exists_field hd side
    exact hn ▸ List.mem_map_of_mem hf
  exact ⟨hmem .first, hmem .second⟩

/-- There is an order unless foreign keys make a cycle. -/
theorem exists_provisioningOrder_iff (ha : Accepted s.formats ds)
    (hr : s.relations.toList = ds.map (·.relation s.options)) :
    (∃ order, s.provisioningOrder = .ok order) ↔
      (s.options.enableSql = true → ∀ a, ¬ Relation.TransGen (Refers ds) a a) := by
  have hk := known ha hr
  have hacyclic : Acyclic s.relations.toList ↔
      (s.options.enableSql = true → ∀ a, ¬ Relation.TransGen (Refers ds) a a) := by
    have hp : Precedes s.relations.toList =
        fun a b => s.options.enableSql = true ∧ Refers ds a b :=
      funext₂ fun a b => propext (precedes_iff hr a b)
    rw [Acyclic, hp]
    cases s.options.enableSql with
    | true => simp
    | false =>
      simp only [Bool.false_eq_true, false_and, false_implies, iff_true]
      intro a h
      obtain ⟨-, hf, -⟩ := Relation.TransGen.head'_iff.mp h
      exact hf
  rw [← hacyclic]
  constructor
  · rintro ⟨order, ho⟩
    by_contra hc
    obtain ⟨fs, hfs⟩ := provisioningOrder_of_cyclic hk hc
    exact absurd (ho.symm.trans hfs) (by simp)
  · intro hc
    obtain ⟨order, ho, -⟩ := provisioningOrder_of_acyclic hk hc
    exact ⟨order, ho⟩

theorem eq_cycle_of_provisioningOrder (ha : Accepted s.formats ds)
    (hr : s.relations.toList = ds.map (·.relation s.options)) {e : SchemaError}
    (h : s.provisioningOrder = .error e) : ∃ formats, e = .cycle formats := by
  have hk := known ha hr
  by_cases hc : Acyclic s.relations.toList
  · obtain ⟨order, ho, -⟩ := provisioningOrder_of_acyclic hk hc
    exact absurd (h.symm.trans ho) (by simp)
  · obtain ⟨fs, hfs⟩ := provisioningOrder_of_cyclic hk hc
    exact ⟨fs, Except.error.inj (h.symm.trans hfs)⟩

/-! ### Scripts -/

/-- The formats of an order are at hand. -/
theorem failAlike_orderedFormats (s : Schema) : FailAlike s.orderedFormats s.provisioningOrder := by
  refine .bind_ok _ fun order h => ?_
  obtain ⟨gs, hg⟩ := exists_orderedFormats h
  rw [orderedFormats, h, ok_bind] at hg
  exact ⟨gs, hg⟩

theorem failAlike_createScript (s : Schema) : FailAlike s.createScript s.provisioningOrder :=
  have ht : FailAlike s.tables s.orderedFormats := .bind_ok _ fun _ _ => ⟨_, rfl⟩
  have hc : FailAlike s.createScript s.tables := .bind_ok _ fun _ _ => ⟨_, rfl⟩
  (hc.trans ht).trans s.failAlike_orderedFormats

theorem failAlike_dropScript (s : Schema) : FailAlike s.dropScript s.provisioningOrder :=
  have ho : FailAlike s.dropOrder s.orderedFormats := .bind_ok _ fun _ _ => ⟨_, rfl⟩
  have hd : FailAlike s.dropScript s.dropOrder := .bind_ok _ fun _ _ => ⟨_, rfl⟩
  (hd.trans ho).trans s.failAlike_orderedFormats

end Schema

/-! ### Stores -/

/-- The far end of the relation, seen from the role, lies on a format that is there. -/
def AccessorPlan.Found (formats : List DataFormat) (x : Role × Relation) : Prop :=
  ∃ f, DataFormat.find? formats (x.2.declaration.endpoint x.1.side.other).field.formatName = some f

/-- Where the far end is found its plan can be made. -/
theorem Declaration.exists_plan? {d : Declaration} {formats : List DataFormat} {o : SqlOptions}
    {side : Side} {f : DataFormat}
    (hf : DataFormat.find? formats (d.endpoint side.other).field.formatName = some f) :
    ∃ p, d.plan? formats o ⟨d.shape, side⟩ = some (.ok p) := by
  simp [plan?, select?, accessorName?, seenFrom?_role, hf, Except.map]

namespace AccessorPlan

variable {formats : List DataFormat} {o : SqlOptions} {policy : DuplicatePolicy}
  {formatName : String}

/-- A plan is refused only where a name is taken and must not be replaced. -/
theorem of_add_eq_error {plans : List AccessorPlan} {p : AccessorPlan} {e : SchemaError}
    (h : add policy formatName plans p = .error e) :
    policy = .fail ∧ ∃ q ∈ plans, q.name = p.name ∧
      e = .duplicateAccessor formatName p.name q.relation p.relation := by
  unfold add at h
  split at h
  · cases h
  · rename_i q hq
    obtain rfl := Except.error.inj h
    exact ⟨rfl, q, List.mem_of_find?_eq_some hq, by simpa using List.find?_some hq, rfl⟩
  · cases h

theorem of_collect_eq_error {plans : List AccessorPlan} {occs : List (Role × Relation)}
    {e : SchemaError} (hs : ∀ x ∈ occs, x.1.shape = x.2.declaration.shape)
    (hf : ∀ x ∈ occs, Found formats x)
    (h : collect formats o policy formatName plans occs = .error e) :
    policy = .fail ∧ ∃ accessor first second,
      e = .duplicateAccessor formatName accessor first second := by
  induction occs generalizing plans with
  | nil => cases h
  | cons x occs ih =>
    obtain ⟨⟨shape, side⟩, r⟩ := x
    obtain rfl : shape = r.declaration.shape := hs _ (.head _)
    obtain ⟨f, hfind⟩ := hf _ (.head _)
    obtain ⟨p, hp⟩ := r.declaration.exists_plan? (o := o) hfind
    simp only [collect, hp, ok_bind] at h
    obtain ha | ⟨plans', -, h⟩ := bind_eq_error_iff.mp h
    · obtain ⟨hpolicy, q, -, -, rfl⟩ := of_add_eq_error ha
      exact ⟨hpolicy, _, _, _, rfl⟩
    · exact ih (fun x hx => hs x (.tail _ hx)) (fun x hx => hf x (.tail _ hx)) h

/-- Where the formats of all relations are there, planning fails only for a name that is taken. -/
theorem of_planAll_eq_error {rs : List Relation} {f : DataFormat} {e : SchemaError}
    (hn : DataFormat.find? formats formatName = some f)
    (hf : ∀ r ∈ rs, ∀ side, ∃ g,
      DataFormat.find? formats (r.declaration.endpoint side).field.formatName = some g)
    (h : planAll formats rs o policy formatName = .error e) :
    policy = .fail ∧ ∃ accessor first second,
      e = .duplicateAccessor formatName accessor first second := by
  rw [planAll, hn] at h
  refine of_collect_eq_error ?_ ?_ h
  · intro x hx
    exact (mem_occasions.mp hx).2.1
  · intro x hx
    exact hf x.2 (mem_occasions.mp hx).1 x.1.side.other

end AccessorPlan

/-- A store is refused for what its accessors are refused for. The formats that they lead to have
been found for their statements. -/
theorem Store.failAlike_create (formats : List DataFormat) (rs : List Relation) (o : SqlOptions)
    (policy : DuplicatePolicy) (formatName : String) :
    FailAlike (Store.create formats rs o policy formatName)
      (AccessorPlan.planAll formats rs o policy formatName) := by
  unfold Store.create
  cases hf : DataFormat.find? formats formatName with
  | none =>
    rw [AccessorPlan.planAll, hf]
    exact .error _
  | some f =>
    refine .bind_ok _ fun plans hp => exists_bind_eq_ok ?_ fun _ => ⟨_, rfl⟩
    refine exists_mapM_eq_ok fun p hpm => ?_
    obtain ⟨r, -, side, -, hl⟩ := AccessorPlan.leads_of_mem_planAll hp hpm
    obtain ⟨target, ht, -⟩ := hl.query
    exact ⟨⟨p, target⟩, by rw [ht]⟩

namespace Schema

variable {s : Schema} {ds : List Declaration}

/-- The formats of both ends of a relation are there. -/
theorem exists_find?_endpoint (ha : Accepted s.formats ds)
    (hr : s.relations.toList = ds.map (·.relation s.options)) :
    ∀ r ∈ s.relations.toList, ∀ side, ∃ f,
      DataFormat.find? s.formats (r.declaration.endpoint side).field.formatName = some f := by
  intro r hm side
  rw [hr] at hm
  obtain ⟨d, hd, rfl⟩ := List.mem_map.mp hm
  obtain ⟨f, hf, hn, -⟩ := ha.exists_field hd side
  exact DataFormat.exists_find? (List.mem_map.mpr ⟨f, hf, hn⟩)

/-- The accessors of a declared format are refused only where a name is taken and must not be
replaced. -/
theorem of_plans_eq_error (ha : Accepted s.formats ds)
    (hr : s.relations.toList = ds.map (·.relation s.options)) {policy : DuplicatePolicy}
    {formatName : String} (hn : formatName ∈ s.formatNames) {e : SchemaError}
    (h : s.plans policy formatName = .error e) :
    policy = .fail ∧ ∃ accessor first second,
      e = .duplicateAccessor formatName accessor first second := by
  obtain ⟨f, hf⟩ := DataFormat.exists_find? hn
  exact AccessorPlan.of_planAll_eq_error hf (exists_find?_endpoint ha hr) h

/-- All stores of a schema are refused for its order or for the accessors of one of its formats. -/
theorem failAlike_create (s : Schema) (policy : DuplicatePolicy) :
    FailAlike (Entities.create s policy)
      (s.provisioningOrder >>= fun _ => s.formatNames.mapM (s.plans policy)) :=
  .bind (.refl _) fun _ _ _ _ =>
    .trans (.bind_ok _ fun _ _ => ⟨_, rfl⟩) (.mapM fun _ _ => Store.failAlike_create _ _ _ _ _)

end Schema

/-- An accepted schema is refused its scripts only for foreign keys in a cycle, and a store only for
two accessors of one name. Where later accessors replace earlier ones all stores can be built
exactly when no foreign keys go in a circle between different formats, or SQL is disabled. -/
theorem refused_for_cycle_or_accessor (fs : List DataFormat) (ds : List Declaration)
    (o : SqlOptions) (s : Schema) (h : Schema.create fs ds o = .ok s) :
    (∀ e, s.provisioningOrder = .error e ∨ s.createScript = .error e ∨ s.dropScript = .error e →
      ∃ formats, e = .cycle formats) ∧
    (∀ policy, ∀ name ∈ s.formatNames, ∀ e,
      s.plans policy name = .error e ∨
        Store.create s.formats s.relations.toList s.options policy name = .error e →
      policy = .fail ∧ ∃ accessor first second,
        e = .duplicateAccessor name accessor first second) ∧
    (∀ policy e, Entities.create s policy = .error e →
      (∃ formats, e = .cycle formats) ∨
        policy = .fail ∧ ∃ name ∈ s.formatNames, ∃ accessor first second,
          e = .duplicateAccessor name accessor first second) ∧
    ((∃ e, Entities.create s .overwrite = .ok e) ↔
      (o.enableSql = true → ∀ a, ¬ Relation.TransGen (Refers ds) a a)) := by
  obtain ⟨ha, rfl, hr, rfl⟩ := (Schema.create_eq_ok_iff fs ds o s).mp h
  have horder : ∀ e, s.provisioningOrder = .error e → ∃ formats, e = .cycle formats :=
    fun e => Schema.eq_cycle_of_provisioningOrder ha hr
  have hplans := fun policy name hn e => @Schema.of_plans_eq_error s ds ha hr policy name hn e
  refine ⟨?_, ?_, ?_, ?_⟩
  · rintro e (he | he | he)
    · exact horder e he
    · exact horder e ((s.failAlike_createScript e).mp he)
    · exact horder e ((s.failAlike_dropScript e).mp he)
  · rintro policy name hn e (he | he)
    · exact hplans policy name hn e he
    · exact hplans policy name hn e ((Store.failAlike_create _ _ _ _ _ e).mp he)
  · intro policy e he
    obtain ho | ⟨order, -, hs⟩ := bind_eq_error_iff.mp ((s.failAlike_create policy e).mp he)
    · exact .inl (horder e ho)
    · obtain ⟨name, hn, hp⟩ := exists_of_mapM_eq_error hs
      obtain ⟨hpolicy, hd⟩ := hplans policy name hn e hp
      exact .inr ⟨hpolicy, name, hn, hd⟩
  · rw [← Schema.exists_provisioningOrder_iff ha hr, (s.failAlike_create .overwrite).exists_ok_iff]
    constructor
    · rintro ⟨_, hs⟩
      obtain ⟨order, ho, -⟩ := bind_eq_ok_iff.mp hs
      exact ⟨order, ho⟩
    · rintro ⟨order, ho⟩
      have hall : ∀ name ∈ s.formatNames, ∃ plans, s.plans .overwrite name = .ok plans := by
        intro name hn
        rw [exists_ok_iff]
        intro e he
        exact absurd (hplans _ name hn e he).1 (by decide)
      obtain ⟨plans, hp⟩ := exists_mapM_eq_ok hall
      exact ⟨plans, bind_eq_ok_iff.mpr ⟨order, ho, hp⟩⟩

/-- Users belong to a team, and teams are led by a user. -/
def leading : List Declaration :=
  [⟨.oneToMany, ⟨⟨"team", "id"⟩, none⟩, ⟨⟨"user", "teamId"⟩, none⟩⟩,
    ⟨.oneToOne, ⟨⟨"user", "id"⟩, none⟩, ⟨⟨"team", "leaderId"⟩, none⟩⟩]

def teamSchema (o : SqlOptions) : Schema where
  formats :=
    [⟨"user", none,
        [⟨"id", .serial, none, false, false⟩, ⟨"teamId", .integer, none, false, false⟩]⟩,
      ⟨"team", none,
        [⟨"id", .serial, none, false, false⟩, ⟨"leaderId", .integer, none, true, false⟩]⟩]
  relations := ⟨leading.map (·.relation o), by
    have hn : (leading.map (·.name)).Nodup := by decide
    rwa [List.map_map]⟩
  options := o

/-- Teams and users wait for each other, but only where their tables have foreign keys. -/
theorem refused_teamSchema :
    Schema.create (teamSchema .standard).formats leading .standard = .ok (teamSchema .standard) ∧
      (∃ formats, (teamSchema .standard).createScript = .error (.cycle formats)) ∧
      (¬ ∃ e, Entities.create (teamSchema .standard) .overwrite = .ok e) ∧
      ∃ e, Entities.create (teamSchema { SqlOptions.standard with enableSql := false })
        .overwrite = .ok e := by
  have hs : ∀ o : SqlOptions,
      Schema.create (teamSchema o).formats leading o = .ok (teamSchema o) := fun o => by rfl
  obtain ⟨hscript, -, -, hon⟩ := refused_for_cycle_or_accessor _ _ _ _ (hs .standard)
  obtain ⟨-, -, -, hoff⟩ := refused_for_cycle_or_accessor _ _ _ _
    (hs { SqlOptions.standard with enableSql := false })
  have hteam : Refers leading "team" "user" := ⟨_, .head _, by decide, rfl, rfl, by decide⟩
  have huser : Refers leading "user" "team" :=
    ⟨_, .tail _ (.head _), by decide, rfl, rfl, by decide⟩
  have hcycle : ¬ ∃ e, Entities.create (teamSchema .standard) .overwrite = .ok e := fun he =>
    hon.mp he rfl "team" (.tail (.single hteam) huser)
  obtain ⟨e, he⟩ : ∃ e, (teamSchema .standard).createScript = .error e := ⟨_, rfl⟩
  obtain ⟨formats, rfl⟩ := hscript e (.inr (.inl he))
  exact ⟨hs _, ⟨formats, he⟩, hcycle, hoff.mpr fun h => absurd h (by decide)⟩

end Schemata
