import Schemata.Store.Basic
import Schemata.Proofs.Acceptance

/-!
What is planned for the store of a format: an accessor for each end of a relation that lies on the
format. Planning goes through roles and through relations, asks for a name, for the far end and for
a statement, and passes over what has none of these. For the roles that a format plays all of them
are there, so nothing is passed over, and a plan can only be lost to another of its name.
-/
namespace Schemata

/-- The plan leads from the end on `side` to the other end. -/
structure AccessorPlan.Leads (formats : List DataFormat) (o : SqlOptions) (d : Declaration)
    (side : Side) (p : AccessorPlan) : Prop where
  name : d.accessorName? ⟨d.shape, side⟩ = some p.name
  relation : p.relation = d.name
  role : p.role = ⟨d.shape, side⟩
  target : p.target = (d.endpoint side.other).field.formatName
  query : ∃ f, DataFormat.find? formats p.target = some f ∧
    p.query = .related (o.qualify f.tableName) f.columnNames
      (d.route o (d.endpoint side).field (d.endpoint side.other).field)

namespace Declaration

theorem seenFrom?_role (d : Declaration) (side : Side) :
    d.seenFrom? ⟨d.shape, side⟩ = some (d.endpoint side, d.endpoint side.other) := if_pos rfl

/-- No role of the relation's shape is passed over. -/
theorem plan?_isSome (d : Declaration) (formats : List DataFormat) (o : SqlOptions) (r : Role) :
    (d.plan? formats o r).isSome ↔ r.shape = d.shape := by
  by_cases hs : r.shape = d.shape <;> simp [plan?, accessorName?, select?, seenFrom?, hs]

/-- A plan that can be made leads to the far end. -/
theorem leads_of_plan? {d : Declaration} {formats : List DataFormat} {o : SqlOptions} {side : Side}
    {p : AccessorPlan} (h : d.plan? formats o ⟨d.shape, side⟩ = some (.ok p)) :
    p.Leads formats o d side := by
  obtain ⟨name, hname⟩ : ∃ name, d.accessorName? ⟨d.shape, side⟩ = some name := by
    simp [accessorName?, seenFrom?_role]
  simp only [plan?, select?, hname, seenFrom?_role, Option.bind_eq_bind, Option.bind_some,
    Option.map_some, Option.pure_def, Option.some.injEq] at h
  split at h
  · cases h
  · rename_i f hf
    obtain rfl := Except.ok.inj h
    exact ⟨hname, rfl, rfl, rfl, f, hf, rfl⟩

/-- The roles of a format are those of the relation's shape on whose side the format stands. -/
theorem mem_rolesOf {d : Declaration} {formatName : String} {role : Role} :
    role ∈ d.rolesOf formatName ↔
      role.shape = d.shape ∧ (d.endpoint role.side).field.formatName = formatName := by
  obtain ⟨shape, side⟩ := role
  simp only [rolesOf, sidesOf, List.mem_map, List.mem_filter, beq_iff_eq, Role.mk.injEq]
  constructor
  · rintro ⟨_, ⟨-, hn⟩, rfl, rfl⟩
    exact ⟨rfl, hn⟩
  · rintro ⟨rfl, hn⟩
    exact ⟨side, ⟨by cases side <;> decide, hn⟩, rfl, rfl⟩

theorem involves_endpoint (d : Declaration) (side : Side) :
    d.involves (d.endpoint side).field.formatName := by
  cases side <;> simp [involves, endpoint]

end Declaration

namespace AccessorPlan

variable {formats : List DataFormat} {o : SqlOptions} {rs : List Relation} {formatName : String}

/-! ### Occasions -/

theorem mem_occasions {role : Role} {r : Relation} :
    (role, r) ∈ occasions rs formatName ↔
      r ∈ rs ∧ role.shape = r.declaration.shape ∧
        (r.declaration.endpoint role.side).field.formatName = formatName := by
  simp only [occasions, List.mem_flatMap, Role.mem_all, true_and, List.mem_map, Prod.mk.injEq,
    Relations.relevantTo, List.mem_filter, List.contains_iff_mem, Declaration.mem_rolesOf]
  constructor
  · rintro ⟨_, _, ⟨⟨hm, -⟩, hr⟩, rfl, rfl⟩
    exact ⟨hm, hr⟩
  · rintro ⟨hm, hs, rfl⟩
    exact ⟨_, r, ⟨⟨hm, r.declaration.involves_endpoint _⟩, hs, rfl⟩, rfl, rfl⟩

theorem nodup_occasions (h : rs.Nodup) (formatName : String) :
    (occasions rs formatName).Nodup := by
  rw [occasions, List.nodup_flatMap]
  refine ⟨fun role _ => ?_, ?_⟩
  · exact ((h.filter _).filter _).map fun _ _ he => congrArg Prod.snd he
  · have hr : Role.all.Nodup := by decide
    refine hr.imp fun {r q} hne x hx hy => ?_
    obtain ⟨_, -, rfl⟩ := List.mem_map.mp hx
    obtain ⟨_, -, he⟩ := List.mem_map.mp hy
    exact hne (congrArg Prod.fst he).symm

/-! ### Collecting -/

theorem add_fail_eq_ok_iff (formatName : String) (plans out : List AccessorPlan)
    (p : AccessorPlan) :
    add .fail formatName plans p = .ok out ↔
      p.name ∉ plans.map (·.name) ∧ out = plans ++ [p] := by
  have hm : p.name ∈ plans.map (·.name) ↔ (plans.find? (·.name == p.name)).isSome := by
    simp
  rw [hm]
  cases hf : plans.find? (·.name == p.name) with
  | none => simp [add, hf, eq_comm]
  | some q => simp [add, hf]

/-- A new name keeps names distinct. -/
theorem nodup_names_append {plans : List AccessorPlan} {p : AccessorPlan}
    (hn : (plans.map (·.name)).Nodup) (hp : p.name ∉ plans.map (·.name)) :
    ((plans ++ [p]).map (·.name)).Nodup := by
  rw [List.map_append, List.map_singleton]
  exact List.nodup_append.mpr ⟨hn, List.nodup_singleton _, by simpa using hp⟩

/-- Whatever the policy, adding a plan leaves no plan but those before it and itself. -/
theorem mem_of_add_eq_ok {policy : DuplicatePolicy} {plans out : List AccessorPlan}
    {p q : AccessorPlan} (h : add policy formatName plans p = .ok out) (hq : q ∈ out) :
    q ∈ plans ∨ q = p := by
  unfold add at h
  split at h
  · obtain rfl := Except.ok.inj h
    simpa using hq
  · cases h
  · obtain rfl := Except.ok.inj h
    obtain ⟨q', hq', he⟩ := List.mem_map.mp hq
    split at he
    · exact .inr he.symm
    · exact .inl (he ▸ hq')

/-- Whatever the policy, each plan stands for one of the occasions. -/
theorem leads_of_mem_collect {policy : DuplicatePolicy} {plans out : List AccessorPlan}
    {occs : List (Role × Relation)}
    (h : collect formats o policy formatName plans occs = .ok out) {p : AccessorPlan}
    (hp : p ∈ out) :
    p ∈ plans ∨ ∃ x ∈ occs, p.Leads formats o x.2.declaration x.1.side := by
  induction occs generalizing plans with
  | nil =>
    obtain rfl := Except.ok.inj h
    exact .inl hp
  | cons x occs ih =>
    obtain ⟨⟨shape, side⟩, r⟩ := x
    rw [collect] at h
    split at h
    · obtain hm | ⟨x, hx, hl⟩ := ih h
      · exact .inl hm
      · exact .inr ⟨x, .tail _ hx, hl⟩
    · rename_i plan hplan
      obtain rfl : shape = r.declaration.shape :=
        (r.declaration.plan?_isSome formats o ⟨shape, side⟩).mp (by simp [hplan])
      simp only [bind_eq_ok_iff] at h
      obtain ⟨q, rfl, plans', ha, h⟩ := h
      obtain hm | ⟨x, hx, hl⟩ := ih h
      · obtain hm | rfl := mem_of_add_eq_ok ha hm
        · exact .inl hm
        · exact .inr ⟨_, .head _, Declaration.leads_of_plan? hplan⟩
      · exact .inr ⟨x, .tail _ hx, hl⟩

/-- Whatever the policy, the plans of a format lead away from ends that lie on it. -/
theorem leads_of_mem_planAll {policy : DuplicatePolicy} {plans : List AccessorPlan}
    (h : planAll formats rs o policy formatName = .ok plans) {p : AccessorPlan} (hp : p ∈ plans) :
    ∃ r ∈ rs, ∃ side, (r.declaration.endpoint side).field.formatName = formatName ∧
      p.Leads formats o r.declaration side := by
  unfold planAll at h
  split at h
  · cases h
  · obtain hm | ⟨⟨role, r⟩, hx, hl⟩ := leads_of_mem_collect h hp
    · cases hm
    · obtain ⟨hr, -, hn⟩ := mem_occasions.mp hx
      exact ⟨r, hr, role.side, hn, hl⟩

/-- Where repeated names are refused each occasion leaves its plan behind. -/
theorem collect_fail {plans out : List AccessorPlan} {occs : List (Role × Relation)}
    (hs : ∀ x ∈ occs, x.1.shape = x.2.declaration.shape) (hn : (plans.map (·.name)).Nodup)
    (h : collect formats o .fail formatName plans occs = .ok out) :
    (out.map (·.name)).Nodup ∧
      ∃ new, out = plans ++ new ∧
        List.Forall₂ (fun x p => p.Leads formats o x.2.declaration x.1.side) occs new := by
  -- the names taken so far stay distinct, and each occasion adds one plan behind them
  induction occs generalizing plans with
  | nil =>
    obtain rfl := Except.ok.inj h
    exact ⟨hn, [], by simp, .nil⟩
  | cons x occs ih =>
    obtain ⟨⟨shape, side⟩, r⟩ := x
    obtain rfl : shape = r.declaration.shape := hs _ (.head _)
    rw [collect] at h
    split at h
    · rename_i hnone
      have hsome := (r.declaration.plan?_isSome formats o ⟨_, side⟩).mpr rfl
      simp [hnone] at hsome
    · rename_i plan hp
      simp only [bind_eq_ok_iff] at h
      obtain ⟨p, rfl, plans', ha, h⟩ := h
      obtain ⟨hp', rfl⟩ := (add_fail_eq_ok_iff _ _ _ _).mp ha
      obtain ⟨hout, new, rfl, hall⟩ :=
        ih (fun x hx => hs x (.tail _ hx)) (nodup_names_append hn hp') h
      exact ⟨hout, p :: new, by simp, .cons (Declaration.leads_of_plan? hp) hall⟩

/-- Where repeated names are refused a format has one plan for each of its occasions. -/
theorem planAll_fail {plans : List AccessorPlan}
    (h : planAll formats rs o .fail formatName = .ok plans) :
    (plans.map (·.name)).Nodup ∧
      List.Forall₂ (fun x p => p.Leads formats o x.2.declaration x.1.side)
        (occasions rs formatName) plans := by
  unfold planAll at h
  split at h
  · cases h
  · have hs : ∀ x ∈ occasions rs formatName, x.1.shape = x.2.declaration.shape :=
      fun x hx => (mem_occasions.mp hx).2.1
    obtain ⟨hn, _, rfl, hall⟩ := collect_fail hs (by simp) h
    exact ⟨hn, hall⟩

end AccessorPlan

/-- Whatever the policy, the plans of a schema lead away from ends of its declarations. -/
theorem Schema.leads_of_mem_plans {s : Schema} {ds : List Declaration}
    (hr : s.relations.toList = ds.map (·.relation s.options)) {policy : DuplicatePolicy}
    {formatName : String} {plans : List AccessorPlan}
    (h : s.plans policy formatName = .ok plans) {p : AccessorPlan} (hp : p ∈ plans) :
    ∃ d ∈ ds, ∃ side, (d.endpoint side).field.formatName = formatName ∧
      p.Leads s.formats s.options d side := by
  obtain ⟨r, hrm, side, hn, hl⟩ := AccessorPlan.leads_of_mem_planAll h hp
  rw [hr] at hrm
  obtain ⟨d, hd, rfl⟩ := List.mem_map.mp hrm
  exact ⟨d, hd, side, hn, hl⟩

/-- A store has its format, what has been planned for it, and the table of the format. -/
theorem Store.of_create_eq_ok {formats : List DataFormat} {rs : List Relation} {o : SqlOptions}
    {policy : DuplicatePolicy} {formatName : String} {t : Store}
    (h : Store.create formats rs o policy formatName = .ok t) :
    DataFormat.find? formats formatName = some t.format ∧ t.options = o ∧
      AccessorPlan.planAll formats rs o policy formatName = .ok (t.accessors.map (·.plan)) ∧
      (∀ a ∈ t.accessors, DataFormat.find? formats a.plan.target = some a.target) ∧
      t.createTable = t.format.createTable (Relations.imposingOn rs t.format.name) o := by
  unfold Store.create at h
  cases hf : DataFormat.find? formats formatName with
  | none => simp [hf] at h
  | some f =>
    simp only [hf, bind_eq_ok_iff, mapM_eq_ok_iff, pure, Except.pure, Except.ok.injEq] at h
    obtain ⟨_, rfl, plans, hp, accessors, ha, rfl⟩ := h
    have htarget : List.Forall₂ (fun p a =>
        a.plan = p ∧ DataFormat.find? formats a.plan.target = some a.target) plans accessors := by
      refine ha.imp fun p a h => ?_
      split at h
      · obtain rfl := Except.ok.inj h
        exact ⟨rfl, ‹_›⟩
      · cases h
    obtain ⟨rfl, ht⟩ := map_eq_of_forall₂ (fun _ _ h => h) htarget
    exact ⟨rfl, rfl, hp, ht, rfl⟩

end Schemata
