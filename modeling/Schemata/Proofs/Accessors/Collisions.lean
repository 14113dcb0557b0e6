import Schemata.Proofs.Refusals

/-!
Accessors of one name. A format can stand on several ends of relations, and the accessors that lead
away from them may come to have one name. Plans are added one by one, so what becomes of them is
told by what adding a single plan does: under one policy the first repeated name is reported with
the two relations that it stands for, under the other the last plan of each name is kept. While all
names are different the policies do the same.
-/
namespace Schemata

/-- The roles played on a format with the declarations that have them there: role by role, and
within a role in order of declaration. -/
def Declaration.rolesOn (ds : List Declaration) (formatName : String) : List (Role × Declaration) :=
  Role.all.flatMap fun role =>
    (ds.filter fun d =>
      d.shape = role.shape ∧ (d.endpoint role.side).field.formatName = formatName).map (role, ·)

namespace AccessorPlan

/-- What is planned for a format are the roles played on it. -/
theorem map_occasions (rs : List Relation) (formatName : String) :
    (occasions rs formatName).map (fun x => (x.1, x.2.declaration)) =
      Declaration.rolesOn (rs.map (·.declaration)) formatName := by
  have hfilter : ∀ role : Role,
      (Relations.relevantTo rs formatName).filter
          (fun r => (r.declaration.rolesOf formatName).contains role) =
        rs.filter fun r => r.declaration.shape = role.shape ∧
          (r.declaration.endpoint role.side).field.formatName = formatName := by
    intro role
    rw [Relations.relevantTo, List.filter_filter]
    refine List.filter_congr fun r _ => ?_
    rw [Bool.eq_iff_iff, Bool.and_eq_true, List.contains_iff_mem, Declaration.mem_rolesOf,
      decide_eq_true_iff, eq_comm (a := r.declaration.shape)]
    refine and_iff_left_of_imp ?_
    rintro ⟨-, rfl⟩
    exact r.declaration.involves_endpoint _
  simp only [occasions, Declaration.rolesOn, hfilter, List.map_flatMap, List.map_map,
    List.filter_map]
  rfl

variable {formats : List DataFormat} {o : SqlOptions} {policy : DuplicatePolicy}
  {formatName : String}

/-! ### One plan after the other -/

/-- Where all plans can be made, collecting is adding them in order. -/
theorem collect_eq_foldlM {occs : List (Role × Relation)} {ps : List AccessorPlan}
    (h : List.Forall₂ (fun x p => x.2.declaration.plan? formats o x.1 = some (.ok p)) occs ps)
    (plans : List AccessorPlan) :
    collect formats o policy formatName plans occs = ps.foldlM (add policy formatName) plans := by
  induction h generalizing plans with
  | nil => rfl
  | @cons x p occs ps hp _ ih =>
    obtain ⟨role, r⟩ := x
    rw [List.foldlM_cons, collect, hp]
    exact congrArg (add policy formatName plans p >>= ·) (funext ih)

/-- Whatever the policy, a plan of a new name comes last. -/
theorem add_of_not_mem {plans : List AccessorPlan} {p : AccessorPlan}
    (h : p.name ∉ plans.map (·.name)) : add policy formatName plans p = .ok (plans ++ [p]) := by
  have hf : plans.find? (·.name == p.name) = none := by simpa using h
  unfold add
  rw [hf]

/-- Plans of different names are all kept, in order. -/
theorem foldlM_add_of_nodup {plans ps : List AccessorPlan}
    (h : ((plans ++ ps).map (·.name)).Nodup) :
    ps.foldlM (add policy formatName) plans = .ok (plans ++ ps) := by
  induction ps generalizing plans with
  | nil =>
    rw [List.append_nil]
    rfl
  | cons p ps ih =>
    have hp : p.name ∉ plans.map (·.name) := by
      rw [List.map_append, List.nodup_append] at h
      exact fun hm => h.2.2 _ hm _ (.head _) rfl
    rw [List.foldlM_cons, add_of_not_mem hp, ok_bind, ih (by simpa using h)]
    simp

/-- A name that is taken is reported with the relations of both plans. -/
theorem add_fail_of_mem (formatName : String) {plans : List AccessorPlan} {p : AccessorPlan}
    (h : p.name ∈ plans.map (·.name)) :
    ∃ q ∈ plans, q.name = p.name ∧
      add .fail formatName plans p =
        .error (.duplicateAccessor formatName p.name q.relation p.relation) := by
  have hs : (plans.find? (·.name == p.name)).isSome := by simpa using h
  obtain ⟨q, hq⟩ := Option.isSome_iff_exists.mp hs
  refine ⟨q, List.mem_of_find?_eq_some hq, by simpa using List.find?_some hq, ?_⟩
  unfold add
  rw [hq]

/-- If a name is repeated, the first repetition ends it all. -/
theorem foldlM_add_fail (formatName : String) {plans ps : List AccessorPlan}
    (hn : (plans.map (·.name)).Nodup) (h : ¬ ((plans ++ ps).map (·.name)).Nodup) :
    ∃ front p rest q, ps = front ++ p :: rest ∧ ((plans ++ front).map (·.name)).Nodup ∧
      q ∈ plans ++ front ∧ q.name = p.name ∧
      ps.foldlM (add .fail formatName) plans =
        .error (.duplicateAccessor formatName p.name q.relation p.relation) := by
  induction ps generalizing plans with
  | nil => exact absurd (by simpa using hn) h
  | cons p ps ih =>
    by_cases hp : p.name ∈ plans.map (·.name)
    · obtain ⟨q, hq, hqp, he⟩ := add_fail_of_mem formatName hp
      refine ⟨[], p, ps, q, rfl, by simpa using hn, by simpa using hq, hqp, ?_⟩
      rw [List.foldlM_cons, he, error_bind]
    · obtain ⟨front, p', rest, q, rfl, hf, hq, hqp, he⟩ :=
        ih (nodup_names_append hn hp) (by simpa using h)
      refine ⟨p :: front, p', rest, q, rfl, by simpa using hf, by simpa using hq, hqp, ?_⟩
      rw [List.foldlM_cons, add_of_not_mem hp, ok_bind, he]

/-! ### Replacing -/

/-- What is kept of plans that have come in order: for each of their names the last plan of that
name. -/
structure Latest (ps kept : List AccessorPlan) : Prop where
  nodup : (kept.map (·.name)).Nodup
  names : ∀ name, name ∈ kept.map (·.name) ↔ name ∈ ps.map (·.name)
  last : ∀ p ∈ kept, ∃ front rest, ps = front ++ p :: rest ∧ p.name ∉ rest.map (·.name)

theorem map_name_replace (plans : List AccessorPlan) (p : AccessorPlan) :
    (replace plans p).map (·.name) = plans.map (·.name) := by
  rw [replace, List.map_map]
  refine List.map_congr_left fun q _ => ?_
  by_cases h : q.name = p.name <;> simp [h]

theorem add_overwrite_of_mem {plans : List AccessorPlan} {p : AccessorPlan}
    (h : p.name ∈ plans.map (·.name)) :
    add .overwrite formatName plans p = .ok (replace plans p) := by
  have hs : (plans.find? (·.name == p.name)).isSome := by simpa using h
  obtain ⟨q, hq⟩ := Option.isSome_iff_exists.mp hs
  unfold add
  rw [hq]

/-- A plan that comes is the last of its name, and takes nothing from other names. -/
theorem Latest.add (formatName : String) {ps kept : List AccessorPlan} (h : Latest ps kept)
    (p : AccessorPlan) :
    ∃ kept', add .overwrite formatName kept p = .ok kept' ∧ Latest (ps ++ [p]) kept' := by
  have hold : ∀ q ∈ kept, q.name ≠ p.name →
      ∃ front rest, ps ++ [p] = front ++ q :: rest ∧ q.name ∉ rest.map (·.name) := by
    intro q hq hne
    obtain ⟨front, rest, rfl, hr⟩ := h.last q hq
    exact ⟨front, rest ++ [p], by simp, by simpa using ⟨by simpa using hr, hne⟩⟩
  have hnew : ∃ front rest, ps ++ [p] = front ++ p :: rest ∧ p.name ∉ rest.map (·.name) :=
    ⟨ps, [], rfl, List.not_mem_nil⟩
  by_cases hp : p.name ∈ kept.map (·.name)
  · refine ⟨replace kept p, add_overwrite_of_mem hp, ?_, fun name => ?_, fun q hq => ?_⟩
    · rw [map_name_replace]
      exact h.nodup
    · have hps := (h.names p.name).mp hp
      rw [map_name_replace, h.names, List.map_append, List.mem_append, List.map_singleton,
        List.mem_singleton]
      exact (or_iff_left_of_imp fun e => e ▸ hps).symm
    · obtain ⟨q', hq', rfl⟩ := List.mem_map.mp hq
      split
      · exact hnew
      · exact hold q' hq' ‹_›
  · refine ⟨kept ++ [p], add_of_not_mem hp, ?_, fun name => ?_, fun q hq => ?_⟩
    · exact nodup_names_append h.nodup hp
    · simp only [List.map_append, List.mem_append, h.names]
    · obtain hq | hq := List.mem_append.mp hq
      · exact hold q hq fun e => hp (e ▸ List.mem_map_of_mem hq)
      · obtain rfl := List.mem_singleton.mp hq
        exact hnew

theorem Latest.foldlM_add {done kept : List AccessorPlan} (h : Latest done kept)
    (ps : List AccessorPlan) :
    ∃ kept', ps.foldlM (AccessorPlan.add .overwrite formatName) kept = .ok kept' ∧
      Latest (done ++ ps) kept' := by
  induction ps generalizing done kept with
  | nil => exact ⟨kept, rfl, by simpa using h⟩
  | cons p ps ih =>
    obtain ⟨kept', ha, h'⟩ := h.add formatName p
    obtain ⟨kept'', hk, hl⟩ := ih h'
    refine ⟨kept'', ?_, by simpa using hl⟩
    rw [List.foldlM_cons, ha, ok_bind, hk]

theorem Latest.nil : Latest [] [] := ⟨List.nodup_nil, fun _ => .rfl, nofun⟩

/-! ### Planning -/

/-- Where formats are found the plans of a format are those of the roles played on it, put together
as the policy says. -/
theorem exists_planAll {rs : List Relation} {f : DataFormat}
    (hn : DataFormat.find? formats formatName = some f)
    (hf : ∀ r ∈ rs, ∀ side, ∃ g,
      DataFormat.find? formats (r.declaration.endpoint side).field.formatName = some g) :
    ∃ ps, List.Forall₂ (fun x p => p.Leads formats o x.2 x.1.side)
        (Declaration.rolesOn (rs.map (·.declaration)) formatName) ps ∧
      ∀ policy, planAll formats rs o policy formatName = ps.foldlM (add policy formatName) [] := by
  have hplan : ∀ x ∈ occasions rs formatName, ∃ p,
      x.2.declaration.plan? formats o x.1 = some (.ok p) ∧
        p.Leads formats o x.2.declaration x.1.side := by
    rintro ⟨⟨shape, side⟩, r⟩ hx
    obtain ⟨hr, rfl, -⟩ := mem_occasions.mp hx
    obtain ⟨g, hg⟩ := hf r hr side.other
    obtain ⟨p, hp⟩ := r.declaration.exists_plan? (o := o) hg
    exact ⟨p, hp, Declaration.leads_of_plan? hp⟩
  obtain ⟨ps, hps⟩ := exists_forall₂ hplan
  refine ⟨ps, ?_, fun policy => ?_⟩
  · rw [← map_occasions, List.forall₂_map_left_iff]
    exact hps.imp fun _ _ h => h.2
  · rw [planAll, hn]
    exact collect_eq_foldlM (hps.imp fun _ _ h => h.1) []

end AccessorPlan

/-- The accessors of a format are planned for the roles played on it. If no two of them have one
name, either policy gives all of them in order. Otherwise the first that repeats a name is reported
with the relation that had the name before, or else the last of each name is kept. -/
theorem plans_by_policy (fs : List DataFormat) (ds : List Declaration) (o : SqlOptions)
    (s : Schema) (h : Schema.create fs ds o = .ok s) (formatName : String)
    (hn : formatName ∈ s.formatNames) :
    ∃ ps, List.Forall₂ (fun x p => p.Leads s.formats s.options x.2 x.1.side)
        (Declaration.rolesOn ds formatName) ps ∧
      ((ps.map (·.name)).Nodup →
        s.plans .fail formatName = .ok ps ∧ s.plans .overwrite formatName = .ok ps) ∧
      (¬ (ps.map (·.name)).Nodup →
        ∃ front p rest q, ps = front ++ p :: rest ∧ (front.map (·.name)).Nodup ∧ q ∈ front ∧
          q.name = p.name ∧
          s.plans .fail formatName =
            .error (.duplicateAccessor formatName p.name q.relation p.relation)) ∧
      ∃ kept, s.plans .overwrite formatName = .ok kept ∧ AccessorPlan.Latest ps kept := by
  obtain ⟨ha, rfl, hr, rfl⟩ := (Schema.create_eq_ok_iff fs ds o s).mp h
  obtain ⟨f, hf⟩ := DataFormat.exists_find? hn
  obtain ⟨ps, hps, hplan⟩ :=
    AccessorPlan.exists_planAll (o := s.options) hf (Schema.exists_find?_endpoint ha hr)
  rw [show s.relations.toList.map (·.declaration) = ds from Schema.declarations_eq hr] at hps
  refine ⟨ps, hps, fun hd => ⟨?_, ?_⟩, fun hd => ?_, ?_⟩
  · exact (hplan .fail).trans (AccessorPlan.foldlM_add_of_nodup hd)
  · exact (hplan .overwrite).trans (AccessorPlan.foldlM_add_of_nodup hd)
  · obtain ⟨front, p, rest, q, he, hfront, hq, hqp, herror⟩ :=
      AccessorPlan.foldlM_add_fail formatName AccessorPlan.Latest.nil.nodup hd
    exact ⟨front, p, rest, q, he, hfront, hq, hqp, (hplan .fail).trans herror⟩
  · obtain ⟨kept, hk, hl⟩ := AccessorPlan.Latest.nil.foldlM_add ps
    exact ⟨kept, (hplan .overwrite).trans hk, hl⟩

/-- Users call those who invited them and those whom they invited by one name. -/
def peering : List Declaration :=
  [⟨.manyToMany, ⟨⟨"review", "id"⟩, none⟩, ⟨⟨"user", "id"⟩, none⟩⟩,
    ⟨.oneToOne, ⟨⟨"user", "id"⟩, some "getPeer"⟩, ⟨⟨"user", "inviterId"⟩, some "getPeer"⟩⟩]

def peerSchema : Schema where
  formats := reviewSchema.formats
  relations := ⟨peering.map (·.relation .standard), by decide⟩
  options := .standard

/-- Of the accessors from both ends of one relation the second is kept in place of the first. -/
theorem plans_by_policy_peerSchema :
    Schema.create peerSchema.formats peering .standard = .ok peerSchema ∧
      "user" ∈ peerSchema.formatNames ∧
      peerSchema.plans .fail "user" =
        .error (.duplicateAccessor "user" "getPeer" "user.id <--> user.inviterId"
          "user.id <--> user.inviterId") ∧
      ∃ ps kept, ps.length = 3 ∧ ¬ (ps.map (·.name)).Nodup ∧
        peerSchema.plans .overwrite "user" = .ok kept ∧ AccessorPlan.Latest ps kept ∧
        kept.map (fun p => (p.name, p.role)) =
          [("getPeer", ⟨.oneToOne, .second⟩),
            ("getRelatedReviewRecordsOnId", ⟨.manyToMany, .second⟩)] := by
  have hs : Schema.create peerSchema.formats peering .standard = .ok peerSchema := by rfl
  have hn : "user" ∈ peerSchema.formatNames := .tail _ (.head _)
  have he : peerSchema.plans .fail "user" = .error (.duplicateAccessor "user" "getPeer"
      "user.id <--> user.inviterId" "user.id <--> user.inviterId") := by rfl
  obtain ⟨ps, hps, hdistinct, -, kept, hk, hl⟩ := plans_by_policy _ _ _ _ hs "user" hn
  have hlength : ps.length = 3 := hps.length_eq.symm
  have hrepeated : ¬ (ps.map (·.name)).Nodup := fun hd => by
    have hok := (hdistinct hd).1
    rw [he] at hok
    cases hok
  refine ⟨hs, hn, he, ps, kept, hlength, hrepeated, hk, hl, ?_⟩
  obtain ⟨kept', hk', hroles⟩ : ∃ kept', peerSchema.plans .overwrite "user" = .ok kept' ∧
      kept'.map (fun p => (p.name, p.role)) =
        [("getPeer", ⟨.oneToOne, .second⟩),
          ("getRelatedReviewRecordsOnId", ⟨.manyToMany, .second⟩)] := ⟨_, rfl, rfl⟩
  obtain rfl := Except.ok.inj (hk.symm.trans hk')
  exact hroles

end Schemata
