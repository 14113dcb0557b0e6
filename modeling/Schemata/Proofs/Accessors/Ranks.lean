import Schemata.CommandLine
import Schemata.Proofs.Accessors.Collisions
import Mathlib.Data.List.Dedup
import Mathlib.Data.Prod.Lex

/-!
The ranks of accessors. Accessors are planned role by role, and within a role in the order of
declaration; this is their rank. Plans of different names are listed by rank. A plan that takes the
name of another takes its place in the list too, while its rank is its own: then the list is by rank
exactly if the names are planned for the last time in the order in which they are planned for the
first time.
-/
namespace Schemata

/-- The rank of a plan: by its role, and within a role by its relation. -/
def Schema.rank (s : Schema) (p : AccessorPlan) : Nat ×ₗ Nat :=
  toLex (Role.all.idxOf p.role, s.relations.names.idxOf p.relation)

/-- Each plan is of a higher rank than the plan before it. -/
def Schema.Ranked (s : Schema) (plans : List AccessorPlan) : Prop :=
  plans.IsChain fun p q => s.rank p < s.rank q

theorem Schema.ranked_iff {s : Schema} {plans : List AccessorPlan} :
    s.Ranked plans ↔ plans.Pairwise fun p q => s.rank p < s.rank q :=
  List.isChain_iff_pairwise

namespace Declaration

/-- The names of the accessors for the roles played on a format, in the order of the roles. -/
def accessorNamesOn (ds : List Declaration) (formatName : String) : List String :=
  (rolesOn ds formatName).filterMap fun x => x.2.accessorName? x.1

end Declaration

/-! ### Roles in order -/

theorem pairwise_idxOf {α : Type} [DecidableEq α] {xs : List α} (h : xs.Nodup) :
    xs.Pairwise fun x y => xs.idxOf x < xs.idxOf y := by
  rw [List.pairwise_iff_getElem]
  intro i j hi hj hij
  rw [h.idxOf_getElem i hi, h.idxOf_getElem j hj]
  exact hij

namespace Declaration

variable {ds : List Declaration}

theorem pairwise_rolesOn (hn : (ds.map (·.name)).Nodup) (formatName : String) :
    (rolesOn ds formatName).Pairwise fun x y =>
      toLex (Role.all.idxOf x.1, (ds.map (·.name)).idxOf x.2.name) <
        toLex (Role.all.idxOf y.1, (ds.map (·.name)).idxOf y.2.name) := by
  have hds := pairwise_idxOf hn
  have hroles : Role.all.Nodup := by decide
  rw [List.pairwise_map] at hds
  rw [rolesOn, List.pairwise_flatMap]
  constructor
  · intro role _
    rw [List.pairwise_map]
    refine (hds.filter _).imp fun {d e} h => ?_
    exact Prod.Lex.toLex_lt_toLex.mpr (.inr ⟨rfl, h⟩)
  · refine (pairwise_idxOf hroles).imp fun {r q} h x hx y hy => ?_
    obtain ⟨d, -, rfl⟩ := List.mem_map.mp hx
    obtain ⟨e, -, rfl⟩ := List.mem_map.mp hy
    exact Prod.Lex.toLex_lt_toLex.mpr (.inl h)

theorem shape_of_mem_rolesOn {formatName : String} {x : Role × Declaration}
    (h : x ∈ rolesOn ds formatName) : x.1.shape = x.2.shape := by
  obtain ⟨role, -, hx⟩ := List.mem_flatMap.mp h
  obtain ⟨d, hd, rfl⟩ := List.mem_map.mp hx
  simp only [List.mem_filter, decide_eq_true_iff] at hd
  exact hd.2.1.symm

end Declaration

namespace AccessorPlan

variable {s : Schema} {ds : List Declaration} {formatName : String} {ps kept : List AccessorPlan}

/-- What is planned for roles in order has their names, and is in order of rank. -/
theorem ranked_of_leads (hr : s.relations.names = ds.map (·.name))
    (h : List.Forall₂ (fun x p => p.Leads s.formats s.options x.2 x.1.side)
      (Declaration.rolesOn ds formatName) ps) :
    ps.map (·.name) = Declaration.accessorNamesOn ds formatName ∧ s.Ranked ps := by
  have hrole : List.Forall₂
      (fun x p => x.1.shape = x.2.shape ∧ p.Leads s.formats s.options x.2 x.1.side)
      (Declaration.rolesOn ds formatName) ps :=
    (List.forall₂_and_left _ _).mpr ⟨fun x hx => Declaration.shape_of_mem_rolesOn hx, h⟩
  have heq : ∀ (x : Role × Declaration) (p : AccessorPlan),
      (x.1.shape = x.2.shape ∧ p.Leads s.formats s.options x.2 x.1.side) →
      p.role = x.1 ∧ p.relation = x.2.name ∧ x.2.accessorName? x.1 = some p.name := by
    rintro ⟨⟨shape, side⟩, d⟩ p ⟨hs, hl⟩
    obtain rfl : shape = d.shape := hs
    exact ⟨hl.role, hl.relation, hl.name⟩
  constructor
  · refine (filterMap_eq_of_forall₂ ?_).symm
    rw [List.forall₂_map_right_iff]
    exact hrole.imp fun x p hx => (heq x p hx).2.2
  · have hranks : (Declaration.rolesOn ds formatName).map
        (fun x => toLex (Role.all.idxOf x.1, (ds.map (·.name)).idxOf x.2.name)) =
          ps.map s.rank := by
      rw [← List.forall₂_eq_eq_eq, List.forall₂_map_left_iff, List.forall₂_map_right_iff]
      refine hrole.imp fun x p hx => ?_
      obtain ⟨hrole, hrelation, -⟩ := heq x p hx
      rw [Schema.rank, hrole, hrelation, hr]
    have hn : (ds.map (·.name)).Nodup := hr ▸ s.relations.nodup
    rw [Schema.ranked_iff, ← List.pairwise_map (R := (· < ·)), ← hranks, List.pairwise_map]
    exact Declaration.pairwise_rolesOn hn formatName

/-! ### The last plan of each name -/

/-- Of the plans of each name the last, in the order of the plans. -/
def lasts : List AccessorPlan → List AccessorPlan
  | [] => []
  | p :: ps => if p.name ∈ ps.map (·.name) then lasts ps else p :: lasts ps

theorem lasts_sublist (ps : List AccessorPlan) : (lasts ps).Sublist ps := by
  induction ps with
  | nil => exact .slnil
  | cons p ps ih =>
    unfold lasts
    split
    · exact ih.cons p
    · exact ih.cons_cons p

theorem map_name_lasts (ps : List AccessorPlan) :
    (lasts ps).map (·.name) = (ps.map (·.name)).dedup := by
  induction ps with
  | nil => rfl
  | cons p ps ih =>
    rw [lasts, List.map_cons]
    split
    · rw [ih, List.dedup_cons_of_mem ‹_›]
    · rw [List.map_cons, ih, List.dedup_cons_of_notMem ‹_›]

theorem mem_lasts {front rest : List AccessorPlan} {p : AccessorPlan}
    (h : p.name ∉ rest.map (·.name)) : p ∈ lasts (front ++ p :: rest) := by
  induction front with
  | nil =>
    rw [List.nil_append, lasts, if_neg h]
    exact .head _
  | cons q front ih =>
    rw [List.cons_append, lasts]
    split
    · exact ih
    · exact .tail _ ih

/-- What is kept are the last plans, if not in their order. -/
theorem Latest.mem_iff (h : Latest ps kept) (p : AccessorPlan) : p ∈ kept ↔ p ∈ lasts ps := by
  have hto : ∀ p ∈ kept, p ∈ lasts ps := by
    intro p hp
    obtain ⟨front, rest, rfl, hrest⟩ := h.last p hp
    exact mem_lasts hrest
  have hn : ((lasts ps).map (·.name)).Nodup := map_name_lasts ps ▸ List.nodup_dedup _
  refine ⟨hto p, fun hp => ?_⟩
  obtain ⟨q, hq, hqp⟩ := List.mem_map.mp
    ((h.names p.name).mpr (List.mem_map_of_mem ((lasts_sublist ps).subset hp)))
  exact List.inj_on_of_nodup_map hn (hto q hq) hp hqp ▸ hq

/-! ### Names in order of their first plans -/

theorem names_of_add_overwrite {kept' : List AccessorPlan} {p : AccessorPlan}
    (h : add .overwrite formatName kept p = .ok kept') :
    kept'.map (·.name) =
      if p.name ∈ kept.map (·.name) then kept.map (·.name) else kept.map (·.name) ++ [p.name] := by
  split
  · rw [add_overwrite_of_mem ‹_›] at h
    rw [← Except.ok.inj h, map_name_replace]
  · rw [add_of_not_mem ‹_›] at h
    rw [← Except.ok.inj h, List.map_append, List.map_singleton]

/-- A name keeps the place that its first plan has given it. -/
theorem names_of_foldlM_overwrite (done : List AccessorPlan) {kept' : List AccessorPlan}
    (hk : kept.map (·.name) = (done.map (·.name)).eraseDups)
    (h : ps.foldlM (add .overwrite formatName) kept = .ok kept') :
    kept'.map (·.name) = ((done ++ ps).map (·.name)).eraseDups := by
  -- `done` are the plans that have led to `kept`
  induction ps generalizing done kept with
  | nil =>
    obtain rfl := Except.ok.inj h
    rw [List.append_nil, hk]
  | cons p ps ih =>
    rw [List.foldlM_cons] at h
    obtain ⟨kept₁, ha, h⟩ := bind_eq_ok_iff.mp h
    have h₁ : kept₁.map (·.name) = ((done ++ [p]).map (·.name)).eraseDups := by
      rw [names_of_add_overwrite ha, List.map_append, List.map_singleton,
        eraseDups_append_singleton, hk]
      simp only [List.mem_eraseDups]
    rw [ih _ h₁ h, List.append_assoc, List.singleton_append]

/-- Where the later plan replaces the earlier, the last of each name is kept, in the place of the
first. -/
theorem latest_of_foldlM (h : ps.foldlM (add .overwrite formatName) [] = .ok kept) :
    Latest ps kept ∧ kept.map (·.name) = (ps.map (·.name)).eraseDups := by
  obtain ⟨kept', hk, hl⟩ := Latest.nil.foldlM_add ps
  obtain rfl := Except.ok.inj (hk.symm.trans h)
  exact ⟨hl, names_of_foldlM_overwrite [] rfl h⟩

/-! ### Plans by rank -/

theorem eq_of_map_name_eq {ps qs : List AccessorPlan} (hm : ∀ p ∈ ps, p ∈ qs)
    (hn : (qs.map (·.name)).Nodup) (h : ps.map (·.name) = qs.map (·.name)) : ps = qs := by
  have hfind : ∀ xs : List AccessorPlan, (∀ p ∈ xs, p ∈ qs) →
      (xs.map (·.name)).filterMap (fun name => qs.find? (·.name == name)) = xs := by
    intro xs hxs
    rw [List.filterMap_map]
    exact (List.filterMap_congr fun p hp => find?_key hn (hxs p hp)).trans List.filterMap_some
  rw [← hfind ps hm, h, hfind qs fun _ hq => hq]

/-- The last plans are listed by rank exactly if their names stand where they are planned last. -/
theorem Latest.ranked_iff (hps : s.Ranked ps) (h : Latest ps kept) :
    s.Ranked kept ↔ kept.map (·.name) = (ps.map (·.name)).dedup := by
  have hl : (lasts ps).Pairwise fun p q => s.rank p < s.rank q :=
    (Schema.ranked_iff.mp hps).sublist (lasts_sublist ps)
  have hn : ((lasts ps).map (·.name)).Nodup := map_name_lasts ps ▸ List.nodup_dedup _
  rw [← map_name_lasts, Schema.ranked_iff]
  constructor
  · -- a list in strict order is determined by its elements
    intro hk
    have hirrefl : Std.Irrefl fun p q : AccessorPlan => s.rank p < s.rank q :=
      ⟨fun _ => lt_irrefl _⟩
    have hanti : Std.Antisymm fun p q : AccessorPlan => s.rank p < s.rank q :=
      ⟨fun _ _ hpq hqp => absurd hpq hqp.asymm⟩
    rw [hk.eq_of_mem_iff hl h.mem_iff]
  · intro hk
    rw [eq_of_map_name_eq (fun p hp => (h.mem_iff p).mp hp) hn hk]
    exact hl

end AccessorPlan

/-- Whatever the policy, the plans that come out are those that come out where the later replaces
the earlier. None is replaced where that is refused. -/
theorem AccessorPlan.foldlM_overwrite_of_ok {formatName : String} {policy : DuplicatePolicy}
    {ps plans : List AccessorPlan} (h : ps.foldlM (add policy formatName) [] = .ok plans) :
    ps.foldlM (add .overwrite formatName) [] = .ok plans ∧
      (policy = .fail → (ps.map (·.name)).Nodup) := by
  cases policy with
  | overwrite => exact ⟨h, nofun⟩
  | fail =>
    have hd : (ps.map (·.name)).Nodup := by
      by_contra hd
      have hd' : ¬ ((([] : List AccessorPlan) ++ ps).map (·.name)).Nodup := hd
      obtain ⟨_, _, _, _, _, _, _, _, he⟩ := foldlM_add_fail formatName Latest.nil.nodup hd'
      rw [he] at h
      cases h
    rw [foldlM_add_of_nodup (by simpa using hd), ← h, foldlM_add_of_nodup (by simpa using hd)]
    exact ⟨rfl, fun _ => hd⟩

namespace Schema

variable {s : Schema} {policy : DuplicatePolicy} {formatName : String} {plans : List AccessorPlan}

/-- The store of a format has the accessors that are planned, in their order. -/
theorem exists_store_of_plans (h : s.plans policy formatName = .ok plans) :
    ∃ t, Store.create s.formats s.relations.toList s.options policy formatName = .ok t ∧
      t.accessors.map (·.plan) = plans := by
  obtain ⟨t, ht⟩ := (Store.failAlike_create s.formats s.relations.toList s.options policy
    formatName).exists_ok_iff.mpr ⟨plans, h⟩
  obtain ⟨-, -, hp, -⟩ := Store.of_create_eq_ok ht
  exact ⟨t, ht, Except.ok.inj (hp.symm.trans h)⟩

/-- The accessors that are planned are printed in their order. -/
theorem inspectText_of_plans (h : s.plans policy formatName = .ok plans) :
    Command.inspectText s policy (some formatName) =
      .ok (Command.relationsText s.relations ++ Command.accessorsText formatName plans) := by
  obtain ⟨f, hf⟩ : ∃ f, s.requireFormat formatName = .ok f := by
    rw [Schema.plans, AccessorPlan.planAll] at h
    split at h
    · cases h
    · exact ⟨_, by rw [requireFormat, format?, ‹DataFormat.find? _ _ = _›]⟩
  simp only [Command.inspectText, Command.chosenFormats, hf, ok_bind, pure, Except.pure,
    List.mapM_cons, List.mapM_nil, h]
  simp [String.join]

end Schema

/-- The accessors of a format, of its store and in what is printed of it, are listed by rank exactly
if their names are planned for the last time in the order in which they are planned for the first
time. Where repeated names are refused they are always listed by rank. -/
theorem plans_ranked_iff (fs : List DataFormat) (ds : List Declaration) (o : SqlOptions)
    (s : Schema) (h : Schema.create fs ds o = .ok s) (formatName : String)
    (hn : formatName ∈ s.formatNames) (policy : DuplicatePolicy) (plans : List AccessorPlan)
    (hp : s.plans policy formatName = .ok plans) :
    (s.Ranked plans ↔
        (Declaration.accessorNamesOn ds formatName).eraseDups =
          (Declaration.accessorNamesOn ds formatName).dedup) ∧
      (policy = .fail → s.Ranked plans) ∧
      (∃ t, Store.create s.formats s.relations.toList s.options policy formatName = .ok t ∧
        t.accessors.map (·.plan) = plans) ∧
      Command.inspectText s policy (some formatName) =
        .ok (Command.relationsText s.relations ++ Command.accessorsText formatName plans) := by
  obtain ⟨ha, rfl, hr, rfl⟩ := (Schema.create_eq_ok_iff fs ds o s).mp h
  obtain ⟨f, hf⟩ := DataFormat.exists_find? hn
  obtain ⟨ps, hps, hplan⟩ :=
    AccessorPlan.exists_planAll (o := s.options) hf (Schema.exists_find?_endpoint ha hr)
  have hds : s.relations.toList.map (·.declaration) = ds := Schema.declarations_eq hr
  have hnames : s.relations.names = ds.map (·.name) := by
    rw [← hds, List.map_map]
    rfl
  rw [hds] at hps
  obtain ⟨hpsn, hranked⟩ := AccessorPlan.ranked_of_leads hnames hps
  obtain ⟨hover, hfail⟩ := AccessorPlan.foldlM_overwrite_of_ok ((hplan policy).symm.trans hp)
  obtain ⟨hl, hfirst⟩ := AccessorPlan.latest_of_foldlM hover
  have hiff := hl.ranked_iff hranked
  rw [hfirst, hpsn] at hiff
  refine ⟨hiff, fun hpolicy => hiff.mpr ?_, Schema.exists_store_of_plans hp,
    Schema.inspectText_of_plans hp⟩
  have hd := hpsn ▸ hfail hpolicy
  rw [eraseDups_of_nodup hd, hd.dedup]

/-- A name that is planned twice without another between keeps accessors in their order. -/
theorem plans_ranked_peerSchema :
    Schema.create peerSchema.formats peering .standard = .ok peerSchema ∧
      ∃ plans, peerSchema.plans .overwrite "user" = .ok plans ∧ plans.length = 2 ∧
        Declaration.accessorNamesOn peering "user" =
          ["getPeer", "getPeer", "getRelatedReviewRecordsOnId"] ∧
        peerSchema.Ranked plans := by
  have hs : Schema.create peerSchema.formats peering .standard = .ok peerSchema := by rfl
  obtain ⟨plans, hp, hl⟩ : ∃ plans, peerSchema.plans .overwrite "user" = .ok plans ∧
      plans.length = 2 := ⟨_, rfl, rfl⟩
  have hnames : Declaration.accessorNamesOn peering "user" =
      ["getPeer", "getPeer", "getRelatedReviewRecordsOnId"] := by rfl
  obtain ⟨hiff, -⟩ :=
    plans_ranked_iff _ _ _ _ hs "user" (.tail _ (.head _)) .overwrite plans hp
  refine ⟨hs, plans, hp, hl, hnames, hiff.mpr ?_⟩
  rw [hnames]
  decide

/-- The user that was invited last and the review that was written last are called alike. -/
def recentlyAdded : List Declaration :=
  [⟨.oneToOne, ⟨⟨"user", "id"⟩, none⟩, ⟨⟨"user", "inviterId"⟩, some "getLatest"⟩⟩,
    ⟨.oneToMany, ⟨⟨"user", "id"⟩, none⟩, ⟨⟨"review", "userId"⟩, some "getLatest"⟩⟩]

def latestSchema : Schema where
  formats := reviewSchema.formats
  relations := ⟨recentlyAdded.map (·.relation .standard), by decide⟩
  options := .standard

/-- An accessor to many records stands before one to a single record, in whose place it came. -/
theorem not_plans_ranked_latestSchema :
    Schema.create latestSchema.formats recentlyAdded .standard = .ok latestSchema ∧
      "user" ∈ latestSchema.formatNames ∧
      ∃ plans, latestSchema.plans .overwrite "user" = .ok plans ∧
        plans.map (fun p => (p.name, p.role)) =
          [("getLatest", ⟨.oneToMany, .first⟩),
            ("getRelatedUserRecordOnId", ⟨.oneToOne, .second⟩)] ∧
        ¬ latestSchema.Ranked plans := by
  obtain ⟨plans, hp, hroles, hranks⟩ : ∃ plans, latestSchema.plans .overwrite "user" = .ok plans ∧
      plans.map (fun p => (p.name, p.role)) =
        [("getLatest", ⟨.oneToMany, .first⟩), ("getRelatedUserRecordOnId", ⟨.oneToOne, .second⟩)] ∧
      plans.map latestSchema.rank = [toLex (2, 1), toLex (1, 0)] := ⟨_, rfl, rfl, rfl⟩
  refine ⟨by rfl, .tail _ (.head _), plans, hp, hroles, fun h => ?_⟩
  have hpair := (List.pairwise_map (R := (· < ·))).mpr (Schema.ranked_iff.mp h)
  rw [hranks] at hpair
  exact absurd hpair (by decide)

end Schemata
