import Mathlib.Data.Finset.Max
import Mathlib.Data.String.Basic
import Schemata.Proofs.Ordering.Arrangement

/-!
What is reported when sorting leaves formats over. Formats that reach each other along foreign keys
form a component, and the graph has a component of several formats exactly when it has a cycle. The
walk leaves every format behind at some time, so each component is complete when the last of its
formats is left. The first that is complete is the one that is reported.
-/
namespace Schemata

/-- Each of the formats is reached from each of them along foreign keys, and no other format is both
reached from them and leads back to them. -/
structure StronglyConnected (rs : List Relation) (fs : List String) : Prop where
  reaches : ∀ a ∈ fs, ∀ b ∈ fs, Relation.ReflTransGen (Precedes rs) a b
  maximal : ∀ a ∈ fs, ∀ b ∈ fs, ∀ c, Relation.ReflTransGen (Precedes rs) a c →
    Relation.ReflTransGen (Precedes rs) c b → c ∈ fs

namespace FormatGraph

variable {g : FormatGraph}

/-! ### Reachable formats -/

/-- The format `n` comes after `m` along edges, or is the same. -/
def Reaches (g : FormatGraph) (m n : Nat) : Prop :=
  Relation.ReflTransGen (fun a b => (a, b) ∈ g.edges) m n

/-- Formats of the graph, those of the list and those to which an edge leads from it. -/
def grow (g : FormatGraph) (ns : List Nat) : List Nat :=
  g.nodes.filter fun n => ns.contains n || ns.any fun m => g.edges.contains (m, n)

/-- No edge leads out of the list. -/
def Closed (g : FormatGraph) (ns : List Nat) : Prop :=
  ∀ m n, (m, n) ∈ g.edges → m ∈ ns → n ∈ ns

/-- Distinct formats of the graph. -/
structure Within (g : FormatGraph) (ns : List Nat) : Prop where
  nodup : ns.Nodup
  bounded : ∀ n ∈ ns, n < g.size

theorem reach_succ (g : FormatGraph) (steps : Nat) (ns : List Nat) :
    g.reach (steps + 1) ns = g.reach steps (g.grow ns) := rfl

@[simp] theorem mem_grow (g : FormatGraph) (ns : List Nat) (n : Nat) :
    n ∈ g.grow ns ↔ n < g.size ∧ (n ∈ ns ∨ ∃ m ∈ ns, (m, n) ∈ g.edges) := by
  simp [grow, nodes]

theorem within_singleton {n : Nat} (hn : n < g.size) : g.Within [n] := by
  constructor
  · simp
  · simpa using hn

theorem within_grow (g : FormatGraph) (ns : List Nat) : g.Within (g.grow ns) where
  nodup := List.nodup_range.filter _
  bounded := fun n hn => ((g.mem_grow ns n).mp hn).1

namespace Within

variable {ns : List Nat}

theorem length_le (h : g.Within ns) : ns.length ≤ g.size := by
  have hs : ns ⊆ List.range g.size := fun n hn => List.mem_range.mpr (h.bounded n hn)
  simpa using (List.subperm_of_subset h.nodup hs).length_le

theorem subset_grow (h : g.Within ns) : ns ⊆ g.grow ns :=
  fun n hn => (g.mem_grow ns n).mpr ⟨h.bounded n hn, .inl hn⟩

theorem reach (h : g.Within ns) (steps : Nat) : g.Within (g.reach steps ns) := by
  induction steps generalizing ns with
  | zero => exact h
  | succ steps ih => exact ih (g.within_grow ns)

theorem subset_reach (h : g.Within ns) (steps : Nat) : ns ⊆ g.reach steps ns := by
  induction steps generalizing ns with
  | zero => exact List.Subset.refl ns
  | succ steps ih => exact List.Subset.trans h.subset_grow (ih (g.within_grow ns))

/-- What is closed grows no further. -/
theorem closed_reach (h : g.Within ns) (hc : g.Closed ns) (steps : Nat) :
    g.Closed (g.reach steps ns) := by
  induction steps generalizing ns with
  | zero => exact hc
  | succ steps ih =>
    refine ih (g.within_grow ns) fun m n he hm => ?_
    have hmn : m ∈ ns := by
      obtain ⟨-, hm | ⟨k, hk, hkm⟩⟩ := (g.mem_grow ns m).mp hm
      · exact hm
      · exact hc k m hkm hk
    exact h.subset_grow (hc m n he hmn)

/-- What is not closed grows by some format. -/
theorem length_lt_grow (hg : g.WellFormed) (h : g.Within ns) (hc : ¬ g.Closed ns) :
    ns.length < (g.grow ns).length := by
  simp only [Closed, not_forall] at hc
  obtain ⟨m, n, he, hm, hn⟩ := hc
  have hnew : n ∈ g.grow ns := (g.mem_grow ns n).mpr ⟨(hg.bounded _ he).2, .inr ⟨m, hm, he⟩⟩
  have hs : n :: ns ⊆ g.grow ns := List.cons_subset.mpr ⟨hnew, h.subset_grow⟩
  exact (List.subperm_of_subset (List.nodup_cons.mpr ⟨hn, h.nodup⟩) hs).length_le

theorem closed_or_length_le (hg : g.WellFormed) (h : g.Within ns) (steps : Nat) :
    g.Closed (g.reach steps ns) ∨ ns.length + steps ≤ (g.reach steps ns).length := by
  induction steps generalizing ns with
  | zero => exact .inr (Nat.le_refl _)
  | succ steps ih =>
    by_cases hc : g.Closed ns
    · exact .inl (h.closed_reach hc (steps + 1))
    · have hlt := h.length_lt_grow hg hc
      refine (ih (g.within_grow ns)).imp_right fun hl => ?_
      rw [reach_succ]
      omega

end Within

/-- One round for each format is enough. -/
theorem closed_reachable (hg : g.WellFormed) {n : Nat} (hn : n < g.size) :
    g.Closed (g.reachable n) := by
  have hw := within_singleton hn
  refine (hw.closed_or_length_le hg g.size).resolve_right fun hl => ?_
  have hle := (hw.reach g.size).length_le
  rw [List.length_singleton] at hl
  omega

theorem exists_reaches {steps : Nat} {ns : List Nat} {n : Nat} (h : n ∈ g.reach steps ns) :
    ∃ m ∈ ns, g.Reaches m n := by
  induction steps generalizing ns with
  | zero => exact ⟨n, h, .refl⟩
  | succ steps ih =>
    obtain ⟨m, hm, hmn⟩ := ih h
    obtain ⟨-, hm | ⟨k, hk, hkm⟩⟩ := (g.mem_grow ns m).mp hm
    · exact ⟨m, hm, hmn⟩
    · exact ⟨k, hk, .head hkm hmn⟩

theorem mem_reachable_iff (hg : g.WellFormed) {m n : Nat} (hm : m < g.size) :
    n ∈ g.reachable m ↔ g.Reaches m n := by
  constructor
  · intro h
    obtain ⟨k, hk, hkn⟩ := exists_reaches h
    exact List.mem_singleton.mp hk ▸ hkn
  · intro h
    induction h with
    | refl => exact (within_singleton hm).subset_reach g.size (.head _)
    | tail _ he ih => exact closed_reachable hg hm _ _ he ih

/-! ### Components -/

theorem mem_component_iff (hg : g.WellFormed) {m n : Nat} (hm : m < g.size) :
    n ∈ g.component m ↔ g.Reaches m n ∧ g.Reaches n m := by
  have hw := (within_singleton hm).reach g.size
  rw [component, List.mem_filter, List.contains_iff_mem]
  constructor
  · rintro ⟨hn, hb⟩
    exact ⟨(mem_reachable_iff hg hm).mp hn, (mem_reachable_iff hg (hw.bounded n hn)).mp hb⟩
  · rintro ⟨hn, hb⟩
    have hr := (mem_reachable_iff hg hm).mpr hn
    exact ⟨hr, (mem_reachable_iff hg (hw.bounded n hr)).mpr hb⟩

theorem within_component {n : Nat} (hn : n < g.size) : g.Within (g.component n) := by
  have hw := (within_singleton hn).reach g.size
  exact ⟨hw.nodup.filter _, fun m hm => hw.bounded m (List.mem_filter.mp hm).1⟩

/-- The members of a component have this component in common. -/
theorem component_perm (hg : g.WellFormed) {m n : Nat} (hm : m < g.size)
    (hn : n ∈ g.component m) : (g.component n).Perm (g.component m) := by
  have hb : n < g.size := (within_component hm).bounded n hn
  obtain ⟨hmn, hnm⟩ := (mem_component_iff hg hm).mp hn
  rw [List.perm_ext_iff_of_nodup (within_component hb).nodup (within_component hm).nodup]
  intro k
  rw [mem_component_iff hg hb, mem_component_iff hg hm]
  constructor
  · exact fun ⟨hk, hkn⟩ => ⟨hmn.trans hk, hkn.trans hnm⟩
  · exact fun ⟨hk, hkm⟩ => ⟨hnm.trans hk, hkm.trans hmn⟩

/-- On a cycle there is always a second format, since no edge leads back to its own start. -/
theorem one_lt_length_component (hg : g.WellFormed) (hl : ∀ n, (n, n) ∉ g.edges) {n : Nat}
    (h : Relation.TransGen (fun a b => (a, b) ∈ g.edges) n n) :
    n < g.size ∧ 1 < (g.component n).length := by
  obtain ⟨m, he, hmn⟩ := Relation.TransGen.head'_iff.mp h
  have hn : n < g.size := (hg.bounded _ he).1
  have hne : n ≠ m := fun e => hl n (e ▸ he)
  have hs : [n, m] ⊆ g.component n := by
    intro k hk
    rw [mem_component_iff hg hn]
    obtain rfl | hk := List.mem_cons.mp hk
    · exact ⟨.refl, .refl⟩
    · obtain rfl := List.mem_singleton.mp hk
      exact ⟨.single he, hmn⟩
  have hnd : [n, m].Nodup := by simpa using hne
  exact ⟨hn, (List.subperm_of_subset hnd hs).length_le⟩

/-! ### The walk -/

/-- The walk has gone on from `w` to `w'`: whatever it has seen in between it has also left. -/
structure Walk.Continues (g : FormatGraph) (w w' : Walk) : Prop where
  seen : w.seen ⊆ w'.seen
  finished : w.finished ⊆ w'.finished
  left : ∀ n ∈ w'.seen, n ∈ w.seen ∨ n ∈ w'.finished
  bounded : ∀ n ∈ w'.finished, n ∈ w.finished ∨ n < g.size

namespace Walk.Continues

theorem refl (g : FormatGraph) (w : Walk) : Continues g w w :=
  ⟨List.Subset.refl _, List.Subset.refl _, fun _ => .inl, fun _ => .inl⟩

theorem trans {w w' w'' : Walk} (h : Continues g w w') (h' : Continues g w' w'') :
    Continues g w w'' where
  seen := List.Subset.trans h.seen h'.seen
  finished := List.Subset.trans h.finished h'.finished
  left n hn := (h'.left n hn).elim (fun hn => (h.left n hn).imp_right (h'.finished ·)) .inr
  bounded n hn := (h'.bounded n hn).elim (h.bounded n) .inr

theorem foldl {f : Walk → Nat → Walk} {ns : List Nat}
    (hf : ∀ w, ∀ n ∈ ns, Continues g w (f w n)) (w : Walk) : Continues g w (ns.foldl f w) := by
  induction ns generalizing w with
  | nil => exact refl g w
  | cons n ns ih =>
    exact (hf w n (.head _)).trans (ih (fun w m hm => hf w m (.tail _ hm)) (f w n))

end Walk.Continues

/-- A visit leaves all that it sees, the format that it starts from last. -/
theorem visit_continues (hg : g.WellFormed) (depth : Nat) (w : Walk) {n : Nat} (hn : n < g.size) :
    Walk.Continues g w (g.visit depth w n) := by
  induction depth generalizing w n with
  | zero => exact .refl g w
  | succ depth ih =>
    rw [visit]
    split
    · exact .refl g w
    · have hb : ∀ m ∈ (g.successors n).reverse, m < g.size := by
        intro m hm
        exact (hg.bounded (n, m) (by simpa using hm)).2
      obtain ⟨hs, hf, hl, hbd⟩ := Walk.Continues.foldl (g := g)
        (fun w m hm => ih w (hb m hm)) { w with seen := n :: w.seen }
      refine ⟨fun m hm => hs (.tail _ hm), fun m hm => List.mem_append_left _ (hf hm), ?_, ?_⟩
      · intro m hm
        rcases hl m hm with hm | hm
        · rcases List.mem_cons.mp hm with rfl | hm
          · exact .inr (by simp)
          · exact .inl hm
        · exact .inr (List.mem_append_left _ hm)
      · intro m hm
        rcases List.mem_append.mp hm with hm | hm
        · exact hbd m hm
        · exact .inr (List.mem_singleton.mp hm ▸ hn)

theorem mem_seen_visit (hg : g.WellFormed) (depth : Nat) (w : Walk) (n : Nat) :
    n ∈ (g.visit (depth + 1) w n).seen := by
  rw [visit]
  split
  · exact List.contains_iff_mem.mp ‹_›
  · have hb : ∀ w, ∀ m ∈ (g.successors n).reverse, Walk.Continues g w (g.visit depth w m) :=
      fun w m hm => visit_continues hg depth w (hg.bounded (n, m) (by simpa using hm)).2
    exact (Walk.Continues.foldl hb _).seen (.head _)

/-- The walk leaves the formats of the graph and no others. -/
theorem mem_finishOrder (hg : g.WellFormed) (n : Nat) : n ∈ g.finishOrder ↔ n < g.size := by
  have hv : ∀ ns ⊆ g.nodes, ∀ w, Walk.Continues g w (ns.foldl (g.visit (g.size + 1)) w) :=
    fun ns hns => Walk.Continues.foldl fun w m hm =>
      visit_continues hg _ w (List.mem_range.mp (hns hm))
  have hw := hv g.nodes (List.Subset.refl _) ⟨[], []⟩
  constructor
  · exact fun h => (hw.bounded n h).resolve_left (by simp)
  · intro hn
    have hm : n ∈ g.nodes := List.mem_range.mpr hn
    obtain ⟨before, after, hns⟩ := List.append_of_mem hm
    refine (hw.left n ?_).resolve_left (by simp)
    rw [hns, List.foldl_append, List.foldl_cons]
    refine (hv after ?_ _).seen (mem_seen_visit hg _ _ n)
    intro m hm
    rw [hns]
    simp [hm]

/-! ### The component that is reported -/

/-- The component of a format, if it has several and this is the one that the walk leaves last. -/
def complete? (g : FormatGraph) (n : Nat) : Option (List Nat) :=
  let c := g.component n
  if 1 < c.length && c.all fun m => g.finishOrder.idxOf m ≤ g.finishOrder.idxOf n then some c
  else none

theorem firstCycle_eq (g : FormatGraph) :
    g.firstCycle = (g.finishOrder.findSome? g.complete?).getD [] := rfl

theorem complete?_eq_some_iff (g : FormatGraph) (n : Nat) (c : List Nat) :
    g.complete? n = some c ↔ g.component n = c ∧ 1 < c.length ∧
      ∀ m ∈ c, g.finishOrder.idxOf m ≤ g.finishOrder.idxOf n := by
  simp only [complete?, Option.ite_none_right_eq_some, Bool.and_eq_true, decide_eq_true_eq,
    List.all_eq_true, Option.some.injEq]
  constructor
  · rintro ⟨h, rfl⟩
    exact ⟨rfl, h⟩
  · rintro ⟨rfl, h⟩
    exact ⟨h, rfl⟩

/-- When the walk leaves the last format of a component, the component is complete. -/
theorem exists_complete? (hg : g.WellFormed) {n : Nat} (hn : n < g.size)
    (hlen : 1 < (g.component n).length) :
    ∃ m ∈ g.finishOrder, ∃ c, g.complete? m = some c := by
  have hself : n ∈ g.component n := (mem_component_iff hg hn).mpr ⟨.refl, .refl⟩
  obtain ⟨m, hm, hmax⟩ := (g.component n).toFinset.exists_max_image g.finishOrder.idxOf
    ⟨n, List.mem_toFinset.mpr hself⟩
  rw [List.mem_toFinset] at hm
  have hp := component_perm hg hn hm
  have hb : m < g.size := (within_component hn).bounded m hm
  refine ⟨m, (mem_finishOrder hg m).mpr hb, _, (g.complete?_eq_some_iff m _).mpr ⟨rfl, ?_, ?_⟩⟩
  · rw [hp.length_eq]
    exact hlen
  · exact fun k hk => hmax k (List.mem_toFinset.mpr (hp.mem_iff.mp hk))

/-- With a cycle in the graph a component of several formats is reported. -/
theorem firstCycle_eq_component (hg : g.WellFormed) (hl : ∀ n, (n, n) ∉ g.edges)
    (ha : ¬ g.Acyclic) :
    ∃ n < g.size, g.firstCycle = g.component n ∧ 1 < (g.component n).length := by
  simp only [Acyclic, not_forall, not_not] at ha
  obtain ⟨k, hk⟩ := ha
  obtain ⟨hb, hlen⟩ := one_lt_length_component hg hl hk
  obtain ⟨m, hm, c, hc⟩ := exists_complete? hg hb hlen
  have hfound : (g.finishOrder.findSome? g.complete?).isSome :=
    List.findSome?_isSome_iff.mpr ⟨m, hm, Option.isSome_of_eq_some hc⟩
  obtain ⟨c, hc⟩ := Option.isSome_iff_exists.mp hfound
  obtain ⟨n, hn, hnc⟩ := List.exists_of_findSome?_eq_some hc
  obtain ⟨rfl, hlen, -⟩ := (g.complete?_eq_some_iff n c).mp hnc
  refine ⟨n, (mem_finishOrder hg n).mp hn, ?_, hlen⟩
  rw [firstCycle_eq, hc, Option.getD_some]

namespace Represents

variable {names : List String} {rs : List Relation}

/-- Relations within one format order nothing. -/
theorem not_mem_edges_self (h : g.Represents names rs) (n : Nat) : (n, n) ∉ g.edges := by
  intro he
  obtain ⟨r, -, ho⟩ := h.precedes_of_mem_edges he
  exact ho.2.2.2 rfl

theorem reaches_nameOf (h : g.Represents names rs) {m n : Nat} (hr : g.Reaches m n) :
    Relation.ReflTransGen (Precedes rs) (g.nameOf m) (g.nameOf n) :=
  hr.lift g.nameOf fun _ _ he => h.precedes_of_mem_edges he

theorem reaches_idxOf (h : g.Represents names rs) {a b : String}
    (hr : Relation.ReflTransGen (Precedes rs) a b) :
    g.Reaches (g.names.idxOf a) (g.names.idxOf b) :=
  hr.lift g.names.idxOf fun _ _ hp => h.mem_edges_of_precedes hp

/-- The names of a component are those of the formats that a member reaches and is reached by. -/
theorem mem_map_component (h : g.Represents names rs) {n : Nat} (hn : n < g.size) (a : String) :
    a ∈ (g.component n).map g.nameOf ↔
      Relation.ReflTransGen (Precedes rs) (g.nameOf n) a ∧
        Relation.ReflTransGen (Precedes rs) a (g.nameOf n) := by
  rw [List.mem_map]
  constructor
  · rintro ⟨m, hm, rfl⟩
    obtain ⟨hnm, hmn⟩ := (mem_component_iff h.wellFormed hn).mp hm
    exact ⟨h.reaches_nameOf hnm, h.reaches_nameOf hmn⟩
  · rintro ⟨hna, han⟩
    have hm : g.names.idxOf a ∈ g.component n := by
      rw [mem_component_iff h.wellFormed hn]
      simpa [idxOf_nameOf h.nodup_names hn] using
        And.intro (h.reaches_idxOf hna) (h.reaches_idxOf han)
    have ha : g.names.idxOf a < g.names.length := (within_component hn).bounded _ hm
    exact ⟨_, hm, FormatGraph.nameOf_idxOf (List.idxOf_lt_length_iff.mp ha)⟩

theorem nodup_map_nameOf (h : g.Represents names rs) {ns : List Nat} (hns : g.Within ns) :
    (ns.map g.nameOf).Nodup := by
  refine hns.nodup.map_on fun m hm n hn he => ?_
  rw [← idxOf_nameOf h.nodup_names (hns.bounded m hm), he,
    idxOf_nameOf h.nodup_names (hns.bounded n hn)]

theorem stronglyConnected_component (h : g.Represents names rs) {n : Nat} (hn : n < g.size) :
    StronglyConnected rs ((g.component n).map g.nameOf) where
  reaches a ha b hb :=
    ((h.mem_map_component hn a).mp ha).2.trans ((h.mem_map_component hn b).mp hb).1
  maximal a ha b hb c hac hcb :=
    (h.mem_map_component hn c).mpr ⟨((h.mem_map_component hn a).mp ha).1.trans hac,
      hcb.trans ((h.mem_map_component hn b).mp hb).2⟩

end Represents

end FormatGraph

/-! ### The report -/

open FormatGraph

theorem StronglyConnected.perm {rs : List Relation} {fs gs : List String} (hp : fs.Perm gs)
    (h : StronglyConnected rs fs) : StronglyConnected rs gs where
  reaches a ha b hb := h.reaches a (hp.mem_iff.mpr ha) b (hp.mem_iff.mpr hb)
  maximal a ha b hb c hac hcb :=
    hp.mem_iff.mp (h.maximal a (hp.mem_iff.mpr ha) b (hp.mem_iff.mpr hb) c hac hcb)

/-- Sorted, distinct names ascend. -/
theorem ascending_mergeSort {fs : List String} (h : fs.Nodup) :
    (fs.mergeSort fun a b => decide (a ≤ b)).Pairwise (· < ·) := by
  have hs : (fs.mergeSort fun a b => decide (a ≤ b)).Pairwise fun a b => decide (a ≤ b) = true :=
    List.pairwise_mergeSort (by simpa using fun _ _ _ => String.le_trans)
      (by simpa using String.le_total) fs
  have hn : (fs.mergeSort fun a b => decide (a ≤ b)).Nodup :=
    (List.mergeSort_perm fs _).nodup_iff.mpr h
  refine (hs.and hn).imp fun ⟨hle, hne⟩ => ?_
  exact lt_of_le_of_ne (of_decide_eq_true hle) hne

/-- Where foreign keys go in a circle, the formats of one component are reported: in ascending
order, several of them, each waiting for each other one, and all that wait for and are waited for by
one of them. -/
theorem cycle_is_component (names : List String) (rs : List Relation) (fs : List String)
    (h : provisioningOrder names rs = .error (.cycle fs)) :
    fs.Pairwise (· < ·) ∧ 2 ≤ fs.length ∧ fs ⊆ names ∧ StronglyConnected rs fs := by
  have hk : Known names rs := by
    by_contra hk
    obtain ⟨before, r, after, a, b, rfl, hb, ho, hab⟩ := exists_first_unknown hk
    rw [provisioningOrder_of_unknown hb ho hab] at h
    cases h
  obtain ⟨g, hg, hrep⟩ := ofRelations_of_known names hk
  have hwf := hrep.wellFormed
  rw [provisioningOrder_of_represents hg] at h
  split at h
  case isFalse => cases h
  case isTrue hs =>
    have ha : ¬ g.Acyclic := by
      rwa [← size_le_length_sorted_iff hwf, Nat.not_le]
    obtain ⟨n, hn, hc, hlen⟩ := firstCycle_eq_component hwf hrep.not_mem_edges_self ha
    rw [hc] at h
    have hp := List.mergeSort_perm ((g.component n).map g.nameOf) fun a b => decide (a ≤ b)
    obtain rfl : _ = fs := SchemaError.cycle.inj (Except.error.inj h)
    have hw : g.Within (g.component n) := within_component hn
    refine ⟨ascending_mergeSort (hrep.nodup_map_nameOf hw), ?_, ?_,
      (hrep.stronglyConnected_component hn).perm hp.symm⟩
    · rw [hp.length_eq, List.length_map]
      exact hlen
    · intro a hma
      obtain ⟨m, hm, rfl⟩ := List.mem_map.mp (hp.mem_iff.mp hma)
      have hb : m < g.names.length := hw.bounded m hm
      rw [← hrep.mem_names, nameOf_eq_getElem hb]
      exact List.getElem_mem hb

/-- Teachers belong to a school, schools are headed by a teacher, and both have rooms: a school has
a hall, and teachers have offices in rooms. -/
def schooling : List Relation :=
  [⟨.oneToMany, ⟨⟨"school", "id"⟩, none⟩, ⟨⟨"teacher", "schoolId"⟩, none⟩⟩,
    ⟨.oneToOne, ⟨⟨"teacher", "id"⟩, none⟩, ⟨⟨"room", "ownerId"⟩, none⟩⟩,
    ⟨.oneToOne, ⟨⟨"room", "id"⟩, none⟩, ⟨⟨"school", "hallId"⟩, none⟩⟩,
    ⟨.oneToMany, ⟨⟨"school", "id"⟩, none⟩, ⟨⟨"pupil", "schoolId"⟩, none⟩⟩].map
      fun d : Declaration => d.relation .standard

theorem cycle_is_component_schooling :
    provisioningOrder ["pupil", "room", "teacher", "school"] schooling =
        .error (.cycle ["room", "school", "teacher"]) ∧
      StronglyConnected schooling ["room", "school", "teacher"] := by
  have hs : (["room", "teacher", "school"].mergeSort fun a b => decide (a ≤ b)) =
      ["room", "school", "teacher"] := by simp [List.mergeSort]
  have h : provisioningOrder ["pupil", "room", "teacher", "school"] schooling =
      .error (.cycle ["room", "school", "teacher"]) := by
    rw [← hs]
    rfl
  obtain ⟨-, -, -, hc⟩ := cycle_is_component _ _ _ h
  exact ⟨h, hc⟩

end Schemata
