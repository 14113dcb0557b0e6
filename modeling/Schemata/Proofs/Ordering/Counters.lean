import Mathlib.Data.Set.Card
import Schemata.Proofs.Ordering.Cycles

/-!
The counters of sorting, iteration by iteration. The counter of a format that is still to come is
the number of the formats before it that are still to come, and the queue holds those whose counter
is zero. So a counter is never lowered below zero, no format comes twice, and there are no more
iterations than formats.
-/
namespace Schemata.FormatGraph

variable {names : List String} {rs : List Relation} {g : FormatGraph}

/-- Relations that make a graph are represented by it. -/
theorem represents_of_ofRelations (h : ofRelations names rs = .ok g) : g.Represents names rs := by
  by_cases hk : Known names rs
  · obtain ⟨g', hg', hrep⟩ := ofRelations_of_known names hk
    obtain rfl := Except.ok.inj (hg'.symm.trans h)
    exact hrep
  · obtain ⟨before, r, after, a, b, rfl, hb, ho, hab⟩ := exists_first_unknown hk
    rw [ofRelations_of_unknown names hb ho hab] at h
    cases h

/-- Predecessors still to come, counted by name. -/
theorem Represents.pending_eq_ncard (h : g.Represents names rs) {out : List Nat}
    (ho : ∀ m ∈ out, m < g.size) {n : Nat} (hn : n < g.size) :
    g.pending out n = {a | Precedes rs a (g.nameOf n) ∧ a ∉ out.map g.nameOf}.ncard := by
  have hw : g.Within ((g.predecessors n).filter (· ∉ out)) := by
    refine ⟨(nodup_predecessors h.wellFormed n).filter _, fun m hm => ?_⟩
    have hm := List.mem_of_mem_filter hm
    exact (h.wellFormed.bounded (m, n) (by simpa using hm)).1
  have hset : {a | Precedes rs a (g.nameOf n) ∧ a ∉ out.map g.nameOf} =
      (((g.predecessors n).filter (· ∉ out)).map g.nameOf).toFinset := by
    ext a
    simp only [Set.mem_ofPred_eq, List.coe_toFinset, List.mem_map, List.mem_filter,
      mem_predecessors, decide_eq_true_iff]
    constructor
    · rintro ⟨hp, hout⟩
      have he := h.mem_edges_of_precedes hp
      have ha : g.nameOf (g.names.idxOf a) = a := (h.nameOf_idxOf hp).1
      rw [idxOf_nameOf h.nodup_names hn] at he
      exact ⟨g.names.idxOf a, ⟨he, fun hm => hout ⟨_, hm, ha⟩⟩, ha⟩
    · rintro ⟨m, ⟨he, hm⟩, rfl⟩
      refine ⟨h.precedes_of_mem_edges he, ?_⟩
      rintro ⟨k, hk, hkm⟩
      have hmk : k = m := by
        rw [← idxOf_nameOf h.nodup_names (ho k hk), hkm,
          idxOf_nameOf h.nodup_names (h.wellFormed.bounded _ he).1]
      exact hm (hmk ▸ hk)
  rw [hset, Set.ncard_coe_finset, List.toFinset_card_of_nodup (h.nodup_map_nameOf hw),
    List.length_map, pending]

namespace Sorting

/-- The state after a number of iterations. -/
inductive After (g : FormatGraph) : Nat → Sorting → Prop where
  | start : After g 0 (start g)
  | step {k : Nat} {s s' : Sorting} (h : After g k s) (hs : s.step? g = some s') :
    After g (k + 1) s'

/-- The counters count predecessors still to come, the queue holds the formats that wait for none,
and neither it nor the output names a format twice. -/
structure Accounts (rs : List Relation) (g : FormatGraph) (s : Sorting) : Prop where
  waiting : ∀ n < g.size, n ∉ s.output →
    s.waiting[n]? = some {a | Precedes rs a (g.nameOf n) ∧ a ∉ s.output.map g.nameOf}.ncard
  mem_ready : ∀ n, n ∈ s.ready ↔ n < g.size ∧ n ∉ s.output ∧ s.waiting[n]? = some 0
  nodup_ready : s.ready.Nodup
  nodup_output : (s.output.map g.nameOf).Nodup

/-- Whenever a successor of the first format in the queue has its turn, its counter can be lowered,
in whatever order the successors have theirs. -/
def Lowers (g : FormatGraph) (s : Sorting) : Prop :=
  ∀ n rest before m after, s.ready = n :: rest →
    (before ++ m :: after).Perm (g.successors n) →
      ∃ count, (before.foldl release ⟨s.output ++ [n], s.waiting, rest⟩).waiting[m]? =
        some (count + 1)

variable {s : Sorting}

theorem step?_eq_none_iff : s.step? g = none ↔ s.ready = [] := by
  unfold step?
  split <;> simp [*]

theorem getElem?_waiting {n : Nat} (hn : n < s.waiting.length) :
    s.waiting[n]? = some (s.waiting.getD n 0) := by
  rw [List.getD_eq_getElem?_getD, List.getElem?_eq_getElem hn, Option.getD_some]

/-- What holds at every moment, said of the relations and not of the graph. -/
theorem Invariant.accounts (hrep : g.Represents names rs) (h : s.Invariant g) :
    s.Accounts rs g := by
  have hw : g.Within s.output := ⟨h.greedy.legal.nodup, h.greedy.legal.lt_size⟩
  have hcount : ∀ n < g.size, n ∉ s.output → s.waiting[n]? = some (g.pending s.output n) := by
    intro n hn ho
    rw [getElem?_waiting (h.counters ▸ hn), h.waiting n hn ho]
  refine ⟨fun n hn ho => ?_, fun n => ?_, h.ascending.imp fun hlt => Nat.ne_of_lt hlt,
    hrep.nodup_map_nameOf hw⟩
  · rw [hcount n hn ho, hrep.pending_eq_ncard hw.bounded hn]
  · rw [h.mem_ready, ready_iff_pending]
    refine and_congr_right fun hn => and_congr_right fun ho => ?_
    rw [hcount n hn ho, Option.some.injEq]

/-- A successor of a format that has not come out waits for it, and the successors before it do not
lower its counter. -/
theorem Invariant.lowers (hg : g.WellFormed) (h : s.Invariant g) : s.Lowers g := by
  intro n rest before m after hr hp
  have hn : g.Ready s.output n := (h.mem_ready n).mp (by simp [hr])
  have hnodup : (before ++ m :: after).Nodup := hp.nodup_iff.mpr (nodup_successors hg n)
  have hedge : ∀ k ∈ before ++ m :: after, (n, k) ∈ g.edges := by
    intro k hk
    simpa using hp.mem_iff.mp hk
  have hbound : ∀ k ∈ before ++ m :: after, k < s.waiting.length := by
    intro k hk
    rw [h.counters]
    exact (hg.bounded _ (hedge k hk)).2
  have hm : m ∈ before ++ m :: after := by simp
  have hout : m ∉ s.output := fun ho => hn.2.1 (h.greedy.legal.mem_of_edge (hedge m hm) ho)
  have hpos : g.pending s.output m ≠ 0 := by
    rw [Ne, pending_eq_zero_iff]
    exact fun hall => hn.2.1 (hall n (by simpa using hedge m hm))
  obtain ⟨hb, -, hdisjoint⟩ := List.nodup_append.mp hnodup
  have hmb : m ∉ before := fun hmb => hdisjoint m hmb m (by simp) rfl
  refine ⟨g.pending s.output m - 1, ?_⟩
  rw [getElem?_waiting (by rw [length_waiting_releaseAll]; exact hbound m hm),
    waiting_releaseAll hb ⟨s.output ++ [n], s.waiting, rest⟩ fun k hk =>
      hbound k (List.mem_append_left _ hk),
    if_neg hmb, Nat.sub_zero, h.waiting m (hg.bounded _ (hedge m hm)).2 hout]
  exact congrArg some (Nat.succ_pred hpos).symm

/-- Every iteration keeps the invariant and puts out one format. -/
theorem After.invariant (hg : g.WellFormed) {k : Nat} (h : After g k s) :
    s.Invariant g ∧ s.output.length = k := by
  induction h with
  | start => exact ⟨start_invariant g, rfl⟩
  | step _ hs ih =>
    obtain ⟨h', hl⟩ := step_invariant hg ih.1 hs
    exact ⟨h', by rw [hl, ih.2]⟩

/-- A run is a number of iterations. -/
theorem After.run {k : Nat} (h : After g k s) (steps : Nat) :
    ∃ k', After g k' (run g steps s) := by
  induction steps generalizing k s with
  | zero => exact ⟨k, h⟩
  | succ steps ih =>
    cases hs : s.step? g with
    | none => exact ⟨k, by simpa only [Sorting.run, hs] using h⟩
    | some s' => simpa only [Sorting.run, hs] using ih (h.step hs)

/-- After the last iteration what is sorted has been put out. -/
theorem exists_last (hg : g.WellFormed) :
    ∃ k s, After g k s ∧ s.step? g = none ∧ s.output = g.sorted := by
  obtain ⟨k, hk⟩ := After.start.run g.size
  refine ⟨k, _, hk, ?_, rfl⟩
  rw [step?_eq_none_iff, List.eq_nil_iff_forall_not_mem]
  intro n hn
  exact not_ready_sorted hg n (((hk.invariant hg).1.mem_ready n).mp hn)

end Sorting

open Sorting in
/-- At every iteration the counter of each format still to come is the number of the different
formats before it that are still to come, the queue holds the formats still to come whose counter is
zero, each once, and no format has come twice. No counter is lowered from zero. There are at most as
many iterations as different formats, and after the last of them sorting is done. -/
theorem sorting_accounts (names : List String) (rs : List Relation) (g : FormatGraph)
    (h : ofRelations names rs = .ok g) :
    (∀ k s, After g k s →
        s.Accounts rs g ∧ s.Lowers g ∧ s.output.length = k ∧ k ≤ names.eraseDups.length) ∧
      ∃ k s, After g k s ∧ s.step? g = none ∧ s.output = g.sorted := by
  have hrep : g.Represents names rs := represents_of_ofRelations h
  have hg : g.WellFormed := hrep.wellFormed
  refine ⟨fun k s hs => ?_, exists_last hg⟩
  obtain ⟨hi, rfl⟩ := hs.invariant hg
  refine ⟨hi.accounts hrep, hi.lowers hg, rfl, ?_⟩
  rw [← hrep.names_eq]
  exact hi.greedy.legal.length_le

open Sorting in
/-- Two relations by which reviews refer to users are one edge, which the counter of reviews counts
once and lowers once. -/
theorem sorting_accounts_authorship :
    ∃ g, ofRelations ["review", "user", "recipe"] [authorship, authorship] = .ok g ∧
      {a | Precedes [authorship, authorship] a "review" ∧ a ∉ ([] : List String)}.ncard = 1 ∧
      (start g).Lowers g ∧
      ∃ k s, After g k s ∧ s.step? g = none ∧ s.output = [1, 0, 2] ∧ k ≤ 3 := by
  have hg : ofRelations ["review", "user", "recipe"] [authorship, authorship] =
      .ok ⟨["review", "user", "recipe"], [(1, 0)]⟩ := by rfl
  obtain ⟨hall, k, s, hk, hlast, hs⟩ := sorting_accounts _ _ _ hg
  obtain ⟨ha, hl, -, -⟩ := hall 0 _ .start
  have hone := ha.waiting 0 (by decide) (by decide)
  exact ⟨_, hg, (Option.some.inj hone).symm, hl, k, s, hk, hlast, hs, (hall k s hk).2.2.2⟩

end Schemata.FormatGraph
