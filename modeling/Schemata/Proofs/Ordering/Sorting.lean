import Mathlib.Data.Fintype.EquivFin
import Mathlib.Data.List.Nodup
import Mathlib.Data.List.Perm.Subperm
import Mathlib.Logic.Relation
import Schemata.Ordering

/-!
What sorting puts out. A format is ready once all its predecessors are out. At every moment of a
run the counters say how many predecessors are still to come and the queue holds exactly the ready
formats, so the least ready format is put out each time, and sorting ends when none is ready.
-/
namespace Schemata.FormatGraph

/-- Distinct edges between formats of the graph. -/
structure WellFormed (g : FormatGraph) : Prop where
  nodup : g.edges.Nodup
  bounded : ∀ e ∈ g.edges, e.1 < g.size ∧ e.2 < g.size

@[simp] theorem mem_successors (g : FormatGraph) (m n : Nat) :
    m ∈ g.successors n ↔ (n, m) ∈ g.edges := by
  simp only [successors, List.mem_map, List.mem_filter, beq_iff_eq]
  constructor
  · rintro ⟨⟨a, b⟩, ⟨he, rfl⟩, rfl⟩
    exact he
  · exact fun he => ⟨(n, m), ⟨he, rfl⟩, rfl⟩

@[simp] theorem mem_predecessors (g : FormatGraph) (m n : Nat) :
    m ∈ g.predecessors n ↔ (m, n) ∈ g.edges := by
  simp only [predecessors, List.mem_map, List.mem_filter, beq_iff_eq]
  constructor
  · rintro ⟨⟨a, b⟩, ⟨he, rfl⟩, rfl⟩
    exact he
  · exact fun he => ⟨(m, n), ⟨he, rfl⟩, rfl⟩

theorem nodup_successors {g : FormatGraph} (h : g.WellFormed) (n : Nat) :
    (g.successors n).Nodup := by
  refine List.Nodup.map_on ?_ (h.nodup.filter _)
  rintro ⟨a, b⟩ hx ⟨c, d⟩ hy rfl
  simp only [List.mem_filter, beq_iff_eq] at hx hy
  rw [hx.2, hy.2]

theorem nodup_predecessors {g : FormatGraph} (h : g.WellFormed) (n : Nat) :
    (g.predecessors n).Nodup := by
  refine List.Nodup.map_on ?_ (h.nodup.filter _)
  rintro ⟨a, b⟩ hx ⟨c, d⟩ hy rfl
  simp only [List.mem_filter, beq_iff_eq] at hx hy
  rw [hx.2, hy.2]

/-! ### Legal and greedy orders -/

/-- The format can be put out after those in `done`. -/
def Ready (g : FormatGraph) (done : List Nat) (n : Nat) : Prop :=
  n < g.size ∧ n ∉ done ∧ ∀ m ∈ g.predecessors n, m ∈ done

/-- After those in `done`, each format is ready when its turn comes. -/
def Legal (g : FormatGraph) (done : List Nat) : List Nat → Prop
  | [] => True
  | n :: rest => g.Ready done n ∧ g.Legal (done ++ [n]) rest

/-- After those in `done`, it is always the least ready format whose turn comes. -/
def Greedy (g : FormatGraph) (done : List Nat) : List Nat → Prop
  | [] => True
  | n :: rest =>
    (g.Ready done n ∧ ∀ m, g.Ready done m → n ≤ m) ∧ g.Greedy (done ++ [n]) rest

variable {g : FormatGraph}

theorem Greedy.legal {done order : List Nat} (h : g.Greedy done order) : g.Legal done order := by
  induction order generalizing done with
  | nil => trivial
  | cons n rest ih => exact ⟨h.1.1, ih h.2⟩

theorem greedy_append (g : FormatGraph) (done xs ys : List Nat) :
    g.Greedy done (xs ++ ys) ↔ g.Greedy done xs ∧ g.Greedy (done ++ xs) ys := by
  induction xs generalizing done with
  | nil => simp [Greedy]
  | cons n rest ih => simp [Greedy, ih, and_assoc]

theorem Legal.lt_size {done order : List Nat} (h : g.Legal done order) :
    ∀ n ∈ order, n < g.size := by
  induction order generalizing done with
  | nil => simp
  | cons n rest ih =>
    intro m hm
    rcases List.mem_cons.mp hm with rfl | hm
    · exact h.1.1
    · exact ih h.2 m hm

theorem Legal.not_mem_done {done order : List Nat} (h : g.Legal done order) :
    ∀ n ∈ order, n ∉ done := by
  induction order generalizing done with
  | nil => simp
  | cons n rest ih =>
    intro m hm
    rcases List.mem_cons.mp hm with rfl | hm
    · exact h.1.2.1
    · exact fun hd => ih h.2 m hm (List.mem_append_left _ hd)

theorem Legal.nodup {done order : List Nat} (h : g.Legal done order) : order.Nodup := by
  induction order generalizing done with
  | nil => exact List.nodup_nil
  | cons n rest ih =>
    refine List.nodup_cons.mpr ⟨fun hm => ?_, ih h.2⟩
    exact h.2.not_mem_done n hm (by simp)

/-- In a legal order the start of an edge stands before its end. -/
theorem Legal.idxOf_lt {done order : List Nat} (h : g.Legal done order) {m n : Nat}
    (he : (m, n) ∈ g.edges) (hn : n ∈ order) :
    m ∈ done ∨ order.idxOf m < order.idxOf n := by
  induction order generalizing done with
  | nil => simp at hn
  | cons k rest ih =>
    by_cases hk : k = n
    · exact .inl (h.1.2.2 m (by simpa [hk] using he))
    · have hr : n ∈ rest := (List.mem_cons.mp hn).resolve_left (Ne.symm hk)
      by_cases hkm : k = m
      · subst hkm
        exact .inr (by simp [hk])
      · rcases ih h.2 hr with hm | hm
        · exact .inl (by simpa [Ne.symm hkm] using hm)
        · exact .inr (by simpa [List.idxOf_cons, hk, hkm] using hm)

theorem Legal.mem_of_edge {order : List Nat} (h : g.Legal [] order) {m n : Nat}
    (he : (m, n) ∈ g.edges) (hn : n ∈ order) : m ∈ order := by
  rcases h.idxOf_lt he hn with hm | hm
  · simp at hm
  · exact List.idxOf_lt_length_iff.mp (Nat.lt_trans hm (List.idxOf_lt_length_of_mem hn))

theorem Legal.length_le {order : List Nat} (h : g.Legal [] order) : order.length ≤ g.size := by
  have hs : order ⊆ List.range g.size := fun n hn => List.mem_range.mpr (h.lt_size n hn)
  simpa using (List.subperm_of_subset h.nodup hs).length_le

/-- A legal order of all formats lists each of them once. -/
theorem Legal.perm_range {order : List Nat} (h : g.Legal [] order) (hl : g.size ≤ order.length) :
    order.Perm (List.range g.size) := by
  have hs : order ⊆ List.range g.size := fun n hn => List.mem_range.mpr (h.lt_size n hn)
  exact (List.subperm_of_subset h.nodup hs).perm_of_length_le (by simpa using hl)

/-- An order of all formats is legal if every edge goes forward in it. -/
theorem legal_of_idxOf_lt {order : List Nat} (hp : order.Perm (List.range g.size))
    (he : ∀ m n, (m, n) ∈ g.edges → order.idxOf m < order.idxOf n) : g.Legal [] order := by
  have hn : order.Nodup := hp.nodup_iff.mpr List.nodup_range
  suffices ∀ done rest, order = done ++ rest → g.Legal done rest from this [] order rfl
  intro done rest
  induction rest generalizing done with
  | nil => exact fun _ => trivial
  | cons n rest ih =>
    rintro rfl
    have hnd : n ∉ done := fun hd => (List.nodup_append.mp hn).2.2 n hd n (by simp) rfl
    refine ⟨⟨List.mem_range.mp (hp.mem_iff.mp (by simp)), hnd, ?_⟩, ih (done ++ [n]) (by simp)⟩
    intro m hm
    by_contra hd
    have hlt := he m n (by simpa using hm)
    rw [List.idxOf_append, if_neg hd, List.idxOf_append, if_neg hnd, List.idxOf_cons_self] at hlt
    omega

/-- At the first place where a legal order leaves a greedy one, it takes a greater format. -/
theorem Greedy.eq_or_lex {done xs ys : List Nat} (hx : g.Greedy done xs) (hy : g.Legal done ys)
    (hl : xs.length = ys.length) : ys = xs ∨ List.Lex (· < ·) xs ys := by
  induction xs generalizing done ys with
  | nil => exact .inl (List.length_eq_zero_iff.mp hl.symm)
  | cons m xs ih =>
    cases ys with
    | nil => simp at hl
    | cons n ys =>
      have hmn : m ≤ n := hx.1.2 n hy.1
      rcases Nat.lt_or_eq_of_le hmn with hlt | rfl
      · exact .inr (.rel hlt)
      · rcases ih hx.2 hy.2 (by simpa using hl) with rfl | hlex
        · exact .inl rfl
        · exact .inr (.cons hlex)

/-! ### The queue -/

theorem mem_insertSorted (m n : Nat) (ns : List Nat) :
    m ∈ insertSorted n ns ↔ m = n ∨ m ∈ ns := by
  induction ns with
  | nil => simp [insertSorted]
  | cons k ns ih =>
    simp only [insertSorted]
    split
    · simp
    · simp only [List.mem_cons, ih]
      tauto

theorem pairwise_insertSorted {n : Nat} {ns : List Nat} (hs : ns.Pairwise (· < ·))
    (hn : n ∉ ns) : (insertSorted n ns).Pairwise (· < ·) := by
  induction ns with
  | nil => simp [insertSorted]
  | cons k ns ih =>
    obtain ⟨hk, hs⟩ := List.pairwise_cons.mp hs
    simp only [List.mem_cons, not_or] at hn
    simp only [insertSorted]
    split
    · have hlt : n < k := by omega
      refine List.pairwise_cons.mpr ⟨?_, List.pairwise_cons.mpr ⟨hk, hs⟩⟩
      intro m hm
      rcases List.mem_cons.mp hm with rfl | hm
      · exact hlt
      · exact Nat.lt_trans hlt (hk m hm)
    · refine List.pairwise_cons.mpr ⟨?_, ih hs hn.2⟩
      intro m hm
      rcases (mem_insertSorted m n ns).mp hm with rfl | hm
      · omega
      · exact hk m hm

/-! ### Counters -/

/-- How many formats the format `n` still waits for. -/
def pending (g : FormatGraph) (done : List Nat) (n : Nat) : Nat :=
  ((g.predecessors n).filter (· ∉ done)).length

theorem pending_eq_zero_iff (g : FormatGraph) (done : List Nat) (n : Nat) :
    g.pending done n = 0 ↔ ∀ m ∈ g.predecessors n, m ∈ done := by
  simp [pending, List.length_eq_zero_iff, List.filter_eq_nil_iff]

theorem ready_iff_pending (g : FormatGraph) (done : List Nat) (n : Nat) :
    g.Ready done n ↔ n < g.size ∧ n ∉ done ∧ g.pending done n = 0 := by
  rw [Ready, pending_eq_zero_iff]

/-- Putting out a format leaves those that wait for it one format less to wait for. -/
theorem pending_append (h : g.WellFormed) {done : List Nat} {m : Nat} (hm : m ∉ done) (n : Nat) :
    g.pending (done ++ [m]) n = g.pending done n - if (m, n) ∈ g.edges then 1 else 0 := by
  have hf : (g.predecessors n).filter (· ∉ done ++ [m]) =
      ((g.predecessors n).filter (· ∉ done)).erase m := by
    rw [((nodup_predecessors h n).filter _).erase_eq_filter, List.filter_filter]
    apply List.filter_congr
    intro k _
    by_cases hk : k = m <;> simp [hk]
  rw [pending, hf, List.length_erase, pending]
  have hmem : m ∈ (g.predecessors n).filter (· ∉ done) ↔ (m, n) ∈ g.edges := by simp [hm]
  by_cases he : (m, n) ∈ g.edges
  · rw [if_pos (hmem.mpr he), if_pos he]
  · rw [if_neg (mt hmem.mp he), if_neg he, Nat.sub_zero]

/-- After a format those are ready that were before, and those that waited for nothing else. -/
theorem ready_append_iff (h : g.WellFormed) {done : List Nat} {n k : Nat} (hn : g.Ready done n)
    (hk : (n, k) ∈ g.edges → k ∉ done) :
    g.Ready (done ++ [n]) k ↔
      (g.Ready done k ∧ k ≠ n) ∨ ((n, k) ∈ g.edges ∧ g.pending done k ≤ 1) := by
  have hp := pending_append h hn.2.1 k
  by_cases he : (n, k) ∈ g.edges
  · have hr : ¬ g.Ready done k := fun hr => hn.2.1 (hr.2.2 n (by simpa using he))
    have hkn : k ≠ n := fun e => hr (e ▸ hn)
    rw [if_pos he] at hp
    rw [ready_iff_pending, hp]
    simp only [hr, he, (h.bounded _ he).2, hk he, hkn, List.mem_append, List.mem_singleton,
      false_and, false_or, true_and, or_self, not_false_eq_true]
    omega
  · rw [if_neg he, Nat.sub_zero] at hp
    rw [ready_iff_pending, ready_iff_pending, hp]
    simp only [he, false_and, or_false, List.mem_append, List.mem_singleton, not_or]
    tauto

namespace Sorting

theorem output_releaseAll (ms : List Nat) (s : Sorting) :
    (ms.foldl release s).output = s.output := by
  induction ms generalizing s with
  | nil => rfl
  | cons m ms ih => exact ih (s.release m)

theorem length_waiting_releaseAll (ms : List Nat) (s : Sorting) :
    (ms.foldl release s).waiting.length = s.waiting.length := by
  induction ms generalizing s with
  | nil => rfl
  | cons m ms ih =>
    rw [List.foldl_cons, ih]
    simp [release]

theorem waiting_release (s : Sorting) (m k : Nat) (hm : m < s.waiting.length) :
    (s.release m).waiting.getD k 0 = s.waiting.getD k 0 - if k = m then 1 else 0 := by
  simp only [release, List.getD_eq_getElem?_getD, List.getElem?_set]
  by_cases hk : m = k
  · subst hk
    simp [hm]
  · simp [hk, Ne.symm hk]

/-- Each of the formats released once, its counter goes down by one. -/
theorem waiting_releaseAll {ms : List Nat} (hn : ms.Nodup) (s : Sorting)
    (hm : ∀ m ∈ ms, m < s.waiting.length) (k : Nat) :
    (ms.foldl release s).waiting.getD k 0 = s.waiting.getD k 0 - if k ∈ ms then 1 else 0 := by
  induction ms generalizing s with
  | nil => simp
  | cons m ms ih =>
    obtain ⟨hnm, hn⟩ := List.nodup_cons.mp hn
    have hm' : ∀ k ∈ ms, k < (s.release m).waiting.length := by
      intro k hk
      simpa [release] using hm k (List.mem_cons_of_mem _ hk)
    rw [List.foldl_cons, ih hn _ hm', waiting_release _ _ _ (hm m (by simp))]
    by_cases hk : k = m
    · subst hk
      simp [hnm]
    · simp [hk]

/-- Those formats join the queue for which the last one that they waited for is out. -/
theorem mem_ready_releaseAll {ms : List Nat} (hn : ms.Nodup) (s : Sorting)
    (hm : ∀ m ∈ ms, m < s.waiting.length) (k : Nat) :
    k ∈ (ms.foldl release s).ready ↔ k ∈ s.ready ∨ (k ∈ ms ∧ s.waiting.getD k 0 ≤ 1) := by
  induction ms generalizing s with
  | nil => simp
  | cons m ms ih =>
    obtain ⟨hnm, hn⟩ := List.nodup_cons.mp hn
    have hm' : ∀ k ∈ ms, k < (s.release m).waiting.length := by
      intro k hk
      simpa [release] using hm k (List.mem_cons_of_mem _ hk)
    have hr : k ∈ (s.release m).ready ↔ k ∈ s.ready ∨ (k = m ∧ s.waiting.getD k 0 ≤ 1) := by
      simp only [release]
      split
      · rw [mem_insertSorted]
        constructor
        · rintro (rfl | h)
          · exact .inr ⟨rfl, by omega⟩
          · exact .inl h
        · rintro (h | ⟨rfl, -⟩)
          · exact .inr h
          · exact .inl rfl
      · constructor
        · exact .inl
        · rintro (h | ⟨rfl, h⟩)
          · exact h
          · omega
    rw [List.foldl_cons, ih hn _ hm', hr, waiting_release _ _ _ (hm m (by simp))]
    by_cases hk : k = m
    · subst hk
      simp [hnm]
    · simp [hk]

theorem ascending_releaseAll {ms : List Nat} (hn : ms.Nodup) (s : Sorting)
    (hs : s.ready.Pairwise (· < ·)) (hd : ∀ m ∈ ms, m ∉ s.ready) :
    (ms.foldl release s).ready.Pairwise (· < ·) := by
  induction ms generalizing s with
  | nil => exact hs
  | cons m ms ih =>
    obtain ⟨hnm, hn⟩ := List.nodup_cons.mp hn
    refine ih hn _ ?_ ?_
    · simp only [release]
      split
      · exact pairwise_insertSorted hs (hd m (by simp))
      · exact hs
    · intro k hk
      have hkm : k ≠ m := fun h => hnm (h ▸ hk)
      have hks := hd k (List.mem_cons_of_mem _ hk)
      simp only [release]
      split
      · simp [mem_insertSorted, hkm, hks]
      · exact hks

/-- What holds at every moment of a run. -/
structure Invariant (g : FormatGraph) (s : Sorting) : Prop where
  greedy : g.Greedy [] s.output
  counters : s.waiting.length = g.size
  waiting : ∀ n < g.size, n ∉ s.output → s.waiting.getD n 0 = g.pending s.output n
  mem_ready : ∀ n, n ∈ s.ready ↔ g.Ready s.output n
  ascending : s.ready.Pairwise (· < ·)

theorem start_invariant (g : FormatGraph) : (start g).Invariant g where
  greedy := trivial
  counters := by simp [start, nodes]
  waiting := by
    intro n hn _
    simp [start, nodes, pending, List.getD_eq_getElem?_getD, List.getElem?_range hn]
  mem_ready := by
    intro n
    simp [start, nodes, Ready, List.length_eq_zero_iff, List.eq_nil_iff_forall_not_mem]
  ascending := List.pairwise_lt_range.filter _

/-- One step puts out the least ready format and keeps the invariant. -/
theorem step_invariant (hg : g.WellFormed) {s s' : Sorting} (h : s.Invariant g)
    (hs : s.step? g = some s') :
    s'.Invariant g ∧ s'.output.length = s.output.length + 1 := by
  obtain ⟨output, waiting, ready⟩ := s
  cases ready with
  | nil => simp [step?] at hs
  | cons n rest =>
    simp only [step?, Option.some.injEq] at hs
    obtain ⟨hlt, hasc⟩ := List.pairwise_cons.mp h.ascending
    have hn : g.Ready output n := (h.mem_ready n).mp (by simp)
    have hnot : ∀ k, (n, k) ∈ g.edges → k ∉ output :=
      fun k hk ho => hn.2.1 (h.greedy.legal.mem_of_edge hk ho)
    have hrest : ∀ k, k ∈ rest ↔ g.Ready output k ∧ k ≠ n := by
      intro k
      rw [← h.mem_ready k, List.mem_cons]
      constructor
      · exact fun hk => ⟨.inr hk, fun e => Nat.lt_irrefl n (hlt n (e ▸ hk))⟩
      · exact fun hk => hk.1.resolve_left hk.2
    have hnodup := nodup_successors hg n
    have hbound : ∀ m ∈ g.successors n, m < waiting.length := by
      intro m hm
      rw [h.counters]
      exact (hg.bounded (n, m) (by simpa using hm)).2
    subst hs
    refine ⟨⟨?_, ?_, ?_, ?_, ?_⟩, ?_⟩
    · rw [output_releaseAll, greedy_append]
      refine ⟨h.greedy, ⟨by simpa using hn, fun m hm => ?_⟩, trivial⟩
      rcases List.mem_cons.mp ((h.mem_ready m).mpr (by simpa using hm)) with rfl | hr
      · exact Nat.le_refl m
      · exact Nat.le_of_lt (hlt m hr)
    · rw [length_waiting_releaseAll]
      exact h.counters
    · intro k hk ho
      rw [output_releaseAll] at ho ⊢
      have ho' : k ∉ output := fun hm => ho (List.mem_append_left _ hm)
      rw [waiting_releaseAll hnodup _ hbound, pending_append hg hn.2.1, ← h.waiting k hk ho']
      simp
    · intro k
      rw [mem_ready_releaseAll hnodup _ hbound, output_releaseAll, hrest, mem_successors,
        ready_append_iff hg hn (hnot k)]
      refine or_congr_right (and_congr_right fun he => ?_)
      rw [← h.waiting k (hg.bounded _ he).2 (hnot k he)]
    · refine ascending_releaseAll hnodup _ hasc ?_
      -- While `n` is not out, no successor of it is ready.
      intro m hm hr
      exact hn.2.1 (((hrest m).mp hr).1.2.2 n (by simpa using hm))
    · simp [output_releaseAll]

/-- A run stops early only for want of a ready format. -/
theorem run_invariant (hg : g.WellFormed) (steps : Nat) {s : Sorting} (h : s.Invariant g) :
    (run g steps s).Invariant g ∧
      ((run g steps s).ready = [] ∨ (run g steps s).output.length = s.output.length + steps) := by
  induction steps generalizing s with
  | zero => exact ⟨h, .inr rfl⟩
  | succ steps ih =>
    simp only [run]
    cases hs : s.step? g with
    | none =>
      refine ⟨h, .inl ?_⟩
      unfold step? at hs
      split at hs
      · assumption
      · cases hs
    | some s₁ =>
      obtain ⟨h₁, hl⟩ := step_invariant hg h hs
      obtain ⟨h₂, hr⟩ := ih h₁
      refine ⟨h₂, hr.imp_right fun he => ?_⟩
      rw [he, hl]
      omega

end Sorting

theorem sorted_greedy (hg : g.WellFormed) : g.Greedy [] g.sorted :=
  (Sorting.run_invariant hg g.size (Sorting.start_invariant g)).1.greedy

/-- Sorting goes on until no format is ready. -/
theorem not_ready_sorted (hg : g.WellFormed) (n : Nat) : ¬ g.Ready g.sorted n := by
  obtain ⟨h, hr⟩ := Sorting.run_invariant hg g.size (Sorting.start_invariant g)
  intro hn
  rcases hr with hr | hl
  · have hm := (h.mem_ready n).mpr hn
    simp [hr] at hm
  · have hp : g.sorted.Perm (List.range g.size) :=
      h.greedy.legal.perm_range (by rw [hl]; exact Nat.le_add_left _ _)
    exact hn.2.1 (hp.mem_iff.mpr (List.mem_range.mpr hn.1))

/-! ### When all formats are put out -/

/-- No format leads back to itself. -/
def Acyclic (g : FormatGraph) : Prop :=
  ∀ n, ¬ Relation.TransGen (fun a b => (a, b) ∈ g.edges) n n

/-- Along edges, places in a legal order of all formats go up. -/
theorem acyclic_of_legal (hg : g.WellFormed) {order : List Nat} (h : g.Legal [] order)
    (hl : g.size ≤ order.length) : g.Acyclic := by
  have hup : ∀ {m n}, Relation.TransGen (fun a b => (a, b) ∈ g.edges) m n →
      order.idxOf m < order.idxOf n := by
    have hedge : ∀ {m n}, (m, n) ∈ g.edges → order.idxOf m < order.idxOf n := by
      intro m n he
      have hn : n ∈ order :=
        (h.perm_range hl).mem_iff.mpr (List.mem_range.mpr (hg.bounded _ he).2)
      exact (h.idxOf_lt he hn).resolve_left (by simp)
    intro m n hmn
    induction hmn with
    | single he => exact hedge he
    | tail _ he ih => exact Nat.lt_trans ih (hedge he)
  exact fun n hn => Nat.lt_irrefl _ (hup hn)

/-- Without cycles every format comes out: the edges are well-founded, and a format whose
predecessors have all come out is ready. -/
theorem mem_sorted (hg : g.WellFormed) (ha : g.Acyclic) {n : Nat} (hn : n < g.size) :
    n ∈ g.sorted := by
  let above (a b : Fin g.size) : Prop := Relation.TransGen (fun a b => (a, b) ∈ g.edges) a.1 b.1
  have : IsTrans (Fin g.size) above := ⟨fun _ _ _ hab hbc => hab.trans hbc⟩
  have : Std.Irrefl above := ⟨fun a => ha a.1⟩
  have hwf : WellFounded above := Finite.wellFounded_of_trans_of_irrefl above
  have hall : ∀ k : Fin g.size, k.1 ∈ g.sorted := by
    intro k
    induction k using hwf.induction with
    | _ k ih =>
      by_contra hk
      refine not_ready_sorted hg k.1 ⟨k.2, hk, fun m hm => ?_⟩
      have he : (m, k.1) ∈ g.edges := by simpa using hm
      exact ih ⟨m, (hg.bounded _ he).1⟩ (.single he)
  exact hall ⟨n, hn⟩

theorem size_le_length_sorted_iff (hg : g.WellFormed) : g.size ≤ g.sorted.length ↔ g.Acyclic := by
  constructor
  · exact acyclic_of_legal hg (sorted_greedy hg).legal
  · intro ha
    have hs : List.range g.size ⊆ g.sorted := fun n hn => mem_sorted hg ha (List.mem_range.mp hn)
    simpa using (List.subperm_of_subset List.nodup_range hs).length_le

end Schemata.FormatGraph
