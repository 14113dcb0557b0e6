import Mathlib.Data.List.Lex
import Schemata.Proofs.Ordering.Dependencies

/-!
The order in which formats are provisioned. It arranges the distinct formats so that each stands
after those it refers to, and of all such arrangements it is the least by place of declaration.
Formats that the list does not have, and formats that wait for each other, are refused.
-/
namespace Schemata

/-- The distinct formats in an order in which each stands after those it refers to. -/
structure Arrangement (names : List String) (rs : List Relation) (order : List String) :
    Prop where
  perm : order.Perm names.eraseDups
  precedes : ∀ a b, Precedes rs a b → order.idxOf a < order.idxOf b

/-- The arrangement that comes first when arrangements are compared place by place, formats that are
declared earlier before others. -/
structure LeastArrangement (names : List String) (rs : List Relation) (order : List String) : Prop
    extends Arrangement names rs order where
  least : ∀ other, Arrangement names rs other →
    other = order ∨
      List.Lex (· < ·) (order.map names.eraseDups.idxOf) (other.map names.eraseDups.idxOf)

theorem LeastArrangement.unique {names : List String} {rs : List Relation} {xs ys : List String}
    (hx : LeastArrangement names rs xs) (hy : LeastArrangement names rs ys) : xs = ys := by
  rcases hx.least ys hy.toArrangement with h | hxy
  · exact h.symm
  · rcases hy.least xs hx.toArrangement with h | hyx
    · exact h
    · exact absurd hyx (List.lex_asymm (fun hlt => Nat.lt_asymm hlt) hxy)

/-- A map that keeps a member apart from the others keeps its place. -/
theorem idxOf_map {α β : Type} [DecidableEq α] [DecidableEq β] (f : α → β) (a : α) (xs : List α)
    (h : ∀ x ∈ xs, f x = f a → x = a) : (xs.map f).idxOf (f a) = xs.idxOf a := by
  induction xs with
  | nil => rfl
  | cons x xs ih =>
    have hxs : (xs.map f).idxOf (f a) = xs.idxOf a := ih fun y hy => h y (.tail _ hy)
    by_cases hx : x = a
    · simp [hx]
    · have hf : f x ≠ f a := fun he => hx (h x (.head _) he)
      simp [hx, hf, hxs]

theorem map_map_cancel {α β : Type} {f : α → β} {g : β → α} {xs : List α}
    (h : ∀ x ∈ xs, g (f x) = x) : (xs.map f).map g = xs := by
  rw [List.map_map]
  exact (List.map_congr_left h).trans (List.map_id xs)

namespace FormatGraph

variable {g : FormatGraph} {names : List String} {rs : List Relation}

theorem nameOf_eq_getElem {n : Nat} (hn : n < g.names.length) : g.nameOf n = g.names[n] := by
  rw [nameOf, List.getD_eq_getElem?_getD, List.getElem?_eq_getElem hn, Option.getD_some]

theorem nameOf_idxOf {a : String} (ha : a ∈ g.names) : g.nameOf (g.names.idxOf a) = a := by
  rw [nameOf_eq_getElem (List.idxOf_lt_length_of_mem ha), List.getElem_idxOf]

theorem idxOf_nameOf (hg : g.names.Nodup) {n : Nat} (hn : n < g.size) :
    g.names.idxOf (g.nameOf n) = n := by
  rw [nameOf_eq_getElem hn]
  exact hg.idxOf_getElem n hn

theorem map_nameOf_nodes (g : FormatGraph) : g.nodes.map g.nameOf = g.names := by
  apply List.ext_getElem
  · simp [nodes, size]
  · intro i _ hi
    simp [nodes, nameOf_eq_getElem hi]

theorem map_idxOf_names (hg : g.names.Nodup) : g.names.map g.names.idxOf = g.nodes := by
  have hc : (g.nodes.map g.nameOf).map g.names.idxOf = g.nodes :=
    map_map_cancel fun n hn => idxOf_nameOf hg (List.mem_range.mp hn)
  rwa [map_nameOf_nodes] at hc

namespace Represents

theorem nameOf_idxOf (h : g.Represents names rs) {a b : String} (hp : Precedes rs a b) :
    g.nameOf (g.names.idxOf a) = a ∧ g.nameOf (g.names.idxOf b) = b := by
  obtain ⟨ha, hb⟩ := h.known a b hp
  exact ⟨FormatGraph.nameOf_idxOf ((h.mem_names a).mpr ha),
    FormatGraph.nameOf_idxOf ((h.mem_names b).mpr hb)⟩

theorem mem_edges_of_precedes (h : g.Represents names rs) {a b : String} (hp : Precedes rs a b) :
    (g.names.idxOf a, g.names.idxOf b) ∈ g.edges :=
  (h.mem_edges _).mpr ⟨a, b, hp, rfl⟩

theorem precedes_of_mem_edges (h : g.Represents names rs) {m n : Nat} (he : (m, n) ∈ g.edges) :
    Precedes rs (g.nameOf m) (g.nameOf n) := by
  obtain ⟨a, b, hp, hmn⟩ := (h.mem_edges _).mp he
  obtain ⟨rfl, rfl⟩ := Prod.mk.inj hmn
  obtain ⟨ha, hb⟩ := h.nameOf_idxOf hp
  rwa [ha, hb]

/-- The graph has a cycle exactly when the relations have one. -/
theorem acyclic_iff (h : g.Represents names rs) : g.Acyclic ↔ Schemata.Acyclic rs := by
  constructor
  · intro hg a ha
    exact hg _ (ha.lift g.names.idxOf fun a b hp => h.mem_edges_of_precedes hp)
  · intro hr n hn
    exact hr _ (hn.lift g.nameOf fun m k he => h.precedes_of_mem_edges he)

/-- A legal order of all numbers arranges the names. -/
theorem arrangement (h : g.Represents names rs) {order : List Nat} (hl : g.Legal [] order)
    (hs : g.size ≤ order.length) : Arrangement names rs (order.map g.nameOf) where
  perm := by
    have hp : (order.map g.nameOf).Perm (g.nodes.map g.nameOf) := (hl.perm_range hs).map _
    rwa [map_nameOf_nodes, h.names_eq] at hp
  precedes := by
    intro a b hp
    have hidx : ∀ c ∈ g.names, (order.map g.nameOf).idxOf c = order.idxOf (g.names.idxOf c) := by
      intro c hc
      have hinj : ∀ n ∈ order, g.nameOf n = g.nameOf (g.names.idxOf c) → n = g.names.idxOf c := by
        intro n hn he
        rw [FormatGraph.nameOf_idxOf hc] at he
        rw [← he, idxOf_nameOf h.nodup_names (hl.lt_size n hn)]
      rw [← idxOf_map g.nameOf _ order hinj, FormatGraph.nameOf_idxOf hc]
    obtain ⟨ha, hb⟩ := h.known a b hp
    have hb' : g.names.idxOf b ∈ order :=
      (hl.perm_range hs).mem_iff.mpr (List.mem_range.mpr
        (List.idxOf_lt_length_of_mem ((h.mem_names b).mpr hb)))
    rw [hidx a ((h.mem_names a).mpr ha), hidx b ((h.mem_names b).mpr hb)]
    exact (hl.idxOf_lt (h.mem_edges_of_precedes hp) hb').resolve_left (by simp)

theorem mem_names_of_arrangement (h : g.Represents names rs) {order : List String}
    (ha : Arrangement names rs order) {c : String} (hc : c ∈ order) : c ∈ g.names := by
  rw [h.names_eq]
  exact ha.perm.mem_iff.mp hc

/-- An arrangement of the names numbers them in a legal order. -/
theorem legal (h : g.Represents names rs) {order : List String} (ha : Arrangement names rs order) :
    g.Legal [] (order.map g.names.idxOf) := by
  have hidx : ∀ c, (order.map g.names.idxOf).idxOf (g.names.idxOf c) = order.idxOf c :=
    fun c => idxOf_map g.names.idxOf c order fun x hx he =>
      (List.idxOf_inj (h.mem_names_of_arrangement ha hx)).mp he
  apply legal_of_idxOf_lt
  · have hp : (order.map g.names.idxOf).Perm (g.names.map g.names.idxOf) := by
      rw [h.names_eq]
      exact ha.perm.map _
    rwa [map_idxOf_names h.nodup_names] at hp
  · intro m n he
    obtain ⟨a, b, hp, hmn⟩ := (h.mem_edges _).mp he
    obtain ⟨rfl, rfl⟩ := Prod.mk.inj hmn
    rw [hidx, hidx]
    exact ha.precedes a b hp

/-- What sorting puts out is the least arrangement. -/
theorem leastArrangement (h : g.Represents names rs) (ha : g.Acyclic) :
    LeastArrangement names rs (g.sorted.map g.nameOf) where
  toArrangement :=
    h.arrangement (sorted_greedy h.wellFormed).legal
      ((size_le_length_sorted_iff h.wellFormed).mpr ha)
  least := by
    intro other ho
    have hg : g.Greedy [] g.sorted := sorted_greedy h.wellFormed
    have hs : (g.sorted.map g.nameOf).map g.names.idxOf = g.sorted :=
      map_map_cancel fun n hn => idxOf_nameOf h.nodup_names (hg.legal.lt_size n hn)
    have hother : (other.map g.names.idxOf).map g.nameOf = other :=
      map_map_cancel fun c hc => FormatGraph.nameOf_idxOf (h.mem_names_of_arrangement ho hc)
    have hlen : g.sorted.length = (other.map g.names.idxOf).length := by
      have hsize : g.size ≤ g.sorted.length := (size_le_length_sorted_iff h.wellFormed).mpr ha
      have hle : g.sorted.length ≤ g.size := hg.legal.length_le
      rw [List.length_map, ho.perm.length_eq, ← h.names_eq]
      exact Nat.le_antisymm hle hsize
    rw [← h.names_eq, hs]
    rcases hg.eq_or_lex (h.legal ho) hlen with he | hlex
    · rw [← he, hother]
      exact .inl rfl
    · exact .inr hlex

end Represents

end FormatGraph

/-! ### The order of provisioning -/

open FormatGraph

variable {names : List String} {rs : List Relation}

theorem provisioningOrder_of_represents {g : FormatGraph} (hg : ofRelations names rs = .ok g) :
    provisioningOrder names rs =
      if g.sorted.length < g.size then
        .error (.cycle ((g.firstCycle.map g.nameOf).mergeSort fun a b => decide (a ≤ b)))
      else .ok (g.sorted.map g.nameOf) := by
  rw [provisioningOrder, hg, ok_bind]
  by_cases hs : g.sorted.length < g.size
  · simp only [hs, if_true, throw_bind]
  · simp only [hs, if_false, pure, Except.pure]

theorem provisioningOrder_of_acyclic (hk : Known names rs) (ha : Acyclic rs) :
    ∃ order, provisioningOrder names rs = .ok order ∧ LeastArrangement names rs order := by
  obtain ⟨g, hg, h⟩ := ofRelations_of_known names hk
  have hga : g.Acyclic := h.acyclic_iff.mpr ha
  have hsize : g.size ≤ g.sorted.length := (size_le_length_sorted_iff h.wellFormed).mpr hga
  refine ⟨_, ?_, h.leastArrangement hga⟩
  rw [provisioningOrder_of_represents hg, if_neg (Nat.not_lt.mpr hsize)]

theorem provisioningOrder_of_cyclic (hk : Known names rs) (ha : ¬ Acyclic rs) :
    ∃ fs, provisioningOrder names rs = .error (.cycle fs) := by
  obtain ⟨g, hg, h⟩ := ofRelations_of_known names hk
  have hsize : g.sorted.length < g.size := by
    rw [← Nat.not_le, size_le_length_sorted_iff h.wellFormed, h.acyclic_iff]
    exact ha
  exact ⟨_, (provisioningOrder_of_represents hg).trans (if_pos hsize)⟩

theorem provisioningOrder_of_unknown {before after : List Relation} {r : Relation} {a b : String}
    (hk : Known names before) (ho : r.Orders a b) (hab : a ∉ names ∨ b ∉ names) :
    provisioningOrder names (before ++ r :: after) =
      .error (.unknownFormat (if a ∈ names then b else a)) := by
  rw [provisioningOrder, ofRelations_of_unknown names hk ho hab, error_bind]

/-- Which relations make formats precede each other, and how many of them, is of no account. -/
theorem LeastArrangement.congr {rs' : List Relation} {order : List String}
    (hp : ∀ a b, Precedes rs' a b ↔ Precedes rs a b) (h : LeastArrangement names rs order) :
    LeastArrangement names rs' order := by
  have ha : ∀ other, Arrangement names rs' other ↔ Arrangement names rs other := by
    intro other
    constructor
    · exact fun h => ⟨h.perm, fun a b hab => h.precedes a b ((hp a b).mpr hab)⟩
    · exact fun h => ⟨h.perm, fun a b hab => h.precedes a b ((hp a b).mp hab)⟩
  exact ⟨(ha order).mpr h.toArrangement, fun other ho => h.least other ((ha other).mp ho)⟩

/-- An order is given only for known and acyclic relations, and it is the least arrangement. -/
theorem leastArrangement_of_eq_ok {order : List String}
    (h : provisioningOrder names rs = .ok order) : LeastArrangement names rs order := by
  by_cases hk : Known names rs
  · by_cases ha : Acyclic rs
    · obtain ⟨order', ho, hl⟩ := provisioningOrder_of_acyclic hk ha
      rw [ho] at h
      cases h
      exact hl
    · obtain ⟨fs, hfs⟩ := provisioningOrder_of_cyclic hk ha
      rw [hfs] at h
      cases h
  · obtain ⟨before, r, after, a, b, rfl, hb, ho, hab⟩ := exists_first_unknown hk
    rw [provisioningOrder_of_unknown hb ho hab] at h
    cases h

/-- What is in ascending order comes first among its rearrangements. -/
theorem eq_or_lex_of_perm {xs ys : List Nat} (hx : xs.Pairwise (· < ·)) (hp : ys.Perm xs) :
    ys = xs ∨ List.Lex (· < ·) xs ys := by
  induction xs generalizing ys with
  | nil => exact .inl hp.eq_nil
  | cons m xs ih =>
    obtain ⟨hm, hxs⟩ := List.pairwise_cons.mp hx
    cases ys with
    | nil => exact absurd hp.symm.eq_nil (by simp)
    | cons n ys =>
      rcases List.mem_cons.mp (hp.mem_iff.mp (.head ys)) with rfl | hn
      · rcases ih hxs ((List.perm_cons n).mp hp) with rfl | hlex
        · exact .inl rfl
        · exact .inr (.cons hlex)
      · exact .inr (.rel (hm n hn))

/-- Where no format precedes another the distinct formats are arranged as they are declared. -/
theorem leastArrangement_of_unordered (names : List String) (h : ∀ a b, ¬ Precedes rs a b) :
    LeastArrangement names rs names.eraseDups where
  perm := .refl _
  precedes a b hp := absurd hp (h a b)
  least := by
    intro other ho
    let g : FormatGraph := ⟨names.eraseDups, []⟩
    have hrange : g.names.map g.names.idxOf = g.nodes := map_idxOf_names (nodup_eraseDups names)
    have hp : (other.map g.names.idxOf).Perm g.nodes := hrange ▸ ho.perm.map _
    have hother : (other.map g.names.idxOf).map g.nameOf = other :=
      map_map_cancel fun c hc => nameOf_idxOf (ho.perm.mem_iff.mp hc)
    change _ ∨ List.Lex _ (g.names.map g.names.idxOf) _
    rw [hrange]
    rcases eq_or_lex_of_perm List.pairwise_lt_range hp with he | hlex
    · exact .inl (hother.symm.trans (he ▸ g.map_nameOf_nodes))
    · exact .inr hlex

/-- Where no format precedes another they are provisioned as they are declared. -/
theorem provisioningOrder_of_unordered (hn : names.Nodup) (h : ∀ a b, ¬ Precedes rs a b) :
    provisioningOrder names rs = .ok names := by
  have hk : Known names rs := fun a b hp => absurd hp (h a b)
  have ha : Acyclic rs := by
    intro a hp
    obtain ⟨b, hab, -⟩ := Relation.TransGen.head'_iff.mp hp
    exact h a b hab
  obtain ⟨order, ho, hl⟩ := provisioningOrder_of_acyclic hk ha
  have hleast := leastArrangement_of_unordered names h
  rw [eraseDups_of_nodup hn] at hleast
  rw [ho, hl.unique hleast]

theorem precedes_congr {rs' : List Relation} (hp : ∀ a b, Precedes rs' a b ↔ Precedes rs a b) :
    Precedes rs' = Precedes rs :=
  funext₂ fun a b => propext (hp a b)

/-- Known relations without a cycle have a least arrangement, and it is the order of provisioning of
all relations by which the same formats precede each other. The first relation that mentions an
unknown format is refused, and so is a cycle among known formats. -/
theorem provisioningOrder_least_or_refused (names : List String) (rs : List Relation) :
    (Known names rs → Acyclic rs →
      ∃ order, provisioningOrder names rs = .ok order ∧ LeastArrangement names rs order ∧
        ∀ rs', (∀ a b, Precedes rs' a b ↔ Precedes rs a b) →
          provisioningOrder names rs' = .ok order) ∧
    (¬ Known names rs →
      ∃ before r after a b, rs = before ++ r :: after ∧ Known names before ∧ r.Orders a b ∧
        (a ∉ names ∨ b ∉ names) ∧
        provisioningOrder names rs = .error (.unknownFormat (if a ∈ names then b else a))) ∧
    (Known names rs → ¬ Acyclic rs →
      ∃ fs, provisioningOrder names rs = .error (.cycle fs)) := by
  refine ⟨fun hk ha => ?_, fun hk => ?_, provisioningOrder_of_cyclic⟩
  · obtain ⟨order, ho, hl⟩ := provisioningOrder_of_acyclic hk ha
    refine ⟨order, ho, hl, fun rs' hp => ?_⟩
    have hk' : Known names rs' := fun a b hab => hk a b ((hp a b).mp hab)
    have ha' : Acyclic rs' := by
      rw [Acyclic, precedes_congr hp]
      exact ha
    obtain ⟨order', ho', hl'⟩ := provisioningOrder_of_acyclic hk' ha'
    rw [ho', hl'.unique (hl.congr hp)]
  · obtain ⟨before, r, after, a, b, rfl, hb, ho, hab⟩ := exists_first_unknown hk
    exact ⟨before, r, after, a, b, rfl, hb, ho, hab, provisioningOrder_of_unknown hb ho hab⟩

/-- Reviews refer to users. -/
def authorship : Relation :=
  (⟨.oneToMany, ⟨⟨"user", "id"⟩, none⟩, ⟨⟨"review", "userId"⟩, none⟩⟩ : Declaration).relation
    .standard

theorem provisioningOrder_authorship :
    Known ["review", "user", "recipe"] [authorship] ∧ Acyclic [authorship] ∧
      provisioningOrder ["review", "user", "recipe"] [authorship, authorship] =
        .ok ["user", "review", "recipe"] ∧
      LeastArrangement ["review", "user", "recipe"] [authorship] ["user", "review", "recipe"] := by
  have hp : ∀ a b, Precedes [authorship] a b → a = "user" ∧ b = "review" := by
    intro a b h
    obtain ⟨-, ha, hb, -⟩ := (precedes_singleton _ a b).mp h
    exact ⟨(Option.some.inj ha).symm, (Option.some.inj hb).symm⟩
  have hk : Known ["review", "user", "recipe"] [authorship] := by
    intro a b h
    obtain ⟨rfl, rfl⟩ := hp a b h
    decide
  have ha : Acyclic [authorship] := by
    intro a h
    obtain ⟨b, hab, -⟩ := Relation.TransGen.head'_iff.mp h
    obtain ⟨c, -, hca⟩ := Relation.TransGen.tail'_iff.mp h
    exact absurd ((hp a b hab).1.symm.trans (hp c a hca).2) (by decide)
  have ho : provisioningOrder ["review", "user", "recipe"] [authorship] =
      .ok ["user", "review", "recipe"] := by rfl
  obtain ⟨order, hok, hl, hall⟩ := (provisioningOrder_least_or_refused _ _).1 hk ha
  obtain rfl := Except.ok.inj (ho.symm.trans hok)
  exact ⟨hk, ha, hall _ (by simp [Precedes]), hl⟩

end Schemata
