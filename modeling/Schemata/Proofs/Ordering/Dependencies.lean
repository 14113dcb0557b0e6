import Schemata.Proofs.Repetitions
import Schemata.Proofs.Success
import Schemata.Proofs.Ordering.Sorting

/-!
The graph that relations make of formats. It has one edge for each pair of different formats of
which one is referred to and the other holds the key, however many relations there are between the
two, and the first relation that mentions a format outside the list is refused.
-/
namespace Schemata

/-- The relation carries a foreign key clause by which the format `holder` refers to another format,
`referenced`. -/
def Relation.Orders (r : Relation) (referenced holder : String) : Prop :=
  r.foreignKey?.isSome ∧ r.declaration.referenced?.map (·.formatName) = some referenced ∧
    r.declaration.holder?.map (·.formatName) = some holder ∧ referenced ≠ holder

/-- One of the relations has the format `holder` refer to the other format `referenced`. -/
def Precedes (rs : List Relation) (referenced holder : String) : Prop :=
  ∃ r ∈ rs, r.Orders referenced holder

/-- All formats that the relations order are in the list. -/
def Known (names : List String) (rs : List Relation) : Prop :=
  ∀ a b, Precedes rs a b → a ∈ names ∧ b ∈ names

/-- No format refers to itself by way of other formats. -/
def Acyclic (rs : List Relation) : Prop :=
  ∀ a, ¬ Relation.TransGen (Precedes rs) a a

theorem precedes_append (rs rs' : List Relation) (a b : String) :
    Precedes (rs ++ rs') a b ↔ Precedes rs a b ∨ Precedes rs' a b := by
  simp [Precedes, or_and_right, exists_or]

@[simp] theorem precedes_singleton (r : Relation) (a b : String) :
    Precedes [r] a b ↔ r.Orders a b := by
  simp [Precedes]

namespace FormatGraph

theorem dependency?_eq_some_iff (r : Relation) (a b : String) :
    dependency? r = some (a, b) ↔ r.Orders a b := by
  unfold dependency? Relation.Orders
  cases r.foreignKey? <;> cases r.declaration.referenced? <;> cases r.declaration.holder? <;> simp
  constructor
  · rintro ⟨hne, rfl, rfl⟩
    exact ⟨rfl, rfl, fun h => hne h.symm⟩
  · rintro ⟨rfl, rfl, hne⟩
    exact ⟨fun h => hne h.symm, rfl, rfl⟩

/-- The names are collected one after the other. -/
theorem distinct_eq_eraseDups (names : List String) : distinct names = names.eraseDups := by
  induction names using List.reverseRecOn with
  | nil => rfl
  | append_singleton names n ih =>
    have hlast : distinct (names ++ [n]) =
        if n ∈ distinct names then distinct names else distinct names ++ [n] := by
      rw [distinct, List.foldl_append]
      rfl
    rw [hlast, ih, eraseDups_append_singleton]
    simp only [List.mem_eraseDups]

theorem idxOf?_of_mem {names : List String} {a : String} (h : a ∈ names) :
    names.idxOf? a = some (names.idxOf a) := by
  obtain ⟨i, hi⟩ := Option.isSome_iff_exists.mp (List.isSome_idxOf?.mpr h)
  rw [List.idxOf_eq_getD_idxOf?, hi, Option.getD_some]

@[simp] theorem names_addEdge (g : FormatGraph) (e : Nat × Nat) :
    (g.addEdge e).names = g.names := by
  unfold addEdge
  split <;> rfl

theorem mem_addEdge (g : FormatGraph) (e f : Nat × Nat) :
    f ∈ (g.addEdge e).edges ↔ f ∈ g.edges ∨ f = e := by
  unfold addEdge
  split
  · exact ⟨.inl, fun hf => hf.elim id (· ▸ ‹e ∈ g.edges›)⟩
  · simp

theorem nodup_addEdge {g : FormatGraph} (h : g.edges.Nodup) (e : Nat × Nat) :
    (g.addEdge e).edges.Nodup := by
  unfold addEdge
  split
  · exact h
  · refine List.nodup_append.mpr ⟨h, by simp, fun f hf k hk => ?_⟩
    rintro rfl
    exact ‹e ∉ g.edges› (List.mem_singleton.mp hk ▸ hf)

/-- The graph has the distinct names as formats and the pairs that the relations order as edges. -/
structure Represents (g : FormatGraph) (names : List String) (rs : List Relation) : Prop where
  names_eq : g.names = names.eraseDups
  nodup : g.edges.Nodup
  known : Known names rs
  mem_edges : ∀ e, e ∈ g.edges ↔
    ∃ a b, Precedes rs a b ∧ e = (g.names.idxOf a, g.names.idxOf b)

variable {g : FormatGraph} {names : List String} {rs : List Relation}

namespace Represents

theorem mem_names (h : g.Represents names rs) (a : String) : a ∈ g.names ↔ a ∈ names := by
  rw [h.names_eq, List.mem_eraseDups]

theorem nodup_names (h : g.Represents names rs) : g.names.Nodup := by
  rw [h.names_eq]
  exact nodup_eraseDups names

theorem wellFormed (h : g.Represents names rs) : g.WellFormed where
  nodup := h.nodup
  bounded := by
    intro e he
    obtain ⟨a, b, hp, rfl⟩ := (h.mem_edges e).mp he
    obtain ⟨ha, hb⟩ := h.known a b hp
    exact ⟨List.idxOf_lt_length_of_mem ((h.mem_names a).mpr ha),
      List.idxOf_lt_length_of_mem ((h.mem_names b).mpr hb)⟩

end Represents

theorem start_represents (names : List String) :
    Represents ⟨distinct names, []⟩ names [] where
  names_eq := distinct_eq_eraseDups names
  nodup := List.nodup_nil
  known := by simp [Known, Precedes]
  mem_edges := by simp [Precedes]

/-- A relation between formats of the list adds its edge, unless it is there already. -/
theorem addRelation_of_known (h : g.Represents names rs) {r : Relation} (hr : Known names [r]) :
    ∃ g', g.addRelation r = .ok g' ∧ g'.Represents names (rs ++ [r]) := by
  have hk : Known names (rs ++ [r]) := by
    intro a b hp
    exact ((precedes_append _ _ a b).mp hp).elim (h.known a b) (hr a b)
  unfold addRelation
  cases hd : dependency? r with
  | none =>
    have hp : ∀ a b, Precedes (rs ++ [r]) a b ↔ Precedes rs a b := by
      intro a b
      rw [precedes_append, precedes_singleton, ← dependency?_eq_some_iff, hd]
      simp
    exact ⟨g, rfl, h.names_eq, h.nodup, hk, by simpa only [hp] using h.mem_edges⟩
  | some ab =>
    obtain ⟨a, b⟩ := ab
    have ho : r.Orders a b := (dependency?_eq_some_iff r a b).mp hd
    have hp : ∀ c d, Precedes (rs ++ [r]) c d ↔ Precedes rs c d ∨ (a = c ∧ b = d) := by
      intro c d
      rw [precedes_append, precedes_singleton, ← dependency?_eq_some_iff, hd]
      simp
    obtain ⟨ha, hb⟩ := hr a b (by simpa using ho)
    rw [← h.mem_names] at ha hb
    simp only [idxOf?_of_mem ha, idxOf?_of_mem hb]
    refine ⟨_, rfl, ?_, nodup_addEdge h.nodup _, hk, ?_⟩
    · rw [names_addEdge, h.names_eq]
    · intro e
      rw [mem_addEdge, h.mem_edges, names_addEdge]
      simp only [hp]
      constructor
      · rintro (⟨c, d, hc, rfl⟩ | rfl)
        · exact ⟨c, d, .inl hc, rfl⟩
        · exact ⟨a, b, .inr ⟨rfl, rfl⟩, rfl⟩
      · rintro ⟨c, d, hc | ⟨rfl, rfl⟩, rfl⟩
        · exact .inl ⟨c, d, hc, rfl⟩
        · exact .inr rfl

/-- The first relation that mentions a format outside the list is refused. -/
theorem addRelation_of_unknown (h : g.Represents names rs) {r : Relation} {a b : String}
    (ho : r.Orders a b) (hab : a ∉ names ∨ b ∉ names) :
    g.addRelation r = .error (.unknownFormat (if a ∈ names then b else a)) := by
  unfold addRelation
  rw [(dependency?_eq_some_iff r a b).mpr ho]
  by_cases ha : a ∈ names
  · have hb : b ∉ names := hab.resolve_left (not_not_intro ha)
    rw [← h.mem_names] at hb
    simp [ha, idxOf?_of_mem ((h.mem_names a).mpr ha), List.idxOf?_eq_none_iff.mpr hb]
  · have ha' := ha
    rw [← h.mem_names] at ha'
    simp [ha, List.idxOf?_eq_none_iff.mpr ha']

/-- Relations between formats of the list make their graph. -/
theorem ofRelations_of_known (names : List String) {rs : List Relation} (h : Known names rs) :
    ∃ g, ofRelations names rs = .ok g ∧ g.Represents names rs := by
  induction rs using List.reverseRecOn with
  | nil => exact ⟨_, rfl, start_represents names⟩
  | append_singleton rs r ih =>
    have hrs : Known names rs := fun a b hp => h a b ((precedes_append _ _ a b).mpr (.inl hp))
    have hr : Known names [r] := fun a b hp => h a b ((precedes_append _ _ a b).mpr (.inr hp))
    obtain ⟨g, hg, hrep⟩ := ih hrs
    obtain ⟨g', hg', hrep'⟩ := addRelation_of_known hrep hr
    refine ⟨g', ?_, hrep'⟩
    rw [ofRelations] at hg ⊢
    rw [List.foldlM_append, hg, ok_bind, List.foldlM_cons, hg', ok_bind]
    rfl

/-- Of the relations that mention a format outside the list the first decides. -/
theorem ofRelations_of_unknown (names : List String) {before after : List Relation} {r : Relation}
    {a b : String} (h : Known names before) (ho : r.Orders a b) (hab : a ∉ names ∨ b ∉ names) :
    ofRelations names (before ++ r :: after) =
      .error (.unknownFormat (if a ∈ names then b else a)) := by
  obtain ⟨g, hg, hrep⟩ := ofRelations_of_known names h
  rw [ofRelations] at hg ⊢
  rw [List.foldlM_append, hg, ok_bind, List.foldlM_cons, addRelation_of_unknown hrep ho hab,
    error_bind]

/-- Relations that are not all between formats of the list have a first that is not. -/
theorem exists_first_unknown {names : List String} {rs : List Relation} (h : ¬ Known names rs) :
    ∃ before r after a b, rs = before ++ r :: after ∧ Known names before ∧ r.Orders a b ∧
      (a ∉ names ∨ b ∉ names) := by
  induction rs using List.reverseRecOn with
  | nil => simp [Known, Precedes] at h
  | append_singleton rs r ih =>
    by_cases hrs : Known names rs
    · simp only [Known, not_forall, precedes_append, precedes_singleton] at h
      obtain ⟨a, b, hp, hab⟩ := h
      have hno : ¬ Precedes rs a b := fun hp => hab (hrs a b hp)
      exact ⟨rs, r, [], a, b, rfl, hrs, hp.resolve_left hno, by tauto⟩
    · obtain ⟨before, r', after, a, b, rfl, hb, ho, hab⟩ := ih hrs
      exact ⟨before, r', after ++ [r], a, b, by simp, hb, ho, hab⟩

end FormatGraph

end Schemata
