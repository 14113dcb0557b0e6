import Schemata.Proofs.Documents.RoundTrip
import Mathlib.Data.List.DropRight

/-!
References read, written, and read again. Reading finds out whether a part is empty before it drops
the white space around it, so a part of white space alone makes an empty name, and a reference with
such a name cannot be read back. All others can, and so can every document without such references,
whether or not it declares a schema.
-/
namespace Schemata

open Text

/-! ### White space -/

namespace Text

variable {s : String}

theorem toList_trim (s : String) :
    (trim s).toList = (s.toList.dropWhile isBlank).rdropWhile isBlank := by
  simp [trim, List.rdropWhile]

theorem mem_of_mem_trim {c : Char} (h : c ∈ (trim s).toList) : c ∈ s.toList := by
  rw [toList_trim] at h
  exact (List.dropWhile_sublist _).subset ((List.rdropWhile_prefix _ _).subset h)

theorem trim_eq_empty_iff : trim s = "" ↔ ∀ c ∈ s.toList, isBlank c := by
  rw [← String.toList_eq_nil_iff, toList_trim, List.rdropWhile_eq_nil_iff]
  constructor
  · intro h c hc
    rw [← List.takeWhile_append_dropWhile (p := isBlank) (l := s.toList)] at hc
    rcases List.mem_append.mp hc with hc | hc
    · exact List.mem_takeWhile_imp hc
    · exact h c hc
  · exact fun h c hc => h c ((List.dropWhile_sublist _).subset hc)

/-- What has no white space in front has none there when some is dropped at the end. -/
theorem dropWhile_rdropWhile_dropWhile {α : Type} (p : α → Bool) (xs : List α) :
    ((xs.dropWhile p).rdropWhile p).dropWhile p = (xs.dropWhile p).rdropWhile p := by
  obtain ⟨ys, hys⟩ := List.rdropWhile_prefix p (xs.dropWhile p)
  have hhead := List.head?_dropWhile_not p xs
  generalize (xs.dropWhile p).rdropWhile p = zs at hys ⊢
  cases zs with
  | nil => rfl
  | cons z zs =>
    rw [← hys] at hhead
    exact List.dropWhile_cons_of_neg (by simpa using hhead)

theorem trim_trim (s : String) : trim (trim s) = trim s := by
  rw [← String.toList_inj, toList_trim, toList_trim, dropWhile_rdropWhile_dropWhile,
    List.rdropWhile_idempotent]

end Text

/-! ### References -/

namespace FieldRef

variable {s : String} {r : FieldRef}

/-- A reference is read from two parts that are not empty, with one point between them. -/
theorem exists_split_of_parse? (h : parse? s = some r) :
    ∃ first second, s.toList = first ++ '.' :: second ∧ ('.' ∉ first ∧ '.' ∉ second) ∧
      (first ≠ [] ∧ second ≠ []) ∧ r = ⟨trim (.ofList first), trim (.ofList second)⟩ := by
  by_cases hp : '.' ∈ s.toList
  · obtain ⟨first, second, hs, hf⟩ := List.eq_append_cons_of_mem hp
    rw [parse?_of_split hs hf] at h
    split at h
    · cases h
    · rename_i hparts
      push Not at hparts
      obtain ⟨hfirst, hsecond, hx⟩ := hparts
      exact ⟨first, second, hs, ⟨hf, hx⟩, ⟨hfirst, hsecond⟩, (Option.some.inj h).symm⟩
  · have hd : s.toList.dropWhile (· != '.') = [] := by
      rw [List.dropWhile_eq_nil_iff]
      intro c hc
      simpa using fun (e : c = '.') => hp (e ▸ hc)
    rw [parse?, hd] at h
    cases h

/-- The names hold no points and have no white space around them. -/
structure Tidy (r : FieldRef) : Prop where
  points : '.' ∉ r.formatName.toList ∧ '.' ∉ r.fieldName.toList
  trimmed : trim r.formatName = r.formatName ∧ trim r.fieldName = r.fieldName

theorem tidy_of_parse? (h : parse? s = some r) : r.Tidy := by
  obtain ⟨first, second, -, ⟨hf, hx⟩, -, rfl⟩ := exists_split_of_parse? h
  refine ⟨⟨fun hm => hf ?_, fun hm => hx ?_⟩, trim_trim _, trim_trim _⟩
  · simpa using mem_of_mem_trim hm
  · simpa using mem_of_mem_trim hm

theorem Tidy.parse?_render (h : r.Tidy) : parse? r.render = if r.Full then some r else none := by
  rw [FieldRef.parse?_render h.points.1 h.points.2, h.trimmed.1, h.trimmed.2]

/-- What has been read from two parts comes back unless one of them is white space alone. -/
theorem exists_split_reread (h : parse? s = some r) :
    ∃ first second, s.toList = first ++ '.' :: second ∧ '.' ∉ first ∧ '.' ∉ second ∧
      parse? r.render = if first.all isBlank ∨ second.all isBlank then none else some r := by
  obtain ⟨first, second, hsplit, ⟨hf, hx⟩, -, rfl⟩ := exists_split_of_parse? h
  have hfull : Full ⟨trim (.ofList first), trim (.ofList second)⟩ ↔
      ¬ (first.all isBlank ∨ second.all isBlank) := by
    simp [Full, trim_eq_empty_iff]
  refine ⟨first, second, hsplit, hf, hx, ?_⟩
  rw [(tidy_of_parse? h).parse?_render]
  simp only [hfull, ite_not]

end FieldRef

/-! ### Documents -/

namespace Tree

variable {α : Type} {read : Tree → Option α} {fs : List (String × Tree)} {name : String}

theorem exists_of_require? {v : α} (h : require? fs name read = some v) :
    ∃ t, read t = some v := by
  obtain ⟨t, -, ht⟩ := Option.bind_eq_some_iff.mp h
  exact ⟨t, ht⟩

theorem exists_of_mem_listOf? {t : Tree} {vs : List α} (h : listOf? read t = some vs) :
    ∀ v ∈ vs, ∃ t', read t' = some v := by
  obtain ⟨ts, -, hm⟩ := Option.bind_eq_some_iff.mp h
  clear h
  induction ts generalizing vs with
  | nil =>
    obtain rfl := Option.some.inj hm
    nofun
  | cons t' ts ih =>
    simp only [List.mapM_cons, Option.bind_eq_bind, Option.bind_eq_some_iff] at hm
    obtain ⟨v, hv, vs', hvs, hm⟩ := hm
    obtain rfl := Option.some.inj hm
    exact List.forall_mem_cons.mpr ⟨⟨t', hv⟩, ih hvs⟩

end Tree

namespace Declaration

variable {d : Declaration}

/-- No name of a field is empty. -/
def Full (d : Declaration) : Prop := d.first.field.Full ∧ d.second.field.Full

instance (d : Declaration) : Decidable d.Full := inferInstanceAs (Decidable (_ ∧ _))

structure Tidy (d : Declaration) : Prop where
  first : d.first.field.Tidy
  second : d.second.field.Tidy

theorem tidy_of_ofTree? {t : Tree} (h : ofTree? t = some d) : d.Tidy := by
  obtain ⟨⟨shape, rest⟩, -, h⟩ := Option.bind_eq_some_iff.mp h
  simp only [ofFields?, Option.bind_eq_bind, Option.bind_eq_some_iff] at h
  obtain ⟨_, -, first, hfirst, second, hsecond, _, -, _, -, hd⟩ := h
  obtain rfl := Option.some.inj hd
  obtain ⟨_, hfirst⟩ := Tree.exists_of_require? hfirst
  obtain ⟨_, hsecond⟩ := Tree.exists_of_require? hsecond
  obtain ⟨_, -, hfirst⟩ := Option.bind_eq_some_iff.mp hfirst
  obtain ⟨_, -, hsecond⟩ := Option.bind_eq_some_iff.mp hsecond
  exact ⟨FieldRef.tidy_of_parse? hfirst, FieldRef.tidy_of_parse? hsecond⟩

theorem Tidy.reread? (h : d.Tidy) : d.reread? = if d.Full then some d else none := by
  rw [Declaration.reread?, h.first.parse?_render, h.second.parse?_render]
  by_cases hf : d.first.field.Full <;> by_cases hs : d.second.field.Full <;>
    simp [Full, hf, hs]

end Declaration

namespace Document

variable {d : Document} {t : Tree}

theorem tidy_of_ofTree? (h : ofTree? t = some d) : ∀ e ∈ d.relations, e.Tidy := by
  simp only [ofTree?, Option.bind_eq_bind, Option.bind_eq_some_iff] at h
  obtain ⟨_, -, formats, -, relations, hr, hd⟩ := h
  obtain rfl := Option.some.inj hd
  rw [Tree.withDefault?] at hr
  split at hr
  · intro e he
    obtain ⟨_, he⟩ := Tree.exists_of_mem_listOf? hr e he
    exact Declaration.tidy_of_ofTree? he
  · obtain rfl := Option.some.inj hr
    intro e he
    cases he

/-- A document that has been read comes back, if no name of a field in it is empty. -/
theorem reread (h : ofTree? t = some d) {t' : Tree} (ht : d.toTree.Carries t') :
    ofTree? t' = if ∀ e ∈ d.relations, e.Full then some d else none := by
  have hr : ∀ e ∈ d.relations, e.reread? = if e.Full then some e else none :=
    fun e he => (tidy_of_ofTree? h e he).reread?
  rw [ofTree?_of_carries ht, Tree.mapM_of_guarded hr]
  split <;> rfl

end Document

/-- A reference that has been read comes back from what is written of it exactly if neither part of
the text was white space alone; else what is written is no reference. A document that has been read
comes back, from any tree that carries what was written, exactly if no name in its references is
empty. -/
theorem references_reread (s : String) (r : FieldRef) (t : Tree) (d : Document) :
    (FieldRef.parse? s = some r →
      ∃ first second, s.toList = first ++ '.' :: second ∧ '.' ∉ first ∧ '.' ∉ second ∧
        FieldRef.parse? r.render =
          if first.all isBlank ∨ second.all isBlank then none else some r) ∧
    (Document.ofTree? t = some d →
      d.toTree.Carries d.toTree ∧
      ∀ t', d.toTree.Carries t' →
        Document.ofTree? t' =
          if ∀ e ∈ d.relations, e.first.field.Full ∧ e.second.field.Full then some d
          else none) := by
  constructor
  · intro hs
    exact FieldRef.exists_split_reread hs
  · intro ht
    exact ⟨d.toTree_carries, fun t' => Document.reread ht⟩

/-- A document with one relation whose second field has the given reference. -/
def referring (ref : String) : Tree :=
  .record
    [("data_formats", .list []),
      ("relations", .list
        [.record
          [("type", .text "ONE_TO_ONE"), ("from_one_field", .text "user . id"),
            ("to_one_field", .text ref)]])]

/-- The document that `referring` reads as. -/
def referringTo (r : FieldRef) : Document :=
  ⟨[], [⟨.oneToOne, ⟨⟨"user", "id"⟩, none⟩, ⟨r, none⟩⟩]⟩

theorem references_reread_padded :
    (∃ first second, " user.\tid".toList = first ++ '.' :: second ∧ '.' ∉ first ∧ '.' ∉ second ∧
      FieldRef.parse? (FieldRef.render ⟨"user", "id"⟩) =
        if first.all isBlank ∨ second.all isBlank then none else some ⟨"user", "id"⟩) ∧
    Document.ofTree? (referringTo ⟨"user", "inviterId"⟩).toTree =
      some (referringTo ⟨"user", "inviterId"⟩) := by
  have hs : FieldRef.parse? " user.\tid" = some ⟨"user", "id"⟩ := by decide +kernel
  have ht : Document.ofTree? (referring "user. inviterId ") =
      some (referringTo ⟨"user", "inviterId"⟩) := by decide +kernel
  obtain ⟨href, hdocument⟩ := references_reread " user.\tid" _ _ _
  obtain ⟨hc, hread⟩ := hdocument ht
  refine ⟨href hs, ?_⟩
  rw [hread _ hc]
  decide +kernel

/-- White space alone before the point: what is read has no name for the format, and nothing reads
what is written of it. -/
theorem not_references_reread_blank :
    FieldRef.parse? " .x" = some ⟨"", "x"⟩ ∧
      FieldRef.parse? (FieldRef.render ⟨"", "x"⟩) = none ∧
      Document.ofTree? (referring " .x") = some (referringTo ⟨"", "x"⟩) ∧
      Document.ofTree? (referringTo ⟨"", "x"⟩).toTree = none := by
  decide +kernel

end Schemata
