import Schemata.Proofs.Names.LowerCamel
import Schemata.Relation.Declaration

/-!
Texts made of names with separators between them. A reference has a point between its two names and
the name of a relation has blanks around its arrow. Neither stands in a name in lower camel case, so
a reference can be read back and the name of a relation tells its shape and its fields.
-/
namespace Schemata

open Text

/-- Two texts made of parts with a separator between them are equal if the parts are, or if the
separator of each also stands within a part of the other. -/
theorem append_cons_eq_iff {α : Type} {a : α} {xs ys zs ws : List α} :
    xs ++ a :: zs = ys ++ a :: ws ↔
      (xs = ys ∧ zs = ws) ∨ (∃ m, ys = xs ++ a :: m ∧ zs = m ++ a :: ws) ∨
        ∃ m, xs = ys ++ a :: m ∧ ws = m ++ a :: zs := by
  constructor
  · intro h
    obtain ⟨b, rfl, hb⟩ | ⟨b, rfl, hb⟩ := List.append_eq_append_iff.mp h
    · cases b with
      | nil => exact .inl ⟨by simp, by simpa using hb⟩
      | cons c b =>
        obtain ⟨rfl, hz⟩ := List.cons_eq_cons.mp hb
        exact .inr (.inl ⟨b, rfl, hz⟩)
    · cases b with
      | nil => exact .inl ⟨by simp, by simpa [eq_comm] using hb⟩
      | cons c b =>
        obtain ⟨rfl, hw⟩ := List.cons_eq_cons.mp hb
        exact .inr (.inr ⟨b, rfl, hw⟩)
  · rintro (⟨rfl, rfl⟩ | ⟨m, rfl, rfl⟩ | ⟨m, rfl, rfl⟩) <;> simp

/-- Two texts that are equal up to a separator found in neither front part agree on both sides. -/
theorem append_cons_inj_of_not_mem {α : Type} {a : α} {xs ys zs ws : List α} (hx : a ∉ xs)
    (hy : a ∉ ys) : xs ++ a :: zs = ys ++ a :: ws ↔ xs = ys ∧ zs = ws := by
  rw [append_cons_eq_iff]
  refine or_iff_left ?_
  rintro (⟨m, rfl, -⟩ | ⟨m, rfl, -⟩)
  · simp at hy
  · simp at hx

theorem Text.trim_of_not_blank {s : String} (h : ∀ c ∈ s.toList, isBlank c = false) :
    trim s = s := by
  have hd : ∀ {cs : List Char}, (∀ c ∈ cs, isBlank c = false) → cs.dropWhile isBlank = cs := by
    intro cs hcs
    cases cs with
    | nil => rfl
    | cons c cs => rw [List.dropWhile_cons_of_neg (by simp [hcs c (.head _)])]
  have hr : ∀ c ∈ s.toList.reverse, isBlank c = false := fun c hc => h c (List.mem_reverse.mp hc)
  simp [trim, hd h, hd hr]

namespace FieldRef

/-- Both names are in lower camel case. -/
structure Camel (r : FieldRef) : Prop where
  formatName : Name.LowerCamel r.formatName.toList
  fieldName : Name.LowerCamel r.fieldName.toList

theorem toList_render (r : FieldRef) :
    r.render.toList = r.formatName.toList ++ '.' :: r.fieldName.toList := by
  simp [render]

/-- What is read of a text is decided by its parts before and behind the first point. -/
theorem parse?_of_split {s : String} {first second : List Char}
    (h : s.toList = first ++ '.' :: second) (hf : '.' ∉ first) :
    parse? s =
      if first = [] ∨ second = [] ∨ '.' ∈ second then none
      else some ⟨trim (.ofList first), trim (.ofList second)⟩ := by
  have hp : ∀ c ∈ first, (c != '.') = true := by
    intro c hc
    simpa using fun (e : c = '.') => hf (e ▸ hc)
  have ht : s.toList.takeWhile (· != '.') = first := by
    rw [h, List.takeWhile_append_of_pos hp]
    simp
  have hd : s.toList.dropWhile (· != '.') = '.' :: second := by
    rw [h, List.dropWhile_append_of_pos hp]
    simp
  simp [parse?, ht, hd, or_assoc]

/-- Neither name is empty. -/
def Full (r : FieldRef) : Prop := r.formatName ≠ "" ∧ r.fieldName ≠ ""

instance (r : FieldRef) : Decidable r.Full := inferInstanceAs (Decidable (_ ∧ _))

/-- What is written of two names without points reads back as the names without the white space
around them, unless one of them is empty. -/
theorem parse?_render {r : FieldRef} (hf : '.' ∉ r.formatName.toList)
    (hx : '.' ∉ r.fieldName.toList) :
    parse? r.render = if r.Full then some ⟨trim r.formatName, trim r.fieldName⟩ else none := by
  have hfull : r.Full ↔ ¬ (r.formatName = "" ∨ r.fieldName = "") := not_or.symm
  rw [parse?_of_split r.toList_render hf]
  simp only [String.toList_eq_nil_iff, String.ofList_toList, hx, or_false, hfull, ite_not]

theorem Camel.parse?_render {r : FieldRef} (h : r.Camel) : parse? r.render = some r := by
  have hp : ∀ {s : String}, Name.LowerCamel s.toList → s ≠ "" ∧ '.' ∉ s.toList ∧ trim s = s := by
    intro s hs
    refine ⟨?_, hs.not_mem (by decide), Text.trim_of_not_blank fun c => hs.isBlank_eq_false⟩
    rintro rfl
    exact hs.ne_nil rfl
  obtain ⟨hf, hpf, htf⟩ := hp h.formatName
  obtain ⟨hx, hpx, htx⟩ := hp h.fieldName
  rw [FieldRef.parse?_render hpf hpx, if_pos ⟨hf, hx⟩, htf, htx]

/-- A written reference has no blank. -/
theorem Camel.blank_not_mem {r : FieldRef} (h : r.Camel) : ' ' ∉ r.render.toList := by
  rw [toList_render, List.mem_append, List.mem_cons]
  rintro (hm | he | hm)
  · exact h.formatName.not_mem (by decide) hm
  · cases he
  · exact h.fieldName.not_mem (by decide) hm

theorem Camel.render_inj {r q : FieldRef} (hr : r.Camel) (hq : q.Camel)
    (h : r.render = q.render) : r = q := by
  have hp := hr.parse?_render
  rw [h, hq.parse?_render] at hp
  exact (Option.some.inj hp).symm

end FieldRef

namespace Shape

theorem arrow_inj {s t : Shape} (h : s.arrow = t.arrow) : s = t := by
  revert h
  cases s <;> cases t <;> decide

theorem blank_not_mem_arrow (s : Shape) : ' ' ∉ s.arrow.toList := by
  cases s <;> decide

end Shape

namespace Declaration

/-- All names of the fields are in lower camel case. -/
structure Camel (d : Declaration) : Prop where
  first : d.first.field.Camel
  second : d.second.field.Camel

theorem toList_name (d : Declaration) :
    d.name.toList = d.first.field.render.toList ++
      ' ' :: (d.shape.arrow.toList ++ ' ' :: d.second.field.render.toList) := by
  simp [name, toString]

/-- The name of a relation tells its shape and its fields, and nothing else. -/
theorem Camel.name_eq_iff {d e : Declaration} (hd : d.Camel) (he : e.Camel) :
    d.name = e.name ↔
      d.shape = e.shape ∧ d.first.field = e.first.field ∧ d.second.field = e.second.field := by
  constructor
  · intro h
    have hl := congrArg String.toList h
    rw [toList_name, toList_name,
      append_cons_inj_of_not_mem hd.first.blank_not_mem he.first.blank_not_mem,
      append_cons_inj_of_not_mem d.shape.blank_not_mem_arrow e.shape.blank_not_mem_arrow] at hl
    obtain ⟨hf, ha, hs⟩ := hl
    exact ⟨Shape.arrow_inj (String.toList_inj.mp ha),
      hd.first.render_inj he.first (String.toList_inj.mp hf),
      hd.second.render_inj he.second (String.toList_inj.mp hs)⟩
  · rintro ⟨hs, hf, hg⟩
    rw [name, name, hs, hf, hg]

end Declaration

end Schemata
