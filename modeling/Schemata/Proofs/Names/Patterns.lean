import Mathlib.Computability.Language
import Schemata.Proofs.Names.SnakeCase

/-!
What patterns describe. A pattern has a language: the texts that can be cut into parts as the
pattern is put together from its own, wherever the cuts have to be made. A pattern is read one
character at a time and never goes back, and still it accepts exactly the texts of its language. So
the pattern for declared names, with its repeated humps and the capital that may end them, describes
lower camel case and nothing else.
-/
namespace Schemata

open Text
open scoped Computability

/-! ### Languages by their first characters -/

section Language

variable {α : Type} {l m : Language α}

theorem nil_mem_mul_iff : [] ∈ l * m ↔ [] ∈ l ∧ [] ∈ m := by
  rw [Language.mem_mul]
  constructor
  · rintro ⟨t, ht, u, hu, h⟩
    obtain ⟨rfl, rfl⟩ := List.append_eq_nil_iff.mp h
    exact ⟨ht, hu⟩
  · rintro ⟨hl, hm⟩
    exact ⟨[], hl, [], hm, rfl⟩

/-- The first character belongs to the second part only if the first part can be empty. -/
theorem cons_mem_mul_iff {c : α} {s : List α} :
    c :: s ∈ l * m ↔ (∃ t, c :: t ∈ l ∧ ∃ u ∈ m, t ++ u = s) ∨ ([] ∈ l ∧ c :: s ∈ m) := by
  rw [Language.mem_mul]
  constructor
  · rintro ⟨t, ht, u, hu, h⟩
    cases t with
    | nil => exact .inr ⟨ht, h ▸ hu⟩
    | cons d t =>
      obtain ⟨rfl, hs⟩ := List.cons_eq_cons.mp h
      exact .inl ⟨t, ht, u, hu, hs⟩
  · rintro (⟨t, ht, u, hu, rfl⟩ | ⟨hl, hs⟩)
    · exact ⟨c :: t, ht, u, hu, rfl⟩
    · exact ⟨[], hl, c :: s, hs, rfl⟩

/-- The first character belongs to the first repetition that is not empty. -/
theorem cons_mem_kstar_iff {c : α} {s : List α} :
    c :: s ∈ l∗ ↔ ∃ t, c :: t ∈ l ∧ ∃ u ∈ l∗, t ++ u = s := by
  constructor
  · rw [Language.mem_kstar_iff_exists_nonempty]
    rintro ⟨vs, h, hvs⟩
    cases vs with
    | nil => cases h
    | cons v vs =>
      obtain ⟨⟨hv, hne⟩, hrest⟩ := List.forall_mem_cons.mp hvs
      obtain ⟨d, t, rfl⟩ := List.exists_cons_of_ne_nil hne
      obtain ⟨rfl, hs⟩ := List.cons_eq_cons.mp h
      exact ⟨t, hv, vs.flatten, Language.join_mem_kstar fun u hu => (hrest u hu).1, hs.symm⟩
  · rintro ⟨t, ht, u, hu, rfl⟩
    rw [← Language.one_add_self_mul_kstar_eq_kstar]
    exact .inr (Language.append_mem_mul ht hu)

end Language

/-! ### The language of a pattern -/

namespace Text.Pattern

/-- The texts that a pattern describes. -/
def language : Pattern → Language Char
  | .never => 0
  | .empty => 1
  | .one p => {s | ∃ c, p c ∧ s = [c]}
  | .seq p q => p.language * q.language
  | .either p q => p.language + q.language
  | .many p => p.language∗

theorem mem_language_one {p : Char → Bool} {s : List Char} :
    s ∈ (Pattern.one p).language ↔ ∃ c, p c ∧ s = [c] := Iff.rfl

theorem language_join (p q : Pattern) : (join p q).language = p.language * q.language := by
  unfold join
  split <;> simp [language]

theorem language_union (p q : Pattern) : (union p q).language = p.language + q.language := by
  unfold union
  split <;> simp [language]

theorem nullable_iff (p : Pattern) : p.nullable ↔ [] ∈ p.language := by
  induction p with
  | never => simp [nullable, language]
  | empty => simp [nullable, language]
  | one p => simp [nullable, mem_language_one]
  | seq p q hp hq => rw [nullable, language, Bool.and_eq_true, nil_mem_mul_iff, hp, hq]
  | either p q hp hq => rw [nullable, language, Bool.or_eq_true, Language.mem_add, hp, hq]
  | many p _ => simp [nullable, language, Language.nil_mem_kstar]

/-- What remains after a character is what can stand behind it. -/
theorem mem_language_after (c : Char) (p : Pattern) (s : List Char) :
    s ∈ (p.after c).language ↔ c :: s ∈ p.language := by
  induction p generalizing s with
  | never => simp [after, language]
  | empty => simp [after, language]
  | one p =>
    rw [after, mem_language_one]
    by_cases h : p c <;> simp [h, language]
  | seq p q hp hq =>
    rw [language, cons_mem_mul_iff, after]
    by_cases h : p.nullable
    · rw [if_pos h, language_union, language_join, Language.mem_add, Language.mem_mul, hq,
        ← nullable_iff]
      simp only [hp, h, true_and]
    · rw [if_neg h, language_join, Language.mem_mul, ← nullable_iff]
      simp [hp, h]
  | either p q hp hq =>
    rw [after, language_union, language, Language.mem_add, Language.mem_add, hp, hq]
  | many p hp =>
    rw [after, language_join, language, cons_mem_kstar_iff, Language.mem_mul]
    simp only [hp]

theorem accepts_iff_mem_language (p : Pattern) (s : List Char) :
    p.accepts s ↔ s ∈ p.language := by
  induction s generalizing p with
  | nil => exact nullable_iff p
  | cons c s ih => rw [accepts_cons, ih, mem_language_after]

end Text.Pattern

/-! ### Declared names -/

namespace Name

/-- The pattern for declared names keeps the promise of its message. Its language is lower camel
case, and so is what the check lets through to the check of the length. All other names but the
empty one are refused by that message, in particular every name in which there is a character, be it
a line break at the end, that is no ASCII letter or digit. -/
theorem pattern_describes_lowerCamel (kind : Kind) (name : String) :
    (name.toList ∈ declared.language ↔ LowerCamel name.toList) ∧
      (declared.accepts name.toList ↔ LowerCamel name.toList) ∧
      (checkDeclared kind name = .ok () ∨ checkDeclared kind name = .error (.tooLong kind name) ↔
        LowerCamel name.toList) ∧
      (checkDeclared kind name = .error (.notLowerCamelCase kind name) ↔
        name ≠ "" ∧ ¬ LowerCamel name.toList) ∧
      ∀ c ∈ name.toList, isAscii c = false ∨ c.isAlphanum = false →
        checkDeclared kind name = .error (.notLowerCamelCase kind name) := by
  have hd := accepts_declared_iff name.toList
  have hrefused : checkDeclared kind name = .error (.notLowerCamelCase kind name) ↔
      name ≠ "" ∧ ¬ LowerCamel name.toList := by
    rw [checkDeclared_eq_error_iff]
    simp
  refine ⟨(Pattern.accepts_iff_mem_language _ _).symm.trans hd, hd, ?_, hrefused,
    fun c hc h => hrefused.mpr ⟨?_, fun hl => ?_⟩⟩
  · rw [checkDeclared_eq_ok_iff, checkDeclared_eq_error_iff]
    constructor
    · rintro (h | ⟨-, h⟩ | ⟨-, -, h⟩ | ⟨hl, -⟩)
      · exact h.camel
      · cases h
      · cases h
      · exact hl
    · intro hl
      obtain hs | hs := Nat.lt_or_ge maxLength (column name).utf8ByteSize
      · exact .inr (.inr (.inr ⟨hl, hs, rfl⟩))
      · exact .inl ⟨hl, hs⟩
  · rintro rfl
    cases hc
  · have ha := hl.alphanum c hc
    rw [isAscii_of_isAlphanum ha, ha] at h
    simp at h

/-- The last capital of a name may stand behind a digit. A line break behind a name, a letter that
is not ASCII and a separator are refused as two capitals in a row are. -/
theorem pattern_describes_aB1C :
    LowerCamel "aB1C".toList ∧
      checkDeclared .field "homeURL" = .error (.notLowerCamelCase .field "homeURL") ∧
      '\n' ∈ "user\n".toList ∧ '\n'.isAlphanum = false ∧
      checkDeclared .dataFormat "user\n" =
        .error (.notLowerCamelCase .dataFormat "user\n") ∧
      'É' ∈ "userÉ".toList ∧ isAscii 'É' = false ∧
      checkDeclared .field "userÉ" = .error (.notLowerCamelCase .field "userÉ") ∧
      '_' ∈ "user_id".toList ∧ '_'.isAlphanum = false ∧
      checkDeclared .field "user_id" = .error (.notLowerCamelCase .field "user_id") := by
  obtain ⟨-, hcamel, -⟩ := pattern_describes_lowerCamel .field "aB1C"
  obtain ⟨-, hcapitals, -, hrefused, -⟩ := pattern_describes_lowerCamel .field "homeURL"
  obtain ⟨-, -, -, -, hbreak⟩ := pattern_describes_lowerCamel .dataFormat "user\n"
  obtain ⟨-, -, -, -, haccent⟩ := pattern_describes_lowerCamel .field "userÉ"
  obtain ⟨-, -, -, -, hseparator⟩ := pattern_describes_lowerCamel .field "user_id"
  refine ⟨hcamel.mp (by decide), hrefused.mpr ⟨by decide, hcapitals.not.mp (by decide)⟩,
    by decide, by decide, hbreak '\n' (by decide) (.inr (by decide)),
    by decide, by decide, haccent 'É' (by decide) (.inl (by decide)),
    by decide, by decide, hseparator '_' (by decide) (.inr (by decide))⟩

end Name

end Schemata
