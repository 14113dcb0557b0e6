import Schemata.Text.Character

/-!
Classes of characters as ranges of their codes. Letters and digits lie apart from each other and
from white space.
-/
namespace Schemata

open Text

theorem isUpper_iff {c : Char} : c.isUpper ↔ 65 ≤ c.toNat ∧ c.toNat ≤ 90 :=
  decide_eq_true_iff

theorem isLower_iff {c : Char} : c.isLower ↔ 97 ≤ c.toNat ∧ c.toNat ≤ 122 := by
  change (decide (97 ≤ c.val) && decide (c.val ≤ 122)) = true ↔ _
  simp [UInt32.le_iff_toNat_le]

theorem isDigit_iff {c : Char} : c.isDigit ↔ 48 ≤ c.toNat ∧ c.toNat ≤ 57 := by
  simp [Char.isDigit, UInt32.le_iff_toNat_le, ← Char.toNat_val]

theorem isAlpha_iff {c : Char} : c.isAlpha ↔ c.isUpper ∨ c.isLower := Bool.or_eq_true_iff

theorem isAlphanum_iff {c : Char} : c.isAlphanum ↔ c.isUpper ∨ c.isLower ∨ c.isDigit := by
  rw [← or_assoc, ← isAlpha_iff]
  exact Bool.or_eq_true_iff

/-- A letter or digit is a capital or can stand within a hump, never both. -/
theorem isUpper_eq_false_of_low {c : Char} (h : (c.isLower || c.isDigit) = true) :
    c.isUpper = false := by
  rw [Bool.or_eq_true, isLower_iff, isDigit_iff] at h
  rw [Bool.eq_false_iff, ne_eq, isUpper_iff]
  omega

theorem isDigit_eq_false_of_isAlpha {c : Char} (h : c.isUpper ∨ c.isLower) : c.isDigit = false := by
  rw [isUpper_iff, isLower_iff] at h
  rw [Bool.eq_false_iff, ne_eq, isDigit_iff]
  omega

theorem isAlphanum_of_low {c : Char} (h : (c.isLower || c.isDigit) = true) : c.isAlphanum := by
  rw [isAlphanum_iff]
  exact .inr (by simpa using h)

/-- A letter or digit is of exactly one class. -/
theorem classes_of_isAlphanum {c : Char} (h : c.isAlphanum) :
    (c.isUpper = true ∧ c.isLower = false ∧ c.isDigit = false) ∨
      (c.isUpper = false ∧ c.isLower = true ∧ c.isDigit = false) ∨
      (c.isUpper = false ∧ c.isLower = false ∧ c.isDigit = true) := by
  rw [isAlphanum_iff] at h
  simp only [Bool.eq_false_iff, ne_eq]
  rw [isUpper_iff, isLower_iff, isDigit_iff] at *
  omega

/-- White space is neither a letter nor a digit. -/
theorem isBlank_eq_false_of_isAlphanum {c : Char} (h : c.isAlphanum) : isBlank c = false := by
  rw [isAlphanum_iff, isUpper_iff, isLower_iff, isDigit_iff] at h
  simp only [isBlank, Bool.or_eq_false_iff, Bool.and_eq_false_iff, decide_eq_false_iff_not,
    beq_eq_false_iff_ne]
  omega

end Schemata
