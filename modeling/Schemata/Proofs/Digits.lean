import Schemata.Proofs.Characters
import Schemata.Text.Hex
import Schemata.Text.Scan

/-!
Digits and the numbers they spell. A reader takes digits to the first character that is none, and
what a number is written with is read as the number.
-/
namespace Schemata

/-! ### Decimal digits -/

namespace Literal

theorem digitValue?_of_isDigit {c : Char} (h : c.isDigit) :
    digitValue? 10 c = some (c.toNat - '0'.toNat) := by
  have hc : '0' ≤ c ∧ c ≤ '9' := Char.isDigit_iff_toNat.mp h
  have hn : c.toNat - 48 < 10 := by
    have hcode := isDigit_iff.mp h
    omega
  simp [digitValue?, hc, hn]

theorem foldl_digits (ds : List Char) (n : Nat) :
    (ds.map fun c => c.toNat - '0'.toNat).foldl (fun n d => n * 10 + d) n =
      Nat.ofDigitChars 10 ds n := by
  rw [List.foldl_map, Nat.ofDigitChars]
  simp only [Nat.mul_comm]

theorem natOfDigits?_eq {ds : List Char} (hne : ds ≠ []) (hd : ∀ c ∈ ds, c.isDigit) :
    natOfDigits? 10 ds = some (Nat.ofDigitChars 10 ds 0) := by
  have hm : ds.mapM (digitValue? 10) = some (ds.map fun c => c.toNat - '0'.toNat) := by
    clear hne
    induction ds with
    | nil => rfl
    | cons c ds ih =>
      obtain ⟨hc, hds⟩ := List.forall_mem_cons.mp hd
      simp [digitValue?_of_isDigit hc, ih hds]
  simp only [natOfDigits?, List.isEmpty_iff, hne, if_false, hm, Option.map_some, foldl_digits]

end Literal

namespace Scan

/-- No digit comes next. -/
def Stops (s : List Char) : Prop := ∀ c ∈ s.head?, c.isDigit = false

theorem takeWhile_of_stops {s : List Char} (h : Stops s) : s.takeWhile Char.isDigit = [] := by
  cases s with
  | nil => rfl
  | cons c s => simp [h c (by simp)]

theorem dropWhile_of_stops {s : List Char} (h : Stops s) : s.dropWhile Char.isDigit = s := by
  cases s with
  | nil => rfl
  | cons c s => simp [h c (by simp)]

/-- Digits are a number if there are as many as may be or no more follow. -/
theorem number?_append {least most : Nat} {ds rest : List Char} (hne : ds ≠ [])
    (hd : ∀ c ∈ ds, c.isDigit) (hl : least ≤ ds.length) (hm : ds.length ≤ most)
    (hr : ds.length = most ∨ Stops rest) :
    number? least most (ds ++ rest) = some (Nat.ofDigitChars 10 ds 0, rest) := by
  have htail : (rest.take (most - ds.length)).takeWhile Char.isDigit = [] := by
    rcases hr with he | hs
    · simp [he]
    · apply takeWhile_of_stops
      intro c hc
      cases rest with
      | nil => simp at hc
      | cons d rest =>
        cases hk : most - ds.length with
        | zero => simp [hk] at hc
        | succ k => exact hs c (by simpa [hk] using hc)
  have hdigits : ((ds ++ rest).take most).takeWhile Char.isDigit = ds := by
    rw [List.take_append, List.take_of_length_le hm, List.takeWhile_append_of_pos hd, htail,
      List.append_nil]
  simp [number?, hdigits, Nat.not_lt.mpr hl, Literal.natOfDigits?_eq hne hd]

end Scan

/-- Only zero itself is written with a zero in front. -/
theorem head?_toDigits {n : Nat} (hn : n ≠ 0) : (Nat.toDigits 10 n).head? ≠ some '0' := by
  induction n using Nat.strongRecOn with
  | ind n ih =>
    by_cases hlt : n < 10
    · have hdigit : ∀ k : Fin 10, k.val ≠ 0 → k.val.digitChar ≠ '0' := by decide
      rw [Nat.toDigits_of_lt_base hlt]
      simpa using hdigit ⟨n, hlt⟩ hn
    · have hfront := ih (n / 10) (by omega) (by omega)
      rw [Nat.toDigits_of_base_le (by decide) (by omega), List.head?_append]
      cases hd : Nat.toDigits 10 (n / 10) with
      | nil => exact absurd hd Nat.toDigits_ne_nil
      | cons c ds => simpa [hd] using hfront

/-! ### Hexadecimal digits -/

theorem Hex.value?_digit {n : Nat} (hn : n < 16) : value? (digit n) = some n := by
  have h : ∀ n : Fin 16, value? (digit n) = some n.val := by decide
  exact h ⟨n, hn⟩

end Schemata
