import Mathlib.Tactic.Ring
import Schemata.Number.Double

/-!
Rounding what needs none. A pattern's own value rounds to the pattern, and a value is rounded alike
however its factors of two are spread over significand and exponent. So a number of single precision
goes through double precision and comes back as it was.
-/
namespace Schemata.Floating.Format

/-! ### Units -/

theorem inUnits_eq (num den : Nat) (e : Int) :
    inUnits num den e = (num * 2 ^ (-e).toNat, den * 2 ^ e.toNat) := by
  unfold inUnits
  by_cases he : 0 ≤ e
  · have hz : (-e).toNat = 0 := by omega
    simp [he, hz]
  · have hz : e.toNat = 0 := by omega
    simp [he, hz]

theorem roundDiv_mul_right (num den : Nat) {c : Nat} (hc : 0 < c) :
    roundDiv (num * c) (den * c) = roundDiv num den := by
  have hl : 2 * (num % den * c) < den * c ↔ 2 * (num % den) < den := by
    rw [← Nat.mul_assoc]
    exact Nat.mul_lt_mul_right hc
  have hg : den * c < 2 * (num % den * c) ↔ den < 2 * (num % den) := by
    rw [← Nat.mul_assoc]
    exact Nat.mul_lt_mul_right hc
  simp only [roundDiv, Nat.mul_div_mul_right _ _ hc, Nat.mul_mod_mul_right, hl, hg]

theorem roundDiv_self_mul (n : Nat) {den : Nat} (hd : 0 < den) : roundDiv (n * den) den = n := by
  have hr : n * den % den = 0 := Nat.mul_mod_left n den
  have hq : n * den / den = n := Nat.mul_div_cancel n hd
  simp [roundDiv, hr, hq, hd]

theorem log2_mul_two_pow {n : Nat} (hn : n ≠ 0) (k : Nat) : (n * 2 ^ k).log2 = n.log2 + k := by
  induction k with
  | zero => simp
  | succ k ih =>
    have hne : n * 2 ^ k ≠ 0 := Nat.mul_ne_zero hn (by simp)
    rw [show n * 2 ^ (k + 1) = 2 * (n * 2 ^ k) by ring, Nat.log2_two_mul hne, ih]
    rfl

variable {f : Format} {s : Bool} {m : Nat} {e : Int}

/-! ### Rounding depends on the value alone -/

theorem scaleOf_mul_two_pow (f : Format) {num den : Nat} (hn : num ≠ 0) (hd : den ≠ 0) (k : Nat) :
    f.scaleOf (num * 2 ^ k) (den * 2 ^ k) = f.scaleOf num den := by
  have hlog : (((num * 2 ^ k).log2 : Int) - (den * 2 ^ k).log2 - f.fraction) =
      (num.log2 : Int) - den.log2 - f.fraction := by
    rw [log2_mul_two_pow hn, log2_mul_two_pow hd]
    omega
  have hlt : ∀ a b c : Nat,
      num * 2 ^ k * a < den * 2 ^ k * b * c ↔ num * a < den * b * c := by
    intro a b c
    rw [show num * 2 ^ k * a = num * a * 2 ^ k by ring,
      show den * 2 ^ k * b * c = den * b * c * 2 ^ k by ring]
    exact Nat.mul_lt_mul_right (Nat.two_pow_pos k)
  simp only [scaleOf, hlog, inUnits_eq, hlt]

theorem round_mul_two_pow (f : Format) (s : Bool) (num : Nat) {den : Nat} (hd : den ≠ 0)
    (k : Nat) : f.round s (num * 2 ^ k) (den * 2 ^ k) = f.round s num den := by
  by_cases hn : num = 0
  · simp [round, hn]
  · have hne : num * 2 ^ k ≠ 0 := Nat.mul_ne_zero hn (by simp)
    have hdiv : ∀ a b : Nat,
        roundDiv (num * 2 ^ k * a) (den * 2 ^ k * b) = roundDiv (num * a) (den * b) := by
      intro a b
      rw [show num * 2 ^ k * a = num * a * 2 ^ k by ring,
        show den * 2 ^ k * b = den * b * 2 ^ k by ring]
      exact roundDiv_mul_right _ _ (Nat.two_pow_pos k)
    simp only [round, hn, hne, if_false, f.scaleOf_mul_two_pow hn hd, inUnits_eq, hdiv]

theorem roundScaled_eq (f : Format) (s : Bool) (m : Nat) (e : Int) :
    f.roundScaled s m e = f.round s (m * 2 ^ e.toNat) (2 ^ (-e).toNat) := by
  unfold roundScaled
  by_cases he : 0 ≤ e
  · have hz : (-e).toNat = 0 := by omega
    simp [he, hz]
  · have hz : e.toNat = 0 := by omega
    simp [he, hz]

/-- A factor of two is the same in the significand and in the exponent. -/
theorem roundScaled_shift (f : Format) (s : Bool) (m : Nat) (e : Int) (k : Nat) :
    f.roundScaled s (m * 2 ^ k) (e - k) = f.roundScaled s m e := by
  obtain ⟨j, hn, hd⟩ : ∃ j, k + (e - k).toNat = e.toNat + j ∧ (-(e - k)).toNat = (-e).toNat + j :=
    ⟨k + (e - k).toNat - e.toNat, by omega, by omega⟩
  rw [roundScaled_eq, roundScaled_eq, Nat.mul_assoc, ← Nat.pow_add, hn, hd, Nat.pow_add,
    Nat.pow_add, ← Nat.mul_assoc]
  exact f.round_mul_two_pow s _ (by simp) j

/-! ### Finite numbers as patterns hold them -/

/-- The pattern, less its sign, of the number `m · 2 ^ e`. -/
def magnitude (f : Format) (m : Nat) (e : Int) : Nat :=
  (e - f.minExponent).toNat * 2 ^ f.fraction + m

/-- A significand and an exponent that have a finite pattern. Only subnormal numbers, which have the
least exponent, have no leading bit. -/
structure Holds (f : Format) (m : Nat) (e : Int) : Prop where
  lt : m < 2 ^ (f.fraction + 1)
  le : f.minExponent ≤ e
  leading : 2 ^ f.fraction ≤ m ∨ e = f.minExponent
  finite : f.magnitude m e < f.infinity

theorem infinity_lt_signPlace (f : Format) : f.infinity < f.signPlace := by
  have hp : 0 < 2 ^ f.exponent := Nat.two_pow_pos _
  simp only [infinity, signPlace, Nat.pow_eq, Nat.pow_add, Nat.mul_comm (2 ^ f.fraction)]
  exact Nat.mul_lt_mul_of_pos_right (by omega) (Nat.two_pow_pos _)

theorem pack_lt (f : Format) (s : Bool) {n : Nat} (hn : n < f.signPlace) :
    f.pack s n < 2 * f.signPlace := by
  unfold pack
  split <;> omega

/-- Sign and magnitude of a packed pattern. -/
theorem of_pack (f : Format) (s : Bool) {n : Nat} (hn : n < f.signPlace) :
    decide (f.signPlace ≤ f.pack s n % (2 * f.signPlace)) = s ∧ f.pack s n % f.signPlace = n := by
  rw [Nat.mod_eq_of_lt (f.pack_lt s hn)]
  cases s with
  | false => simpa [pack, Nat.mod_eq_of_lt hn] using hn
  | true => simp [pack, Nat.mod_eq_of_lt hn]

theorem value_pack (h : f.Holds m e) (s : Bool) :
    f.value (f.pack s (f.magnitude m e)) = .finite s m e := by
  obtain ⟨hs, hn⟩ := f.of_pack s (h.finite.trans f.infinity_lt_signPlace)
  have hp : 0 < 2 ^ f.fraction := Nat.two_pow_pos _
  have hlt : m < 2 * 2 ^ f.fraction := by
    have := h.lt
    rwa [Nat.pow_succ, Nat.mul_comm] at this
  have hle := h.le
  simp only [value, hs, hn, Nat.pow_eq, if_neg (Nat.lt_asymm h.finite), if_neg h.finite.ne]
  -- the leading bit adds one to the exponent field
  rcases h.leading with hm | rfl
  · have hmag : f.magnitude m e =
        2 ^ f.fraction * ((e - f.minExponent).toNat + 1) + (m - 2 ^ f.fraction) := by
      rw [magnitude, Nat.mul_add, Nat.mul_comm]
      omega
    have hlow : m - 2 ^ f.fraction < 2 ^ f.fraction := by omega
    rw [hmag, Nat.mul_add_div hp, Nat.mul_add_mod, Nat.div_eq_of_lt hlow, Nat.mod_eq_of_lt hlow]
    simp only [Nat.add_zero, Nat.add_eq_zero_iff, Nat.one_ne_zero, and_false, if_false]
    congr 1 <;> omega
  · have hmag : f.magnitude m f.minExponent = m := by simp [magnitude]
    rw [hmag]
    by_cases hm : m < 2 ^ f.fraction
    · simp [Nat.div_eq_of_lt hm, Nat.mod_eq_of_lt hm]
    · have hfield : m / 2 ^ f.fraction = 1 := by
        rw [Nat.div_eq_iff hp]
        omega
      have hlow : 2 ^ f.fraction + m % 2 ^ f.fraction = m := by
        have := Nat.div_add_mod m (2 ^ f.fraction)
        rw [hfield] at this
        omega
      simp [hfield, hlow]

/-- A pattern is its sign and its magnitude. -/
theorem eq_pack (f : Format) {bits : Nat} (hb : bits < 2 * f.signPlace) :
    bits = f.pack (decide (f.signPlace ≤ bits % (2 * f.signPlace))) (bits % f.signPlace) := by
  have hp : 0 < f.signPlace := Nat.zero_lt_of_lt f.infinity_lt_signPlace
  rw [Nat.mod_eq_of_lt hb]
  by_cases hs : f.signPlace ≤ bits
  · have hmod : bits % f.signPlace = bits - f.signPlace := by
      rw [Nat.mod_eq_sub_mod hs, Nat.mod_eq_of_lt (by omega)]
    simp only [pack, hs, decide_true, if_true, hmod]
    omega
  · have hmod : bits % f.signPlace = bits := Nat.mod_eq_of_lt (Nat.lt_of_not_le hs)
    simp [pack, hs, hmod]

/-- A finite value is held as it is read. -/
theorem holds_of_value {bits : Nat} (hb : bits < 2 * f.signPlace)
    (h : f.value bits = .finite s m e) :
    f.Holds m e ∧ bits = f.pack s (f.magnitude m e) := by
  have hp : 0 < 2 ^ f.fraction := Nat.two_pow_pos _
  have hbits := f.eq_pack hb
  unfold value at h
  simp only [Nat.pow_eq] at h
  generalize decide (f.signPlace ≤ bits % (2 * f.signPlace)) = sign at h hbits
  generalize bits % f.signPlace = n at h hbits
  have hdm := Nat.div_add_mod n (2 ^ f.fraction)
  have hlow := Nat.mod_lt n hp
  generalize n / 2 ^ f.fraction = field at h hdm
  generalize n % 2 ^ f.fraction = low at h hdm hlow
  split at h
  · cases h
  split at h
  · cases h
  have hn : n < f.infinity := by omega
  split at h
  · rename_i hfield
    obtain ⟨rfl, rfl, rfl⟩ := Value.finite.inj h
    have hmag : f.magnitude low f.minExponent = n := by simpa [magnitude, hfield] using hdm
    refine ⟨⟨?_, Int.le_refl _, .inr rfl, hmag.trans_lt hn⟩, by rw [hmag, ← hbits]⟩
    rw [Nat.pow_succ]
    omega
  · rename_i hfield
    obtain ⟨rfl, rfl, rfl⟩ := Value.finite.inj h
    have hmag : f.magnitude (2 ^ f.fraction + low) (f.minExponent + field - 1) = n := by
      have hexp : (f.minExponent + field - 1 - f.minExponent).toNat + 1 = field := by omega
      rw [magnitude, ← Nat.add_assoc, ← Nat.succ_mul, Nat.succ_eq_add_one, hexp, Nat.mul_comm]
      exact hdm
    refine ⟨⟨?_, by omega, .inl (Nat.le_add_right _ _), hmag.trans_lt hn⟩, by rw [hmag, ← hbits]⟩
    rw [Nat.pow_succ]
    omega

/-! ### Exact rounding -/

/-- The scale at which the leading bit of a number stands above the fraction, unless the number is
subnormal. -/
theorem scaleOf_two_pow (f : Format) {m : Nat} (hm : m ≠ 0) (a b : Nat) :
    f.scaleOf (m * 2 ^ a) (2 ^ b) =
      max f.minExponent ((m.log2 : Int) + a - b - f.fraction) := by
  have hlog : (((m * 2 ^ a).log2 : Int) - (2 ^ b).log2 - f.fraction) =
      (m.log2 : Int) + a - b - f.fraction := by
    rw [log2_mul_two_pow hm, Nat.log2_two_pow]
    omega
  simp only [scaleOf, hlog, inUnits_eq, Nat.pow_eq]
  generalize hk : (m.log2 : Int) + a - b - f.fraction = k
  have hle : 2 ^ b * 2 ^ k.toNat * 2 ^ f.fraction ≤ m * 2 ^ a * 2 ^ (-k).toNat := by
    have hexp : b + k.toNat + f.fraction = m.log2 + a + (-k).toNat := by omega
    rw [← Nat.pow_add, ← Nat.pow_add, hexp, Nat.pow_add, Nat.pow_add]
    exact Nat.mul_le_mul_right _ (Nat.mul_le_mul_right _ (Nat.log2_self_le hm))
  rw [if_neg (Nat.not_lt.mpr hle)]
  split <;> omega

/-- A number that a pattern holds is rounded to the pattern. -/
theorem roundScaled_of_holds (h : f.Holds m e) (s : Bool) :
    f.roundScaled s m e = f.pack s (f.magnitude m e) := by
  have hle := h.le
  rw [roundScaled_eq]
  by_cases hm : m = 0
  · have he : e = f.minExponent := h.leading.resolve_left fun hl =>
      absurd (Nat.two_pow_pos f.fraction) (by omega)
    simp [round, magnitude, hm, he]
  · have hscale : f.scaleOf (m * 2 ^ e.toNat) (2 ^ (-e).toNat) = e := by
      rw [f.scaleOf_two_pow hm]
      have hlog : m.log2 < f.fraction + 1 := (Nat.log2_lt hm).mpr h.lt
      rcases h.leading with hl | rfl
      · have hge : f.fraction ≤ m.log2 := (Nat.le_log2 hm).mpr hl
        omega
      · omega
    have hdiv : roundDiv (m * 2 ^ e.toNat * 2 ^ (-e).toNat) (2 ^ (-e).toNat * 2 ^ e.toNat) = m := by
      rw [Nat.mul_assoc, Nat.mul_comm (2 ^ e.toNat)]
      exact roundDiv_self_mul m (Nat.mul_pos (Nat.two_pow_pos _) (Nat.two_pow_pos _))
    have hne : m * 2 ^ e.toNat ≠ 0 := Nat.mul_ne_zero hm (by simp)
    simp only [round, hne, if_false, hscale, inUnits_eq, hdiv, Nat.pow_eq]
    exact congrArg _ (Nat.min_eq_left h.finite.le)

/-! ### Single precision within double precision -/

/-- Double precision holds what single precision does, with more zeros behind the significand. -/
theorem holds_double_of_single (h : single.Holds m e) :
    ∃ k : Nat, double.Holds (m * 2 ^ k) (e - k) := by
  have hmin : single.minExponent = -149 ∧ double.minExponent = -1074 := by decide
  have hinf : single.infinity = 255 * 2 ^ 23 ∧ double.infinity = 2047 * 2 ^ 52 := by decide
  have hfraction : single.fraction = 23 ∧ double.fraction = 52 := ⟨rfl, rfl⟩
  have hle := h.le
  have hfin := h.finite
  have hlt : m < 2 ^ 24 := h.lt
  rw [hmin.1] at hle
  rw [magnitude, hmin.1, hinf.1, hfraction.1] at hfin
  by_cases hm : m = 0
  · refine ⟨(e + 1074).toNat, ?_⟩
    have he : e - (e + 1074).toNat = double.minExponent := by omega
    rw [hm, Nat.zero_mul, he]
    exact ⟨by decide, Int.le_refl _, .inr rfl, by decide⟩
  · have hlog : m.log2 ≤ 23 := Nat.lt_succ_iff.mp ((Nat.log2_lt hm).mpr hlt)
    refine ⟨52 - m.log2, ?_⟩
    have hsum : m.log2 + (52 - m.log2) = 52 := by omega
    have hge : 2 ^ 52 ≤ m * 2 ^ (52 - m.log2) := by
      calc 2 ^ 52 = 2 ^ m.log2 * 2 ^ (52 - m.log2) := by rw [← Nat.pow_add, hsum]
        _ ≤ m * 2 ^ (52 - m.log2) := Nat.mul_le_mul_right _ (Nat.log2_self_le hm)
    have hup : m * 2 ^ (52 - m.log2) < 2 ^ 53 := by
      calc m * 2 ^ (52 - m.log2) < 2 ^ (m.log2 + 1) * 2 ^ (52 - m.log2) :=
            Nat.mul_lt_mul_of_pos_right Nat.lt_log2_self (Nat.two_pow_pos _)
        _ = 2 ^ 53 := by rw [← Nat.pow_add, Nat.add_right_comm, hsum]
    generalize m * 2 ^ (52 - m.log2) = n at hge hup
    refine ⟨hup, by omega, .inl hge, ?_⟩
    rw [magnitude, hmin.2, hinf.2, hfraction.2]
    have hexp : (e - ((52 - m.log2 : Nat) : Int) - -1074).toNat ≤ 1200 := by omega
    calc (e - ((52 - m.log2 : Nat) : Int) - -1074).toNat * 2 ^ 52 + n
        < 1200 * 2 ^ 52 + 2 ^ 53 := Nat.add_lt_add_of_le_of_lt (Nat.mul_le_mul_right _ hexp) hup
      _ ≤ 2047 * 2 ^ 52 := by decide

end Schemata.Floating.Format

namespace Schemata.Double

open Floating

theorem toNat_ofPattern {n : Nat} (hn : n < 2 ^ 64) : (ofPattern n).bits.toNat = n :=
  UInt64.toNat_ofNat_of_lt' hn

theorem isFinite_iff (x : Double) : x.isFinite ↔ ∃ s m e, x.value = .finite s m e := by
  unfold isFinite
  cases x.value <;> simp

/-- A finite number of single precision comes through double precision as it was. -/
theorem single_ofValue_ofValue {bits : Nat} (hb : bits < 2 ^ 32) {s : Bool} {m : Nat} {e : Int}
    (h : single.value bits = .finite s m e) :
    (ofValue (single.value bits)).isFinite ∧
      single.ofValue (ofValue (single.value bits)).value = bits := by
  have hplace : single.signPlace = 2 ^ 31 ∧ double.signPlace = 2 ^ 63 := by decide
  obtain ⟨hs, rfl⟩ := Format.holds_of_value (f := single) (by omega) h
  obtain ⟨k, hd⟩ := Format.holds_double_of_single hs
  have hpattern : double.ofValue (.finite s m e) =
      double.pack s (double.magnitude (m * 2 ^ k) (e - k)) := by
    rw [Format.ofValue, ← double.roundScaled_shift s m e k, Format.roundScaled_of_holds hd]
  have hlt : double.pack s (double.magnitude (m * 2 ^ k) (e - k)) < 2 ^ 64 := by
    have := double.pack_lt s (hd.finite.trans double.infinity_lt_signPlace)
    omega
  have hvalue : (ofValue (.finite s m e)).value = .finite s (m * 2 ^ k) (e - k) := by
    rw [ofValue, hpattern, value, toNat_ofPattern hlt, Format.value_pack hd]
  rw [h, isFinite_iff, hvalue]
  refine ⟨⟨_, _, _, rfl⟩, ?_⟩
  rw [Format.ofValue, single.roundScaled_shift, Format.roundScaled_of_holds hs]

/-- The number of single precision nearest to 0.1. -/
theorem ofValue_tenth : ofValue (single.value 0x3dcccccd) = ⟨0x3fb99999a0000000⟩ := by
  decide +kernel

end Schemata.Double
