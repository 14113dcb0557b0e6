import Mathlib.Data.List.Induction
import Mathlib.Tactic.Ring
import Schemata.Postgres.Datum
import Schemata.Proofs.Digits

/-!
Bytes written as they were read. A number read from bytes is written in as many bytes as the same
ones, an integer lies between the bounds that two's complement sets it, and the digits of a UUID
spell its bytes.
-/
namespace Schemata

/-! ### Numbers -/

namespace Postgres.Bytes

theorem toNat_append_singleton (bytes : Bytes) (b : UInt8) :
    toNat (bytes ++ [b]) = toNat bytes * 256 + b.toNat := by
  simp [toNat]

theorem toNat_lt (bytes : Bytes) : toNat bytes < 256 ^ bytes.length := by
  induction bytes using List.reverseRecOn with
  | nil => simp [toNat]
  | append_singleton bytes b ih =>
    have hb : b.toNat < 256 := b.toNat_lt
    rw [toNat_append_singleton, List.length_append, List.length_singleton, Nat.pow_succ]
    omega

theorem ofNat_toNat (bytes : Bytes) : ofNat bytes.length (toNat bytes) = bytes := by
  induction bytes using List.reverseRecOn with
  | nil => rfl
  | append_singleton bytes b ih =>
    have hb : b.toNat < 256 := b.toNat_lt
    have hdiv : (toNat bytes * 256 + b.toNat) / 256 = toNat bytes := by omega
    have hlast : UInt8.ofNat (toNat bytes * 256 + b.toNat) = b := by
      apply UInt8.toNat.inj
      simp
    rw [toNat_append_singleton, List.length_append, List.length_singleton, ofNat, hdiv, ih, hlast]

theorem length_ofNat (width n : Nat) : (ofNat width n).length = width := by
  induction width generalizing n with
  | zero => rfl
  | succ width ih => rw [ofNat, List.length_append, ih, List.length_singleton]

/-- What does not go into the bytes is lost. -/
theorem toNat_ofNat (width n : Nat) : toNat (ofNat width n) = n % 256 ^ width := by
  induction width generalizing n with
  | zero => simp [ofNat, toNat, Nat.mod_one]
  | succ width ih =>
    have hlast : (UInt8.ofNat n).toNat = n % 256 := UInt8.toNat_ofNat'
    rw [ofNat, toNat_append_singleton, ih, hlast, Nat.pow_succ', Nat.mod_mul]
    ring

variable {width : Nat} {bytes : Bytes} {n : Int}

/-- An integer that has been read fits its bytes and is written with them. -/
theorem of_toInt?_eq_some (h : toInt? width bytes = some n) :
    -(256 ^ width : Nat) ≤ 2 * n ∧ 2 * n < (256 ^ width : Nat) ∧ ofInt width n = bytes := by
  obtain ⟨rfl, hn⟩ := Option.ite_none_right_eq_some.mp h
  have hlt := toNat_lt bytes
  have hsame := ofNat_toNat bytes
  simp only [ofInt, Nat.pow_eq]
  simp only [Nat.pow_eq, Option.some.injEq] at hn
  generalize 256 ^ bytes.length = bound at *
  subst hn
  split
  · refine ⟨by omega, by omega, ?_⟩
    rw [Int.emod_eq_of_lt (by omega) (by omega)]
    exact hsame
  · refine ⟨by omega, by omega, ?_⟩
    rw [Int.sub_emod_right, Int.emod_eq_of_lt (by omega) (by omega)]
    exact hsame

/-- An integer that fits its bytes is read back from them. -/
theorem toInt?_ofInt (hlow : -(256 ^ width : Nat) ≤ 2 * n) (hhigh : 2 * n < (256 ^ width : Nat)) :
    toInt? width (ofInt width n) = some n := by
  have hpos : (0 : Int) < (256 ^ width : Nat) := by
    exact_mod_cast Nat.pow_pos (n := width) (by decide : 0 < 256)
  have hmod : ((n % (256 ^ width : Nat)).toNat : Int) = n % (256 ^ width : Nat) :=
    Int.toNat_of_nonneg (Int.emod_nonneg n hpos.ne')
  have hlt := Int.emod_lt_of_pos n hpos
  have hread : toNat (ofInt width n) = (n % (256 ^ width : Nat)).toNat := by
    rw [ofInt, Nat.pow_eq, toNat_ofNat]
    exact Nat.mod_eq_of_lt (by omega)
  have hlen : (ofInt width n).length = width := length_ofNat _ _
  simp only [toInt?, hlen, hread, if_true, Nat.pow_eq, Option.some.injEq]
  generalize 256 ^ width = bound at *
  by_cases hn : 0 ≤ n
  · rw [Int.emod_eq_of_lt hn (by omega)] at hmod ⊢
    rw [if_pos (by omega)]
    exact hmod
  · rw [← Int.add_emod_right, Int.emod_eq_of_lt (by omega) (by omega)] at hmod ⊢
    rw [if_neg (by omega), hmod]
    omega

theorem ofText_of_toText? {s : String} (h : toText? bytes = some s) : ofText s = bytes := by
  unfold toText? String.fromUTF8? at h
  split at h
  · obtain rfl := Option.some.inj h
    rfl
  · cases h

theorem toText?_ofText (s : String) : toText? (ofText s) = some s := by
  have hvalid : s.toUTF8.IsValidUTF8 := s.isValidUTF8
  show String.fromUTF8? s.toUTF8 = some s
  rw [String.fromUTF8?, dif_pos hvalid]
  rfl

end Postgres.Bytes

/-! ### Digits -/

namespace Hex

theorem text_cons (b : UInt8) (bytes : List UInt8) :
    text (b :: bytes) = digit (b.toNat / 16) :: digit (b.toNat % 16) :: text bytes := rfl

/-- A digit is neither a brace nor the beginning of a word. -/
theorem digit_ne {n : Nat} (hn : n < 16) : digit n ≠ 'u' ∧ digit n ≠ '\x7b' := by
  have h : ∀ n : Fin 16, digit n ≠ 'u' ∧ digit n ≠ '\x7b' := by decide
  exact h ⟨n, hn⟩

theorem bytes?_text (bytes : List UInt8) : bytes? (text bytes) = some bytes := by
  induction bytes with
  | nil => rfl
  | cons b bytes ih =>
    have hlt : b.toNat < 256 := b.toNat_lt
    have hhigh : value? (digit (b.toNat / 16)) = some (b.toNat / 16) := value?_digit (by omega)
    have hlow : value? (digit (b.toNat % 16)) = some (b.toNat % 16) := value?_digit (by omega)
    have hbyte : UInt8.ofNat (b.toNat / 16 * 16 + b.toNat % 16) = b := by
      rw [show b.toNat / 16 * 16 + b.toNat % 16 = b.toNat by omega, UInt8.ofNat_toNat]
    rw [text_cons, bytes?, hhigh, hlow, ih]
    exact congrArg (fun c => some (c :: bytes)) hbyte

theorem length_text (bytes : List UInt8) : (text bytes).length = 2 * bytes.length := by
  induction bytes with
  | nil => rfl
  | cons b bytes ih =>
    rw [text_cons, List.length_cons, List.length_cons, List.length_cons, ih]
    omega

end Hex

namespace Uuid

/-- Groups of digits with hyphens between them. -/
theorem hyphenated?_groups {a b c d e : List Char} (ha : a.length = 8) (hb : b.length = 4)
    (hc : c.length = 4) (hd : d.length = 4) (he : e.length = 12) :
    hyphenated? (a ++ '-' :: b ++ '-' :: c ++ '-' :: d ++ '-' :: e) =
      some (a ++ b ++ c ++ d ++ e) := by
  have hend : ∀ (s : List Char) (n : Nat), s.length ≤ n → s.drop n = [] :=
    fun _ _ => List.drop_of_length_le
  simp (disch := omega) [hyphenated?, List.getElem?_append, List.getElem?_cons_zero,
    List.drop_append, ha, hb, hc, hd, he, hend]

/-- The groups in which digits are written. -/
def grouped (ds : List Char) : List Char :=
  ds.take 8 ++ '-' :: (ds.drop 8).take 4 ++ '-' :: (ds.drop 12).take 4 ++
    '-' :: (ds.drop 16).take 4 ++ '-' :: ds.drop 20

theorem length_grouped {ds : List Char} (h : ds.length = 32) : (grouped ds).length = 36 := by
  simp [grouped, h]

theorem hyphenated?_grouped {ds : List Char} (h : ds.length = 32) :
    hyphenated? (grouped ds) = some ds := by
  have hjoin : ∀ n, (ds.drop n).take 4 ++ ds.drop (n + 4) = ds.drop n := by
    intro n
    rw [← List.drop_drop, List.take_append_drop]
  have hall : ds.take 8 ++ (ds.drop 8).take 4 ++ (ds.drop 12).take 4 ++ (ds.drop 16).take 4 ++
      ds.drop 20 = ds := by
    rw [List.append_assoc, hjoin, List.append_assoc, hjoin, List.append_assoc, hjoin,
      List.take_append_drop]
  rw [grouped, hyphenated?_groups (by simp [h]) (by simp [h]) (by simp [h]) (by simp [h])
    (by simp [h]), hall]

theorem digits?_of_hyphenated? {c : Char} {s ds : List Char} (hu : c ≠ 'u') (hb : c ≠ '\x7b')
    (hl : (c :: s).length ≠ 32) (h : hyphenated? (c :: s) = some ds) :
    digits? (c :: s) = some ds := by
  have hurn : "urn:uuid:".toList.isPrefixOf (c :: s) = false := by
    simp [List.isPrefixOf, Ne.symm hu]
  simp only [digits?, if_neg hl, hurn, Bool.false_eq_true, if_false]
  split
  · rename_i he
    exact absurd (List.cons.inj he).1 hb
  · exact h

theorem digits?_grouped {c : Char} {ds : List Char} (hu : c ≠ 'u') (hb : c ≠ '\x7b')
    (h : (c :: ds).length = 32) : digits? (grouped (c :: ds)) = some (c :: ds) := by
  have hlen : (grouped (c :: ds)).length ≠ 32 := by rw [length_grouped h]; decide
  exact digits?_of_hyphenated? hu hb hlen (hyphenated?_grouped h)

/-- Sixteen bytes are read back from their hyphenated text. -/
theorem parse?_render {bytes : List UInt8} (h : bytes.length = 16) :
    parse? (render bytes) = some bytes := by
  have hlen : (Hex.text bytes).length = 32 := by rw [Hex.length_text, h]
  have hdigits : digits? (grouped (Hex.text bytes)) = some (Hex.text bytes) := by
    cases bytes with
    | nil => cases h
    | cons b bytes =>
      have hb : b.toNat < 256 := b.toNat_lt
      obtain ⟨hu, hbrace⟩ := Hex.digit_ne (n := b.toNat / 16) (by omega)
      exact digits?_grouped hu hbrace hlen
  have hrender : (render bytes).toList = grouped (Hex.text bytes) := String.toList_ofList
  rw [parse?, hrender, hdigits, Option.bind_some, Hex.bytes?_text]

end Uuid

end Schemata
