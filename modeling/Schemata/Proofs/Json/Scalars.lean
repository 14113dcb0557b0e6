import Mathlib.Data.List.TakeWhile
import Mathlib.Tactic.ByContra
import Schemata.Json.Printer
import Schemata.Json.Reader
import Schemata.Proofs.Digits

/-!
JSON's strings and numbers in text. A string is read back from what is written for it. A numeral is
read as far as it goes, whatever stands behind it, and what is written for an integer of 64 bits is
its numeral.
-/
namespace Schemata.Json

namespace Node

theorem skipSpace_cons {c : Char} {s : List Char} (h : isSpace c = false) :
    skipSpace (c :: s) = c :: s := by
  simp [skipSpace, h]

/-! ### Strings -/

/-- A unit that is no surrogate is a character by itself. -/
theorem joinPieces?_unit {n : Nat} (hn : n < 0xD800) (ps : List Piece) :
    joinPieces? (.unit n :: ps) = (joinPieces? ps).map (Char.ofNat n :: ·) := by
  have hhigh : isHighSurrogate n = false := by simp [isHighSurrogate]; omega
  have hlow : isLowSurrogate n = false := by simp [isLowSurrogate]; omega
  cases ps with
  | nil => simp [joinPieces?, hhigh, hlow]
  | cons p ps => cases p <;> simp [joinPieces?, hhigh, hlow]

/-- The piece is read from what is written for the character, and stands for it. -/
structure Escapes (c : Char) (p : Piece) : Prop where
  read : ∀ s, pieces? (escape c ++ s) = (pieces? s).map fun r => (p :: r.1, r.2)
  join : ∀ ps, joinPieces? (p :: ps) = (joinPieces? ps).map (c :: ·)

theorem escapes_simple {c e : Char} (h : escape c = ['\\', e]) (hs : simpleEscape? e = some c) :
    Escapes c (.char c) where
  read s := by
    have hu : e ≠ 'u' := by
      rintro rfl
      cases hs
    rw [h, List.cons_append, List.singleton_append, pieces?, hs, Option.map_eq_bind]
    · rfl
    · simp [hu]
  join _ := rfl

theorem escapes_control {c : Char} (hn : c.toNat < 32)
    (h : escape c = ['\\', 'u', '0', '0', Hex.digit (c.toNat / 16), Hex.digit (c.toNat % 16)]) :
    Escapes c (.unit c.toNat) where
  read s := by
    have hhigh : Hex.value? (Hex.digit (c.toNat / 16)) = some (c.toNat / 16) :=
      Hex.value?_digit (by omega)
    have hlow : Hex.value? (Hex.digit (c.toNat % 16)) = some (c.toNat % 16) :=
      Hex.value?_digit (by omega)
    have hzero : Hex.value? '0' = some 0 := rfl
    have hcode : Hex.nat? ['0', '0', Hex.digit (c.toNat / 16), Hex.digit (c.toNat % 16)] =
        some c.toNat := by
      simp [Hex.nat?, hzero, hhigh, hlow]
      omega
    rw [h]
    simp only [List.cons_append, List.nil_append]
    rw [pieces?, hcode, Option.map_eq_bind]
    rfl
  join ps := by rw [joinPieces?_unit (by omega), Char.ofNat_toNat]

theorem escapes_plain {c : Char} (h : escape c = [c]) (hquote : c ≠ '"') (hslash : c ≠ '\\')
    (hlow : ¬ c.toNat < 32) : Escapes c (.char c) where
  read s := by
    have hplain : ¬ (c.toNat < 32 ∨ c = '\\') := not_or.mpr ⟨hlow, hslash⟩
    rw [h, List.singleton_append, pieces?, if_neg hplain, Option.map_eq_bind]
    · rfl
    · exact hquote
    all_goals simp [hslash]
  join _ := rfl

/-- The characters with an escape of their own, and what stands for each behind the backslash. -/
def simpleEscapes : List (Char × Char) :=
  [('"', '"'), ('\\', '\\'), ('\n', 'n'), ('\r', 'r'), ('\t', 't'), (Char.ofNat 8, 'b'),
    (Char.ofNat 12, 'f')]

theorem escape_of_mem : ∀ q ∈ simpleEscapes,
    escape q.1 = ['\\', q.2] ∧ simpleEscape? q.2 = some q.1 := by
  decide

theorem escape_of_not_mem {c : Char} (h : ∀ q ∈ simpleEscapes, q.1 ≠ c) :
    c ≠ '"' ∧ c ≠ '\\' ∧ escape c =
      if c.toNat < 32 then
        ['\\', 'u', '0', '0', Hex.digit (c.toNat / 16), Hex.digit (c.toNat % 16)]
      else [c] := by
  simp only [simpleEscapes, List.forall_mem_cons] at h
  obtain ⟨hquote, hslash, hn, hr, ht, hb, hf, -⟩ := h
  have hcode : ∀ {n}, Char.ofNat n ≠ c → c.toNat ≠ n := by
    rintro n hne rfl
    exact hne (Char.ofNat_toNat c)
  refine ⟨hquote.symm, hslash.symm, ?_⟩
  simp only [escape, hquote.symm, hslash.symm, hn.symm, hr.symm, ht.symm, hcode hb, hcode hf,
    if_false]

theorem exists_escapes (c : Char) : ∃ p, Escapes c p := by
  by_cases hsimple : ∃ q ∈ simpleEscapes, q.1 = c
  · obtain ⟨q, hq, rfl⟩ := hsimple
    obtain ⟨hescape, hread⟩ := escape_of_mem q hq
    exact ⟨_, escapes_simple hescape hread⟩
  · obtain ⟨hquote, hslash, hescape⟩ :=
      escape_of_not_mem fun q hq he => hsimple ⟨q, hq, he⟩
    by_cases hlow : c.toNat < 32
    · exact ⟨_, escapes_control hlow (hescape.trans (if_pos hlow))⟩
    · exact ⟨_, escapes_plain (hescape.trans (if_neg hlow)) hquote hslash hlow⟩

/-- What is written of a string is read as the string, up to its closing quote. -/
theorem stringRest?_escaped (cs rest : List Char) :
    stringRest? (cs.flatMap escape ++ '"' :: rest) = some (some (String.ofList cs), rest) := by
  have hpieces : ∃ ps, pieces? (cs.flatMap escape ++ '"' :: rest) = some (ps, rest) ∧
      joinPieces? ps = some cs := by
    induction cs with
    | nil => exact ⟨[], rfl, rfl⟩
    | cons c cs ih =>
      obtain ⟨ps, hread, hjoin⟩ := ih
      obtain ⟨p, hp⟩ := exists_escapes c
      refine ⟨p :: ps, ?_, ?_⟩
      · rw [List.flatMap_cons, List.append_assoc, hp.read, hread, Option.map_some]
      · rw [hp.join, hjoin, Option.map_some]
  obtain ⟨ps, hread, hjoin⟩ := hpieces
  simp only [stringRest?, hread, Option.map_some, hjoin]

/-! ### Numbers -/

/-- Nothing comes next that would go on with a number. -/
def Ends (s : List Char) : Prop :=
  ∀ c ∈ s.head?, c.isDigit = false ∧ c ≠ '.' ∧ c ≠ 'e' ∧ c ≠ 'E'

theorem ends_cons {c : Char} (h : c.isDigit = false ∧ c ≠ '.' ∧ c ≠ 'e' ∧ c ≠ 'E')
    (s : List Char) : Ends (c :: s) := by
  rintro _ ⟨⟩
  exact h

theorem Ends.stops {rest : List Char} (h : Ends rest) : Scan.Stops rest := fun c hc => (h c hc).1

variable {s rest : List Char}

theorem digits_append (h : Scan.Stops rest) :
    digits (s ++ rest) = ((digits s).1, (digits s).2 ++ rest) := by
  induction s with
  | nil => simp [digits, Scan.takeWhile_of_stops h, Scan.dropWhile_of_stops h]
  | cons c s ih =>
    cases hc : c.isDigit with
    | false => simp [digits, hc]
    | true =>
      simp only [digits, Prod.mk.injEq] at ih
      simp [digits, hc, ih]

theorem digits1?_append (h : Scan.Stops rest) :
    digits1? (s ++ rest) = (digits1? s).map fun r => (r.1, r.2 ++ rest) := by
  rw [digits1?, digits1?, digits_append h]
  cases digits s with
  | mk ds r => cases ds <;> rfl

variable {n : Numeral} {r : List Char}

theorem fraction?_append {f : Option (List Nat)} (hr : Ends rest) (h : fraction? s = some (f, r)) :
    fraction? (s ++ rest) = some (f, r ++ rest) := by
  cases s with
  | nil =>
    cases h
    cases rest with
    | nil => rfl
    | cons c rest => simp [fraction?, (hr c rfl).2.1]
  | cons c s =>
    by_cases hc : c = '.'
    · subst hc
      obtain ⟨⟨ds, r'⟩, hd, he⟩ := Option.map_eq_some_iff.mp h
      cases he
      simp [fraction?, digits1?_append hr.stops, hd]
    · simp only [fraction?, hc, imp_self, implies_true, Option.some.injEq, Prod.mk.injEq,
        List.cons.injEq, false_and] at h
      simp [fraction?, hc, ← h.1, ← h.2]

theorem exponent?_append {e : Option (Bool × List Nat)} (hr : Ends rest)
    (h : exponent? s = some (e, r)) : exponent? (s ++ rest) = some (e, r ++ rest) := by
  have hdigits : ∀ (b : Bool) (t : List Char),
      ((digits1? t).map fun x => (some (b, x.1), x.2)) = some (e, r) →
      ((digits1? (t ++ rest)).map fun x => (some (b, x.1), x.2)) = some (e, r ++ rest) := by
    intro b t ht
    obtain ⟨⟨ds, r'⟩, hd, he⟩ := Option.map_eq_some_iff.mp ht
    cases he
    rw [digits1?_append hr.stops, hd]
    rfl
  cases s with
  | nil =>
    cases h
    cases rest with
    | nil => rfl
    | cons c rest => simp [exponent?, (hr c rfl).2.2.1, (hr c rfl).2.2.2]
  | cons c s =>
    by_cases hc : c = 'e' ∨ c = 'E'
    · cases s with
      | nil => simp [exponent?, hc, digits1?, digits] at h
      | cons d s =>
        by_cases hplus : d = '+'
        · subst hplus
          simp only [exponent?, hc, if_true, List.cons_append] at h ⊢
          exact hdigits _ _ h
        · by_cases hminus : d = '-'
          · subst hminus
            simp only [exponent?, hc, if_true, List.cons_append] at h ⊢
            exact hdigits _ _ h
          · simp only [exponent?, hc, if_true, List.cons_append, List.cons.injEq, hplus, hminus,
              false_and, imp_self, implies_true] at h ⊢
            exact hdigits false (d :: s) h
    · simp only [exponent?, hc, if_false, Option.some.injEq, Prod.mk.injEq] at h
      simp [exponent?, hc, ← h.1, ← h.2]

/-- What comes behind the sign of a numeral. -/
def unsigned? (negative : Bool) (s : List Char) : Option (Numeral × List Char) := do
  let (whole, s) ← digits1? s
  if whole.head? = some 0 ∧ 1 < whole.length then none
  let (fraction, s) ← fraction? s
  let (exponent, s) ← exponent? s
  return (⟨negative, whole, fraction, exponent⟩, s)

theorem numeral?_minus (s : List Char) : numeral? ('-' :: s) = unsigned? true s := rfl

theorem numeral?_of_head (h : s.head? ≠ some '-') : numeral? s = unsigned? false s := by
  cases s with
  | nil => rfl
  | cons c s =>
    have hc : c ≠ '-' := by simpa using h
    simp [numeral?, unsigned?, hc]

theorem unsigned?_eq_some_iff {b : Bool} :
    unsigned? b s = some (n, r) ↔ ∃ whole s₁ fraction s₂ exponent,
      digits1? s = some (whole, s₁) ∧ ¬ (whole.head? = some 0 ∧ 1 < whole.length) ∧
      fraction? s₁ = some (fraction, s₂) ∧ exponent? s₂ = some (exponent, r) ∧
      n = ⟨b, whole, fraction, exponent⟩ := by
  simp only [unsigned?, Option.bind_eq_bind, Option.bind_eq_some_iff, Prod.exists, Option.bind_none,
    Option.ite_none_left_eq_some, Option.pure_def, Option.some.injEq, Prod.mk.injEq]
  constructor
  · rintro ⟨whole, s₁, hw, hz, fraction, s₂, hf, exponent, _, he, rfl, rfl⟩
    exact ⟨whole, s₁, fraction, s₂, exponent, hw, hz, hf, he, rfl⟩
  · rintro ⟨whole, s₁, fraction, s₂, exponent, hw, hz, hf, he, rfl⟩
    exact ⟨whole, s₁, hw, hz, fraction, s₂, hf, exponent, r, he, rfl, rfl⟩

theorem numeral?_append (hr : Ends rest) (h : numeral? s = some (n, r)) :
    numeral? (s ++ rest) = some (n, r ++ rest) := by
  have hunsigned : ∀ b t, unsigned? b t = some (n, r) →
      unsigned? b (t ++ rest) = some (n, r ++ rest) := by
    intro b t ht
    obtain ⟨whole, s₁, fraction, s₂, exponent, hw, hz, hf, he, rfl⟩ := unsigned?_eq_some_iff.mp ht
    refine unsigned?_eq_some_iff.mpr ⟨whole, s₁ ++ rest, fraction, s₂ ++ rest, exponent, ?_, hz,
      fraction?_append hr hf, exponent?_append hr he, rfl⟩
    rw [digits1?_append hr.stops, hw, Option.map_some]
  cases s with
  | nil => simp [numeral?, digits1?, digits] at h
  | cons c s =>
    by_cases hc : c = '-'
    · subst hc
      exact hunsigned true s h
    · have hhead : ∀ t, (c :: t).head? ≠ some '-' := by simpa using hc
      rw [numeral?_of_head (hhead s)] at h
      rw [List.cons_append, numeral?_of_head (hhead _)]
      exact hunsigned false (c :: s) h

/-- A numeral begins with a sign or a digit. -/
theorem head_of_numeral? {c : Char} (h : numeral? (c :: s) = some (n, r)) :
    c = '-' ∨ c.isDigit := by
  by_contra hc
  obtain ⟨hminus, hdigit⟩ := not_or.mp hc
  rw [numeral?_of_head (by simpa using hminus)] at h
  obtain ⟨whole, s₁, -, -, -, hw, -⟩ := unsigned?_eq_some_iff.mp h
  simp [digits1?, digits, hdigit] at hw

theorem skipSpace_of_numeral? (h : numeral? s = some (n, r)) : skipSpace s = s := by
  cases s with
  | nil => rfl
  | cons c s =>
    refine skipSpace_cons ?_
    obtain rfl | hdigit := head_of_numeral? h
    · rfl
    · by_contra hspace
      simp only [isSpace, Bool.not_eq_false, Bool.or_eq_true, beq_iff_eq] at hspace
      obtain ((rfl | rfl) | rfl) | rfl := hspace <;> exact absurd hdigit (by decide)

/-- A number is read exactly where a numeral is. -/
theorem value?_eq_number_iff {fuel : Nat} :
    value? (fuel + 1) s = some (.number n, r) ↔ numeral? (skipSpace s) = some (n, r) := by
  have hno : ∀ (c : Char) (t : List Char), skipSpace s = c :: t → ¬ (c = '-' ∨ c.isDigit) →
      numeral? (skipSpace s) ≠ some (n, r) := by
    intro c t hs hc h
    rw [hs] at h
    exact hc (head_of_numeral? h)
  rw [value?]
  split
  next hs => simp [hs, numeral?, digits1?, digits]
  next hs => simpa using hno _ _ hs (by decide)
  next hs =>
    have hnone := hno _ _ hs (by decide)
    split <;> simp [hnone]
  next hs =>
    have hnone := hno _ _ hs (by decide)
    split <;> simp [hnone]
  next hs => simpa using hno _ _ hs (by decide)
  next hs => simpa using hno _ _ hs (by decide)
  next hs => simpa using hno _ _ hs (by decide)
  next => simp

end Node

namespace Numeral

theorem le_foldl_digits (ds : List Nat) (acc : Nat) :
    acc ≤ ds.foldl (fun n d => n * 10 + d) acc := by
  induction ds generalizing acc with
  | nil => exact Nat.le_refl acc
  | cons d ds ih => exact Nat.le_trans (by omega) (ih (acc * 10 + d))

/-- Digits that spell a number of 64 bits are all gathered. -/
theorem gather_of_lt {ds : List Nat} {acc : Nat}
    (h : ds.foldl (fun n d => n * 10 + d) acc < Nat.pow 2 64) :
    gather acc ds = (ds.foldl (fun n d => n * 10 + d) acc, []) := by
  induction ds generalizing acc with
  | nil => rfl
  | cons d ds ih =>
    have hle := le_foldl_digits ds (acc * 10 + d)
    have hlt : acc * 10 + d < Nat.pow 2 64 := Nat.lt_of_le_of_lt hle h
    rw [gather, if_pos hlt, ih h, List.foldl_cons]

/-- What is gathered are 64 bits. -/
theorem gather_lt {acc : Nat} (h : acc < Nat.pow 2 64) (ds : List Nat) :
    (gather acc ds).1 < Nat.pow 2 64 := by
  induction ds generalizing acc with
  | nil => exact h
  | cons d ds ih =>
    rw [gather]
    split
    next hlt => exact ih hlt
    next => exact h

/-- The numeral of an integer. -/
def ofInt (n : Int) : Numeral :=
  ⟨decide (n < 0), (Nat.toDigits 10 n.natAbs).map Node.digitValue, none, none⟩

theorem value?_ofInt {n : Int} (hlow : -Nat.pow 2 63 ≤ n) (hhigh : n < Nat.pow 2 64) :
    (ofInt n).value? = some (.int n) := by
  have hvalue : ((Nat.toDigits 10 n.natAbs).map Node.digitValue).foldl (fun n d => n * 10 + d) 0 =
      n.natAbs := (Literal.foldl_digits _ 0).trans Nat.ofDigitChars_ten_toDigits
  have hgather : gather 0 (ofInt n).whole = (n.natAbs, []) := by
    have hlt : n.natAbs < Nat.pow 2 64 := by
      rw [Nat.pow_eq] at *
      omega
    rw [ofInt, gather_of_lt (hvalue.trans_lt hlt), hvalue]
  rw [value?, hgather]
  by_cases hn : n < 0
  · have hfits : ¬ (n.natAbs = 0 ∨ Nat.pow 2 63 < n.natAbs) := by
      rw [Nat.pow_eq] at *
      omega
    have habs : -(n.natAbs : Int) = n := by omega
    simp only [ofInt, hn, hfits, habs, decide_true, List.isEmpty_nil, Option.isNone_none,
      Bool.and_self, Bool.not_true, Bool.false_eq_true, if_true, if_false]
  · have habs : (n.natAbs : Int) = n := by omega
    simp only [ofInt, hn, habs, decide_false, List.isEmpty_nil, Option.isNone_none, Bool.and_self,
      Bool.not_false, if_true]

end Numeral

namespace Node

theorem isDigit_of_mem_toDigits (m : Nat) : ∀ c ∈ Nat.toDigits 10 m, c.isDigit :=
  fun _ hc => Nat.isDigit_of_mem_toDigits (by decide) (by decide) hc

theorem digits1?_toDigits (m : Nat) :
    digits1? (Nat.toDigits 10 m) = some ((Nat.toDigits 10 m).map digitValue, []) := by
  have hd := isDigit_of_mem_toDigits m
  have htake : (Nat.toDigits 10 m).takeWhile Char.isDigit = Nat.toDigits 10 m :=
    List.takeWhile_eq_self_iff.mpr hd
  have hdrop : (Nat.toDigits 10 m).dropWhile Char.isDigit = [] :=
    List.dropWhile_eq_nil_iff.mpr hd
  simp [digits1?, digits, htake, hdrop, Nat.toDigits_ne_nil]

theorem unsigned?_toDigits (b : Bool) (m : Nat) :
    unsigned? b (Nat.toDigits 10 m) =
      some (⟨b, (Nat.toDigits 10 m).map digitValue, none, none⟩, []) := by
  refine unsigned?_eq_some_iff.mpr ⟨_, _, _, _, _, digits1?_toDigits m, ?_, rfl, rfl, rfl⟩
  rintro ⟨hzero, hlong⟩
  by_cases hm : m = 0
  · subst hm
    exact absurd hlong (by decide)
  · rw [List.head?_map, Option.map_eq_some_iff] at hzero
    obtain ⟨c, hc, hvalue⟩ := hzero
    have hcode := isDigit_iff.mp (isDigit_of_mem_toDigits m c (List.mem_of_mem_head? hc))
    have hnat : c.toNat = '0'.toNat := Nat.le_antisymm (Nat.sub_eq_zero_iff_le.mp hvalue) hcode.1
    exact head?_toDigits hm (Char.toNat_inj.mp hnat ▸ hc)

/-- What is written for an integer is read as its numeral. -/
theorem numeral?_toString (n : Int) :
    numeral? (toString n).toList = some (.ofInt n, []) := by
  cases n with
  | ofNat m =>
    have htext : (toString (Int.ofNat m)).toList = Nat.toDigits 10 m := by
      show m.repr.toList = _
      simp [Nat.repr_eq_ofList_toDigits]
    have hhead : (Nat.toDigits 10 m).head? ≠ some '-' := fun h =>
      absurd (isDigit_of_mem_toDigits m _ (List.mem_of_mem_head? h)) (by decide)
    rw [htext, numeral?_of_head hhead, unsigned?_toDigits]
    simp [Numeral.ofInt]
  | negSucc m =>
    have htext : (toString (Int.negSucc m)).toList = '-' :: Nat.toDigits 10 m.succ := by
      show ("-" ++ m.succ.repr).toList = _
      simp [Nat.repr_eq_ofList_toDigits]
    rw [htext, numeral?_minus, unsigned?_toDigits]
    simp [Numeral.ofInt]

end Node

end Schemata.Json
