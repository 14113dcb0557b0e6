import Mathlib.Tactic.Ring
import Schemata.Proofs.Calendar.Days
import Schemata.Proofs.Digits

/-!
Dates and moments read back from their texts. Numbers are written with as many digits as the reader
takes, or end where a character comes that is no digit, so each is read to its end and what follows
is left alone.
-/
namespace Schemata

namespace Calendar

open Scan

theorem toList_padded (width n : Nat) :
    (padded width n).toList =
      List.replicate (width - (Nat.toDigits 10 n).length) '0' ++ Nat.toDigits 10 n := by
  simp [padded, Nat.repr_eq_ofList_toDigits]

theorem padded_ne_nil (width n : Nat) : (padded width n).toList ≠ [] := by
  rw [toList_padded]
  exact List.append_ne_nil_of_right_ne_nil _ Nat.toDigits_ne_nil

theorem isDigit_of_mem_padded (width n : Nat) : ∀ c ∈ (padded width n).toList, c.isDigit := by
  intro c hc
  rw [toList_padded, List.mem_append, List.mem_replicate] at hc
  rcases hc with ⟨-, rfl⟩ | hc
  · decide
  · exact Nat.isDigit_of_mem_toDigits (by decide) (by decide) hc

theorem length_padded {width n : Nat} (hw : 0 < width) (hn : n < 10 ^ width) :
    (padded width n).toList.length = width := by
  have hle := (Nat.length_toDigits_le_iff (b := 10) (by decide) hw).mpr hn
  rw [toList_padded, List.length_append, List.length_replicate]
  omega

theorem ofDigitChars_padded (width n : Nat) :
    Nat.ofDigitChars 10 (padded width n).toList 0 = n := by
  have hz : ∀ k, Nat.ofDigitChars 10 (List.replicate k '0') 0 = 0 := by
    intro k
    induction k with
    | zero => rfl
    | succ k ih => simpa [List.replicate_succ, Nat.ofDigitChars] using ih
  rw [toList_padded, Nat.ofDigitChars_append, hz]
  exact Nat.ofDigitChars_toDigits (by decide) (by decide)

/-- A padded number is read whatever follows if the reader takes no more digits. -/
theorem number?_padded {least width n : Nat} (hw : 0 < width) (hl : least ≤ width)
    (hn : n < 10 ^ width) (rest : List Char) :
    number? least width ((padded width n).toList ++ rest) = some (n, rest) := by
  have hlen := length_padded hw hn
  rw [number?_append (padded_ne_nil _ _) (isDigit_of_mem_padded _ _) (by omega) (by omega)
    (.inl hlen), ofDigitChars_padded]

theorem number?_two {n : Nat} (hn : n < 100) (rest : List Char) :
    number? 2 2 ((padded 2 n).toList ++ rest) = some (n, rest) :=
  number?_padded (by decide) (by decide) hn rest

/-- A padded number starts with a digit, and neither with white space nor with a sign. -/
theorem exists_padded_eq_cons (width n : Nat) :
    ∃ c ds, (padded width n).toList = c :: ds ∧ Text.isBlank c = false ∧ c ≠ '-' ∧ c ≠ '+' := by
  obtain ⟨c, ds, h⟩ := List.exists_cons_of_ne_nil (padded_ne_nil width n)
  have hc : c.isDigit := isDigit_of_mem_padded width n c (h ▸ List.Mem.head _)
  have hblank := isBlank_eq_false_of_isAlphanum (isAlphanum_iff.mpr (.inr (.inr hc)))
  refine ⟨c, ds, h, hblank, ?_, ?_⟩
  · rintro rfl
    exact absurd hc (by decide)
  · rintro rfl
    exact absurd hc (by decide)

theorem dropWhile_padded (width n : Nat) (rest : List Char) :
    ((padded width n).toList ++ rest).dropWhile Text.isBlank =
      (padded width n).toList ++ rest := by
  obtain ⟨c, ds, hc, hblank, -⟩ := exists_padded_eq_cons width n
  rw [hc, List.cons_append, List.dropWhile_cons_of_neg (by simp [hblank])]

/-! ### Dates -/

theorem shortNumber?_padded {n : Nat} (hn : n < 100) (rest : List Char) :
    shortNumber? ((padded 2 n).toList ++ rest) = some (n, rest) := by
  rw [shortNumber?, dropWhile_padded]
  exact number?_padded (by decide) (by decide) hn rest

theorem year?_padded {n : Nat} (hn : n < 10000) (rest : List Char) :
    year? ((padded 4 n).toList ++ rest) = some ((n : Int), rest) := by
  have hnum : number? 1 4 ((padded 4 n).toList ++ rest) = some (n, rest) :=
    number?_padded (by decide) (by decide) hn rest
  obtain ⟨c, ds, hc, -, hminus, hplus⟩ := exists_padded_eq_cons 4 n
  rw [year?, dropWhile_padded, hc, List.cons_append]
  rw [hc, List.cons_append] at hnum
  split
  · exact absurd (List.cons.inj ‹_›).1 hminus
  · exact absurd (List.cons.inj ‹_›).1 hplus
  · rw [hnum, Option.map_some]

theorem year?_minus (s : List Char) :
    year? ('-' :: s) = (number? 1 s.length s).map fun (n, rest) => (-(n : Int), rest) := rfl

theorem year?_plus (s : List Char) :
    year? ('+' :: s) = (number? 1 s.length s).map fun (n, rest) => ((n : Int), rest) := rfl

/-- A year of any size is read back. -/
theorem year?_yearText (year : Int) {rest : List Char} (hr : Stops rest) :
    year? ((yearText year).toList ++ rest) = some (year, rest) := by
  have hsigned : number? 1 ((padded 4 year.natAbs).toList ++ rest).length
      ((padded 4 year.natAbs).toList ++ rest) = some (year.natAbs, rest) := by
    have hpos := List.length_pos_iff.mpr (padded_ne_nil 4 year.natAbs)
    rw [number?_append (padded_ne_nil _ _) (isDigit_of_mem_padded _ _) hpos (by simp) (.inr hr),
      ofDigitChars_padded]
  by_cases hy : 0 ≤ year ∧ year ≤ 9999
  · rw [yearText, if_pos hy, year?_padded (by omega), Int.toNat_of_nonneg hy.1]
  by_cases hneg : year < 0
  · have htext : (yearText year).toList = '-' :: (padded 4 year.natAbs).toList := by
      simp [yearText, hy, hneg]
    have habs : -(year.natAbs : Int) = year := by omega
    rw [htext, List.cons_append, year?_minus, hsigned]
    exact congrArg (fun y => some (y, rest)) habs
  · have htext : (yearText year).toList = '+' :: (padded 4 year.natAbs).toList := by
      simp [yearText, hy, hneg]
    have habs : (year.natAbs : Int) = year := by omega
    rw [htext, List.cons_append, year?_plus, hsigned]
    exact congrArg (fun y => some (y, rest)) habs

/-- The parts of a valid date have as many digits as they are written with. -/
theorem of_isValid {d : Date} (h : d.isValid) : d.month < 100 ∧ d.day < 100 := by
  have hday : Date.daysInMonth d.year d.month ≤ 31 := by
    unfold Date.daysInMonth
    split
    · split <;> decide
    · split <;> decide
  simp only [Date.isValid, Bool.and_eq_true, decide_eq_true_eq] at h
  omega

theorem looseDate?_dateText {d : Date} (h : d.isValid) (rest : List Char) :
    looseDate? ((dateText d).toList ++ rest) = some (d, rest) := by
  obtain ⟨hm, hd⟩ := of_isValid h
  have hy : ∀ s, year? ((yearText d.year).toList ++ '-' :: s) = some (d.year, '-' :: s) :=
    fun s => year?_yearText d.year (by simp [Stops])
  simp [looseDate?, dateText, hy, expect?, shortNumber?_padded hm, shortNumber?_padded hd, valid?,
    h]

theorem fullDate?_dateText {d : Date} (h : d.isValid) (hy : 0 ≤ d.year ∧ d.year ≤ 9999)
    (rest : List Char) : fullDate? ((dateText d).toList ++ rest) = some (d, rest) := by
  obtain ⟨hm, hd⟩ := of_isValid h
  have hyear : ∀ s, number? 4 4 ((padded 4 d.year.toNat).toList ++ s) = some (d.year.toNat, s) :=
    number?_padded (by decide) (by decide) (by omega)
  have hnat : (d.year.toNat : Int) = d.year := Int.toNat_of_nonneg hy.1
  simp [fullDate?, dateText, yearText, hy, expect?, hyear, number?_two hm, number?_two hd, hnat,
    valid?, h]

/-- A day within the calendar is read back from its date. -/
theorem date?_dateText {days : Int} {d : Date} (h : Date.ofDays? days = some d) :
    date? (dateText d) = some days := by
  obtain ⟨hv, rfl⟩ := Date.ofDays?_eq_some_iff.mp h
  have hd := looseDate?_dateText hv []
  rw [List.append_nil] at hd
  simp [date?, hd, Date.toDays_ofDays]

/-! ### Times -/

theorem fraction?_fractionText {micros : Nat} (h : micros < microsPerSecond) {rest : List Char}
    (hr : Stops rest) (hp : rest.head? ≠ some '.') :
    fraction? ((fractionText micros).toList ++ rest) = some (micros * 1000, rest) := by
  have hread : ∀ {width n : Nat}, 0 < width → width ≤ 9 → n < 10 ^ width →
      fraction? ('.' :: ((padded width n).toList ++ rest)) =
        some (n * Nat.pow 10 (9 - width), rest) := by
    intro width n hw hw9 hn
    have hdigits := isDigit_of_mem_padded width n
    have hlen := length_padded hw hn
    have htake : ((padded width n).toList ++ rest).takeWhile Char.isDigit =
        (padded width n).toList := by
      rw [List.takeWhile_append_of_pos hdigits, takeWhile_of_stops hr, List.append_nil]
    have hdrop : ((padded width n).toList ++ rest).dropWhile Char.isDigit = rest := by
      rw [List.dropWhile_append_of_pos hdigits, dropWhile_of_stops hr]
    have hnine : (padded width n).toList.take 9 = (padded width n).toList :=
      List.take_of_length_le (by omega)
    simp [fraction?, htake, hdrop, hnine, Literal.natOfDigits?_eq (padded_ne_nil _ _) hdigits,
      ofDigitChars_padded, hlen]
  simp only [microsPerSecond] at h
  unfold fractionText
  split
  · rename_i hz
    cases rest with
    | nil => simp [fraction?, hz]
    | cons c rest =>
      have hc : c ≠ '.' := fun he => hp (by rw [he]; rfl)
      simp [fraction?, hz, hc]
  split
  · have hn : micros / 1000 < 10 ^ 3 := by omega
    have hvalue : micros / 1000 * Nat.pow 10 (9 - 3) = micros * 1000 := by
      rw [show Nat.pow 10 (9 - 3) = 1000000 by rfl]
      omega
    rw [String.toList_append, ← hvalue]
    exact hread (by decide) (by decide) hn
  · rw [String.toList_append]
    exact hread (by decide) (by decide) h

/-- The nanoseconds of a second of the day. -/
theorem nanos?_of_lt {seconds : Nat} (h : seconds < secondsPerDay) (fraction : Nat) :
    nanos? (seconds / 3600) (seconds / 60 % 60) (seconds % 60) fraction =
      some (seconds * 1000000000 + fraction) := by
  simp only [secondsPerDay] at h
  have hparts : seconds / 3600 ≤ 23 ∧ seconds / 60 % 60 ≤ 59 ∧ seconds % 60 ≤ 60 := by omega
  have hsum : seconds / 3600 * 3600 + seconds / 60 % 60 * 60 + seconds % 60 = seconds := by omega
  rw [nanos?, if_pos hparts, hsum]

/-- The text of a time of day, in front of `rest`. -/
def timeChars (seconds micros : Nat) (rest : List Char) : List Char :=
  (padded 2 (seconds / 3600)).toList ++ ':' :: ((padded 2 (seconds / 60 % 60)).toList ++
    ':' :: ((padded 2 (seconds % 60)).toList ++ ((fractionText micros).toList ++ rest)))

theorem of_seconds {seconds : Nat} (h : seconds < secondsPerDay) :
    seconds / 3600 < 100 ∧ seconds / 60 % 60 < 100 ∧ seconds % 60 < 100 := by
  simp only [secondsPerDay] at h
  omega

variable {seconds micros : Nat} {rest : List Char}

theorem looseTime?_timeChars (hs : seconds < secondsPerDay) (hm : micros < microsPerSecond)
    (hr : Stops rest) (hp : rest.head? ≠ some '.') :
    looseTime? (timeChars seconds micros rest) =
      some (seconds * 1000000000 + micros * 1000, rest) := by
  obtain ⟨hhour, hminute, hsecond⟩ := of_seconds hs
  simp [looseTime?, timeChars, expect?, shortNumber?_padded hhour, shortNumber?_padded hminute,
    shortNumber?_padded hsecond, fraction?_fractionText hm hr hp, nanos?_of_lt hs]

theorem fullTime?_timeChars (hs : seconds < secondsPerDay) (hm : micros < microsPerSecond)
    (hr : Stops rest) (hp : rest.head? ≠ some '.') :
    fullTime? (timeChars seconds micros rest) =
      some (seconds * 1000000000 + micros * 1000, rest) := by
  obtain ⟨hhour, hminute, hsecond⟩ := of_seconds hs
  simp [fullTime?, timeChars, expect?, number?_two hhour, number?_two hminute,
    number?_two hsecond, fraction?_fractionText hm hr hp, nanos?_of_lt hs]

/-! ### Moments -/

/-- The moment of a day, a second and a microsecond. -/
theorem moment_eq (d : Date) (seconds micros : Nat) :
    moment d (seconds * 1000000000 + micros * 1000) 0 =
      (d.toDays * secondsPerDay + seconds) * microsPerSecond + micros := by
  have hm : (d.toDays * secondsPerDay - 0) * 1000000000 +
      ((seconds * 1000000000 + micros * 1000 : Nat) : Int) =
      ((d.toDays * secondsPerDay + seconds) * microsPerSecond + micros) * 1000 := by
    simp only [microsPerSecond, secondsPerDay]
    omega
  rw [moment, hm]
  exact Int.mul_tdiv_cancel _ (by decide)

/-- The date of a moment. -/
def dateOf (n : Int) : Date := Date.ofDays (n / microsPerDay)

/-- The parts of a moment that is written, and its text. -/
theorem momentText?_eq_some {n : Int} {s : String} (h : momentText? n = some s) :
    ∃ seconds micros : Nat, (dateOf n).isValid ∧ seconds < secondsPerDay ∧
      micros < microsPerSecond ∧
      n = ((dateOf n).toDays * secondsPerDay + seconds) * microsPerSecond + micros ∧
      ∀ rest, s.toList ++ rest =
        (dateText (dateOf n)).toList ++ 'T' :: timeChars seconds micros rest := by
  simp only [momentText?, split?, Option.map_eq_some_iff, Prod.exists, Prod.mk.injEq] at h
  obtain ⟨d, part, ⟨_, hd, rfl, rfl⟩, rfl⟩ := h
  obtain ⟨hv, rfl⟩ := Date.ofDays?_eq_some_iff.mp hd
  have hday : microsPerDay = 86400000000 := rfl
  refine ⟨(n % microsPerDay).toNat / microsPerSecond, (n % microsPerDay).toNat % microsPerSecond,
    hv, ?_, Nat.mod_lt _ (by decide), ?_, fun rest => ?_⟩
  · simp only [hday, secondsPerDay, microsPerSecond]
    omega
  · rw [dateOf, Date.toDays_ofDays]
    simp only [hday, secondsPerDay, microsPerSecond]
    omega
  · simp [timeText, timeChars, dateOf]

/-- A moment within the calendar is read back from its text. -/
theorem localMoment?_momentText {n : Int} {s : String} (h : momentText? n = some s) :
    localMoment? s = some n := by
  obtain ⟨seconds, micros, hv, hs, hm, hn, htext⟩ := momentText?_eq_some h
  have htext := htext []
  have ht : looseTime? (timeChars seconds micros []) = some (_, []) :=
    looseTime?_timeChars hs hm (by simp [Stops]) (by simp)
  rw [List.append_nil] at htext
  simp [localMoment?, htext, looseDate?_dateText hv, expect?, ht, moment_eq, ← hn]

/-- A moment with an offset is read back from its text if its year has four digits. -/
theorem universalMoment?_momentText {n : Int} {s : String} (h : momentText? n = some s)
    (hy : 0 ≤ (dateOf n).year ∧ (dateOf n).year ≤ 9999) :
    universalMoment? (s ++ "+00:00") = some n := by
  obtain ⟨seconds, micros, hv, hs, hm, hn, htext⟩ := momentText?_eq_some h
  have htext := htext ['+', '0', '0', ':', '0', '0']
  have ht : fullTime? (timeChars seconds micros ['+', '0', '0', ':', '0', '0']) =
      some (_, ['+', '0', '0', ':', '0', '0']) :=
    fullTime?_timeChars hs hm (by simp [Stops]) (by simp)
  have hoffset : offset? ['+', '0', '0', ':', '0', '0'] = some (0, []) := by decide
  simp [universalMoment?, htext, fullDate?_dateText hv hy, ht, hoffset, moment_eq, ← hn]

/-- The first moment of the year 10000 is not. -/
theorem not_universalMoment?_momentText :
    momentText? 252455616000000000 = some "+10000-01-01T00:00:00" ∧
      universalMoment? "+10000-01-01T00:00:00+00:00" = none := by
  decide +kernel

end Calendar

end Schemata
