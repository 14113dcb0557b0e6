import Schemata.Calendar

/-!
Days counted back. Every number of days is that of its date. In an era the count falls behind one
day in four years and catches up one in a hundred, so a day's century and its place among the years
of four are read off by division before the year is.
-/
namespace Schemata.Date

/-- The year of a day of an era, and how far it has come. -/
theorem yearOfEra_spec {day year : Int} (h0 : 0 ≤ day) (h1 : day < daysPerEra)
    (hy : year = (day - day / 1460 + day / 36524 - day / 146096) / 365) :
    0 ≤ year ∧ year < 400 ∧ 0 ≤ day - (365 * year + year / 4 - year / 100) ∧
      day - (365 * year + year / 4 - year / 100) ≤ 365 := by
  simp only [daysPerEra] at h1
  obtain ⟨centuries, hc⟩ : ∃ centuries, centuries = day / 36524 - day / 146096 := ⟨_, rfl⟩
  have hcases : centuries = 0 ∨ centuries = 1 ∨ centuries = 2 ∨ centuries = 3 := by omega
  have hcentury : year / 100 = centuries := by
    rcases hcases with h | h | h | h <;> omega
  have hfour : year / 4 = day / 1460 ∨ year / 4 = day / 1460 - 1 := by
    rcases hcases with h | h | h | h <;> omega
  rcases hfour with h | h <;> omega

/-- The month of a day of the year, counted from March, and the day in that month. -/
theorem month_spec {day month : Int} (h0 : 0 ≤ day) (h1 : day ≤ 365)
    (hm : month = (5 * day + 2) / 153) :
    0 ≤ month ∧ month < 12 ∧ 1 ≤ day - (153 * month + 2) / 5 + 1 := by
  omega

/-- The days of a date in a year that begins in March. -/
theorem toDays_eq {era year month : Int} {day : Nat} (h0 : 0 ≤ year) (h1 : year < 400)
    (h2 : 0 ≤ month) (h3 : month < 12) :
    toDays (if month < 10 then ⟨year + era * 400, (month + 3).toNat, day⟩
      else ⟨year + era * 400 + 1, (month - 9).toNat, day⟩) =
      era * daysPerEra + year * 365 + year / 4 - year / 100 + dayOfYear month day - epoch := by
  have hera : (year + era * 400) / 400 = era := by omega
  have hyear : (year + era * 400) % 400 = year := by omega
  by_cases hm : month < 10
  · have hlate : ¬ (month + 3).toNat ≤ 2 := by omega
    have hmonth : ((month + 3).toNat : Int) - 3 = month := by omega
    simp only [hm, if_true, toDays, hlate, if_false, hera, hyear, hmonth]
  · have hearly : (month - 9).toNat ≤ 2 := by omega
    have hmonth : ((month - 9).toNat : Int) + 9 = month := by omega
    have hnext : year + era * 400 + 1 - 1 = year + era * 400 := by omega
    simp only [hm, if_false, toDays, hearly, if_true, hnext, hera, hyear, hmonth]

theorem toDays_ofDays (n : Int) : (ofDays n).toDays = n := by
  have h0 : 0 ≤ (n + epoch) % daysPerEra := Int.emod_nonneg _ (by decide)
  have h1 : (n + epoch) % daysPerEra < daysPerEra := Int.emod_lt_of_pos _ (by decide)
  have hera := Int.mul_ediv_add_emod (n + epoch) daysPerEra
  simp only [ofDays]
  generalize (n + epoch) / daysPerEra = era at *
  generalize (n + epoch) % daysPerEra = day at *
  generalize hy : (day - day / 1460 + day / 36524 - day / 146096) / 365 = year
  obtain ⟨hy0, hy1, hd0, hd1⟩ := yearOfEra_spec h0 h1 hy.symm
  generalize hd : day - (365 * year + year / 4 - year / 100) = rest at *
  generalize hm : (5 * rest + 2) / 153 = month
  obtain ⟨hm0, hm1, hr⟩ := month_spec hd0 hd1 hm.symm
  rw [toDays_eq hy0 hy1 hm0 hm1, dayOfYear, Int.toNat_of_nonneg (by omega)]
  rw [Int.mul_comm] at hera
  omega

theorem ofDays?_eq_some_iff {n : Int} {d : Date} :
    ofDays? n = some d ↔ d.isValid ∧ ofDays n = d := by
  simp only [ofDays?, Option.ite_none_right_eq_some, Option.some.injEq]
  constructor
  · rintro ⟨h, rfl⟩
    exact ⟨h, rfl⟩
  · rintro ⟨h, rfl⟩
    exact ⟨h, rfl⟩

end Schemata.Date
