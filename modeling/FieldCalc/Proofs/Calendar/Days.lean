import FieldCalc.Calendar.Civil
import Mathlib.Tactic.SplitIfs

/-!
# Day numbers and dates

`CivilDate.ofDay` splits a day number, counted from 1970-01-01, into eras of
400 years (146097 days), an era into March-based years, so that the leap day
is the last day of a year, and a year into months from March, whose lengths
follow the pattern of `(153 * mp + 2) / 5`. A year of era holds 365 days, and a
366th when it ends in a leap day (`yearOfEra_spec`); a day of the year falls in
one of twelve months, within its length (`monthOfYear_spec`).

So the date of every day number has a month from 1 to 12 and a day within the
month (`ofDay_month_day`), it is valid when its year is one of 1 to 9999
(`ofDay_isValid`), and `CivilDate.toDay` counts its days back to the number
(`toDay_ofDay`).
-/

namespace FieldCalc.Calendar

section Leap

theorem isLeap_iff (y : Int) : isLeap y = true ↔ (y % 4 = 0 ∧ y % 100 ≠ 0) ∨ y % 400 = 0 := by
  simp [isLeap]

theorem isLeap_add_mul (y k : Int) : isLeap (y + k * 400) = isLeap y := by
  rw [Bool.eq_iff_iff, isLeap_iff, isLeap_iff]
  omega

end Leap

section Era

/-- The year of era that `ofDay` computes from a day of era, and the day of
that year: a year holds 365 days, and a 366th only when it ends in the leap
day of a leap year. -/
theorem yearOfEra_spec {doe yoe doy : Int} (low : 0 ≤ doe) (high : doe < 146097)
    (yoeDef : yoe = (doe - doe / 1460 + doe / 36524 - doe / 146096) / 365)
    (doyDef : doy = doe - (365 * yoe + yoe / 4 - yoe / 100)) :
    0 ≤ yoe ∧ yoe ≤ 399 ∧ 0 ≤ doy ∧ (doy ≤ 364 ∨ doy = 365 ∧ isLeap (yoe + 1) = true) := by
  by_cases last : doe = 146096
  · -- the last day of an era is the leap day of its four-hundredth year
    have year : yoe = 399 := by omega
    refine ⟨by omega, by omega, by omega, .inr ⟨by omega, ?_⟩⟩
    rw [year]
    decide
  -- centuries of 36524 days, four-year cycles of 1461 days and years of 365
  obtain ⟨c, q, s, r, split, c0, c3, q0, q24, s0, s3, r0, r365, leapDay⟩ : ∃ c q s r : Int,
      doe = 36524 * c + 1461 * q + 365 * s + r ∧ 0 ≤ c ∧ c ≤ 3 ∧ 0 ≤ q ∧ q ≤ 24 ∧ 0 ≤ s ∧ s ≤ 3 ∧
        0 ≤ r ∧ r ≤ 365 ∧ (r = 365 → s = 3 ∧ q ≤ 23) :=
    ⟨doe / 36524, doe % 36524 / 1461, min (doe % 36524 % 1461 / 365) 3,
      doe % 36524 % 1461 - 365 * min (doe % 36524 % 1461 / 365) 3, by omega⟩
  have eraEnd : doe / 146096 = 0 := by omega
  have century : doe / 36524 = c := by omega
  have cycle : doe / 1460 = 25 * c + q + (24 * c + q + 365 * s + r) / 1460 := by omega
  by_cases inYear : r ≤ 364
  · have year : yoe = 100 * c + 4 * q + s := by omega
    have quarter : yoe / 4 = 25 * c + q := by omega
    have hundred : yoe / 100 = c := by omega
    refine ⟨by omega, by omega, by omega, .inl (by omega)⟩
  · -- the leap day at the end of a four-year cycle
    obtain ⟨three, notLast⟩ := leapDay (by omega)
    have year : yoe = 100 * c + 4 * q + 3 := by omega
    have quarter : yoe / 4 = 25 * c + q := by omega
    have hundred : yoe / 100 = c := by omega
    refine ⟨by omega, by omega, by omega, .inr ⟨by omega, ?_⟩⟩
    simp only [isLeap, year, Bool.or_eq_true, Bool.and_eq_true, beq_iff_eq, bne_iff_ne, ne_eq]
    omega

/-- The month from March that `ofDay` computes from a day of the year, and
the day of that month, within the month's length; February, the last month,
begins on day 337. -/
theorem monthOfYear_spec {doy mp d : Int} (low : 0 ≤ doy) (high : doy ≤ 365)
    (mpDef : mp = (5 * doy + 2) / 153) (dDef : d = doy - (153 * mp + 2) / 5 + 1) :
    0 ≤ mp ∧ mp ≤ 11 ∧ 1 ≤ d ∧ d ≤ 31 ∧ ((mp = 1 ∨ mp = 3 ∨ mp = 6 ∨ mp = 8) → d ≤ 30) ∧
      (mp = 11 → d + 336 = doy) := by
  have mp0 : 0 ≤ mp := by omega
  have mp11 : mp ≤ 11 := by omega
  refine ⟨mp0, mp11, ?_⟩
  have : mp = 0 ∨ mp = 1 ∨ mp = 2 ∨ mp = 3 ∨ mp = 4 ∨ mp = 5 ∨ mp = 6 ∨ mp = 7 ∨ mp = 8 ∨ mp = 9 ∨
      mp = 10 ∨ mp = 11 := by omega
  rcases this with rfl | rfl | rfl | rfl | rfl | rfl | rfl | rfl | rfl | rfl | rfl | rfl <;> omega

end Era

section Dates

/-- `ofDay` in pieces: the era, the March-based year of era `yoe` and its day
`doy`, the month `mp` counted from March and the day `d` of that month. -/
theorem ofDay_spec (z : Int) : ∃ era yoe doy mp d : Int,
    z + 719468 = era * 146097 + (365 * yoe + yoe / 4 - yoe / 100) + doy ∧
    0 ≤ yoe ∧ yoe ≤ 399 ∧ 0 ≤ doy ∧ (doy ≤ 364 ∨ doy = 365 ∧ isLeap (yoe + 1) = true) ∧
    mp = (5 * doy + 2) / 153 ∧ d = doy - (153 * mp + 2) / 5 + 1 ∧
    CivilDate.ofDay z =
      ⟨if (if mp < 10 then mp + 3 else mp - 9) ≤ 2 then yoe + era * 400 + 1 else yoe + era * 400,
        (if mp < 10 then mp + 3 else mp - 9).toNat, d.toNat⟩ := by
  unfold CivilDate.ofDay
  dsimp only
  rw [Int.fdiv_eq_ediv_of_nonneg _ (by decide)]
  generalize eraDef : (z + 719468) / 146097 = era
  generalize doeDef : z + 719468 - era * 146097 = doe
  generalize yoeDef : (doe - doe / 1460 + doe / 36524 - doe / 146096) / 365 = yoe
  generalize doyDef : doe - (365 * yoe + yoe / 4 - yoe / 100) = doy
  generalize mpDef : (5 * doy + 2) / 153 = mp
  generalize dDef : doy - (153 * mp + 2) / 5 + 1 = d
  obtain ⟨yoe0, yoe399, doy0, doyLeap⟩ :=
    yearOfEra_spec (by omega) (by omega) yoeDef.symm doyDef.symm
  exact ⟨era, yoe, doy, mp, d, by omega, yoe0, yoe399, doy0, doyLeap, mpDef.symm, dDef.symm, rfl⟩

/-- Every day number has a date whose month is one of the twelve and whose day
lies within that month. -/
theorem ofDay_month_day (z : Int) :
    1 ≤ (CivilDate.ofDay z).month ∧ (CivilDate.ofDay z).month ≤ 12 ∧ 1 ≤ (CivilDate.ofDay z).day ∧
      (CivilDate.ofDay z).day ≤ daysInMonth (CivilDate.ofDay z).year (CivilDate.ofDay z).month := by
  obtain ⟨era, yoe, doy, mp, d, -, -, -, doy0, doyLeap, mpDef, dDef, date⟩ := ofDay_spec z
  obtain ⟨mp0, mp11, d1, d31, d30, february⟩ := monthOfYear_spec doy0 (by omega) mpDef dDef
  rw [date]
  have : mp = 0 ∨ mp = 1 ∨ mp = 2 ∨ mp = 3 ∨ mp = 4 ∨ mp = 5 ∨ mp = 6 ∨ mp = 7 ∨ mp = 8 ∨ mp = 9 ∨
      mp = 10 ∨ mp = 11 := by omega
  rcases this with rfl | rfl | rfl | rfl | rfl | rfl | rfl | rfl | rfl | rfl | rfl | feb
  all_goals try (simp [daysInMonth]; omega)
  subst feb
  have leap : isLeap (yoe + era * 400 + 1) = isLeap (yoe + 1) := by
    rw [show yoe + era * 400 + 1 = yoe + 1 + era * 400 by omega, isLeap_add_mul]
  simp [daysInMonth, leap]
  split
  next => omega
  next notLeap =>
    rcases doyLeap with short | ⟨-, leapYear⟩
    · omega
    · exact absurd leapYear notLeap

theorem toDay_ofDay (z : Int) : (CivilDate.ofDay z).toDay = z := by
  obtain ⟨era, yoe, doy, mp, d, split, yoe0, yoe399, doy0, doyLeap, mpDef, dDef, date⟩ := ofDay_spec z
  obtain ⟨mp0, mp11, d1, -, -, -⟩ := monthOfYear_spec doy0 (by omega) mpDef dDef
  rw [date]
  unfold CivilDate.toDay
  dsimp only
  rw [Int.fdiv_eq_ediv_of_nonneg _ (by decide)]
  split_ifs <;> omega

theorem ofDay_isValid {z : Int} (low : 1 ≤ (CivilDate.ofDay z).year)
    (high : (CivilDate.ofDay z).year ≤ 9999) : (CivilDate.ofDay z).isValid = true := by
  obtain ⟨month1, month12, day1, dayLe⟩ := ofDay_month_day z
  simp [CivilDate.isValid, low, high, month1, month12, day1, dayLe]

theorem day_bounds_of_year {z : Int} (low : 1 ≤ (CivilDate.ofDay z).year)
    (high : (CivilDate.ofDay z).year ≤ 9999) : -719468 ≤ z ∧ z < 2933000 := by
  obtain ⟨era, yoe, doy, mp, d, split, yoe0, yoe399, doy0, doyLeap, -, -, date⟩ := ofDay_spec z
  rw [date] at low high
  dsimp only at low high
  split_ifs at low high <;> omega

end Dates

end FieldCalc.Calendar
