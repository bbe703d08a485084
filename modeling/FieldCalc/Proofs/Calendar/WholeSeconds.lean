import FieldCalc.Proofs.Calendar.IsoText
import FieldCalc.Proofs.Calendar.Days
import FieldCalc.Proofs.Number.WholeFloats

/-!
# Moments of whole seconds

A moment given in milliseconds is split through a float count of seconds
(`Moment.ofMillis`), and a date-time is read back through float seconds
(`dateTimeMillis`). For whole seconds the floats are exact. Whole seconds of
years 1 to 9999 split into a date and a time of day on the clock that count
back to the seconds (`ofSeconds_spec`). Below `2^53` seconds the division by a
thousand gives the float of the seconds, whose fraction is zero and rounds to
no microseconds, so milliseconds of whole seconds split as the seconds do
(`ofMillis_whole`, `ofMillis_of_whole`). Back from the fields, the seconds at
UTC scaled by a thousand round to their milliseconds
(`dateTimeMillis_of_seconds`).
-/

namespace FieldCalc.Calendar

open Binary

section Split

/-- Whole seconds whose date lies in years 1 to 9999 split into a date and a
time of day on the clock that count back to the seconds. -/
theorem ofSeconds_spec (t : Int) (micro : Nat) (low : 1 ≤ (CivilDate.ofDay (t.fdiv 86400)).year)
    (high : (CivilDate.ofDay (t.fdiv 86400)).year ≤ 9999) :
    ∃ m, Moment.ofSeconds t micro = .ok m ∧ m.OnClock ∧ m.date = CivilDate.ofDay (t.fdiv 86400) ∧
      m.date.toDay * 86400 + ((m.hour * 3600 + m.minute * 60 + m.second : Nat) : Int) = t := by
  have inDay : 0 ≤ t - t.fdiv 86400 * 86400 ∧ t - t.fdiv 86400 * 86400 < 86400 := by
    rw [Int.fdiv_eq_ediv_of_nonneg _ (by decide)]
    omega
  simp only [Moment.ofSeconds]
  generalize t.fdiv 86400 = days at low high inDay ⊢
  rw [if_neg (by simp; omega), if_neg (by simp; omega)]
  refine ⟨_, rfl, ⟨ofDay_isValid low high, ?_, ?_, ?_⟩, rfl, ?_⟩
  · show (t - days * 86400).toNat / 3600 < 24
    omega
  · show (t - days * 86400).toNat % 3600 / 60 < 60
    omega
  · show (t - days * 86400).toNat % 60 < 60
    omega
  · show (CivilDate.ofDay days).toDay * 86400 + (((t - days * 86400).toNat / 3600 * 3600 +
      (t - days * 86400).toNat % 3600 / 60 * 60 + (t - days * 86400).toNat % 60 : Nat) : Int) = t
    rw [toDay_ofDay]
    omega

end Split

section Floats

/-- Milliseconds of whole seconds below `2^53` split as the seconds do: the
float of the seconds has no fraction, so no microseconds. -/
theorem ofMillis_whole {N : Int} (small : N.natAbs < 2 ^ 53) :
    Moment.ofMillis (N * 1000) = Moment.ofSeconds N 0 := by
  have q : ofFraction (decide (N * 1000 < 0)) (N * 1000).natAbs 1000 = ofInt N := by
    simpa using @ofFraction_mul_div N 1000 (by norm_num) small
  obtain ⟨p, parts, sign, value⟩ := parts?_ofInt small
  have frac : ofInt N - ofInt N = zero false := sub_self_of_parts parts
  have scaled : zero false * 1000000.0 = ofInt 0 := by decide
  obtain ⟨z, zeroParts, zeroSign, zeroValue⟩ := parts?_ofInt (k := 0) (by norm_num)
  unfold Moment.ofMillis
  simp only [q, isInf_of_parts parts, parts, Parts.trunc_of_value sign value, frac, scaled, zeroParts,
    Parts.roundEven_of_value zeroSign zeroValue]
  have bound : (2 : Nat) ^ 53 < 2 ^ 63 := by norm_num
  simp [Nat.pow_eq]
  omega

/-- Whole seconds at UTC, given as the date and the microseconds of the time
of day, are read back through float seconds as their milliseconds. -/
theorem dateTimeMillis_of_seconds (d : CivilDate) (secs : Nat)
    (small : ((d.toDay * 86400 + secs) * 1000).natAbs < 2 ^ 53) :
    dateTimeMillis d ((secs * 1000000 : Nat) : Int) (some 0) = (d.toDay * 86400 + secs) * 1000 := by
  have total : d.toDay * 86400000000 + ((secs * 1000000 : Nat) : Int) - 0 =
      (d.toDay * 86400 + secs) * 1000000 := by
    push_cast
    ring
  have seconds := @ofFraction_mul_div (d.toDay * 86400 + secs) 1000000 (by norm_num) (by omega)
  have thousand : (1000.0 : Float) = ofInt (1000 : Nat) := by decide
  have scaled := @ofInt_mul_ofNat (d.toDay * 86400 + secs) 1000 (by norm_num) (by norm_num) small
  obtain ⟨p, parts, sign, value⟩ := parts?_ofInt small
  unfold dateTimeMillis dateTimeInstant Instant.millis
  simp only [Option.getD_some, total, Nat.cast_ofNat] at seconds scaled ⊢
  rw [seconds, thousand, Nat.cast_ofNat, scaled, parts]
  exact Parts.roundEven_of_value sign value

end Floats

/-- Milliseconds of whole seconds in years 1 to 9999 split into a date and a
time of day on the clock that count back to the milliseconds. -/
theorem ofMillis_of_whole {ms : Int} (whole : ms % 1000 = 0)
    (low : 1 ≤ (CivilDate.ofDay (ms.fdiv msPerDay)).year)
    (high : (CivilDate.ofDay (ms.fdiv msPerDay)).year ≤ 9999) :
    ∃ m, Moment.ofMillis ms = .ok m ∧ m.OnClock ∧ m.date = CivilDate.ofDay (ms.fdiv msPerDay) ∧
      (m.date.toDay * 86400 + ((m.hour * 3600 + m.minute * 60 + m.second : Nat) : Int)) * 1000 = ms := by
  obtain ⟨N, rfl⟩ : ∃ N, ms = N * 1000 := ⟨ms / 1000, by omega⟩
  have days : (N * 1000).fdiv msPerDay = N.fdiv 86400 := by
    rw [Int.fdiv_eq_ediv_of_nonneg _ (by decide), Int.fdiv_eq_ediv_of_nonneg _ (by decide), msPerDay]
    omega
  rw [days] at low high ⊢
  have bounds := day_bounds_of_year low high
  have small : N.natAbs < 2 ^ 53 := by
    rw [Int.fdiv_eq_ediv_of_nonneg _ (by decide)] at bounds
    omega
  obtain ⟨m, split, clock, date, count⟩ := ofSeconds_spec N 0 low high
  exact ⟨m, by rw [ofMillis_whole small, split], clock, date, by rw [count]⟩

end FieldCalc.Calendar
