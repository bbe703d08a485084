import FieldCalc.Proofs.Calendar.Fractions

/-!
# Milliseconds through a stored date-time

A date-time is stored as the instant of the moment its milliseconds split into
(`storableMoment`) and read back through float seconds scaled by a thousand
(`Instant.millis`). A moment that splits lies in years 1 to 9999, so its
milliseconds are below `2^48` in magnitude (`ofMillis_small`), and the
microseconds of its instant lie within 125 of a thousand times them
(`ofMillis_instant_near`). Float seconds of such microseconds, scaled by a
thousand, stay within three eighths of a millisecond of them and round back
(`millis_of_near`), so every moment that splits comes back from its instant
(`ofMillis_instant_millis`).
-/

namespace FieldCalc.Calendar

open Binary

section Range

/-- A split of whole seconds holds a year of 1 to 9999, and its day number and
time of day count back to the seconds. -/
theorem ofSeconds_ok {t : Int} {micro : Nat} {m : Moment} (split : Moment.ofSeconds t micro = .ok m) :
    1 ≤ (CivilDate.ofDay (t.fdiv 86400)).year ∧ (CivilDate.ofDay (t.fdiv 86400)).year ≤ 9999 ∧
      m.dayNumber * 86400 + ((m.hour * 3600 + m.minute * 60 + m.second : Nat) : Int) = t ∧
      m.micro = micro := by
  have years : 1 ≤ (CivilDate.ofDay (t.fdiv 86400)).year ∧ (CivilDate.ofDay (t.fdiv 86400)).year ≤ 9999 := by
    unfold Moment.ofSeconds at split
    dsimp only at split
    split_ifs at split with overflow range
    simp only [Bool.or_eq_true, decide_eq_true_eq, not_or, not_lt] at range
    omega
  obtain ⟨m', split', -, date, count⟩ := ofSeconds_spec t micro years.1 years.2
  rw [split] at split'
  cases split'
  obtain ⟨microEq, day⟩ := ofSeconds_fields split
  rw [date, toDay_ofDay, ← day] at count
  exact ⟨years.1, years.2, count, microEq⟩

/-- Milliseconds that split into a moment are below `2^48` in magnitude: the
whole seconds of the moment lie in years 1 to 9999, and the float seconds
they come from round the thousandth of the milliseconds. -/
theorem ofMillis_small {ms : Int} {m : Moment} (split : Moment.ofMillis ms = .ok m) : ms.natAbs < 2 ^ 48 := by
  by_cases zero : ms = 0
  · simp [zero]
  unfold Moment.ofMillis at split
  dsimp only at split
  split at split
  · cases split
  next finite =>
  split at split
  · cases split
  next p parts =>
  suffices bounded : ∀ carried : Int × Int, (carried.1 - p.trunc).natAbs ≤ 1 →
      Moment.ofSeconds carried.1 carried.2.toNat = .ok m → ms.natAbs < 2 ^ 48 by
    repeat' split at split
    all_goals first | cases split | exact bounded _ (by simp) split
  intro carried moved split
  obtain ⟨low, high, -, -⟩ := ofSeconds_ok split
  have days := day_bounds_of_year low high
  have wholeBound : carried.1.natAbs < 253411200000 := by
    rw [Int.fdiv_eq_ediv_of_nonneg _ (by decide)] at days
    omega
  have truncBound : (p.trunc.natAbs : ℚ) + 1 ≤ 253411200002 := by
    exact_mod_cast (show p.trunc.natAbs + 1 ≤ 253411200002 by omega)
  have seconds := p.abs_value_lt_trunc
  rcases @ofFraction_cases (decide (ms < 0)) ms.natAbs 1000 (Int.natAbs_pos.mpr zero) (by norm_num) with
    ⟨infinite, -⟩ | ⟨p', parts', -, rounds⟩
  · rw [infinite] at finite
    exact absurd (isInf_infinity _) finite
  rw [parts] at parts'
  cases parts'
  have error := rounds.error p.lowGap_le
  have half := half_unit_le (parts?_spec parts).1 (by positivity) rounds
  rw [← p.abs_value, abs_le] at error
  have tiny := subnormal_half_le
  have magnitude : (ms.natAbs : ℚ) / 1000 < 253411200004 := by linarith
  have : (ms.natAbs : ℚ) < 2 ^ 48 := by linarith
  exact_mod_cast this

theorem ofMillis_instant_near {ms : Int} {m : Moment} (split : Moment.ofMillis ms = .ok m) :
    (m.instant.micros - 1000 * ms).natAbs ≤ 125 := by
  obtain ⟨micro, close, seconds⟩ := ofMillis_eq_ofSeconds (ofMillis_small split)
  rw [seconds] at split
  obtain ⟨-, -, count, microEq⟩ := ofSeconds_ok split
  have floor : ms.fdiv 1000 * 1000 + ms % 1000 = ms := by
    rw [Int.fdiv_eq_ediv_of_nonneg _ (by decide)]
    omega
  simp only [Moment.instant]
  push_cast
  omega

end Range

section Reading

/-- Microseconds within 125 of a thousand times milliseconds below `2^48` in
magnitude read back as the milliseconds: the float seconds and their
thousandfold each round within `2^-52` relatively, a few hundredths of a
millisecond here. -/
theorem millis_of_near {T ms : Int} (small : ms.natAbs < 2 ^ 48) (near : (T - 1000 * ms).natAbs ≤ 125) :
    (Instant.mk T).millis = ms := by
  by_cases zero : T = 0
  · subst zero
    obtain rfl : ms = 0 := by omega
    have zeroParts : parts? (ofFraction false 0 1000000 * 1000.0) = some ⟨false, 0, -1074⟩ := by decide
    unfold Instant.millis
    simp only [Int.natAbs_zero, lt_self_iff_false, decide_false, zeroParts]
    exact Parts.roundEven_of_value (k := 0) rfl (by simp)
  have msBound : |(ms : ℚ)| < 2 ^ 48 := by
    rw [← Int.cast_abs, ← Nat.cast_natAbs]
    exact_mod_cast small
  have nearQ : |(T : ℚ) - 1000 * ms| ≤ 125 := by
    rw [show (T : ℚ) - 1000 * ms = ((T - 1000 * ms : Int) : ℚ) by push_cast; ring, ← Int.cast_abs,
      ← Nat.cast_natAbs]
    exact_mod_cast near
  have secondsBound : |(T : ℚ) / (1000000 : Nat)| ≤ 2 ^ 39 := by
    rw [abs_lt] at msBound
    rw [abs_le] at nearQ ⊢
    push_cast
    constructor <;> linarith
  have tiny := subnormal_half_le
  obtain ⟨p, parts, -, pError⟩ := nearest_error (lt_overflowThreshold (secondsBound.trans (by norm_num)))
  rw [nearest_int_div zero (by norm_num)] at parts
  have pNonzero : p.mantissa ≠ 0 := by
    intro zeroMantissa
    rw [Parts.value_eq_zero zeroMantissa, zero_sub, abs_neg] at pError
    have atLeast : (1 : ℚ) / 1000000 ≤ |(T : ℚ) / (1000000 : Nat)| := by
      rw [abs_div, Nat.cast_ofNat, abs_of_pos (by norm_num : (0 : ℚ) < 1000000)]
      gcongr
      rw [← Int.cast_abs, ← Int.cast_one, Int.cast_le]
      exact Int.one_le_abs zero
    have : (1 : ℚ) / 2 ^ 52 < 1 / 2000000 := by norm_num
    linarith
  have pClose : |p.value - (T : ℚ) / (1000000 : Nat)| ≤ 1 / 8000 := by
    calc |p.value - (T : ℚ) / (1000000 : Nat)| ≤ |(T : ℚ) / (1000000 : Nat)| / 2 ^ 52 + 2 ^ (-1075 : Int) := pError
      _ ≤ 2 ^ 39 / 2 ^ 52 + 1 / 2 ^ 52 := by gcongr
      _ ≤ 1 / 8000 := by norm_num
  have thousand : (1000.0 : Float) = ofInt 1000 := by decide
  have product := mul_ofInt_of_parts parts pNonzero (k := 1000) (by norm_num) (by norm_num)
  have scaledBound : |p.value * ((1000 : Int) : ℚ)| ≤ 2 ^ 49 := by
    rw [abs_le] at pClose secondsBound ⊢
    push_cast
    constructor <;> nlinarith
  obtain ⟨s, sParts, sClose⟩ := nearest_error_le scaledBound (by norm_num)
  have rounding := s.roundEven_near
  have back : |((s.roundEven - ms : Int) : ℚ)| < 1 := by
    push_cast at sClose pClose ⊢
    rw [abs_le] at sClose pClose rounding nearQ
    rw [abs_lt]
    constructor <;> linarith
  have equal : s.roundEven - ms = 0 := by
    rw [← Int.cast_abs] at back
    have : |s.roundEven - ms| < 1 := by exact_mod_cast back
    exact Int.abs_lt_one_iff.mp this
  unfold Instant.millis
  simp only [thousand, product, sParts]
  omega

theorem ofMillis_instant_millis {ms : Int} {m : Moment} (split : Moment.ofMillis ms = .ok m) :
    m.instant.millis = ms :=
  millis_of_near (ofMillis_small split) (ofMillis_instant_near split)

end Reading

end FieldCalc.Calendar
