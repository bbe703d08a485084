import FieldCalc.Proofs.Number.Nearest
import FieldCalc.Proofs.Value.RoundTrip

/-!
# Moving moments by days

A whole number of days moves a moment by that many days of milliseconds,
exactly: `{a} + d`, `{a} - (-d)` and `DATE_ADD(a, d)` all give the moment
`a + d · 86,400,000` (`add_days`, `subtract_days`, `dateAdd_days`), unless
that count reaches the threshold from which floats overflow
(`Binary.overflowThreshold`), where the move fails as arithmetic. Going back,
the difference of two moments is the float nearest to their distance in days:
a whole number of days below `2^53` comes back as itself, and nothing else does
(`subtract_moved_iff`). `DAYS_BETWEEN` takes the ceiling of that float; for
moments less than `2^53` milliseconds apart, which all moments of years 1 to
9999 are, the float is close enough to keep the exact ceiling of the distance
(`daysBetween_eq_ceil`), and a move by fewer than `2^53` days is counted back
exactly (`daysBetween_moved`).
-/

namespace FieldCalc.Formula

open Binary

section Moves

variable (a d : Int)

theorem add_days : add (.timestamp a) (.number (.int d)) =
    if overflowThreshold ≤ ((a + d * msPerDay).natAbs : ℚ) then .error (.arithmetic .intTooLarge)
    else .ok (.timestamp (a + d * msPerDay)) := by
  simp only [← ofInt_isInf_iff]
  show shiftDays a (.int d) = _
  unfold shiftDays
  cases infinite : (ofInt (a + d * msPerDay)).isInf <;>
    simp [Number.toFloat, infinite, arith, bind, Except.bind, pure, Except.pure]

theorem subtract_days :
    subtract (.timestamp a) (.number (.int d)) = add (.timestamp a) (.number (.int (-d))) :=
  rfl

theorem dateAdd_days (ctx : Context) :
    applyEager ctx .dateAdd [.timestamp a, .number (.int d)] = add (.timestamp a) (.number (.int d)) :=
  rfl

end Moves

theorem normalizeNumber_ofInt {k : Int} (small : k.natAbs < 2 ^ 53) :
    normalizeNumber (.float (ofInt k)) = .ok (.int k) := by
  obtain ⟨p, parts, -, -⟩ := parts?_ofInt small
  simp [normalizeNumber, Number.normalize, isFinite_of_parts parts, exactInt?_ofInt small]

theorem div_day_of_small {d : Int} (small : d.natAbs < 2 ^ 53) :
    (Number.int (d * msPerDay)).div (.int msPerDay) = .ok (.float (ofInt d)) := by
  obtain ⟨p, parts, -, -⟩ := parts?_ofInt small
  have quotient := @ofFraction_mul_div d 86400000 (by norm_num) small
  simp only [Nat.cast_ofNat] at quotient
  have day : Int.natAbs 86400000 = 86400000 := rfl
  simp only [Number.div, msPerDay, show decide ((86400000 : Int) < 0) = false from rfl, Bool.bne_false,
    day, quotient, isInf_of_parts parts]
  rfl

/-- The days between a moment and the moment `d` days later: the float of `d`,
normalized; exactly `d` when `|d| < 2^53`, and never `d` otherwise. -/
theorem subtract_moved_iff (a d : Int) :
    subtract (.timestamp (a + d * msPerDay)) (.timestamp a) = .ok (.number (.int d)) ↔
      d.natAbs < 2 ^ 53 := by
  have difference : a + d * msPerDay - a = d * msPerDay := by omega
  show (do Value.ofNumber (← arith ((Number.int (a + d * msPerDay - a)).div (.int msPerDay)))) = _ ↔ _
  rw [difference]
  constructor
  · intro moved
    cases quotient : (Number.int (d * msPerDay)).div (.int msPerDay) with
    | error e => simp [quotient, arith, bind, Except.bind] at moved
    | ok q =>
      cases q with
      | int n => simp [Number.div, msPerDay] at quotient; split at quotient <;> cases quotient
      | float x =>
        simp only [quotient, arith, bind, Except.bind, Value.ofNumber, pure, Except.pure] at moved
        cases stored : normalizeNumber (.float x) with
        | error e => simp [stored] at moved
        | ok m =>
          simp only [stored, Except.ok.injEq, Value.number.injEq] at moved
          exact natAbs_lt_of_normalizeNumber (moved ▸ stored)
  · intro small
    simp only [div_day_of_small small, arith, bind, Except.bind, Value.ofNumber,
      normalizeNumber_ofInt small, pure, Except.pure]

theorem daysBetween_of_parts (ctx : Context) (a b : Int) {p : Parts}
    (parts : parts? (ofFraction false (b - a).natAbs 86400000) = some p) :
    applyEager ctx .daysBetween [.timestamp a, .timestamp b] = .ok (.number (.int p.ceil)) := by
  have day : Int.natAbs 86400000 = 86400000 := rfl
  have nonneg : decide (((b - a).natAbs : Int) < 0) = false := decide_eq_false (by omega)
  simp only [applyEager, dateArg, Number.div, msPerDay, Number.ceil, Number.floatToInt, arith, bind,
    Except.bind, pure, Except.pure, Value.ofNumber, normalizeNumber, Number.normalize, nonneg,
    show decide ((86400000 : Int) < 0) = false from rfl, Bool.bne_false, Int.natAbs_natCast, day,
    isInf_of_parts parts, Bool.false_eq_true, ite_false, parts]

theorem daysBetween_eq_ceil (ctx : Context) (a b : Int) (near : (b - a).natAbs < 2 ^ 53) :
    applyEager ctx .daysBetween [.timestamp a, .timestamp b] =
      .ok (.number (.int ⌈((b - a).natAbs : ℚ) / 86400000⌉)) := by
  obtain ⟨p, parts, ceiling⟩ :=
    @ceil_ofFraction (b - a).natAbs 86400000 (by norm_num) (by norm_num) (by omega)
  rw [daysBetween_of_parts ctx a b parts, ceiling, Nat.cast_ofNat]

theorem daysBetween_moved (ctx : Context) (a d : Int) (small : d.natAbs < 2 ^ 53) :
    applyEager ctx .daysBetween [.timestamp a, .timestamp (a + d * msPerDay)] =
      .ok (.number (.int d.natAbs)) := by
  have smallAbs : (d.natAbs : Int).natAbs < 2 ^ 53 := by rw [Int.natAbs_natCast]; exact small
  obtain ⟨p, parts, sign, value⟩ := parts?_ofInt smallAbs
  -- the distance is `|d|` days, and a whole number of days divides back exactly
  have quotient := @ofFraction_mul_div (d.natAbs : Int) 86400000 (by norm_num) smallAbs
  have distance : (a + d * msPerDay - a).natAbs = ((d.natAbs : Int) * ((86400000 : Nat) : Int)).natAbs := by
    simp only [msPerDay]
    omega
  have nonneg : decide ((d.natAbs : Int) * ((86400000 : Nat) : Int) < 0) = false :=
    decide_eq_false (by omega)
  rw [nonneg, ← distance] at quotient
  rw [← quotient] at parts
  rw [daysBetween_of_parts ctx a _ parts]
  have positive : p.neg = false := by rw [sign]; exact decide_eq_false (by omega)
  rw [Int.natAbs_natCast] at value
  rw [Parts.ceil_eq_of_between positive (by rw [value]; linarith) value.le]

/-- Date arithmetic by whole days: `{a} + d` is the moment `d` days later, or
an overflow when its count has no float reading, `{a} - d` is `{a} + (-d)` and `DATE_ADD(a, d)` is `{a} + d`; `({a} + d) - {a}`
is `d` exactly when `|d| < 2^53`, and then `DAYS_BETWEEN(a, {a} + d)` is `|d|`;
and `DAYS_BETWEEN(a, b)` is the exact ceiling of `|b - a| / 86,400,000` for
moments less than `2^53` milliseconds apart. -/
theorem moment_days_consistent (ctx : Context) (a b d : Int) :
    add (.timestamp a) (.number (.int d)) =
        (if overflowThreshold ≤ ((a + d * msPerDay).natAbs : ℚ) then .error (.arithmetic .intTooLarge)
        else .ok (.timestamp (a + d * msPerDay))) ∧
      subtract (.timestamp a) (.number (.int d)) = add (.timestamp a) (.number (.int (-d))) ∧
      applyEager ctx .dateAdd [.timestamp a, .number (.int d)] = add (.timestamp a) (.number (.int d)) ∧
      (subtract (.timestamp (a + d * msPerDay)) (.timestamp a) = .ok (.number (.int d)) ↔
        d.natAbs < 2 ^ 53) ∧
      (d.natAbs < 2 ^ 53 → applyEager ctx .daysBetween [.timestamp a, .timestamp (a + d * msPerDay)] =
        .ok (.number (.int d.natAbs))) ∧
      ((b - a).natAbs < 2 ^ 53 → applyEager ctx .daysBetween [.timestamp a, .timestamp b] =
        .ok (.number (.int ⌈((b - a).natAbs : ℚ) / 86400000⌉))) :=
  ⟨add_days a d, subtract_days a d, dateAdd_days a d ctx, subtract_moved_iff a d,
    daysBetween_moved ctx a d, daysBetween_eq_ceil ctx a b⟩

/-- A move by three days comes back as three days, and moments 90,000,000
milliseconds apart are two days apart, rounded up. -/
theorem moment_days_consistent_threeDays :
    (3 : Int).natAbs < 2 ^ 53 ∧ (90000000 - 0 : Int).natAbs < 2 ^ 53 ∧
      subtract (.timestamp (0 + 3 * msPerDay)) (.timestamp 0) = .ok (.number (.int 3)) ∧
      applyEager { now := 0 } .daysBetween [.timestamp 0, .timestamp 90000000] =
        .ok (.number (.int 2)) := by
  obtain ⟨-, -, -, back, -, between⟩ := moment_days_consistent { now := 0 } 0 90000000 3
  refine ⟨by decide, by decide, back.mpr (by decide), ?_⟩
  rw [between (by decide)]
  have ceiling : ⌈(((90000000 - 0 : Int).natAbs : Nat) : ℚ) / 86400000⌉ = 2 := by
    rw [Int.ceil_eq_iff]
    norm_num
  rw [ceiling]

/-- `2^53 + 1` days are not counted back: the difference of the moments is the
float `2^53`. -/
theorem moment_difference_rounds_days :
    add (.timestamp 0) (.number (.int (2 ^ 53 + 1))) = .ok (.timestamp ((2 ^ 53 + 1) * msPerDay)) ∧
      subtract (.timestamp ((2 ^ 53 + 1) * msPerDay)) (.timestamp 0) =
        .ok (.number (.float (ofInt (2 ^ 53)))) ∧
      subtract (.timestamp ((2 ^ 53 + 1) * msPerDay)) (.timestamp 0) ≠
        .ok (.number (.int (2 ^ 53 + 1))) := by
  have difference : subtract (.timestamp ((2 ^ 53 + 1) * msPerDay)) (.timestamp 0) =
      .ok (.number (.float (ofInt (2 ^ 53)))) := rfl
  have moved : add (.timestamp 0) (.number (.int (2 ^ 53 + 1))) =
      .ok (.timestamp (0 + (2 ^ 53 + 1) * msPerDay)) := by
    have small : ((0 + (2 ^ 53 + 1) * msPerDay).natAbs : ℚ) < 2 ^ 80 := by norm_num [msPerDay]
    rw [add_days, if_neg (not_le.mpr (lt_overflowThreshold_of_pow small (by norm_num)))]
  refine ⟨by rw [moved, zero_add], difference, fun counted => ?_⟩
  rw [difference] at counted
  cases counted

end FieldCalc.Formula
