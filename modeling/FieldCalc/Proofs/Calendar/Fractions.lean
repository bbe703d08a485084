import FieldCalc.Proofs.Number.Arithmetic
import FieldCalc.Proofs.Calendar.WholeSeconds

/-!
# Moments with a fraction of a second

`Moment.ofMillis` divides the milliseconds by a thousand in float arithmetic,
truncates the float seconds and scales what is left to microseconds, again in
float arithmetic. Below `2^48` milliseconds, which holds all of years 1 to
9999, the float seconds lie within an eighth of a millisecond of the exact
ones (`seconds_near`), so they truncate to the whole seconds toward zero when
the milliseconds are not whole seconds (`trunc_of_seconds_near`), and the
scaled fraction is its microseconds to within a thousandth (`micros_near`).
The rounded microseconds then lie within 125 of the fraction of the
milliseconds, a negative fraction borrows a second, and every such moment
splits at its floor seconds (`ofMillis_eq_ofSeconds`); a moment of years 1 to
9999 splits at the date and the day number of its floor day (`ofMillis_spec`).
-/

namespace FieldCalc.Calendar

open Binary

section Seconds

theorem abs_thousandth (ms : Int) : |(ms / 1000 : ℚ)| = ms.natAbs / 1000 := by
  rw [abs_div, Nat.cast_natAbs, Int.cast_abs]
  norm_num

/-- The float count of seconds of milliseconds below `2^48` in magnitude has
their sign and lies within an eighth of a millisecond of their thousandth. -/
theorem seconds_near {ms : Int} (small : ms.natAbs < 2 ^ 48) :
    ∃ p, parts? (ofFraction (decide (ms < 0)) ms.natAbs 1000) = some p ∧ p.neg = decide (ms < 0) ∧
      |p.value - ms / 1000| ≤ 1 / 8000 := by
  by_cases zero : ms = 0
  · subst zero
    refine ⟨⟨false, 0, -1074⟩, by decide, rfl, ?_⟩
    simp [Parts.value]
  have magnitude : (ms.natAbs : ℚ) < 2 ^ 48 := by exact_mod_cast small
  have float := nearest_int_div zero (show 0 < 1000 by norm_num)
  rw [Nat.cast_ofNat] at float
  obtain ⟨p, parts, sign, error⟩ :=
    nearest_error (lt_overflowThreshold (r := (ms / 1000 : ℚ)) (by rw [abs_thousandth]; linarith))
  rw [float] at parts
  refine ⟨p, parts, ?_, ?_⟩
  · have negative : ((ms : ℚ) / 1000 < 0) ↔ ms < 0 := by
      rw [div_lt_iff₀ (by norm_num), zero_mul, Int.cast_lt_zero]
    rw [sign, decide_eq_decide.mpr negative]
  · calc |p.value - ms / 1000| ≤ |(ms / 1000 : ℚ)| / 2 ^ 52 + 2 ^ (-1075 : Int) := error
      _ ≤ 1 / 8000 := by
        have relative : (ms.natAbs / 1000 : ℚ) / 2 ^ 52 ≤ 1 / 16000 := by
          rw [div_div, div_le_div_iff₀ (by positivity) (by norm_num)]
          linarith
        have tiny : (1 : ℚ) / 2 ^ 52 ≤ 1 / 16000 := by norm_num
        rw [abs_thousandth]
        linarith [subnormal_half_le]

theorem trunc_of_seconds_near {ms : Int} {p : Parts} (inexact : ms % 1000 ≠ 0)
    (near : |p.value - ms / 1000| ≤ 1 / 8000) :
    p.trunc = if p.neg then -((ms.natAbs / 1000 : Nat) : Int) else ((ms.natAbs / 1000 : Nat) : Int) := by
  -- the magnitude lies at least a thousandth of a second inside its whole seconds
  have split : (ms.natAbs : ℚ) = 1000 * (ms.natAbs / 1000 : Nat) + (ms.natAbs % 1000 : Nat) := by
    exact_mod_cast (Nat.div_add_mod ms.natAbs 1000).symm
  have low : (1 : ℚ) ≤ (ms.natAbs % 1000 : Nat) := by exact_mod_cast (show 1 ≤ ms.natAbs % 1000 by omega)
  have high : ((ms.natAbs % 1000 : Nat) : ℚ) ≤ 999 := by
    exact_mod_cast (show ms.natAbs % 1000 ≤ 999 by omega)
  have close := (abs_abs_sub_abs_le_abs_sub p.value (ms / 1000)).trans near
  rw [p.abs_value, abs_thousandth, split, abs_le] at close
  exact Parts.trunc_eq_of_between (by linarith) (by linarith)

end Seconds

section Micros

/-- A float of nonzero mantissa times the float of a nonzero whole number below
`2^53` is the nearest float to the product of their values. -/
theorem mul_ofInt_of_parts {x : Float} {p : Parts} (parts : parts? x = some p) (nonzero : p.mantissa ≠ 0)
    {k : Int} (kNonzero : k ≠ 0) (small : k.natAbs < 2 ^ 53) : x * ofInt k = nearest (p.value * k) := by
  obtain ⟨pk, kParts, kSign, kValue⟩ := parts?_ofInt small
  rw [mul_of_parts parts kParts nonzero (Parts.mantissa_ne_zero_of_int kNonzero kValue),
    Parts.value_of_int kSign kValue]

/-- The fraction of finite seconds after whole seconds `w`, a thousandth to a
second away from them, scales in float arithmetic to within a thousandth of
its microseconds. -/
theorem micros_near {x : Float} {p : Parts} (parts : parts? x = some p) {w : Int}
    (small : w.natAbs < 2 ^ 53) (within : |p.value - w| ≤ 1) (far : 1 / 2000 ≤ |p.value - w|) :
    ∃ s, parts? ((x - ofInt w) * 1000000.0) = some s ∧ |s.value - 1000000 * (p.value - w)| ≤ 1 / 1000 := by
  obtain ⟨pw, wParts, wSign, wValue⟩ := parts?_ofInt small
  have wholeValue := Parts.value_of_int wSign wValue
  have nonzero : p.mantissa ≠ 0 ∨ pw.mantissa ≠ 0 := by
    by_contra both
    simp only [not_or, not_not] at both
    have : p.value - w = 0 := by
      rw [← wholeValue, Parts.value_eq_zero both.1, Parts.value_eq_zero both.2, sub_zero]
    rw [this, abs_zero] at far
    norm_num at far
  have difference := sub_of_parts parts wParts nonzero
  rw [wholeValue] at difference
  obtain ⟨f, fParts, fClose⟩ := nearest_error_le within (by norm_num)
  have fNonzero : f.mantissa ≠ 0 := by
    intro zero
    rw [Parts.value_eq_zero zero, zero_sub, abs_neg] at fClose
    have : ((1 : ℚ) + 1) / 2 ^ 52 < 1 / 2000 := by norm_num
    linarith
  have million : (1000000.0 : Float) = ofInt 1000000 := by decide
  have product := mul_ofInt_of_parts fParts fNonzero (k := 1000000) (by norm_num) (by norm_num)
  have fSmall : |f.value| ≤ 2 := by
    have := abs_sub_abs_le_abs_sub f.value (p.value - w)
    have : ((1 : ℚ) + 1) / 2 ^ 52 ≤ 1 := by norm_num
    linarith
  have scaledSmall : |f.value * ((1000000 : Int) : ℚ)| ≤ 2000000 := by
    rw [abs_mul]
    norm_num
    linarith
  obtain ⟨s, sParts, sError⟩ := nearest_error_le scaledSmall (by norm_num)
  refine ⟨s, by rw [difference, million, product]; exact sParts, ?_⟩
  rw [Int.cast_ofNat] at sError
  have scaledError : |f.value * 1000000 - 1000000 * (p.value - w)| ≤ 2000000 / 2 ^ 52 := by
    rw [show f.value * 1000000 - 1000000 * (p.value - w) = 1000000 * (f.value - (p.value - w)) by ring,
      abs_mul, abs_of_pos (show (0 : ℚ) < 1000000 by norm_num)]
    linarith
  calc |s.value - 1000000 * (p.value - w)|
      ≤ |s.value - f.value * 1000000| + |f.value * 1000000 - 1000000 * (p.value - w)| := abs_sub_le _ _ _
    _ ≤ (2000000 + 1) / 2 ^ 52 + 2000000 / 2 ^ 52 := add_le_add sError scaledError
    _ ≤ 1 / 1000 := by norm_num

/-- Float seconds within an eighth of a millisecond of milliseconds that lie 1
to 999 milliseconds away from whole seconds `w` scale, past `w`, to
microseconds that round to within 125 of those milliseconds. -/
theorem rounded_micros_near {ms w : Int} {x : Float} {p : Parts} (parts : parts? x = some p)
    (near : |p.value - ms / 1000| ≤ 1 / 8000) (small : w.natAbs < 2 ^ 53)
    (left : 1 ≤ (ms - 1000 * w).natAbs ∧ (ms - 1000 * w).natAbs ≤ 999) :
    ∃ s, parts? ((x - ofInt w) * 1000000.0) = some s ∧
      (s.roundEven - 1000 * (ms - 1000 * w)).natAbs < 126 := by
  have fraction : (ms / 1000 : ℚ) - w = ((ms - 1000 * w : Int) : ℚ) / 1000 := by
    push_cast
    ring
  have leftLow : (1 : ℚ) ≤ (ms - 1000 * w).natAbs := by exact_mod_cast left.1
  have leftHigh : ((ms - 1000 * w).natAbs : ℚ) ≤ 999 := by exact_mod_cast left.2
  have fractionSize := abs_thousandth (ms - 1000 * w)
  rw [← fraction] at fractionSize
  have within : |p.value - w| ≤ 1 := by
    have := abs_sub_le p.value (ms / 1000 : ℚ) w
    linarith
  have far : 1 / 2000 ≤ |p.value - w| := by
    have := abs_sub_le (ms / 1000 : ℚ) p.value w
    rw [abs_sub_comm (ms / 1000 : ℚ) p.value] at this
    linarith
  obtain ⟨s, sParts, sNear⟩ := micros_near parts small within far
  have rounding := s.roundEven_near
  have micros : |((s.roundEven - 1000 * (ms - 1000 * w) : Int) : ℚ)| < 126 := by
    push_cast
    rw [abs_le] at rounding sNear near
    rw [abs_lt]
    constructor <;> linarith
  refine ⟨s, sParts, ?_⟩
  rw [← Int.cast_abs, ← Nat.cast_natAbs] at micros
  exact_mod_cast micros

end Micros

section Split

/-- Milliseconds below `2^48` that are not whole seconds split at their floor
seconds, with microseconds within 125 of the fraction. -/
theorem ofMillis_inexact {ms : Int} (small : ms.natAbs < 2 ^ 48) (inexact : ms % 1000 ≠ 0) :
    ∃ micro : Nat, ((micro : Int) - 1000 * (ms % 1000)).natAbs ≤ 125 ∧
      Moment.ofMillis ms = Moment.ofSeconds (ms.fdiv 1000) micro := by
  obtain ⟨p, parts, sign, near⟩ := seconds_near small
  have trunc := trunc_of_seconds_near inexact near
  rw [sign] at trunc
  set w : Int := if decide (ms < 0) then -((ms.natAbs / 1000 : Nat) : Int) else ((ms.natAbs / 1000 : Nat) : Int)
    with wDef
  have left : 1 ≤ (ms - 1000 * w).natAbs ∧ (ms - 1000 * w).natAbs ≤ 999 := by
    by_cases negative : ms < 0 <;> simp only [wDef, negative, decide_true, decide_false, if_true,
      Bool.false_eq_true, if_false] <;> omega
  have wSmall : w.natAbs < 2 ^ 53 := by
    by_cases negative : ms < 0 <;> simp only [wDef, negative, decide_true, decide_false, if_true,
      Bool.false_eq_true, if_false] <;> omega
  obtain ⟨s, sParts, microsInt⟩ := rounded_micros_near parts near wSmall left
  generalize rounded : s.roundEven = R at microsInt
  -- the rounded microseconds carry below zero exactly when the milliseconds are negative
  have floorSeconds : ms.fdiv 1000 = ms / 1000 := Int.fdiv_eq_ediv_of_nonneg _ (by decide)
  obtain ⟨micro, bound, carry⟩ : ∃ micro : Nat, ((micro : Int) - 1000 * (ms % 1000)).natAbs ≤ 125 ∧
      (if R ≥ 1000000 then (w + 1, R - 1000000) else if R < 0 then (w - 1, R + 1000000) else (w, R)) =
        (ms.fdiv 1000, (micro : Int)) := by
    rw [floorSeconds]
    by_cases negative : ms < 0 <;>
      simp only [wDef, negative, decide_true, decide_false, if_true, Bool.false_eq_true, if_false] at microsInt ⊢
    · rw [if_neg (by omega), if_pos (by omega)]
      exact ⟨(R + 1000000).toNat, by omega, by simp only [Prod.mk.injEq]; omega⟩
    · rw [if_neg (by omega), if_neg (by omega)]
      exact ⟨R.toNat, by omega, by simp only [Prod.mk.injEq]; omega⟩
  have range : ¬ms.fdiv 1000 < -(Nat.pow 2 63 : Int) ∧ ¬ms.fdiv 1000 ≥ (Nat.pow 2 63 : Int) := by
    rw [floorSeconds, Nat.pow_eq]
    omega
  refine ⟨micro, bound, ?_⟩
  unfold Moment.ofMillis
  simp only [isInf_of_parts parts, parts, trunc, sParts, rounded, Bool.false_eq_true, if_false, carry, range.1,
    range.2, decide_false, Bool.or_false, Int.toNat_natCast]

theorem ofMillis_eq_ofSeconds {ms : Int} (small : ms.natAbs < 2 ^ 48) :
    ∃ micro : Nat, ((micro : Int) - 1000 * (ms % 1000)).natAbs ≤ 125 ∧
      Moment.ofMillis ms = Moment.ofSeconds (ms.fdiv 1000) micro := by
  by_cases inexact : ms % 1000 ≠ 0
  · exact ofMillis_inexact small inexact
  · obtain ⟨N, rfl⟩ : ∃ N, ms = N * 1000 := ⟨ms / 1000, by omega⟩
    have seconds : (N * 1000).fdiv 1000 = N := by
      rw [Int.fdiv_eq_ediv_of_nonneg _ (by decide)]
      omega
    refine ⟨0, by omega, ?_⟩
    rw [seconds, ofMillis_whole (by omega)]

theorem ofSeconds_fields {t : Int} {micro : Nat} {m : Moment} (split : Moment.ofSeconds t micro = .ok m) :
    m.micro = micro ∧ m.dayNumber = t.fdiv 86400 := by
  unfold Moment.ofSeconds at split
  dsimp only at split
  split_ifs at split
  cases split
  exact ⟨rfl, rfl⟩

/-- Milliseconds of years 1 to 9999 split into a date and a time of day on the
clock: the date and the day number of their floor day, a time of day that
counts up to their floor seconds, and microseconds within 125 of their
fraction of a second. -/
theorem ofMillis_spec {ms : Int} (low : 1 ≤ (CivilDate.ofDay (ms.fdiv msPerDay)).year)
    (high : (CivilDate.ofDay (ms.fdiv msPerDay)).year ≤ 9999) :
    ∃ m, Moment.ofMillis ms = .ok m ∧ m.OnClock ∧ m.date = CivilDate.ofDay (ms.fdiv msPerDay) ∧
      m.dayNumber = ms.fdiv msPerDay ∧
      m.date.toDay * 86400 + ((m.hour * 3600 + m.minute * 60 + m.second : Nat) : Int) = ms.fdiv 1000 ∧
      ((m.micro : Int) - 1000 * (ms % 1000)).natAbs ≤ 125 := by
  have bounds := day_bounds_of_year low high
  rw [Int.fdiv_eq_ediv_of_nonneg _ (by decide), msPerDay] at bounds
  obtain ⟨micro, close, split⟩ := @ofMillis_eq_ofSeconds ms (by omega)
  have days : (ms.fdiv 1000).fdiv 86400 = ms.fdiv msPerDay := by
    rw [Int.fdiv_eq_ediv_of_nonneg _ (by decide), Int.fdiv_eq_ediv_of_nonneg _ (by decide),
      Int.fdiv_eq_ediv_of_nonneg _ (by decide), msPerDay]
    omega
  rw [← days] at low high ⊢
  obtain ⟨m, seconds, clock, date, count⟩ := ofSeconds_spec _ micro low high
  obtain ⟨microEq, dayEq⟩ := ofSeconds_fields seconds
  exact ⟨m, split.trans seconds, clock, date, dayEq, count, by rw [microEq]; exact close⟩

end Split

end FieldCalc.Calendar
