import FieldCalc.Proofs.Number.Quantize
import FieldCalc.Formula.Eval

/-!
# Rounding to places

`ROUND(x, n)` rounds the decimal that `x` is written as, its digits or the
shortest text of a float, to a multiple of `10^-n`, a half going away from
zero, and converts the result back to a number (`roundNumber_eq`). A tie is
decided on the decimal text, not on the binary value of a float. The rounding
runs in the 28-digit decimal context and is not total: an integer `x` must
have at most `Number.maxStrDigits` digits to be written, the scale `10^-n` has
to exist, so `|n|` is at most `maxShift` and `-n` at most `maxExponent`, and
the rounded coefficient has to fit in `precision` digits. For `n` at least the
number of decimals of `x` nothing is rounded away, and `ROUND(x, n)` gives `x`
back exactly when the digits of `x` and the `n` places together fit in
`precision` digits (`roundNumber_of_places`).
-/

namespace FieldCalc

theorem Number.toDecimal_range {x : Number} (storable : x.Storable) :
    -400 ≤ (x.toDecimal.digitCount : Int) + x.toDecimal.exp ∧ x.toDecimal.exp ≤ 400 := by
  cases x with
  | int k => simp [Number.toDecimal, Decimal.ofInt]
  | float x =>
    obtain ⟨p, parts, nonzero, -, rounds⟩ := toDecimal_float_roundsTo storable.1 storable.2
    obtain ⟨-, high, low⟩ := Binary.Decimal.in_range_of_roundsTo (Binary.parts?_spec parts).1 nonzero rounds
    exact ⟨by unfold Decimal.digitCount Binary.decimalLength; omega, high⟩

end FieldCalc

namespace FieldCalc.Formula

open Decimal

theorem decimalValue_of_value {x : Number} (storable : x.Storable) {d : Decimal}
    (same : d.value = x.toDecimal.value) : decimalValue d = .ok (.number x) := by
  unfold decimalValue
  rw [normalizeDecimal_congr same.symm (normalizeDecimal_toDecimal storable)]
  rfl

/-- `ROUND` to `n` places rounds the decimal of the number half away from zero
to the exponent `-n`, or to the smallest exponent when `-n` is below it, and
converts the result; it fails when the number has too many digits to be
written, the scale `10^-n` is out of range or the rounded coefficient needs
more than `precision` digits. -/
theorem roundNumber_eq (x : Number) (n : Int) :
    roundNumber x n =
      if x.fitsText = false then .error .digitLimit
      else if maxShift < n.natAbs then .error (.decimal .invalidOperation)
      else if maxExponent < -n then .error (.decimal .overflow)
      else if 10 ^ precision ≤ unitsHalfAway x.toDecimal.value (max (-n) tinyExponent) then
        .error (.decimal .invalidOperation)
      else decimalValue ⟨x.toDecimal.neg, unitsHalfAway x.toDecimal.value (max (-n) tinyExponent),
        max (-n) tinyExponent⟩ := by
  have ordered : tinyExponent < maxExponent := by decide
  unfold roundNumber
  cases fits : x.fitsText
  · simp [Number.decimalOfText, fits, bind, Except.bind]
  rw [Number.decimalOfText_of_fitsText fits, if_neg (by decide), unitScale_eq,
    Int.natAbs_neg]
  dsimp only [bind, Except.bind]
  by_cases shift : maxShift < n.natAbs
  · rw [if_pos shift, if_pos shift]
  by_cases large : maxExponent < -n
  · rw [if_neg shift, if_pos large, if_neg shift, if_pos large]
  rw [if_neg shift, if_neg large, if_neg shift, if_neg large]
  dsimp only [bind, Except.bind, pure, Except.pure]
  rw [quantizeHalfUp_eq (s := ⟨false, _, max (-n) tinyExponent⟩)
    ⟨le_max_right _ _, max_le (by omega) ordered.le⟩]
  split_ifs <;> rfl

/-- Rounding a storable number to at least as many places as it has decimals
gives it back when its digits and the places fit in `precision` digits, or
when it is zero and the scale exists; otherwise the rounding is invalid. -/
theorem roundNumber_of_places {x : Number} (storable : x.Storable) {n : Int}
    (places : -x.toDecimal.exp ≤ n) :
    roundNumber x n =
      if (x.toDecimal.digitCount : Int) + x.toDecimal.exp + n ≤ precision ∨
          x.toDecimal.coeff = 0 ∧ n ≤ maxShift
      then .ok (.number x) else .error (.decimal .invalidOperation) := by
  obtain ⟨low, high⟩ := Number.toDecimal_range storable
  have limits : maxShift = 2000054 ∧ maxExponent = 999999 ∧ tinyExponent = -1000026 ∧
      precision = 28 := ⟨rfl, rfl, rfl, rfl⟩
  rw [roundNumber_eq, if_neg (by simp [storable.fitsText]), if_neg (show ¬maxExponent < -n by omega)]
  by_cases zero : x.toDecimal.coeff = 0
  · rw [units_of_zero _ zero, if_neg (Nat.not_le.mpr (Nat.pow_pos (by decide)))]
    by_cases shift : maxShift < n.natAbs
    · rw [if_pos shift, if_neg (by omega)]
    · rw [if_neg shift, if_pos (Or.inr ⟨zero, by omega⟩)]
      exact decimalValue_of_value storable (by simp [value, zero])
  by_cases fits : (x.toDecimal.digitCount : Int) + x.toDecimal.exp + n ≤ precision
  · -- the places are few enough for `-n` to be the exponent rounded to
    have exact : max (-n) tinyExponent = -n := max_eq_left (by omega)
    have le : -n ≤ x.toDecimal.exp := by omega
    rw [if_neg (show ¬maxShift < n.natAbs by omega), exact,
      if_neg (Nat.not_le.mpr ((units_lt_iff_of_le _ le zero).mpr (by omega))), if_pos (Or.inl fits)]
    exact decimalValue_of_value storable (value_units_of_le _ le)
  · have wide : 10 ^ precision ≤ unitsHalfAway x.toDecimal.value (max (-n) tinyExponent) :=
      units_ge_of_wide _ zero (by rw [Int.max_def]; split <;> omega)
    rw [if_neg (not_or.mpr ⟨fits, fun small => zero small.1⟩), if_pos wide, ite_self]

theorem applyEager_round (ctx : Context) (x : Number) {p : Value} {n : Int}
    (places : toInteger p "ROUND" = .ok n) :
    applyEager ctx .round [.number x, p] = roundNumber x n := by
  simp only [applyEager, places, toNumber, bind, Except.bind]

/-- `ROUND(x, n)` is the decimal of `x` rounded half away from zero to the
exponent `-n` (or the smallest exponent), converted, unless `x` has too many
digits to be written, the scale is out of range or the result needs more than
`precision` digits; for `n` at least
the decimals of a storable `x` it is `x` itself exactly when the digits and
places fit, and `ROUND(x)` is `ROUND(x, 0)`. -/
theorem round_half_away_in_context (ctx : Context) (x : Number) (p : Value) {n : Int}
    (places : toInteger p "ROUND" = .ok n) :
    applyEager ctx .round [.number x, p] =
      (if x.fitsText = false then .error .digitLimit
      else if maxShift < n.natAbs then .error (.decimal .invalidOperation)
      else if maxExponent < -n then .error (.decimal .overflow)
      else if 10 ^ precision ≤ unitsHalfAway x.toDecimal.value (max (-n) tinyExponent) then
        .error (.decimal .invalidOperation)
      else decimalValue ⟨x.toDecimal.neg, unitsHalfAway x.toDecimal.value (max (-n) tinyExponent),
        max (-n) tinyExponent⟩) ∧
    (⟨x.toDecimal.neg, unitsHalfAway x.toDecimal.value (max (-n) tinyExponent),
        max (-n) tinyExponent⟩ : Decimal).value =
      roundHalfAway x.toDecimal.value (max (-n) tinyExponent) ∧
    (x.Storable → -x.toDecimal.exp ≤ n →
      applyEager ctx .round [.number x, p] =
        if (x.toDecimal.digitCount : Int) + x.toDecimal.exp + n ≤ precision ∨
            x.toDecimal.coeff = 0 ∧ n ≤ maxShift
        then .ok (.number x) else .error (.decimal .invalidOperation)) ∧
    applyEager ctx .round [.number x] = applyEager ctx .round [.number x, .number (.int 0)] := by
  refine ⟨?_, value_halfAway _ _, fun storable decimals => ?_, ?_⟩
  · rw [applyEager_round ctx x places, roundNumber_eq]
  · rw [applyEager_round ctx x places, roundNumber_of_places storable decimals]
  · rw [applyEager_round ctx x rfl]
    rfl

/-- `ROUND(7, 2)` is `7`. -/
theorem round_half_away_in_context_seven :
    toInteger (.number (.int 2)) "ROUND" = .ok 2 ∧
      applyEager { now := 0 } .round [.number (.int 7), .number (.int 2)] = .ok (.number (.int 7)) := by
  refine ⟨rfl, ?_⟩
  rw [(round_half_away_in_context { now := 0 } (.int 7) (.number (.int 2)) rfl).2.2.1
    (by decide) (by decide), if_pos (by decide)]

/-- `ROUND(1, 30)` fails: thirty places after the single digit need 31 digits. -/
theorem round_one_thirty_places_invalid :
    applyEager { now := 0 } .round [.number (.int 1), .number (.int 30)] =
      .error (.decimal .invalidOperation) := by
  rfl

end FieldCalc.Formula
