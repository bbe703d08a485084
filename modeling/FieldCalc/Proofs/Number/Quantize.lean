import FieldCalc.Proofs.Number.Conversion
import FieldCalc.Proofs.Number.FloatReading
import Mathlib.Algebra.Order.Floor.Semifield
import Mathlib.Data.Rat.Floor

/-!
# Rounding to an exponent

`quantize` with half-up rounding takes a decimal to a multiple of `10^e`, a
half going away from zero. The number of units of `10^e` it keeps is the
floor of `|value| · 10^-e + 1/2` (`unitsHalfAway`) on either side of the
decimal's own exponent: at or below it the coefficient is shifted left, above
it the coefficient is divided and rounded half up (`floor_add_half`). The
rounding fails exactly when those units need more than `precision` digits
(`quantizeHalfUp_eq`); the check of the digits before rounding only foresees
that failure. The scale `unitScale k` exists for shifts up to `maxShift` and
exponents up to `maxExponent`, and collapses to the smallest exponent below
it (`unitScale_eq`).
-/

namespace FieldCalc.Decimal

def unitsHalfAway (q : ℚ) (e : Int) : Nat := ⌊|q| * 10 ^ (-e) + 1 / 2⌋₊

def roundHalfAway (q : ℚ) (e : Int) : ℚ := (if q < 0 then -1 else 1) * unitsHalfAway q e * 10 ^ e

theorem floor_half : ⌊(1 / 2 : ℚ)⌋₊ = 0 := Nat.floor_eq_zero.mpr (by norm_num)

theorem floor_natCast_add_half (N : Nat) : ⌊(N : ℚ) + 1 / 2⌋₊ = N :=
  (Nat.floor_eq_iff (by positivity)).mpr ⟨by linarith, by linarith⟩

/-- Rounding half up of a ratio of naturals, as `quantize` computes it: the
quotient, one more when twice the remainder reaches the divisor. -/
theorem floor_add_half (c D : Nat) (pos : 0 < D) :
    ⌊(c : ℚ) / D + 1 / 2⌋₊ = if 2 * (c % D) ≥ D then c / D + 1 else c / D := by
  have ratio : (c : ℚ) / D + 1 / 2 = ((2 * c + D : Nat) : ℚ) / ((2 * D : Nat) : ℚ) := by
    have : (D : ℚ) ≠ 0 := by exact_mod_cast pos.ne'
    field_simp
    push_cast
    ring
  rw [ratio, Nat.floor_div_eq_div]
  -- split off the whole quotient; the rest is below three halves of the divisor
  have split : 2 * c + D = 2 * D * (c / D) + (2 * (c % D) + D) := by
    have := Nat.div_add_mod c D
    nlinarith
  have below := Nat.mod_lt c pos
  rw [split, Nat.mul_add_div (show 2 * D > 0 by omega)]
  split
  next half =>
    rw [show (2 * (c % D) + D) / (2 * D) = 1 from Nat.div_eq_of_lt_le (by omega) (by omega)]
  next low => rw [Nat.div_eq_of_lt (show 2 * (c % D) + D < 2 * D by omega), Nat.add_zero]

section Units

variable (d : Decimal) {e : Int}

theorem units_eq (e : Int) : unitsHalfAway d.value e = ⌊d.magnitude * 10 ^ (-e) + 1 / 2⌋₊ := by
  rw [unitsHalfAway, abs_value]

theorem units_of_zero (zero : d.coeff = 0) (e : Int) : unitsHalfAway d.value e = 0 := by
  rw [units_eq, (magnitude_eq_zero_iff d).mpr zero, zero_mul, zero_add, floor_half]

theorem units_of_le (le : e ≤ d.exp) :
    unitsHalfAway d.value e = d.coeff * Nat.pow 10 (d.exp - e).toNat := by
  have power : (10 : ℚ) ^ d.exp * 10 ^ (-e) = ((Nat.pow 10 (d.exp - e).toNat : Nat) : ℚ) := by
    rw [← zpow_add₀ (by norm_num), ← zpow_ten_nonneg (by omega), sub_eq_add_neg]
  rw [units_eq, magnitude, mul_assoc, power, ← Nat.cast_mul, floor_natCast_add_half]

theorem units_of_lt (lt : d.exp < e) :
    unitsHalfAway d.value e =
      if 2 * (d.coeff % Nat.pow 10 (e - d.exp).toNat) ≥ Nat.pow 10 (e - d.exp).toNat
      then d.coeff / Nat.pow 10 (e - d.exp).toNat + 1 else d.coeff / Nat.pow 10 (e - d.exp).toNat := by
  have power : (10 : ℚ) ^ d.exp * 10 ^ (-e) = 1 / ((Nat.pow 10 (e - d.exp).toNat : Nat) : ℚ) := by
    rw [← zpow_add₀ (by norm_num), zpow_ten_neg (by omega), neg_add, neg_neg, add_comm,
      ← sub_eq_add_neg]
  rw [units_eq, magnitude, mul_assoc, power, mul_one_div,
    floor_add_half d.coeff (Nat.pow 10 (e - d.exp).toNat) (Nat.pow_pos (by decide))]

theorem coeff_lt_digits : d.coeff < 10 ^ d.digitCount :=
  (Nat.length_repr_le_iff (Binary.repr_length_pos d.coeff)).mp le_rfl

theorem digits_le_coeff (nonzero : d.coeff ≠ 0) : 10 ^ (d.digitCount - 1) ≤ d.coeff := by
  by_cases one : d.digitCount = 1
  · rw [one]; omega
  · have several : 0 < d.digitCount - 1 := by
      have := Binary.repr_length_pos d.coeff
      unfold digitCount Binary.decimalLength at one ⊢
      omega
    refine Nat.not_lt.mp fun small => ?_
    have short := (Nat.length_repr_le_iff several).mpr small
    unfold digitCount Binary.decimalLength at short several
    omega

/-- Shifted left, the coefficient stays below `10^precision` exactly when its
digits and the shift together are at most `precision`. -/
theorem units_lt_iff_of_le (le : e ≤ d.exp) (nonzero : d.coeff ≠ 0) :
    unitsHalfAway d.value e < 10 ^ precision ↔ (d.digitCount : Int) + (d.exp - e) ≤ precision := by
  rw [units_of_le d le, Nat.pow_eq]
  have below := coeff_lt_digits d
  have above := digits_le_coeff d nonzero
  constructor
  · intro fits
    by_contra wide
    have : 10 ^ precision ≤ 10 ^ (d.digitCount - 1) * 10 ^ (d.exp - e).toNat := by
      rw [← Nat.pow_add]
      exact Nat.pow_le_pow_right (by decide) (by omega)
    exact absurd fits (not_lt.mpr (this.trans (Nat.mul_le_mul_right _ above)))
  · intro fits
    calc d.coeff * 10 ^ (d.exp - e).toNat < 10 ^ d.digitCount * 10 ^ (d.exp - e).toNat :=
          Nat.mul_lt_mul_of_pos_right below (Nat.pow_pos (by decide))
      _ = 10 ^ (d.digitCount + (d.exp - e).toNat) := (Nat.pow_add _ _ _).symm
      _ ≤ 10 ^ precision := Nat.pow_le_pow_right (by decide) (by omega)

theorem units_ge_of_lt (lt : d.exp < e) (nonzero : d.coeff ≠ 0)
    (wide : (precision : Int) < d.digitCount + (d.exp - e)) :
    10 ^ precision ≤ unitsHalfAway d.value e := by
  have shifted : 10 ^ precision * Nat.pow 10 (e - d.exp).toNat ≤ d.coeff := by
    rw [Nat.pow_eq, ← Nat.pow_add]
    exact (Nat.pow_le_pow_right (by decide) (by omega)).trans (digits_le_coeff d nonzero)
  have quotient : 10 ^ precision ≤ d.coeff / Nat.pow 10 (e - d.exp).toNat :=
    (Nat.le_div_iff_mul_le (Nat.pow_pos (by decide))).mpr shifted
  rw [units_of_lt d lt]
  split <;> omega

theorem units_ge_of_wide (nonzero : d.coeff ≠ 0)
    (wide : (precision : Int) < d.digitCount + (d.exp - e)) :
    10 ^ precision ≤ unitsHalfAway d.value e := by
  by_cases le : e ≤ d.exp
  · exact Nat.not_lt.mp fun fits => by
      have := (units_lt_iff_of_le d le nonzero).mp fits
      omega
  · exact units_ge_of_lt d (by omega) nonzero wide

end Units

variable {x s : Decimal}

/-- `quantize` to an exponent in range is the value rounded half away from
zero to that exponent, unless the rounded coefficient needs more than
`precision` digits. -/
theorem quantizeHalfUp_eq (inRange : tinyExponent ≤ s.exp ∧ s.exp ≤ maxExponent) :
    quantizeHalfUp x s =
      if 10 ^ precision ≤ unitsHalfAway x.value s.exp then .error .invalidOperation
      else .ok ⟨x.neg, unitsHalfAway x.value s.exp, s.exp⟩ := by
  unfold quantizeHalfUp
  dsimp only
  rw [if_neg (by simp; omega)]
  split
  next zero =>
    have zero : x.coeff = 0 := by simpa using zero
    rw [units_of_zero x zero, if_neg (Nat.not_le.mpr (Nat.pow_pos (by decide)))]
  next nonzero =>
    have nonzero : x.coeff ≠ 0 := by simpa using nonzero
    split
    next wide =>
      rw [if_pos (units_ge_of_wide x nonzero (by omega))]
    next fits =>
      split
      next le =>
        rw [if_neg (Nat.not_le.mpr ((units_lt_iff_of_le x le nonzero).mpr (by omega))),
          units_of_le x le]
      next above =>
        have digits (q : Nat) : Binary.decimalLength q > precision ↔ 10 ^ precision ≤ q := by
          rw [gt_iff_lt, ← Nat.not_le, Binary.decimalLength,
            Nat.length_repr_le_iff (by decide : 0 < precision), Nat.not_lt]
        rw [units_of_lt x (by omega)]
        simp only [digits]

theorem value_halfAway (d : Decimal) (e : Int) :
    (⟨d.neg, unitsHalfAway d.value e, e⟩ : Decimal).value = roundHalfAway d.value e := by
  unfold roundHalfAway
  by_cases zero : d.coeff = 0
  · rw [units_of_zero d zero]
    simp [value]
  · have positive := magnitude_pos zero
    rw [value, value_eq]
    cases d.neg
    · simp [not_lt.mpr positive.le]
    · simp [positive]

theorem value_units_of_le (d : Decimal) {e : Int} (le : e ≤ d.exp) :
    (⟨d.neg, unitsHalfAway d.value e, e⟩ : Decimal).value = d.value := by
  rw [units_of_le d le]
  unfold value
  have power : ((Nat.pow 10 (d.exp - e).toNat : Nat) : ℚ) * 10 ^ e = 10 ^ d.exp := by
    rw [← zpow_ten_nonneg (by omega), ← zpow_add₀ (by norm_num), sub_add_cancel]
  simp only [Nat.cast_mul]
  split <;> rw [← power] <;> ring

theorem unitScale_eq (k : Int) :
    unitScale k =
      if maxShift < k.natAbs then .error .invalidOperation
      else if maxExponent < k then .error .overflow
      else .ok ⟨false, if k < tinyExponent then 0 else 1, max k tinyExponent⟩ := by
  unfold unitScale
  split_ifs with shift large tiny
  · rfl
  · rfl
  · rw [max_eq_right tiny.le]
  · rw [max_eq_left (not_lt.mp tiny)]

end FieldCalc.Decimal
