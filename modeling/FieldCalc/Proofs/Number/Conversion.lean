import FieldCalc.Proofs.Number.Rounding
import FieldCalc.Proofs.Number.DecimalSum
import FieldCalc.Proofs.Number.StoredForm

/-!
# Conversion by value

`normalizeDecimal` reads a decimal as the number of its value: decimals that
differ only in their exponent, such as `2.50` and `2.5`, convert alike
(`normalizeDecimal_congr`). Whether a decimal is a small integer depends only
on its magnitude, and so does its float: `ofFraction` gives the same float for
two ratios of one value (`ofFraction_congr`), since the normal exponent is the
unique one that places the ratio in its binade and the rounding of the scaled
ratio is unchanged by scaling numerator and denominator alike.
-/

namespace FieldCalc.Binary

theorem divRoundEven_mul (n d : Nat) {k : Nat} (pos : 0 < k) :
    divRoundEven (n * k) (d * k) = divRoundEven n d := by
  unfold divRoundEven
  rw [Nat.mul_div_mul_right _ _ pos, Nat.mul_mod_mul_right]
  have below : 2 * (n % d * k) < d * k ↔ 2 * (n % d) < d := by
    rw [← Nat.mul_assoc]; exact Nat.mul_lt_mul_right pos
  have above : 2 * (n % d * k) > d * k ↔ 2 * (n % d) > d := by
    rw [← Nat.mul_assoc]; exact Nat.mul_lt_mul_right pos
  simp only [below, above]

theorem divRoundEven_congr {n d n' d' : Nat} (hd : 0 < d) (hd' : 0 < d')
    (ratio : (n : ℚ) / d = n' / d') : divRoundEven n d = divRoundEven n' d' := by
  have cross : n * d' = n' * d := by
    rw [div_eq_div_iff (by exact_mod_cast hd.ne') (by exact_mod_cast hd'.ne')] at ratio
    exact_mod_cast ratio
  rw [← divRoundEven_mul n d hd', cross, Nat.mul_comm d d', divRoundEven_mul n' d' hd]

theorem ofFraction_zero (neg : Bool) (den : Nat) : ofFraction neg 0 den = zero neg := by
  unfold ofFraction
  rw [if_pos (by simp)]

theorem ofFraction_congr (neg : Bool) {num den num' den' : Nat} (hden : 0 < den) (hden' : 0 < den')
    (ratio : (num : ℚ) / den = num' / den') : ofFraction neg num den = ofFraction neg num' den' := by
  by_cases zero : num = 0
  · have zero' : num' = 0 := by
      rw [zero, Nat.cast_zero, zero_div, eq_comm, div_eq_zero_iff] at ratio
      exact_mod_cast ratio.resolve_right (by exact_mod_cast hden'.ne')
    rw [zero, zero', ofFraction_zero, ofFraction_zero]
  · have pos : 0 < num := Nat.pos_of_ne_zero zero
    have pos' : 0 < num' := by
      by_contra none
      rw [show num' = 0 by omega, Nat.cast_zero, zero_div, div_eq_zero_iff] at ratio
      exact_mod_cast ratio.elim (by exact_mod_cast zero) (by exact_mod_cast hden.ne')
    have exponent : normalExponent num den = normalExponent num' den' :=
      normalExponent_eq pos hden (ratio ▸ normalExponent_spec pos' hden')
    have rounded : ∀ e, divRoundEven (scaleFraction num den e).1 (scaleFraction num den e).2 =
        divRoundEven (scaleFraction num' den' e).1 (scaleFraction num' den' e).2 := fun e =>
      divRoundEven_congr (scaleFraction_den_pos hden e) (scaleFraction_den_pos hden' e)
        (by rw [scaleFraction_ratio, scaleFraction_ratio, ratio])
    rw [ofFraction_eq_finish pos hden rfl rfl,
      ofFraction_eq_finish pos' hden' (e := max (normalExponent num den) (-1074)) (by rw [exponent])
        (rounded _).symm]

end FieldCalc.Binary

namespace FieldCalc.Decimal

def magnitude (d : Decimal) : ℚ := d.coeff * 10 ^ d.exp

theorem value_eq (d : Decimal) : d.value = if d.neg then -d.magnitude else d.magnitude := by
  unfold value magnitude
  split <;> ring

theorem magnitude_nonneg (d : Decimal) : 0 ≤ d.magnitude := by
  unfold magnitude; positivity

theorem magnitude_eq_zero_iff (d : Decimal) : d.magnitude = 0 ↔ d.coeff = 0 := by
  unfold magnitude
  constructor
  · intro zero
    rcases mul_eq_zero.mp zero with coeff | power
    · exact_mod_cast coeff
    · exact absurd power (zpow_ne_zero _ (by norm_num))
  · intro zero
    simp [zero]

theorem abs_value (d : Decimal) : |d.value| = d.magnitude := by
  rw [value_eq]
  split
  · rw [abs_neg, abs_of_nonneg (magnitude_nonneg d)]
  · rw [abs_of_nonneg (magnitude_nonneg d)]

theorem magnitude_pos {d : Decimal} (nonzero : d.coeff ≠ 0) : 0 < d.magnitude :=
  lt_of_le_of_ne (magnitude_nonneg d) fun zero => nonzero ((magnitude_eq_zero_iff d).mp zero.symm)

theorem magnitude_congr {a b : Decimal} (same : a.value = b.value) : a.magnitude = b.magnitude := by
  rw [← abs_value, same, abs_value]

theorem sign_magnitude_of_value {a b : Decimal} (same : a.value = b.value) (nonzero : a.coeff ≠ 0) :
    a.neg = b.neg ∧ a.magnitude = b.magnitude := by
  have magnitudes := magnitude_congr same
  have positive := magnitude_pos nonzero
  refine ⟨?_, magnitudes⟩
  rw [value_eq, value_eq, magnitudes] at same
  cases signA : a.neg <;> cases signB : b.neg <;>
    simp only [signA, signB, Bool.false_eq_true, if_true, if_false] at same ⊢ <;> linarith

theorem toFloat_eq_ofFraction (d : Decimal) {num den : Nat} (hden : 0 < den)
    (ratio : (num : ℚ) / den = d.magnitude) : d.toFloat = Binary.ofFraction d.neg num den := by
  unfold toFloat
  split
  next nonneg =>
    refine Binary.ofFraction_congr _ Nat.one_pos hden ?_
    rw [ratio, magnitude, Nat.cast_one, div_one, Nat.cast_mul, Binary.natPow_cast,
      ← zpow_natCast, Int.toNat_of_nonneg nonneg]
    norm_num
  next negative =>
    refine Binary.ofFraction_congr _ (Nat.pow_pos (by decide)) hden ?_
    rw [ratio, magnitude, Binary.natPow_cast, ← zpow_natCast, Int.toNat_of_nonneg (by omega),
      zpow_neg, div_eq_mul_inv]
    norm_num

theorem zpow_ten_neg {e : Int} (negative : e < 0) :
    (10 : ℚ) ^ e = 1 / ((Nat.pow 10 (-e).toNat : Nat) : ℚ) := by
  rw [Binary.natPow_cast, ← zpow_natCast, Int.toNat_of_nonneg (by omega), zpow_neg, one_div, inv_inv]
  norm_num

theorem zpow_ten_nonneg {e : Int} (nonneg : 0 ≤ e) :
    (10 : ℚ) ^ e = ((Nat.pow 10 e.toNat : Nat) : ℚ) := by
  rw [Binary.natPow_cast, ← zpow_natCast, Int.toNat_of_nonneg nonneg]
  norm_num

theorem isIntegral_iff (d : Decimal) : d.isIntegral = true ↔ ∃ N : Nat, d.magnitude = N := by
  unfold isIntegral magnitude
  by_cases nonneg : 0 ≤ d.exp
  · refine ⟨fun _ => ⟨d.coeff * Nat.pow 10 d.exp.toNat, ?_⟩, fun _ => by simp [nonneg]⟩
    rw [zpow_ten_nonneg nonneg, Nat.cast_mul]
  · have positive : 0 < Nat.pow 10 (-d.exp).toNat := Nat.pow_pos (by decide)
    have cast : (0 : ℚ) < (Nat.pow 10 (-d.exp).toNat : Nat) := by exact_mod_cast positive
    simp only [nonneg, decide_false, Bool.false_or, beq_iff_eq]
    rw [zpow_ten_neg (by omega), mul_one_div]
    constructor
    · intro divisible
      refine ⟨d.coeff / Nat.pow 10 (-d.exp).toNat, ?_⟩
      rw [Nat.cast_div (Nat.dvd_of_mod_eq_zero divisible) cast.ne']
    · rintro ⟨N, exact⟩
      rw [div_eq_iff cast.ne'] at exact
      have : d.coeff = N * Nat.pow 10 (-d.exp).toNat := by exact_mod_cast exact
      rw [this, Nat.mul_mod_left]

theorem trunc_eq_value {d : Decimal} (integral : d.isIntegral = true) : (d.trunc : ℚ) = d.value := by
  obtain ⟨N, whole⟩ := (isIntegral_iff d).mp integral
  have part : (if 0 ≤ d.exp then d.coeff * Nat.pow 10 d.exp.toNat
      else d.coeff / Nat.pow 10 (-d.exp).toNat : Nat) = N := by
    unfold magnitude at whole
    split
    next nonneg =>
      rw [zpow_ten_nonneg nonneg] at whole
      exact_mod_cast whole
    next negative =>
      have cast : (0 : ℚ) < (Nat.pow 10 (-d.exp).toNat : Nat) := by
        exact_mod_cast Nat.pow_pos (by decide)
      rw [zpow_ten_neg (by omega), mul_one_div, div_eq_iff cast.ne'] at whole
      have : d.coeff = N * Nat.pow 10 (-d.exp).toNat := by exact_mod_cast whole
      rw [this, Nat.mul_div_cancel _ (by exact_mod_cast cast)]
  unfold trunc
  rw [value_eq, whole]
  dsimp only
  rw [part]
  split <;> simp

theorem toFloat_congr {a b : Decimal} (same : a.value = b.value) (nonzero : a.coeff ≠ 0) :
    a.toFloat = b.toFloat := by
  obtain ⟨signs, magnitudes⟩ := sign_magnitude_of_value same nonzero
  have ratio : ((a.magnitude.num.toNat : Nat) : ℚ) / (a.magnitude.den : Nat) = a.magnitude := by
    have numerator : ((a.magnitude.num.toNat : Nat) : ℚ) = a.magnitude.num := by
      exact_mod_cast Int.toNat_of_nonneg (Rat.num_nonneg.mpr (magnitude_nonneg a))
    rw [numerator]
    exact Rat.num_div_den _
  rw [toFloat_eq_ofFraction a a.magnitude.den_pos ratio,
    toFloat_eq_ofFraction b a.magnitude.den_pos (ratio.trans magnitudes), signs]

theorem isIntegral_congr {a b : Decimal} (same : a.value = b.value) : a.isIntegral = b.isIntegral := by
  rw [Bool.eq_iff_iff, isIntegral_iff, isIntegral_iff, magnitude_congr same]

theorem trunc_congr {a b : Decimal} (same : a.value = b.value) (whole : a.isIntegral = true) :
    a.trunc = b.trunc := by
  have truncs : (a.trunc : ℚ) = b.trunc := by
    rw [trunc_eq_value whole, trunc_eq_value (isIntegral_congr same ▸ whole), same]
  exact_mod_cast truncs

theorem trunc_of_zero {d : Decimal} (zero : d.coeff = 0) : d.isIntegral = true ∧ d.trunc = 0 := by
  have whole : d.isIntegral = true := (isIntegral_iff d).mpr ⟨0, by simp [magnitude, zero]⟩
  have truncZero : (d.trunc : ℚ) = 0 := by
    rw [trunc_eq_value whole]
    simp [value, zero]
  exact ⟨whole, by exact_mod_cast truncZero⟩

end FieldCalc.Decimal

namespace FieldCalc

open Decimal in
/-- The number a decimal is stored as depends only on its value: decimals of
one value that differ in their exponent normalize alike. -/
theorem normalizeDecimal_congr {a b : Decimal} (same : a.value = b.value) {m : Number}
    (normalized : normalizeDecimal (.finite a) = .ok m) : normalizeDecimal (.finite b) = .ok m := by
  have small_iff : (a.isIntegral && a.trunc.natAbs < Nat.pow 2 53) =
      (b.isIntegral && b.trunc.natAbs < Nat.pow 2 53) := by
    by_cases whole : a.isIntegral = true
    · rw [← isIntegral_congr same, ← trunc_congr same whole]
    · rw [← isIntegral_congr same, Bool.eq_false_iff.mpr whole, Bool.false_and, Bool.false_and]
  unfold normalizeDecimal at normalized ⊢
  dsimp only at normalized ⊢
  by_cases small : (a.isIntegral && a.trunc.natAbs < Nat.pow 2 53) = true
  · have whole : a.isIntegral = true := (Bool.and_eq_true _ _ ▸ small).1
    rw [if_pos small] at normalized
    rw [if_pos (small_iff ▸ small), ← trunc_congr same whole]
    exact normalized
  · -- a zero would have been small, so the value is nonzero and the floats agree
    have nonzero : a.coeff ≠ 0 := by
      intro zero
      obtain ⟨whole, truncZero⟩ := trunc_of_zero zero
      simp [whole, truncZero] at small
    rw [if_neg small] at normalized
    rw [if_neg (small_iff ▸ small), ← toFloat_congr same nonzero]
    split at normalized
    · cases normalized
    · rename_i finite
      rw [if_neg finite]
      exact normalized

end FieldCalc
