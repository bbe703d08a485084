import FieldCalc.Value
import FieldCalc.Proofs.Number.TextReading
import FieldCalc.Proofs.Value.Normal
import Mathlib.Data.Nat.Cast.Field
import Mathlib.Data.Nat.Digits.Defs

/-!
# Numbers through their stored decimal

A number is stored as a decimal, an integer by its digits and a float by its
shortest text, and read back by `normalizeDecimal`. An integer below `2^53` in
magnitude and a float in normal form come back as they were
(`normalizeDecimal_toDecimal`). The digits of a float lie in its rounding
interval (`Parts.shortest_roundsTo`), so they round back to it; and they are
no whole number below `2^53`, since floats there are a unit apart or closer
and the only whole number the interval could hold is the float's own value
(`Parts.value_eq_of_roundsTo`), which would have made it an integer. A
larger integer does not come back: every number a decimal reads as is
storable (`normalizeDecimal_storable`).
-/

namespace FieldCalc

open Binary

section Integral

variable {p : Parts}

theorem Parts.integral_of_value {N : Nat} (value : (p.mantissa : ℚ) * 2 ^ p.exp = N) :
    p.isIntegral = true ∧ p.trunc.natAbs = N := by
  have ratio := scaleFraction_ratio p.mantissa 1 p.exp
  have denominator : 0 < (scaleFraction p.mantissa 1 p.exp).2 := scaleFraction_den_pos Nat.one_pos _
  rw [Nat.cast_one, div_one, value] at ratio
  unfold Parts.isIntegral Parts.trunc
  generalize scaleFraction p.mantissa 1 p.exp = scaled at ratio denominator ⊢
  obtain ⟨a, b⟩ := scaled
  dsimp only at ratio denominator ⊢
  have whole : a = N * b := by
    have : (a : ℚ) = N * b := by
      rw [← ratio]
      field_simp
    exact_mod_cast this
  subst whole
  rw [Nat.mul_mod_left, Nat.mul_div_cancel _ denominator]
  cases p.neg <;> simp

/-- A whole number below `2^53` that rounds to a finite float is its value:
the floats are one apart or closer up to `2^53`, so the rounding interval of
a float holds no other whole number there. -/
theorem Parts.value_eq_of_roundsTo (valid : p.Valid) {N : Nat} (lt : N < 2 ^ 53)
    (rounds : RoundsTo p.mantissa p.exp p.lowGap N) : (p.mantissa : ℚ) * 2 ^ p.exp = N := by
  obtain ⟨low, high⟩ := rounds.bounds
  have gap : (p.lowGap : ℚ) ≤ 2 := by exact_mod_cast p.lowGap_le
  rcases le_or_gt p.exp 0 with wholeUnits | fractionUnits
  · -- in units of `2^e` the number is whole, and within a half of the significand
    have scaled : (N : ℚ) * 2 ^ (-p.exp) = ((N * 2 ^ (-p.exp).toNat : Nat) : ℚ) := by
      rw [Nat.cast_mul, Nat.cast_pow, Nat.cast_ofNat, ← zpow_natCast, Int.toNat_of_nonneg (by omega)]
    rw [scaled] at low high
    have same : N * 2 ^ (-p.exp).toNat = p.mantissa := by
      have below : ((N * 2 ^ (-p.exp).toNat : Nat) : ℚ) < p.mantissa + 1 := by linarith
      have above : (p.mantissa : ℚ) < (N * 2 ^ (-p.exp).toNat : Nat) + 1 := by linarith
      have : N * 2 ^ (-p.exp).toNat < p.mantissa + 1 := by exact_mod_cast below
      have : p.mantissa < N * 2 ^ (-p.exp).toNat + 1 := by exact_mod_cast above
      omega
    rw [← same, Nat.cast_mul, Nat.cast_pow, Nat.cast_ofNat, mul_assoc, ← zpow_natCast,
      ← zpow_add₀ two_ne_zero, Int.toNat_of_nonneg (by omega), neg_add_cancel, zpow_zero, mul_one]
  · -- a normal float of exponent one or more is at least `2^53` less a quarter unit
    exfalso
    have normal := valid.normal_or_least.resolve_right (by omega)
    have unit : (2 : ℚ) ≤ 2 ^ p.exp := by
      calc (2 : ℚ) = 2 ^ (1 : Int) := by norm_num
        _ ≤ 2 ^ p.exp := zpow_le_zpow_right₀ (by norm_num) (by omega)
    have nBelow : (N : ℚ) + 1 ≤ 2 ^ 53 := by exact_mod_cast lt
    have atLeast : (2 : ℚ) ^ 52 - 1 / 4 ≤ p.mantissa - p.lowGap / 4 := by
      by_cases power : p.mantissa = 2 ^ 52
      · have quarter : p.lowGap = 1 := by
          simp only [Parts.lowGap, power, true_and, ite_eq_left_iff, not_lt]
          omega
        rw [power, quarter]
        norm_num
      · have above : (2 : ℚ) ^ 52 + 1 ≤ p.mantissa := by
          have : 2 ^ 52 + 1 ≤ p.mantissa := by omega
          exact_mod_cast this
        linarith
    have scaledBack : (N : ℚ) * 2 ^ (-p.exp) * 2 ^ p.exp = N := by
      rw [mul_assoc, ← zpow_add₀ two_ne_zero, neg_add_cancel, zpow_zero, mul_one]
    have : ((2 : ℚ) ^ 52 - 1 / 4) * 2 ≤ N :=
      calc ((2 : ℚ) ^ 52 - 1 / 4) * 2 ≤ (p.mantissa - p.lowGap / 4) * 2 ^ p.exp :=
            mul_le_mul atLeast unit (by norm_num) (by linarith)
        _ ≤ N * 2 ^ (-p.exp) * 2 ^ p.exp := mul_le_mul_of_nonneg_right low (by positivity)
        _ = N := scaledBack
    linarith

theorem Number.exactInt?_of_whole {x : Float} (parts : parts? x = some p) {N : Nat}
    (lt : N < 2 ^ 53) (value : (p.mantissa : ℚ) * 2 ^ p.exp = N) :
    ∃ k, Number.exactInt? x = some k ∧ k.natAbs = N := by
  obtain ⟨integral, natAbs⟩ := Parts.integral_of_value value
  refine ⟨p.trunc, ?_, natAbs⟩
  simp only [Number.exactInt?, parts, integral, natAbs, Nat.pow_eq, lt, decide_true,
    Bool.and_self, if_true]

theorem Number.exactInt?_small {x : Float} {k : Int} (exact : Number.exactInt? x = some k) :
    k.natAbs < 2 ^ 53 := by
  unfold Number.exactInt? at exact
  split at exact
  next p _ =>
    by_cases whole : (p.isIntegral && p.trunc.natAbs < Nat.pow 2 53) = true
    · rw [if_pos whole] at exact
      cases exact
      simp only [Bool.and_eq_true, decide_eq_true_eq] at whole
      exact whole.2
    · rw [if_neg whole] at exact
      cases exact
  next => cases exact

end Integral

namespace Decimal

variable {d : Decimal}

theorem trunc_natAbs (d : Decimal) :
    d.trunc.natAbs =
      if 0 ≤ d.exp then d.coeff * Nat.pow 10 d.exp.toNat else d.coeff / Nat.pow 10 (-d.exp).toNat := by
  unfold trunc
  dsimp only
  cases d.neg <;> simp only [↓reduceIte, Bool.false_eq_true, Int.natAbs_neg, Int.natAbs_natCast]

theorem trunc_natAbs_cast (integral : d.isIntegral = true) :
    (d.trunc.natAbs : ℚ) = d.coeff * 10 ^ d.exp := by
  rw [trunc_natAbs]
  split
  next nonneg =>
    rw [Nat.cast_mul, natPow_cast, Nat.cast_ofNat, ← zpow_natCast, Int.toNat_of_nonneg nonneg]
  next negative =>
    have divides : Nat.pow 10 (-d.exp).toNat ∣ d.coeff := by
      simp only [isIntegral, negative, decide_false, Bool.false_or, beq_iff_eq] at integral
      exact Nat.dvd_of_mod_eq_zero integral
    rw [Nat.cast_div_charZero divides, natPow_cast, Nat.cast_ofNat,
      ← zpow_natCast, Int.toNat_of_nonneg (by omega), div_eq_mul_inv, ← zpow_neg, neg_neg]

/-- A decimal whose value rounds to a finite nonzero float of its sign is
read as that float. -/
theorem toFloat_eq_of_roundsTo {x : Float} {p : Parts} (parts : parts? x = some p)
    (nonzero : p.mantissa ≠ 0) (sign : d.neg = p.neg)
    (rounds : RoundsTo p.mantissa p.exp p.lowGap (d.coeff * 10 ^ d.exp)) : d.toFloat = x := by
  unfold toFloat
  rw [sign]
  split
  next nonneg =>
    apply ofFraction_eq_of_roundsTo parts nonzero Nat.one_pos
    rwa [Nat.cast_one, div_one, Nat.cast_mul, natPow_cast, Nat.cast_ofNat, ← zpow_natCast,
      Int.toNat_of_nonneg nonneg]
  next negative =>
    apply ofFraction_eq_of_roundsTo parts nonzero (show 0 < 10 ^ (-d.exp).toNat by positivity)
    rwa [Nat.cast_pow, Nat.cast_ofNat, ← zpow_natCast, Int.toNat_of_nonneg (by omega),
      div_eq_mul_inv, ← zpow_neg, neg_neg]

end Decimal

section StoredForm

/-- A number that its stored decimal gives back: an integer below `2^53` in
magnitude, or a float in normal form. -/
@[simp]
def Number.Storable : Number → Prop
  | .int k => k.natAbs < 2 ^ 53
  | .float x => x.isFinite = true ∧ Number.exactInt? x = none

instance : DecidablePred Number.Storable
  | .int k => inferInstanceAs (Decidable (k.natAbs < 2 ^ 53))
  | .float x => inferInstanceAs (Decidable (x.isFinite = true ∧ Number.exactInt? x = none))

theorem Number.fitsText_int {n : Int} {k : Nat} (positive : 0 < k) (small : n.natAbs < 10 ^ k)
    (within : k ≤ Number.maxStrDigits) : (Number.int n).fitsText = true := by
  simp only [Number.fitsText, decide_eq_true_eq]
  exact (Nat.repr_length _ _ positive small).trans within

@[simp]
theorem Number.decimalOfText_of_fitsText {n : Number} (fits : n.fitsText = true) :
    n.decimalOfText = .ok n.toDecimal :=
  if_pos fits

theorem Number.mapM_decimalOfText {ns : List Number} (fits : ∀ n ∈ ns, n.fitsText = true) :
    ns.mapM Number.decimalOfText = .ok (ns.map Number.toDecimal) := by
  induction ns with
  | nil => rfl
  | cons n ns ih =>
    simp only [List.mapM_cons, Number.decimalOfText_of_fitsText (fits n List.mem_cons_self),
      ih fun m mem => fits m (List.mem_cons_of_mem n mem), List.map_cons]
    rfl

theorem Number.Storable.fitsText {n : Number} (storable : n.Storable) : n.fitsText = true := by
  cases n with
  | int k => exact Number.fitsText_int (show 0 < 16 by decide) (storable.trans (by norm_num)) (by decide)
  | float x => rfl

theorem normalizeDecimal_ofInt {k : Int} (small : k.natAbs < 2 ^ 53) :
    normalizeDecimal (.finite (Decimal.ofInt k)) = .ok (.int k) := by
  have truncated : (Decimal.ofInt k).trunc = k := by
    unfold Decimal.trunc Decimal.ofInt
    by_cases negative : k < 0
    · simp [negative, abs_of_neg negative]
    · simp [negative, abs_of_nonneg (not_lt.mp negative)]
  have whole : ((Decimal.ofInt k).isIntegral && (Decimal.ofInt k).trunc.natAbs < Nat.pow 2 53) = true := by
    rw [truncated, Nat.pow_eq]
    simpa [Decimal.isIntegral, Decimal.ofInt] using small
  simp only [normalizeDecimal]
  rw [if_pos whole, truncated]

/-- The shortest text of a float in normal form reads as a decimal with the
float's sign that lies in its rounding interval; a whole float has been
ruled out, so the float is not zero. -/
theorem toDecimal_float_roundsTo {x : Float} (finite : x.isFinite = true)
    (fractional : Number.exactInt? x = none) :
    ∃ p, parts? x = some p ∧ p.mantissa ≠ 0 ∧ (Number.float x).toDecimal.neg = p.neg ∧
      RoundsTo p.mantissa p.exp p.lowGap
        ((Number.float x).toDecimal.coeff * 10 ^ (Number.float x).toDecimal.exp) := by
  obtain ⟨p, parts⟩ := parts?_isSome finite
  have nonzero : p.mantissa ≠ 0 := by
    intro zero
    obtain ⟨k, whole, -⟩ := Number.exactInt?_of_whole parts (by norm_num)
      (show (p.mantissa : ℚ) * 2 ^ p.exp = (0 : Nat) by simp [zero])
    rw [fractional] at whole
    cases whole
  obtain ⟨d, text, sign, value⟩ := DecimalValue.ofText?_text parts nonzero
  have rounds := Parts.shortest_roundsTo parts nonzero
  rw [← value] at rounds
  have decimal : (Number.float x).toDecimal = d := by simp [Number.toDecimal, text]
  exact ⟨p, parts, nonzero, decimal ▸ sign, decimal ▸ rounds⟩

/-- A float in normal form comes back from its shortest text: the digits lie
in its rounding interval, so they read as the float, and they are no whole
number below `2^53`, since the only such number there would be the float. -/
theorem normalizeDecimal_float {x : Float} (finite : x.isFinite = true)
    (fractional : Number.exactInt? x = none) :
    normalizeDecimal (.finite (Number.float x).toDecimal) = .ok (.float x) := by
  obtain ⟨p, parts, nonzero, sign, rounds⟩ := toDecimal_float_roundsTo finite fractional
  generalize (Number.float x).toDecimal = d at sign rounds ⊢
  have notWhole : ¬(d.isIntegral && d.trunc.natAbs < Nat.pow 2 53) = true := by
    intro whole
    simp only [Bool.and_eq_true, decide_eq_true_eq, Nat.pow_eq] at whole
    obtain ⟨integral, small⟩ := whole
    rw [← Decimal.trunc_natAbs_cast integral] at rounds
    obtain ⟨k, exact, -⟩ := Number.exactInt?_of_whole parts small
      (Parts.value_eq_of_roundsTo (parts?_spec parts).1 small rounds)
    rw [fractional] at exact
    cases exact
  have float : d.toFloat = x := Decimal.toFloat_eq_of_roundsTo parts nonzero sign rounds
  unfold normalizeDecimal
  simp only [notWhole, if_false, float, finite, fractional, Bool.not_true, Bool.false_eq_true]

theorem normalizeDecimal_toDecimal {n : Number} (storable : n.Storable) :
    normalizeDecimal (.finite n.toDecimal) = .ok n := by
  cases n with
  | int k => exact normalizeDecimal_ofInt storable
  | float x => exact normalizeDecimal_float storable.1 storable.2

/-- Every number a decimal reads as is storable: an integer below `2^53` in
magnitude, or a float in normal form. -/
theorem normalizeDecimal_storable (d : DecimalValue) :
    Yields Number.Storable (normalizeDecimal d) := by
  unfold normalizeDecimal
  split
  next x =>
    split
    next whole =>
      simp only [Bool.and_eq_true, decide_eq_true_eq, Nat.pow_eq] at whole
      simpa using whole.2
    next =>
      dsimp only
      split
      · simp
      next finite =>
        split
        next k exact => simpa using Number.exactInt?_small exact
        next notWhole => simpa using ⟨by simpa using finite, notWhole⟩
  next => simp

end StoredForm

end FieldCalc
