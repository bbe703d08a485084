import FieldCalc.Proofs.Number.Nearest
import FieldCalc.Proofs.Number.Conversion

/-!
# Correctly rounded float arithmetic

The float operations of the library unpack their operands, compute exactly on
significands and exponents, and round once. Rounding shifts the significand
right to the exponent of its binade, and the round and sticky bits it keeps
choose between the two neighbours: the quotient by the dropped bits, rounded
to nearest with a tie to even (`roundedMantissa_shiftRight`). A significand
rounded up to `2^53` carries into the next binade, and an exponent beyond the
largest binade packs as an infinity. That is what `ofFraction` computes for the
same value (`ofFraction_scaled`), so `round`, and with it every difference and
product, gives `nearest` of the exact result (`ofModel_pack_round`,
`sub_of_parts`, `mul_of_parts`).

The nearest float is finite below the overflow threshold and lies within
`2^-52` of the value, relatively, or `2^-1075` among the subnormals
(`nearest_error`); on a value that a float has it is exact (`nearest_exact`).
Truncation, the floor and rounding to an integer read the exact value of a
float (`Parts.trunc_eq_of_between`, `Parts.floor_eq`, `Parts.roundEven_near`).
-/

namespace FieldCalc.Binary

open Float.Model Float.Model.UnpackedFloat

section Shifting

/-- A shift by `k + 1` keeps `n / 2^(k+1)`; its round bit is the last bit it
drops, and its sticky bit says whether any bit below that one was set. -/
theorem shiftRight_succ (n k : Nat) :
    (⟨n, false, false⟩ : ExtendedMantissa) >>> (k + 1) =
      ⟨n / 2 ^ (k + 1), n / 2 ^ k % 2 != 0, n % 2 ^ k != 0⟩ := by
  induction k with
  | zero => simp [HShiftRight.hShiftRight, Nat.repeat, ExtendedMantissa.shiftRightOne, Nat.mod_one]
  | succ k inductionHypothesis =>
    have step : (⟨n, false, false⟩ : ExtendedMantissa) >>> (k + 1 + 1) =
        ((⟨n, false, false⟩ : ExtendedMantissa) >>> (k + 1)).shiftRightOne := rfl
    have split : n % 2 ^ (k + 1) = n % 2 ^ k + 2 ^ k * (n / 2 ^ k % 2) := Nat.mod_pow_succ
    have quotient : n / 2 ^ (k + 1) / 2 = n / 2 ^ (k + 1 + 1) := by
      rw [Nat.div_div_eq_div_mul, ← Nat.pow_succ]
    rw [step, inductionHypothesis]
    simp only [ExtendedMantissa.shiftRightOne, quotient, ExtendedMantissa.mk.injEq, true_and]
    rcases Nat.mod_two_eq_zero_or_one (n / 2 ^ k) with bit | bit <;> simp [split, bit]

theorem roundedMantissa_mk (q : Nat) (roundBit stickyBit : Bool) :
    (⟨q, roundBit, stickyBit⟩ : ExtendedMantissa).roundedMantissa =
      if roundBit then (if stickyBit then q + 1 else q + q % 2) else q := by
  cases roundBit <;> cases stickyBit <;> rfl

/-- Rounding after a shift by `k` divides by `2^k` to the nearest, a tie to
even: the round and sticky bits place the dropped bits against the half. -/
theorem roundedMantissa_shiftRight (n k : Nat) :
    ((⟨n, false, false⟩ : ExtendedMantissa) >>> k).roundedMantissa = divRoundEven n (2 ^ k) := by
  cases k with
  | zero =>
    show n = divRoundEven n 1
    simp [divRoundEven, Nat.mod_one]
  | succ k =>
    -- the dropped bits are the round bit's `2^k` and the sticky bits below it
    have split : n % 2 ^ (k + 1) = n % 2 ^ k + 2 ^ k * (n / 2 ^ k % 2) := Nat.mod_pow_succ
    have below : n % 2 ^ k < 2 ^ k := Nat.mod_lt _ (Nat.two_pow_pos k)
    have double : 2 ^ (k + 1) = 2 * 2 ^ k := by rw [Nat.pow_succ, Nat.mul_comm]
    rw [shiftRight_succ, roundedMantissa_mk]
    unfold divRoundEven
    rw [split, double]
    rcases Nat.mod_two_eq_zero_or_one (n / 2 ^ k) with bit | bit <;>
      simp only [bit, Nat.mul_zero, Nat.mul_one, Nat.add_zero, bne_iff_ne, ne_eq, beq_iff_eq,
        not_true_eq_false, Nat.one_ne_zero, not_false_eq_true, if_true, if_false] <;>
      split_ifs <;> omega

end Shifting

section Binade

/-- The exponent of the binade a significand `m` at exponent `e` rounds into,
before a carry: 52 bits below its leading bit, and never below the least. -/
def roundedExponent (m : Nat) (e : Int) : Int := max ((m.log2 : Int) + e - 52) (-1074)

theorem targetExponent_eq (m : Nat) (e : Int) :
    Format.binary64.targetExponent (totalExponent m e) = roundedExponent m e := by
  simp only [Format.targetExponent, totalExponent, Format.mantissaBits, Format.minExponent,
    roundedExponent]
  norm_num
  omega

theorem shiftToTargetExponent_of_lt {q : Nat} {t : Int} (lt : q < 2 ^ 53) (least : -1074 ≤ t) :
    shiftToTargetExponent Format.binary64 q t .exact = (⟨q, false, false⟩, t) := by
  have bits : q.log2 < 53 := by
    by_cases zero : q = 0
    · simp [zero]
    · exact (Nat.log2_lt zero).mpr lt
  have noShift : (roundedExponent q t - t).toNat = 0 := by
    simp only [roundedExponent]
    omega
  simp only [shiftToTargetExponent, shiftToExponent, targetExponent_eq, noShift,
    ExtendedMantissa.ofMantissaAndAccuracy, Int.natCast_zero, Int.add_zero]
  rfl

theorem shiftToTargetExponent_carry {t : Int} (least : -1074 ≤ t) :
    shiftToTargetExponent Format.binary64 (2 ^ 53) t .exact = (⟨2 ^ 52, false, false⟩, t + 1) := by
  have oneShift : (roundedExponent (2 ^ 53) t - t).toNat = 1 := by
    simp only [roundedExponent, Nat.log2_two_pow]
    omega
  simp only [shiftToTargetExponent, shiftToExponent, targetExponent_eq, oneShift,
    ExtendedMantissa.ofMantissaAndAccuracy]
  rfl

end Binade

section Rounding

/-- The parts of a significand `q` rounded at exponent `t`: one rounded up to
`2^53` carries into the next binade. -/
def carried (neg : Bool) (q : Nat) (t : Int) : Parts :=
  if q = 2 ^ 53 then ⟨neg, 2 ^ 52, t + 1⟩ else ⟨neg, q, t⟩

theorem divRoundEven_bounds (n d : Nat) : n / d ≤ divRoundEven n d ∧ divRoundEven n d ≤ n / d + 1 := by
  unfold divRoundEven
  dsimp only
  split_ifs <;> omega

variable {m : Nat} {e : Int}

theorem shiftToTargetExponent_first (wide : 52 ≤ m.log2 ∨ e ≤ -1074) :
    shiftToTargetExponent Format.binary64 m e .exact =
      ((⟨m, false, false⟩ : ExtendedMantissa) >>> (roundedExponent m e - e).toNat,
        roundedExponent m e) := by
  have shifted : e + ((roundedExponent m e - e).toNat : Int) = roundedExponent m e := by
    simp only [roundedExponent]
    omega
  simp only [shiftToTargetExponent, shiftToExponent, targetExponent_eq, shifted]
  rfl

theorem divRoundEven_le_two_pow (m : Nat) (e : Int) :
    divRoundEven m (2 ^ (roundedExponent m e - e).toNat) ≤ 2 ^ 53 := by
  have shift : m.log2 ≤ 52 + (roundedExponent m e - e).toNat := by
    simp only [roundedExponent]
    omega
  have quotient : m / 2 ^ (roundedExponent m e - e).toNat < 2 ^ 53 := by
    rw [Nat.div_lt_iff_lt_mul (Nat.two_pow_pos _), ← Nat.pow_add]
    exact Nat.lt_of_lt_of_le Nat.lt_log2_self (Nat.pow_le_pow_right (by decide) (by omega))
  have rounded := (divRoundEven_bounds m (2 ^ (roundedExponent m e - e).toNat)).2
  omega

theorem roundWithAccuracy_eq (neg : Bool) (wide : 52 ≤ m.log2 ∨ e ≤ -1074) :
    roundWithAccuracy Format.binary64 (unpackedSign neg) m e .exact =
      (carried neg (divRoundEven m (2 ^ (roundedExponent m e - e).toNat)) (roundedExponent m e)).unpacked := by
  have least : -1074 ≤ roundedExponent m e := le_max_right _ _
  have bound := divRoundEven_le_two_pow m e
  unfold roundWithAccuracy
  by_cases carry : divRoundEven m (2 ^ (roundedExponent m e - e).toNat) = 2 ^ 53
  · simp only [shiftToTargetExponent_first wide, roundedMantissa_shiftRight, carry,
      shiftToTargetExponent_carry least, carried, if_true, Parts.unpacked]
  · simp only [shiftToTargetExponent_first wide, roundedMantissa_shiftRight,
      shiftToTargetExponent_of_lt (Nat.lt_of_le_of_ne bound carry) least, carried, carry, if_false,
      Parts.unpacked]

end Rounding

section Packing

theorem pack_finite_overflow (s : Sign) {q : Nat} {t : Int} (pos : 0 < q) (overflow : 971 < t) :
    Float.Model.pack (.finite s q t pos) = Float.Model.pack (.infinity s) := by
  have biased : 2 ^ Format.binary64.exponentBits ≤
      (t + Format.binary64.exponentBias + Format.binary64.mantissaBitsWithoutImplicit).toNat + 1 := by
    simp only [Format.exponentBias]
    omega
  simp only [Float.Model.pack, UnpackedFloat.pack, if_pos biased]

theorem ofModel_pack_unpacked {p : Parts} (below : p.mantissa < 2 ^ 53)
    (normal : 2 ^ 52 ≤ p.mantissa ∨ p.exp = -1074) (least : -1074 ≤ p.exp) :
    Float.ofModel (Float.Model.pack p.unpacked) = if 971 < p.exp then infinity p.neg else p.toFloat := by
  split
  next overflow =>
    have mantissa : p.mantissa ≠ 0 := by omega
    unfold Parts.unpacked
    rw [dif_neg mantissa, pack_finite_overflow _ _ overflow]
    cases p.neg <;> decide
  next inRange =>
    rw [pack_unpacked ⟨below, normal, least, by omega⟩]

end Packing

section Nearest

variable {m : Nat} {e : Int}

theorem scaleFraction_rounded (wide : 52 ≤ m.log2 ∨ e ≤ -1074) :
    (((scaleFraction (scaleFraction m 1 e).1 (scaleFraction m 1 e).2 (-roundedExponent m e)).1 : ℚ) /
      (scaleFraction (scaleFraction m 1 e).1 (scaleFraction m 1 e).2 (-roundedExponent m e)).2) =
      (m : ℚ) / (2 ^ (roundedExponent m e - e).toNat : Nat) := by
  have shift : ((roundedExponent m e - e).toNat : Int) = roundedExponent m e - e := by
    simp only [roundedExponent]
    omega
  rw [scaleFraction_ratio, scaleFraction_ratio, Nat.cast_one, div_one, mul_assoc,
    ← zpow_add₀ two_ne_zero, Nat.cast_pow, Nat.cast_ofNat, ← zpow_natCast, shift, div_eq_mul_inv,
    ← zpow_neg]
  congr 2
  ring

theorem normalExponent_scaled (pos : 0 < m) :
    max (normalExponent (scaleFraction m 1 e).1 (scaleFraction m 1 e).2) (-1074) = roundedExponent m e := by
  have num : 0 < (scaleFraction m 1 e).1 := by
    unfold scaleFraction
    split
    · exact Nat.mul_pos pos (Nat.pow_pos (by decide))
    · exact pos
  have low : (2 : ℚ) ^ m.log2 ≤ m := by exact_mod_cast Nat.log2_self_le pos.ne'
  have high : (m : ℚ) < 2 ^ (m.log2 + 1) := by exact_mod_cast Nat.lt_log2_self
  have scaled : ((scaleFraction m 1 e).1 / (scaleFraction m 1 e).2 : ℚ) * 2 ^ (-((m.log2 : Int) + e - 52)) =
      m / 2 ^ m.log2 * 2 ^ 52 := by
    rw [scaleFraction_ratio, Nat.cast_one, div_one, mul_assoc, ← zpow_add₀ two_ne_zero,
      show e + -((m.log2 : Int) + e - 52) = -(m.log2 : Int) + 52 by ring, zpow_add₀ two_ne_zero, zpow_neg,
      zpow_natCast, ← mul_assoc, div_eq_mul_inv]
    norm_num
  have exponent : normalExponent (scaleFraction m 1 e).1 (scaleFraction m 1 e).2 = (m.log2 : Int) + e - 52 := by
    apply normalExponent_eq num (scaleFraction_den_pos Nat.one_pos e)
    rw [scaled]
    have power : (0 : ℚ) < 2 ^ m.log2 := by positivity
    constructor
    · rw [le_mul_iff_one_le_left (by positivity), one_le_div power]
      exact low
    · rw [show (2 : ℚ) ^ 53 = 2 * 2 ^ 52 by norm_num, mul_lt_mul_iff_of_pos_right (by positivity),
        div_lt_iff₀ power, ← pow_succ']
      exact high
  rw [exponent, roundedExponent]

/-- The parts a significand rounds to are those of a float, or lie beyond the
largest binade: below `2^53`, and normal unless at the least exponent. -/
theorem carried_shape (neg : Bool) (pos : 0 < m) (wide : 52 ≤ m.log2 ∨ e ≤ -1074) :
    let p := carried neg (divRoundEven m (2 ^ (roundedExponent m e - e).toNat)) (roundedExponent m e)
    p.mantissa < 2 ^ 53 ∧ (2 ^ 52 ≤ p.mantissa ∨ p.exp = -1074) ∧ -1074 ≤ p.exp := by
  have least : -1074 ≤ roundedExponent m e := le_max_right _ _
  have bound := divRoundEven_le_two_pow m e
  have atLeast := (divRoundEven_bounds m (2 ^ (roundedExponent m e - e).toNat)).1
  dsimp only
  unfold carried
  split
  · exact ⟨by norm_num, .inl le_rfl, show -1074 ≤ roundedExponent m e + 1 by omega⟩
  next carry =>
    refine ⟨Nat.lt_of_le_of_ne bound carry, ?_, least⟩
    by_cases bottom : roundedExponent m e = -1074
    · exact .inr bottom
    · -- above the least exponent the shift leaves exactly 53 bits
      left
      have shift : m.log2 = 52 + (roundedExponent m e - e).toNat := by
        simp only [roundedExponent] at bottom ⊢
        omega
      have quotient : 2 ^ 52 ≤ m / 2 ^ (roundedExponent m e - e).toNat := by
        rw [Nat.le_div_iff_mul_le (Nat.two_pow_pos _), ← Nat.pow_add, ← shift]
        exact Nat.log2_self_le pos.ne'
      exact le_trans quotient atLeast

/-- `ofFraction` of `m · 2^e` packs the parts that rounding `m` at the rounded
exponent gives. -/
theorem ofFraction_scaled (neg : Bool) (pos : 0 < m) (wide : 52 ≤ m.log2 ∨ e ≤ -1074) :
    ofFraction neg (scaleFraction m 1 e).1 (scaleFraction m 1 e).2 =
      Float.ofModel (Float.Model.pack (carried neg (divRoundEven m (2 ^ (roundedExponent m e - e).toNat))
        (roundedExponent m e)).unpacked) := by
  have num : 0 < (scaleFraction m 1 e).1 := by
    unfold scaleFraction
    split
    · exact Nat.mul_pos pos (Nat.pow_pos (by decide))
    · exact pos
  have den : 0 < (scaleFraction m 1 e).2 := scaleFraction_den_pos Nat.one_pos e
  have rounded : divRoundEven (scaleFraction (scaleFraction m 1 e).1 (scaleFraction m 1 e).2
      (-roundedExponent m e)).1 (scaleFraction (scaleFraction m 1 e).1 (scaleFraction m 1 e).2
      (-roundedExponent m e)).2 = divRoundEven m (2 ^ (roundedExponent m e - e).toNat) :=
    divRoundEven_congr (scaleFraction_den_pos den _) (Nat.two_pow_pos _) (scaleFraction_rounded wide)
  obtain ⟨below, normal, least⟩ := carried_shape neg pos wide
  rw [ofFraction_eq_finish num den (normalExponent_scaled pos) rounded,
    ofModel_pack_unpacked below normal least]
  unfold carried at below normal least ⊢
  split
  · -- a carry gives the first significand of the next binade
    simp [Parts.toFloat]
  · simp [Parts.toFloat]

theorem ofModel_pack_roundWithAccuracy (neg : Bool) (pos : 0 < m) (wide : 52 ≤ m.log2 ∨ e ≤ -1074) :
    Float.ofModel (Float.Model.pack (roundWithAccuracy Format.binary64 (unpackedSign neg) m e .exact)) =
      ofFraction neg (scaleFraction m 1 e).1 (scaleFraction m 1 e).2 := by
  rw [roundWithAccuracy_eq neg wide, ofFraction_scaled neg pos wide]

/-- `round` first shifts a short significand left to its rounded exponent,
which keeps its value, so it gives the float nearest to `m · 2^e` for every
`m` and `e`. -/
theorem ofModel_pack_round (neg : Bool) (pos : 0 < m) :
    Float.ofModel (Float.Model.pack (UnpackedFloat.round Format.binary64 (unpackedSign neg) m e)) =
      ofFraction neg (scaleFraction m 1 e).1 (scaleFraction m 1 e).2 := by
  have shifted : m <<< (e - roundedExponent m e).toNat = m * 2 ^ (e - roundedExponent m e).toNat :=
    Nat.shiftLeft_eq _ _
  have bits : (m <<< (e - roundedExponent m e).toNat).log2 = m.log2 + (e - roundedExponent m e).toNat := by
    rw [shifted, log2_mul_pow pos]
  have posShifted : 0 < m <<< (e - roundedExponent m e).toNat := by
    rw [shifted]
    exact Nat.mul_pos pos (Nat.two_pow_pos _)
  have wide : 52 ≤ (m <<< (e - roundedExponent m e).toNat).log2 ∨
      e - ((e - roundedExponent m e).toNat : Int) ≤ -1074 := by
    rw [bits]
    simp only [roundedExponent]
    omega
  have value : ((scaleFraction (m <<< (e - roundedExponent m e).toNat) 1
      (e - ((e - roundedExponent m e).toNat : Int))).1 : ℚ) /
      (scaleFraction (m <<< (e - roundedExponent m e).toNat) 1
        (e - ((e - roundedExponent m e).toNat : Int))).2 =
      (scaleFraction m 1 e).1 / (scaleFraction m 1 e).2 := by
    rw [scaleFraction_ratio, scaleFraction_ratio, shifted, Nat.cast_mul, Nat.cast_pow, Nat.cast_ofNat,
      zpow_sub₀ two_ne_zero, zpow_natCast]
    field_simp
  unfold UnpackedFloat.round
  simp only [targetExponent_eq, decreaseExponent]
  rw [ofModel_pack_roundWithAccuracy neg posShifted wide,
    ofFraction_congr neg (scaleFraction_den_pos Nat.one_pos _) (scaleFraction_den_pos Nat.one_pos _) value]

end Nearest

section Operations

/-- The float nearest to a rational, a tie going to the even significand; a
rational beyond the largest float gives an infinity. -/
def nearest (r : ℚ) : Float := ofFraction (decide (r < 0)) r.num.natAbs r.den

theorem natAbs_num_div_den (r : ℚ) : (r.num.natAbs : ℚ) / r.den = |r| := by
  rw [Rat.abs_def, Rat.divInt_eq_div]
  simp [Nat.cast_natAbs]

theorem nearest_eq_ofFraction (neg : Bool) {num den : Nat} (hnum : 0 < num) (hden : 0 < den) :
    nearest (if neg then -(num / den : ℚ) else num / den) = ofFraction neg num den := by
  have ratio : (0 : ℚ) < num / den := by positivity
  unfold nearest
  cases neg
  · rw [if_neg Bool.false_ne_true, decide_eq_false (not_lt.mpr ratio.le)]
    exact ofFraction_congr false (Rat.den_pos _) hden (by rw [natAbs_num_div_den, abs_of_pos ratio])
  · rw [if_pos rfl, decide_eq_true (neg_neg_of_pos ratio)]
    exact ofFraction_congr true (Rat.den_pos _) hden (by rw [natAbs_num_div_den, abs_neg, abs_of_pos ratio])

theorem nearest_int_div {k : Int} (nonzero : k ≠ 0) {d : Nat} (hd : 0 < d) :
    nearest ((k : ℚ) / d) = ofFraction (decide (k < 0)) k.natAbs d := by
  have signed : (k / d : ℚ) = if decide (k < 0) then -(k.natAbs / d : ℚ) else k.natAbs / d := by
    rw [Nat.cast_natAbs, Int.cast_abs]
    by_cases negative : k < 0
    · rw [decide_eq_true negative, if_pos rfl, abs_of_neg (Int.cast_lt_zero.mpr negative), neg_div, neg_neg]
    · rw [decide_eq_false negative, if_neg Bool.false_ne_true,
        abs_of_nonneg (Int.cast_nonneg_iff.mpr (not_lt.mp negative))]
  rw [signed]
  exact nearest_eq_ofFraction _ (Int.natAbs_pos.mpr nonzero) hd

theorem nearest_value_eq (neg : Bool) {m : Nat} {e : Int} (pos : 0 < m) :
    nearest (Parts.value ⟨neg, m, e⟩) = ofFraction neg (scaleFraction m 1 e).1 (scaleFraction m 1 e).2 := by
  have num : 0 < (scaleFraction m 1 e).1 := by
    unfold scaleFraction
    split
    · exact Nat.mul_pos pos (Nat.pow_pos (by decide))
    · exact pos
  rw [← nearest_eq_ofFraction neg num (scaleFraction_den_pos Nat.one_pos e), scaleFraction_ratio,
    Nat.cast_one, div_one]
  rfl

theorem nearest_value {x : Float} {p : Parts} (parts : parts? x = some p) (nonzero : p.mantissa ≠ 0) :
    nearest p.value = x := by
  rw [show p = ⟨p.neg, p.mantissa, p.exp⟩ from rfl, nearest_value_eq p.neg (Nat.pos_of_ne_zero nonzero)]
  apply ofFraction_eq_of_roundsTo parts nonzero (scaleFraction_den_pos Nat.one_pos _)
  rw [scaleFraction_ratio, Nat.cast_one, div_one]
  exact roundsTo_self (Parts.lowGap_pos p)

theorem unpackedSign_mul (a b : Bool) : unpackedSign a * unpackedSign b = unpackedSign (a != b) := by
  cases a <;> cases b <;> rfl

/-- The product of two nonzero finite floats is the float nearest to the
product of their values. -/
theorem mul_of_parts {x y : Float} {px py : Parts} (hx : parts? x = some px) (hy : parts? y = some py)
    (nx : px.mantissa ≠ 0) (ny : py.mantissa ≠ 0) : x * y = nearest (px.value * py.value) := by
  have vx := (parts?_spec hx).1
  have vy := (parts?_spec hy).1
  have pos : 0 < px.mantissa * py.mantissa := Nat.mul_pos (Nat.pos_of_ne_zero nx) (Nat.pos_of_ne_zero ny)
  -- a normal factor gives the product 53 bits; two subnormal ones the least exponent
  have wide : 52 ≤ (px.mantissa * py.mantissa).log2 ∨ px.exp + py.exp ≤ -1074 := by
    rcases vx.normal_or_least with normalX | leastX
    · left
      exact (Nat.le_log2 pos.ne').mpr (le_trans normalX (Nat.le_mul_of_pos_right _ (Nat.pos_of_ne_zero ny)))
    · rcases vy.normal_or_least with normalY | leastY
      · left
        exact (Nat.le_log2 pos.ne').mpr (le_trans normalY (Nat.le_mul_of_pos_left _ (Nat.pos_of_ne_zero nx)))
      · right
        have := vx.least_le
        omega
  have product : px.value * py.value = Parts.value ⟨px.neg != py.neg, px.mantissa * py.mantissa, px.exp + py.exp⟩ := by
    unfold Parts.value
    rw [Nat.cast_mul, zpow_add₀ two_ne_zero]
    cases px.neg <;> cases py.neg <;> simp <;> ring
  show Float.ofModel (Float.Model.pack (UnpackedFloat.mul Format.binary64 x.toModel.unpack y.toModel.unpack)) = _
  rw [unpack_of_parts hx, unpack_of_parts hy, product, nearest_value_eq _ pos]
  unfold Parts.unpacked
  rw [dif_neg nx, dif_neg ny]
  simp only [UnpackedFloat.mul, unpackedSign_mul]
  exact ofModel_pack_roundWithAccuracy _ pos wide

/-- Rounding a signed significand at an exponent, as sums and differences do,
gives the float nearest to its value; an exact zero is positive. -/
theorem ofModel_pack_normalize (M e : Int) :
    Float.ofModel (Float.Model.pack (UnpackedFloat.normalize Format.binary64 M e .positive)) =
      nearest (M * 2 ^ e) := by
  unfold UnpackedFloat.normalize
  rcases lt_trichotomy M 0 with negative | zero | positive
  · have pos : 0 < (-M).toNat := by omega
    have value : Parts.value ⟨true, (-M).toNat, e⟩ = M * 2 ^ e := by
      simp only [Parts.value, if_true]
      rw [show (((-M).toNat : Nat) : ℚ) = -M by exact_mod_cast (show (((-M).toNat : Nat) : Int) = -M by omega)]
      ring
    rw [Int.compare_eq_lt.mpr negative, show Sign.negative = unpackedSign true from rfl,
      ofModel_pack_round true pos, ← nearest_value_eq true pos, value]
  · subst zero
    simp only [Int.cast_zero, zero_mul]
    rfl
  · have pos : 0 < M.toNat := by omega
    have value : Parts.value ⟨false, M.toNat, e⟩ = M * 2 ^ e := by
      simp only [Parts.value, Bool.false_eq_true, if_false]
      rw [show ((M.toNat : Nat) : ℚ) = M by exact_mod_cast (show ((M.toNat : Nat) : Int) = M by omega)]
    rw [Int.compare_eq_gt.mpr positive, show Sign.positive = unpackedSign false from rfl,
      ofModel_pack_round false pos, ← nearest_value_eq false pos, value]

theorem ofModel_pack_of_parts {x : Float} {p : Parts} (parts : parts? x = some p) :
    Float.ofModel (Float.Model.pack p.unpacked) = x := by
  obtain ⟨valid, rebuilt⟩ := parts?_spec parts
  rw [pack_unpacked valid, rebuilt]

theorem shifted_value (neg : Bool) (m : Nat) {e t : Int} (le : t ≤ e) :
    ((unpackedSign neg).apply ((m <<< (e - t).toNat : Nat) : Int) : ℚ) * 2 ^ t = Parts.value ⟨neg, m, e⟩ := by
  have shift : (((e - t).toNat : Nat) : Int) = e - t := by omega
  have aligned : ((m <<< (e - t).toNat : Nat) : ℚ) * 2 ^ t = m * 2 ^ e := by
    rw [Nat.shiftLeft_eq, Nat.cast_mul, Nat.cast_pow, Nat.cast_ofNat, mul_assoc, ← zpow_natCast,
      ← zpow_add₀ two_ne_zero, shift, sub_add_cancel]
  cases neg
  · simp only [unpackedSign, Sign.apply, Parts.value, Bool.false_eq_true, if_false, Int.cast_natCast]
    exact aligned
  · simp only [unpackedSign, Sign.apply, Parts.value, if_true, Int.cast_neg, Int.cast_natCast, neg_mul]
    rw [aligned]

theorem neg_unpackedSign (b : Bool) : -unpackedSign b = unpackedSign !b := by
  cases b <;> rfl

def Parts.flip (p : Parts) : Parts := ⟨!p.neg, p.mantissa, p.exp⟩

theorem Parts.value_flip (p : Parts) : p.flip.value = -p.value := by
  cases h : p.neg <;> simp [Parts.flip, Parts.value, h]

/-- The difference of two finite floats, not both zero, is the float nearest
to the difference of their values. -/
theorem sub_of_parts {x y : Float} {px py : Parts} (hx : parts? x = some px) (hy : parts? y = some py)
    (nonzero : px.mantissa ≠ 0 ∨ py.mantissa ≠ 0) : x - y = nearest (px.value - py.value) := by
  show Float.ofModel (Float.Model.pack (UnpackedFloat.sub Format.binary64 x.toModel.unpack y.toModel.unpack)) = _
  rw [unpack_of_parts hx, unpack_of_parts hy]
  by_cases zx : px.mantissa = 0
  · -- a nonzero float taken from a zero turns its sign over
    have ny := nonzero.resolve_left (not_not_intro zx)
    have vy := (parts?_spec hy).1
    have valid : py.flip.Valid := ⟨vy.mantissa_lt, vy.normal_or_least, vy.least_le, vy.le_greatest⟩
    have difference : UnpackedFloat.sub Format.binary64 px.unpacked py.unpacked = py.flip.unpacked := by
      unfold Parts.unpacked
      rw [dif_pos zx, dif_neg ny, dif_neg (show py.flip.mantissa ≠ 0 from ny)]
      simp only [UnpackedFloat.sub, neg_unpackedSign]
      rfl
    rw [difference, pack_unpacked valid, show px.value = 0 by simp [Parts.value, zx], zero_sub,
      ← Parts.value_flip, nearest_value (parts?_toFloat valid) ny]
  by_cases zy : py.mantissa = 0
  · have difference : UnpackedFloat.sub Format.binary64 px.unpacked py.unpacked = px.unpacked := by
      unfold Parts.unpacked
      rw [dif_neg zx, dif_pos zy]
      rfl
    rw [difference, ofModel_pack_of_parts hx, show py.value = 0 by simp [Parts.value, zy], sub_zero,
      nearest_value hx zx]
  unfold Parts.unpacked
  rw [dif_neg zx, dif_neg zy]
  simp only [UnpackedFloat.sub, decreaseExponent]
  rw [ofModel_pack_normalize, Int.cast_sub, sub_mul, shifted_value px.neg px.mantissa (min_le_left _ _),
    shifted_value py.neg py.mantissa (min_le_right _ _)]

end Operations

section Exact

/-- A whole number of units below `2^53`, at an exponent of the range, is the
value of a float: shifted up to a normal significand, or down to the least
exponent where it stays subnormal. -/
theorem exists_parts_of_scaled (neg : Bool) {n : Nat} {e : Int} (pos : 0 < n) (lt : n < 2 ^ 53)
    (least : -1074 ≤ e) (greatest : e ≤ 971) :
    ∃ p : Parts, p.Valid ∧ p.neg = neg ∧ p.mantissa ≠ 0 ∧ (p.mantissa : ℚ) * 2 ^ p.exp = n * 2 ^ e := by
  have bits : n.log2 < 53 := (Nat.log2_lt pos.ne').mpr lt
  have low : 2 ^ n.log2 ≤ n := Nat.log2_self_le pos.ne'
  have high : n < 2 ^ (n.log2 + 1) := Nat.lt_log2_self
  set s := min (52 - n.log2) (e + 1074).toNat with sDef
  refine ⟨⟨neg, n * 2 ^ s, e - s⟩, ⟨?_, ?_, by dsimp only; omega, by dsimp only; omega⟩, rfl,
    Nat.mul_ne_zero pos.ne' (Nat.two_pow_pos s).ne', ?_⟩
  · calc n * 2 ^ s < 2 ^ (n.log2 + 1) * 2 ^ s := Nat.mul_lt_mul_of_pos_right high (Nat.two_pow_pos s)
      _ = 2 ^ (n.log2 + 1 + s) := (Nat.pow_add _ _ _).symm
      _ ≤ 2 ^ 53 := Nat.pow_le_pow_right (by decide) (by omega)
  · -- shifted by the full `52 - log2 n` the significand is normal, else the exponent is least
    by_cases full : s = 52 - n.log2
    · left
      calc 2 ^ 52 = 2 ^ n.log2 * 2 ^ s := by rw [← Nat.pow_add]; congr 1; omega
        _ ≤ n * 2 ^ s := Nat.mul_le_mul_right _ low
    · right
      dsimp only
      omega
  · dsimp only
    rw [Nat.cast_mul, Nat.cast_pow, Nat.cast_ofNat, mul_assoc, ← zpow_natCast, ← zpow_add₀ two_ne_zero,
      add_sub_cancel]

theorem nearest_exact (neg : Bool) {n : Nat} {e : Int} (pos : 0 < n) (lt : n < 2 ^ 53)
    (least : -1074 ≤ e) (greatest : e ≤ 971) :
    ∃ p, parts? (nearest (Parts.value ⟨neg, n, e⟩)) = some p ∧ p.value = Parts.value ⟨neg, n, e⟩ := by
  obtain ⟨p, valid, sign, nonzero, value⟩ := exists_parts_of_scaled neg pos lt least greatest
  have same : p.value = Parts.value ⟨neg, n, e⟩ := by
    unfold Parts.value
    rw [sign, value]
  refine ⟨p, ?_, same⟩
  rw [← same, nearest_value (parts?_toFloat valid) nonzero]
  exact parts?_toFloat valid

end Exact

section Error

/-- Half a unit of a float is at most `2^-52` of any ratio that rounds to it,
or `2^-1075` among the subnormals. -/
theorem half_unit_le {p : Parts} (valid : p.Valid) {r : ℚ} (nonneg : 0 ≤ r)
    (rounds : RoundsTo p.mantissa p.exp p.lowGap r) :
    (2 : ℚ) ^ p.exp / 2 ≤ r / 2 ^ 52 + 2 ^ (-1075 : Int) := by
  have unit : (0 : ℚ) < 2 ^ p.exp := by positivity
  have scaled : r * 2 ^ (-p.exp) * 2 ^ p.exp = r := by
    rw [mul_assoc, ← zpow_add₀ two_ne_zero, neg_add_cancel, zpow_zero, mul_one]
  rcases valid.normal_or_least with normal | least
  · -- a normal float: the ratio is at least `2^52 - 1/2` units
    have gap : (p.lowGap : ℚ) ≤ 2 := by exact_mod_cast p.lowGap_le
    have atLeast : (2 : ℚ) ^ 52 ≤ p.mantissa := by exact_mod_cast normal
    have units : (2 : ℚ) ^ 51 ≤ r * 2 ^ (-p.exp) := by linarith [rounds.bounds.1]
    have ratio : (2 : ℚ) ^ 51 * 2 ^ p.exp ≤ r := by
      calc (2 : ℚ) ^ 51 * 2 ^ p.exp ≤ r * 2 ^ (-p.exp) * 2 ^ p.exp := by gcongr
        _ = r := scaled
    have tiny : (0 : ℚ) ≤ 2 ^ (-1075 : Int) := by positivity
    have half : (2 : ℚ) ^ p.exp / 2 = 2 ^ 51 * 2 ^ p.exp / 2 ^ 52 := by ring
    rw [half]
    linarith [div_le_div_of_nonneg_right ratio (show (0 : ℚ) ≤ 2 ^ 52 by positivity)]
  · have half : (2 : ℚ) ^ (-1074 : Int) / 2 = 2 ^ (-1075 : Int) := by
      rw [show (-1075 : Int) = -1074 + -1 by norm_num, zpow_add₀ two_ne_zero, zpow_neg_one, div_eq_mul_inv]
    rw [least, half]
    linarith [div_nonneg nonneg (show (0 : ℚ) ≤ 2 ^ 52 by positivity)]

/-- The float nearest to a rational below the overflow threshold is finite, has
the rational's sign and lies within `2^-52` of it, relatively, or `2^-1075`
among the subnormals. -/
theorem nearest_error {r : ℚ} (below : |r| < overflowThreshold) :
    ∃ p, parts? (nearest r) = some p ∧ p.neg = decide (r < 0) ∧
      |p.value - r| ≤ |r| / 2 ^ 52 + 2 ^ (-1075 : Int) := by
  by_cases zero : r = 0
  · subst zero
    refine ⟨⟨false, 0, -1074⟩, by decide, rfl, ?_⟩
    simp only [Parts.value, Bool.false_eq_true, if_false, Nat.cast_zero, zero_mul, sub_zero, abs_zero,
      zero_div, zero_add]
    positivity
  have num : 0 < r.num.natAbs := Int.natAbs_pos.mpr (Rat.num_ne_zero.mpr zero)
  have ratio := natAbs_num_div_den r
  obtain ⟨p, parts, sign, rounds⟩ :=
    @parts?_ofFraction (decide (r < 0)) _ _ num (Rat.den_pos r) (by rw [ratio]; exact below)
  rw [ratio] at rounds
  refine ⟨p, parts, sign, ?_⟩
  have magnitude : |p.value - r| = |(|r| - (p.mantissa : ℚ) * 2 ^ p.exp)| := by
    unfold Parts.value
    rw [sign]
    by_cases negative : r < 0
    · rw [decide_eq_true negative, if_pos rfl, abs_of_neg negative]
      congr 1
      ring
    · rw [decide_eq_false negative, if_neg Bool.false_ne_true, abs_of_nonneg (not_lt.mp negative), abs_sub_comm]
  calc |p.value - r| = |(|r| - (p.mantissa : ℚ) * 2 ^ p.exp)| := magnitude
    _ ≤ 2 ^ p.exp / 2 := rounds.error p.lowGap_le
    _ ≤ |r| / 2 ^ 52 + 2 ^ (-1075 : Int) := half_unit_le (parts?_spec parts).1 (abs_nonneg r) rounds

theorem subnormal_half_le : (2 : ℚ) ^ (-1075 : Int) ≤ 1 / 2 ^ 52 :=
  calc (2 : ℚ) ^ (-1075 : Int) ≤ 2 ^ (-52 : Int) := zpow_le_zpow_right₀ (by norm_num) (by norm_num)
    _ = 1 / 2 ^ 52 := by norm_num

theorem lt_overflowThreshold {r : ℚ} (small : |r| ≤ 2 ^ 52) : |r| < overflowThreshold :=
  lt_overflowThreshold_of_pow (small.trans_lt (by norm_num : (2 : ℚ) ^ 52 < 2 ^ 53)) (by norm_num)

/-- The nearest float to a rational of magnitude at most `b ≤ 2^52` lies within
`(b + 1) / 2^52` of it. -/
theorem nearest_error_le {r b : ℚ} (bound : |r| ≤ b) (small : b ≤ 2 ^ 52) :
    ∃ p, parts? (nearest r) = some p ∧ |p.value - r| ≤ (b + 1) / 2 ^ 52 := by
  obtain ⟨p, parts, -, error⟩ := nearest_error (lt_overflowThreshold (bound.trans small))
  have relative : |r| / 2 ^ 52 ≤ b / 2 ^ 52 := by gcongr
  refine ⟨p, parts, ?_⟩
  rw [add_div]
  linarith [subnormal_half_le]

end Error

section Integers

variable {p : Parts}

theorem Parts.abs_value (p : Parts) : |p.value| = p.mantissa * 2 ^ p.exp := by
  have nonneg : (0 : ℚ) ≤ p.mantissa * 2 ^ p.exp := by positivity
  unfold Parts.value
  split
  · rw [abs_neg, abs_of_nonneg nonneg]
  · rw [abs_of_nonneg nonneg]

theorem Parts.value_eq_zero (zero : p.mantissa = 0) : p.value = 0 := by
  simp [Parts.value, zero]

theorem Parts.value_ne_zero (nonzero : p.mantissa ≠ 0) : p.value ≠ 0 := by
  intro zero
  have magnitude := p.abs_value
  rw [zero, abs_zero] at magnitude
  have : (0 : ℚ) < p.mantissa * 2 ^ p.exp := magnitude_pos (Nat.pos_of_ne_zero nonzero)
  linarith

theorem Parts.mantissa_ne_zero_of_int {k : Int} (nonzero : k ≠ 0)
    (value : (p.mantissa : ℚ) * 2 ^ p.exp = k.natAbs) : p.mantissa ≠ 0 := by
  intro zero
  rw [zero, Nat.cast_zero, zero_mul] at value
  exact nonzero (Int.natAbs_eq_zero.mp (by exact_mod_cast value.symm))

theorem Parts.value_of_int {k : Int} (sign : p.neg = decide (k < 0))
    (value : (p.mantissa : ℚ) * 2 ^ p.exp = k.natAbs) : p.value = k := by
  unfold Parts.value
  rw [sign, value, Nat.cast_natAbs, Int.cast_abs]
  by_cases negative : k < 0
  · rw [decide_eq_true negative, if_pos rfl, abs_of_neg (Int.cast_lt_zero.mpr negative), neg_neg]
  · rw [decide_eq_false negative, if_neg Bool.false_ne_true,
      abs_of_nonneg (Int.cast_nonneg_iff.mpr (not_lt.mp negative))]

theorem Parts.magnitude_ratio (p : Parts) :
    ∃ a b : Nat, scaleFraction p.mantissa 1 p.exp = (a, b) ∧ 0 < b ∧ (a / b : ℚ) = p.mantissa * 2 ^ p.exp := by
  refine ⟨(scaleFraction p.mantissa 1 p.exp).1, (scaleFraction p.mantissa 1 p.exp).2, rfl,
    scaleFraction_den_pos Nat.one_pos _, ?_⟩
  rw [scaleFraction_ratio, Nat.cast_one, div_one]

theorem Parts.trunc_eq_of_between {c : Nat} (low : (c : ℚ) ≤ p.mantissa * 2 ^ p.exp)
    (high : (p.mantissa : ℚ) * 2 ^ p.exp < c + 1) : p.trunc = if p.neg then -(c : Int) else c := by
  obtain ⟨a, b, scaled, denominator, ratio⟩ := p.magnitude_ratio
  have bq : (0 : ℚ) < b := by exact_mod_cast denominator
  rw [← ratio, le_div_iff₀ bq] at low
  rw [← ratio, div_lt_iff₀ bq] at high
  have atLeast : c * b ≤ a := by exact_mod_cast low
  have below : a < (c + 1) * b := by exact_mod_cast high
  have quotient : a / b = c := Nat.div_eq_of_lt_le atLeast below
  unfold Parts.trunc
  rw [scaled]
  simp only [quotient]

theorem Parts.abs_value_lt_trunc (p : Parts) : |p.value| < p.trunc.natAbs + 1 := by
  obtain ⟨a, b, scaled, denominator, ratio⟩ := p.magnitude_ratio
  have bq : (0 : ℚ) < b := by exact_mod_cast denominator
  have natAbs : p.trunc.natAbs = a / b := by
    unfold Parts.trunc
    rw [scaled]
    cases p.neg <;> simp only [Bool.false_eq_true, if_false, if_true, Int.natAbs_neg, Int.natAbs_natCast]
  have below : a < (a / b + 1) * b := by
    rw [Nat.add_mul, one_mul]
    exact Nat.lt_div_mul_add denominator
  have belowQ : (a : ℚ) < ((a / b : Nat) + 1) * b := by exact_mod_cast below
  rw [p.abs_value, ← ratio, natAbs, div_lt_iff₀ bq]
  exact belowQ

theorem Parts.trunc_value (integral : p.isIntegral = true) : (p.trunc : ℚ) = p.value := by
  obtain ⟨a, b, scaled, denominator, ratio⟩ := p.magnitude_ratio
  unfold Parts.isIntegral at integral
  rw [scaled, beq_iff_eq] at integral
  have divides : ((a / b : Nat) : ℚ) = a / b :=
    Nat.cast_div (Nat.dvd_of_mod_eq_zero integral) (by exact_mod_cast denominator.ne')
  unfold Parts.trunc Parts.value
  rw [scaled, ← ratio]
  cases p.neg <;> simp only [Bool.false_eq_true, if_false, if_true, Int.cast_neg, Int.cast_natCast, divides]

theorem Parts.floor_eq (p : Parts) : p.floor = ⌊p.value⌋ := by
  obtain ⟨a, b, scaled, denominator, ratio⟩ := p.magnitude_ratio
  have bq : (0 : ℚ) < b := by exact_mod_cast denominator
  unfold Parts.floor Parts.value
  rw [scaled, ← ratio]
  cases p.neg
  · simp only [Bool.false_eq_true, if_false]
    rw [Rat.floor_natCast_div_natCast]
    rfl
  · -- below zero the floor is minus the ceiling of the magnitude, `(a + b - 1) / b`
    simp only [if_true]
    rw [eq_comm, Int.floor_eq_iff]
    set k := (a + b - 1) / b with kDef
    have divMod : k * b + (a + b - 1) % b = a + b - 1 := by
      rw [kDef, Nat.mul_comm]
      exact Nat.div_add_mod _ _
    have remainder := Nat.mod_lt (a + b - 1) denominator
    have atMost : a ≤ k * b := by omega
    have above : k * b < a + b := by omega
    have atMostQ : (a : ℚ) ≤ k * b := by exact_mod_cast atMost
    have aboveQ : (k : ℚ) * b < a + b := by exact_mod_cast above
    push_cast
    constructor
    · rw [neg_le_neg_iff, div_le_iff₀ bq]
      exact atMostQ
    · have below : (k : ℚ) - 1 < a / b := by
        rw [lt_div_iff₀ bq]
        linarith
      linarith

/-- Rounding finite parts to an integer, a half to even, lands within a half
of their value. -/
theorem Parts.roundEven_near (p : Parts) : |(p.roundEven : ℚ) - p.value| ≤ 1 / 2 := by
  obtain ⟨a, b, scaled, denominator, ratio⟩ := p.magnitude_ratio
  have bq : (0 : ℚ) < b := by exact_mod_cast denominator
  have exact : p.exact = (if p.neg then -(a : Int) else a, b) := by
    unfold Parts.exact
    rw [scaled]
  have value : p.value = ((if p.neg then -(a : Int) else a : Int) : ℚ) / b := by
    unfold Parts.value
    rw [← ratio]
    cases p.neg <;> simp [neg_div]
  generalize (if p.neg then -(a : Int) else a) = A at exact value
  have low := Int.floor_le p.value
  have high := Int.lt_floor_add_one p.value
  unfold Parts.roundEven
  rw [exact, p.floor_eq]
  dsimp only
  generalize ⌊p.value⌋ = fl at low high
  rw [value] at low high ⊢
  -- twice the fraction `A / b - fl`, in units of `b`, decides the rounding
  have doubled : 2 * ((A : ℚ) - fl * b) = 2 * ((A : ℚ) / b - fl) * b := by
    field_simp
  have tie : ¬2 * (A - fl * b) < b → ¬2 * (A - fl * b) > b → 2 * ((A : ℚ) / b - fl) = 1 := by
    intro notBelow notAbove
    apply mul_right_cancel₀ bq.ne'
    rw [← doubled, one_mul]
    exact_mod_cast (show 2 * (A - fl * b) = (b : Int) by omega)
  split_ifs with below above
  · have twice : 2 * ((A : ℚ) / b - fl) * b < 1 * b := by
      rw [← doubled, one_mul]
      exact_mod_cast below
    have half := lt_of_mul_lt_mul_right twice bq.le
    rw [abs_le]
    constructor <;> linarith
  · have twice : 1 * (b : ℚ) < 2 * ((A : ℚ) / b - fl) * b := by
      rw [← doubled, one_mul]
      exact_mod_cast above
    have half := lt_of_mul_lt_mul_right twice bq.le
    push_cast
    rw [abs_le]
    constructor <;> linarith
  · -- a tie: either neighbour is a half away, and the even one is taken
    have half := tie below above
    rw [abs_le]
    constructor <;> linarith
  · have half := tie below above
    push_cast
    rw [abs_le]
    constructor <;> linarith

end Integers

end FieldCalc.Binary
