import FieldCalc.Proofs.Number.StoredForm
import FieldCalc.Proofs.Number.Order

/-!
# Floats of whole numbers

A whole number below `2^53` is a float exactly: its bits, shifted up to a
normal significand, are the parts of the float `ofInt` gives it
(`ofInt_eq_toFloat`), which reads back as the integer (`exactInt?_ofInt`). On
such floats the arithmetic of the library is exact. Rounding a significand whose
dropped bits are all zero drops nothing (`roundWithAccuracy_whole`), so the
product of two of them is the float of the product while it stays below
`2^53` (`ofInt_mul_ofNat`); a float less itself is positive zero
(`sub_self_of_parts`); and a multiple of a scale divided by the scale is the
float of the quotient (`ofFraction_mul_div`).
-/

namespace FieldCalc.Binary

open Float.Model Float.Model.UnpackedFloat

section Whole

/-- The parts of a positive whole number below `2^53`: its bits shifted up to
a normal significand. -/
def wholeParts (neg : Bool) (N : Nat) : Parts :=
  ⟨neg, N * 2 ^ (52 - N.log2), (N.log2 : Int) - 52⟩

variable {N : Nat}

theorem wholeParts_valid (neg : Bool) (pos : 0 < N) (lt : N < 2 ^ 53) : (wholeParts neg N).Valid := by
  have low : 2 ^ N.log2 ≤ N := Nat.log2_self_le pos.ne'
  have high : N < 2 ^ (N.log2 + 1) := Nat.lt_log2_self
  have bits : N.log2 < 53 := (Nat.log2_lt pos.ne').mpr lt
  refine ⟨?_, .inl ?_, ?_, ?_⟩ <;> simp only [wholeParts]
  · calc N * 2 ^ (52 - N.log2) < 2 ^ (N.log2 + 1) * 2 ^ (52 - N.log2) :=
          Nat.mul_lt_mul_of_pos_right high (by positivity)
      _ = 2 ^ 53 := by rw [← Nat.pow_add]; congr 1; omega
  · calc 2 ^ 52 = 2 ^ N.log2 * 2 ^ (52 - N.log2) := by rw [← Nat.pow_add]; congr 1; omega
      _ ≤ N * 2 ^ (52 - N.log2) := Nat.mul_le_mul_right _ low
  · omega
  · omega

theorem wholeParts_value (neg : Bool) (pos : 0 < N) (lt : N < 2 ^ 53) :
    ((wholeParts neg N).mantissa : ℚ) * 2 ^ (wholeParts neg N).exp = N := by
  have bits : N.log2 < 53 := (Nat.log2_lt pos.ne').mpr lt
  have cancel : ((52 - N.log2 : Nat) : Int) + ((N.log2 : Int) - 52) = 0 := by omega
  simp only [wholeParts]
  rw [Nat.cast_mul, Nat.cast_pow, Nat.cast_ofNat, mul_assoc, ← zpow_natCast,
    ← zpow_add₀ two_ne_zero, cancel, zpow_zero, mul_one]

theorem Parts.lowGap_pos (p : Parts) : 0 < p.lowGap := by
  unfold Parts.lowGap
  split <;> omega

theorem roundsTo_self {m : Nat} {e : Int} {g : Nat} (gap : 0 < g) : RoundsTo m e g (m * 2 ^ e) := by
  have scaled : (m : ℚ) * 2 ^ e * 2 ^ (-e) = m := by
    rw [mul_assoc, ← zpow_add₀ two_ne_zero, add_neg_cancel, zpow_zero, mul_one]
  have gapQ : (0 : ℚ) < g := by exact_mod_cast gap
  refine ⟨.inl ?_, .inl ?_⟩ <;> rw [scaled] <;> linarith

theorem ofInt_eq_toFloat {k : Int} (nonzero : k ≠ 0) (small : k.natAbs < 2 ^ 53) :
    ofInt k = (wholeParts (decide (k < 0)) k.natAbs).toFloat := by
  have pos : 0 < k.natAbs := Int.natAbs_pos.mpr nonzero
  have valid := wholeParts_valid (decide (k < 0)) pos small
  have mantissa : (wholeParts (decide (k < 0)) k.natAbs).mantissa ≠ 0 := by
    simp only [wholeParts]
    positivity
  unfold ofInt
  apply ofFraction_eq_of_roundsTo (parts?_toFloat valid) mantissa Nat.one_pos
  rw [Nat.cast_one, div_one, ← wholeParts_value (decide (k < 0)) pos small]
  exact roundsTo_self (Parts.lowGap_pos _)

theorem Parts.trunc_eq (p : Parts) :
    p.trunc = if p.neg then -(p.trunc.natAbs : Int) else (p.trunc.natAbs : Int) := by
  unfold Parts.trunc
  cases p.neg <;> simp only [Bool.false_eq_true, if_false, if_true, Int.natAbs_neg, Int.natAbs_natCast]

theorem Number.exactInt?_eq_of_value {x : Float} {p : Parts} (parts : parts? x = some p) {N : Nat}
    (lt : N < 2 ^ 53) (value : (p.mantissa : ℚ) * 2 ^ p.exp = N) :
    Number.exactInt? x = some (if p.neg then -(N : Int) else N) := by
  obtain ⟨integral, natAbs⟩ := Parts.integral_of_value value
  rw [← natAbs, ← Parts.trunc_eq]
  simp only [Number.exactInt?, parts, integral, natAbs, Nat.pow_eq, lt, decide_true, Bool.and_self,
    if_true]

theorem exactInt?_ofInt {k : Int} (small : k.natAbs < 2 ^ 53) :
    Number.exactInt? (ofInt k) = some k := by
  by_cases zero : k = 0
  · subst zero
    have valid : (⟨false, 0, -1074⟩ : Parts).Valid := ⟨by norm_num, .inr rfl, le_rfl, by norm_num⟩
    have float : ofInt 0 = (⟨false, 0, -1074⟩ : Parts).toFloat := rfl
    rw [float, Number.exactInt?_eq_of_value (parts?_toFloat valid) (show 0 < 2 ^ 53 by norm_num)
      (by simp)]
    rfl
  have pos : 0 < k.natAbs := Int.natAbs_pos.mpr zero
  have parts := parts?_toFloat (wholeParts_valid (decide (k < 0)) pos small)
  rw [ofInt_eq_toFloat zero small,
    Number.exactInt?_eq_of_value parts small (wholeParts_value (decide (k < 0)) pos small)]
  by_cases negative : k < 0 <;> simp only [wholeParts, negative, decide_true, decide_false,
    if_true, Bool.false_eq_true, if_false, Option.some.injEq] <;> omega

end Whole

section Exact

theorem model_pack_unpack (m : Float.Model) : Float.Model.pack m.unpack = m := by
  obtain ⟨bits, valid⟩ := m
  simp only [Float.Model.pack, Float.Model.unpack, pack_unpack valid]

theorem zero_eq_pack : zero false = Float.ofModel (Float.Model.pack (.zero .positive)) := rfl

theorem sub_self_of_parts {x : Float} {p : Parts} (parts : parts? x = some p) :
    x - x = zero false := by
  show Float.ofModel (Float.Model.pack
    (UnpackedFloat.sub Format.binary64 x.toModel.unpack x.toModel.unpack)) = _
  rw [unpack_of_parts parts, zero_eq_pack]
  congr 2
  unfold Parts.unpacked
  split
  · cases p.neg <;> rfl
  · simp [UnpackedFloat.sub, UnpackedFloat.normalize]

theorem shiftRight_exact (M k : Nat) (dvd : 2 ^ k ∣ M) :
    (⟨M, false, false⟩ : ExtendedMantissa) >>> k = ⟨M / 2 ^ k, false, false⟩ := by
  induction k with
  | zero => simp only [Nat.pow_zero, Nat.div_one]; rfl
  | succ k ih =>
    have step : (⟨M, false, false⟩ : ExtendedMantissa) >>> (k + 1) =
        ExtendedMantissa.shiftRightOne ((⟨M, false, false⟩ : ExtendedMantissa) >>> k) := rfl
    rw [step, ih (Nat.dvd_trans (Nat.pow_dvd_pow 2 (Nat.le_succ k)) dvd)]
    obtain ⟨c, rfl⟩ := dvd
    have quotient : 2 ^ (k + 1) * c / 2 ^ k = 2 * c :=
      Nat.div_eq_of_eq_mul_left (Nat.two_pow_pos k) (by rw [Nat.pow_succ]; ac_rfl)
    have quotient' : 2 ^ (k + 1) * c / 2 ^ (k + 1) = c :=
      Nat.mul_div_cancel_left _ (Nat.two_pow_pos _)
    simp [ExtendedMantissa.shiftRightOne, quotient, quotient']

theorem log2_mul_pow {N : Nat} (pos : 0 < N) (k : Nat) : (N * 2 ^ k).log2 = N.log2 + k := by
  have low : 2 ^ N.log2 ≤ N := Nat.log2_self_le pos.ne'
  have high : N < 2 ^ (N.log2 + 1) := Nat.lt_log2_self
  rw [Nat.log2_eq_iff (Nat.mul_ne_zero pos.ne' (Nat.two_pow_pos k).ne')]
  constructor
  · rw [Nat.pow_add]; exact Nat.mul_le_mul_right _ low
  · rw [show N.log2 + k + 1 = N.log2 + 1 + k by omega, Nat.pow_add]
    exact Nat.mul_lt_mul_of_pos_right high (Nat.two_pow_pos k)

/-- Rounding a whole number below `2^53`, given as a significand with zero bits
below, is exact: it shifts the zero bits out down to the normal significand. -/
theorem roundWithAccuracy_whole (s : Sign) {N k : Nat} (pos : 0 < N) (lt : N < 2 ^ 53)
    (enough : 52 ≤ N.log2 + k) :
    roundWithAccuracy Format.binary64 s (N * 2 ^ k) (-(k : Int)) .exact =
      .finite s (N * 2 ^ (52 - N.log2)) ((N.log2 : Int) - 52)
        (Nat.mul_pos pos (Nat.two_pow_pos _)) := by
  have bits : N.log2 < 53 := (Nat.log2_lt pos.ne').mpr lt
  have target : Format.binary64.targetExponent (totalExponent (N * 2 ^ k) (-(k : Int))) =
      (N.log2 : Int) - 52 := by
    simp only [Format.targetExponent, totalExponent, log2_mul_pow pos, Format.mantissaBits,
      Format.minExponent]
    omega
  have divides : 2 ^ (N.log2 + k - 52) ∣ N * 2 ^ k :=
    Nat.dvd_trans (Nat.pow_dvd_pow 2 (by omega)) (Nat.dvd_mul_left _ N)
  have quotient : N * 2 ^ k / 2 ^ (N.log2 + k - 52) = N * 2 ^ (52 - N.log2) := by
    apply Nat.div_eq_of_eq_mul_left (Nat.two_pow_pos _)
    rw [Nat.mul_assoc, ← Nat.pow_add]
    congr 2
    omega
  have target' : Format.binary64.targetExponent (totalExponent (N * 2 ^ (52 - N.log2)) ((N.log2 : Int) - 52)) =
      (N.log2 : Int) - 52 := by
    simp only [Format.targetExponent, totalExponent, log2_mul_pow pos, Format.mantissaBits,
      Format.minExponent]
    omega
  have firstShift : ((N.log2 : Int) - 52 - -(k : Int)).toNat = N.log2 + k - 52 := by omega
  have shifted : -(k : Int) + ((N.log2 + k - 52 : Nat) : Int) = (N.log2 : Int) - 52 := by omega
  have noShift : ∀ em : ExtendedMantissa, em >>> 0 = em := fun _ => rfl
  have nonzero : N * 2 ^ (52 - N.log2) ≠ 0 := Nat.mul_ne_zero pos.ne' (Nat.two_pow_pos _).ne'
  unfold roundWithAccuracy shiftToTargetExponent shiftToExponent
  simp only [target, ExtendedMantissa.ofMantissaAndAccuracy, firstShift, shiftRight_exact _ _ divides,
    quotient, ExtendedMantissa.roundedMantissa, ExtendedMantissa.accuracy,
    Accuracy.roundToNearestEven, shifted, target', Int.sub_self, Int.toNat_zero, noShift,
    nonzero, dite_false, Int.natCast_zero, Int.add_zero]

theorem pack_unpacked {p : Parts} (valid : p.Valid) :
    Float.Model.pack p.unpacked = p.toFloat.toModel := by
  rw [← unpack_of_parts (parts?_toFloat valid), model_pack_unpack]

theorem wholeParts_unpacked (neg : Bool) {N : Nat} (pos : 0 < N) :
    (wholeParts neg N).unpacked =
      .finite (unpackedSign neg) (N * 2 ^ (52 - N.log2)) ((N.log2 : Int) - 52)
        (Nat.mul_pos pos (Nat.two_pow_pos _)) := by
  unfold Parts.unpacked
  rw [dif_neg (show (wholeParts neg N).mantissa ≠ 0 from
    Nat.mul_ne_zero pos.ne' (Nat.two_pow_pos _).ne')]
  rfl

theorem decide_mul_neg (k : Int) {j : Nat} (pos : 0 < j) : decide (k * j < 0) = decide (k < 0) := by
  by_cases negative : k < 0
  · simp [negative, Int.mul_neg_of_neg_of_pos negative (by omega : (0 : Int) < j)]
  · simp [negative, Int.mul_nonneg (by omega : 0 ≤ k) (by omega : (0 : Int) ≤ j)]

/-- The product of the floats of two integers, the second positive, is the
float of their product while it stays below `2^53`: the product of the
significands is exact. -/
theorem ofInt_mul_ofNat {k : Int} {j : Nat} (pos : 0 < j) (factor : j < 2 ^ 53)
    (small : (k * j).natAbs < 2 ^ 53) : ofInt k * ofInt j = ofInt (k * j) := by
  have validJ := wholeParts_valid false pos factor
  have floatJ : ofInt j = (wholeParts false j).toFloat := by
    have float := ofInt_eq_toFloat (k := (j : Int)) (by omega) (by simpa using factor)
    rwa [show decide ((j : Int) < 0) = false from decide_eq_false (by omega), Int.natAbs_natCast] at float
  show Float.ofModel (Float.Model.pack (UnpackedFloat.mul Format.binary64 (ofInt k).toModel.unpack
    (ofInt j).toModel.unpack)) = _
  rw [floatJ, unpack_of_parts (parts?_toFloat validJ), wholeParts_unpacked false pos]
  by_cases zero : k = 0
  · subst zero
    rw [Int.zero_mul]
    rfl
  have product : (k * j).natAbs = k.natAbs * j := by rw [Int.natAbs_mul, Int.natAbs_natCast]
  have posK : 0 < k.natAbs := Int.natAbs_pos.mpr zero
  have posN : 0 < k.natAbs * j := Nat.mul_pos posK pos
  have smallK : k.natAbs < 2 ^ 53 := by
    rw [product] at small
    exact Nat.lt_of_le_of_lt (Nat.le_mul_of_pos_right _ pos) small
  have validK := wholeParts_valid (decide (k < 0)) posK smallK
  have sign := decide_mul_neg k pos
  have floatP := ofInt_eq_toFloat (Int.mul_ne_zero zero (by omega)) small
  rw [sign, product] at floatP
  rw [ofInt_eq_toFloat zero smallK, unpack_of_parts (parts?_toFloat validK),
    wholeParts_unpacked _ posK, floatP]
  show Float.ofModel _ = Float.ofModel (wholeParts (decide (k < 0)) (k.natAbs * j)).toFloat.toModel
  rw [← pack_unpacked (wholeParts_valid _ posN (product ▸ small)), wholeParts_unpacked _ posN]
  have bitsK : k.natAbs.log2 < 53 := (Nat.log2_lt posK.ne').mpr smallK
  have bitsJ : j.log2 < 53 := (Nat.log2_lt pos.ne').mpr factor
  have bitsN : k.natAbs.log2 + j.log2 ≤ (k.natAbs * j).log2 := by
    rw [Nat.le_log2 posN.ne', Nat.pow_add]
    exact Nat.mul_le_mul (Nat.log2_self_le posK.ne') (Nat.log2_self_le pos.ne')
  have significand : k.natAbs * 2 ^ (52 - k.natAbs.log2) * (j * 2 ^ (52 - j.log2)) =
      k.natAbs * j * 2 ^ (104 - k.natAbs.log2 - j.log2) := by
    rw [show 104 - k.natAbs.log2 - j.log2 = (52 - k.natAbs.log2) + (52 - j.log2) by omega, Nat.pow_add]
    ac_rfl
  have exponent : (k.natAbs.log2 : Int) - 52 + ((j.log2 : Int) - 52) =
      -((104 - k.natAbs.log2 - j.log2 : Nat) : Int) := by omega
  simp only [UnpackedFloat.mul]
  rw [significand, exponent, roundWithAccuracy_whole _ posN (product ▸ small) (by omega)]
  congr 2
  cases decide (k < 0) <;> rfl

theorem ofFraction_mul_div {k : Int} {scale : Nat} (pos : 0 < scale) (small : k.natAbs < 2 ^ 53) :
    ofFraction (decide (k * scale < 0)) (k * scale).natAbs scale = ofInt k := by
  by_cases zero : k = 0
  · subst zero
    simp [ofFraction, ofInt]
  have posK : 0 < k.natAbs := Int.natAbs_pos.mpr zero
  have valid := wholeParts_valid (decide (k < 0)) posK small
  have mantissa : (wholeParts (decide (k < 0)) k.natAbs).mantissa ≠ 0 :=
    Nat.mul_ne_zero posK.ne' (Nat.two_pow_pos _).ne'
  rw [decide_mul_neg k pos, Int.natAbs_mul, Int.natAbs_natCast, ofInt_eq_toFloat zero small]
  apply ofFraction_eq_of_roundsTo (parts?_toFloat valid) mantissa pos
  have quotient : ((k.natAbs * scale : Nat) : ℚ) / scale = k.natAbs := by
    rw [Nat.cast_mul, mul_div_assoc, div_self (by exact_mod_cast pos.ne'), mul_one]
  rw [quotient, ← wholeParts_value (decide (k < 0)) posK small]
  exact roundsTo_self (Parts.lowGap_pos _)

end Exact

section Integral

theorem parts?_ofInt {k : Int} (small : k.natAbs < 2 ^ 53) :
    ∃ p, parts? (ofInt k) = some p ∧ p.neg = decide (k < 0) ∧
      (p.mantissa : ℚ) * 2 ^ p.exp = k.natAbs := by
  by_cases zero : k = 0
  · subst zero
    exact ⟨⟨false, 0, -1074⟩, by decide, rfl, by simp⟩
  have posK : 0 < k.natAbs := Int.natAbs_pos.mpr zero
  rw [ofInt_eq_toFloat zero small]
  exact ⟨_, parts?_toFloat (wholeParts_valid _ posK small), rfl, wholeParts_value _ posK small⟩

/-- A float of integer value `k`, in exact form, is `k` over a positive
denominator, and its floor is `k`. -/
theorem Parts.exact_floor_of_value {p : Parts} {k : Int} (sign : p.neg = decide (k < 0))
    (value : (p.mantissa : ℚ) * 2 ^ p.exp = k.natAbs) :
    ∃ b : Nat, 0 < b ∧ p.exact = (k * b, b) ∧ p.floor = k := by
  have ratio := scaleFraction_ratio p.mantissa 1 p.exp
  have denominator : 0 < (scaleFraction p.mantissa 1 p.exp).2 := scaleFraction_den_pos Nat.one_pos _
  rw [Nat.cast_one, div_one, value] at ratio
  unfold Parts.exact Parts.floor
  generalize scaleFraction p.mantissa 1 p.exp = scaled at ratio denominator ⊢
  obtain ⟨a, b⟩ := scaled
  dsimp only at ratio denominator ⊢
  have whole : a = k.natAbs * b := by
    have : (a : ℚ) = k.natAbs * b := by
      rw [← ratio]
      field_simp
    exact_mod_cast this
  subst whole
  have up : (k.natAbs * b + b - 1) / b = k.natAbs := by
    rw [show k.natAbs * b + b - 1 = (b - 1) + k.natAbs * b by omega,
      Nat.add_mul_div_right _ _ denominator, Nat.div_eq_of_lt (by omega), Nat.zero_add]
  have down : k.natAbs * b / b = k.natAbs := Nat.mul_div_cancel _ denominator
  refine ⟨b, denominator, ?_, ?_⟩ <;> rw [sign]
  · by_cases negative : k < 0
    · have abs : (k.natAbs : Int) = -k := by omega
      simp only [negative, decide_true, if_true, Nat.cast_mul, abs]
      congr 1
      ring
    · have abs : (k.natAbs : Int) = k := by omega
      simp only [negative, decide_false, Bool.false_eq_true, if_false, Nat.cast_mul, abs]
  · by_cases negative : k < 0
    · simp only [negative, decide_true, if_true, up]
      omega
    · simp only [negative, decide_false, Bool.false_eq_true, if_false, down]
      omega

theorem Parts.roundEven_of_value {p : Parts} {k : Int} (sign : p.neg = decide (k < 0))
    (value : (p.mantissa : ℚ) * 2 ^ p.exp = k.natAbs) : p.roundEven = k := by
  obtain ⟨b, pos, exact, floor⟩ := Parts.exact_floor_of_value sign value
  unfold Parts.roundEven
  simp only [exact, floor]
  rw [if_pos (by simp; omega)]

theorem Parts.trunc_of_value {p : Parts} {k : Int} (sign : p.neg = decide (k < 0))
    (value : (p.mantissa : ℚ) * 2 ^ p.exp = k.natAbs) : p.trunc = k := by
  obtain ⟨-, natAbs⟩ := Parts.integral_of_value value
  have signed := Parts.trunc_eq p
  rw [natAbs, sign] at signed
  rw [signed]
  by_cases negative : k < 0
  · simp only [negative, decide_true, if_true]
    omega
  · simp only [negative, decide_false, Bool.false_eq_true, if_false]
    omega

theorem isInf_of_parts {x : Float} {p : Parts} (parts : parts? x = some p) : x.isInf = false := by
  simp only [Float.isInf, Float.Model.isInf, unpack_of_parts parts, Parts.unpacked]
  split <;> rfl

end Integral

end FieldCalc.Binary
