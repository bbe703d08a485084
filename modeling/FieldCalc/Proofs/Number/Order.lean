import Mathlib
import FieldCalc.Proofs.Number.Rounding
import FieldCalc.Number.Basic

/-!
# The order of numbers

A finite float has an exact value, `±m · 2^e` (`Parts.value`), and every
finite number a value in `ℚ` (`Number.value`). The float comparisons of the
library work on the unpacked IEEE 754 form and compare sign, then exponent,
then significand; on the canonical form a float unpacks to (`Parts.unpacked`)
that is the order of exact values (`Parts.unpacked_compare`), because a
larger exponent belongs to a normal significand. Comparing an integer with a
float is exact by construction. So `Number.compare` orders every pair of
finite numbers by their exact values, integers of any size included
(`Number.compare_eq_value`).
-/

namespace FieldCalc.Binary

open Float.Model Float.Model.UnpackedFloat

def unpackedSign (neg : Bool) : Sign := if neg then .negative else .positive

/-- The unpacked form of finite parts: a signed zero or a finite float. -/
def Parts.unpacked (p : Parts) : UnpackedFloat :=
  if h : p.mantissa = 0 then .zero (unpackedSign p.neg)
  else .finite (unpackedSign p.neg) p.mantissa p.exp (Nat.pos_of_ne_zero h)

section Unpacking

theorem unpackMantissa_toNat (b : BitVec 64) :
    (@unpackMantissa Format.binary64 b).toNat = b.toNat % 2 ^ 52 := by
  simp [unpackMantissa, BitVec.extractLsb_toNat]

theorem unpackSign_toNat (b : BitVec 64) :
    (@unpackSign Format.binary64 b).toNat = b.toNat / 2 ^ 63 := by
  have := b.isLt
  simp [unpackSign, BitVec.extractLsb_toNat, Nat.shiftRight_eq_div_pow]
  omega

theorem unpackSign_eq (x : Float) :
    Sign.ofBitVec (@unpackSign Format.binary64 x.toModel.toBits.toBitVec) =
      unpackedSign (signBit x) := by
  have bit := unpackSign_toNat x.toModel.toBits.toBitVec
  have below := x.toBits.toNat_lt
  have sign := signBit_iff x
  change _ = x.toBits.toNat / 2 ^ 63 at bit
  unfold Sign.ofBitVec unpackedSign
  by_cases negative : signBit x = true
  · have set : (@unpackSign Format.binary64 x.toModel.toBits.toBitVec) ≠ 0#1 := by
      intro zero
      rw [zero] at bit
      have := sign.mp negative
      simp at bit
      omega
    simp [negative, set]
  · have clear : (@unpackSign Format.binary64 x.toModel.toBits.toBitVec) = 0#1 := by
      apply BitVec.eq_of_toNat_eq
      rw [bit]
      have := mt sign.mpr negative
      simp
      omega
    simp [negative, clear]

theorem unpack_of_parts {x : Float} {p : Parts} (parts : parts? x = some p) :
    x.toModel.unpack = p.unpacked := by
  have exponent : (@unpackExponent Format.binary64 x.toModel.toBits.toBitVec).toNat = biasedExp x := by
    rw [unpackExponent_toNat, biasedExp_eq]
    rfl
  have mantissa : (@unpackMantissa Format.binary64 x.toModel.toBits.toBitVec).toNat = fraction x := by
    rw [unpackMantissa_toNat, fraction_eq]
    rfl
  have sign := unpackSign_eq x
  have exponentBelow := biasedExp_lt x
  have fractionBelow := fraction_lt x
  unfold parts? at parts
  unfold Float.Model.unpack UnpackedFloat.unpack
  dsimp only at parts ⊢
  have notTop : ¬(@unpackExponent Format.binary64 x.toModel.toBits.toBitVec) = -1#11 := by
    intro top
    have : biasedExp x = 2047 := by rw [← exponent, top]; rfl
    simp [this] at parts
  rw [if_neg notTop, sign]
  by_cases least : biasedExp x = 0
  · -- a zero or a subnormal: the exponent field is zero
    have zeroE : (@unpackExponent Format.binary64 x.toModel.toBits.toBitVec) = 0#11 :=
      BitVec.eq_of_toNat_eq (by rw [exponent, least]; rfl)
    simp only [least, show (0 : Nat) ≠ 0x7FF by decide, beq_self_eq_true, beq_iff_eq,
      if_false, if_true, Option.some.injEq] at parts
    subst parts
    rw [if_pos zeroE, Parts.unpacked]
    by_cases zeroM : fraction x = 0
    · have zeroM' : (@unpackMantissa Format.binary64 x.toModel.toBits.toBitVec) = 0#52 :=
        BitVec.eq_of_toNat_eq (by rw [mantissa, zeroM]; rfl)
      rw [dif_pos zeroM', dif_pos zeroM]
    · have nonzeroM : ¬(@unpackMantissa Format.binary64 x.toModel.toBits.toBitVec) = 0#52 :=
        fun zero => zeroM (by rw [← mantissa, zero]; rfl)
      rw [dif_neg nonzeroM, dif_neg zeroM]
      simp only [UnpackedFloat.finite.injEq, mantissa, zeroE, true_and]
      simp [Format.exponentBias]
  · -- a normal float: the hidden bit is set
    have nonzeroE : ¬(@unpackExponent Format.binary64 x.toModel.toBits.toBitVec) = 0#11 :=
      fun zero => least (by rw [← exponent, zero]; rfl)
    have notTop' : biasedExp x ≠ 2047 := fun top => notTop (BitVec.eq_of_toNat_eq (by rw [exponent, top]; rfl))
    simp only [least, notTop', beq_iff_eq, if_false, Option.some.injEq] at parts
    subst parts
    have full : (1#1 ++ @unpackMantissa Format.binary64 x.toModel.toBits.toBitVec).toNat =
        fraction x + 2 ^ 52 := by
      rw [BitVec.toNat_append, ← Nat.shiftLeft_add_eq_or_of_lt (by omega), mantissa]
      simp [Nat.shiftLeft_eq]
      omega
    rw [if_neg nonzeroE, Parts.unpacked, dif_neg (by simp)]
    simp only [UnpackedFloat.finite.injEq, full, exponent, true_and]
    simp [Format.exponentBias]

end Unpacking

section Values

def Parts.value (p : Parts) : ℚ :=
  if p.neg then -((p.mantissa : ℚ) * 2 ^ p.exp) else (p.mantissa : ℚ) * 2 ^ p.exp

variable {p q : Parts}

theorem magnitude_lt_of_exp_lt (vp : p.Valid) (vq : q.Valid) (lt : p.exp < q.exp) :
    (p.mantissa : ℚ) * 2 ^ p.exp < q.mantissa * 2 ^ q.exp := by
  have normal : 2 ^ 52 ≤ q.mantissa := vq.normal_or_least.resolve_right (by have := vp.least_le; omega)
  have below : (p.mantissa : ℚ) < 2 ^ 53 := by exact_mod_cast vp.mantissa_lt
  have above : (2 : ℚ) ^ 52 ≤ q.mantissa := by exact_mod_cast normal
  calc (p.mantissa : ℚ) * 2 ^ p.exp < 2 ^ 53 * 2 ^ p.exp := by gcongr
    _ = 2 ^ 52 * 2 ^ (p.exp + 1) := by rw [zpow_add₀ two_ne_zero]; ring
    _ ≤ 2 ^ 52 * 2 ^ q.exp := by
        have : (2 : ℚ) ^ (p.exp + 1) ≤ 2 ^ q.exp := zpow_le_zpow_right₀ (by norm_num) (by omega)
        gcongr
    _ ≤ q.mantissa * 2 ^ q.exp := by gcongr

theorem compare_magnitude (vp : p.Valid) (vq : q.Valid) :
    (compare p.exp q.exp).then (compare p.mantissa q.mantissa) =
      compare ((p.mantissa : ℚ) * 2 ^ p.exp) (q.mantissa * 2 ^ q.exp) := by
  rcases lt_trichotomy p.exp q.exp with lt | same | gt
  · rw [Int.compare_eq_lt.mpr lt, compare_lt_iff_lt.mpr (magnitude_lt_of_exp_lt vp vq lt)]
    rfl
  · -- one exponent: the significands decide
    have scale : StrictMono fun m : ℚ => m * 2 ^ q.exp := strictMono_mul_right_of_pos (by positivity)
    rw [same, Int.compare_eq_eq.mpr rfl]
    show compare p.mantissa q.mantissa = compare ((p.mantissa : ℚ) * 2 ^ q.exp) (q.mantissa * 2 ^ q.exp)
    rw [← cmp_eq_compare, ← cmp_eq_compare, scale.cmp_map_eq, Nat.strictMono_cast.cmp_map_eq]
  · rw [Int.compare_eq_gt.mpr gt, compare_gt_iff_gt.mpr (magnitude_lt_of_exp_lt vq vp gt)]
    rfl

theorem magnitude_pos (nonzero : 0 < p.mantissa) : 0 < (p.mantissa : ℚ) * 2 ^ p.exp := by
  have : (0 : ℚ) < p.mantissa := by exact_mod_cast nonzero
  positivity

theorem eq_compare {x y : ℚ} {o : Ordering} (holds : o.Compares x y) : o = compare x y :=
  ((compare_iff x y).mpr holds).symm

/-- The float comparison of canonical unpacked forms is the order of their
exact values. -/
theorem Parts.unpacked_compare (vp : p.Valid) (vq : q.Valid) :
    p.unpacked.compare q.unpacked = some (compare p.value q.value) := by
  have lex := compare_magnitude vp vq
  unfold Parts.unpacked Parts.value
  rcases Nat.eq_zero_or_pos p.mantissa with zp | pp <;>
    rcases Nat.eq_zero_or_pos q.mantissa with zq | qq
  · cases p.neg <;> cases q.neg <;> simp [zp, zq, UnpackedFloat.compare, unpackedSign]
  · have b := magnitude_pos qq
    cases p.neg <;> cases q.neg <;>
      simp [zp, qq.ne', UnpackedFloat.compare, unpackedSign] <;>
      exact eq_compare (by simp [Ordering.Compares]; linarith)
  · have a := magnitude_pos pp
    cases p.neg <;> cases q.neg <;>
      simp [pp.ne', zq, UnpackedFloat.compare, unpackedSign] <;>
      exact eq_compare (by simp [Ordering.Compares]; linarith)
  · have a := magnitude_pos pp
    have b := magnitude_pos qq
    cases p.neg <;> cases q.neg <;> simp only [pp.ne', qq.ne', UnpackedFloat.compare,
      unpackedSign, dite_false, if_false, if_true, Bool.false_eq_true, Option.some.injEq]
    · exact lex
    · exact eq_compare (by simp [Ordering.Compares]; linarith)
    · exact eq_compare (by simp [Ordering.Compares]; linarith)
    · have negation : StrictAnti fun x : ℚ => -x := fun _ _ lt => neg_lt_neg lt
      rw [lex, ← cmp_eq_compare, ← cmp_eq_compare, cmp_swap, negation.cmp_map_eq]

end Values

theorem UnpackedFloat.compare_swap (u v : UnpackedFloat) :
    v.compare u = (u.compare v).map Ordering.swap := by
  have lex : ∀ (e e' : Int) (m m' : Nat),
      (compare e' e).then (compare m' m) = ((compare e e').then (compare m m')).swap := by
    intro e e' m m'
    rw [Ordering.swap_then, ← Std.OrientedOrd.eq_swap, ← Std.OrientedOrd.eq_swap]
  rcases u with (_ | _) | _ | (_ | _) | ⟨(_ | _), m, e, h⟩ <;>
    rcases v with (_ | _) | _ | (_ | _) | ⟨(_ | _), m', e', h'⟩ <;>
    simp [UnpackedFloat.compare]
  case finite.positive.finite.positive => exact lex e e' m m'
  case finite.negative.finite.negative => rw [lex, Ordering.swap_swap]
  all_goals rfl

section Floats

variable {x y : Float} {p q : Parts}

theorem float_beq_comm (x y : Float) : (x == y) = (y == x) := by
  show (x.toModel.unpack.compare y.toModel.unpack == some .eq) =
    (y.toModel.unpack.compare x.toModel.unpack == some .eq)
  rw [UnpackedFloat.compare_swap x.toModel.unpack]
  cases x.toModel.unpack.compare y.toModel.unpack with
  | none => rfl
  | some o => cases o <;> rfl

theorem float_not_lt_of_beq (equal : (x == y) = true) : ¬x < y := by
  show ¬x.lt y = true
  simp only [Float.lt, decide_eq_true_eq]
  show ¬(x.toModel.unpack.compare y.toModel.unpack == some .lt) = true
  change (x.toModel.unpack.compare y.toModel.unpack == some .eq) = true at equal
  revert equal
  cases x.toModel.unpack.compare y.toModel.unpack with
  | none => decide
  | some o => cases o <;> decide

theorem unpack_compare (px : parts? x = some p) (qy : parts? y = some q) :
    x.toModel.unpack.compare y.toModel.unpack = some (compare p.value q.value) := by
  rw [unpack_of_parts px, unpack_of_parts qy]
  exact Parts.unpacked_compare (parts?_spec px).1 (parts?_spec qy).1

theorem float_lt_iff (px : parts? x = some p) (qy : parts? y = some q) :
    x < y ↔ compare p.value q.value = .lt := by
  show x.lt y = true ↔ _
  simp only [Float.lt, decide_eq_true_eq]
  show (x.toModel.unpack.compare y.toModel.unpack == some .lt) = true ↔ _
  rw [unpack_compare px qy]
  generalize compare p.value q.value = o
  cases o <;> decide

theorem float_beq_iff (px : parts? x = some p) (qy : parts? y = some q) :
    (x == y) = true ↔ compare p.value q.value = .eq := by
  show (x.toModel.unpack.compare y.toModel.unpack == some .eq) = true ↔ _
  rw [unpack_compare px qy]
  generalize compare p.value q.value = o
  cases o <;> decide

end Floats

/-- Comparing an integer with finite parts is exact: it is the order of the
integer and the value of the parts. -/
theorem compareIntParts_eq (n : Int) (p : Parts) : compareIntParts n p = compare (n : ℚ) p.value := by
  have ratio := scaleFraction_ratio p.mantissa 1 p.exp
  have positive : 0 < (scaleFraction p.mantissa 1 p.exp).2 := scaleFraction_den_pos Nat.one_pos p.exp
  unfold compareIntParts Parts.exact Parts.value
  generalize scaleFraction p.mantissa 1 p.exp = scaled at ratio positive ⊢
  obtain ⟨a, b⟩ := scaled
  dsimp only at ratio positive ⊢
  rw [Nat.cast_one, div_one] at ratio
  have value : (if p.neg then -((p.mantissa : ℚ) * 2 ^ p.exp) else (p.mantissa : ℚ) * 2 ^ p.exp) =
      ((if p.neg then -(a : Int) else (a : Int) : Int) : ℚ) / b := by
    rw [← ratio]
    split <;> push_cast <;> ring
  have scale : StrictMono fun r : ℚ => r * b := strictMono_mul_right_of_pos (by exact_mod_cast positive)
  have cast : StrictMono fun z : Int => (z : ℚ) := Int.cast_strictMono
  rw [value, ← cmp_eq_compare, ← cmp_eq_compare, ← scale.cmp_map_eq, ← cast.cmp_map_eq]
  rw [div_mul_cancel₀ _ (by exact_mod_cast positive.ne')]
  push_cast
  rfl

end FieldCalc.Binary

namespace FieldCalc

open Binary

/-- The exact value of a finite number. -/
def Number.value : Number → ℚ
  | .int n => n
  | .float x =>
    match parts? x with
    | some p => p.value
    | none => 0

/-- A number that has a value: an integer or a finite float. -/
def Number.Finite : Number → Prop
  | .int _ => True
  | .float x => x.isFinite = true

instance : DecidablePred Number.Finite
  | .int _ => isTrue trivial
  | .float x => inferInstanceAs (Decidable (x.isFinite = true))

namespace Number

theorem value_float {x : Float} {p : Parts} (px : parts? x = some p) :
    (Number.float x).value = p.value := by
  simp [Number.value, px]

theorem compare_float {x y : Float} {p q : Parts} (px : parts? x = some p) (qy : parts? y = some q) :
    (Number.float x).compare (.float y) = Ord.compare p.value q.value := by
  show (if x < y then Ordering.lt else if x == y then Ordering.eq else Ordering.gt) = _
  rcases order : Ord.compare p.value q.value
  · rw [if_pos ((float_lt_iff px qy).mpr order)]
  · rw [if_neg (by rw [float_lt_iff px qy, order]; decide), if_pos ((float_beq_iff px qy).mpr order)]
  · rw [if_neg (by rw [float_lt_iff px qy, order]; decide),
      if_neg (by rw [float_beq_iff px qy, order]; decide)]

/-- Numbers are ordered by their exact values: integers of any size and
finite floats alike. -/
theorem compare_eq_value {x y : Number} (fx : x.Finite) (fy : y.Finite) :
    x.compare y = Ord.compare x.value y.value := by
  have cast : StrictMono fun z : Int => (z : ℚ) := Int.cast_strictMono
  cases x with
  | int a =>
    cases y with
    | int b =>
      show Ord.compare a b = Ord.compare (a : ℚ) b
      rw [← cmp_eq_compare, ← cmp_eq_compare, cast.cmp_map_eq]
    | float y =>
      obtain ⟨q, qy⟩ := parts?_isSome fy
      simp only [Number.compare, qy, compareIntParts_eq, value_float qy]
      rfl
  | float x =>
    obtain ⟨p, px⟩ := parts?_isSome fx
    cases y with
    | int b =>
      simp only [Number.compare, px, compareIntParts_eq, value_float px]
      rw [← cmp_eq_compare, ← cmp_eq_compare, cmp_swap]
      rfl
    | float y =>
      obtain ⟨q, qy⟩ := parts?_isSome fy
      rw [compare_float px qy, value_float px, value_float qy]

theorem eqv_eq_value {x y : Number} (fx : x.Finite) (fy : y.Finite) :
    x.eqv y = decide (x.value = y.value) := by
  rw [eqv, compare_eq_value fx fy]
  cases order : Ord.compare x.value y.value
  all_goals simp only [compare_lt_iff_lt, compare_eq_iff_eq, compare_gt_iff_gt] at order
  · simp [order.ne]
  · simp [order]
  · simp [order.ne']

theorem eqv_float (x y : Float) : (Number.float x).eqv (.float y) = (x == y) := by
  show ((if x < y then Ordering.lt else if x == y then Ordering.eq else Ordering.gt) == .eq) = (x == y)
  by_cases equal : (x == y) = true
  · rw [if_neg (float_not_lt_of_beq equal), if_pos equal, equal]
    rfl
  · by_cases lt : x < y
    · simp [lt, equal]
    · simp [lt, equal]

theorem eqv_comm (x y : Number) : x.eqv y = y.eqv x := by
  cases x with
  | int a =>
    cases y with
    | int b =>
      show (Ord.compare a b == .eq) = (Ord.compare b a == .eq)
      rw [Std.OrientedOrd.eq_swap (a := a)]
      cases Ord.compare b a <;> rfl
    | float y =>
      -- against a float, the integer is compared one way round and the result swapped
      simp only [eqv, Number.compare]
      cases parts? y with
      | some p =>
        dsimp only
        cases compareIntParts a p <;> rfl
      | none =>
        dsimp only
        cases signBit y <;> rfl
  | float x =>
    cases y with
    | int b =>
      simp only [eqv, Number.compare]
      cases parts? x with
      | some p =>
        dsimp only
        cases compareIntParts b p <;> rfl
      | none =>
        dsimp only
        cases signBit x <;> rfl
    | float y => rw [eqv_float, eqv_float, float_beq_comm]

end Number

end FieldCalc
