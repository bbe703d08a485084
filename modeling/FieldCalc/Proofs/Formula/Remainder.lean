import FieldCalc.Proofs.Number.Arithmetic
import FieldCalc.Proofs.Value.RoundTrip

/-!
# Remainders

`%` takes the remainder of the floats of its operands, exactly
(`Parts.fmod_spec`): its value is the dividend's float less a whole multiple of
the divisor's, below the divisor in magnitude and zero or of the dividend's
sign (`RemainderOf`, `remainder_spec`). Floats and integers below `2^53` are
read exactly as floats (`Number.value_of_toFloat`), so for them these are the
exact values; a larger integer is rounded first. `MOD` adds the divisor to a
remainder of the other sign: for two integers below `2^53` the sum is exact and
`MOD` has the divisor's sign (`mod_int_spec`), while a float sum is rounded.
-/

namespace FieldCalc

/-- `r` is a remainder of `x` by `y` with the sign of `s`: it differs from `x`
by a whole multiple of `y`, lies below `y` in magnitude, and is zero or has the
sign of `s`. -/
def RemainderOf (x y s r : ℚ) : Prop :=
  (∃ q : Int, r = x - q * y) ∧ |r| < |y| ∧ (r = 0 ∨ (r < 0 ↔ s < 0))

theorem remainderOf_intCast {x y s r : Int} :
    RemainderOf x y s r ↔ (∃ q : Int, r = x - q * y) ∧ r.natAbs < y.natAbs ∧ (r = 0 ∨ (r < 0 ↔ s < 0)) := by
  have multiple : (∃ q : Int, (r : ℚ) = x - q * y) ↔ ∃ q : Int, r = x - q * y := by
    constructor <;> rintro ⟨q, eq⟩ <;> exact ⟨q, by exact_mod_cast eq⟩
  have below : |(r : ℚ)| < |(y : ℚ)| ↔ r.natAbs < y.natAbs := by
    rw [← Int.cast_abs, ← Int.cast_abs, Int.cast_lt, Int.abs_eq_natAbs, Int.abs_eq_natAbs, Int.ofNat_lt]
  unfold RemainderOf
  rw [multiple, below]
  simp only [Int.cast_eq_zero, Int.cast_lt_zero]

end FieldCalc

namespace FieldCalc.Binary

section Aligned

/-- Significands on one exponent: the remainder of the dividend's by the
divisor's, with the dividend's sign, is a remainder of the two values. -/
theorem remainderOf_aligned (nx ny : Bool) (a : Nat) {b : Nat} (pos : 0 < b) (e : Int) :
    RemainderOf (Parts.value ⟨nx, a, e⟩) (Parts.value ⟨ny, b, e⟩) (Parts.value ⟨nx, a, e⟩)
      (Parts.value ⟨nx, a % b, e⟩) := by
  have unit : (0 : ℚ) < 2 ^ e := by positivity
  have split : ((a % b : Nat) : ℚ) = a - (a / b : Nat) * b := by
    have whole : ((a % b : Nat) : ℚ) + b * (a / b : Nat) = a := by exact_mod_cast Nat.mod_add_div a b
    linarith
  refine ⟨⟨if nx = ny then ((a / b : Nat) : Int) else -((a / b : Nat) : Int), ?_⟩, ?_, ?_⟩
  · cases nx <;> cases ny <;>
      simp only [Parts.value, split, Bool.false_eq_true, Bool.true_eq_false, if_true, if_false, Int.cast_neg,
        Int.cast_natCast] <;> ring
  · rw [Parts.abs_value, Parts.abs_value]
    exact mul_lt_mul_of_pos_right (by exact_mod_cast Nat.mod_lt a pos) unit
  · by_cases zero : a % b = 0
    · left
      simp [Parts.value, zero]
    · -- a nonzero remainder leaves a nonzero dividend, and both carry its sign
      right
      have rest : (0 : ℚ) < ((a % b : Nat) : ℚ) * 2 ^ e := by
        have : (0 : ℚ) < ((a % b : Nat) : ℚ) := by exact_mod_cast Nat.pos_of_ne_zero zero
        positivity
      have dividend : (0 : ℚ) < (a : ℚ) * 2 ^ e := by
        have : (0 : ℚ) < a := by exact_mod_cast lt_of_lt_of_le (Nat.pos_of_ne_zero zero) (Nat.mod_le a b)
        positivity
      cases nx
      · simp only [Parts.value, Bool.false_eq_true, if_false]
        constructor <;> intro <;> linarith
      · simp only [Parts.value, if_true]
        constructor <;> intro <;> linarith

theorem Parts.value_at (p : Parts) {e : Int} (le : e ≤ p.exp) :
    p.value = Parts.value ⟨p.neg, p.mantissa * Nat.pow 2 (p.exp - e).toNat, e⟩ := by
  have shift : (2 : ℚ) ^ p.exp = 2 ^ (p.exp - e).toNat * 2 ^ e := by
    rw [← zpow_natCast, ← zpow_add₀ two_ne_zero, Int.toNat_of_nonneg (by omega), sub_add_cancel]
  unfold Parts.value
  simp only [Nat.pow_eq, Nat.cast_mul, Nat.cast_pow, Nat.cast_ofNat, shift, mul_assoc]

theorem parts?_zero (neg : Bool) : parts? (zero neg) = some ⟨neg, 0, -1074⟩ := by
  cases neg <;> decide

end Aligned

/-- The remainder of two finite floats, the divisor not zero, is exact: a
remainder of their values with the dividend's sign. -/
theorem Parts.fmod_spec {px py : Parts} (vx : px.Valid) (vy : py.Valid) (nonzero : py.mantissa ≠ 0) :
    ∃ p, parts? (px.fmod py) = some p ∧ RemainderOf px.value py.value px.value p.value := by
  set e := min px.exp py.exp with eDef
  set a := px.mantissa * Nat.pow 2 (px.exp - e).toNat with aDef
  set b := py.mantissa * Nat.pow 2 (py.exp - e).toNat with bDef
  have pos : 0 < b := Nat.mul_pos (Nat.pos_of_ne_zero nonzero) (Nat.pow_pos (by decide))
  have small : a % b < 2 ^ 53 := by
    rcases le_total px.exp py.exp with le | le
    · have same : a = px.mantissa := by simp [aDef, eDef, min_eq_left le]
      exact lt_of_le_of_lt (Nat.mod_le a b) (same ▸ vx.mantissa_lt)
    · have same : b = py.mantissa := by simp [bDef, eDef, min_eq_right le]
      exact lt_of_lt_of_le (Nat.mod_lt a pos) (same ▸ vy.mantissa_lt.le)
  have fmod : px.fmod py = ofFraction px.neg (scaleFraction (a % b) 1 e).1 (scaleFraction (a % b) 1 e).2 := by
    unfold Parts.fmod
    simp only [← eDef, ← aDef, ← bDef, beq_iff_eq, pos.ne', if_false]
  have exact : ∃ p, parts? (px.fmod py) = some p ∧ p.value = Parts.value ⟨px.neg, a % b, e⟩ := by
    by_cases zero : a % b = 0
    · refine ⟨⟨px.neg, 0, -1074⟩, ?_, by simp [Parts.value, zero]⟩
      have nothing : (scaleFraction 0 1 e).1 = 0 := by
        unfold scaleFraction
        split <;> simp
      rw [fmod, zero, nothing, ofFraction_zero, parts?_zero]
    · rw [fmod, ← nearest_value_eq px.neg (Nat.pos_of_ne_zero zero)]
      exact nearest_exact px.neg (Nat.pos_of_ne_zero zero) small (le_min vx.least_le vy.least_le)
        ((min_le_left _ _).trans vx.le_greatest)
  obtain ⟨p, parts, same⟩ := exact
  refine ⟨p, parts, ?_⟩
  rw [same, px.value_at (min_le_left _ _), py.value_at (min_le_right _ _)]
  exact remainderOf_aligned px.neg py.neg a pos e

end FieldCalc.Binary

namespace FieldCalc

open Binary

section Numbers

/-- Integers below `2^53` in magnitude, and all floats: the numbers that float
arithmetic reads exactly. -/
def Number.Exact : Number → Prop
  | .int k => k.natAbs < 2 ^ 53
  | .float _ => True

theorem Number.value_of_toFloat {n : Number} (exact : n.Exact) {x : Float} (float : n.toFloat = .ok x) :
    (Number.float x).value = n.value := by
  cases n with
  | int k =>
    obtain ⟨p, parts, sign, value⟩ := parts?_ofInt (show k.natAbs < 2 ^ 53 from exact)
    simp only [Number.toFloat, isInf_of_parts parts, Bool.false_eq_true, if_false, Except.ok.injEq] at float
    subst float
    rw [Number.value_float parts, Parts.value_of_int sign value]
    rfl
  | float y =>
    cases float
    rfl

theorem Number.isZero_eq_false {d : Number} {y : Float} {p : Parts} (float : d.toFloat = .ok y)
    (parts : parts? y = some p) (nonzero : p.mantissa ≠ 0) : d.isZero = false := by
  have zeroParts : parts? (ofInt 0) = some ⟨false, 0, -1074⟩ := by decide
  cases d with
  | int j =>
    simp only [Number.isZero, beq_eq_false_iff_ne, ne_eq]
    rintro rfl
    simp only [Number.toFloat, isInf_of_parts zeroParts, Bool.false_eq_true, if_false, Except.ok.injEq] at float
    subst float
    rw [zeroParts, Option.some.injEq] at parts
    exact nonzero (by rw [← parts])
  | float x =>
    cases float
    have floatZero : parts? (0 : Float) = some ⟨false, 0, -1074⟩ := by decide
    have value := Parts.value_ne_zero nonzero
    simp only [Number.isZero, Bool.eq_false_iff, ne_eq]
    rw [float_beq_iff parts floatZero, compare_eq_iff_eq]
    simpa [Parts.value] using value

theorem Number.fmod_of_parts {a d : Number} {x y : Float} {pa pd : Parts} (fx : a.toFloat = .ok x)
    (fy : d.toFloat = .ok y) (px : parts? x = some pa) (py : parts? y = some pd) (nonzero : pd.mantissa ≠ 0) :
    a.fmod d = .ok (.float (pa.fmod pd)) := by
  simp only [Number.fmod, fx, fy, bind, Except.bind, px, py, beq_iff_eq, nonzero, if_false, pure, Except.pure]

theorem normalizeNumber_value {x : Float} {p : Parts} (parts : parts? x = some p) :
    ∃ n, normalizeNumber (.float x) = .ok n ∧ n.value = p.value := by
  cases whole : Number.exactInt? x with
  | none =>
    exact ⟨.float x, by simp [normalizeNumber, Number.normalize, isFinite_of_parts parts, whole],
      Number.value_float parts⟩
  | some k =>
    refine ⟨.int k, by simp [normalizeNumber, Number.normalize, isFinite_of_parts parts, whole], ?_⟩
    unfold Number.exactInt? at whole
    rw [parts] at whole
    dsimp only at whole
    split_ifs at whole with integral
    cases whole
    simp only [Bool.and_eq_true] at integral
    exact Parts.trunc_value integral.1

theorem normalizeNumber_of_int {x : Float} {p : Parts} (parts : parts? x = some p) {k : Int}
    (small : k.natAbs < 2 ^ 53) (value : p.value = k) : normalizeNumber (.float x) = .ok (.int k) := by
  have magnitude : (p.mantissa : ℚ) * 2 ^ p.exp = k.natAbs := by
    rw [← p.abs_value, value, Nat.cast_natAbs, Int.cast_abs]
  have signed : (if p.neg then -(k.natAbs : Int) else k.natAbs) = k := by
    unfold Parts.value at value
    rw [magnitude] at value
    cases neg : p.neg <;> simp only [neg, Bool.false_eq_true, if_false, if_true] at value ⊢
    · exact Int.cast_injective (α := ℚ) (by rw [Int.cast_natCast]; exact value)
    · exact Int.cast_injective (α := ℚ) (by rw [Int.cast_neg, Int.cast_natCast]; exact value)
  have exact := Number.exactInt?_eq_of_value parts small magnitude
  rw [signed] at exact
  simp [normalizeNumber, Number.normalize, isFinite_of_parts parts, exact]

end Numbers

end FieldCalc

namespace FieldCalc.Formula

open Binary

theorem toNumber_rename {v : Value} {name : String} {n : Number} (read : toNumber v name = .ok n)
    (other : String) : toNumber v other = .ok n := by
  cases v with
  | string s =>
    unfold toNumber at read ⊢
    cases parsed : parseNumber? s with
    | none => simp [parsed] at read
    | some x => simpa [parsed] using read
  | list items => simp [toNumber] at read
  | timestamp ms => simp [toNumber] at read
  | number m => exact read
  | boolean b => exact read
  | null => exact read

section Remainders

variable {l r : Value} {a d : Number} {x y : Float} {pa pd : Parts}

theorem remainder_spec (ha : toNumber l "modulo" = .ok a) (hd : toNumber r "modulo" = .ok d)
    (fx : a.toFloat = .ok x) (fy : d.toFloat = .ok y) (px : parts? x = some pa) (py : parts? y = some pd)
    (nonzero : pd.mantissa ≠ 0) :
    ∃ p n, parts? (pa.fmod pd) = some p ∧ normalizeNumber (.float (pa.fmod pd)) = .ok n ∧
      remainder l r = .ok (.number n) ∧ n.value = p.value ∧
      RemainderOf pa.value pd.value pa.value p.value := by
  obtain ⟨p, parts, laws⟩ := Parts.fmod_spec (parts?_spec px).1 (parts?_spec py).1 nonzero
  obtain ⟨n, stored, value⟩ := normalizeNumber_value parts
  refine ⟨p, n, parts, stored, ?_, value, laws⟩
  simp only [remainder, ha, hd, bind, Except.bind, Number.isZero_eq_false fy py nonzero, Bool.false_eq_true,
    if_false, Number.fmod_of_parts fx fy px py nonzero, arith, Value.ofNumber, stored, pure, Except.pure]

/-- `MOD` of two integers below `2^53`, the divisor not zero, is a remainder of
the exact integers with the divisor's sign: a remainder of the dividend's sign
is moved by the divisor, exactly. -/
theorem mod_int_spec (ctx : Context) {i j : Int} (ha : toNumber l "modulo" = .ok (.int i))
    (hd : toNumber r "modulo" = .ok (.int j)) (si : i.natAbs < 2 ^ 53) (sj : j.natAbs < 2 ^ 53) (nonzero : j ≠ 0) :
    ∃ m : Int, applyEager ctx .mod [l, r] = .ok (.number (.int m)) ∧ RemainderOf i j j m := by
  obtain ⟨pa, px, signA, valueA⟩ := parts?_ofInt si
  obtain ⟨pd, py, signD, valueD⟩ := parts?_ofInt sj
  have divisor := Parts.mantissa_ne_zero_of_int nonzero valueD
  have float : ∀ k : Int, k.natAbs < 2 ^ 53 → (Number.int k).toFloat = .ok (ofInt k) := by
    intro k small
    obtain ⟨p, parts, -, -⟩ := parts?_ofInt small
    simp only [Number.toFloat, isInf_of_parts parts, Bool.false_eq_true, if_false]
  obtain ⟨p, n, parts, stored, rem, value, laws⟩ :=
    remainder_spec ha hd (float i si) (float j sj) px py divisor
  rw [Parts.value_of_int signA valueA, Parts.value_of_int signD valueD] at laws
  obtain ⟨⟨q, eq⟩, below, sign⟩ := laws
  set k := i - q * j with kDef
  have kCast : p.value = (k : ℚ) := by rw [eq, kDef]; push_cast; ring
  have kLaws : RemainderOf i j i k := by
    rw [← kCast]
    exact ⟨⟨q, eq⟩, below, sign⟩
  obtain ⟨-, kBelow, -⟩ := remainderOf_intCast.mp kLaws
  have isInt : n = .int k := by
    rw [normalizeNumber_of_int parts (by omega) kCast, Except.ok.injEq] at stored
    exact stored.symm
  rw [isInt] at rem
  have modulus := toNumber_rename hd "MOD"
  simp only [applyEager, rem, modulus, bind, Except.bind, Number.add, arith, Value.ofNumber, normalizeNumber,
    Number.normalize, pure, Except.pure]
  -- a nonzero remainder of the other sign than the divisor is moved by it
  cases test : (!(Number.int k).isZero && (Number.int k).isNeg != (Number.int j).isNeg)
  · have kept : k = 0 ∨ (k < 0 ↔ j < 0) := by
      simpa only [Number.isZero, Number.isNeg, Bool.and_eq_false_iff, Bool.not_eq_false', beq_iff_eq,
        bne_eq_false_iff_eq, decide_eq_decide] using test
    exact ⟨k, by simp only [Bool.false_eq_true, if_false],
      remainderOf_intCast.mpr ⟨⟨q, kDef⟩, kBelow, by omega⟩⟩
  · have moved : k ≠ 0 ∧ ¬(k < 0 ↔ j < 0) := by
      simpa only [Number.isZero, Number.isNeg, Bool.and_eq_true, Bool.not_eq_true', beq_eq_false_iff_ne,
        bne_iff_ne, ne_eq, decide_eq_decide] using test
    exact ⟨k + j, by simp only [if_true],
      remainderOf_intCast.mpr ⟨⟨q - 1, by rw [kDef]; ring⟩, by omega, by omega⟩⟩

/-- `%` and `MOD` on the numbers of two values. `%` is a remainder, with the
dividend's sign, of the floats the numbers are read as, the divisor's float not
zero; those floats have the numbers' exact values when the numbers are integers
below `2^53` or floats. `MOD` of two such integers is a remainder of them with
the divisor's sign. -/
theorem remainder_mod_laws (ctx : Context) (l r : Value) {a d : Number} {x y : Float} {pa pd : Parts}
    (ha : toNumber l "modulo" = .ok a) (hd : toNumber r "modulo" = .ok d)
    (fx : a.toFloat = .ok x) (fy : d.toFloat = .ok y) (px : parts? x = some pa) (py : parts? y = some pd)
    (nonzero : pd.mantissa ≠ 0) :
    (∃ n, remainder l r = .ok (.number n) ∧ RemainderOf pa.value pd.value pa.value n.value) ∧
      (a.Exact → pa.value = a.value) ∧ (d.Exact → pd.value = d.value) ∧
      ∀ i j : Int, a = .int i → d = .int j → i.natAbs < 2 ^ 53 → j.natAbs < 2 ^ 53 →
        ∃ m : Int, applyEager ctx .mod [l, r] = .ok (.number (.int m)) ∧ RemainderOf i j j m := by
  obtain ⟨p, n, -, -, rem, value, laws⟩ := remainder_spec ha hd fx fy px py nonzero
  have exactA : a.Exact → pa.value = a.value := fun exact => by
    rw [← Number.value_float px, Number.value_of_toFloat exact fx]
  have exactD : d.Exact → pd.value = d.value := fun exact => by
    rw [← Number.value_float py, Number.value_of_toFloat exact fy]
  refine ⟨⟨n, rem, value ▸ laws⟩, exactA, exactD, ?_⟩
  rintro i j rfl rfl si sj
  have divisor : j ≠ 0 := by
    rintro rfl
    exact Parts.value_ne_zero nonzero (by rw [exactD sj]; rfl)
  exact mod_int_spec ctx ha hd si sj divisor

/-- `MOD(7, -3)` is a remainder with the divisor's sign. -/
theorem remainder_mod_laws_negativeDivisor :
    ∃ m : Int, applyEager { now := 0 } .mod [.number (.int 7), .number (.int (-3))] = .ok (.number (.int m)) ∧
      RemainderOf ((7 : Int) : ℚ) ((-3 : Int) : ℚ) ((-3 : Int) : ℚ) m :=
  (@remainder_mod_laws { now := 0 } (.number (.int 7)) (.number (.int (-3))) (.int 7) (.int (-3))
    (ofInt 7) (ofInt (-3)) ⟨false, 7881299347898368, -50⟩ ⟨true, 6755399441055744, -51⟩
    rfl rfl rfl rfl (by decide) (by decide) (by decide)).2.2.2 7 (-3) rfl rfl
    (by decide) (by decide)

/-- An integer beyond `2^53`, such as the value of `9007199254740991 + 2`, is
rounded to a float before the remainder is taken, so its remainder by `2` is
`0`, which is no remainder of the odd dividend; and `MOD` rounds its
correction, so `MOD(-1e-20, 1)` is the divisor itself. -/
theorem remainder_rounds_large_dividend :
    remainder (.number (.int 9007199254740993)) (.number (.int 2)) = .ok (.number (.int 0)) ∧
      ¬RemainderOf 9007199254740993 2 9007199254740993 0 ∧
      applyEager { now := 0 } .mod [.number (.float (-1e-20)), .number (.int 1)] = .ok (.number (.int 1)) ∧
      ¬RemainderOf (Number.float (-1e-20)).value 1 1 1 := by
  have rounded : ofInt 9007199254740993 = ofInt 9007199254740992 := by decide
  have dividend : parts? (ofInt 9007199254740992) = some ⟨false, 2 ^ 52, 1⟩ := by decide
  have divisor : parts? (ofInt 2) = some ⟨false, 2 ^ 52, -51⟩ := by decide
  have fx : (Number.int 9007199254740993).toFloat = .ok (ofInt 9007199254740992) := by
    simp only [Number.toFloat, rounded, isInf_of_parts dividend, Bool.false_eq_true, if_false]
  have fy : (Number.int 2).toFloat = .ok (ofInt 2) := by
    simp only [Number.toFloat, isInf_of_parts divisor, Bool.false_eq_true, if_false]
  obtain ⟨-, n, -, stored, rem, -, -⟩ :=
    remainder_spec (l := .number (.int 9007199254740993)) (r := .number (.int 2)) rfl rfl fx fy dividend divisor
      (by decide)
  have even : Parts.fmod ⟨false, 2 ^ 52, 1⟩ ⟨false, 2 ^ 52, -51⟩ = zero false := by decide
  rw [even, normalizeNumber_of_int (parts?_zero false) (k := 0) (by decide) (by simp [Parts.value]),
    Except.ok.injEq] at stored
  refine ⟨stored ▸ rem, ?_, rfl, ?_⟩
  · rintro ⟨⟨q, eq⟩, -, -⟩
    have odd : (9007199254740993 : Int) = q * 2 := by exact_mod_cast (by linarith : (9007199254740993 : ℚ) = q * 2)
    omega
  · rintro ⟨-, below, -⟩
    exact lt_irrefl _ below

end Remainders

end FieldCalc.Formula
