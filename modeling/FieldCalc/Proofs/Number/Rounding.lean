import FieldCalc.Proofs.Number.Encoding
import Mathlib.Algebra.Order.Field.Power
import Mathlib.Tactic.FieldSimp
import Mathlib.Tactic.GCongr
import Mathlib.Tactic.Linarith
import Mathlib.Tactic.NormNum
import Mathlib.Tactic.Positivity
import Mathlib.Tactic.Ring

/-!
Rounding a ratio to the nearest float, read in exact rational arithmetic.

`ofFraction neg num den` scales `num / den` by the power of two that puts it in
`[2^52, 2^53)` (`normalExponent_spec`), never below the least exponent, and
rounds the scaled ratio to an integer, ties to even (`divRoundEven_eq`).
The main result, `ofFraction_eq_of_roundsTo`, says which ratios give back a
finite nonzero float: every ratio in the interval `RoundsTo` of the reals
that round to it, from a quarter or a half unit below its value to half a
unit above, the ends counting when the significand is even. Just above a
power of two the interval is narrower below, and a ratio there is scaled
into the binade beneath and carried back up when it rounds to `2^53`.
-/

namespace FieldCalc.Binary

section Scaling

theorem natPow_cast (b k : Nat) : ((Nat.pow b k : Nat) : ℚ) = (b : ℚ) ^ k := by
  rw [Nat.pow_eq, Nat.cast_pow]

theorem scaleFraction_ratio (num den : Nat) (e : Int) :
    ((scaleFraction num den e).1 : ℚ) / (scaleFraction num den e).2 = (num / den : ℚ) * 2 ^ e := by
  unfold scaleFraction
  split
  next nonneg =>
    have power : (2 : ℚ) ^ e = 2 ^ e.toNat := by
      rw [← zpow_natCast, Int.toNat_of_nonneg nonneg]
    simp only [Nat.cast_mul, natPow_cast, Nat.cast_ofNat, power]
    ring
  next negative =>
    have power : (2 : ℚ) ^ e = ((2 : ℚ) ^ (-e).toNat)⁻¹ := by
      rw [← zpow_natCast, Int.toNat_of_nonneg (by omega), zpow_neg, inv_inv]
    simp only [Nat.cast_mul, natPow_cast, Nat.cast_ofNat, power]
    rw [div_mul_eq_div_div, div_eq_mul_inv (num / den : ℚ)]

theorem scaleFraction_den_pos {num den : Nat} (hden : 0 < den) (e : Int) :
    0 < (scaleFraction num den e).2 := by
  unfold scaleFraction
  split
  · exact hden
  · exact Nat.mul_pos hden (Nat.pow_pos (by decide))

/-- At most one natural number is within a half of a rational, or exactly a
half away and even: the nearest integer, ties to even, is unique. -/
theorem nearestEven_unique {x : ℚ} {q q' : Nat}
    (near : |x - q| < 1 / 2 ∨ |x - q| = 1 / 2 ∧ q % 2 = 0)
    (near' : |x - q'| < 1 / 2 ∨ |x - q'| = 1 / 2 ∧ q' % 2 = 0) : q = q' := by
  have within : |x - q| ≤ 1 / 2 := near.elim le_of_lt fun tie => tie.1.le
  have within' : |x - q'| ≤ 1 / 2 := near'.elim le_of_lt fun tie => tie.1.le
  have apart : |(q : ℚ) - q'| ≤ |x - q'| + |x - q| := by
    calc |(q : ℚ) - q'| = |(x - q') - (x - q)| := by ring_nf
      _ ≤ |x - q'| + |x - q| := abs_sub _ _
  have strictOrEven : |(q : ℚ) - q'| < 1 ∨ q % 2 = 0 ∧ q' % 2 = 0 := by
    rcases near with strict | ⟨-, even⟩
    · exact .inl (by linarith)
    rcases near' with strict' | ⟨-, even'⟩
    · exact .inl (by linarith)
    · exact .inr ⟨even, even'⟩
  have close := abs_le.mp (show |(q : ℚ) - q'| ≤ 1 by linarith)
  have bounds : (q : ℤ) - q' ≤ 1 ∧ -1 ≤ (q : ℤ) - q' :=
    ⟨by exact_mod_cast close.2, by exact_mod_cast close.1⟩
  rcases strictOrEven with strict | ⟨even, even'⟩
  · rw [abs_lt] at strict
    have : (q : ℤ) - q' < 1 ∧ -1 < (q : ℤ) - q' :=
      ⟨by exact_mod_cast strict.2, by exact_mod_cast strict.1⟩
    omega
  · omega

/-- `divRoundEven` is within a half of the quotient, and exactly a half away
only when it is even. -/
theorem divRoundEven_near (n : Nat) {d : Nat} (hd : 0 < d) :
    |(n / d : ℚ) - divRoundEven n d| < 1 / 2 ∨
      |(n / d : ℚ) - divRoundEven n d| = 1 / 2 ∧ divRoundEven n d % 2 = 0 := by
  have dq : (0 : ℚ) < d := by exact_mod_cast hd
  have split : (n / d : ℚ) = (n / d : Nat) + ((n % d : Nat) : ℚ) / d := by
    field_simp
    exact_mod_cast (Nat.div_add_mod n d).symm
  have twice : ((2 * (n % d) : Nat) : ℚ) / d = 2 * (((n % d : Nat) : ℚ) / d) := by
    push_cast
    ring
  have fractionLt : ((n % d : Nat) : ℚ) / d < 1 := by
    rw [div_lt_one dq]
    exact_mod_cast Nat.mod_lt n hd
  have fractionNonneg : 0 ≤ ((n % d : Nat) : ℚ) / d := by positivity
  unfold divRoundEven
  dsimp only
  split
  next low =>
    have small : ((2 * (n % d) : Nat) : ℚ) / d < 1 := by
      rw [div_lt_one dq]
      exact_mod_cast low
    left
    rw [split, add_sub_cancel_left, abs_of_nonneg fractionNonneg]
    linarith
  next notLow =>
    split
    next high =>
      have large : 1 < ((2 * (n % d) : Nat) : ℚ) / d := by
        rw [one_lt_div dq]
        exact_mod_cast high
      left
      rw [split, Nat.cast_add, Nat.cast_one, abs_lt]
      constructor <;> linarith
    next notHigh =>
      have half : ((n % d : Nat) : ℚ) / d = 1 / 2 := by
        have tie : 2 * (n % d) = d := by omega
        rw [div_eq_iff dq.ne']
        have : ((2 * (n % d) : Nat) : ℚ) = d := by exact_mod_cast tie
        push_cast at this
        linarith
      right
      split
      next even =>
        refine ⟨?_, by simpa using even⟩
        rw [split, half, add_sub_cancel_left, abs_of_pos (by norm_num)]
      next odd =>
        refine ⟨?_, by simp at odd; omega⟩
        rw [split, half, Nat.cast_add, Nat.cast_one]
        norm_num [abs_of_neg]

/-- `divRoundEven` gives the integer nearest to the quotient, a tie going to
the even one; so it gives every integer that is nearer than a half, or as
near and even. -/
theorem divRoundEven_eq {n d q : Nat} (hd : 0 < d)
    (near : |(n / d : ℚ) - q| < 1 / 2 ∨ (|(n / d : ℚ) - q| = 1 / 2 ∧ q % 2 = 0)) :
    divRoundEven n d = q :=
  nearestEven_unique (divRoundEven_near n hd) near

end Scaling

section Exponent

theorem scaled_lt_iff {num den : Nat} (hden : 0 < den) (e : Int) (c : Nat) :
    (scaleFraction num den e).1 < (scaleFraction num den e).2 * c ↔ (num / den : ℚ) * 2 ^ e < c := by
  have positive : (0 : ℚ) < (scaleFraction num den e).2 := by exact_mod_cast scaleFraction_den_pos hden e
  rw [← scaleFraction_ratio, div_lt_iff₀ positive, mul_comm (c : ℚ)]
  exact_mod_cast Iff.rfl

theorem mul_zpow_neg_sub_one (r : ℚ) (e : Int) : r * 2 ^ (-(e - 1)) = 2 * (r * 2 ^ (-e)) := by
  rw [show -(e - 1) = -e + 1 by ring, zpow_add₀ two_ne_zero]
  ring

theorem normalExponent_spec {num den : Nat} (hnum : 0 < num) (hden : 0 < den) :
    2 ^ 52 ≤ (num / den : ℚ) * 2 ^ (-normalExponent num den) ∧
      (num / den : ℚ) * 2 ^ (-normalExponent num den) < 2 ^ 53 := by
  have numLow : (2 : ℚ) ^ num.log2 ≤ num := by exact_mod_cast Nat.log2_self_le hnum.ne'
  have numHigh : (num : ℚ) < 2 ^ (num.log2 + 1) := by exact_mod_cast Nat.lt_log2_self
  have denLow : (2 : ℚ) ^ den.log2 ≤ den := by exact_mod_cast Nat.log2_self_le hden.ne'
  have denHigh : (den : ℚ) < 2 ^ (den.log2 + 1) := by exact_mod_cast Nat.lt_log2_self
  have denPos : (0 : ℚ) < den := by exact_mod_cast hden
  unfold normalExponent
  dsimp only
  set guess : Int := (num.log2 : Int) - (den.log2 : Int) - 52 with guessDef
  -- the guess from the bit lengths scales the ratio into `(2^51, 2^53)`
  have scaled : (num / den : ℚ) * 2 ^ (-guess) =
      num * 2 ^ (52 + den.log2) / (den * 2 ^ num.log2) := by
    rw [guessDef, show -((num.log2 : Int) - den.log2 - 52) =
      ((52 + den.log2 : Nat) : Int) - (num.log2 : Nat) by push_cast; ring,
      zpow_sub₀ two_ne_zero, zpow_natCast, zpow_natCast]
    field_simp
  have scaledLow : 2 ^ 51 < (num / den : ℚ) * 2 ^ (-guess) := by
    rw [scaled, lt_div_iff₀ (by positivity)]
    calc (2 : ℚ) ^ 51 * (den * 2 ^ num.log2) < 2 ^ 51 * (2 ^ (den.log2 + 1) * 2 ^ num.log2) := by
          gcongr
      _ = 2 ^ (52 + den.log2) * 2 ^ num.log2 := by ring
      _ ≤ num * 2 ^ (52 + den.log2) := by rw [mul_comm]; gcongr
  have scaledHigh : (num / den : ℚ) * 2 ^ (-guess) < 2 ^ 53 := by
    rw [scaled, div_lt_iff₀ (by positivity)]
    calc (num : ℚ) * 2 ^ (52 + den.log2) < 2 ^ (num.log2 + 1) * 2 ^ (52 + den.log2) := by
          gcongr
      _ = 2 ^ 53 * (2 ^ den.log2 * 2 ^ num.log2) := by ring
      _ ≤ 2 ^ 53 * (den * 2 ^ num.log2) := by gcongr
  split
  next below =>
    rw [decide_eq_true_eq, scaled_lt_iff hden] at below
    rw [mul_zpow_neg_sub_one]
    simp only [natPow_cast, Nat.cast_ofNat] at below
    constructor <;> linarith
  next notBelow =>
    rw [decide_eq_true_eq, scaled_lt_iff hden] at notBelow
    have notAtLeast : ¬ (scaleFraction num den (-guess)).1 ≥ (scaleFraction num den (-guess)).2 * Nat.pow 2 53 := by
      rw [not_le, scaled_lt_iff hden]
      simp only [natPow_cast, Nat.cast_ofNat]
      exact scaledHigh
    rw [if_neg (by simpa using notAtLeast)]
    simp only [natPow_cast, Nat.cast_ofNat, not_lt] at notBelow
    exact ⟨notBelow, scaledHigh⟩

theorem exponent_unique {r : ℚ} {e e' : Int}
    (bounds : 2 ^ 52 ≤ r * 2 ^ (-e) ∧ r * 2 ^ (-e) < 2 ^ 53)
    (bounds' : 2 ^ 52 ≤ r * 2 ^ (-e') ∧ r * 2 ^ (-e') < 2 ^ 53) : e = e' := by
  have halves : ∀ {a b : Int}, a < b → 2 * (r * 2 ^ (-b)) ≤ r * 2 ^ (-a) := by
    intro a b lt
    have positive : 0 ≤ r := by
      have := bounds.1
      by_contra negative
      have : r * 2 ^ (-e) < 0 := mul_neg_of_neg_of_pos (not_le.mp negative) (by positivity)
      linarith
    calc 2 * (r * 2 ^ (-b)) = r * 2 ^ (-(b - 1)) := (mul_zpow_neg_sub_one r b).symm
      _ ≤ r * 2 ^ (-a) := by
        gcongr
        · norm_num
        · omega
  rcases lt_trichotomy e e' with lt | eq | gt
  · linarith [halves lt, bounds.2, bounds'.1]
  · exact eq
  · linarith [halves gt, bounds.1, bounds'.2]

theorem normalExponent_eq {num den : Nat} (hnum : 0 < num) (hden : 0 < den) {e : Int}
    (bounds : 2 ^ 52 ≤ (num / den : ℚ) * 2 ^ (-e) ∧ (num / den : ℚ) * 2 ^ (-e) < 2 ^ 53) :
    normalExponent num den = e :=
  exponent_unique (normalExponent_spec hnum hden) bounds

theorem normalExponent_lt {num den : Nat} (hnum : 0 < num) (hden : 0 < den) {e : Int}
    (below : (num / den : ℚ) * 2 ^ (-e) < 2 ^ 52) : normalExponent num den < e := by
  by_contra atLeast
  have ratioPos : (0 : ℚ) < num / den := by positivity
  have : (num / den : ℚ) * 2 ^ (-normalExponent num den) ≤ (num / den : ℚ) * 2 ^ (-e) := by
    gcongr
    · norm_num
    · omega
  linarith [(normalExponent_spec hnum hden).1]

end Exponent

section Interval

/-- How far below the value of finite parts, in quarters of a unit, the reals
reach that round to them: a quarter just above a power of two, where the
floats below are twice as dense, and a half elsewhere. -/
def Parts.lowGap (p : Parts) : Nat := if p.mantissa = 2 ^ 52 ∧ p.exp > -1074 then 1 else 2

theorem Parts.lowGap_le (p : Parts) : p.lowGap ≤ 2 := by
  unfold Parts.lowGap
  split <;> omega

/-- The reals `r` that round to the float of significand `m` and exponent `e`:
`r / 2^e` lies from `lowGap / 4` below `m` to `1 / 2` above it, the ends
included when `m` is even. -/
def RoundsTo (m : Nat) (e : Int) (lowGap : Nat) (r : ℚ) : Prop :=
  ((m : ℚ) - lowGap / 4 < r * 2 ^ (-e) ∨ m % 2 = 0 ∧ (m : ℚ) - lowGap / 4 = r * 2 ^ (-e)) ∧
    (r * 2 ^ (-e) < m + 1 / 2 ∨ m % 2 = 0 ∧ r * 2 ^ (-e) = m + 1 / 2)

variable {m : Nat} {e : Int} {lowGap : Nat} {r : ℚ}

theorem RoundsTo.bounds (rounds : RoundsTo m e lowGap r) :
    (m : ℚ) - lowGap / 4 ≤ r * 2 ^ (-e) ∧ r * 2 ^ (-e) ≤ m + 1 / 2 := by
  obtain ⟨below | ⟨-, below⟩, above | ⟨-, above⟩⟩ := rounds <;> constructor <;> linarith

/-- Inside the interval the scaled real is within a half of `m`, and exactly a
half only when `m` is even: so it rounds to `m`, ties to even. -/
theorem RoundsTo.near (gap : lowGap ≤ 2) (rounds : RoundsTo m e lowGap r) :
    |r * 2 ^ (-e) - m| < 1 / 2 ∨ |r * 2 ^ (-e) - m| = 1 / 2 ∧ m % 2 = 0 := by
  have gapQ : (lowGap : ℚ) ≤ 2 := by exact_mod_cast gap
  have gapNonneg : (0 : ℚ) ≤ lowGap := by positivity
  obtain ⟨below | ⟨even, below⟩, above | ⟨even', above⟩⟩ := rounds
  · left
    rw [abs_lt]
    constructor <;> linarith
  · right
    refine ⟨?_, even'⟩
    rw [above, add_sub_cancel_left, abs_of_pos (by norm_num)]
  · -- the lower end is a half away only when it lies half a unit below
    rcases gapQ.lt_or_eq with narrow | wide
    · left
      rw [← below, abs_lt]
      constructor <;> linarith
    · right
      refine ⟨?_, even⟩
      rw [← below, wide]
      norm_num
  · linarith

theorem RoundsTo.pos (gap : lowGap ≤ 2) (nonzero : m ≠ 0) (rounds : RoundsTo m e lowGap r) :
    0 < r := by
  have one : (1 : ℚ) ≤ m := by exact_mod_cast Nat.one_le_iff_ne_zero.mpr nonzero
  have gapQ : (lowGap : ℚ) ≤ 2 := by exact_mod_cast gap
  have scaledPos : 0 < r * 2 ^ (-e) := by linarith [rounds.bounds.1]
  exact pos_of_mul_pos_left scaledPos (by positivity)

end Interval

section Finish

/-- `ofFraction` once its exponent `e` and rounded significand `q` are
known: a significand rounded up to `2^53` carries into the next binade, an
exponent beyond the largest binade overflows, and a significand below `2^52`
is subnormal. -/
theorem ofFraction_eq_finish {neg : Bool} {num den : Nat} (hnum : 0 < num) (hden : 0 < den)
    {e : Int} {q : Nat} (exponent : max (normalExponent num den) (-1074) = e)
    (rounded : divRoundEven (scaleFraction num den (-e)).1 (scaleFraction num den (-e)).2 = q) :
    ofFraction neg num den =
      if q = 2 ^ 53 then
        (if e + 1 > 971 then infinity neg else assemble neg (e + 1 + 1075).toNat 0)
      else if e > 971 then infinity neg
      else if q < 2 ^ 52 then assemble neg 0 q
      else assemble neg (e + 1075).toNat (q - 2 ^ 52) := by
  unfold ofFraction
  rw [if_neg (by simp; omega)]
  -- reduce the matches by splitting, never by evaluating the exponent search
  simp -iota only [exponent]
  split
  next a b scaled =>
    rw [scaled] at rounded
    simp -iota only [rounded]
    by_cases carry : q = 2 ^ 53
    · subst carry
      simp [Nat.pow_eq]
    · have noCarry : (q == Nat.pow 2 53) = false := by
        simp only [Nat.pow_eq, beq_eq_false_iff_ne]; exact carry
      simp only [noCarry, Bool.false_eq_true, if_false, carry, Nat.pow_eq]

variable {x : Float} {p : Parts} {num den : Nat}

theorem ofFraction_eq_toFloat (hnum : 0 < num) (hden : 0 < den) (valid : p.Valid)
    (exponent : max (normalExponent num den) (-1074) = p.exp)
    (rounded : divRoundEven (scaleFraction num den (-p.exp)).1
      (scaleFraction num den (-p.exp)).2 = p.mantissa) :
    ofFraction p.neg num den = p.toFloat := by
  have mantissaBelow := valid.mantissa_lt
  have exponentBelow := valid.le_greatest
  rw [ofFraction_eq_finish hnum hden exponent rounded, if_neg (by omega), if_neg (by omega)]
  rfl

theorem ofFraction_eq_of_roundsTo (parts : parts? x = some p) (nonzero : p.mantissa ≠ 0)
    (hden : 0 < den) (rounds : RoundsTo p.mantissa p.exp p.lowGap (num / den)) :
    ofFraction p.neg num den = x := by
  obtain ⟨valid, rebuilt⟩ := parts?_spec parts
  have hnum : 0 < num := by
    have ratioPos := rounds.pos p.lowGap_le nonzero
    by_contra zero
    simp [Nat.eq_zero_of_not_pos zero] at ratioPos
  have mantissaBelow : (p.mantissa : ℚ) + 1 ≤ 2 ^ 53 := by exact_mod_cast valid.mantissa_lt
  obtain ⟨atLeast, atMost⟩ := rounds.bounds
  have gap : (p.lowGap : ℚ) ≤ 2 := by exact_mod_cast p.lowGap_le
  have rounded : divRoundEven (scaleFraction num den (-p.exp)).1
      (scaleFraction num den (-p.exp)).2 = p.mantissa := by
    apply divRoundEven_eq (scaleFraction_den_pos hden _)
    rw [scaleFraction_ratio]
    exact rounds.near p.lowGap_le
  set t : ℚ := (num / den : ℚ) * 2 ^ (-p.exp) with scaled
  rcases le_or_gt (2 ^ 52) t with normal | small
  · -- in the binade of the float: its own exponent
    have exponent : max (normalExponent num den) (-1074) = p.exp := by
      rw [normalExponent_eq hnum hden ⟨normal, by linarith⟩]
      exact max_eq_left valid.least_le
    rw [ofFraction_eq_toFloat hnum hden valid exponent rounded, rebuilt]
  · by_cases least : p.exp = -1074
    · -- below the least normal binade: the least exponent
      have exponent : max (normalExponent num den) (-1074) = p.exp := by
        rw [least]
        exact max_eq_right (normalExponent_lt hnum hden (least ▸ small)).le
      rw [ofFraction_eq_toFloat hnum hden valid exponent rounded, rebuilt]
    · -- just below a power of two: scaled one binade lower, then carried up
      have normalMantissa := valid.normal_or_least.resolve_right least
      have aboveLeast := valid.least_le
      have power : p.mantissa = 2 ^ 52 := by
        have : (p.mantissa : ℚ) < 2 ^ 52 + 1 := by linarith
        have : p.mantissa < 2 ^ 52 + 1 := by exact_mod_cast this
        omega
      have quarter : p.lowGap = 1 := by
        simp only [Parts.lowGap, power, true_and, ite_eq_left_iff, not_lt]
        omega
      rw [quarter, power] at atLeast
      push_cast at atLeast
      have doubled : (num / den : ℚ) * 2 ^ (-(p.exp - 1)) = 2 * t := mul_zpow_neg_sub_one _ _
      have exponent : max (normalExponent num den) (-1074) = p.exp - 1 := by
        rw [normalExponent_eq hnum hden ⟨by rw [doubled]; linarith, by rw [doubled]; linarith⟩]
        exact max_eq_left (by omega)
      have carried : divRoundEven (scaleFraction num den (-(p.exp - 1))).1
          (scaleFraction num den (-(p.exp - 1))).2 = 2 ^ 53 := by
        apply divRoundEven_eq (scaleFraction_den_pos hden _)
        rw [scaleFraction_ratio, doubled]
        have within : |2 * t - ((2 ^ 53 : Nat) : ℚ)| ≤ 1 / 2 := by
          push_cast
          rw [abs_le]
          constructor <;> linarith
        rcases within.lt_or_eq with strict | tie
        · exact .inl strict
        · exact .inr ⟨tie, by decide⟩
      rw [ofFraction_eq_finish hnum hden exponent carried, if_pos rfl,
        if_neg (by have := valid.le_greatest; omega), ← rebuilt, Parts.toFloat, power,
        if_neg (by decide), Nat.sub_self, show p.exp - 1 + 1 = p.exp by omega]

end Finish

end FieldCalc.Binary
