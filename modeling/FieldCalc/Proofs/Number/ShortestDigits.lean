import FieldCalc.Number.Shortest
import FieldCalc.Proofs.Number.Rounding
import Mathlib.Order.Compare

/-!
The shortest digits of a float lie in its rounding interval.

`shortestOf` searches the grids of one to seventeen significant digits and
stops at the first grid with a point in the interval of reals that round to
the float; it tests only the two grid points around the value, which is
enough since the interval holds the value. Everything the search computes is
read exactly: `compareScaled` compares `a · 2^p · 10^q` with a natural
(`compareScaled_eq_compare`), `decimalMagnitude` is a power of ten at or below
the value (`decimalMagnitude_le`, from `59/196 < log₁₀ 2 < 28/93`), and
stripping trailing zeros keeps the value. At seventeen digits the grid is
finer than the interval is wide, so the search never runs out
(`shortestOf_roundsTo`).
-/

namespace FieldCalc.Binary

section Scaled

theorem zpow_mul_pow_neg_toNat {x : ℚ} (hx : x ≠ 0) (p : Int) :
    x ^ p * x ^ (-p).toNat = x ^ p.toNat := by
  rcases le_or_gt 0 p with nonneg | negative
  · rw [show (-p).toNat = 0 by omega, pow_zero, mul_one, ← zpow_natCast,
      Int.toNat_of_nonneg nonneg]
  · rw [show p.toNat = 0 by omega, pow_zero, ← zpow_natCast, Int.toNat_of_nonneg (by omega),
      ← zpow_add₀ hx, add_neg_cancel, zpow_zero]

theorem scaled_numerator (a : Nat) (p q : Int) :
    ((a * Nat.pow 2 p.toNat * Nat.pow 10 q.toNat : Nat) : ℚ) =
      (a : ℚ) * 2 ^ p * 10 ^ q * (Nat.pow 2 (-p).toNat * Nat.pow 10 (-q).toNat : Nat) := by
  simp only [Nat.cast_mul, natPow_cast, Nat.cast_ofNat]
  rw [← zpow_mul_pow_neg_toNat two_ne_zero p, ← zpow_mul_pow_neg_toNat (by norm_num : (10 : ℚ) ≠ 0) q]
  ring

theorem compareScaled_eq_compare (a : Nat) (p q : Int) (b : Nat) :
    compareScaled a p q b = compare ((a : ℚ) * 2 ^ p * 10 ^ q) b := by
  have left := scaled_numerator a p q
  have right : ((b * Nat.pow 2 (-p).toNat * Nat.pow 10 (-q).toNat : Nat) : ℚ) =
      b * (Nat.pow 2 (-p).toNat * Nat.pow 10 (-q).toNat : Nat) := by
    push_cast
    ring
  have positive : 0 < Nat.pow 2 (-p).toNat * Nat.pow 10 (-q).toNat :=
    Nat.mul_pos (Nat.pow_pos (by decide)) (Nat.pow_pos (by decide))
  unfold compareScaled
  dsimp only
  generalize a * Nat.pow 2 p.toNat * Nat.pow 10 q.toNat = l at left
  generalize b * Nat.pow 2 (-p).toNat * Nat.pow 10 (-q).toNat = r at right
  generalize Nat.pow 2 (-p).toNat * Nat.pow 10 (-q).toNat = denominator at left right positive
  replace positive : (0 : ℚ) < denominator := by exact_mod_cast positive
  rcases lt_trichotomy ((a : ℚ) * 2 ^ p * 10 ^ q) b with lt | eq | gt
  · rw [compare_lt_iff_lt.mpr lt, Nat.compare_eq_lt]
    exact_mod_cast (show (l : ℚ) < r by rw [left, right]; exact mul_lt_mul_of_pos_right lt positive)
  · rw [compare_eq_iff_eq.mpr eq, Nat.compare_eq_eq]
    exact_mod_cast (show (l : ℚ) = r by rw [left, right, eq])
  · rw [compare_gt_iff_gt.mpr gt, Nat.compare_eq_gt]
    exact_mod_cast (show (r : ℚ) < l by rw [left, right]; exact mul_lt_mul_of_pos_right gt positive)

end Scaled

section Magnitude

theorem pow_ten_le_pow_two (b g : Nat) (le : 196 * g ≤ 59 * b) : 10 ^ g ≤ 2 ^ b := by
  have base : 10 ^ 59 ≤ 2 ^ 196 := by decide
  rw [← Nat.pow_le_pow_iff_left (by decide : 196 ≠ 0)]
  calc (10 ^ g) ^ 196 = 10 ^ (196 * g) := by rw [← Nat.pow_mul, Nat.mul_comm]
    _ ≤ 10 ^ (59 * b) := Nat.pow_le_pow_right (by decide) le
    _ = (10 ^ 59) ^ b := by rw [Nat.pow_mul]
    _ ≤ (2 ^ 196) ^ b := Nat.pow_le_pow_left base b
    _ = (2 ^ b) ^ 196 := by rw [← Nat.pow_mul, ← Nat.pow_mul, Nat.mul_comm]

theorem pow_two_le_pow_ten (b h : Nat) (le : 28 * b ≤ 93 * h) : 2 ^ b ≤ 10 ^ h := by
  have base : 2 ^ 93 ≤ 10 ^ 28 := by decide
  rw [← Nat.pow_le_pow_iff_left (by decide : 93 ≠ 0)]
  calc (2 ^ b) ^ 93 = (2 ^ 93) ^ b := by rw [← Nat.pow_mul, ← Nat.pow_mul, Nat.mul_comm]
    _ ≤ (10 ^ 28) ^ b := Nat.pow_le_pow_left base b
    _ = 10 ^ (28 * b) := by rw [← Nat.pow_mul]
    _ ≤ 10 ^ (93 * h) := Nat.pow_le_pow_right (by decide) le
    _ = (10 ^ h) ^ 93 := by rw [← Nat.pow_mul, Nat.mul_comm]

/-- The estimate of `decimalMagnitude` from the bit length, less one, is a
power of ten not above `2^bits`. -/
theorem estimate_le (bits : Int) (range : -20000 ≤ bits ∧ bits ≤ 20000) :
    (10 : ℚ) ^ ((bits * 30103).fdiv 100000 - 1) ≤ 2 ^ bits := by
  rw [Int.fdiv_eq_ediv, if_pos (.inl (by decide)), Int.sub_zero]
  have below : 100000 * (bits * 30103 / 100000) ≤ bits * 30103 := Int.mul_ediv_self_le (by decide)
  have above : bits * 30103 < 100000 * (bits * 30103 / 100000) + 100000 := by omega
  set guess := bits * 30103 / 100000
  rcases le_or_gt 0 bits with nonneg | negative
  · rcases le_or_gt 0 (guess - 1) with natural | negativeGuess
    · have powers := pow_ten_le_pow_two bits.toNat (guess - 1).toNat (by omega)
      rw [← Int.toNat_of_nonneg natural, ← Int.toNat_of_nonneg nonneg, zpow_natCast, zpow_natCast]
      exact_mod_cast powers
    · calc (10 : ℚ) ^ (guess - 1) ≤ 1 := zpow_le_one_of_nonpos₀ (by norm_num) negativeGuess.le
        _ ≤ 2 ^ bits := one_le_zpow₀ (by norm_num) nonneg
  · -- below one: compare the reciprocals `2^(-bits) ≤ 10^(1 - guess)`
    have powers := pow_two_le_pow_ten (-bits).toNat (1 - guess).toNat (by omega)
    have ten : (10 : ℚ) ^ (guess - 1) = ((10 : ℚ) ^ (1 - guess).toNat)⁻¹ := by
      rw [← zpow_natCast, Int.toNat_of_nonneg (by omega), ← zpow_neg, neg_sub]
    have two : (2 : ℚ) ^ bits = ((2 : ℚ) ^ (-bits).toNat)⁻¹ := by
      rw [← zpow_natCast, Int.toNat_of_nonneg (by omega), ← zpow_neg, neg_neg]
    rw [ten, two]
    exact inv_anti₀ (by positivity) (by exact_mod_cast powers)

theorem atLeastPow_iff (m : Nat) (e k : Int) :
    (compareScaled m e (-k) 1 != .lt) = true ↔ (10 : ℚ) ^ k ≤ m * 2 ^ e := by
  rw [bne_iff_ne, ne_eq, compareScaled_eq_compare, compare_lt_iff_lt, not_lt, Nat.cast_one,
    zpow_neg, ← div_eq_mul_inv, one_le_div (by positivity)]

theorem pow_le_of_candidate {m : Nat} {e : Int} (c d : Int) (fallback : (10 : ℚ) ^ d ≤ m * 2 ^ e) :
    (10 : ℚ) ^ (if (compareScaled m e (-c) 1 != .lt) = true then c else d) ≤ m * 2 ^ e := by
  split
  next passed => exact (atLeastPow_iff m e c).mp passed
  next => exact fallback

theorem decimalMagnitude_le {m : Nat} (pos : 0 < m) {e : Int}
    (range : -20000 ≤ (m.log2 : Int) + e ∧ (m.log2 : Int) + e ≤ 20000) :
    (10 : ℚ) ^ decimalMagnitude m e ≤ m * 2 ^ e := by
  have estimate : (10 : ℚ) ^ ((((m.log2 : Int) + e) * 30103).fdiv 100000 - 1) ≤ m * 2 ^ e :=
    calc (10 : ℚ) ^ ((((m.log2 : Int) + e) * 30103).fdiv 100000 - 1) ≤ 2 ^ ((m.log2 : Int) + e) :=
          estimate_le _ range
      _ = 2 ^ m.log2 * 2 ^ e := by rw [zpow_add₀ two_ne_zero, zpow_natCast]
      _ ≤ m * 2 ^ e := by
          gcongr
          exact_mod_cast Nat.log2_self_le pos.ne'
  unfold decimalMagnitude
  dsimp only
  -- three corrections of the estimate, each kept only when its power passes the test
  generalize (((m.log2 : Int) + e) * 30103).fdiv 100000 = guess at estimate ⊢
  generalize first : (if (compareScaled m e (-guess) 1 != .lt) = true then guess else guess - 1) = g1
  have firstLe : (10 : ℚ) ^ g1 ≤ m * 2 ^ e := first ▸ pow_le_of_candidate _ _ estimate
  generalize second : (if (compareScaled m e (-(g1 + 1)) 1 != .lt) = true then g1 + 1 else g1) = g2
  have secondLe : (10 : ℚ) ^ g2 ≤ m * 2 ^ e := second ▸ pow_le_of_candidate _ _ firstLe
  exact pow_le_of_candidate _ _ secondLe

end Magnitude

section Grid

theorem stripZeros_value (d : Nat) (k : Int) (fuel : Nat) :
    ((stripZeros d k fuel).1 : ℚ) * 10 ^ (stripZeros d k fuel).2 = d * 10 ^ k := by
  induction fuel generalizing d k with
  | zero => rfl
  | succ fuel ih =>
    unfold stripZeros
    split
    next zeros =>
      have tens : d % 10 = 0 := by simp only [Bool.and_eq_true, bne_iff_ne, beq_iff_eq] at zeros; exact zeros.2
      have divides : ((d / 10 : Nat) : ℚ) * 10 = d := by
        exact_mod_cast Nat.div_mul_cancel (Nat.dvd_of_mod_eq_zero tens)
      rw [ih, zpow_add_one₀ (by norm_num), mul_comm ((10 : ℚ) ^ k), ← mul_assoc, divides]
    next => rfl

def Shortest.value (s : Shortest) : ℚ := s.digits * 10 ^ s.exp

/-- The multiple of `10^k` at or below `m · 2^e`, counted in units of `10^k`,
as the search computes it. -/
def gridBelow (m : Nat) (e k : Int) : Nat :=
  m * Nat.pow 2 e.toNat * Nat.pow 10 (-k).toNat / (Nat.pow 2 (-e).toNat * Nat.pow 10 k.toNat)

theorem gridBelow_bounds (m : Nat) (e k : Int) :
    (gridBelow m e k : ℚ) * 10 ^ k ≤ m * 2 ^ e ∧ (m : ℚ) * 2 ^ e < (gridBelow m e k + 1) * 10 ^ k := by
  have denominator : 0 < Nat.pow 2 (-e).toNat * Nat.pow 10 k.toNat :=
    Nat.mul_pos (Nat.pow_pos (by decide)) (Nat.pow_pos (by decide))
  have numerator := scaled_numerator m e (-k)
  rw [neg_neg] at numerator
  have denominatorQ : (0 : ℚ) < (Nat.pow 2 (-e).toNat * Nat.pow 10 k.toNat : Nat) := by
    exact_mod_cast denominator
  have tenPos : (0 : ℚ) < 10 ^ k := by positivity
  have value : (m : ℚ) * 2 ^ e = (m * 2 ^ e * 10 ^ (-k)) * 10 ^ k := by
    rw [mul_assoc _ ((10 : ℚ) ^ (-k)), ← zpow_add₀ (by norm_num), neg_add_cancel, zpow_zero, mul_one]
  have low : ((gridBelow m e k : Nat) : ℚ) ≤ m * 2 ^ e * 10 ^ (-k) := by
    have := Nat.div_mul_le_self (m * Nat.pow 2 e.toNat * Nat.pow 10 (-k).toNat)
      (Nat.pow 2 (-e).toNat * Nat.pow 10 k.toNat)
    have cast : ((gridBelow m e k * (Nat.pow 2 (-e).toNat * Nat.pow 10 k.toNat) : Nat) : ℚ) ≤
        m * 2 ^ e * 10 ^ (-k) * (Nat.pow 2 (-e).toNat * Nat.pow 10 k.toNat : Nat) := by
      rw [← numerator]; exact_mod_cast this
    push_cast [Nat.cast_mul] at cast
    exact le_of_mul_le_mul_right (by simpa only [natPow_cast, Nat.cast_ofNat] using cast)
      (by simpa only [Nat.cast_mul, natPow_cast, Nat.cast_ofNat] using denominatorQ)
  have high : m * 2 ^ e * 10 ^ (-k) < ((gridBelow m e k : Nat) : ℚ) + 1 := by
    have : m * Nat.pow 2 e.toNat * Nat.pow 10 (-k).toNat < _ := Nat.lt_div_mul_add denominator
    have cast : m * 2 ^ e * 10 ^ (-k) * (Nat.pow 2 (-e).toNat * Nat.pow 10 k.toNat : Nat) <
        (((gridBelow m e k : Nat) : ℚ) + 1) * (Nat.pow 2 (-e).toNat * Nat.pow 10 k.toNat : Nat) := by
      rw [← numerator, add_mul, one_mul]; exact_mod_cast this
    exact lt_of_mul_lt_mul_right cast denominatorQ.le
  constructor
  · rw [value]; exact mul_le_mul_of_nonneg_right low tenPos.le
  · rw [value]; exact mul_lt_mul_of_pos_right high tenPos

variable {m : Nat} {e : Int} {lowGap : Nat}

theorem RoundsTo.of_between {r : ℚ} (low : ((m : ℚ) - lowGap / 4) * 2 ^ e < r)
    (high : r < ((m : ℚ) + 1 / 2) * 2 ^ e) : RoundsTo m e lowGap r := by
  have unit : (0 : ℚ) < 2 ^ e := by positivity
  rw [RoundsTo, zpow_neg, ← div_eq_mul_inv, lt_div_iff₀ unit, div_lt_iff₀ unit]
  exact ⟨.inl low, .inl high⟩

/-- When a power of ten is narrower than the interval, one of the two
multiples of it around the value lies inside, the one below being nonzero. -/
theorem grid_neighbour_roundsTo (pos : 0 < m) (gap : lowGap ≤ 2) {k : Int}
    (narrow : (10 : ℚ) ^ k < ((lowGap : ℚ) / 4 + 1 / 2) * 2 ^ e) :
    (gridBelow m e k ≠ 0 ∧ RoundsTo m e lowGap (gridBelow m e k * 10 ^ k)) ∨
      RoundsTo m e lowGap ((gridBelow m e k + 1 : Nat) * 10 ^ k) := by
  obtain ⟨belowLe, aboveGt⟩ := gridBelow_bounds m e k
  have one : (1 : ℚ) ≤ m := by exact_mod_cast pos
  have gapQ : (lowGap : ℚ) ≤ 2 := by exact_mod_cast gap
  have unit : (0 : ℚ) < 2 ^ e := by positivity
  have lowPos : 0 < ((m : ℚ) - lowGap / 4) * 2 ^ e := mul_pos (by linarith) unit
  have lowLe : ((m : ℚ) - lowGap / 4) * 2 ^ e ≤ m * 2 ^ e :=
    mul_le_mul_of_nonneg_right (by have : (0 : ℚ) ≤ lowGap := by positivity
                                   linarith) unit.le
  have width : ((m : ℚ) - lowGap / 4) * 2 ^ e + ((lowGap : ℚ) / 4 + 1 / 2) * 2 ^ e =
      ((m : ℚ) + 1 / 2) * 2 ^ e := by ring
  have highGt : (m : ℚ) * 2 ^ e < ((m : ℚ) + 1 / 2) * 2 ^ e := mul_lt_mul_of_pos_right (by linarith) unit
  rcases lt_or_ge (((m : ℚ) - lowGap / 4) * 2 ^ e) (gridBelow m e k * 10 ^ k) with
    belowInside | belowOutside
  · -- the multiple below is above the lower end, and at most the value
    left
    refine ⟨fun zero => ?_, RoundsTo.of_between belowInside (by linarith)⟩
    rw [zero, Nat.cast_zero, zero_mul] at belowInside
    linarith
  · -- otherwise the multiple above is within one power of ten of the lower end
    right
    push_cast
    apply RoundsTo.of_between <;> linarith

/-- The interval test of the search, on `d · 10^k`: compared in quarters of
a unit against `4m - lowGap` and `4m + 2`, the ends counting for an even
significand. -/
theorem inside_iff (gap : lowGap ≤ 4 * m) (d : Nat) (k : Int) :
    ((compareScaled d (2 - e) k (4 * m - lowGap) == .gt ||
        (m % 2 == 0 && compareScaled d (2 - e) k (4 * m - lowGap) == .eq)) &&
      (compareScaled d (2 - e) k (4 * m + 2) == .lt ||
        (m % 2 == 0 && compareScaled d (2 - e) k (4 * m + 2) == .eq))) = true ↔
    RoundsTo m e lowGap (d * 10 ^ k) := by
  -- the compared quantity is four times the value in units of `2^e`
  have quarters : (d : ℚ) * 2 ^ (2 - e) * 10 ^ k = 4 * (d * 10 ^ k * 2 ^ (-e)) := by
    rw [sub_eq_add_neg, zpow_add₀ two_ne_zero]
    norm_num
    ring
  have lower : (((4 * m - lowGap : Nat) : ℚ)) = 4 * ((m : ℚ) - lowGap / 4) := by
    push_cast [Nat.cast_sub gap]
    ring
  have upper : (((4 * m + 2 : Nat) : ℚ)) = 4 * ((m : ℚ) + 1 / 2) := by
    push_cast
    ring
  have flip : (d : ℚ) * 10 ^ k * 2 ^ (-e) = (m : ℚ) - lowGap / 4 ↔
      (m : ℚ) - lowGap / 4 = (d : ℚ) * 10 ^ k * 2 ^ (-e) := eq_comm
  simp only [compareScaled_eq_compare, quarters, lower, upper, Bool.and_eq_true, Bool.or_eq_true,
    beq_iff_eq, compare_gt_iff_gt, compare_eq_iff_eq, compare_lt_iff_lt, RoundsTo,
    mul_lt_mul_iff_right₀ (by norm_num : (0 : ℚ) < 4), mul_right_inj' (by norm_num : (4 : ℚ) ≠ 0),
    flip]

end Grid

section Search

/-- One step of the search at `n` digits: it ends with a grid neighbour of
the value that lies in the interval, trailing zeros dropped, or it goes on
to `n + 1` digits when neither does. -/
theorem search_succ (m : Nat) (e : Int) (inside : Nat → Int → Bool) (mag : Int) (n fuel : Nat) :
    (∃ d, (d = gridBelow m e (mag - n + 1) ∧ d ≠ 0 ∨ d = gridBelow m e (mag - n + 1) + 1) ∧
        inside d (mag - n + 1) = true ∧
        shortestOf.search m e inside mag n (fuel + 1) =
          ⟨(stripZeros d (mag - n + 1) 20).1, (stripZeros d (mag - n + 1) 20).2⟩) ∨
      ((gridBelow m e (mag - n + 1) = 0 ∨ inside (gridBelow m e (mag - n + 1)) (mag - n + 1) = false) ∧
        inside (gridBelow m e (mag - n + 1) + 1) (mag - n + 1) = false ∧
        shortestOf.search m e inside mag n (fuel + 1) = shortestOf.search m e inside mag (n + 1) fuel) := by
  rw [shortestOf.search.eq_2, show m * Nat.pow 2 e.toNat * Nat.pow 10 (-(mag - n + 1)).toNat /
    (Nat.pow 2 (-e).toNat * Nat.pow 10 (mag - n + 1).toNat) = gridBelow m e (mag - n + 1) from rfl]
  generalize gridBelow m e (mag - n + 1) = below
  generalize mag - n + 1 = k
  by_cases inBelow : (below != 0 && inside below k) = true
  · have ⟨nonzero, belowInside⟩ : below ≠ 0 ∧ inside below k = true := by simpa using inBelow
    by_cases inAbove : inside (below + 1) k = true
    · -- both neighbours inside: the nearer one, a tie going to the even one
      left
      rw [if_pos (by rw [inBelow, inAbove]; rfl)]
      dsimp only
      cases compareScaled (2 * below + 1) (-e) k (2 * m)
      case lt => exact ⟨below + 1, .inr rfl, inAbove, rfl⟩
      case gt => exact ⟨below, .inl ⟨rfl, nonzero⟩, belowInside, rfl⟩
      case eq =>
        dsimp only
        split
        · exact ⟨below, .inl ⟨rfl, nonzero⟩, belowInside, rfl⟩
        · exact ⟨below + 1, .inr rfl, inAbove, rfl⟩
    · left
      rw [if_neg (by simp [inAbove]), if_pos inBelow]
      exact ⟨below, .inl ⟨rfl, nonzero⟩, belowInside, rfl⟩
  · by_cases inAbove : inside (below + 1) k = true
    · left
      rw [if_neg (by simp [inBelow]), if_neg inBelow, if_pos inAbove]
      exact ⟨below + 1, .inr rfl, inAbove, rfl⟩
    · right
      rw [if_neg (by simp [inBelow]), if_neg inBelow, if_neg inAbove]
      refine ⟨?_, by simpa using inAbove, rfl⟩
      simpa [or_iff_not_imp_left] using inBelow

/-- The search ends with a value in the interval, provided it reaches
seventeen digits and one of the two grid neighbours of the value is inside
there. -/
theorem search_roundsTo {m : Nat} {e : Int} {lowGap : Nat} {inside : Nat → Int → Bool} {mag : Int}
    (insideIff : ∀ d k, inside d k = true ↔ RoundsTo m e lowGap (d * 10 ^ k))
    (last : (gridBelow m e (mag - 16) ≠ 0 ∧ inside (gridBelow m e (mag - 16)) (mag - 16) = true) ∨
      inside (gridBelow m e (mag - 16) + 1) (mag - 16) = true) :
    ∀ fuel n, n ≤ 17 → 17 < n + fuel →
      RoundsTo m e lowGap (shortestOf.search m e inside mag n fuel).value := by
  intro fuel
  induction fuel with
  | zero => intro n atMost reaches; omega
  | succ fuel ih =>
    intro n atMost reaches
    rcases search_succ m e inside mag n fuel with ⟨d, -, found, stops⟩ | ⟨belowOut, aboveOut, continues⟩
    · rw [stops, Shortest.value, stripZeros_value]
      exact (insideIff d _).mp found
    · rcases Nat.lt_or_ge n 17 with more | seventeen
      · rw [continues]
        exact ih (n + 1) more (by omega)
      · -- at seventeen digits a neighbour is inside, so the search does not go on
        exfalso
        rw [show mag - (n : Int) + 1 = mag - 16 by omega] at belowOut aboveOut
        rcases last with ⟨nonzero, belowIn⟩ | aboveIn
        · rcases belowOut with zero | belowNot
          · exact nonzero zero
          · rw [belowIn] at belowNot; cases belowNot
        · rw [aboveIn] at aboveOut; cases aboveOut

/-- The shortest digits of a positive significand and exponent of binary64
lie in the interval of reals that round to the float. -/
theorem shortestOf_roundsTo {m : Nat} {e : Int} {lowGap : Nat} (pos : 0 < m) (lt : m < 2 ^ 53)
    (least : -1074 ≤ e) (greatest : e ≤ 971) (gap : lowGap = 2 ∨ lowGap = 1 ∧ m = 2 ^ 52) :
    RoundsTo m e lowGap (shortestOf m e lowGap).value := by
  have gapLe : lowGap ≤ 2 := by omega
  have log : m.log2 < 53 := (Nat.log2_lt pos.ne').mpr lt
  have magnitude : (10 : ℚ) ^ decimalMagnitude m e ≤ m * 2 ^ e :=
    decimalMagnitude_le pos ⟨by omega, by omega⟩
  -- at seventeen digits the grid is finer than the interval is wide
  have narrow : (10 : ℚ) ^ (decimalMagnitude m e - 16) < ((lowGap : ℚ) / 4 + 1 / 2) * 2 ^ e := by
    have unit : (0 : ℚ) < 2 ^ e := by positivity
    rw [zpow_sub₀ (by norm_num), div_lt_iff₀ (by positivity)]
    refine lt_of_le_of_lt magnitude ?_
    rcases gap with two | ⟨one, power⟩
    · -- a significand below `2^53` is below `10^16`
      have below : (m : ℚ) < 10 ^ 16 := by exact_mod_cast (show m < 10 ^ 16 by omega)
      calc (m : ℚ) * 2 ^ e < 10 ^ 16 * 2 ^ e := mul_lt_mul_of_pos_right below unit
        _ = ((lowGap : ℚ) / 4 + 1 / 2) * 2 ^ e * 10 ^ (16 : Int) := by rw [two]; norm_num; ring
    · -- at a power of two the interval is three quarters of a unit wide
      calc (m : ℚ) * 2 ^ e < (3 / 4 * 10 ^ 16) * 2 ^ e := by
            apply mul_lt_mul_of_pos_right _ unit
            rw [power]
            norm_num
        _ = ((lowGap : ℚ) / 4 + 1 / 2) * 2 ^ e * 10 ^ (16 : Int) := by rw [one]; norm_num; ring
  unfold shortestOf
  dsimp only
  apply search_roundsTo (fun d k => inside_iff (by omega) d k) ?_ 17 1 (by decide) (by decide)
  rcases grid_neighbour_roundsTo pos gapLe narrow with ⟨nonzero, below⟩ | above
  · exact .inl ⟨nonzero, (inside_iff (by omega) _ _).mpr below⟩
  · exact .inr ((inside_iff (by omega) _ _).mpr above)

theorem Parts.shortest_eq (p : Parts) : p.shortest = shortestOf p.mantissa p.exp p.lowGap := by
  simp only [Parts.shortest, Parts.lowGap, Nat.pow_eq, Bool.and_eq_true, beq_iff_eq, decide_eq_true_eq]

theorem Parts.shortest_roundsTo {x : Float} {p : Parts} (parts : parts? x = some p)
    (nonzero : p.mantissa ≠ 0) : RoundsTo p.mantissa p.exp p.lowGap p.shortest.value := by
  obtain ⟨valid, -⟩ := parts?_spec parts
  rw [Parts.shortest_eq]
  apply shortestOf_roundsTo (Nat.pos_of_ne_zero nonzero) valid.mantissa_lt valid.least_le
    valid.le_greatest
  unfold Parts.lowGap
  split
  next power => exact .inr ⟨rfl, power.1⟩
  next => exact .inl rfl

end Search

end FieldCalc.Binary
