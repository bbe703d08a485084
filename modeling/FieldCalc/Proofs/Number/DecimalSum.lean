import FieldCalc.Number.Decimal
import Mathlib.Algebra.Order.Field.Power
import Mathlib.Algebra.BigOperators.Group.List.Basic
import Mathlib.Algebra.Order.BigOperators.Group.List
import Mathlib.Data.Nat.Digits.Defs
import Mathlib.Tactic.Ring

/-!
# Exact decimal sums

Decimal addition keeps every digit while the exact sum fits in the working
precision. Written on the finest exponent of the summands and of the zero the
sum starts from, a list whose magnitudes add up to fewer than `10^28` units
there (`Decimal.Fits`) is summed exactly, in every order: its sum is the
decimal of the exact total on that exponent (`sum_eq_exactSum`), whose value
is the sum of the values (`value_exactSum`).
-/

namespace FieldCalc.Decimal

def scaledAt (d : Decimal) (e : Int) : Nat := d.coeff * 10 ^ (d.exp - e).toNat

def signedAt (d : Decimal) (e : Int) : Int := if d.neg then -(d.scaledAt e : Int) else d.scaledAt e

def ofScaled (s e : Int) : Decimal := ⟨decide (s < 0), s.natAbs, e⟩

def finest (e : Int) (xs : List Decimal) : Int := xs.foldl (fun m d => min m d.exp) e

def exactSum (xs : List Decimal) : Decimal :=
  ofScaled (xs.map (·.signedAt (finest 0 xs))).sum (finest 0 xs)

/-- The magnitudes of a list, on its finest exponent and that of zero, add up to
fewer than `10^precision` units. -/
def Fits (xs : List Decimal) : Prop := (xs.map (·.scaledAt (finest 0 xs))).sum < 10 ^ precision

instance (xs : List Decimal) : Decidable (Fits xs) := Nat.decLt _ _

def value (d : Decimal) : ℚ := (if d.neg then -(d.coeff : ℚ) else d.coeff) * 10 ^ d.exp

section Grid

variable {d : Decimal} {e g : Int}

theorem natAbs_signedAt (d : Decimal) (e : Int) : (d.signedAt e).natAbs = d.scaledAt e := by
  unfold signedAt
  split <;> simp

theorem scaledAt_shift (ge : g ≤ e) (le : e ≤ d.exp) :
    d.scaledAt g = d.scaledAt e * 10 ^ (e - g).toNat := by
  have exps : (d.exp - g).toNat = (d.exp - e).toNat + (e - g).toNat := by omega
  rw [scaledAt, scaledAt, exps, pow_add, Nat.mul_assoc]

theorem signedAt_shift (ge : g ≤ e) (le : e ≤ d.exp) :
    d.signedAt g = d.signedAt e * 10 ^ (e - g).toNat := by
  unfold signedAt
  rw [scaledAt_shift ge le]
  split <;> push_cast <;> ring

theorem signedAt_ofScaled (s m : Int) :
    (ofScaled s m).signedAt e = s * 10 ^ (m - e).toNat := by
  unfold signedAt scaledAt ofScaled
  dsimp only
  by_cases neg : s < 0
  · have magnitude : (s.natAbs : Int) = -s := by omega
    simp only [neg, decide_true, if_true, Nat.cast_mul, magnitude, Nat.cast_pow]
    push_cast
    ring
  · have magnitude : (s.natAbs : Int) = s := by omega
    simp only [neg, decide_false, Bool.false_eq_true, if_false, Nat.cast_mul, magnitude,
      Nat.cast_pow]
    push_cast
    ring

theorem finest_le (m : Int) (xs : List Decimal) : finest m xs ≤ m := by
  induction xs generalizing m with
  | nil => exact le_refl m
  | cons x xs ih => exact (ih (min m x.exp)).trans (min_le_left m x.exp)

theorem finest_le_exp {m : Int} {xs : List Decimal} (mem : d ∈ xs) : finest m xs ≤ d.exp := by
  induction xs generalizing m with
  | nil => cases mem
  | cons x xs ih =>
    rcases List.mem_cons.mp mem with rfl | mem
    · exact (finest_le _ xs).trans (min_le_right m d.exp)
    · exact ih mem

theorem finest_perm {xs ys : List Decimal} (perm : xs.Perm ys) (m : Int) :
    finest m xs = finest m ys :=
  perm.foldl_eq' (fun x _ y _ z => min_right_comm z x.exp y.exp) m

end Grid

section Exact

theorem roundFraction_exact (neg : Bool) {num : Nat} (e : Int) (fits : num < 10 ^ precision) :
    roundFraction neg num 1 e = ⟨neg, num, e⟩ := by
  have digits : Binary.decimalLength num ≤ precision := Nat.repr_length num precision (by decide) fits
  rw [roundFraction, if_pos (by simp [digits, Nat.mod_one]), Nat.div_one]

theorem add_ofScaled (S m : Int) (x : Decimal)
    (fits : (S * 10 ^ (m - min m x.exp).toNat + x.signedAt (min m x.exp)).natAbs < 10 ^ precision) :
    add (ofScaled S m) x =
      ofScaled (S * 10 ^ (m - min m x.exp).toNat + x.signedAt (min m x.exp)) (min m x.exp) := by
  have shifted := signedAt_ofScaled (e := min m x.exp) S m
  set e := min m x.exp
  set s := S * 10 ^ (m - e).toNat + x.signedAt e
  have added : add (ofScaled S m) x =
      roundFraction (if (ofScaled S m).signedAt e + x.signedAt e == 0 then decide (S < 0) && x.neg
        else decide ((ofScaled S m).signedAt e + x.signedAt e < 0))
        ((ofScaled S m).signedAt e + x.signedAt e).natAbs 1 e := rfl
  rw [added, shifted, roundFraction_exact _ e fits]
  -- a zero total is positive: two negative terms never cancel
  have sign : (if s == 0 then decide (S < 0) && x.neg else decide (s < 0)) = decide (s < 0) := by
    by_cases zero : s = 0
    · have positive : (0 : Int) < 10 ^ (m - e).toNat := by positivity
      have mixed : ¬(S < 0 ∧ x.neg = true) := by
        rintro ⟨neg, xneg⟩
        have below : x.signedAt e ≤ 0 := by simp [signedAt, xneg]
        have : S * 10 ^ (m - e).toNat < 0 := Int.mul_neg_of_neg_of_pos neg positive
        omega
      simp only [zero, beq_self_eq_true, if_true, lt_irrefl, decide_false]
      cases xneg : x.neg <;> simp_all
    · simp [zero]
  rw [sign]
  rfl

theorem foldl_add_ofScaled (xs : List Decimal) (S m : Int)
    (fits : S.natAbs * 10 ^ (m - finest m xs).toNat + (xs.map (·.scaledAt (finest m xs))).sum <
      10 ^ precision) :
    xs.foldl add (ofScaled S m) =
      ofScaled (S * 10 ^ (m - finest m xs).toNat + (xs.map (·.signedAt (finest m xs))).sum)
        (finest m xs) := by
  induction xs generalizing S m with
  | nil => simp [finest]
  | cons x xs ih =>
    set e := min m x.exp
    set g := finest e xs
    have ge : g ≤ e := finest_le e xs
    have le : e ≤ x.exp := min_le_right m x.exp
    have exps : (m - g).toNat = (m - e).toNat + (e - g).toNat := by omega
    have power : 10 ^ (m - g).toNat = 10 ^ (m - e).toNat * 10 ^ (e - g).toNat := by
      rw [exps, pow_add]
    have powerInt : (10 : Int) ^ (m - g).toNat = 10 ^ (m - e).toNat * 10 ^ (e - g).toNat := by
      rw [exps, pow_add]
    have spread : 1 ≤ 10 ^ (e - g).toNat := Nat.one_le_pow _ _ (by norm_num)
    set S' := S * 10 ^ (m - e).toNat + x.signedAt e with running
    have bound : S'.natAbs ≤ S.natAbs * 10 ^ (m - e).toNat + x.scaledAt e := by
      calc S'.natAbs ≤ (S * 10 ^ (m - e).toNat).natAbs + (x.signedAt e).natAbs := Int.natAbs_add_le _ _
        _ = S.natAbs * 10 ^ (m - e).toNat + x.scaledAt e := by
          rw [Int.natAbs_mul, natAbs_signedAt]
          simp
    have spreadBound : S'.natAbs * 10 ^ (e - g).toNat ≤ S.natAbs * 10 ^ (m - g).toNat + x.scaledAt g := by
      calc S'.natAbs * 10 ^ (e - g).toNat
          ≤ (S.natAbs * 10 ^ (m - e).toNat + x.scaledAt e) * 10 ^ (e - g).toNat :=
            Nat.mul_le_mul_right _ bound
        _ = S.natAbs * 10 ^ (m - g).toNat + x.scaledAt g := by
          rw [power, scaledAt_shift ge le]
          ring
    have rest : S'.natAbs * 10 ^ (e - g).toNat + (xs.map (·.scaledAt g)).sum < 10 ^ precision := by
      simp only [List.map_cons, List.sum_cons] at fits
      change S.natAbs * 10 ^ (m - g).toNat + (x.scaledAt g + (xs.map (·.scaledAt g)).sum) <
        10 ^ precision at fits
      omega
    have first : S'.natAbs < 10 ^ precision := by
      have := Nat.le_mul_of_pos_right S'.natAbs spread
      omega
    rw [List.foldl_cons, add_ofScaled S m x first, ih S' e rest]
    change ofScaled (S' * 10 ^ (e - g).toNat + _) g =
      ofScaled (S * 10 ^ (m - g).toNat + (x.signedAt g + (xs.map (·.signedAt g)).sum)) g
    rw [signedAt_shift ge le, powerInt, running]
    congr 1
    ring

theorem sum_eq_exactSum {xs : List Decimal} (fits : Fits xs) : sum xs = exactSum xs := by
  have start : (⟨false, 0, 0⟩ : Decimal) = ofScaled 0 0 := rfl
  have summed := foldl_add_ofScaled xs 0 0 (by simpa [Fits] using fits)
  rw [sum, start, summed]
  simp [exactSum]

theorem Fits.coeff_lt {xs : List Decimal} (fits : Fits xs) {d : Decimal} (mem : d ∈ xs) :
    d.coeff < 10 ^ precision := by
  have scaled : d.coeff ≤ d.scaledAt (finest 0 xs) :=
    Nat.le_mul_of_pos_right _ (Nat.pow_pos (by decide))
  have summed : d.scaledAt (finest 0 xs) ≤ (xs.map (·.scaledAt (finest 0 xs))).sum :=
    List.le_sum_of_mem (List.mem_map_of_mem mem)
  unfold Fits at fits
  omega

end Exact

section Order

variable {xs ys : List Decimal}

theorem Fits.perm (perm : xs.Perm ys) (fits : Fits xs) : Fits ys := by
  unfold Fits at fits ⊢
  rwa [← finest_perm perm, ← (perm.map _).sum_eq]

theorem exactSum_perm (perm : xs.Perm ys) : exactSum xs = exactSum ys := by
  unfold exactSum
  rw [finest_perm perm, (perm.map _).sum_eq]

theorem sum_perm (perm : xs.Perm ys) (fits : Fits xs) : sum xs = sum ys := by
  rw [sum_eq_exactSum fits, sum_eq_exactSum (fits.perm perm), exactSum_perm perm]

end Order

section Value

theorem value_ofScaled (s e : Int) : (ofScaled s e).value = s * 10 ^ e := by
  unfold value ofScaled
  dsimp only
  by_cases neg : s < 0
  · have magnitude : ((s.natAbs : Int) : ℚ) = -s := by exact_mod_cast (by omega : (s.natAbs : Int) = -s)
    simp only [neg, decide_true, if_true]
    rw [← Int.cast_natCast, magnitude]
    ring
  · have magnitude : ((s.natAbs : Int) : ℚ) = s := by exact_mod_cast (by omega : (s.natAbs : Int) = s)
    simp only [neg, decide_false, Bool.false_eq_true, if_false]
    rw [← Int.cast_natCast, magnitude]

theorem signedAt_value {d : Decimal} {e : Int} (le : e ≤ d.exp) :
    (d.signedAt e : ℚ) * 10 ^ e = d.value := by
  have power : (10 : ℚ) ^ (d.exp - e).toNat * 10 ^ e = 10 ^ d.exp := by
    rw [← zpow_natCast, Int.toNat_of_nonneg (by omega),
      ← zpow_add₀ (by norm_num)]
    congr 1
    omega
  unfold signedAt scaledAt value
  split <;> push_cast <;> rw [← power] <;> ring

theorem sum_signedAt_value {e : Int} :
    ∀ {xs : List Decimal}, (∀ d ∈ xs, e ≤ d.exp) →
      (((xs.map (·.signedAt e)).sum : Int) : ℚ) * 10 ^ e = (xs.map value).sum
  | [], _ => by simp
  | d :: xs, below => by
    rw [List.map_cons, List.sum_cons, Int.cast_add, add_mul, signedAt_value (below d List.mem_cons_self),
      sum_signedAt_value fun d' mem => below d' (List.mem_cons_of_mem d mem), List.map_cons,
      List.sum_cons]

theorem value_exactSum (xs : List Decimal) : (exactSum xs).value = (xs.map value).sum := by
  rw [exactSum, value_ofScaled]
  exact sum_signedAt_value fun d mem => finest_le_exp mem

end Value

end FieldCalc.Decimal
