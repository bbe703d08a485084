import FieldCalc.Proofs.Number.WholeFloats
import Mathlib.Data.Rat.Floor

/-!
# The float nearest to a ratio

`divRoundEven` rounds a quotient to an integer within a half, a tie going to
the even one (`divRoundEven_near`). So `ofFraction neg num den`, which scales
the ratio into `[2^52, 2^53)`, rounds it and carries a significand rounded up
to `2^53`, either overflows, which happens only from `(2^53 - 1/2) · 2^971` on,
or is a finite float with the sign asked for whose rounding interval holds the
ratio (`ofFraction_cases`, `parts?_ofFraction`). Such a float is within half a
unit of its exponent of the ratio (`RoundsTo.error`).

A float whose unit is finer than `1 / d` keeps the ceiling of a ratio `n / d`:
below `2^27` the unit is at most `2^-26`, so for `d < 2^27` the float nearest to
`n / d` lies between the same two integers as the ratio (`ceil_ofFraction`).
-/

namespace FieldCalc.Binary

section Cases

variable {neg : Bool} {num den : Nat}

/-- The threshold from which ratios round to infinity: halfway between the
largest finite float and `2^1024`. -/
def overflowThreshold : ℚ := (2 ^ 53 - 1 / 2) * 2 ^ (971 : Int)

theorem roundsTo_of_near {q : Nat} {e : Int} {r : ℚ}
    (near : |r * 2 ^ (-e) - q| < 1 / 2 ∨ |r * 2 ^ (-e) - q| = 1 / 2 ∧ q % 2 = 0) :
    RoundsTo q e 2 r := by
  rcases near with strict | ⟨tie, even⟩
  · rw [abs_lt] at strict
    exact ⟨.inl (by linarith), .inl (by linarith)⟩
  · rcases abs_eq (by norm_num : (0 : ℚ) ≤ 1 / 2) |>.mp tie with above | below
    · exact ⟨.inl (by linarith), .inr ⟨even, by linarith⟩⟩
    · exact ⟨.inr ⟨even, by push_cast; linarith⟩, .inl (by linarith)⟩

theorem overflowThreshold_le {e : Int} {r : ℚ} (large : 971 ≤ e)
    (atLeast : (2 : ℚ) ^ 53 - 1 / 2 ≤ r * 2 ^ (-e)) : overflowThreshold ≤ r := by
  have back : r = r * 2 ^ (-e) * 2 ^ e := by
    rw [mul_assoc, ← zpow_add₀ two_ne_zero, neg_add_cancel, zpow_zero, mul_one]
  rw [back]
  unfold overflowThreshold
  gcongr
  norm_num

/-- A ratio that rounds up to `2^53` units of `2^e` is carried into the next
binade: it rounds to `2^52` units of `2^(e + 1)`, whose interval reaches a
quarter unit below. -/
theorem roundsTo_carried {e : Int} {r : ℚ} (atLeast : (2 : ℚ) ^ 53 - 1 / 2 ≤ r * 2 ^ (-e))
    (below : r * 2 ^ (-e) < 2 ^ 53) : RoundsTo (2 ^ 52) (e + 1) 1 r := by
  have halved : r * 2 ^ (-(e + 1)) = r * 2 ^ (-e) / 2 := by
    rw [show -(e + 1) = -e - 1 by ring, zpow_sub₀ two_ne_zero, zpow_one]
    ring
  push_cast
  refine ⟨?_, .inl (by linarith)⟩
  rcases atLeast.lt_or_eq with strict | tie
  · exact .inl (by linarith)
  · exact .inr ⟨by norm_num, by linarith⟩

/-- The float of a ratio: infinity from the threshold on, and otherwise a
finite float of the sign asked for whose rounding interval holds the ratio. -/
theorem ofFraction_cases (hnum : 0 < num) (hden : 0 < den) :
    (ofFraction neg num den = infinity neg ∧ overflowThreshold ≤ (num / den : ℚ)) ∨
      ∃ p, parts? (ofFraction neg num den) = some p ∧ p.neg = neg ∧
        RoundsTo p.mantissa p.exp p.lowGap (num / den) := by
  set e := max (normalExponent num den) (-1074) with eDef
  set q := divRoundEven (scaleFraction num den (-e)).1 (scaleFraction num den (-e)).2 with qDef
  set r : ℚ := num / den with rDef
  have finish := @ofFraction_eq_finish neg num den hnum hden e q eDef.symm qDef.symm
  have scaled : ((scaleFraction num den (-e)).1 : ℚ) / (scaleFraction num den (-e)).2 =
      r * 2 ^ (-e) := scaleFraction_ratio num den (-e)
  have near := divRoundEven_near (scaleFraction num den (-e)).1
    (show 0 < (scaleFraction num den (-e)).2 from scaleFraction_den_pos hden (-e))
  rw [scaled, ← qDef] at near
  have within : |r * 2 ^ (-e) - q| ≤ 1 / 2 := near.elim le_of_lt fun tie => tie.1.le
  rw [abs_le] at within
  have normal := normalExponent_spec hnum hden
  have below : r * 2 ^ (-e) < 2 ^ 53 := by
    calc r * 2 ^ (-e) ≤ r * 2 ^ (-normalExponent num den) := by
          gcongr
          · norm_num
          · omega
      _ < 2 ^ 53 := normal.2
  have normalAbove : -1074 < e → 2 ^ 52 ≤ r * 2 ^ (-e) := by
    intro above
    rw [show e = normalExponent num den by omega]
    exact normal.1
  have qAtMost : q ≤ 2 ^ 53 := by
    have : (q : ℚ) < 2 ^ 53 + 1 := by linarith
    exact_mod_cast Nat.lt_succ_iff.mp (by exact_mod_cast this)
  by_cases carry : q = 2 ^ 53
  · have atLeast : (2 : ℚ) ^ 53 - 1 / 2 ≤ r * 2 ^ (-e) := by
      rw [carry] at within
      push_cast at within
      linarith
    by_cases overflow : e + 1 > 971
    · left
      exact ⟨by rw [finish, if_pos carry, if_pos overflow], overflowThreshold_le (by omega) atLeast⟩
    · -- carried into the next binade: significand `2^52` at `e + 1`
      right
      have aboveLeast : -1074 ≤ e := le_max_right _ _
      have valid : (⟨neg, 2 ^ 52, e + 1⟩ : Parts).Valid :=
        ⟨by norm_num, .inl le_rfl, by simp only; omega, by simp only; omega⟩
      have float : ofFraction neg num den = (⟨neg, 2 ^ 52, e + 1⟩ : Parts).toFloat := by
        rw [finish, if_pos carry, if_neg overflow, Parts.toFloat, if_neg (by simp), Nat.sub_self]
      have gap : (⟨neg, 2 ^ 52, e + 1⟩ : Parts).lowGap = 1 := by
        simp only [Parts.lowGap, true_and, ite_eq_left_iff, not_lt]
        omega
      refine ⟨_, by rw [float, parts?_toFloat valid], rfl, ?_⟩
      rw [gap]
      exact roundsTo_carried atLeast below
  · have qBelow : q < 2 ^ 53 := by omega
    by_cases overflow : e > 971
    · -- a normal ratio beyond the largest binade: twice it is beyond `2^53` a binade lower
      left
      refine ⟨by rw [finish, if_neg carry, if_pos overflow], ?_⟩
      apply overflowThreshold_le (show 971 ≤ e - 1 by omega)
      rw [mul_zpow_neg_sub_one]
      linarith [normalAbove (by omega)]
    · right
      have aboveLeast : -1074 ≤ e := le_max_right _ _
      have normalOrLeast : 2 ^ 52 ≤ q ∨ e = -1074 := by
        by_cases least : e = -1074
        · exact .inr least
        · left
          have atLeast := normalAbove (by omega)
          have : (2 : ℚ) ^ 52 - 1 / 2 ≤ q := by linarith
          have : (2 : ℚ) ^ 52 < q + 1 := by linarith
          have : 2 ^ 52 < q + 1 := by exact_mod_cast this
          omega
      have valid : (⟨neg, q, e⟩ : Parts).Valid :=
        ⟨qBelow, normalOrLeast, aboveLeast, by simp only; omega⟩
      have float : ofFraction neg num den = (⟨neg, q, e⟩ : Parts).toFloat := by
        rw [finish, if_neg carry, if_neg overflow]
        rfl
      refine ⟨_, by rw [float, parts?_toFloat valid], rfl, ?_⟩
      unfold Parts.lowGap
      split
      next power =>
        obtain ⟨power, above⟩ := power
        have atLeast := normalAbove above
        simp only at power
        rw [power] at near within ⊢
        push_cast at within ⊢
        exact ⟨.inl (by linarith), (roundsTo_of_near near).2⟩
      next => exact roundsTo_of_near near

theorem parts?_ofFraction (hnum : 0 < num) (hden : 0 < den)
    (below : (num / den : ℚ) < overflowThreshold) :
    ∃ p, parts? (ofFraction neg num den) = some p ∧ p.neg = neg ∧
      RoundsTo p.mantissa p.exp p.lowGap (num / den) := by
  rcases @ofFraction_cases neg num den hnum hden with ⟨-, above⟩ | finite
  · exact absurd above (not_le.mpr below)
  · exact finite

@[simp]
theorem isInf_infinity (neg : Bool) : (infinity neg).isInf = true := by
  cases neg <;> decide

/-- A ratio in the rounding interval of finite parts lies below the overflow
threshold: a tie rounds to an even significand, which stops short of the
largest. -/
theorem RoundsTo.lt_overflowThreshold {p : Parts} {gap : Nat} {r : ℚ} (valid : p.Valid)
    (rounds : RoundsTo p.mantissa p.exp gap r) : r < overflowThreshold := by
  have scaled : r * 2 ^ (-p.exp) < 2 ^ 53 - 1 / 2 := by
    have top : p.mantissa < 2 ^ 53 := valid.mantissa_lt
    rcases rounds.2 with strict | ⟨even, tie⟩
    · have topQ : (p.mantissa : ℚ) + 1 ≤ 2 ^ 53 := by exact_mod_cast top
      linarith
    · have evenTop : p.mantissa + 2 ≤ 2 ^ 53 := by omega
      have evenTopQ : (p.mantissa : ℚ) + 2 ≤ 2 ^ 53 := by exact_mod_cast evenTop
      linarith
  calc r = r * 2 ^ (-p.exp) * 2 ^ p.exp := by
        rw [mul_assoc, ← zpow_add₀ two_ne_zero, neg_add_cancel, zpow_zero, mul_one]
    _ < (2 ^ 53 - 1 / 2) * 2 ^ p.exp := by gcongr
    _ ≤ overflowThreshold := by
        unfold overflowThreshold
        gcongr
        · norm_num
        · exact valid.le_greatest

theorem lt_overflowThreshold_of_pow {x : ℚ} {k : Nat} (small : x < 2 ^ k) (within : k ≤ 1023) :
    x < overflowThreshold := by
  have split : (2 : ℚ) ^ 1023 = 2 ^ 52 * 2 ^ (971 : Int) := by
    rw [zpow_ofNat, ← pow_add]
  unfold overflowThreshold
  calc x < 2 ^ k := small
    _ ≤ 2 ^ 1023 := pow_le_pow_right₀ (by norm_num) within
    _ = 2 ^ 52 * 2 ^ (971 : Int) := split
    _ ≤ (2 ^ 53 - 1 / 2) * 2 ^ (971 : Int) := by gcongr; norm_num

theorem ofFraction_isInf_iff (hnum : 0 < num) (hden : 0 < den) :
    (ofFraction neg num den).isInf = true ↔ overflowThreshold ≤ (num / den : ℚ) := by
  rcases @ofFraction_cases neg num den hnum hden with ⟨infinite, above⟩ | ⟨p, parts, -, rounds⟩
  · rw [infinite]
    exact iff_of_true (isInf_infinity neg) above
  · rw [isInf_of_parts parts]
    exact iff_of_false Bool.false_ne_true
      (not_le.mpr (rounds.lt_overflowThreshold (parts?_spec parts).1))

theorem ofInt_isInf_iff (n : Int) : (ofInt n).isInf = true ↔ overflowThreshold ≤ (n.natAbs : ℚ) := by
  by_cases zero : n = 0
  · have positive : (0 : ℚ) < overflowThreshold := by norm_num [overflowThreshold]
    subst zero
    exact iff_of_false (by decide) (by simpa using positive)
  · unfold ofInt
    rw [ofFraction_isInf_iff (Int.natAbs_pos.mpr zero) Nat.one_pos, Nat.cast_one, div_one]

end Cases

theorem RoundsTo.error {m : Nat} {e : Int} {gap : Nat} {r : ℚ} (small : gap ≤ 2)
    (rounds : RoundsTo m e gap r) : |r - m * 2 ^ e| ≤ 2 ^ e / 2 := by
  obtain ⟨low, high⟩ := rounds.bounds
  have gapQ : (gap : ℚ) ≤ 2 := by exact_mod_cast small
  have unit : (0 : ℚ) < 2 ^ e := by positivity
  have scaled : r - m * 2 ^ e = (r * 2 ^ (-e) - m) * 2 ^ e := by
    rw [sub_mul, mul_assoc, ← zpow_add₀ two_ne_zero, neg_add_cancel, zpow_zero, mul_one]
  rw [scaled, abs_mul, abs_of_pos unit, div_eq_mul_inv, mul_comm (2 ^ e : ℚ)]
  gcongr
  rw [abs_le]
  constructor <;> linarith

section Ceiling

theorem Parts.ceil_eq_of_between {p : Parts} (pos : p.neg = false) {c : Nat}
    (low : (c : ℚ) - 1 < p.mantissa * 2 ^ p.exp) (high : (p.mantissa : ℚ) * 2 ^ p.exp ≤ c) :
    p.ceil = c := by
  have ratio := scaleFraction_ratio p.mantissa 1 p.exp
  have denominator : 0 < (scaleFraction p.mantissa 1 p.exp).2 :=
    scaleFraction_den_pos Nat.one_pos _
  rw [Nat.cast_one, div_one] at ratio
  unfold Parts.ceil
  rw [pos]
  generalize scaleFraction p.mantissa 1 p.exp = scaled at ratio denominator ⊢
  obtain ⟨a, b⟩ := scaled
  dsimp only at ratio denominator ⊢
  rw [if_neg Bool.false_ne_true]
  have bq : (0 : ℚ) < b := by exact_mod_cast denominator
  rw [← ratio, lt_div_iff₀ bq] at low
  rw [← ratio, div_le_iff₀ bq] at high
  -- in naturals: `c·b - b < a ≤ c·b`, so `⌈a / b⌉ = c`
  have atMost : a ≤ c * b := by exact_mod_cast high
  have above : c * b < a + b := by
    have : ((c * b : Nat) : ℚ) < a + b := by push_cast; linarith
    exact_mod_cast this
  have succ : (c + 1) * b = c * b + b := Nat.succ_mul c b
  congr 1
  apply Nat.div_eq_of_lt_le <;> omega

/-- A float whose rounding interval holds a ratio of at most `2^27 - 1` has a
unit of at most `2^-26`: from a unit of `2^-25` on, a normal float and the
ratios that round to it are at least `2^27 - 2^-26`. -/
theorem RoundsTo.exp_le_of_small {p : Parts} {r : ℚ} (valid : p.Valid)
    (rounds : RoundsTo p.mantissa p.exp p.lowGap r) (small : r ≤ 2 ^ 27 - 1) : p.exp ≤ -26 := by
  by_contra coarse
  have error := abs_le.mp (rounds.error p.lowGap_le)
  have normal : 2 ^ 52 ≤ p.mantissa := valid.normal_or_least.resolve_right (by omega)
  have normalQ : (2 : ℚ) ^ 52 ≤ p.mantissa := by exact_mod_cast normal
  have unit : (2 : ℚ) ^ (-25 : Int) ≤ 2 ^ p.exp := zpow_le_zpow_right₀ (by norm_num) (by omega)
  have : ((2 : ℚ) ^ 52 - 1 / 2) * 2 ^ (-25 : Int) ≤ (p.mantissa - 1 / 2) * 2 ^ p.exp := by
    gcongr
    linarith
  have value : ((2 : ℚ) ^ 52 - 1 / 2) * 2 ^ (-25 : Int) = 2 ^ 27 - 1 / 2 ^ 26 := by norm_num
  linarith

/-- A whole number of units `2^e`, for `e ≤ 0`, that is at most half a unit
above a natural number `c` is at most `c`: `c` is a whole number of units too. -/
theorem le_of_near_whole {m c : Nat} {e : Int} (fine : e ≤ 0)
    (near : (m : ℚ) * 2 ^ e ≤ c + 2 ^ e / 2) : (m : ℚ) * 2 ^ e ≤ c := by
  obtain ⟨k, hk⟩ : ∃ k : Nat, e = -(k : Int) := ⟨(-e).toNat, by omega⟩
  have unitPos : (0 : ℚ) < 2 ^ e := by positivity
  have whole : (c : ℚ) = ((c * 2 ^ k : Nat) : ℚ) * 2 ^ e := by
    rw [hk, zpow_neg, zpow_natCast]
    push_cast
    field_simp
  have units : m ≤ c * 2 ^ k := by
    have scaled : (m : ℚ) * 2 ^ e ≤ ((c * 2 ^ k : Nat) + 1 / 2) * 2 ^ e := by
      rw [add_mul, ← whole]
      linarith
    have : (m : ℚ) < (c * 2 ^ k : Nat) + 1 := by
      have := le_of_mul_le_mul_right scaled unitPos
      linarith
    exact Nat.lt_succ_iff.mp (by exact_mod_cast this)
  rw [whole]
  gcongr

/-- The float nearest to `n / d`, for `d < 2^27` and a ratio at most `2^27 - 1`,
has the ceiling of the ratio: its unit is at most `2^-26`, so it is less than
`1 / d` away from the ratio and lands on no integer beyond it. -/
theorem ceil_ofFraction {n d : Nat} (hd : 0 < d) (fine : d < 2 ^ 27) (below : n + d ≤ 2 ^ 27 * d) :
    ∃ p, parts? (ofFraction false n d) = some p ∧ p.ceil = ⌈(n / d : ℚ)⌉ := by
  set c := (n + d - 1) / d with cDef
  have dq : (0 : ℚ) < d := by exact_mod_cast hd
  have divMod : c * d + (n + d - 1) % d = n + d - 1 := by
    rw [cDef, Nat.mul_comm]
    exact Nat.div_add_mod _ _
  have remainder := Nat.mod_lt (n + d - 1) hd
  have reaches : n ≤ c * d := by omega
  have least : c * d < n + d := by omega
  by_cases zero : n = 0
  · subst zero
    have none : c = 0 := by
      rw [cDef, Nat.zero_add]
      exact Nat.div_eq_of_lt (by omega)
    have float : ofFraction false 0 d = zero false := by simp [ofFraction]
    refine ⟨⟨false, 0, -1074⟩, by rw [float]; decide, ?_⟩
    rw [Nat.cast_zero, zero_div, Int.ceil_zero]
    exact Parts.ceil_eq_of_between (c := 0) rfl (by simp) (by simp)
  have ratioBelow : (n / d : ℚ) ≤ 2 ^ 27 - 1 := by
    rw [div_le_iff₀ dq]
    have : ((n + d : Nat) : ℚ) ≤ ((2 ^ 27 * d : Nat) : ℚ) := by exact_mod_cast below
    push_cast at this
    linarith
  have threshold : (n / d : ℚ) < overflowThreshold := by
    unfold overflowThreshold
    calc (n / d : ℚ) ≤ 2 ^ 27 - 1 := ratioBelow
      _ < (2 ^ 53 - 1 / 2) * 1 := by norm_num
      _ ≤ (2 ^ 53 - 1 / 2) * 2 ^ (971 : Int) := by
        gcongr
        exact one_le_zpow₀ (by norm_num) (by norm_num)
  obtain ⟨p, parts, sign, rounds⟩ := parts?_ofFraction (Nat.pos_of_ne_zero zero) hd threshold
  refine ⟨p, parts, ?_⟩
  have valid := (parts?_spec parts).1
  have error := abs_le.mp (rounds.error p.lowGap_le)
  have fineExp := rounds.exp_le_of_small valid ratioBelow
  have halfUnit : (2 : ℚ) ^ p.exp / 2 < 1 / d := by
    have unit : (2 : ℚ) ^ p.exp ≤ 2 ^ (-26 : Int) := zpow_le_zpow_right₀ (by norm_num) fineExp
    have dBelow : (d : ℚ) < 2 ^ 27 := by exact_mod_cast fine
    rw [lt_div_iff₀ dq]
    calc 2 ^ p.exp / 2 * (d : ℚ) ≤ 2 ^ (-26 : Int) / 2 * d := by gcongr
      _ < 2 ^ (-26 : Int) / 2 * 2 ^ 27 := by gcongr
      _ = 1 := by norm_num
  have ratioAbove : (c : ℚ) - 1 + 1 / d ≤ n / d := by
    rw [show (c : ℚ) - 1 + 1 / d = (c * d - d + 1 : ℚ) / d by field_simp, div_le_div_iff_of_pos_right dq]
    have : ((c * d + 1 : Nat) : ℚ) ≤ ((n + d : Nat) : ℚ) := by exact_mod_cast least
    push_cast at this
    linarith
  have ratioAtMost : (n / d : ℚ) ≤ c := by
    rw [div_le_iff₀ dq]
    exact_mod_cast reaches
  have ceiling : ⌈(n / d : ℚ)⌉ = c := by
    rw [Int.ceil_eq_iff]
    push_cast
    constructor <;> linarith
  rw [ceiling]
  apply Parts.ceil_eq_of_between sign (by linarith)
  exact le_of_near_whole (show p.exp ≤ 0 by omega) (by linarith)

end Ceiling

end FieldCalc.Binary
