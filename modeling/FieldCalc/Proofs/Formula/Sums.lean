import FieldCalc.Proofs.Number.DecimalSum
import FieldCalc.Proofs.Number.StoredForm
import FieldCalc.Formula.Rollup

/-!
# Sums and averages

`SUM` and `AVG` in a formula, and the `sum` and `avg` rollups, add the
decimals of the number values among their inputs (`numberDecimals`) from left
to right in the working precision, and convert the total once. When the
magnitudes fit in that precision on the finest exponent of the summands, every
number has few enough digits to be written (`fitsText_of_fits`) and every
partial sum is exact: each result is the exact sum converted once, and the
same for every order of the values (`sums_exact_of_fits`). When they do not, a
partial sum is rounded and the order of the values matters
(`sum_rollup_rounds_partial_sums`).
-/

namespace FieldCalc.Formula

/-- The decimals of the number values of a list, in order. -/
def numberDecimals (vals : List Value) : List Decimal :=
  vals.filterMap fun v => match v with
    | .number n => some n.toDecimal
    | _ => none

theorem numberDecimals_perm {vals vals' : List Value} (perm : vals'.Perm vals) :
    (numberDecimals vals').Perm (numberDecimals vals) :=
  perm.filterMap _

theorem numbersOf_toDecimal (vals : List Value) :
    (numbersOf vals).map Number.toDecimal = numberDecimals vals := by
  induction vals with
  | nil => rfl
  | cons v vals ih =>
    cases v <;> simp_all [numbersOf, flatten, numberDecimals, List.filterMap_map]

theorem fitsText_of_fits {ns : List Number} (fits : Decimal.Fits (ns.map Number.toDecimal)) :
    ∀ n ∈ ns, n.fitsText = true := by
  intro n mem
  cases n with
  | int k =>
    exact Number.fitsText_int (show 0 < Decimal.precision by decide)
      (fits.coeff_lt (List.mem_map_of_mem mem)) (by decide)
  | float x => rfl

section Equations

variable (ctx : Context) {vals : List Value} (delimiter : Option String)
variable (fits : Decimal.Fits (numberDecimals vals))
include fits

/-- A list of numbers whose decimals are those of the values converts to them
one by one: none has too many digits to be written. -/
theorem mapM_decimalOfText_of_map {numbers : List Number}
    (decimals : numbers.map Number.toDecimal = numberDecimals vals) :
    numbers.mapM Number.decimalOfText = .ok (numberDecimals vals) := by
  rw [← decimals] at fits ⊢
  exact Number.mapM_decimalOfText (fitsText_of_fits fits)

theorem applyEager_sum :
    applyEager ctx .sum vals = decimalValue (Decimal.sum (numberDecimals vals)) := by
  show (do decimalValue (Decimal.sum (← (numbersOf vals).mapM Number.decimalOfText))) = _
  rw [mapM_decimalOfText_of_map fits (numbersOf_toDecimal vals)]
  rfl

theorem applyEager_avg :
    applyEager ctx .avg vals =
      if numberDecimals vals = [] then .ok (.number (.int 0))
      else decimalValue ((Decimal.sum (numberDecimals vals)).divNat (numberDecimals vals).length) := by
  show (if (numbersOf vals).isEmpty then _ else _) = _
  rw [mapM_decimalOfText_of_map fits (numbersOf_toDecimal vals), ← numbersOf_toDecimal]
  simp only [List.map_eq_nil_iff, List.isEmpty_iff, List.length_map]
  rfl

theorem aggregate_sum :
    aggregate .sum vals delimiter = decimalValue (Decimal.sum (numberDecimals vals)) := by
  unfold aggregate
  dsimp only
  -- the numbers the rollup reads have the decimals of the numbers among the values
  generalize numbersEq : List.filterMap _ vals = numbers
  have decimals : numbers.map Number.toDecimal = numberDecimals vals := by
    subst numbersEq
    rw [List.map_filterMap]
    exact List.filterMap_congr fun v _ => by cases v <;> rfl
  rw [mapM_decimalOfText_of_map fits decimals]
  rfl

theorem aggregate_avg :
    aggregate .avg vals delimiter =
      if numberDecimals vals = [] then
        .error (.formula (.aggregation "Cannot compute avg of an empty set"))
      else decimalValue ((Decimal.sum (numberDecimals vals)).divNat (numberDecimals vals).length) := by
  unfold aggregate
  dsimp only
  generalize numbersEq : List.filterMap _ vals = numbers
  have decimals : numbers.map Number.toDecimal = numberDecimals vals := by
    subst numbersEq
    rw [List.map_filterMap]
    exact List.filterMap_congr fun v _ => by cases v <;> rfl
  rw [mapM_decimalOfText_of_map fits decimals]
  cases numberDecimals vals <;> rfl

end Equations

/-- When the magnitudes of the numbers fit in the working precision on their
finest exponent, the sum is the exact sum of their decimals, `SUM` and the
`sum` rollup convert that exact sum once, `AVG` and the `avg` rollup divide it
by the count of numbers, and every order of the values gives the same
results. -/
theorem sums_exact_of_fits (ctx : Context) (delimiter : Option String) {vals : List Value}
    (fits : Decimal.Fits (numberDecimals vals)) :
    (Decimal.sum (numberDecimals vals)).value = ((numberDecimals vals).map Decimal.value).sum ∧
    applyEager ctx .sum vals = decimalValue (Decimal.exactSum (numberDecimals vals)) ∧
    aggregate .sum vals delimiter = decimalValue (Decimal.exactSum (numberDecimals vals)) ∧
    (numberDecimals vals ≠ [] →
      applyEager ctx .avg vals =
        decimalValue ((Decimal.exactSum (numberDecimals vals)).divNat (numberDecimals vals).length) ∧
      aggregate .avg vals delimiter =
        decimalValue ((Decimal.exactSum (numberDecimals vals)).divNat (numberDecimals vals).length)) ∧
    ∀ vals' : List Value, vals'.Perm vals →
      applyEager ctx .sum vals' = applyEager ctx .sum vals ∧
      aggregate .sum vals' delimiter = aggregate .sum vals delimiter ∧
      applyEager ctx .avg vals' = applyEager ctx .avg vals ∧
      aggregate .avg vals' delimiter = aggregate .avg vals delimiter := by
  have exact := Decimal.sum_eq_exactSum fits
  refine ⟨?_, ?_, ?_, fun some => ?_, fun vals' perm => ?_⟩
  · rw [exact, Decimal.value_exactSum]
  · rw [applyEager_sum ctx fits, exact]
  · rw [aggregate_sum delimiter fits, exact]
  · rw [applyEager_avg ctx fits, aggregate_avg delimiter fits, if_neg some, if_neg some, exact]
    exact ⟨rfl, rfl⟩
  · -- the numbers of a permutation are a permutation of the numbers
    have numbers := numberDecimals_perm perm
    have summed := Decimal.sum_perm numbers (fits.perm numbers.symm)
    have empty : numberDecimals vals' = [] ↔ numberDecimals vals = [] := by
      rw [← List.length_eq_zero_iff, ← List.length_eq_zero_iff, numbers.length_eq]
    have fits' := fits.perm numbers.symm
    rw [applyEager_sum ctx fits, applyEager_sum ctx fits', aggregate_sum delimiter fits,
      aggregate_sum delimiter fits', applyEager_avg ctx fits, applyEager_avg ctx fits',
      aggregate_avg delimiter fits, aggregate_avg delimiter fits', summed, numbers.length_eq]
    simp only [empty, and_self]

theorem sums_exact_of_fits_money :
    Decimal.Fits (numberDecimals [.number (.int 1999), .string "note", .number (.int (-250))]) ∧
      aggregate .sum [.number (.int 1999), .string "note", .number (.int (-250))] none =
        decimalValue (Decimal.exactSum (numberDecimals [.number (.int 1999), .string "note", .number (.int (-250))])) :=
  ⟨by decide, (sums_exact_of_fits { now := 0 } none (by decide)).2.2.1⟩

/-- Beyond the working precision a partial sum is rounded: the sum of
`10^28`, `1` and `-10^28` is `0`, while in another order it is the exact
sum `1`. -/
theorem sum_rollup_rounds_partial_sums :
    aggregate .sum [.number (.int (10 ^ 28)), .number (.int 1), .number (.int (-10 ^ 28))] none =
        .ok (.number (.int 0)) ∧
      aggregate .sum [.number (.int (10 ^ 28)), .number (.int (-10 ^ 28)), .number (.int 1)] none =
        .ok (.number (.int 1)) ∧
      Decimal.exactSum (numberDecimals [.number (.int (10 ^ 28)), .number (.int 1), .number (.int (-10 ^ 28))]) =
        ⟨false, 1, 0⟩ :=
  ⟨by rfl, by rfl, by decide⟩

end FieldCalc.Formula
