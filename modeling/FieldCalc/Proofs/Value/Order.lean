import FieldCalc.Proofs.Number.Order
import FieldCalc.Proofs.Value.Normal
import FieldCalc.Formula.Operators

/-!
# Equality and order of values

Equality of values is symmetric for every pair of values, and reflexive on
values in normal form. The ordering comparisons and equality are read off one
ordering: two texts by code points, anything else by the exact value of its
numeric reading (`compareValues_ordering`). So whenever neither side is null
and the comparison has both readings, exactly one of `<`, `=` and `>` holds,
`<=` is `<` or `=`, and swapping the sides swaps `<` and `>`.
-/

namespace FieldCalc

open Formula

section Readings

theorem Number.Normal.finite {n : Number} (normal : n.Normal) : n.Finite := by
  cases n with
  | int _ => trivial
  | float x => exact normal.1

/-- The numeric reading of a normal value has a value: a text reads as a
finite float, normalized. -/
theorem Value.asNumber?_finite {v : Value} (normal : v.Normal) {n : Number}
    (reading : v.asNumber? = some n) : n.Finite := by
  cases v with
  | number m =>
    cases reading
    exact Number.Normal.finite normal
  | timestamp _ | boolean _ =>
    cases reading
    trivial
  | string s =>
    simp only [Value.asNumber?] at reading
    split at reading
    · exact Number.Normal.finite (Number.normalize_normal reading)
    · cases reading
  | list _ | null => cases reading

theorem orderingKey_eq_ok_iff {v : Value} {op : String} {n : Number} :
    orderingKey v op = .ok n ↔ v.asNumber? = some n := by
  cases v
  case string s =>
    simp only [orderingKey, Value.asNumber?]
    cases parseNumber? s with
    | none => simp [bind, Except.bind, Value.display]
    | some x =>
      cases normalized : (Number.float x).normalize <;> simp [normalized, bind, Except.bind, Value.display]
  case list | null => simp [orderingKey, Value.asNumber?, bind, Except.bind, Value.display]
  all_goals simp [orderingKey, Value.asNumber?]

end Readings

section Equality

theorem Number.same_comm (x y : Number) : x.same y = y.same x := by
  cases x <;> cases y <;> simp only [Number.same, BEq.comm]

theorem Value.same_comm (a b : Value) : a.same b = b.same a := by
  cases a <;> cases b <;> simp only [Value.same, Number.same_comm, BEq.comm]

theorem valuesEqual_eq_readings {a b : Value} (a0 : a.isNull = false) (b0 : b.isNull = false)
    (notTexts : ¬∃ s t, a = .string s ∧ b = .string t) :
    valuesEqual a b =
      match a.asNumber?, b.asNumber? with
      | some x, some y => x.eqv y
      | _, _ => a.same b := by
  unfold valuesEqual
  rw [a0, b0]
  generalize ra : a.asNumber? = A
  generalize rb : b.asNumber? = B
  -- a list has no reading, so the branch that refuses lists agrees with the readings
  cases A <;> cases B <;> cases a <;> cases b <;> simp_all [Value.asNumber?]

theorem valuesEqual_comm (a b : Value) : valuesEqual a b = valuesEqual b a := by
  cases a0 : a.isNull <;> cases b0 : b.isNull
  case false.false =>
    by_cases texts : ∃ s t, a = .string s ∧ b = .string t
    · obtain ⟨s, t, rfl, rfl⟩ := texts
      simp [valuesEqual, Value.isNull, BEq.comm]
    · have texts' : ¬∃ s t, b = .string s ∧ a = .string t := fun ⟨s, t, sb, ta⟩ => texts ⟨t, s, ta, sb⟩
      rw [valuesEqual_eq_readings a0 b0 texts, valuesEqual_eq_readings b0 a0 texts']
      cases a.asNumber? <;> cases b.asNumber? <;> simp [Number.eqv_comm, Value.same_comm]
  all_goals simp [valuesEqual, a0, b0]

theorem valuesEqual_self {v : Value} (normal : v.Normal) : valuesEqual v v = true := by
  cases v0 : v.isNull
  · by_cases text : ∃ s, v = .string s
    · obtain ⟨s, rfl⟩ := text
      simp [valuesEqual, Value.isNull]
    · rw [valuesEqual_eq_readings v0 v0 fun ⟨s, _, vs, _⟩ => text ⟨s, vs⟩]
      cases reading : v.asNumber? with
      | some n =>
        have finite := Value.asNumber?_finite normal reading
        simp [Number.eqv_eq_value finite finite]
      | none =>
        cases v <;> simp_all [Value.same, Value.asNumber?]
  · simp [valuesEqual, v0]

end Equality

section Ordering

variable {a b : Value}

theorem compareValues_keys (a0 : a.isNull = false) (b0 : b.isNull = false)
    (notTexts : ¬∃ s t, a = .string s ∧ b = .string t) (c : Comparison) :
    compareValues a b c = (do
      let x ← orderingKey a c.symbol
      let y ← orderingKey b c.symbol
      return c.holds (x.compare y)) := by
  unfold compareValues
  rw [a0, b0, if_neg (by decide)]
  split
  · exact absurd ⟨_, _, rfl, rfl⟩ notTexts
  · rfl

/-- The comparisons and the equality of two values that are not null come
from one ordering, once one comparison of them has succeeded: the order of
texts by code points, or the order of the exact values of their readings.
Swapping the sides swaps the ordering. -/
theorem compareValues_ordering (na : a.Normal) (nb : b.Normal) (a0 : a.isNull = false)
    (b0 : b.isNull = false) {c : Comparison} {r : Bool} (ok : compareValues a b c = .ok r) :
    ∃ o : Ordering, (∀ c', compareValues a b c' = .ok (c'.holds o)) ∧
      valuesEqual a b = (o == .eq) ∧ ∀ c', compareValues b a c' = .ok (c'.holds o.swap) := by
  by_cases texts : ∃ s t, a = .string s ∧ b = .string t
  · obtain ⟨s, t, rfl, rfl⟩ := texts
    refine ⟨compare s t, fun c' => by simp [compareValues, Value.isNull], ?_, fun c' => ?_⟩
    · have same : (compare s t == .eq) = (s == t) := by
        rw [Bool.eq_iff_iff, beq_iff_eq, beq_iff_eq]
        exact Std.LawfulEqOrd.compare_eq_iff_eq
      simp [valuesEqual, Value.isNull, same]
    · simp [compareValues, Value.isNull, Std.OrientedOrd.eq_swap (a := t)]
  · have texts' : ¬∃ s t, b = .string s ∧ a = .string t := fun ⟨s, t, sb, ta⟩ => texts ⟨t, s, ta, sb⟩
    rw [compareValues_keys a0 b0 texts] at ok
    cases keyA : orderingKey a c.symbol with
    | error e => simp [keyA, bind, Except.bind] at ok
    | ok x =>
      cases keyB : orderingKey b c.symbol with
      | error e => simp [keyA, keyB, bind, Except.bind] at ok
      | ok y =>
        have ra := orderingKey_eq_ok_iff.mp keyA
        have rb := orderingKey_eq_ok_iff.mp keyB
        have fx := Value.asNumber?_finite na ra
        have fy := Value.asNumber?_finite nb rb
        refine ⟨x.compare y, fun c' => ?_, ?_, fun c' => ?_⟩
        · rw [compareValues_keys a0 b0 texts, orderingKey_eq_ok_iff.mpr ra,
            orderingKey_eq_ok_iff.mpr rb]
          rfl
        · rw [valuesEqual_eq_readings a0 b0 texts, ra, rb]
          rfl
        · rw [compareValues_keys b0 a0 texts', orderingKey_eq_ok_iff.mpr ra,
            orderingKey_eq_ok_iff.mpr rb]
          show Except.ok (c'.holds (y.compare x)) = Except.ok (c'.holds (x.compare y).swap)
          rw [Number.compare_eq_value fy fx, Number.compare_eq_value fx fy,
            Std.OrientedOrd.eq_swap (a := y.value)]

/-- What an ordering says of `<`, `=`, `>`, `<=` and `>=`: exactly one of
the first three holds, `<=` is `<` or `=`, `>=` is `>` or `=`, and the swapped
ordering's `>` is `<`. -/
theorem Comparison.holds_laws (o : Ordering) :
    [Comparison.lt.holds o, o == .eq, Comparison.gt.holds o].count true = 1 ∧
      Comparison.le.holds o = (Comparison.lt.holds o || o == .eq) ∧
      Comparison.ge.holds o = (Comparison.gt.holds o || o == .eq) ∧
      Comparison.gt.holds o.swap = Comparison.lt.holds o := by
  cases o <;> decide

theorem compareValues_numbers {x y : Number} (fx : x.Finite) (fy : y.Finite) :
    valuesEqual (.number x) (.number y) = decide (x.value = y.value) ∧
      ∀ c, compareValues (.number x) (.number y) c = .ok (c.holds (compare x.value y.value)) := by
  have notTexts : ¬∃ s t, Value.number x = .string s ∧ Value.number y = .string t :=
    fun ⟨_, _, text, _⟩ => by cases text
  constructor
  · rw [valuesEqual_eq_readings rfl rfl notTexts]
    exact Number.eqv_eq_value fx fy
  · intro c
    rw [compareValues_keys rfl rfl notTexts, orderingKey_eq_ok_iff.mpr rfl,
      orderingKey_eq_ok_iff.mpr rfl]
    show Except.ok (c.holds (x.compare y)) = _
    rw [Number.compare_eq_value fx fy]

end Ordering

/-- Equality is symmetric, and reflexive on values in normal form. When
neither of two normal values is null and a comparison of them succeeds,
exactly one of `<`, `=` and `>` holds, `<=` is `<` or `=`, `>=` is `>` or
`=`, and `a < b` is `b > a`. Numbers are compared by their exact values,
integers and floats alike. -/
theorem values_order_consistent :
    (∀ a b : Value, valuesEqual a b = valuesEqual b a) ∧
    (∀ a : Value, a.Normal → valuesEqual a a = true) ∧
    (∀ a b : Value, a.Normal → b.Normal → a.isNull = false → b.isNull = false →
      ∀ c r, compareValues a b c = .ok r →
        ∃ lt gt, compareValues a b .lt = .ok lt ∧ compareValues a b .gt = .ok gt ∧
          [lt, valuesEqual a b, gt].count true = 1 ∧
          compareValues a b .le = .ok (lt || valuesEqual a b) ∧
          compareValues a b .ge = .ok (gt || valuesEqual a b) ∧
          compareValues b a .gt = .ok lt) ∧
    (∀ x y : Number, x.Finite → y.Finite →
      valuesEqual (.number x) (.number y) = decide (x.value = y.value) ∧
      ∀ c, compareValues (.number x) (.number y) c = .ok (c.holds (compare x.value y.value))) := by
  refine ⟨valuesEqual_comm, fun a normal => valuesEqual_self normal, ?_,
    fun x y fx fy => compareValues_numbers fx fy⟩
  intro a b na nb a0 b0 c r ok
  obtain ⟨o, forward, equal, backward⟩ := compareValues_ordering na nb a0 b0 ok
  obtain ⟨one, le, ge, swapped⟩ := Comparison.holds_laws o
  refine ⟨Comparison.lt.holds o, Comparison.gt.holds o, forward .lt, forward .gt, ?_, ?_, ?_, ?_⟩
  · rwa [equal]
  · rw [forward .le, le, equal]
  · rw [forward .ge, ge, equal]
  · rw [backward .gt, swapped]

/-- The integer `2^53 + 1` and the float `2^53` are different numbers. -/
theorem values_order_consistent_largeInteger :
    (Number.float (Float.ofBits 0x4340000000000000)).Finite ∧
      valuesEqual (.number (.int 9007199254740993)) (.number (.float (Float.ofBits 0x4340000000000000))) =
        decide ((Number.int 9007199254740993).value = (Number.float (Float.ofBits 0x4340000000000000)).value) :=
  ⟨by decide, (values_order_consistent.2.2.2 (.int 9007199254740993) _ trivial (by decide)).1⟩

example :
    compareValues (.number (.int 9007199254740993)) (.number (.float (Float.ofBits 0x4340000000000000)))
      .gt = .ok true := by rfl

end FieldCalc
