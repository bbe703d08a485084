import FieldCalc.Formula.Eval
import Mathlib.Tactic.SplitIfs

/-!
# Slices of text

`LEFT`, `RIGHT` and `MID` cut the display text of their first argument by
code points. `LEFT` keeps the first `max n 0` of them and `MID` the `max c 0`
from the 1-based position `max p 1`, both clamped at the end of the text.
`RIGHT` starts its slice at `LEN - n`, and a start below zero counts from the
end of the text again: a count between the length and twice the length keeps
only `n - LEN` code points (`rightKept`), so `RIGHT` keeps the last
`min (max n 0) LEN` code points exactly when the count is not in that window
(`slices_of_display`). The two halves of a cut still join back into the text.
-/

namespace FieldCalc.Formula

/-- How many code points `RIGHT` keeps of a text of `len` code points for the
count `n`: none for a count that is not positive, then the count up to the
length; past it the start `len - n` wraps around from the end, leaving
`n - len`, until at twice the length the whole text is kept. -/
def rightKept (len : Nat) (n : Int) : Nat :=
  if n ≤ 0 then 0 else if n ≤ len then n.toNat else if n < 2 * len then (n - len).toNat else len

theorem dropFrom_eq (cs : List Char) (start : Int) :
    dropFrom cs start = cs.drop (if start < 0 then (start + cs.length).toNat else start.toNat) := by
  unfold dropFrom
  split <;> rfl

theorem rightStart_eq (len : Nat) {n : Int} (positive : 0 < n) :
    (if (len : Int) - n < 0 then ((len : Int) - n + len).toNat else ((len : Int) - n).toNat) =
      len - rightKept len n := by
  unfold rightKept
  split_ifs <;> omega

theorem rightKept_le (len : Nat) (n : Int) : rightKept len n ≤ len := by
  unfold rightKept
  split_ifs <;> omega

theorem rightKept_eq_clamped_iff (len : Nat) (n : Int) :
    rightKept len n = min (max n 0).toNat len ↔ n ≤ len ∨ 2 * (len : Int) ≤ n := by
  unfold rightKept
  split_ifs <;> omega

theorem drop_ofList_inj {cs : List Char} {a b : Nat} (ha : a ≤ cs.length) (hb : b ≤ cs.length)
    (same : String.ofList (cs.drop (cs.length - a)) = String.ofList (cs.drop (cs.length - b))) :
    a = b := by
  have lengths := congrArg (fun t : String => t.toList.length) same
  simp only [String.toList_ofList, List.length_drop] at lengths
  omega

section Slices

variable (ctx : Context) {t : Value} {s : String} (shown : t.display = .ok s)
include shown

theorem left_eq {c : Value} {n : Int} (count : toInteger c "LEFT" = .ok n) :
    applyEager ctx .left [t, c] =
      .ok (.string (String.ofList (s.toList.take (min (max n 0).toNat s.length)))) := by
  simp only [applyEager, count, shown, bind, Except.bind, pure, Except.pure]
  -- the take stops at the end of the text anyway
  rw [← String.length_toList, ← List.take_eq_take_min, Int.max_comm]

theorem right_eq {c : Value} {n : Int} (count : toInteger c "RIGHT" = .ok n) :
    applyEager ctx .right [t, c] =
      .ok (.string (String.ofList (s.toList.drop (s.length - rightKept s.length n)))) := by
  simp only [applyEager, count, shown, bind, Except.bind, pure, Except.pure, dropFrom_eq,
    String.length_toList]
  by_cases positive : 0 < n
  · have nonzero : (max 0 n == 0) = false := by simp; omega
    rw [if_neg (by simp [nonzero]), Int.max_eq_right (Int.le_of_lt positive),
      rightStart_eq _ positive]
  · have zero : (max 0 n == 0) = true := by simp; omega
    rw [if_pos (by simp [zero])]
    simp [rightKept, show n ≤ 0 by omega, String.length_toList]

theorem mid_eq {p c : Value} {i j : Int} (start : toInteger p "MID" = .ok i)
    (count : toInteger c "MID" = .ok j) :
    applyEager ctx .mid [t, p, c] =
      .ok (.string (String.ofList ((s.toList.drop (max i 1 - 1).toNat).take
        (min (max j 0).toNat (s.length - (max i 1 - 1).toNat))))) := by
  simp only [applyEager, start, count, shown, bind, Except.bind, pure, Except.pure]
  rw [← String.length_toList, ← List.length_drop, ← List.take_eq_take_min, Int.max_comm i,
    Int.max_comm j]

end Slices

theorem left_concat_right (ctx : Context) (s : String) {k : Nat} (within : k ≤ s.length)
    {kv jv : Value} (first : toInteger kv "LEFT" = .ok k)
    (rest : toInteger jv "RIGHT" = .ok (s.length - k : Nat)) :
    (do concat (← applyEager ctx .left [.string s, kv]) (← applyEager ctx .right [.string s, jv])) =
      .ok (.string s) := by
  have kept : rightKept s.length (s.length - k : Nat) = s.length - k := by
    unfold rightKept
    split_ifs <;> omega
  rw [left_eq ctx rfl first, right_eq ctx rfl rest, kept]
  simp only [bind, Except.bind, concat, Value.display, pure, Except.pure]
  have cut : s.length - (s.length - k) = min (max (k : Int) 0).toNat s.length := by omega
  rw [cut, ← String.ofList_append, List.take_append_drop, String.ofList_toList]

/-- `LEFT`, `MID` and `RIGHT` cut the display text by code points: `LEFT` and
`MID` clamped to the text, `RIGHT` wrapping a start below zero around from the
end, so that it keeps the last `min (max n 0) LEN` code points exactly when
`n ≤ LEN` or `n ≥ 2 · LEN`; and `LEFT(s, k) & RIGHT(s, LEN(s) - k)` is `s`. -/
theorem slices_of_display (ctx : Context) (t : Value) {s : String} (shown : t.display = .ok s) :
    (∀ c n, toInteger c "LEFT" = .ok n →
      applyEager ctx .left [t, c] =
        .ok (.string (String.ofList (s.toList.take (min (max n 0).toNat s.length))))) ∧
    (∀ c n, toInteger c "RIGHT" = .ok n →
      applyEager ctx .right [t, c] =
        .ok (.string (String.ofList (s.toList.drop (s.length - rightKept s.length n)))) ∧
      (applyEager ctx .right [t, c] =
          .ok (.string (String.ofList (s.toList.drop (s.length - min (max n 0).toNat s.length)))) ↔
        n ≤ s.length ∨ 2 * (s.length : Int) ≤ n)) ∧
    (∀ p c i j, toInteger p "MID" = .ok i → toInteger c "MID" = .ok j →
      applyEager ctx .mid [t, p, c] =
        .ok (.string (String.ofList ((s.toList.drop (max i 1 - 1).toNat).take
          (min (max j 0).toNat (s.length - (max i 1 - 1).toNat)))))) ∧
    (∀ k kv jv, k ≤ s.length → toInteger kv "LEFT" = .ok (k : Int) →
      toInteger jv "RIGHT" = .ok (s.length - k : Nat) →
      (do concat (← applyEager ctx .left [.string s, kv]) (← applyEager ctx .right [.string s, jv])) =
        .ok (.string s)) := by
  refine ⟨fun c n count => left_eq ctx shown count, fun c n count => ⟨right_eq ctx shown count, ?_⟩,
    fun p c i j start count => mid_eq ctx shown start count,
    fun k kv jv within first rest => left_concat_right ctx s within first rest⟩
  rw [right_eq ctx shown count, ← rightKept_eq_clamped_iff]
  have lengths : s.toList.length = s.length := String.length_toList
  constructor
  · intro same
    simp only [Except.ok.injEq, Value.string.injEq] at same
    rw [← lengths] at same ⊢
    exact drop_ofList_inj (rightKept_le _ n) (Nat.min_le_right _ _) same
  · intro kept
    rw [kept]

/-- `RIGHT("abc", 5)`: the start `3 - 5` wraps to the second code point. -/
theorem slices_of_display_wrapped :
    (Value.string "abc").display = .ok "abc" ∧
      applyEager { now := 0 } .right [.string "abc", .number (.int 5)] = .ok (.string "bc") := by
  refine ⟨rfl, ?_⟩
  rw [((slices_of_display { now := 0 } (.string "abc") rfl).2.1 (.number (.int 5)) 5 rfl).1]
  rfl

end FieldCalc.Formula
