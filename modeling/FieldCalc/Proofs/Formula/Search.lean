import Mathlib
import FieldCalc.Formula.Eval

/-!
# Searching text, ignoring case

`SEARCH(find, within, k)` lower-cases both display texts and looks for the
lower-cased `find` in the lower-cased `within` from the code point `k - 1` on.
`findFrom` gives the least index at or after its start where a pattern stands,
the end of the text included (`findFrom_eq_some_iff`, `findFrom_eq_none_iff`).
So `SEARCH` is null exactly when the lower-cased pattern stands at no 1-based
position `p ≥ k` of the lower-cased text, and is the least such position
otherwise (`search_null_iff`, `search_eq_iff`): a position in the lower-cased
text.

Lower-casing sends one character to two only for `İ`, and looks at the
neighbours only for `Σ`. Without either it is a map of characters
(`toLower_eq_map`): it keeps every length and cuts, so the lower case of a cut
is the cut of the lower case, and the position of `SEARCH` is the least `p ≥ k`
with `LOWER(MID(within, p, LEN(find))) = LOWER(find)` (`search_first_match`).
In `İa` the two part: the `a` is the second code point of the text and the third
of its lower case (`search_dotted_capital`).
-/

namespace FieldCalc.Formula

open Text

section Find

variable {s sub : List Char} {start i : Nat}

theorem findFrom_eq_some_iff :
    findFrom s sub start = some i ↔
      start ≤ i ∧ i ≤ s.length ∧ sub <+: s.drop i ∧ ∀ j, start ≤ j → j < i → ¬sub <+: s.drop j := by
  unfold findFrom
  split_ifs with beyond
  · simp only [false_iff]
    omega
  simp only [Option.map_eq_some_iff, List.find?_range_eq_some, List.mem_range,
    Bool.not_eq_true', Bool.eq_false_iff, ne_eq, List.isPrefixOf_iff_prefix]
  constructor
  · rintro ⟨k, ⟨found, within, before⟩, rfl⟩
    refine ⟨by omega, by omega, found, fun j low high => ?_⟩
    have earlier := before (j - start) (by omega)
    rwa [Nat.add_sub_cancel' low] at earlier
  · rintro ⟨low, high, found, before⟩
    refine ⟨i - start, ⟨by rwa [Nat.add_sub_cancel' low], by omega, fun j lt => ?_⟩, by omega⟩
    simpa using before (start + j) (by omega) (by omega)

theorem findFrom_eq_none_iff :
    findFrom s sub start = none ↔ ∀ j, start ≤ j → j ≤ s.length → ¬sub <+: s.drop j := by
  unfold findFrom
  split_ifs with beyond
  · simp only [true_iff]
    intro j low high
    omega
  simp only [Option.map_eq_none_iff, List.find?_range_eq_none, Bool.not_eq_true',
    Bool.eq_false_iff, ne_eq, List.isPrefixOf_iff_prefix]
  constructor
  · intro none j low high
    simpa [Nat.add_sub_cancel' low] using none (j - start) (by omega)
  · intro none k within
    exact none (start + k) (by omega) (by omega)

end Find

/-- The lower-cased `find` stands at the 1-based position `p` of the
lower-cased `within`. -/
def FoundAt (find within : String) (p : Nat) : Prop :=
  (toLower find).toList <+: (toLower within).toList.drop (p - 1)

/-- `LOWER(MID(within, p, LEN(find))) = LOWER(find)`: the cut of `within` at
the 1-based position `p` as long as `find` matches it, ignoring case. -/
def MatchesAt (find within : String) (p : Nat) : Prop :=
  toLower (String.ofList ((within.toList.drop (p - 1)).take find.length)) = toLower find

section Search

variable (ctx : Context) {fv wv kv : Value} {f w : String} {k : Int}
  (shownF : fv.display = .ok f) (shownW : wv.display = .ok w)
  (start : toInteger kv "SEARCH" = .ok k) (one : 1 ≤ k)
include shownF shownW start one

theorem search_eq :
    applyEager ctx .search [fv, wv, kv] =
      .ok ((findFrom (toLower w).toList (toLower f).toList (k - 1).toNat).elim .null
        fun i => .number (.int (i + 1))) := by
  simp only [applyEager, start, shownF, shownW, bind, Except.bind, pure, Except.pure,
    Int.max_eq_right one]
  cases findFrom (toLower w).toList (toLower f).toList (k - 1).toNat <;> rfl

/-- `SEARCH` is null exactly when the lower-cased pattern stands at no
position from `k` to the end of the lower-cased text. -/
theorem search_null_iff :
    applyEager ctx .search [fv, wv, kv] = .ok .null ↔
      ∀ p : Nat, k ≤ p → p ≤ (toLower w).length + 1 → ¬FoundAt f w p := by
  rw [search_eq ctx shownF shownW start one]
  cases found : findFrom (toLower w).toList (toLower f).toList (k - 1).toNat with
  | some i =>
    simp only [Option.elim, Except.ok.injEq, reduceCtorEq, false_iff, not_forall, not_not]
    obtain ⟨low, high, at_i, -⟩ := findFrom_eq_some_iff.mp found
    refine ⟨i + 1, by omega, by simp [String.length_toList] at high; omega, ?_⟩
    simpa [FoundAt] using at_i
  | none =>
    simp only [Option.elim, true_iff]
    intro p low high at_p
    refine findFrom_eq_none_iff.mp found (p - 1) (by omega) ?_ at_p
    simp only [String.length_toList]
    omega

/-- Otherwise `SEARCH` is the least position from `k` on where the
lower-cased pattern stands in the lower-cased text. -/
theorem search_eq_iff (p : Nat) :
    applyEager ctx .search [fv, wv, kv] = .ok (.number (.int p)) ↔
      k ≤ p ∧ p ≤ (toLower w).length + 1 ∧ FoundAt f w p ∧
        ∀ q : Nat, k ≤ q → q < p → ¬FoundAt f w q := by
  rw [search_eq ctx shownF shownW start one]
  cases found : findFrom (toLower w).toList (toLower f).toList (k - 1).toNat with
  | some i =>
    obtain ⟨low, high, at_i, before⟩ := findFrom_eq_some_iff.mp found
    simp only [String.length_toList] at high
    simp only [Option.elim, Except.ok.injEq, Value.number.injEq, Number.int.injEq]
    constructor
    · intro same
      have p_eq : p = i + 1 := by omega
      subst p_eq
      refine ⟨by omega, by omega, by simpa [FoundAt] using at_i, fun q lowQ ltQ at_q => ?_⟩
      exact before (q - 1) (by omega) (by omega) at_q
    · rintro ⟨lowP, highP, at_p, beforeP⟩
      rcases Nat.lt_trichotomy (i + 1) p with lt | same | gt
      · exact absurd (by simpa [FoundAt] using at_i) (beforeP (i + 1) (by omega) lt)
      · omega
      · exact absurd at_p (before (p - 1) (by omega) (by omega))
  | none =>
    simp only [Option.elim, Except.ok.injEq, reduceCtorEq, false_iff, not_and]
    intro low high at_p
    exact absurd at_p (findFrom_eq_none_iff.mp found (p - 1) (by omega)
      (by simp only [String.length_toList]; omega))

end Search

section Plain

/-- A character that lower-cases to one character whatever stands around it:
neither `İ` nor `Σ`. -/
def lowersAlone (c : Char) : Bool := c.toNat != 0x130 && c != capitalSigma

def lowerChar (c : Char) : Char := (lowerMap.apply c).headD c

theorem lowerMap_apply_of_lowersAlone {c : Char} (alone : lowersAlone c = true) :
    lowerMap.apply c = [lowerChar c] := by
  have notDotted : (c.toNat == 0x130) = false := by simp_all [lowersAlone]
  have unspecial : lowerMap.special.lookup c.toNat = none := by
    simp [lowerMap, List.lookup, notDotted]
  simp only [lowerChar, CaseMap.apply, unspecial]
  split <;> rfl

theorem lowerFrom_eq_map (before : List Char) {l : List Char} (alone : l.all lowersAlone = true) :
    lowerFrom before l = l.map lowerChar := by
  induction l generalizing before with
  | nil => rfl
  | cons c rest ih =>
    simp only [List.all_cons, Bool.and_eq_true] at alone
    have notSigma : (c == capitalSigma) = false := by simp_all [lowersAlone]
    rw [lowerFrom, notSigma, if_neg Bool.false_ne_true, lowerMap_apply_of_lowersAlone alone.1,
      ih _ alone.2]
    rfl

theorem toLower_eq_map {s : String} (alone : s.toList.all lowersAlone = true) :
    toLower s = String.ofList (s.toList.map lowerChar) := by
  rw [toLower, lowerFrom_eq_map [] alone]

theorem length_toLower {s : String} (alone : s.toList.all lowersAlone = true) :
    (toLower s).length = s.length := by
  rw [toLower_eq_map alone, ← String.length_toList, String.toList_ofList, List.length_map,
    String.length_toList]

instance (find within : String) (p : Nat) : Decidable (MatchesAt find within p) :=
  inferInstanceAs (Decidable (_ = _))

/-- Where lower-casing maps characters one by one, the lower-cased pattern
stands at a position of the lower-cased text exactly when the cut of the
text there matches the pattern, ignoring case. -/
theorem foundAt_iff_matchesAt {f w : String} (aloneF : f.toList.all lowersAlone = true)
    (aloneW : w.toList.all lowersAlone = true) (p : Nat) : FoundAt f w p ↔ MatchesAt f w p := by
  have aloneCut : ((w.toList.drop (p - 1)).take f.length).all lowersAlone = true := by
    rw [List.all_eq_true] at aloneW ⊢
    exact fun c mem => aloneW c (List.mem_of_mem_drop (List.mem_of_mem_take mem))
  have lengthF : (f.toList.map lowerChar).length = f.length := by
    rw [List.length_map, String.length_toList]
  unfold FoundAt MatchesAt
  rw [toLower_eq_map aloneF, toLower_eq_map aloneW,
    toLower_eq_map (by rwa [String.toList_ofList]), String.toList_ofList,
    String.toList_ofList, String.toList_ofList, String.ofList_inj, List.prefix_iff_eq_take,
    lengthF, ← List.map_drop, ← List.map_take, eq_comm]

end Plain

/-- `SEARCH(find, within, k)` for `k ≥ 1` is null exactly when the lower-cased
`find` stands at no 1-based position `p ≥ k` of the lower-cased `within`, and
otherwise is the least such position. When neither text holds `İ` or `Σ`,
lower-casing maps characters one by one, and the position is the least `p ≥ k`
with `LOWER(MID(within, p, LEN(find))) = LOWER(find)`, as a position of
`within`. -/
theorem search_first_match (ctx : Context) {fv wv kv : Value} {f w : String} {k : Int}
    (shownF : fv.display = .ok f) (shownW : wv.display = .ok w)
    (start : toInteger kv "SEARCH" = .ok k) (one : 1 ≤ k) :
    (applyEager ctx .search [fv, wv, kv] = .ok .null ↔
        ∀ p : Nat, k ≤ p → p ≤ (toLower w).length + 1 → ¬FoundAt f w p) ∧
      (∀ p : Nat, applyEager ctx .search [fv, wv, kv] = .ok (.number (.int p)) ↔
        k ≤ p ∧ p ≤ (toLower w).length + 1 ∧ FoundAt f w p ∧
          ∀ q : Nat, k ≤ q → q < p → ¬FoundAt f w q) ∧
      (f.toList.all lowersAlone = true → w.toList.all lowersAlone = true →
        (applyEager ctx .search [fv, wv, kv] = .ok .null ↔
          ∀ p : Nat, k ≤ p → p ≤ w.length + 1 → ¬MatchesAt f w p) ∧
        ∀ p : Nat, applyEager ctx .search [fv, wv, kv] = .ok (.number (.int p)) ↔
          k ≤ p ∧ p ≤ w.length + 1 ∧ MatchesAt f w p ∧
            ∀ q : Nat, k ≤ q → q < p → ¬MatchesAt f w q) := by
  refine ⟨search_null_iff ctx shownF shownW start one, search_eq_iff ctx shownF shownW start one,
    fun aloneF aloneW => ⟨?_, fun p => ?_⟩⟩
  · simp only [search_null_iff ctx shownF shownW start one, length_toLower aloneW,
      foundAt_iff_matchesAt aloneF aloneW]
  · simp only [search_eq_iff ctx shownF shownW start one, length_toLower aloneW,
      foundAt_iff_matchesAt aloneF aloneW]

/-- `SEARCH("B", "aAbB", 2)`: the first `b` from the second code point on is
the third. -/
theorem search_first_match_ascii :
    (Value.string "B").display = .ok "B" ∧ (Value.string "aAbB").display = .ok "aAbB" ∧
      toInteger (.number (.int 2)) "SEARCH" = .ok 2 ∧ (1 : Int) ≤ 2 ∧
      applyEager { now := 0 } .search [.string "B", .string "aAbB", .number (.int 2)] =
        .ok (.number (.int 3)) := by
  refine ⟨rfl, rfl, rfl, by decide, ?_⟩
  have shownF : (Value.string "B").display = .ok "B" := rfl
  have shownW : (Value.string "aAbB").display = .ok "aAbB" := rfl
  have start : toInteger (.number (.int 2)) "SEARCH" = .ok 2 := rfl
  refine ((search_first_match { now := 0 } shownF shownW start (by decide)).2.2
    (by decide) (by decide)).2 3 |>.mpr ⟨by decide, by decide, by decide, fun q low lt => ?_⟩
  have two : q = 2 := by omega
  subst two
  decide

/-- In `İa` the `a` is the second code point, and the third of the lower case
`i̇a`: `SEARCH("a", "İa", 1)` is 3, where `LOWER(MID("İa", p, 1)) = "a"` first
holds at `p = 2`. -/
theorem search_dotted_capital :
    MatchesAt "a" "İa" 2 ∧ ¬MatchesAt "a" "İa" 1 ∧
      applyEager { now := 0 } .search [.string "a", .string "İa", .number (.int 1)] =
        .ok (.number (.int 3)) ∧
      applyEager { now := 0 } .search [.string "a", .string "İa"] = .ok (.number (.int 3)) :=
  ⟨by decide, by decide, rfl, rfl⟩

end FieldCalc.Formula
