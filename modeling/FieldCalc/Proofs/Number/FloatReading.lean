import FieldCalc.Number.Read
import FieldCalc.Proofs.Number.StoredForm

/-!
# Reading a float back from its text

`readFloat?` and `DecimalValue.ofText?` read the same numerals: a sign,
digits, a fraction after a point and an exponent. On text of plain characters
(printable ASCII, no underscore), where the first strips nothing and joins no
digits across underscores, they read the same digits, and `readFloat?` gives
the float nearest to the decimal the second reads (`readFloat?_of_ofText?`),
once the exponent lies within the range it reads without its shortcuts to
zero and infinity.

The text of a finite nonzero float is such a numeral, and its digits lie in
the float's rounding interval, so it reads back as the float
(`readFloat?_text`); the digits of an integer read back as the float nearest
to it (`readFloat?_intText`).
-/

namespace FieldCalc.Binary

open DecimalValue

def PlainText (s : String) : Prop := ∀ c ∈ s.toList, Plain c

section PlainText

@[simp] theorem plainText_append {s t : String} : PlainText (s ++ t) ↔ PlainText s ∧ PlainText t := by
  simp only [PlainText, String.toList_append, List.mem_append]
  constructor
  · intro all
    exact ⟨fun c mem => all c (.inl mem), fun c mem => all c (.inr mem)⟩
  · rintro ⟨left, right⟩ c (mem | mem)
    · exact left c mem
    · exact right c mem

@[simp] theorem plainText_repr (n : Nat) : PlainText (Nat.repr n) :=
  fun _ mem => plain_of_isDigit (isDigit_of_mem_repr mem)

@[simp] theorem plainText_take_repr (n k : Nat) :
    PlainText (String.ofList ((Nat.repr n).toList.take k)) := by
  intro c mem
  rw [String.toList_ofList] at mem
  exact plainText_repr n c (List.mem_of_mem_take mem)

@[simp] theorem plainText_drop_repr (n k : Nat) :
    PlainText (String.ofList ((Nat.repr n).toList.drop k)) := by
  intro c mem
  rw [String.toList_ofList] at mem
  exact plainText_repr n c (List.mem_of_mem_drop mem)

@[simp] theorem plainText_zeros (k : Nat) : PlainText (zeros k) := by
  intro c mem
  simp only [zeros, String.toList_ofList, List.mem_replicate] at mem
  rw [mem.2]
  exact plain_of_isDigit rfl

theorem plainText_of_all {s : String}
    (plain : s.toList.all (fun c => 32 < c.toNat && c.toNat < 128 && c != '_') = true) :
    PlainText s := by
  intro c mem
  have := List.all_eq_true.mp plain c mem
  simp only [Bool.and_eq_true, decide_eq_true_eq, bne_iff_ne, ne_eq] at this
  exact ⟨this.1.1, this.1.2, this.2⟩

theorem text_plain {x : Float} {p : Parts} (parts : parts? x = some p) : PlainText (text x) := by
  unfold text
  simp only [parts]
  split_ifs <;> simp (disch := decide) only [plainText_append, plainText_repr, plainText_take_repr,
    plainText_drop_repr, plainText_zeros, plainText_of_all, and_self]

end PlainText

section Range

variable {p : Parts} {r : ℚ}

theorem scaled_back (e : Int) (r : ℚ) : r = r * 2 ^ (-e) * 2 ^ e := by
  rw [mul_assoc, ← zpow_add₀ two_ne_zero, neg_add_cancel, zpow_zero, mul_one]

theorem zpow_two_le_zpow_ten (b h : Nat) (le : 28 * b ≤ 93 * h) :
    (2 : ℚ) ^ (b : Int) ≤ 10 ^ (h : Int) := by
  have powers : ((2 ^ b : Nat) : ℚ) ≤ ((10 ^ h : Nat) : ℚ) :=
    Nat.cast_le.mpr (pow_two_le_pow_ten b h le)
  rw [Nat.cast_pow, Nat.cast_pow, Nat.cast_ofNat, Nat.cast_ofNat] at powers
  rwa [zpow_natCast, zpow_natCast]

theorem Parts.roundsTo_lt (valid : p.Valid) (rounds : RoundsTo p.mantissa p.exp p.lowGap r) :
    r < 10 ^ (309 : Int) := by
  have high := rounds.bounds.2
  have mantissa : (p.mantissa : ℚ) + 1 / 2 < 2 ^ (53 : Int) := by
    have : p.mantissa + 1 ≤ 2 ^ 53 := valid.mantissa_lt
    have : (p.mantissa : ℚ) + 1 ≤ 2 ^ (53 : Int) := by exact_mod_cast this
    linarith
  calc r = r * 2 ^ (-p.exp) * 2 ^ p.exp := scaled_back p.exp r
    _ < 2 ^ (53 : Int) * 2 ^ p.exp := by gcongr; exact high.trans_lt mantissa
    _ ≤ 2 ^ (53 : Int) * 2 ^ (971 : Int) := by gcongr; norm_num; exact valid.le_greatest
    _ = 2 ^ ((1024 : Nat) : Int) := by rw [← zpow_add₀ two_ne_zero]; rfl
    _ ≤ 10 ^ ((309 : Nat) : Int) := zpow_two_le_zpow_ten 1024 309 (by norm_num)

/-- What rounds to a finite nonzero float is at least `10^-324`: half the
least subnormal is `2^-1075`. -/
theorem Parts.le_roundsTo (valid : p.Valid) (nonzero : p.mantissa ≠ 0)
    (rounds : RoundsTo p.mantissa p.exp p.lowGap r) : 10 ^ (-324 : Int) ≤ r := by
  have low := rounds.bounds.1
  have gap : (p.lowGap : ℚ) ≤ 2 := by exact_mod_cast p.lowGap_le
  have one : (1 : ℚ) ≤ p.mantissa := by exact_mod_cast Nat.one_le_iff_ne_zero.mpr nonzero
  have inverse : (10 : ℚ) ^ (-324 : Int) ≤ 2 ^ (-1075 : Int) := by
    rw [show (-324 : Int) = -((324 : Nat) : Int) from rfl,
      show (-1075 : Int) = -((1075 : Nat) : Int) from rfl,
      zpow_neg, zpow_neg, inv_le_inv₀ (by positivity) (by positivity)]
    exact zpow_two_le_zpow_ten 1075 324 (by norm_num)
  have half : (1 : ℚ) / 2 ≤ p.mantissa - p.lowGap / 4 := by linarith
  have exponent : (2 : ℚ) ^ (-1074 : Int) ≤ 2 ^ p.exp :=
    zpow_le_zpow_right₀ (by norm_num) valid.least_le
  calc (10 : ℚ) ^ (-324 : Int) ≤ 2 ^ (-1075 : Int) := inverse
    _ = 1 / 2 * 2 ^ (-1074 : Int) := by
        rw [show (-1074 : Int) = -1075 + 1 by norm_num, zpow_add_one₀ two_ne_zero]
        ring
    _ ≤ (p.mantissa - p.lowGap / 4) * 2 ^ p.exp :=
        mul_le_mul half exponent (by positivity) (by linarith)
    _ ≤ r * 2 ^ (-p.exp) * 2 ^ p.exp := by gcongr
    _ = r := (scaled_back p.exp r).symm

theorem repr_length_pos (n : Nat) : 0 < (Nat.repr n).length := by
  rw [← String.length_toList, Nat.toList_repr]
  exact List.length_pos_of_ne_nil Nat.toDigits_ne_nil

/-- A decimal that rounds to a finite nonzero float has a nonzero coefficient,
and its exponent lies in the range that `readFloat?` reads without its
shortcuts to zero and infinity. -/
theorem Decimal.in_range_of_roundsTo (valid : p.Valid) (nonzero : p.mantissa ≠ 0) {d : Decimal}
    (rounds : RoundsTo p.mantissa p.exp p.lowGap (d.coeff * 10 ^ d.exp)) :
    d.coeff ≠ 0 ∧ d.exp ≤ 400 ∧ -400 - ((Nat.repr d.coeff).length : Int) ≤ d.exp := by
  have above := Parts.le_roundsTo valid nonzero rounds
  have below := Parts.roundsTo_lt valid rounds
  have coeff : d.coeff ≠ 0 := by
    rintro zero
    rw [zero, Nat.cast_zero, zero_mul] at above
    exact absurd above (not_le.mpr (by positivity))
  have one : (1 : ℚ) ≤ d.coeff := by exact_mod_cast Nat.one_le_iff_ne_zero.mpr coeff
  have digits : (d.coeff : ℚ) < 10 ^ ((Nat.repr d.coeff).length : Int) := by
    have : d.coeff < 10 ^ (Nat.repr d.coeff).length :=
      (Nat.length_repr_le_iff (repr_length_pos d.coeff)).mp le_rfl
    rw [zpow_natCast]
    exact_mod_cast this
  refine ⟨coeff, ?_, ?_⟩
  · have : (10 : ℚ) ^ d.exp < 10 ^ (309 : Int) :=
      calc (10 : ℚ) ^ d.exp ≤ d.coeff * 10 ^ d.exp := le_mul_of_one_le_left (by positivity) one
        _ < 10 ^ (309 : Int) := below
    have := (zpow_lt_zpow_iff_right₀ (by norm_num : (1 : ℚ) < 10)).mp this
    omega
  · have : (10 : ℚ) ^ (-324 : Int) < 10 ^ (((Nat.repr d.coeff).length : Int) + d.exp) :=
      calc (10 : ℚ) ^ (-324 : Int) ≤ d.coeff * 10 ^ d.exp := above
        _ < 10 ^ ((Nat.repr d.coeff).length : Int) * 10 ^ d.exp := by gcongr
        _ = _ := (zpow_add₀ (by norm_num) _ _).symm
    have := (zpow_lt_zpow_iff_right₀ (by norm_num : (1 : ℚ) < 10)).mp this
    omega

end Range

section Numerals

theorem asciiNumeral_plain {l : List Char} (plain : ∀ c ∈ l, Plain c) :
    asciiNumeral (String.ofList l) = some l := by
  have noSpace : ∀ c ∈ l, Text.isSpace c = false := fun c mem => isSpace_eq_false (plain c mem)
  unfold asciiNumeral
  simp only [String.toList_ofList, dropWhile_eq_self noSpace,
    dropWhile_eq_self (fun c mem => noSpace c (List.mem_reverse.mp mem)), List.reverse_reverse,
    mapM_plain plain]

theorem digitRun_plain {l : List Char} (plain : ∀ c ∈ l, Plain c) :
    digitRun l = (l.takeWhile Char.isDigit, l.dropWhile Char.isDigit) := by
  induction l with
  | nil => rfl
  | cons c rest ih =>
    have notUnder : ∀ d more, rest = '_' :: d :: more → False := fun d more split =>
      (plain '_' (by simp [split])).2.2 rfl
    rw [digitRun.eq_2 c rest notUnder, ih (fun x mem => plain x (List.mem_cons_of_mem _ mem))]
    by_cases digit : c.isDigit = true <;> simp [digit]

theorem digitRun_digits {E : List Char} (digits : ∀ c ∈ E, c.isDigit = true) :
    digitRun E = (E, []) := by
  induction E with
  | nil => rfl
  | cons c rest ih =>
    have notUnder : ∀ d more, rest = '_' :: d :: more → False := fun d more split =>
      absurd (digits '_' (by simp [split])) (by decide)
    rw [digitRun.eq_2 c rest notUnder, ih (fun x mem => digits x (List.mem_cons_of_mem _ mem))]
    simp [digits c (by simp)]

theorem readTail_eq {neg : Bool} {m : Nat} {e : Int} (nonzero : m ≠ 0) (upper : e ≤ 400)
    (lower : -400 - ((Nat.repr m).length : Int) ≤ e) :
    (if (m == 0) = true then some (zero neg)
      else if e > 400 then some (infinity neg)
      else if e < -400 - ((Nat.repr m).length : Int) then some (zero neg)
      else if 0 ≤ e then some (ofFraction neg (m * Nat.pow 10 e.toNat) 1)
      else some (ofFraction neg m (Nat.pow 10 (-e).toNat))) =
      some (Decimal.toFloat ⟨neg, m, e⟩) := by
  simp only [beq_iff_eq, nonzero, if_false, gt_iff_lt, not_lt.mpr upper, not_lt.mpr lower,
    Decimal.toFloat]
  split <;> rfl

/-- On plain text the two readers agree: a finite decimal read by `ofText?`
with an exponent in range is read by `readFloat?` as its nearest float. The
readers are walked side by side through the sign, the special words, the
fraction and the exponent. -/
theorem readFloat?_of_ofText? {l : List Char} (plain : ∀ c ∈ l, Plain c) {v : Decimal}
    (read : ofText? (String.ofList l) = some (.finite v)) (nonzero : v.coeff ≠ 0)
    (upper : v.exp ≤ 400) (lower : -400 - ((Nat.repr v.coeff).length : Int) ≤ v.exp) :
    readFloat? (String.ofList l) = some v.toFloat := by
  rw [ofText?, asciiDigits_plain plain] at read
  rw [readFloat?, asciiNumeral_plain plain]
  simp only [Option.bind_eq_bind, Option.bind_some] at read ⊢
  have plainDigits : ∀ c ∈ (Text.splitSign l).2, Plain c :=
    fun c mem => plain c ((splitSign_suffix l).subset mem)
  generalize Text.splitSign l = signed at read plainDigits ⊢
  obtain ⟨neg, cs⟩ := signed
  dsimp only at read plainDigits ⊢
  by_cases infinite : (String.ofList (cs.map Char.toLower) == "inf" ||
      String.ofList (cs.map Char.toLower) == "infinity") = true
  · simp only [infinite, if_true] at read
    cases read
  by_cases nan : ((String.ofList (cs.map Char.toLower)).startsWith "nan" ||
      (String.ofList (cs.map Char.toLower)).startsWith "snan") = true
  · simp only [infinite, nan, if_true, Bool.false_eq_true, if_false, Option.bind_none,
      Option.pure_def, Option.ite_none_right_eq_some, Option.some.injEq, reduceCtorEq,
      and_false] at read
  have notNan : (String.ofList (List.map Char.toLower cs) == "nan") = false := by
    rw [beq_eq_false_iff_ne]
    intro word
    rw [word] at nan
    exact nan (by simp)
  simp only [infinite, nan, notNan, Bool.false_eq_true, if_false] at read ⊢
  rw [digitRun_plain plainDigits]
  have plainRest : ∀ c ∈ cs.dropWhile Char.isDigit, Plain c :=
    fun c mem => plainDigits c ((List.dropWhile_sublist _).subset mem)
  generalize cs.takeWhile Char.isDigit = I at read ⊢
  generalize cs.dropWhile Char.isDigit = R at read plainRest ⊢
  dsimp only
  -- a point starts the fraction digits; without one the fraction is empty and
  -- what follows the whole digits is the exponent
  split
  on_goal 2 =>
    rename_i noPoint
    split at read
    next _ _ r => exact (noPoint r rfl).elim
    dsimp only at read ⊢
    generalize ([] : List Char) = F at read ⊢
    generalize R = E at read ⊢
  on_goal 1 =>
    rename_i r
    rw [digitRun_plain (fun c mem => plainRest c (List.mem_cons_of_mem _ mem))]
    simp only at read ⊢
    generalize r.takeWhile Char.isDigit = F at read ⊢
    generalize r.dropWhile Char.isDigit = E at read ⊢
  all_goals
    by_cases empty : (I.isEmpty && F.isEmpty) = true
    · simp only [empty, if_true, Option.bind_none] at read
      cases read
    simp only [empty, Bool.false_eq_true, if_false] at read ⊢
    -- the exponent is empty, or a marker followed by signed digits
    cases E with
    | nil =>
      simp only [Option.pure_def, Option.some.injEq, DecimalValue.finite.injEq] at read
      subst read
      exact readTail_eq nonzero upper lower
    | cons c r' =>
      dsimp only at read ⊢
      by_cases marker : (c == 'e' || c == 'E') = true
      · simp only [marker, if_true] at read ⊢
        generalize Text.splitSign r' = signed at read ⊢
        obtain ⟨eneg, T⟩ := signed
        dsimp only at read ⊢
        split at read
        next digits =>
          obtain ⟨nonempty, allDigits⟩ := Bool.and_eq_true_iff.mp digits
          simp only [Bool.not_eq_true'] at nonempty
          simp only [digitRun_digits (List.all_eq_true.mp allDigits), nonempty,
            Option.pure_def, Option.some.injEq, DecimalValue.finite.injEq] at read ⊢
          subst read
          simp only [List.isEmpty_nil, Bool.not_true, Bool.or_false, Bool.false_eq_true,
            if_false] at nonzero upper lower ⊢
          exact readTail_eq nonzero upper lower
        next => cases read
      · simp only [marker, Bool.false_eq_true, if_false, Option.bind_none] at read
        cases read

end Numerals

/-- The text of a finite nonzero float reads back as the float: its digits
read as a decimal in the float's rounding interval, whose exponent is in
range. -/
theorem readFloat?_text {x : Float} {p : Parts} (parts : parts? x = some p)
    (nonzero : p.mantissa ≠ 0) : readFloat? (text x) = some x := by
  obtain ⟨d, read, sign, value⟩ := DecimalValue.ofText?_text parts nonzero
  have rounds := Parts.shortest_roundsTo parts nonzero
  rw [← value] at rounds
  obtain ⟨coeff, upper, lower⟩ := Decimal.in_range_of_roundsTo (parts?_spec parts).1 nonzero rounds
  have plain : ∀ c ∈ (text x).toList, Plain c := text_plain parts
  rw [← String.ofList_toList (s := text x)] at read ⊢
  rw [readFloat?_of_ofText? plain read coeff upper lower,
    Decimal.toFloat_eq_of_roundsTo parts nonzero sign rounds]

section Integers

theorem readFloat?_intText (k : Int) : readFloat? (Number.intText k) = some (ofInt k) := by
  by_cases zero : k = 0
  · subst zero
    rfl
  obtain ⟨first, more, digitsList, allDigits, value⟩ := repr_toList_cons k.natAbs
  have chars : (Number.intText k).toList = (if decide (k < 0) then ['-'] else []) ++ first :: more := by
    unfold Number.intText
    split <;> simp [*]
  have plain : ∀ c ∈ (if decide (k < 0) then ['-'] else []) ++ first :: more, Plain c := by
    intro c mem
    rcases List.mem_append.mp mem with sign | digits
    · exact plain_sign _ c sign
    · exact plain_of_isDigit (allDigits c digits)
  have read := ofText?_numeral (decide (k < 0)) first more none none (allDigits first (by simp))
    (fun c mem => allDigits c (by simp [mem])) (by simp) (by simp) (by simp)
  simp only [fractionText, exponentText, exponentValue, List.append_nil, Option.getD_none,
    List.length_nil, Nat.cast_zero, sub_zero] at read
  rw [value] at read
  rw [← String.ofList_toList (s := Number.intText k), chars,
    readFloat?_of_ofText? plain read (Int.natAbs_ne_zero.mpr zero) (by norm_num) (by simp)]
  simp [Decimal.toFloat, ofInt]

end Integers

end FieldCalc.Binary
