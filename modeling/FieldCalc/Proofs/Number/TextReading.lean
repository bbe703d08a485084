import FieldCalc.Number.Decimal
import FieldCalc.Proofs.Number.ShortestDigits

/-!
Reading back the text of a float as a decimal.

The text of a finite nonzero float is its shortest digits, written with a
decimal point placed among them, after them (`ds000.0`) or before them
(`0.000ds`), or in exponent form (`d.ddde-07`). Each of these is a numeral,
digits with an optional fraction and an optional exponent, that
`DecimalValue.ofText?` reads as the digits with the exponent that puts the
point back (`ofText?_numeral`): `ofText?_text` says the decimal read has the
float's sign and the value of its shortest digits.

The characters of such text are printable ASCII (`Plain`), so reading strips
no blanks, drops no underscores and maps no digits of other scripts.
-/

namespace FieldCalc.DecimalValue

section Plain

/-- A character of the written numbers: printable ASCII other than the
underscore. -/
def Plain (c : Char) : Prop := 32 < c.toNat ∧ c.toNat < 128 ∧ c ≠ '_'

theorem isSpace_eq_false {c : Char} (plain : Plain c) : Text.isSpace c = false := by
  obtain ⟨above, below, -⟩ := plain
  simp only [Text.isSpace, Text.spaceCodes, List.contains_eq_any_beq, List.any_cons, List.any_nil,
    Bool.or_false, Bool.or_eq_false_iff, beq_eq_false_iff_ne]
  omega

theorem dropWhile_eq_self {p : Char → Bool} {l : List Char} (keep : ∀ c ∈ l, p c = false) :
    l.dropWhile p = l := by
  cases l with
  | nil => rfl
  | cons c rest => rw [List.dropWhile_cons_of_neg (by simp [keep c (by simp)])]

theorem filterMap_plain {l : List Char} (plain : ∀ c ∈ l, Plain c) :
    l.filterMap (fun c => if c == '_' then none else some c) = l := by
  induction l with
  | nil => rfl
  | cons c rest ih =>
    have notUnderscore : c ≠ '_' := (plain c (by simp)).2.2
    rw [List.filterMap_cons, if_neg (by simpa using notUnderscore),
      ih (fun d mem => plain d (by simp [mem]))]

theorem mapM_plain {l : List Char} (plain : ∀ c ∈ l, Plain c) :
    l.mapM (fun c => if c.toNat < 128 then some c
      else (Text.decimalValue? c).map fun v => Char.ofNat (48 + v)) = some l := by
  induction l with
  | nil => rfl
  | cons c rest ih =>
    simp [List.mapM_cons, (plain c (by simp)).2.1, ih (fun d mem => plain d (by simp [mem]))]

theorem asciiDigits_plain {l : List Char} (plain : ∀ c ∈ l, Plain c) :
    asciiDigits (String.ofList l) = some l := by
  have noSpace : ∀ c ∈ l, Text.isSpace c = false := fun c mem => isSpace_eq_false (plain c mem)
  unfold asciiDigits
  simp only [String.toList_ofList, dropWhile_eq_self noSpace,
    dropWhile_eq_self (fun c mem => noSpace c (List.mem_reverse.mp mem)), List.reverse_reverse,
    filterMap_plain plain, mapM_plain plain]

theorem plain_of_isDigit {c : Char} (digit : c.isDigit = true) : Plain c := by
  have bounds := Char.isDigit_iff_toNat.mp digit
  simp only [Char.reduceToNat] at bounds
  refine ⟨by omega, by omega, ?_⟩
  rintro rfl
  simp at bounds

theorem toLower_of_isDigit {d : Char} (digit : d.isDigit = true) : d.toLower = d := by
  have bounds := Char.isDigit_iff_toNat.mp digit
  unfold Char.toLower
  rw [dif_neg]
  rintro ⟨upper, -⟩
  have : 'A'.toNat ≤ d.toNat := UInt32.le_iff_toNat_le.mp upper
  simp only [Char.reduceToNat] at bounds this
  omega

end Plain

section Numerals

theorem ne_of_isDigit {d c : Char} (digit : d.isDigit = true) (other : c.isDigit = false) : d ≠ c := by
  rintro rfl
  rw [digit] at other
  cases other

@[simp]
theorem splitSign_minus (r : List Char) : Text.splitSign ('-' :: r) = (true, r) := rfl

@[simp]
theorem splitSign_plus (r : List Char) : Text.splitSign ('+' :: r) = (false, r) := rfl

theorem splitSign_digit {d : Char} (digit : d.isDigit = true) (r : List Char) :
    Text.splitSign (d :: r) = (false, d :: r) := by
  have minus := ne_of_isDigit digit (by decide : '-'.isDigit = false)
  have plus := ne_of_isDigit digit (by decide : '+'.isDigit = false)
  unfold Text.splitSign
  split <;> simp_all

theorem splitSign_suffix (l : List Char) : (Text.splitSign l).2 <:+ l := by
  unfold Text.splitSign
  split <;> simp

theorem splitSign_signed (neg : Bool) {d : Char} (digit : d.isDigit = true) (r : List Char) :
    Text.splitSign ((if neg then ['-'] else []) ++ d :: r) = (neg, d :: r) := by
  cases neg
  · exact splitSign_digit digit r
  · rfl

theorem not_special {d : Char} (r : List Char) (digit : d.isDigit = true) :
    (String.ofList (List.map Char.toLower (d :: r)) == "inf" ||
        String.ofList (List.map Char.toLower (d :: r)) == "infinity") = false ∧
      ((String.ofList (List.map Char.toLower (d :: r))).startsWith "nan" ||
        (String.ofList (List.map Char.toLower (d :: r))).startsWith "snan") = false := by
  rw [List.map_cons, toLower_of_isDigit digit]
  constructor
  · simp only [Bool.or_eq_false_iff, beq_eq_false_iff_ne, ne_eq, ← String.toList_inj]
    simp [ne_of_isDigit digit (by decide : 'i'.isDigit = false)]
  · simp [Ne.symm (ne_of_isDigit digit (by decide : 'n'.isDigit = false)),
      Ne.symm (ne_of_isDigit digit (by decide : 's'.isDigit = false))]

theorem takeWhile_digits {D rest : List Char} (digits : ∀ c ∈ D, c.isDigit = true)
    (stop : ∀ c r, rest = c :: r → c.isDigit = false) : (D ++ rest).takeWhile Char.isDigit = D := by
  rw [List.takeWhile_append_of_pos digits]
  cases rest with
  | nil => simp
  | cons c r => simp [stop c r rfl]

theorem dropWhile_digits {D rest : List Char} (digits : ∀ c ∈ D, c.isDigit = true)
    (stop : ∀ c r, rest = c :: r → c.isDigit = false) : (D ++ rest).dropWhile Char.isDigit = rest := by
  rw [List.dropWhile_append_of_pos digits]
  cases rest with
  | nil => simp
  | cons c r => simp [stop c r rfl]

theorem plain_sign (neg : Bool) : ∀ c ∈ (if neg then ['-'] else []), Plain c := by
  cases neg <;> simp [Plain]

/-- The fraction of a numeral: a point and its digits, or nothing. -/
def fractionText : Option (List Char) → List Char
  | none => []
  | some F => '.' :: F

/-- The exponent of a numeral: the marker `e`, a sign and digits, or nothing. -/
def exponentText : Option (Bool × List Char) → List Char
  | none => []
  | some (eneg, E) => 'e' :: (if eneg then '-' else '+') :: E

/-- The value of the exponent of a numeral, zero when it has none. -/
def exponentValue : Option (Bool × List Char) → Int
  | none => 0
  | some (eneg, E) => if eneg then -(digitsValue E : Int) else digitsValue E

theorem exponentValue_signed {n : Int} {E : List Char} (magnitude : digitsValue E = n.natAbs) :
    exponentValue (some (decide (n < 0), E)) = n := by
  simp only [exponentValue, magnitude, decide_eq_true_eq]
  split <;> omega

theorem plain_fractionText {F : Option (List Char)} (digits : ∀ D ∈ F, ∀ c ∈ D, c.isDigit = true) :
    ∀ c ∈ fractionText F, Plain c := by
  cases F with
  | none => simp [fractionText]
  | some D =>
    simp only [fractionText, List.forall_mem_cons]
    exact ⟨by simp [Plain], fun c mem => plain_of_isDigit (digits D rfl c mem)⟩

theorem plain_exponentText {X : Option (Bool × List Char)}
    (digits : ∀ x ∈ X, ∀ c ∈ x.2, c.isDigit = true) : ∀ c ∈ exponentText X, Plain c := by
  rcases X with _ | ⟨eneg, E⟩
  · simp [exponentText]
  · simp only [exponentText, List.forall_mem_cons]
    exact ⟨by simp [Plain], by cases eneg <;> simp [Plain],
      fun c mem => plain_of_isDigit (digits _ rfl c mem)⟩

/-- A numeral: an optional minus sign, digits, an optional fraction and an
optional exponent, reads as its digits with the exponent that puts the point
back. -/
theorem ofText?_numeral (neg : Bool) (d : Char) (I : List Char) (F : Option (List Char))
    (X : Option (Bool × List Char)) (digit : d.isDigit = true)
    (intDigits : ∀ c ∈ I, c.isDigit = true) (fracDigits : ∀ D ∈ F, ∀ c ∈ D, c.isDigit = true)
    (expDigits : ∀ x ∈ X, ∀ c ∈ x.2, c.isDigit = true) (expNonempty : ∀ x ∈ X, x.2 ≠ []) :
    ofText? (String.ofList ((if neg then ['-'] else []) ++ d :: I ++ fractionText F ++
        exponentText X)) =
      some (.finite ⟨neg, digitsValue (d :: I ++ F.getD []),
        exponentValue X - ((F.getD []).length : Int)⟩) := by
  have plain : ∀ c ∈ (if neg then ['-'] else []) ++ d :: I ++ fractionText F ++ exponentText X,
      Plain c := by
    simp only [List.forall_mem_append, List.forall_mem_cons]
    exact ⟨⟨⟨plain_sign neg, plain_of_isDigit digit, fun c mem => plain_of_isDigit (intDigits c mem)⟩,
      plain_fractionText fracDigits⟩, plain_exponentText expDigits⟩
  have stop : ∀ c r, fractionText F ++ exponentText X = c :: r → c.isDigit = false := by
    rcases F with _ | F <;> rcases X with _ | ⟨eneg, E⟩ <;> simp [fractionText, exponentText]
  have special := not_special (I ++ fractionText F ++ exponentText X) digit
  have intPart : (d :: (I ++ fractionText F ++ exponentText X)).takeWhile Char.isDigit = d :: I := by
    rw [List.append_assoc, ← List.cons_append]
    exact takeWhile_digits (by simpa [digit] using intDigits) stop
  have rest : (d :: (I ++ fractionText F ++ exponentText X)).dropWhile Char.isDigit =
      fractionText F ++ exponentText X := by
    rw [List.append_assoc, ← List.cons_append]
    exact dropWhile_digits (by simpa [digit] using intDigits) stop
  have signed : (if neg then ['-'] else []) ++ d :: I ++ fractionText F ++ exponentText X =
      (if neg then ['-'] else []) ++ d :: (I ++ fractionText F ++ exponentText X) := by
    simp only [List.append_assoc, List.cons_append]
  rw [ofText?, asciiDigits_plain plain, signed]
  simp only [Option.bind_eq_bind, Option.bind_some]
  rw [splitSign_signed neg digit]
  simp only [special.1, special.2, Bool.false_eq_true, if_false, intPart, rest]
  have stopExp : ∀ c r, exponentText X = c :: r → c.isDigit = false := by
    rcases X with _ | ⟨eneg, E⟩ <;> simp [exponentText]
  have fraction : ∀ D ∈ F, (D ++ exponentText X).takeWhile Char.isDigit = D ∧
      (D ++ exponentText X).dropWhile Char.isDigit = exponentText X := fun D mem =>
    ⟨takeWhile_digits (fracDigits D mem) stopExp, dropWhile_digits (fracDigits D mem) stopExp⟩
  have exponent : ∀ x ∈ X, x.2.all Char.isDigit = true ∧ x.2.isEmpty = false := fun x mem =>
    ⟨List.all_eq_true.mpr (expDigits x mem), List.isEmpty_eq_false_iff.mpr (expNonempty x mem)⟩
  rcases F with _ | D <;> rcases X with _ | ⟨_ | _, E⟩ <;>
    simp only [exponentText, List.append_nil, Bool.false_eq_true, ↓reduceIte, Option.mem_def,
      Option.some.injEq, forall_eq', reduceCtorEq, IsEmpty.forall_iff, forall_const]
      at fraction exponent <;>
    simp [fractionText, exponentText, exponentValue, fraction, exponent]

end Numerals

section Digits

theorem digitsValue_eq (l : List Char) : digitsValue l = Nat.ofDigitChars 10 l 0 := by
  simp [digitsValue, Nat.ofDigitChars_eq_foldl]

@[simp] theorem digitsValue_append (l r : List Char) :
    digitsValue (l ++ r) = digitsValue l * 10 ^ r.length + digitsValue r := by
  rw [digitsValue_eq, Nat.ofDigitChars_append, Nat.ofDigitChars_eq_ofDigitChars_zero,
    ← digitsValue_eq, ← digitsValue_eq, Nat.mul_comm]

@[simp] theorem digitsValue_zeros (k : Nat) : digitsValue (List.replicate k '0') = 0 := by
  rw [digitsValue_eq, Nat.ofDigitChars_replicate_zero, Nat.mul_zero]

@[simp] theorem digitsValue_repr (n : Nat) : digitsValue (Nat.repr n).toList = n := by
  rw [digitsValue_eq, Nat.toList_repr, Nat.ofDigitChars_ten_toDigits]

theorem isDigit_of_mem_repr {n : Nat} {c : Char} (mem : c ∈ (Nat.repr n).toList) : c.isDigit = true := by
  rw [Nat.toList_repr] at mem
  exact Nat.isDigit_of_mem_toDigits (by decide) (by decide) mem

theorem repr_toList_cons (n : Nat) : ∃ first more, (Nat.repr n).toList = first :: more ∧
    (∀ c ∈ first :: more, c.isDigit = true) ∧ digitsValue (first :: more) = n := by
  obtain ⟨first, more, digitsList⟩ : ∃ first more, (Nat.repr n).toList = first :: more := by
    cases h : (Nat.repr n).toList with
    | nil => exact absurd h (by rw [Nat.toList_repr]; exact Nat.toDigits_ne_nil)
    | cons c r => exact ⟨c, r, rfl⟩
  refine ⟨first, more, digitsList, fun c mem => isDigit_of_mem_repr (digitsList ▸ mem), ?_⟩
  rw [← digitsList, digitsValue_repr]

theorem padded_spec (k : Nat) :
    (if (Nat.repr k).length < 2 then "0" ++ Nat.repr k else Nat.repr k).toList ≠ [] ∧
      (∀ c ∈ (if (Nat.repr k).length < 2 then "0" ++ Nat.repr k else Nat.repr k).toList,
        c.isDigit = true) ∧
      digitsValue (if (Nat.repr k).length < 2 then "0" ++ Nat.repr k else Nat.repr k).toList = k := by
  have nonempty : (Nat.repr k).toList ≠ [] := by rw [Nat.toList_repr]; exact Nat.toDigits_ne_nil
  split
  · refine ⟨by simp, fun c mem => ?_, ?_⟩
    · simp only [String.toList_append, List.mem_append] at mem
      rcases mem with zero | digit
      · simp at zero; rw [zero]; rfl
      · exact isDigit_of_mem_repr digit
    · rw [String.toList_append, digitsValue_append, digitsValue_repr]
      simp [digitsValue]
  · exact ⟨nonempty, fun c mem => isDigit_of_mem_repr mem, digitsValue_repr k⟩

end Digits

section FloatText

theorem ofText?_congr {s : String} {l : List Char} (chars : s.toList = l) :
    ofText? s = ofText? (String.ofList l) := by
  rw [← chars, String.ofList_toList]

theorem toList_sign (b : Bool) : (if b = true then "-" else "").toList = if b then ['-'] else [] := by
  cases b <;> rfl

theorem toList_exponentSign (P : Prop) [Decidable P] :
    (if P then "-" else "+").toList = [if decide P then '-' else '+'] := by
  by_cases P <;> simp [*]

theorem ofText?_text {x : Float} {p : Binary.Parts} (parts : Binary.parts? x = some p)
    (nonzero : p.mantissa ≠ 0) :
    ∃ d : Decimal, ofText? (Binary.text x) = some (.finite d) ∧ d.neg = p.neg ∧
      (d.coeff : ℚ) * 10 ^ d.exp = p.shortest.value := by
  obtain ⟨first, more, digitsList, allDigits, value⟩ := repr_toList_cons p.shortest.digits
  have firstDigit := allDigits first (by simp)
  have moreDigits : ∀ c ∈ more, c.isDigit = true := fun c mem => allDigits c (by simp [mem])
  have length : (Nat.repr p.shortest.digits).length = more.length + 1 := by
    rw [← String.length_toList, digitsList]
    rfl
  unfold Binary.text
  simp only [parts, beq_iff_eq, nonzero, if_false, length]
  generalize expDef : p.shortest.exp = k
  generalize pointDef : k + ((more.length + 1 : Nat) : Int) = point
  have exponentDigits := padded_spec (point - 1).natAbs
  generalize (if (Nat.repr (point - 1).natAbs).length < 2 then "0" ++ Nat.repr (point - 1).natAbs
    else Nat.repr (point - 1).natAbs) = eText at exponentDigits ⊢
  obtain ⟨expNonempty, expDigits, expValue⟩ := exponentDigits
  by_cases scientific : point ≤ -4 ∨ point > 16
  · rw [if_pos (by simpa using scientific)]
    by_cases single : more = []
    · subst single
      simp only [List.length_nil, Nat.zero_add, ↓reduceIte] at pointDef ⊢
      refine ⟨_, (ofText?_congr ?_).trans (ofText?_numeral p.neg first [] none
        (some (decide (point - 1 < 0), eText.toList)) firstDigit (by simp) (by simp)
        (by simpa using expDigits) (by simpa using expNonempty)), rfl, ?_⟩
      · simp [digitsList, toList_sign, toList_exponentSign, fractionText, exponentText]
      · simp only [Option.getD_none, List.length_nil, Nat.cast_zero, sub_zero, List.append_nil]
        rw [exponentValue_signed expValue, value, Binary.Shortest.value, expDef]
        congr 2
        omega
    · -- several digits: the first, a point, the others, and the exponent
      rw [if_neg (show ¬more.length + 1 = 1 by simpa using single)]
      refine ⟨_, (ofText?_congr ?_).trans (ofText?_numeral p.neg first [] (some more)
        (some (decide (point - 1 < 0), eText.toList)) firstDigit (by simp) (by simpa using moreDigits)
        (by simpa using expDigits) (by simpa using expNonempty)), rfl, ?_⟩
      · simp [digitsList, toList_sign, toList_exponentSign, fractionText, exponentText]
      · simp only [Option.getD_some]
        rw [exponentValue_signed expValue, List.singleton_append, value, Binary.Shortest.value,
          expDef]
        congr 2
        omega
  · rw [if_neg (by simpa using scientific)]
    by_cases leading : point ≤ 0
    · -- `0.` and zeros before the digits
      rw [if_pos leading]
      refine ⟨_, (ofText?_congr ?_).trans (ofText?_numeral p.neg '0' []
        (some (List.replicate (-point).toNat '0' ++ first :: more)) none (by decide) (by simp) ?_
        (by simp) (by simp)), rfl, ?_⟩
      · simp [digitsList, toList_sign, Binary.zeros, fractionText, exponentText]
      · simp only [Option.mem_def, Option.some.injEq, forall_eq']
        intro c mem
        simp only [List.mem_append, List.mem_replicate] at mem
        rcases mem with ⟨-, rfl⟩ | digits
        · decide
        · exact allDigits c digits
      · have zero : digitsValue ['0'] = 0 := rfl
        simp only [exponentValue, Option.getD_some, zero_sub, digitsValue_append, digitsValue_zeros, zero, value, Binary.Shortest.value, expDef,
          List.length_append, List.length_replicate, List.length_cons, Nat.zero_mul, Nat.zero_add]
        congr 2
        omega
    · rw [if_neg leading]
      by_cases whole : point ≥ ((more.length + 1 : Nat) : Int)
      · -- the digits, zeros up to the point, and `.0`
        rw [if_pos whole]
        refine ⟨_, (ofText?_congr ?_).trans (ofText?_numeral p.neg first
          (more ++ List.replicate (point.toNat - (more.length + 1)) '0') (some ['0']) none firstDigit ?_
          (by simp) (by simp) (by simp)), rfl, ?_⟩
        · simp [digitsList, toList_sign, Binary.zeros, fractionText, exponentText]
        · intro c mem
          simp only [List.mem_append, List.mem_replicate] at mem
          rcases mem with digits | ⟨-, rfl⟩
          · exact moreDigits c digits
          · decide
        · have zero : digitsValue ['0'] = 0 := rfl
          have exponent : k = ((point.toNat - (more.length + 1) : Nat) : Int) := by omega
          simp only [exponentValue, Option.getD_some, zero_sub, ← List.cons_append,
            digitsValue_append, digitsValue_zeros, zero, value,
            Binary.Shortest.value, expDef, List.length_replicate, List.length_singleton, Nat.add_zero,
            exponent, zpow_natCast]
          push_cast
          rw [zpow_neg, zpow_one]
          field_simp
      · -- the digits with the point among them
        rw [if_neg whole]
        have split : point.toNat = (point.toNat - 1) + 1 := by omega
        refine ⟨_, (ofText?_congr ?_).trans (ofText?_numeral p.neg first
          (more.take (point.toNat - 1)) (some (more.drop (point.toNat - 1))) none firstDigit
          (fun c mem => moreDigits c (List.mem_of_mem_take mem))
          (by simpa using fun c mem => moreDigits c (List.mem_of_mem_drop mem)) (by simp) (by simp)),
          rfl, ?_⟩
        · rw [digitsList, split, List.take_succ_cons, List.drop_succ_cons]
          simp [toList_sign, fractionText, exponentText]
        · simp only [exponentValue, Option.getD_some, zero_sub]
          rw [List.cons_append, List.take_append_drop, value, Binary.Shortest.value, expDef,
            List.length_drop]
          congr 2
          omega

end FloatText

end FieldCalc.DecimalValue
