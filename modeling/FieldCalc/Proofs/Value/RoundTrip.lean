import FieldCalc.Proofs.Number.FloatReading
import FieldCalc.Proofs.Number.WholeFloats
import FieldCalc.Proofs.Calendar.WholeSeconds
import FieldCalc.Formula.Eval

/-!
# Reading back what is displayed

A number is displayed by `formatNumber` and read by `parseNumber?`, which
gives a float that `normalizeNumber` stores. For a storable number, an
integer below `2^53` in magnitude or a float in normal form, the three give
the number back (`parseNumber?_formatNumber`): the digits of such an integer
read as its exact float, which is whole, and the shortest text of a float
reads as the float. So `NUMBER(TEXT(n))` is `n` in a formula. A larger
integer reads as the nearest float, which is stored as a float, so it comes
back only below `2^53` (`intText_reads_back_iff`).

A moment is displayed by `formatTimestamp` and read by `parseTimestamp?`. For
whole seconds of years 1 to 9999 (`parseTimestamp?_formatTimestamp`), a
midnight is written `YYYY-MM-DD` and read back as a date; another moment is
written `Y-MM-DDTHH:MM:SSZ` with its year unpadded, which the ISO reader takes
only when the year has four digits. The text of a moment of an earlier year
reads as no moment: `YEAR(TEXT(t))` fails for the first second of year 1
(`yearOne_text_reads_as_nothing`).
-/

namespace FieldCalc

open Binary DecimalValue

section Numbers

theorem trim_plain {s : String} (plain : PlainText s) : Text.trim s = s := by
  have noSpace : ∀ c ∈ s.toList, Text.isSpace c = false := fun c mem => isSpace_eq_false (plain c mem)
  unfold Text.trim
  simp only [dropWhile_eq_self noSpace,
    dropWhile_eq_self (fun c mem => noSpace c (List.mem_reverse.mp mem)), List.reverse_reverse,
    String.ofList_toList]

theorem parseNumber?_of_readFloat? {s : String} (plain : PlainText s) {x : Float}
    (read : readFloat? s = some x) (finite : x.isFinite = true) : parseNumber? s = some x := by
  have nonempty : s.isEmpty = false := by
    rw [Bool.eq_false_iff]
    intro empty
    rw [String.isEmpty_iff.mp empty] at read
    cases read
  have noUnderscore : s.contains '_' = false := by
    rw [String.contains_char_eq, decide_eq_false_iff_not]
    exact fun mem => (plain '_' mem).2.2 rfl
  unfold parseNumber?
  simp only [trim_plain plain, nonempty, noUnderscore, Bool.or_false, Bool.false_eq_true, if_false,
    read, finite, if_true]

theorem intText_plain (k : Int) : PlainText (Number.intText k) := by
  unfold Number.intText
  split <;> simp (disch := decide) only [plainText_append, plainText_repr, plainText_of_all, and_self]

theorem isFinite_of_parts {x : Float} {p : Parts} (parts : parts? x = some p) : x.isFinite = true := by
  rw [isFinite_iff]
  intro top
  simp [parts?, top] at parts

/-- A storable number is displayed as a text that parses to a float which
normalizes back to the number. -/
theorem parseNumber?_formatNumber {n : Number} (storable : n.Storable) :
    ∃ x, parseNumber? (formatNumber n) = some x ∧ normalizeNumber (.float x) = .ok n := by
  cases n with
  | int k =>
    have exact := exactInt?_ofInt storable
    have finite : (ofInt k).isFinite = true := by
      unfold Number.exactInt? at exact
      split at exact
      next parts => exact isFinite_of_parts parts
      next => cases exact
    refine ⟨ofInt k, parseNumber?_of_readFloat? (intText_plain k) (readFloat?_intText k) finite, ?_⟩
    simp [normalizeNumber, Number.normalize, finite, exact]
  | float x =>
    obtain ⟨finite, fractional⟩ := storable
    obtain ⟨p, parts⟩ := parts?_isSome finite
    -- a float in normal form is no zero: zero reads as the integer zero
    have nonzero : p.mantissa ≠ 0 := by
      intro zero
      have whole := Number.exactInt?_eq_of_value parts (show 0 < 2 ^ 53 by norm_num) (by simp [zero])
      rw [fractional] at whole
      cases whole
    have text : formatNumber (.float x) = text x := by simp [formatNumber, fractional]
    refine ⟨x, ?_, ?_⟩
    · rw [text]
      exact parseNumber?_of_readFloat? (text_plain parts) (readFloat?_text parts nonzero) finite
    · simp [normalizeNumber, Number.normalize, finite, fractional]

theorem natAbs_lt_of_normalizeNumber {x : Float} {k : Int}
    (stored : normalizeNumber (.float x) = .ok (.int k)) : k.natAbs < 2 ^ 53 := by
  cases exact : Number.exactInt? x with
  | none =>
    cases finite : x.isFinite <;> simp [normalizeNumber, Number.normalize, finite, exact] at stored
  | some j =>
    have same : j = k := by
      cases finite : x.isFinite <;> simp [normalizeNumber, Number.normalize, finite, exact] at stored
      exact stored
    exact same ▸ Number.exactInt?_small exact

/-- An integer comes back from its display text exactly when it is below
`2^53` in magnitude: its text reads as the nearest float, which is stored as
an integer only below `2^53`. -/
theorem intText_reads_back_iff (k : Int) :
    (∃ x, parseNumber? (formatNumber (.int k)) = some x ∧ normalizeNumber (.float x) = .ok (.int k)) ↔
      k.natAbs < 2 ^ 53 := by
  constructor
  · rintro ⟨x, -, stored⟩
    exact natAbs_lt_of_normalizeNumber stored
  · intro small
    exact parseNumber?_formatNumber (n := .int k) small

end Numbers

section Timestamps

open Calendar

theorem plainText_pad2 (n : Nat) : PlainText (pad2 n) := by
  unfold pad2
  split <;> simp (disch := decide) only [plainText_append, plainText_repr, plainText_of_all, and_self]

theorem plainText_pad4 (y : Int) : PlainText (pad4 y) := by
  have zeros : PlainText (String.ofList (List.replicate (4 - (Nat.repr y.natAbs).length) '0')) :=
    plainText_zeros _
  unfold pad4
  split <;> simp (disch := decide) only [plainText_append, plainText_repr, zeros, plainText_of_all,
    and_self]

theorem isoText_plain (d : CivilDate) : PlainText d.isoText := by
  unfold CivilDate.isoText
  simp (disch := decide) only [plainText_append, plainText_pad4, plainText_pad2, plainText_of_all,
    and_self]

theorem zuluText_plain (t : Moment) : PlainText t.zuluText := by
  unfold Moment.zuluText
  split <;> simp (disch := decide) only [plainText_append, plainText_repr, plainText_pad2,
    plainText_of_all, and_self]

/-- A plain text that starts with a digit and holds a dash is no count of
milliseconds: it is read as a date, or failing that as a date-time with `Z`
taken for the offset `+00:00`. -/
theorem parseTimestamp?_of_dated {s : String} (plain : PlainText s) {c : Char} {rest : List Char}
    (chars : s.toList = c :: rest) (digit : c.isDigit = true) (dash : '-' ∈ rest) :
    parseTimestamp? s = match readDate? s with
      | some d => .ok (some d.toMillis)
      | none => match readDateTime? (zuluAsOffset s) with
        | some (d, micros, off) => .ok (some (dateTimeMillis d micros off))
        | none => .ok none := by
  have nonempty : s.isEmpty = false := by
    rw [Bool.eq_false_iff]
    intro empty
    rw [String.isEmpty_iff.mp empty] at chars
    cases chars
  have first : (c == '-') = false := by
    rw [beq_eq_false_iff_ne]
    rintro rfl
    cases digit
  have notInteger : (c :: rest).all Text.isDigit = false :=
    List.all_eq_false.mpr ⟨'-', List.mem_cons_of_mem c dash, by decide⟩
  unfold parseTimestamp?
  -- split both readers as the statement does, so that every match on either
  -- side meets a constructor
  rcases date : readDate? s with _ | d <;>
    rcases time : readDateTime? (zuluAsOffset s) with _ | ⟨d', micros, off⟩ <;>
    simp only [trim_plain plain, nonempty, chars, List.dropWhile_cons, first, String.toList_ofList,
      notInteger, Bool.and_false, Bool.false_eq_true, if_false, date, time]

/-- A moment of whole seconds in years 1 to 9999 has a text, which reads back
as the moment when it is a midnight or when its year has four digits; a
moment of a shorter year that is no midnight has a text that reads as no
moment. -/
theorem parseTimestamp?_formatTimestamp {ms : Int} (whole : ms % 1000 = 0)
    (low : 1 ≤ (CivilDate.ofDay (ms.fdiv msPerDay)).year)
    (high : (CivilDate.ofDay (ms.fdiv msPerDay)).year ≤ 9999) :
    ∃ s, formatTimestamp ms = .ok s ∧ parseTimestamp? s =
      .ok (if ms % (msPerDay : Int) = 0 ∨ 1000 ≤ (CivilDate.ofDay (ms.fdiv msPerDay)).year then some ms
        else none) := by
  obtain ⟨m, split, clock, date, count⟩ := ofMillis_of_whole whole low high
  have bounds := day_bounds_of_year low high
  have perDay : (msPerDay : Int) = 86400000 := rfl
  rw [Int.fdiv_eq_ediv_of_nonneg _ (by decide), perDay] at bounds
  rw [← date] at low high ⊢
  have hour := clock.hour
  have minute := clock.minute
  have second := clock.second
  unfold formatTimestamp
  rw [split]
  by_cases midnight : ms % (msPerDay : Int) = 0
  · -- a midnight is written as its date, which is read back
    refine ⟨m.date.isoText, by simp [midnight], ?_⟩
    rw [parseTimestamp?_of_dated (isoText_plain m.date) (isoText_toList clock.valid)
      (isDigit_decimalDigit _ _) (by simp), readDate?_isoText clock.valid, if_pos (.inl midnight)]
    simp only [CivilDate.toMillis, Except.ok.injEq, Option.some.injEq]
    rw [perDay] at midnight ⊢
    omega
  · -- any other moment is written with its time, read back only for a year of four digits
    refine ⟨m.zuluText, by simp [midnight], ?_⟩
    obtain ⟨tail, chars⟩ := zuluText_toList_year (t := m) (by omega)
    have digits : (Nat.repr m.date.year.natAbs).toList ≠ [] :=
      List.ne_nil_of_length_pos (by rw [String.length_toList]; exact Nat.length_repr_pos)
    obtain ⟨c, rest, reprChars⟩ := List.exists_cons_of_ne_nil digits
    have digit : c.isDigit = true := by
      apply DecimalValue.isDigit_of_mem_repr (n := m.date.year.natAbs)
      rw [reprChars]
      exact List.mem_cons_self
    rw [reprChars, List.cons_append, List.cons_append] at chars
    rw [parseTimestamp?_of_dated (zuluText_plain m) chars digit (by simp), readDate?_zuluText]
    by_cases long : 1000 ≤ m.date.year
    · rw [readDateTime?_zuluText clock long, if_pos (.inr long)]
      have small : ((m.date.toDay * 86400 + ((m.hour * 3600 + m.minute * 60 + m.second : Nat) : Int)) *
          1000).natAbs < 2 ^ 53 := by
        rw [count]
        omega
      show Except.ok (some (dateTimeMillis m.date _ (some 0))) = _
      rw [dateTimeMillis_of_seconds m.date _ small, count]
    · rw [readDateTime?_zuluText_shortYear clock (by omega), if_neg (by omega)]

end Timestamps

/-- Numbers and moments come back from the texts they are displayed as. A
storable number, an integer below `2^53` in magnitude or a float in normal
form, is displayed as a text that parses to a float normalizing back to it,
and an integer comes back exactly when it is below `2^53`. A moment of whole
seconds in years 1 to 9999 has a text that reads back as the moment when it
is a midnight or its year has four digits, and as no moment otherwise. -/
theorem displayed_values_read_back (n : Number) (k ms : Int) :
    (n.Storable →
      ∃ x, parseNumber? (formatNumber n) = some x ∧ normalizeNumber (.float x) = .ok n) ∧
    ((∃ x, parseNumber? (formatNumber (.int k)) = some x ∧
      normalizeNumber (.float x) = .ok (.int k)) ↔ k.natAbs < 2 ^ 53) ∧
    (ms % 1000 = 0 → 1 ≤ (Calendar.CivilDate.ofDay (ms.fdiv Calendar.msPerDay)).year →
      (Calendar.CivilDate.ofDay (ms.fdiv Calendar.msPerDay)).year ≤ 9999 →
      ∃ s, formatTimestamp ms = .ok s ∧ parseTimestamp? s =
        .ok (if ms % (Calendar.msPerDay : Int) = 0 ∨
          1000 ≤ (Calendar.CivilDate.ofDay (ms.fdiv Calendar.msPerDay)).year then some ms else none)) :=
  ⟨fun storable => parseNumber?_formatNumber storable, intText_reads_back_iff k,
    fun whole low high => parseTimestamp?_formatTimestamp whole low high⟩

/-- The first second of year 1 is displayed with its time and a year of one
digit, and its text reads as no moment. -/
theorem displayed_values_read_back_yearOne :
    ∃ s, formatTimestamp (-62135596799000) = .ok s ∧ parseTimestamp? s = .ok none := by
  obtain ⟨s, format, parse⟩ :=
    (displayed_values_read_back (.int 0) 0 (-62135596799000)).2.2 (by decide) (by decide) (by decide)
  refine ⟨s, format, ?_⟩
  rw [parse, if_neg (by decide)]

/-- The first second of year 1 is displayed as `1-01-01T00:00:01Z`, a text
that reads as no moment. -/
theorem yearOne_text_reads_as_nothing :
    (formatTimestamp (-62135596799000)).toOption = some "1-01-01T00:00:01Z" ∧
      parseTimestamp? "1-01-01T00:00:01Z" = .ok none :=
  ⟨by decide +kernel, by rfl⟩

end FieldCalc
