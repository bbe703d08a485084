import FieldCalc.Value
import FieldCalc.Proofs.Number.TextReading
import Mathlib.Data.List.Basic
import Mathlib.Tactic.IntervalCases

/-!
# Reading back the texts of dates and moments

A date is written `YYYY-MM-DD` (`CivilDate.isoText`) and a moment that is not
a midnight `Y-MM-DDTHH:MM:SSZ` (`Moment.zuluText`), its year not padded. Both
texts are ASCII, so their bytes are their character codes (`byteAt_ascii`),
and the readers of ISO texts see the digits of each field where they were
written. A valid date is read back from its text (`readDate?_isoText`). The
text of a moment, its `Z` written as the offset `+00:00`, is read back as the
moment at UTC when its year has four digits (`readDateTime?_zuluText`); with
fewer, a date-time field of four digits starts with a `-`, and nothing is read
(`readDateTime?_zuluText_shortYear`).

The readers are stated once on the bytes they look at: the dashes and digits
of an extended date for `parseDate`, a time `HH:MM:SS` and the offset
`+00:00` for `parseClock` and `parseTime`.
-/

namespace FieldCalc.Calendar

/-! ### Bytes of ASCII text -/

section Bytes

theorem flatMap_utf8EncodeChar_ascii {cs : List Char} (ascii : ∀ c ∈ cs, c.toNat < 128) :
    cs.flatMap String.utf8EncodeChar = cs.map fun c => c.val.toUInt8 := by
  induction cs with
  | nil => rfl
  | cons c cs ih =>
      have small : c.val.toNat < 128 := ascii c List.mem_cons_self
      have single : c.utf8Size = 1 := Char.utf8Size_eq_one_iff.mpr
        (UInt32.le_iff_toNat_le.mpr (by simpa using (by omega : c.val.toNat ≤ 127)))
      rw [List.flatMap_cons, List.map_cons, ih (fun c' mem => ascii c' (List.mem_cons_of_mem _ mem)),
        String.utf8EncodeChar_eq_singleton single]
      rfl

theorem byteAt_ascii {s : String} (ascii : ∀ c ∈ s.toList, c.toNat < 128) (i : Nat) :
    byteAt s.toUTF8.data i = (s.toList.map Char.toNat).getD i 0 := by
  show byteAt s.toByteArray.data i = _
  rw [← String.utf8Encode_toList, List.utf8Encode, List.data_toByteArray,
    flatMap_utf8EncodeChar_ascii ascii]
  unfold byteAt
  rw [List.getElem?_toArray, List.getD_eq_getElem?_getD, List.getElem?_map, List.getElem?_map]
  cases found : s.toList[i]? with
  | none => rfl
  | some c =>
      have small : c.val.toNat < 128 := ascii c (List.mem_of_getElem? found)
      show c.val.toUInt8.toNat = c.val.toNat
      rw [UInt32.toNat_toUInt8]
      omega

theorem size_ascii {s : String} (ascii : ∀ c ∈ s.toList, c.toNat < 128) :
    s.toUTF8.data.size = s.toList.length := by
  show s.toByteArray.data.size = _
  rw [← String.utf8Encode_toList, List.utf8Encode, List.data_toByteArray,
    flatMap_utf8EncodeChar_ascii ascii, List.size_toArray, List.length_map]

theorem length_le_size (s : String) : s.toList.length ≤ s.toUTF8.data.size := by
  show _ ≤ s.toByteArray.data.size
  rw [← String.utf8Encode_toList, List.utf8Encode, List.data_toByteArray, List.size_toArray]
  induction s.toList with
  | nil => simp
  | cons c cs ih =>
      have encoded := List.length_pos_iff.mpr (String.utf8EncodeChar_ne_nil (c := c))
      rw [List.flatMap_cons, List.length_append, List.length_cons]
      omega

theorem byteAt_of_ascii_prefix {s : String} {pre rest : List Char} (split : s.toList = pre ++ rest)
    (ascii : ∀ c ∈ pre, c.toNat < 128) {i : Nat} (within : i < pre.length) :
    byteAt s.toUTF8.data i = (pre.map Char.toNat).getD i 0 := by
  show byteAt s.toByteArray.data i = _
  rw [← String.utf8Encode_toList, List.utf8Encode, List.data_toByteArray, split, List.flatMap_append,
    flatMap_utf8EncodeChar_ascii ascii]
  unfold byteAt
  rw [List.getElem?_toArray, List.getElem?_append_left (by simpa using within), List.getD_eq_getElem?_getD,
    List.getElem?_map, List.getElem?_map, List.getElem?_eq_getElem within]
  have small : pre[i].val.toNat < 128 := ascii _ (List.getElem_mem within)
  show pre[i].val.toUInt8.toNat = pre[i].val.toNat
  rw [UInt32.toNat_toUInt8]
  omega

end Bytes

/-! ### Digits -/

section Digits

theorem toNat_digitChar {k : Nat} (small : k < 10) : (Nat.digitChar k).toNat = 48 + k := by
  interval_cases k <;> rfl

theorem ne_zulu_of_isDigit {c : Char} (digit : c.isDigit = true) : c ≠ 'Z' := by
  rintro rfl
  exact absurd digit (by decide)

def decimalDigit (n k : Nat) : Char := Nat.digitChar (n / 10 ^ k % 10)

@[simp]
theorem toNat_decimalDigit (n k : Nat) : (decimalDigit n k).toNat = 48 + n / 10 ^ k % 10 :=
  toNat_digitChar (Nat.mod_lt _ (by decide))

theorem isDigit_decimalDigit (n k : Nat) : (decimalDigit n k).isDigit = true := by
  rw [decimalDigit, Nat.isDigit_digitChar, decide_eq_true_eq]
  exact Nat.mod_lt _ (by decide)

@[simp]
theorem decimalDigit_ne_zulu (n k : Nat) : decimalDigit n k ≠ 'Z' :=
  ne_zulu_of_isDigit (isDigit_decimalDigit n k)

theorem pad2_toList {n : Nat} (small : n < 100) : (pad2 n).toList = [decimalDigit n 1, decimalDigit n 0] := by
  have tens : n / 10 ^ 1 % 10 = n / 10 := by omega
  simp only [decimalDigit, tens, pow_zero, Nat.div_one]
  unfold pad2
  split
  · rename_i single
    rw [String.toList_append, Nat.repr_of_lt single, Nat.div_eq_of_lt single, Nat.mod_eq_of_lt single,
      show Nat.digitChar 0 = '0' from rfl]
    simp
  · rw [Nat.repr_of_ge (by omega), Nat.repr_of_lt (n := n / 10) (by omega), String.toList_append]
    simp

theorem repr_toList_four {n : Nat} (low : 1000 ≤ n) (high : n < 10000) :
    (Nat.repr n).toList = [decimalDigit n 3, decimalDigit n 2, decimalDigit n 1, decimalDigit n 0] := by
  rw [Nat.repr_of_ge (by omega), Nat.repr_of_ge (by omega), Nat.repr_of_ge (by omega),
    Nat.repr_of_lt (by omega)]
  have thousands : n / 10 / 10 / 10 = n / 10 ^ 3 % 10 := by omega
  have hundreds : n / 10 / 10 % 10 = n / 10 ^ 2 % 10 := by omega
  simp [decimalDigit, thousands, hundreds]

theorem pad4_toList {n : Nat} (small : n < 10000) :
    (pad4 (n : Int)).toList = [decimalDigit n 3, decimalDigit n 2, decimalDigit n 1, decimalDigit n 0] := by
  have zero : Nat.digitChar 0 = '0' := rfl
  have units : n / 10 ^ 0 % 10 = n % 10 := by omega
  unfold pad4
  simp only [Int.natAbs_natCast, Int.natCast_nonneg, not_lt.mpr, if_false, decimalDigit, units,
    String.toList_append, String.toList_ofList]
  rcases Nat.lt_or_ge n 10 with one | ten
  · have high : n / 10 ^ 3 % 10 = 0 ∧ n / 10 ^ 2 % 10 = 0 ∧ n / 10 ^ 1 % 10 = 0 := by omega
    rw [Nat.repr_of_lt one, high.1, high.2.1, high.2.2, Nat.mod_eq_of_lt one, zero]
    simp
  rcases Nat.lt_or_ge n 100 with two | hundred
  · have high : n / 10 ^ 3 % 10 = 0 ∧ n / 10 ^ 2 % 10 = 0 ∧ n / 10 ^ 1 % 10 = n / 10 := by omega
    rw [Nat.repr_of_ge ten, Nat.repr_of_lt (n := n / 10) (by omega), high.1, high.2.1, high.2.2, zero]
    simp
  rcases Nat.lt_or_ge n 1000 with three | thousand
  · have high : n / 10 ^ 3 % 10 = 0 ∧ n / 10 ^ 2 % 10 = n / 10 / 10 ∧ n / 10 ^ 1 % 10 = n / 10 % 10 := by
      omega
    rw [Nat.repr_of_ge ten, Nat.repr_of_ge (n := n / 10) (by omega), Nat.repr_of_lt (n := n / 10 / 10) (by omega),
      high.1, high.2.1, high.2.2, zero]
    simp
  · have digits := repr_toList_four thousand small
    have length : n.repr.length = 4 := by rw [← String.length_toList, digits]; rfl
    rw [length, digits]
    simp [decimalDigit]

end Digits

/-! ### The readers on the bytes they look at -/

section Readers

variable {bs : Array UInt8}

theorem byteAt_of_size_le {i : Nat} (past : bs.size ≤ i) : byteAt bs i = 0 := by
  simp [byteAt, past]

theorem isDigitByte_digit {k : Nat} (small : k < 10) : isDigitByte (48 + k) = true := by
  simp only [isDigitByte, Bool.and_eq_true, decide_eq_true_eq]
  omega

theorem digitsAt_decimal {i n : Nat} (k : Nat) (small : n < 10 ^ k)
    (bytes : ∀ j < k, byteAt bs (i + j) = 48 + n / 10 ^ (k - 1 - j) % 10) :
    digitsAt bs i k = some n := by
  induction k generalizing n with
  | zero =>
      obtain rfl : n = 0 := by simpa using small
      rfl
  | succ k ih =>
      -- the first `k` digits are those of `n / 10`, and the last is `n % 10`
      have leading : digitsAt bs i k = some (n / 10) := by
        refine ih (by rw [pow_succ] at small; omega) fun j below => ?_
        rw [bytes j (by omega), Nat.div_div_eq_div_mul, ← pow_succ',
          show k - 1 - j + 1 = k + 1 - 1 - j by omega]
      have last := bytes k (by omega)
      rw [show k + 1 - 1 - k = 0 by omega, pow_zero, Nat.div_one] at last
      unfold digitsAt at leading ⊢
      rw [List.range_succ, List.foldlM_append, leading]
      simp [last, isDigitByte_digit (Nat.mod_lt n (by decide))]
      omega

theorem digitsAt_eq_none {i n k : Nat} (within : k < n) (other : isDigitByte (byteAt bs (i + k)) = false) :
    digitsAt bs i n = none := by
  induction n with
  | zero => omega
  | succ n ih =>
      unfold digitsAt at ih ⊢
      rw [List.range_succ, List.foldlM_append]
      rcases Nat.lt_succ_iff_lt_or_eq.mp within with earlier | last
      · rw [ih earlier]
        rfl
      · -- the last byte of the run is the one that is no digit
        subst last
        simp [other]

theorem digitsAt_isDigit {i n v k : Nat} (read : digitsAt bs i n = some v) (within : k < n) :
    isDigitByte (byteAt bs (i + k)) = true := by
  cases digit : isDigitByte (byteAt bs (i + k))
  · rw [digitsAt_eq_none within digit] at read
    cases read
  · rfl

theorem not_zone_of_isDigitByte {b : Nat} (digit : isDigitByte b = true) :
    (b == 90 || b == 43 || b == 45) = false := by
  simp only [isDigitByte, Bool.and_eq_true, decide_eq_true_eq] at digit
  simp only [Bool.or_eq_false_iff, beq_eq_false_iff_ne]
  omega

theorem parseDate_of_noYear (noYear : digitsAt bs 0 4 = none) (len : Nat) : parseDate bs len = none := by
  simp [parseDate, noYear]

/-- The bytes of an extended date `YYYY-MM-DD` at the start of a text. -/
structure ExtendedDate (bs : Array UInt8) (y m d : Nat) : Prop where
  year : digitsAt bs 0 4 = some y
  dash : byteAt bs 4 = 45
  month : digitsAt bs 5 2 = some m
  dash' : byteAt bs 7 = 45
  day : digitsAt bs 8 2 = some d

/-- The bytes of `YYYY-MM-DDTHH:MM:SS+00:00`. -/
structure UtcDateTime (bs : Array UInt8) (y mo d h m s : Nat) : Prop extends ExtendedDate bs y mo d where
  size : bs.size = 25
  separator : byteAt bs 10 = 84
  hour : digitsAt bs 11 2 = some h
  colon : byteAt bs 13 = 58
  minute : digitsAt bs 14 2 = some m
  colon' : byteAt bs 16 = 58
  second : digitsAt bs 17 2 = some s
  plus : byteAt bs 19 = 43
  offsetHours : digitsAt bs 20 2 = some 0
  colon'' : byteAt bs 22 = 58
  offsetMinutes : digitsAt bs 23 2 = some 0

section Extended

variable {y m d : Nat} (text : ExtendedDate bs y m d)
include text

theorem ExtendedDate.notWeek : byteAt bs 5 ≠ 87 := by
  have digit := digitsAt_isDigit text.month (k := 0) (by omega)
  simp only [isDigitByte, Bool.and_eq_true, decide_eq_true_eq, Nat.add_zero] at digit
  omega

theorem ExtendedDate.parseDate_eq (len : Nat) : parseDate bs len = some ⟨y, m, d⟩ := by
  simp [parseDate, text.year, text.dash, text.month, text.dash', text.day, text.notWeek]

end Extended

section Utc

variable {y mo d h m s : Nat} (text : UtcDateTime bs y mo d h m s)
include text

theorem UtcDateTime.separatorAt_eq : separatorAt bs = some 10 := by
  simp [separatorAt, text.size, text.dash, text.notWeek]

theorem UtcDateTime.parseClock_time :
    parseClock bs 11 19 = ({ hour := h, minute := m, second := s }, .beforeMore) := by
  unfold parseClock
  simp [List.range', List.forIn_cons, text.hour, text.colon, text.minute, text.colon', text.second,
    text.plus]

theorem UtcDateTime.parseClock_offset : parseClock bs 20 25 = ({}, .atEnd) := by
  have ends : byteAt bs 25 = 0 := byteAt_of_size_le (by rw [text.size])
  unfold parseClock
  simp [List.range', List.forIn_cons, text.offsetHours, text.colon'', text.offsetMinutes, ends]

/-- The zone starts at the `+`, the first zone character after the time, and
is UTC. -/
theorem UtcDateTime.parseTime_eq :
    parseTime bs 11 = some ⟨{ hour := h, minute := m, second := s }, some 0⟩ := by
  have digit {i v k : Nat} (read : digitsAt bs i 2 = some v) (within : k < 2) :
      (byteAt bs (i + k) == 90 || byteAt bs (i + k) == 43 || byteAt bs (i + k) == 45) = false :=
    not_zone_of_isDigitByte (digitsAt_isDigit read within)
  have zoneAt : (List.range 14).find? (fun k => byteAt bs (11 + k) == 90 || byteAt bs (11 + k) == 43 ||
      byteAt bs (11 + k) == 45) = some 8 := by
    rw [List.find?_range_eq_some]
    refine ⟨by simp [text.plus], by simp, fun j before => ?_⟩
    interval_cases j
    · simpa using digit text.hour (k := 0) (by omega)
    · simpa using digit text.hour (k := 1) (by omega)
    · simp [text.colon]
    · simpa using digit text.minute (k := 0) (by omega)
    · simpa using digit text.minute (k := 1) (by omega)
    · simp [text.colon']
    · simpa using digit text.second (k := 0) (by omega)
    · simpa using digit text.second (k := 1) (by omega)
  unfold parseTime
  simp [text.size, zoneAt, text.parseClock_time, text.plus, text.parseClock_offset]

end Utc

theorem readDate?_of_extended {s : String} {y m d : Nat} (text : ExtendedDate s.toUTF8.data y m d)
    (size : s.toUTF8.data.size = 10) (valid : (⟨y, m, d⟩ : CivilDate).isValid = true) :
    readDate? s = some ⟨y, m, d⟩ := by
  simp only [readDate?, size, text.parseDate_eq]
  simp [valid]

/-- A text of `YYYY-MM-DDTHH:MM:SS+00:00` with a valid date and time is read as
that date, the microseconds of the time, and the UTC offset. -/
theorem readDateTime?_of_utc {s : String} {y mo d h m sec : Nat}
    (text : UtcDateTime s.toUTF8.data y mo d h m sec) (length : s.length = 25)
    (valid : (⟨y, mo, d⟩ : CivilDate).isValid = true) (hour : h < 24) (minute : m < 60)
    (second : sec < 60) :
    readDateTime? s =
      some ((⟨y, mo, d⟩ : CivilDate), (((h * 3600 + m * 60 + sec) * 1000000 : Nat) : Int), some 0) := by
  have width : 10 + utf8Width (byteAt s.toUTF8.data 10) = 11 := by
    rw [text.separator]
    rfl
  simp only [readDateTime?, length, text.separatorAt_eq, text.parseDate_eq, text.size,
    Option.bind_eq_bind, Option.bind_some, width, text.parseTime_eq]
  simp only [valid]
  simp
  omega

theorem readDate?_of_long {s : String} (long : 10 < s.toList.length) : readDate? s = none := by
  have bytes := length_le_size s
  have sizes : s.toUTF8.data.size ≠ 7 ∧ s.toUTF8.data.size ≠ 8 ∧ s.toUTF8.data.size ≠ 10 := by omega
  unfold readDate?
  generalize s.toUTF8.data = bs at sizes ⊢
  simp [sizes]

theorem readDateTime?_of_noYear {s : String} (noYear : digitsAt s.toUTF8.data 0 4 = none) :
    readDateTime? s = none := by
  simp only [readDateTime?, parseDate_of_noYear noYear, Option.bind_eq_bind, Option.bind_none]
  split <;> simp

end Readers

/-! ### The texts of dates and moments -/

section Texts

theorem daysInMonth_le (y : Int) (m : Nat) : daysInMonth y m ≤ 31 := by
  unfold daysInMonth
  split <;> (try split) <;> omega

theorem CivilDate.bounds_of_isValid {d : CivilDate} (valid : d.isValid = true) :
    1 ≤ d.year ∧ d.year ≤ 9999 ∧ 1 ≤ d.month ∧ d.month ≤ 12 ∧ 1 ≤ d.day ∧ d.day ≤ 31 := by
  simp only [CivilDate.isValid, Bool.and_eq_true, decide_eq_true_eq] at valid
  have longest := daysInMonth_le d.year d.month
  omega

theorem isoText_toList {d : CivilDate} (valid : d.isValid = true) :
    d.isoText.toList = [decimalDigit d.year.toNat 3, decimalDigit d.year.toNat 2,
      decimalDigit d.year.toNat 1, decimalDigit d.year.toNat 0, '-', decimalDigit d.month 1,
      decimalDigit d.month 0, '-', decimalDigit d.day 1, decimalDigit d.day 0] := by
  obtain ⟨low, high, -, month, -, day⟩ := CivilDate.bounds_of_isValid valid
  have year : (pad4 d.year).toList = [decimalDigit d.year.toNat 3, decimalDigit d.year.toNat 2,
      decimalDigit d.year.toNat 1, decimalDigit d.year.toNat 0] := by
    have cast : d.year = (d.year.toNat : Int) := by omega
    conv_lhs => rw [cast]
    exact pad4_toList (by omega)
  unfold CivilDate.isoText
  simp [year, pad2_toList (by omega : d.month < 100), pad2_toList (by omega : d.day < 100)]

theorem readDate?_isoText {d : CivilDate} (valid : d.isValid = true) : readDate? d.isoText = some d := by
  obtain ⟨low, high, -, month, -, day⟩ := CivilDate.bounds_of_isValid valid
  have chars := isoText_toList valid
  have ascii : ∀ c ∈ d.isoText.toList, c.toNat < 128 := by
    rw [chars]
    simp
    omega
  have bytes := byteAt_ascii ascii
  rw [chars] at bytes
  have text : ExtendedDate d.isoText.toUTF8.data d.year.toNat d.month d.day :=
    { year := digitsAt_decimal 4 (by omega) fun j below => by interval_cases j <;> rw [bytes] <;> simp
      dash := by rw [bytes]; simp
      month := digitsAt_decimal 2 (by omega) fun j below => by interval_cases j <;> rw [bytes] <;> simp
      dash' := by rw [bytes]; simp
      day := digitsAt_decimal 2 (by omega) fun j below => by interval_cases j <;> rw [bytes] <;> simp }
  have size : d.isoText.toUTF8.data.size = 10 := by
    rw [size_ascii ascii, chars]
    rfl
  have same : (⟨(d.year.toNat : Int), d.month, d.day⟩ : CivilDate) = d := by
    obtain ⟨y, m, dd⟩ := d
    simp only [CivilDate.mk.injEq, and_true]
    simp only at low
    omega
  rw [readDate?_of_extended text size (by rw [same]; exact valid), same]

/-- The fields of a moment as a clock shows them: a valid date and a time of day. -/
structure Moment.OnClock (t : Moment) : Prop where
  valid : t.date.isValid = true
  hour : t.hour < 24
  minute : t.minute < 60
  second : t.second < 60

theorem two_le_length_pad2 (n : Nat) : 2 ≤ (pad2 n).length := by
  unfold pad2
  split
  · have digit := Nat.length_repr_pos (n := n)
    have zero : "0".length = 1 := rfl
    rw [String.length_append, zero]
    omega
  · have long := (Nat.length_repr_le_iff (n := n) (k := 1) (by norm_num)).not.mpr (by omega)
    omega

theorem readDate?_zuluText (t : Moment) : readDate? t.zuluText = none := by
  have month := two_le_length_pad2 t.date.month
  have day := two_le_length_pad2 t.date.day
  have hour := two_le_length_pad2 t.hour
  have minute := two_le_length_pad2 t.minute
  have second := two_le_length_pad2 t.second
  apply readDate?_of_long
  rw [← String.length_toList] at month day hour minute second
  unfold Moment.zuluText
  simp only [String.toList_append, List.length_append]
  simp
  omega

theorem zuluText_toList {t : Moment} (clock : t.OnClock) (long : 1000 ≤ t.date.year) :
    t.zuluText.toList = [decimalDigit t.date.year.toNat 3, decimalDigit t.date.year.toNat 2,
      decimalDigit t.date.year.toNat 1, decimalDigit t.date.year.toNat 0, '-',
      decimalDigit t.date.month 1, decimalDigit t.date.month 0, '-',
      decimalDigit t.date.day 1, decimalDigit t.date.day 0, 'T',
      decimalDigit t.hour 1, decimalDigit t.hour 0, ':', decimalDigit t.minute 1,
      decimalDigit t.minute 0, ':', decimalDigit t.second 1, decimalDigit t.second 0, 'Z'] := by
  obtain ⟨-, high, -, month, -, day⟩ := CivilDate.bounds_of_isValid clock.valid
  have natAbs : t.date.year.natAbs = t.date.year.toNat := by omega
  have year := repr_toList_four (n := t.date.year.toNat) (by omega) (by omega)
  have hour := clock.hour
  have minute := clock.minute
  have second := clock.second
  unfold Moment.zuluText
  rw [if_neg (by omega), natAbs]
  simp [year, pad2_toList (by omega : t.date.month < 100), pad2_toList (by omega : t.date.day < 100),
    pad2_toList (by omega : t.hour < 100), pad2_toList (by omega : t.minute < 100),
    pad2_toList (by omega : t.second < 100)]

theorem flatMap_zuluAsOffset {cs : List Char} (noZulu : ∀ c ∈ cs, c ≠ 'Z') :
    (cs.flatMap fun c => if c = 'Z' then ['+', '0', '0', ':', '0', '0'] else [c]) = cs := by
  rw [List.flatMap_congr fun c member => if_neg (noZulu c member), List.flatMap_singleton']

theorem zuluAsOffset_prefix {s : String} {pre rest : List Char} (split : s.toList = pre ++ rest)
    (noZulu : ∀ c ∈ pre, c ≠ 'Z') : ∃ rest', (zuluAsOffset s).toList = pre ++ rest' := by
  refine ⟨rest.flatMap fun c => if c = 'Z' then ['+', '0', '0', ':', '0', '0'] else [c], ?_⟩
  rw [zuluAsOffset, String.toList_ofList, split, List.flatMap_append, flatMap_zuluAsOffset noZulu]

/-- The text of a moment on the clock with a four-digit year, its `Z` written as
`+00:00`, is read back as its date, time and zero offset. -/
theorem readDateTime?_zuluText {t : Moment} (clock : t.OnClock) (long : 1000 ≤ t.date.year) :
    readDateTime? (zuluAsOffset t.zuluText) =
      some (t.date, (((t.hour * 3600 + t.minute * 60 + t.second) * 1000000 : Nat) : Int), some 0) := by
  obtain ⟨-, high, -, month, -, day⟩ := CivilDate.bounds_of_isValid clock.valid
  have hour := clock.hour
  have minute := clock.minute
  have second := clock.second
  have chars : (zuluAsOffset t.zuluText).toList = [decimalDigit t.date.year.toNat 3,
      decimalDigit t.date.year.toNat 2, decimalDigit t.date.year.toNat 1,
      decimalDigit t.date.year.toNat 0, '-', decimalDigit t.date.month 1, decimalDigit t.date.month 0,
      '-', decimalDigit t.date.day 1, decimalDigit t.date.day 0, 'T', decimalDigit t.hour 1,
      decimalDigit t.hour 0, ':', decimalDigit t.minute 1, decimalDigit t.minute 0, ':',
      decimalDigit t.second 1, decimalDigit t.second 0, '+', '0', '0', ':', '0', '0'] := by
    rw [zuluAsOffset, String.toList_ofList, zuluText_toList clock long]
    simp
  have ascii : ∀ c ∈ (zuluAsOffset t.zuluText).toList, c.toNat < 128 := by
    rw [chars]
    simp
    omega
  have bytes := byteAt_ascii ascii
  rw [chars] at bytes
  have text : UtcDateTime (zuluAsOffset t.zuluText).toUTF8.data t.date.year.toNat t.date.month
      t.date.day t.hour t.minute t.second :=
    { year := digitsAt_decimal 4 (by omega) fun j below => by interval_cases j <;> rw [bytes] <;> simp
      dash := by rw [bytes]; simp
      month := digitsAt_decimal 2 (by omega) fun j below => by interval_cases j <;> rw [bytes] <;> simp
      dash' := by rw [bytes]; simp
      day := digitsAt_decimal 2 (by omega) fun j below => by interval_cases j <;> rw [bytes] <;> simp
      size := by rw [size_ascii ascii, chars]; rfl
      separator := by rw [bytes]; simp
      hour := digitsAt_decimal 2 (by omega) fun j below => by interval_cases j <;> rw [bytes] <;> simp
      colon := by rw [bytes]; simp
      minute := digitsAt_decimal 2 (by omega) fun j below => by interval_cases j <;> rw [bytes] <;> simp
      colon' := by rw [bytes]; simp
      second := digitsAt_decimal 2 (by omega) fun j below => by interval_cases j <;> rw [bytes] <;> simp
      plus := by rw [bytes]; simp
      offsetHours := digitsAt_decimal 2 (by norm_num) fun j below => by
        interval_cases j <;> rw [bytes] <;> simp
      colon'' := by rw [bytes]; simp
      offsetMinutes := digitsAt_decimal 2 (by norm_num) fun j below => by
        interval_cases j <;> rw [bytes] <;> simp }
  have length : (zuluAsOffset t.zuluText).length = 25 := by
    rw [← String.length_toList, chars]
    rfl
  have date : (⟨(t.date.year.toNat : Int), t.date.month, t.date.day⟩ : CivilDate) = t.date := by
    obtain ⟨⟨y, m, d⟩, _, _, _, _, _⟩ := t
    simp only [CivilDate.mk.injEq, and_true]
    simp only at long
    omega
  rw [readDateTime?_of_utc text length (by rw [date]; exact clock.valid) hour minute second, date]

theorem zuluText_toList_year {t : Moment} (positive : 0 ≤ t.date.year) :
    ∃ tail, t.zuluText.toList = ((Nat.repr t.date.year.natAbs).toList ++ ['-']) ++ tail := by
  refine ⟨(pad2 t.date.month ++ "-" ++ pad2 t.date.day ++ "T" ++ pad2 t.hour ++ ":" ++ pad2 t.minute ++
    ":" ++ pad2 t.second ++ "Z").toList, ?_⟩
  unfold Moment.zuluText
  rw [if_neg (by omega)]
  simp [String.toList_append]

/-- The text of a moment whose year has fewer than four digits is no date-time:
the year's digits end before the fourth byte, where a dash stands. -/
theorem readDateTime?_zuluText_shortYear {t : Moment} (clock : t.OnClock) (short : t.date.year < 1000) :
    readDateTime? (zuluAsOffset t.zuluText) = none := by
  obtain ⟨positive, -⟩ := CivilDate.bounds_of_isValid clock.valid
  have digits : (Nat.repr t.date.year.natAbs).length ≤ 3 :=
    (Nat.length_repr_le_iff (by norm_num)).mpr (by omega)
  obtain ⟨tail, split⟩ := zuluText_toList_year (t := t) (by omega)
  have year : ∀ c ∈ (Nat.repr t.date.year.natAbs).toList ++ ['-'], c.isDigit = true ∨ c = '-' := by
    intro c member
    rcases List.mem_append.mp member with digit | dash
    · exact Or.inl (DecimalValue.isDigit_of_mem_repr digit)
    · exact Or.inr (List.mem_singleton.mp dash)
  have noZulu : ∀ c ∈ (Nat.repr t.date.year.natAbs).toList ++ ['-'], c ≠ 'Z' := by
    intro c member
    rcases year c member with digit | rfl
    · exact ne_zulu_of_isDigit digit
    · decide
  have ascii : ∀ c ∈ (Nat.repr t.date.year.natAbs).toList ++ ['-'], c.toNat < 128 := by
    intro c member
    rcases year c member with digit | rfl
    · exact (DecimalValue.plain_of_isDigit digit).2.1
    · decide
  obtain ⟨rest, offset⟩ := zuluAsOffset_prefix split noZulu
  have dash := byteAt_of_ascii_prefix offset ascii (i := (Nat.repr t.date.year.natAbs).length)
    (by simp only [List.length_append, String.length_toList, List.length_singleton]; omega)
  apply readDateTime?_of_noYear
  apply digitsAt_eq_none (k := (Nat.repr t.date.year.natAbs).length) (by omega)
  have past : (List.map Char.toNat (Nat.repr t.date.year.natAbs).toList).length ≤
      (Nat.repr t.date.year.natAbs).length := by
    rw [List.length_map, String.length_toList]
  rw [Nat.zero_add, dash, List.map_append, List.getD_eq_getElem?_getD, List.getElem?_append_right past]
  simp only [List.length_map, String.length_toList, Nat.sub_self]
  decide

end Texts

end FieldCalc.Calendar
