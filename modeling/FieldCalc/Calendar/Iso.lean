import FieldCalc.Calendar.Civil
import FieldCalc.Number.Basic

/-!
Reading ISO 8601 dates and date-times.

A date is `YYYY-MM-DD`, `YYYYMMDD`, an ISO week `YYYY-Www`, `YYYYWww`, or a week
day `YYYY-Www-D`, `YYYYWwwD`; the dash is used everywhere or nowhere. A date
text alone must be 7, 8 or 10 bytes long.

A date-time is a date, one separator character of any kind, and a time
`HH[:MM[:SS[.f]]]` (colons everywhere or nowhere, a comma also marking the
fraction, digits past the sixth ignored) with an optional zone: `Z`, or a sign
and an offset written like a time. The position of the separator follows from
the form of the date. Fields are checked against the calendar; an offset must
be below a day. The text is read as UTF-8 bytes, so a non-ASCII character
counts by its encoded length.
-/

namespace FieldCalc.Calendar

def byteAt (bs : Array UInt8) (i : Nat) : Nat := (bs[i]?.getD 0).toNat

def isDigitByte (b : Nat) : Bool := 48 ≤ b && b ≤ 57

def digitsAt (bs : Array UInt8) (i n : Nat) : Option Nat :=
  (List.range n).foldlM (fun acc k =>
    let b := byteAt bs (i + k)
    if isDigitByte b then some (acc * 10 + (b - 48)) else none) 0

def isoWeekOneMonday (year : Int) : Int :=
  let first := CivilDate.toDay ⟨year, 1, 1⟩
  let weekday := mondayWeekday first
  let monday := first - weekday
  if weekday > 3 then monday + 7 else monday

/-- The date of an ISO year, week and week day; a 53rd week exists only in
years that begin on a Thursday, or on a Wednesday in a leap year. -/
def ofIsoWeek (year : Int) (week day : Nat) : Option CivilDate :=
  let first := mondayWeekday (CivilDate.toDay ⟨year, 1, 1⟩)
  let weekOk := (1 ≤ week && week < 53) ||
    (week == 53 && (first == 3 || (first == 2 && isLeap year)))
  if !weekOk || day == 0 || day ≥ 8 then none
  else some (CivilDate.ofDay (isoWeekOneMonday year + (week - 1) * 7 + day - 1))

/-- Read the date at the start of a text whose date part has `len` bytes:
year, month and day, not yet checked against the calendar. -/
def parseDate (bs : Array UInt8) (len : Nat) : Option CivilDate := do
  let year ← digitsAt bs 0 4
  let dash := byteAt bs 4 == 45
  let p := if dash then 5 else 4
  if byteAt bs p == 87 then
    let week ← digitsAt bs (p + 1) 2
    let p := p + 3
    if p < len then
      if dash && byteAt bs p != 45 then none
      let p := if dash then p + 1 else p
      let day ← digitsAt bs p 1
      ofIsoWeek year week day
    else ofIsoWeek year week 1
  else
    let month ← digitsAt bs p 2
    let p := p + 2
    if dash && byteAt bs p != 45 then none
    let p := if dash then p + 1 else p
    let day ← digitsAt bs p 2
    return ⟨year, month, day⟩

/-- Read a date text of 7, 8 or 10 bytes; the date must be on the calendar. -/
def readDate? (s : String) : Option CivilDate := do
  let bs := s.toUTF8.data
  if !(bs.size == 7 || bs.size == 8 || bs.size == 10) then none
  let d ← parseDate bs bs.size
  if d.isValid then some d else none

/-- Where the date part of a date-time ends, from the form of the date; `none`
when no form fits. -/
def separatorAt (bs : Array UInt8) : Option Nat :=
  let len := bs.size
  if len == 7 then some 7
  else if byteAt bs 4 == 45 then
    if byteAt bs 5 == 87 then
      if len < 8 then none
      else if len > 8 && byteAt bs 8 == 45 then
        if len == 9 then none
        else if len > 10 && isDigitByte (byteAt bs 10) then some 8
        else some 10
      else some 8
    else some 10
  else if byteAt bs 4 == 87 then
    let run := ((List.range (len - 7)).takeWhile fun k => isDigitByte (byteAt bs (7 + k))).length
    let idx := 7 + run
    if idx < 9 then some idx
    else if idx % 2 == 0 then some 7 else some 8
  else some 8

/-- Hours, minutes, seconds and microseconds of a time. -/
structure Clock where
  hour : Nat := 0
  minute : Nat := 0
  second : Nat := 0
  micro : Nat := 0
  deriving Repr

/-- How reading the fields of a time ended: at the end of the text, before
more text, or on an error. -/
inductive ClockEnd where
  | atEnd
  | beforeMore
  | failed
  deriving DecidableEq

def parseClock (bs : Array UInt8) (start stop : Nat) : Clock × ClockEnd := Id.run do
  let mut p := start
  let mut vals : Array Nat := #[0, 0, 0]
  let mut colons := true
  let finish (vals : Array Nat) (micro : Nat) : Clock :=
    { hour := vals[0]!, minute := vals[1]!, second := vals[2]!, micro }
  for i in [0:3] do
    match digitsAt bs p 2 with
    | none => return (finish vals 0, .failed)
    | some v =>
      vals := vals.set! i v
      p := p + 2
      let c := byteAt bs p
      p := p + 1
      if i == 0 then colons := c == 58
      if p ≥ stop then
        return (finish vals 0, if c == 0 then .atEnd else .beforeMore)
      else if colons && c == 58 then continue
      else if c == 46 || c == 44 then
        break
      else if !colons then p := p - 1
      else return (finish vals 0, .failed)
  let count := min (stop - p) 6
  match digitsAt bs p count with
  | none => return (finish vals 0, .failed)
  | some v =>
    let micro := v * Nat.pow 10 (6 - count)
    let mut q := p + count
    for _ in [0:bs.size] do
      if isDigitByte (byteAt bs q) then q := q + 1
    return (finish vals micro, if byteAt bs q != 0 then .beforeMore else .atEnd)

/-- A time and its zone offset in microseconds east of UTC, if a zone is
given. -/
structure TimeOfDay where
  clock : Clock
  offset : Option Int
  deriving Repr

/-- Read a time with an optional zone from `start` to the end of the text. -/
def parseTime (bs : Array UInt8) (start : Nat) : Option TimeOfDay := do
  let stop := bs.size
  let zoneAt := ((List.range (stop - start)).find? fun k =>
    let b := byteAt bs (start + k)
    b == 90 || b == 43 || b == 45).map (start + ·)
  let (clock, ending) := parseClock bs start (zoneAt.getD (max stop (start + 1)))
  if ending == .failed then none
  match zoneAt with
  | none => if ending == .beforeMore then none else some ⟨clock, none⟩
  | some z =>
    if byteAt bs z == 90 then
      if z + 1 == stop then some ⟨clock, some 0⟩ else none
    else
      let sign : Int := if byteAt bs z == 45 then -1 else 1
      let (off, offEnd) := parseClock bs (z + 1) stop
      if offEnd != .atEnd then none
      let seconds : Int := off.hour * 3600 + off.minute * 60 + off.second
      some ⟨clock, some (sign * (seconds * 1000000 + off.micro))⟩

/-- The byte length of the UTF-8 character that begins with a byte. -/
def utf8Width (b : Nat) : Nat :=
  if b < 0x80 then 1 else if b < 0xE0 then 2 else if b < 0xF0 then 3 else 4

/-- Read a date-time text: the date, microseconds since its midnight, and
the zone offset in microseconds if a zone is given. -/
def readDateTime? (s : String) : Option (CivilDate × Int × Option Int) := do
  let bs := s.toUTF8.data
  if s.length < 7 then none
  let sep ← separatorAt bs
  let d ← parseDate bs sep
  let t : TimeOfDay ←
    if bs.size > sep then parseTime bs (sep + utf8Width (byteAt bs sep))
    else some ⟨{}, none⟩
  if !d.isValid then none
  let c := t.clock
  if c.hour > 23 || c.minute > 59 || c.second > 59 then none
  match t.offset with
  | some off => if off.natAbs ≥ 86400 * 1000000 then none
  | none => pure ()
  let micros : Int := ((c.hour * 3600 + c.minute * 60 + c.second) * 1000000 + c.micro : Nat)
  return (d, micros, t.offset)

def CivilDate.toMillis (d : CivilDate) : Int := d.toDay * msPerDay

/-- The instant of a date-time given by its date, the microseconds into the
day and its zone offset, a missing zone meaning UTC. -/
def dateTimeInstant (d : CivilDate) (micros : Int) (offset : Option Int) : Instant :=
  ⟨d.toDay * 86400000000 + micros - offset.getD 0⟩

def dateTimeMillis (d : CivilDate) (micros : Int) (offset : Option Int) : Int :=
  (dateTimeInstant d micros offset).millis

def pad6 (n : Nat) : String :=
  let s := Nat.repr n
  String.ofList (List.replicate (6 - s.length) '0') ++ s

/-- A date-time as it was read: its date, the microseconds into the day and
the zone offset in microseconds of an aware date-time. -/
structure DateTime where
  date : CivilDate
  micros : Nat
  offset : Option Int
  deriving Repr

def DateTime.read? (s : String) : Option DateTime :=
  (readDateTime? s).map fun (d, micros, off) => ⟨d, micros.toNat, off⟩

/-- Epoch milliseconds of a date-time, as `dateTimeMillis` computes them. -/
def DateTime.millis (t : DateTime) : Int := dateTimeMillis t.date t.micros t.offset

/-- The text of a zone offset in microseconds: a sign, hours and minutes, and
the seconds and microseconds only when they are not zero. -/
def offsetText (off : Int) : String :=
  let sign := if off < 0 then "-" else "+"
  let a := off.natAbs
  let secs := a / 1000000
  let us := a % 1000000
  let tail :=
    if secs % 60 == 0 && us == 0 then ""
    else ":" ++ pad2 (secs % 60) ++ (if us == 0 then "" else "." ++ pad6 us)
  sign ++ pad2 (secs / 3600) ++ ":" ++ pad2 (secs / 60 % 60) ++ tail

/-- A date-time written out with a space between date and time: the time to
the second, the microseconds when there are any, and the zone offset of an
aware date-time. -/
def DateTime.text (t : DateTime) : String :=
  let secs := t.micros / 1000000
  let us := t.micros % 1000000
  t.date.isoText ++ " " ++ pad2 (secs / 3600) ++ ":" ++ pad2 (secs / 60 % 60) ++ ":" ++
    pad2 (secs % 60) ++ (if us == 0 then "" else "." ++ pad6 us) ++
    (t.offset.map offsetText).getD ""

/-- A zone offset in microseconds as a duration in the constructor form: whole
days (negative for a negative offset), then seconds and microseconds within
the day, each only when not zero. -/
def durationForm (off : Int) : String :=
  let days := off.fdiv 86400000000
  let rest := (off - days * 86400000000).toNat
  let parts :=
    (if days == 0 then [] else ["days=" ++ Number.intText days]) ++
    (if rest / 1000000 == 0 then [] else ["seconds=" ++ Nat.repr (rest / 1000000)]) ++
    (if rest % 1000000 == 0 then [] else ["microseconds=" ++ Nat.repr (rest % 1000000)])
  "datetime.timedelta(" ++ (if parts.isEmpty then "0" else ", ".intercalate parts) ++ ")"

def CivilDate.constructorForm (d : CivilDate) : String :=
  "datetime.date(" ++ Number.intText d.year ++ ", " ++ Nat.repr d.month ++ ", " ++
    Nat.repr d.day ++ ")"

/-- A date-time in the constructor form: year to minute, then the second and
the microsecond while a later field is not zero, then the zone. -/
def DateTime.constructorForm (t : DateTime) : String :=
  let secs := t.micros / 1000000
  let us := t.micros % 1000000
  let clock := [secs / 3600, secs / 60 % 60] ++
    (if us != 0 then [secs % 60, us] else if secs % 60 != 0 then [secs % 60] else [])
  let fields := [Number.intText t.date.year, Nat.repr t.date.month, Nat.repr t.date.day] ++
    clock.map Nat.repr
  let zone := match t.offset with
    | none => ""
    | some 0 => ", tzinfo=datetime.timezone.utc"
    | some off => ", tzinfo=datetime.timezone(" ++ durationForm off ++ ")"
  "datetime.datetime(" ++ ", ".intercalate fields ++ zone ++ ")"

end FieldCalc.Calendar
