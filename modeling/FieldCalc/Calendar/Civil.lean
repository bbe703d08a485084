import FieldCalc.Number.Binary

/-!
The proleptic Gregorian calendar on UTC days and moments.

`CivilDate.toDay` and `CivilDate.ofDay` convert between a day number (days since
1970-01-01, negative before it) and a year, month and day; years are
astronomical, so the year before 1 is 0.

A moment given in epoch milliseconds is split into calendar fields the way a
C `gmtime` split of the seconds does: the milliseconds become a float count of
seconds, the fraction is rounded to microseconds (a half to the even
microsecond), and the whole seconds must fit a signed 64-bit count and give a
year that fits a 32-bit field. Only years 1 to 9999 make a moment that can be
shown.

A stored date-time is an `Instant`, the microseconds since the epoch; its
milliseconds are read back through float seconds (`Instant.millis`).
-/

namespace FieldCalc.Calendar

def msPerDay : Nat := 86400000

/-- A calendar date. -/
structure CivilDate where
  year : Int
  month : Nat
  day : Nat
  deriving Repr, DecidableEq

/-- Whether a year is a leap year of the Gregorian calendar. -/
def isLeap (y : Int) : Bool := (y % 4 == 0 && y % 100 != 0) || y % 400 == 0

def daysInMonth (y : Int) (m : Nat) : Nat :=
  match m with
  | 1 | 3 | 5 | 7 | 8 | 10 | 12 => 31
  | 4 | 6 | 9 | 11 => 30
  | 2 => if isLeap y then 29 else 28
  | _ => 0

/-- Whether year, month and day form a date of years 1 to 9999. -/
def CivilDate.isValid (d : CivilDate) : Bool :=
  1 ≤ d.year && d.year ≤ 9999 && 1 ≤ d.month && d.month ≤ 12 &&
    1 ≤ d.day && d.day ≤ daysInMonth d.year d.month

/-- Days since 1970-01-01 of a date: the count of whole 400-year eras, years
within the era (counted from March, so the leap day ends a year) and days
within the year. -/
def CivilDate.toDay (d : CivilDate) : Int :=
  let y : Int := if d.month ≤ 2 then d.year - 1 else d.year
  let era := y.fdiv 400
  let yoe := y - era * 400
  let m : Int := d.month
  let mp : Int := if m > 2 then m - 3 else m + 9
  let doy := (153 * mp + 2) / 5 + (d.day : Int) - 1
  let doe := yoe * 365 + yoe / 4 - yoe / 100 + doy
  era * 146097 + doe - 719468

def CivilDate.ofDay (z : Int) : CivilDate :=
  let z := z + 719468
  let era := z.fdiv 146097
  let doe := z - era * 146097
  let yoe := (doe - doe / 1460 + doe / 36524 - doe / 146096) / 365
  let y := yoe + era * 400
  let doy := doe - (365 * yoe + yoe / 4 - yoe / 100)
  let mp := (5 * doy + 2) / 153
  let d := doy - (153 * mp + 2) / 5 + 1
  let m := if mp < 10 then mp + 3 else mp - 9
  ⟨if m ≤ 2 then y + 1 else y, m.toNat, d.toNat⟩

/-- Day of the week of a day number, 0 for Monday to 6 for Sunday. -/
def mondayWeekday (z : Int) : Nat := ((z + 3) % 7).toNat

/-- A moment split into UTC calendar fields. -/
structure Moment where
  date : CivilDate
  hour : Nat
  minute : Nat
  second : Nat
  micro : Nat
  /-- The day number of `date`. -/
  dayNumber : Int
  deriving Repr

/-- Why a moment in milliseconds cannot be split into calendar fields. -/
inductive MomentFault where
  /-- The milliseconds are too many for a float count of seconds. -/
  | quotientTooLarge
  /-- The seconds do not fit a signed 64-bit count. -/
  | outOfTimeRange
  /-- The year does not fit a 32-bit field. -/
  | yearOverflow
  /-- The year is outside 1 to 9999. -/
  | yearOutOfRange (year : Int)
  deriving Repr, DecidableEq

/-- Split whole seconds since the epoch into calendar fields, with the year
checked to fit a 32-bit field and to lie in 1 to 9999. -/
def Moment.ofSeconds (t : Int) (micro : Nat) : Except MomentFault Moment :=
  let days := t.fdiv 86400
  let secs := (t - days * 86400).toNat
  let date := CivilDate.ofDay days
  if date.year - 1900 > 2147483647 || date.year - 1900 < -2147483648 then
    .error .yearOverflow
  else if date.year < 1 || date.year > 9999 then .error (.yearOutOfRange date.year)
  else .ok ⟨date, secs / 3600, secs % 3600 / 60, secs % 60, micro, days⟩

/-- Split epoch milliseconds: seconds as the float nearest to `ms / 1000`, its
fraction rounded to microseconds, a half to the even one. -/
def Moment.ofMillis (ms : Int) : Except MomentFault Moment :=
  let q := Binary.ofFraction (ms < 0) ms.natAbs 1000
  if q.isInf then .error .quotientTooLarge
  else
    match Binary.parts? q with
    | none => .error .outOfTimeRange
    | some p =>
      let whole := p.trunc
      -- the fraction q - whole, scaled to microseconds in float arithmetic
      let frac := q - Binary.ofInt whole
      let scaled := frac * 1000000.0
      let rounded : Int := match Binary.parts? scaled with
        | some s => s.roundEven
        | none => 0
      let (whole, micro) :=
        if rounded ≥ 1000000 then (whole + 1, rounded - 1000000)
        else if rounded < 0 then (whole - 1, rounded + 1000000)
        else (whole, rounded)
      if whole < -(Nat.pow 2 63 : Int) || whole ≥ Nat.pow 2 63 then .error .outOfTimeRange
      else Moment.ofSeconds whole micro.toNat

/-- An aware date-time, as the microseconds since the epoch it stands for. -/
structure Instant where
  micros : Int
  deriving Repr, DecidableEq

def Moment.instant (m : Moment) : Instant :=
  ⟨m.dayNumber * 86400000000 + (((m.hour * 3600 + m.minute * 60 + m.second) * 1000000 + m.micro : Nat) : Int)⟩

/-- Epoch milliseconds of an instant: its microseconds become float seconds,
which are multiplied by 1000 and rounded to the nearest integer, a half to the
even one. -/
def Instant.millis (t : Instant) : Int :=
  let seconds := Binary.ofFraction (t.micros < 0) t.micros.natAbs 1000000
  let scaled := seconds * 1000.0
  match Binary.parts? scaled with
  | some p => p.roundEven
  | none => 0

def pad2 (n : Nat) : String := if n < 10 then "0" ++ Nat.repr n else Nat.repr n

def pad4 (y : Int) : String :=
  let s := Nat.repr y.natAbs
  let s := String.ofList (List.replicate (4 - s.length) '0') ++ s
  if y < 0 then "-" ++ s else s

def CivilDate.isoText (d : CivilDate) : String :=
  pad4 d.year ++ "-" ++ pad2 d.month ++ "-" ++ pad2 d.day

def Moment.zuluText (m : Moment) : String :=
  (if m.date.year < 0 then "-" else "") ++ Nat.repr m.date.year.natAbs ++ "-" ++
    pad2 m.date.month ++ "-" ++ pad2 m.date.day ++ "T" ++ pad2 m.hour ++ ":" ++
    pad2 m.minute ++ ":" ++ pad2 m.second ++ "Z"

end FieldCalc.Calendar
