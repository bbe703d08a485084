import FieldCalc.Fault
import FieldCalc.Number.Read
import FieldCalc.Calendar.Iso
import FieldCalc.Text.Quote

/-!
Values of fields and formulas.

A value is text, a number, a truth value, a moment (epoch milliseconds, UTC),
a list of texts or null. Numbers are stored normalized: a float that is a whole
number below `2^53` in magnitude is stored as that integer, and no value holds
an infinite or NaN float.

Each value has a display text: numbers by `formatNumber`, truth values as
`TRUE`/`FALSE`, moments as a date at midnight and as a UTC date-time
otherwise, lists joined by a comma and a space, null as the empty text.
Text reads as a number when it is a decimal numeral (white space around it
allowed, no underscores), and as a moment when it is a count of milliseconds,
an ISO date or an ISO date-time.
-/

namespace FieldCalc

/-- The kinds of values. -/
inductive Kind where
  | string
  | number
  | boolean
  | timestamp
  | list
  | null
  deriving Repr, DecidableEq

def Kind.name : Kind → String
  | .string => "string"
  | .number => "number"
  | .boolean => "boolean"
  | .timestamp => "timestamp"
  | .list => "list"
  | .null => "null"

/-- A value of a field or a formula. -/
inductive Value where
  | string (s : String)
  | number (n : Number)
  | boolean (b : Bool)
  | timestamp (ms : Int)
  | list (items : List String)
  | null
  deriving Inhabited

/-- Two numbers of the same form and payload: integers by value, floats by
their encoding. -/
def Number.same : Number → Number → Bool
  | .int a, .int b => a == b
  | .float x, .float y => x.toBits == y.toBits
  | _, _ => false

namespace Value

def kind : Value → Kind
  | .string _ => .string
  | .number _ => .number
  | .boolean _ => .boolean
  | .timestamp _ => .timestamp
  | .list _ => .list
  | .null => .null

def isNull : Value → Bool
  | .null => true
  | _ => false

def isEmpty : Value → Bool
  | .null => true
  | .string s => s.isEmpty
  | .list xs => xs.isEmpty
  | _ => false

/-- Truth of a value: false for null, false, zero, the empty text and the
empty list; true otherwise, for every moment. -/
def isTruthy : Value → Bool
  | .null => false
  | .boolean b => b
  | .number n => !n.isZero
  | .string s => !s.isEmpty
  | .list xs => !xs.isEmpty
  | .timestamp _ => true

def same : Value → Value → Bool
  | .string a, .string b => a == b
  | .number a, .number b => a.same b
  | .boolean a, .boolean b => a == b
  | .timestamp a, .timestamp b => a == b
  | .list a, .list b => a == b
  | .null, .null => true
  | _, _ => false

end Value

/-- A finite float read from text: white space around it is allowed,
underscores are not; `none` for other text and for infinities and NaN. -/
def parseNumber? (s : String) : Option Float :=
  let t := Text.trim s
  if t.isEmpty || t.contains '_' then none
  else match Binary.readFloat? t with
    | some x => if x.isFinite then some x else none
    | none => none

/-- The stored form of a number; a non-finite float is out of range. -/
def normalizeNumber (n : Number) : Except Fault Number :=
  match n.normalize with
  | some m => .ok m
  | none => .error (.type ("Number out of range: " ++ n.text))

/-- The stored form of a decimal: an integer when it is a whole number below
`2^53` in magnitude, the nearest float otherwise. -/
def normalizeDecimal (d : DecimalValue) : Except Fault Number :=
  match d with
  | .finite x =>
    if x.isIntegral && x.trunc.natAbs < Nat.pow 2 53 then .ok (.int x.trunc)
    else
      let f := x.toFloat
      if !f.isFinite then .error (.type ("Number out of range: " ++ d.toText))
      else match Number.exactInt? f with
        | some n => .ok (.int n)
        | none => .ok (.float f)
  | _ => .error (.type ("Number out of range: " ++ d.toText))

/-- The decimal written by the text of a number: the digits of an integer,
the shortest text of a float. -/
def Number.toDecimal : Number → Decimal
  | .int n => Decimal.ofInt n
  | .float x =>
    match DecimalValue.ofText? (Binary.text x) with
    | some (.finite d) => d
    | _ => ⟨false, 0, 0⟩

/-- The decimal of the text of a number, which cannot be written for an
integer of more than `Number.maxStrDigits` digits. -/
def Number.decimalOfText (n : Number) : Except Fault Decimal :=
  if n.fitsText then .ok n.toDecimal else .error .digitLimit

def Value.ofNumber (n : Number) : Except Fault Value :=
  return .number (← normalizeNumber n)

/-- Text of a number: an integer in digits, a float that is a whole number
below `2^53` as that integer, any other float by its shortest text. -/
def formatNumber : Number → String
  | .int n => Number.intText n
  | .float x =>
    match Number.exactInt? x with
    | some n => Number.intText n
    | none => Binary.text x

/-- Text of a moment: `YYYY-MM-DD` at UTC midnight, `Y-MM-DDTHH:MM:SSZ`
otherwise; a moment outside years 1 to 9999 has no text. -/
def formatTimestamp (ms : Int) : Except Fault String :=
  match Calendar.Moment.ofMillis ms with
  | .error e => .error (.moment e)
  | .ok m =>
    if ms % (Calendar.msPerDay : Int) == 0 then .ok m.date.isoText else .ok m.zuluText

namespace Value

def display : Value → Except Fault String
  | .null => .ok ""
  | .string s => .ok s
  | .number n => if n.fitsText then .ok (formatNumber n) else .error .digitLimit
  | .boolean b => .ok (if b then "TRUE" else "FALSE")
  | .timestamp ms => formatTimestamp ms
  | .list xs => .ok (", ".intercalate xs)

/-- A numeric reading of a value: numbers and moments as they are, truth
values as 1 and 0, text that reads as a number; `none` otherwise. -/
def asNumber? : Value → Option Number
  | .number n => some n
  | .timestamp ms => some (.int ms)
  | .boolean b => some (.int (if b then 1 else 0))
  | .string s =>
    match parseNumber? s with
    | some x => (Number.float x).normalize
    | none => none
  | _ => none

end Value

/-- The whole number an integer numeral writes: an optional sign and decimal
digits of any script in which single underscores may separate digits. The
digits are counted before what follows them is looked at, and more than
`Number.maxStrDigits` of them are refused. -/
def readInt (s : String) : Except Fault Int :=
  let (neg, cs) := Text.splitSign (Binary.intChars s)
  let (ds, rest) := Binary.digitRun cs
  if ds.isEmpty || rest.head? == some '_' then .error (.badInteger s)
  else if ds.length > Number.maxStrDigits then .error (.tooManyDigits ds.length)
  else if rest.isEmpty then
    let n : Int := Binary.digitValue ds
    .ok (if neg then -n else n)
  else .error (.badInteger s)

/-- The text with each `Z` written as the zone offset `+00:00`. -/
def zuluAsOffset (s : String) : String :=
  String.ofList (s.toList.flatMap fun c => if c = 'Z' then ['+', '0', '0', ':', '0', '0'] else [c])

/-- A moment read from text: an optionally negative count of milliseconds, an
ISO date (UTC midnight) or an ISO date-time (UTC when it has no zone; `Z`
means UTC). Text of digits that is no whole number, such as `--5` or a
superscript digit, is a fault, and so are more than `Number.maxStrDigits`
digits. -/
def parseTimestamp? (s : String) : Except Fault (Option Int) :=
  let t := Text.trim s
  if t.isEmpty then .ok none
  else
    let unsigned := String.ofList (t.toList.dropWhile (· == '-'))
    if !unsigned.isEmpty && unsigned.toList.all Text.isDigit then
      return some (← readInt t)
    else
      match Calendar.readDate? t with
      | some d => .ok (some d.toMillis)
      | none =>
        match Calendar.readDateTime? (zuluAsOffset t) with
        | some (d, micros, off) => .ok (some (Calendar.dateTimeMillis d micros off))
        | none => .ok none

end FieldCalc
