import FieldCalc.Value

/-!
Plain data handed to the library from outside, and how it becomes a value.

A datum is nothing, a truth value, an integer, a float of any kind (also
infinite or NaN), a decimal, a text, a list of data, a calendar day, a moment
or a value that is already typed. `Datum.toValue` types it: a number is
normalized and must be finite, a day or a moment becomes a timestamp and a
list becomes a list of the texts of its items. `Datum.toTimestamp` reads a datum that stands for a moment given
in milliseconds.
-/

namespace FieldCalc

/-- Plain data from outside the library. -/
inductive Datum where
  | none
  | bool (b : Bool)
  | int (n : Int)
  | float (x : Float)
  | decimal (d : DecimalValue)
  | text (s : String)
  | list (items : List Datum)
  /-- A calendar day, standing for its UTC midnight. -/
  | day (date : Calendar.CivilDate)
  /-- A date-time as it was read; without a zone it is taken as UTC. -/
  | moment (stamp : Calendar.DateTime)
  /-- A value that is already typed. -/
  | value (v : Value)
  deriving Inhabited

namespace Datum

mutual
/-- The text of a datum as an item of a list: `None`, `True`, `False`,
numbers by their text, texts as they are, nested lists in brackets. -/
def itemText : Datum → Except Fault String
  | .none => .ok "None"
  | .bool b => .ok (if b then "True" else "False")
  | .int n => if (Number.int n).fitsText then .ok (Number.intText n) else .error .digitLimit
  | .float x => .ok (Binary.text x)
  | .decimal d => .ok d.toText
  | .text s => .ok s
  | .list xs => do return "[" ++ ", ".intercalate (← quotedItems xs) ++ "]"
  | .day d => .ok d.isoText
  | .moment t => .ok t.text
  | .value v => v.display

/-- The texts of the items of a nested list, in the form that reads back as
the item: texts quoted, decimals, days, date-times and typed moments in their
constructor forms. -/
def quotedItems : List Datum → Except Fault (List String)
  | [] => .ok []
  | d :: ds => do
    let t ← match d with
      | .text s => pure (Text.quote s)
      | .decimal d => pure ("Decimal('" ++ d.toText ++ "')")
      | .day d => pure d.constructorForm
      | .moment t => pure t.constructorForm
      | .value (.timestamp ms) =>
        if (Number.int ms).fitsText then
          pure ("TypedValue(kind=<ValueKind.TIMESTAMP: 'timestamp'>, value=" ++ Number.intText ms ++ ")")
        else .error .digitLimit
      | d => itemText d
    return t :: (← quotedItems ds)
end

def toValue : Datum → Except Fault Value
  | .none => .ok .null
  | .bool b => .ok (.boolean b)
  | .int n => .ok (.number (.int n))
  | .float x => Value.ofNumber (.float x)
  | .decimal d => return .number (← normalizeDecimal d)
  | .text s => .ok (.string s)
  | .list xs => return .list (← xs.mapM itemText)
  | .day d => .ok (.timestamp d.toMillis)
  | .moment t => .ok (.timestamp t.millis)
  | .value v => .ok v

/-- The text of a datum in a message about it: texts quoted, other data by
their text. -/
def shown : Datum → String
  | .text s => Text.quote s
  | .decimal d => "Decimal(" ++ Text.quote d.toText ++ ")"
  | d => match d.itemText with
    | .ok t => t
    | .error _ => ""

/-- A moment given in milliseconds. The datum is first read as a float,
which must be finite, and then cut to a whole number: an integer as it is
(one too large for a float fails), a float or decimal to its integer part,
and a text that reads as a finite float must also be a whole numeral. Truth
values are no moment; lists and typed values have no float reading. -/
def toTimestamp (d : Datum) : Except Fault Int :=
  let invalid : Except Fault Int := .error (.type ("Invalid timestamp: " ++ d.shown))
  match d with
  | .int n => if (Binary.ofInt n).isInf then .error (.arithmetic .intTooLarge) else .ok n
  | .day d => .ok d.toMillis
  | .moment t => .ok t.millis
  | .float x =>
    match Binary.parts? x with
    | some p => .ok p.trunc
    | Option.none => invalid
  | .decimal (.finite x) => if x.toFloat.isFinite then .ok x.trunc else invalid
  | .decimal (.notANumber _ true _) => .error .signalingNaN
  | .decimal _ => invalid
  | .text s =>
    match Binary.readFloat? s with
    | Option.none => .error (.badFloat s)
    | some x =>
      if !x.isFinite then invalid
      else readInt s
  | .list _ => .error (.notReal "list")
  | .value _ => .error (.notReal "TypedValue")
  | .none => .error (.notReal "NoneType")
  | .bool _ => invalid

/-- A finite float a datum stands for: numbers as the nearest float, other
data by their text; `none` for nothing, truth values, days and moments, whose
texts are no numbers, and what does not read as a finite number. A signaling
decimal NaN has no float reading at all. -/
def parseNumber : Datum → Except Fault (Option Float)
  | .none | .bool _ | .day _ | .moment _ => .ok Option.none
  | .int n =>
    match (Number.int n).toFloat with
    | .ok x => .ok (some x)
    | .error e => .error (.arithmetic e)
  | .float x => .ok (if x.isFinite then some x else Option.none)
  | .decimal (.finite d) =>
    let x := d.toFloat
    .ok (if x.isFinite then some x else Option.none)
  | .decimal (.notANumber _ true _) => .error .signalingNaN
  | .decimal _ => .ok Option.none
  | d => return parseNumber? (← d.itemText)

/-- The moment a datum stands for, in milliseconds: an integer or a moment as
it is, other data by their text; `none` for nothing and truth values. -/
def parseTimestamp : Datum → Except Fault (Option Int)
  | .none | .bool _ => .ok Option.none
  | .int n => .ok (some n)
  | .day d => .ok (some d.toMillis)
  | .moment t => .ok (some t.millis)
  | d => do parseTimestamp? (← d.itemText)

/-- The stored form of a number given as data; truth values are refused, and
text is read as a float, a text that reads as no finite float being named as
it was given. -/
def normalize : Datum → Except Fault Number
  | .bool _ => .error (.type "Boolean is not a number")
  | .int n => .ok (.int n)
  | .float x => normalizeNumber (.float x)
  | .decimal d => normalizeDecimal d
  | .text s =>
    match Binary.readFloat? s with
    | some x =>
      if x.isFinite then normalizeNumber (.float x)
      else .error (.type ("Number out of range: " ++ s))
    | Option.none => .error (.badFloat s)
  | .none => .error (.notReal "NoneType")
  | .list _ => .error (.notReal "list")
  | .day _ => .error (.notReal "datetime.date")
  | .moment _ => .error (.notReal "datetime.datetime")
  | .value _ => .error (.notReal "TypedValue")

end Datum

end FieldCalc
