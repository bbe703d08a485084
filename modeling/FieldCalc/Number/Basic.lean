import FieldCalc.Number.Binary
import FieldCalc.Number.Shortest

/-!
Numbers of the formula language: exact integers of any size and binary64
floats.

Arithmetic on two integers is exact. When a float takes part, the integer is
first rounded to the nearest float, which fails for integers beyond the float
range; the float operation then rounds once. The quotient of two integers is
the float nearest to the exact quotient. Comparisons are always exact, also
between an integer and a float.
-/

namespace FieldCalc

/-- An exact integer or a binary64 float. -/
inductive Number where
  | int (n : Int)
  | float (x : Float)
  deriving Inhabited

/-- Why an arithmetic step has no number as its result. -/
inductive ArithFault where
  /-- An integer beyond the range of floats met a float. -/
  | intTooLarge
  /-- The quotient of two integers is beyond the range of floats. -/
  | quotientTooLarge
  /-- A result is beyond the range of floats. -/
  | rangeError
  /-- An operation is undefined at its arguments. -/
  | domainError
  /-- An infinite float was to become an integer. -/
  | infiniteToInt
  /-- A NaN was to become an integer. -/
  | nanToInt
  /-- A division or remainder by zero. -/
  | divisionByZero
  deriving Repr, DecidableEq

namespace ArithFault

def message : ArithFault → String
  | .intTooLarge => "int too large to convert to float"
  | .quotientTooLarge => "integer division result too large for a float"
  | .rangeError => "math range error"
  | .domainError => "math domain error"
  | .infiniteToInt => "cannot convert float infinity to integer"
  | .nanToInt => "cannot convert float NaN to integer"
  | .divisionByZero => "division by zero"

end ArithFault

namespace Number

/-- The float nearest to a number; an integer beyond the float range fails. -/
def toFloat : Number → Except ArithFault Float
  | .int n =>
    let x := Binary.ofInt n
    if x.isInf then .error .intTooLarge else .ok x
  | .float x => .ok x

/-- The exact integer below or at a float, by a rounding rule of its parts. -/
def floatToInt (rule : Binary.Parts → Int) (x : Float) : Except ArithFault Int :=
  match Binary.parts? x with
  | some p => .ok (rule p)
  | none => if x.isNaN then .error .nanToInt else .error .infiniteToInt

def trunc : Number → Except ArithFault Int
  | .int n => .ok n
  | .float x => floatToInt Binary.Parts.trunc x

def floor : Number → Except ArithFault Int
  | .int n => .ok n
  | .float x => floatToInt Binary.Parts.floor x

def ceil : Number → Except ArithFault Int
  | .int n => .ok n
  | .float x => floatToInt Binary.Parts.ceil x

/-- The nearest integer, a half going to the even neighbour. -/
def roundEven : Number → Except ArithFault Int
  | .int n => .ok n
  | .float x => floatToInt Binary.Parts.roundEven x

/-- Sum; exact for two integers. -/
def add : Number → Number → Except ArithFault Number
  | .int a, .int b => .ok (.int (a + b))
  | x, y => do return .float ((← x.toFloat) + (← y.toFloat))

/-- Difference; exact for two integers. -/
def sub : Number → Number → Except ArithFault Number
  | .int a, .int b => .ok (.int (a - b))
  | x, y => do return .float ((← x.toFloat) - (← y.toFloat))

/-- Product; exact for two integers. -/
def mul : Number → Number → Except ArithFault Number
  | .int a, .int b => .ok (.int (a * b))
  | x, y => do return .float ((← x.toFloat) * (← y.toFloat))

/-- Quotient as a float; for two integers the float nearest to the exact
quotient. -/
def div : Number → Number → Except ArithFault Number
  | .int _, .int 0 => .error .divisionByZero
  | .int a, .int b =>
    let q := Binary.ofFraction ((a < 0) != (b < 0)) a.natAbs b.natAbs
    if q.isInf then .error .quotientTooLarge else .ok (.float q)
  | x, y => do
    let fy ← y.toFloat
    let fx ← x.toFloat
    if fy == 0 then .error .divisionByZero
    return .float (fx / fy)

/-- The remainder with the sign of the dividend, `x - trunc(x / y) · y`, on
floats. -/
def fmod (x y : Number) : Except ArithFault Number := do
  let fx ← x.toFloat
  let fy ← y.toFloat
  match Binary.parts? fx, Binary.parts? fy with
  | some px, some py =>
    if py.mantissa == 0 then .error .domainError else return .float (px.fmod py)
  | some _, none => if fy.isNaN then return .float fy else return .float fx
  | none, _ => if fx.isNaN then return .float fx else .error .domainError

def neg : Number → Number
  | .int a => .int (-a)
  | .float x => .float (-x)

def abs : Number → Number
  | .int a => .int a.natAbs
  | .float x => .float (if Binary.signBit x then -x else x)

/-- Exact order of two finite numbers; a NaN or an infinity is ordered by its
float comparison with the other side's float. -/
def compare : Number → Number → Ordering
  | .int a, .int b => Ord.compare a b
  | .int a, .float y =>
    match Binary.parts? y with
    | some p => Binary.compareIntParts a p
    | none => if Binary.signBit y then .gt else .lt
  | .float x, .int b =>
    match Binary.parts? x with
    | some p => (Binary.compareIntParts b p).swap
    | none => if Binary.signBit x then .lt else .gt
  | .float x, .float y =>
    if x < y then .lt else if x == y then .eq else .gt

def eqv (x y : Number) : Bool := compare x y == .eq

def isZero : Number → Bool
  | .int a => a == 0
  | .float x => x == 0

def isNeg : Number → Bool
  | .int a => a < 0
  | .float x => x < 0

def intText (n : Int) : String := if n < 0 then "-" ++ Nat.repr n.natAbs else Nat.repr n.natAbs

/-- The text of a number: the digits of an integer, the shortest text of a
float. -/
def text : Number → String
  | .int n => intText n
  | .float x => Binary.text x

/-- The most decimal digits of an integer that is written as text or read
from it. -/
def maxStrDigits : Nat := 4300

/-- Whether the text of the number can be written: a float always, an integer
of at most `maxStrDigits` digits. -/
def fitsText : Number → Bool
  | .int n => (Nat.repr n.natAbs).length ≤ maxStrDigits
  | .float _ => true

/-- A float that is a whole number of magnitude below `2^53`, as an integer. -/
def exactInt? (x : Float) : Option Int :=
  match Binary.parts? x with
  | some p => if p.isIntegral && p.trunc.natAbs < Nat.pow 2 53 then some p.trunc else none
  | none => none

/-- The stored form of a number: a finite float that is a whole number below
`2^53` in magnitude becomes an integer; `none` for a non-finite float. -/
def normalize : Number → Option Number
  | .int n => some (.int n)
  | .float x =>
    if !x.isFinite then none
    else match exactInt? x with
      | some n => some (.int n)
      | none => some (.float x)

end Number

end FieldCalc
