import FieldCalc.Value

/-!
The operators of the formula language.

Arithmetic reads each operand as a number: numbers as they are, truth values
as 1 and 0, null as 0 and text that reads as a number; moments and lists are
refused. Moments take part in addition and subtraction only: a number of days
moves a moment (rounded to whole milliseconds, a half to the even one), and
the difference of two moments is a number of days. `&` joins display texts,
and so does `+` when either side is text.

Equality: null equals only null, two texts compare as text, two values with a
numeric reading compare by number, and other values by kind and payload.
Ordering: a null side makes every ordering false, two texts compare by code
points, anything else by numeric reading, which lists and text that is no
number do not have.
-/

namespace FieldCalc.Formula

def msPerDay : Int := 86400000

/-- A value read as a number for an operation named in the error. -/
def toNumber (v : Value) (operation : String) : Except Fault Number :=
  match v with
  | .number n => .ok n
  | .boolean b => .ok (.int (if b then 1 else 0))
  | .null => .ok (.int 0)
  | .string s =>
    match parseNumber? s with
    | some x => normalizeNumber (.float x)
    | none => .error (.type ("Cannot use text '" ++ s ++ "' in " ++ operation))
  | v => .error (.type ("Cannot use a " ++ v.kind.name ++ " in " ++ operation))

def toInteger (v : Value) (operation : String) : Except Fault Int := do
  match (← toNumber v operation).trunc with
  | .ok n => .ok n
  | .error e => .error (.arithmetic e)

def arith {α : Type} (x : Except ArithFault α) : Except Fault α :=
  match x with
  | .ok a => .ok a
  | .error e => .error (.arithmetic e)

/-- A moment moved by a number of days, rounded to whole milliseconds; the
moment it moves to must have a float reading. -/
def shiftDays (ms : Int) (days : Number) : Except Fault Value := do
  let delta ← match days with
    | .int d => pure (d * msPerDay)
    | .float x => arith (Number.roundEven (.float (x * 86400000.0)))
  let _ ← arith (Number.int (ms + delta)).toFloat
  return .timestamp (ms + delta)

/-- `+`: text joining when either side is text, moving a moment, or a sum. -/
def add (l r : Value) : Except Fault Value := do
  match l, r with
  | .string _, _ | _, .string _ => return .string ((← l.display) ++ (← r.display))
  | .timestamp _, .timestamp _ => .error (.type "Cannot add two dates")
  | .timestamp ms, _ => shiftDays ms (← toNumber r "date arithmetic")
  | _, .timestamp ms => shiftDays ms (← toNumber l "date arithmetic")
  | _, _ =>
    let a ← toNumber l "addition"
    let b ← toNumber r "addition"
    Value.ofNumber (← arith (a.add b))

/-- `-`: the days between two moments, moving a moment back, or a
difference. -/
def subtract (l r : Value) : Except Fault Value := do
  match l, r with
  | .timestamp a, .timestamp b => Value.ofNumber (← arith ((Number.int (a - b)).div (.int msPerDay)))
  | .timestamp ms, _ => shiftDays ms (← toNumber r "date arithmetic").neg
  | _, _ =>
    let a ← toNumber l "subtraction"
    let b ← toNumber r "subtraction"
    Value.ofNumber (← arith (a.sub b))

def multiply (l r : Value) : Except Fault Value := do
  let a ← toNumber l "multiplication"
  let b ← toNumber r "multiplication"
  Value.ofNumber (← arith (a.mul b))

/-- `/`; a zero divisor is a division by zero. -/
def divide (l r : Value) : Except Fault Value := do
  let a ← toNumber l "division"
  let b ← toNumber r "division"
  if b.isZero then .error (.formula .divisionByZero)
  Value.ofNumber (← arith (a.div b))

def remainder (l r : Value) : Except Fault Value := do
  let a ← toNumber l "modulo"
  let b ← toNumber r "modulo"
  if b.isZero then .error (.formula .divisionByZero)
  Value.ofNumber (← arith (a.fmod b))

/-- `^`: a power of floats; zero to a negative power is a division by zero, a
result that is no real number is refused, and one beyond the float range is
an arithmetic fault. -/
def power (base exponent : Value) : Except Fault Value := do
  let b ← toNumber base "exponentiation"
  let e ← toNumber exponent "exponentiation"
  if b.isZero && e.isNeg then .error (.formula .divisionByZero)
  let x ← arith b.toFloat
  let y ← arith e.toFloat
  let r := Float.pow x y
  if r.isNaN then .error (.type (b.text ++ " ^ " ++ e.text ++ " is not a real number"))
  if r.isInf then .error (.arithmetic .rangeError)
  Value.ofNumber (.float r)

def negate (v : Value) : Except Fault Value := do
  Value.ofNumber (← toNumber v "negation").neg

def concat (l r : Value) : Except Fault Value := do
  return .string ((← l.display) ++ (← r.display))

def valuesEqual (l r : Value) : Bool :=
  if l.isNull || r.isNull then l.isNull && r.isNull
  else match l, r with
    | .string a, .string b => a == b
    | _, _ =>
      let numeric := match l, r with
        | .list _, _ | _, .list _ => none
        | _, _ =>
          match l.asNumber?, r.asNumber? with
          | some a, some b => some (a.eqv b)
          | _, _ => none
      numeric.getD (l.same r)

def orderingKey (v : Value) (op : String) : Except Fault Number :=
  let key := match v with
    | .list _ => none
    | v => v.asNumber?
  match key with
  | some n => .ok n
  | none => do
    .error (.type ("Cannot compare " ++ v.kind.name ++ " '" ++ (← v.display) ++ "' with '" ++ op ++ "'"))

/-- The ordering comparisons `<`, `>`, `<=` and `>=`. -/
inductive Comparison where
  | lt
  | gt
  | le
  | ge
  deriving DecidableEq

def Comparison.symbol : Comparison → String
  | .lt => "<"
  | .gt => ">"
  | .le => "<="
  | .ge => ">="

/-- Whether an order between two sides satisfies a comparison. -/
def Comparison.holds (c : Comparison) (o : Ordering) : Bool :=
  match c with
  | .lt => o == .lt
  | .gt => o == .gt
  | .le => o != .gt
  | .ge => o != .lt

def compareValues (l r : Value) (c : Comparison) : Except Fault Bool :=
  if l.isNull || r.isNull then .ok false
  else match l, r with
    | .string a, .string b => .ok (c.holds (compare a b))
    | _, _ => do
      let a ← orderingKey l c.symbol
      let b ← orderingKey r c.symbol
      return c.holds (a.compare b)

end FieldCalc.Formula
