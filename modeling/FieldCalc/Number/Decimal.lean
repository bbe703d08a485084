import FieldCalc.Number.Binary
import FieldCalc.Number.Shortest
import FieldCalc.Text.Class

/-!
Decimal arithmetic with a working precision of 28 significant digits.

A decimal keeps its exponent, so `5.00` and `5` are distinct decimals of equal
value, and its text follows the scientific-string rules of the General Decimal
Arithmetic specification: positional while the exponent is not positive and
the value is not below `1e-6`, `1E+2` style otherwise.

Sums and quotients are exact when the exact result fits in 28 digits and are
rounded to 28 digits, a tie going to the even digit, when it does not.
Rounding to a fixed exponent (`quantize`) uses half away from zero and fails
when the result needs more than 28 digits.
-/

namespace FieldCalc

/-- A finite decimal `(-1)^neg · coeff · 10^exp`. -/
structure Decimal where
  neg : Bool
  coeff : Nat
  exp : Int
  deriving Repr, DecidableEq, Inhabited

/-- A decimal as read from text: finite, infinite or not a number. -/
inductive DecimalValue where
  | finite (d : Decimal)
  | infinite (neg : Bool)
  | notANumber (neg : Bool) (signaling : Bool) (payload : String)
  deriving Repr, DecidableEq

/-- Why a decimal operation has no result: the operation is invalid (a result
wider than the precision, a target exponent out of range), the result is
beyond the largest exponent, or a text to read is no decimal. -/
inductive DecimalSignal where
  | invalidOperation
  | overflow
  | conversionSyntax
  deriving Repr, DecidableEq

namespace Decimal

def precision : Nat := 28

def maxExponent : Int := 999999

def minExponent : Int := -999999

/-- The smallest exponent of any decimal: `minExponent - precision + 1`. -/
def tinyExponent : Int := minExponent - precision + 1

/-- The number of digits of the coefficient; zero has one digit. -/
def digitCount (d : Decimal) : Nat := Binary.decimalLength d.coeff

def adjusted (d : Decimal) : Int := d.exp + d.digitCount - 1

def ofInt (n : Int) : Decimal := ⟨n < 0, n.natAbs, 0⟩

def exact (d : Decimal) : Int × Nat :=
  let a : Nat := d.coeff * Nat.pow 10 d.exp.toNat
  let b : Nat := Nat.pow 10 (-d.exp).toNat
  (if d.neg then -(a : Int) else a, b)

/-- Exact comparison of values; the exponents and the sign of zero do not
matter. -/
def compareValue (x y : Decimal) : Ordering :=
  let (a, b) := x.exact
  let (c, e) := y.exact
  compare (a * e) (c * b)

def isIntegral (d : Decimal) : Bool :=
  0 ≤ d.exp || d.coeff % Nat.pow 10 (-d.exp).toNat == 0

def trunc (d : Decimal) : Int :=
  let q : Nat := if 0 ≤ d.exp then d.coeff * Nat.pow 10 d.exp.toNat else d.coeff / Nat.pow 10 (-d.exp).toNat
  if d.neg then -(q : Int) else q

def toFloat (d : Decimal) : Float :=
  if 0 ≤ d.exp then Binary.ofFraction d.neg (d.coeff * Nat.pow 10 d.exp.toNat) 1
  else Binary.ofFraction d.neg d.coeff (Nat.pow 10 (-d.exp).toNat)

/-- The fewest places `k` (up to `fuel`) by which a value `num / den` below one
must be scaled for its integer part to have `precision` digits. -/
def placesToPrecision (num den : Nat) (k fuel : Nat) : Nat :=
  match fuel with
  | 0 => k
  | fuel + 1 =>
    let whole := num * Nat.pow 10 k / den
    if whole != 0 && Binary.decimalLength whole ≥ precision then k
    else placesToPrecision num den (k + 1) fuel

/-- Round `±num / den · 10^exp` to at most `precision` digits, a tie going to
the even coefficient. A result that needs no rounding keeps `exp`. -/
def roundFraction (neg : Bool) (num den : Nat) (exp : Int) : Decimal :=
  if num % den == 0 && Binary.decimalLength (num / den) ≤ precision then
    ⟨neg, num / den, exp⟩
  else
    let whole := num / den
    let shift : Int :=
      if whole == 0 then
        -((placesToPrecision num den 0 (4 * precision + Binary.decimalLength den)) : Int)
      else (Binary.decimalLength whole : Int) - precision
    let (a, b) := if 0 ≤ shift then (num, den * Nat.pow 10 shift.toNat) else (num * Nat.pow 10 (-shift).toNat, den)
    let q := Binary.divRoundEven a b
    -- rounding up may carry into one more digit
    let (q, shift) := if Binary.decimalLength q > precision then (q / 10, shift + 1) else (q, shift)
    ⟨neg, q, exp + shift⟩

def add (x y : Decimal) : Decimal :=
  let e := min x.exp y.exp
  let a : Int := (x.coeff * Nat.pow 10 (x.exp - e).toNat : Nat)
  let b : Int := (y.coeff * Nat.pow 10 (y.exp - e).toNat : Nat)
  let s := (if x.neg then -a else a) + (if y.neg then -b else b)
  -- an exact zero is positive unless both terms are negative
  let neg := if s == 0 then x.neg && y.neg else s < 0
  roundFraction neg s.natAbs 1 e

/-- The sum of a list, starting from zero, in the working precision. -/
def sum (xs : List Decimal) : Decimal :=
  xs.foldl add ⟨false, 0, 0⟩

/-- The quotient by a positive count, in the working precision. An exact
quotient takes the exponent nearest to that of the dividend that it can
have; an inexact one has `precision` digits. -/
def divNat (x : Decimal) (n : Nat) : Decimal :=
  if x.coeff == 0 || n == 0 then ⟨x.neg, 0, x.exp⟩
  else
    let exact := (List.range (Nat.log2 n + 2)).find? fun k =>
      x.coeff * Nat.pow 10 k % n == 0 &&
        Binary.decimalLength (x.coeff * Nat.pow 10 k / n) ≤ precision
    match exact with
    | some k => ⟨x.neg, x.coeff * Nat.pow 10 k / n, x.exp - k⟩
    | none => roundFraction x.neg x.coeff n x.exp

/-- The largest shift `scaleb` accepts: twice the largest exponent plus the
precision. -/
def maxShift : Nat := 2 * (maxExponent.toNat + precision)

/-- `1 · 10^k`, the scale that `quantize` rounds to, or the signal raised
when the shift `k` is beyond `maxShift` or `10^k` is beyond the largest
exponent. A scale below the smallest exponent collapses to zero at that
exponent. -/
def unitScale (k : Int) : Except DecimalSignal Decimal :=
  if k.natAbs > maxShift then .error .invalidOperation
  else if k > maxExponent then .error .overflow
  else if k < tinyExponent then .ok ⟨false, 0, tinyExponent⟩
  else .ok ⟨false, 1, k⟩

/-- Round to the exponent of `scale`, a half going away from zero; invalid when
the target exponent is out of range or the result needs more than
`precision` digits. -/
def quantizeHalfUp (x scale : Decimal) : Except DecimalSignal Decimal :=
  let target := scale.exp
  if target > maxExponent || target < tinyExponent then .error .invalidOperation
  else if x.coeff == 0 then .ok ⟨x.neg, 0, target⟩
  else if (x.digitCount : Int) + (x.exp - target) > precision then .error .invalidOperation
  else if target ≤ x.exp then
    .ok ⟨x.neg, x.coeff * Nat.pow 10 (x.exp - target).toNat, target⟩
  else
    let d := Nat.pow 10 (target - x.exp).toNat
    let q := x.coeff / d
    let r := x.coeff % d
    let q := if 2 * r ≥ d then q + 1 else q
    if Binary.decimalLength q > precision then .error .invalidOperation
    else .ok ⟨x.neg, q, target⟩

/-- The scientific text of a decimal: positional when the exponent is not
positive and the leading digit is at most six places after the point,
`d.dddE±n` otherwise. -/
def toText (d : Decimal) : String :=
  let sign := if d.neg then "-" else ""
  let ds := Nat.repr d.coeff
  let n : Int := ds.length
  let left := d.exp + n
  let dot : Int := if d.exp ≤ 0 && left > -6 then left else 1
  let body :=
    if dot ≤ 0 then "0." ++ Binary.zeros (-dot).toNat ++ ds
    else if dot ≥ n then ds ++ Binary.zeros (dot - n).toNat
    else String.ofList (ds.toList.take dot.toNat) ++ "." ++ String.ofList (ds.toList.drop dot.toNat)
  let e := left - dot
  let tail := if e == 0 then "" else "E" ++ (if e < 0 then "-" else "+") ++ Nat.repr e.natAbs
  sign ++ body ++ tail

end Decimal

namespace DecimalValue

/-- The scientific text of a decimal value: `Infinity`, `NaN` and `sNaN` for
the special values. -/
def toText : DecimalValue → String
  | .finite d => d.toText
  | .infinite neg => (if neg then "-" else "") ++ "Infinity"
  | .notANumber neg signaling payload =>
    (if neg then "-" else "") ++ (if signaling then "sNaN" else "NaN") ++ payload

/-- The characters of a numeric text with surrounding white space removed,
digits of every script replaced by ASCII digits and underscores dropped;
`none` when another non-ASCII character remains. -/
def asciiDigits (s : String) : Option (List Char) :=
  let cs := s.toList.dropWhile Text.isSpace
  let cs := (cs.reverse.dropWhile Text.isSpace).reverse
  cs.filterMap (fun c => if c == '_' then none else some c) |>.mapM fun c =>
    if c.toNat < 128 then some c
    else (Text.decimalValue? c).map fun v => Char.ofNat (48 + v)

def digitsValue (ds : List Char) : Nat :=
  ds.foldl (fun acc c => 10 * acc + (c.toNat - 48)) 0

/-- Read a decimal: an optional sign, then digits with an optional point and
an optional exponent, or `Inf`, `Infinity`, `NaN` or `sNaN` in any case. -/
def ofText? (s : String) : Option DecimalValue := do
  let cs ← asciiDigits s
  let (neg, cs) := Text.splitSign cs
  let lower := String.ofList (cs.map Char.toLower)
  if lower == "inf" || lower == "infinity" then return .infinite neg
  if lower.startsWith "nan" || lower.startsWith "snan" then
    let signaling := lower.startsWith "s"
    let payload := cs.drop (if signaling then 4 else 3)
    if payload.all Char.isDigit then
      let p := payload.dropWhile (· == '0')
      return .notANumber neg signaling (String.ofList p)
    else none
  let intPart := cs.takeWhile Char.isDigit
  let rest := cs.dropWhile Char.isDigit
  let (fracPart, rest) := match rest with
    | '.' :: r => (r.takeWhile Char.isDigit, r.dropWhile Char.isDigit)
    | r => ([], r)
  if intPart.isEmpty && fracPart.isEmpty then none
  let expVal : Int ← match rest with
    | [] => some 0
    | e :: r =>
      if e == 'e' || e == 'E' then
        let (eneg, r) := Text.splitSign r
        if !r.isEmpty && r.all Char.isDigit then
          let v : Int := digitsValue r
          some (if eneg then -v else v)
        else none
      else none
  return .finite ⟨neg, digitsValue (intPart ++ fracPart), expVal - fracPart.length⟩

end DecimalValue

end FieldCalc
