import FieldCalc.Number.Binary
import FieldCalc.Text.Class

/-!
Reading a float from text.

The text may carry white space of any script around it and decimal digits of
any script; it is an optional sign followed by `inf`, `infinity` or `nan` in any
case, or by digits with an optional point and an optional exponent. An
underscore may stand between two digits. The value is the float nearest to
the decimal written, ties to even, so an exponent too large for a float gives
an infinity.
-/

namespace FieldCalc.Binary

/-- Text of a number with surrounding white space removed and the digits of
every script replaced by ASCII digits; `none` when another non-ASCII character
remains. -/
def asciiNumeral (s : String) : Option (List Char) :=
  let cs := s.toList.dropWhile Text.isSpace
  let cs := (cs.reverse.dropWhile Text.isSpace).reverse
  cs.mapM fun c =>
    if c.toNat < 128 then some c
    else (Text.decimalValue? c).map fun v => Char.ofNat (48 + v)

/-- A run of digits in which single underscores may separate digits: the
digits, and what follows the run. -/
def digitRun : List Char → List Char × List Char
  | c :: '_' :: d :: more =>
    if c.isDigit && d.isDigit then
      let (ds, r) := digitRun (d :: more)
      (c :: ds, r)
    else if c.isDigit then ([c], '_' :: d :: more)
    else ([], c :: '_' :: d :: more)
  | c :: rest =>
    if c.isDigit then
      let (ds, r) := digitRun rest
      (c :: ds, r)
    else ([], c :: rest)
  | [] => ([], [])

def digitValue (ds : List Char) : Nat :=
  ds.foldl (fun acc c => 10 * acc + (c.toNat - 48)) 0

/-- The characters an integer numeral is read from: white space of any script
around the text removed, digits of every script as ASCII digits, and the text
cut at the first other non-ASCII character, which stands as `?`. -/
def intChars (s : String) : List Char :=
  let cs := s.toList.dropWhile Text.isSpace
  mark ((cs.reverse.dropWhile Text.isSpace).reverse)
where
  mark : List Char → List Char
    | [] => []
    | c :: cs =>
      if c.toNat < 128 then c :: mark cs
      else match Text.decimalValue? c with
        | some v => Char.ofNat (48 + v) :: mark cs
        | none => ['?']

/-- The float written by a decimal numeral, or `none` when the text is not
one. -/
def readFloat? (s : String) : Option Float := do
  let cs ← asciiNumeral s
  let (neg, cs) := Text.splitSign cs
  let word := String.ofList (cs.map Char.toLower)
  if word == "inf" || word == "infinity" then return infinity neg
  if word == "nan" then return (0.0 / 0.0 : Float)
  let (intDigits, rest) := digitRun cs
  let (fracDigits, rest) := match rest with
    | '.' :: r => digitRun r
    | r => ([], r)
  if intDigits.isEmpty && fracDigits.isEmpty then none
  let e : Int ← match rest with
    | [] => some 0
    | c :: r =>
      if c == 'e' || c == 'E' then
        let (eneg, r) := Text.splitSign r
        let (eds, tail) := digitRun r
        if eds.isEmpty || !tail.isEmpty then none
        else some (if eneg then -(digitValue eds : Int) else digitValue eds)
      else none
  let mant := digitValue (intDigits ++ fracDigits)
  let e := e - fracDigits.length
  -- a huge exponent only decides between zero and infinity
  if mant == 0 then return zero neg
  if e > 400 then return infinity neg
  if e < -400 - (Nat.repr mant).length then return zero neg
  if 0 ≤ e then return ofFraction neg (mant * Nat.pow 10 e.toNat) 1
  return ofFraction neg mant (Nat.pow 10 (-e).toNat)

end FieldCalc.Binary
