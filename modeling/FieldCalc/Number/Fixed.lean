import FieldCalc.Number.Binary

/-!
Fixed-point text of floats.

A finite float is written with a fixed number of places after the point: its
exact binary value is rounded to that many decimal places, a tie going to
the even last digit. The integer part may be grouped by threes with commas.
Infinities are written `inf` and NaN `nan`.
-/

namespace FieldCalc.Binary

/-- Digits given from the last one, with a comma after every third one that
has more digits after it. -/
def groupReversed : List Char → List Char
  | a :: b :: c :: d :: rest => a :: b :: c :: ',' :: groupReversed (d :: rest)
  | ds => ds

/-- Digits of a natural number grouped by threes from the right with commas. -/
def groupThousands (n : Nat) : String :=
  String.ofList (groupReversed (Nat.repr n).toList.reverse).reverse

/-- The magnitude of a float with `places` decimal places, integer part
grouped by threes when `grouped`. -/
def fixedMagnitude (x : Float) (places : Nat) (grouped : Bool) : String :=
  match parts? x with
  | none => if x.isNaN then "nan" else "inf"
  | some p =>
    let (a, b) := p.exact
    let q := divRoundEven (a.natAbs * Nat.pow 10 places) b
    let whole := q / Nat.pow 10 places
    let frac := Nat.repr (q % Nat.pow 10 places)
    let wholeText := if grouped then groupThousands whole else Nat.repr whole
    if places == 0 then wholeText
    else wholeText ++ "." ++ String.ofList (List.replicate (places - frac.length) '0') ++ frac

end FieldCalc.Binary
