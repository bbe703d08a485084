import FieldCalc.Number.Binary

/-!
The shortest decimal form of a binary64 float and the text written from it.

Every finite float is the nearest float to all reals of an interval around it.
Its shortest form is the decimal with the fewest significant digits inside that
interval, and of two such decimals the nearer one (a tie goes to the even
digit string). `digits?` searches the grids of 1 to 17 significant digits in
exact arithmetic; a grid has a point in the interval exactly when one of the
two grid neighbours of the float is in it.

`Float.text` writes the shortest form positionally when the decimal point falls
within the first sixteen digits and at most four places before them, and in
exponent form (`1e+16`, `1.5e-07`) otherwise; a whole number keeps `.0`.
-/

namespace FieldCalc.Binary

def compareScaled (a : Nat) (p q : Int) (b : Nat) : Ordering :=
  let l := a * Nat.pow 2 p.toNat * Nat.pow 10 q.toNat
  let r := b * Nat.pow 2 (-p).toNat * Nat.pow 10 (-q).toNat
  compare l r

/-- Shortest decimal digits of a positive finite value: `(digits, k)` with the
value read back as `digits · 10^k`. -/
structure Shortest where
  digits : Nat
  exp : Int
  deriving Repr, DecidableEq

def decimalLength (n : Nat) : Nat := (Nat.repr n).length

def decimalMagnitude (m : Nat) (e : Int) : Int :=
  -- estimate from the bit length, then correct by exact comparison
  let bits : Int := (Nat.log2 m : Int) + e
  let guess : Int := (bits * 30103).fdiv 100000
  let atLeastPow (k : Int) : Bool :=
    compareScaled m e (-k) 1 != .lt
  let g1 := if atLeastPow guess then guess else guess - 1
  let g2 := if atLeastPow (g1 + 1) then g1 + 1 else g1
  if atLeastPow (g2 + 1) then g2 + 1 else g2

def stripZeros (d : Nat) (k : Int) (fuel : Nat) : Nat × Int :=
  match fuel with
  | 0 => (d, k)
  | fuel + 1 =>
    if d != 0 && d % 10 == 0 then stripZeros (d / 10) (k + 1) fuel else (d, k)

/-- The shortest decimal inside the rounding interval of `m · 2^e`, where the
interval reaches `lowGap / 4 · 2^e` below and `2^e / 2` above, its ends
included when `m` is even. -/
def shortestOf (m : Nat) (e : Int) (lowGap : Nat) : Shortest :=
  let inclusive := m % 2 == 0
  let lo := 4 * m - lowGap
  let hi := 4 * m + 2
  let inside (d : Nat) (k : Int) : Bool :=
    let cl := compareScaled d (2 - e) k lo
    let ch := compareScaled d (2 - e) k hi
    (cl == .gt || (inclusive && cl == .eq)) && (ch == .lt || (inclusive && ch == .eq))
  let mag := decimalMagnitude m e
  let rec search (n : Nat) (fuel : Nat) : Shortest :=
    match fuel with
    | 0 => ⟨m, 0⟩
    | fuel + 1 =>
      let k : Int := mag - n + 1
      let num := m * Nat.pow 2 e.toNat * Nat.pow 10 (-k).toNat
      let den := Nat.pow 2 (-e).toNat * Nat.pow 10 k.toNat
      let below := num / den
      let above := below + 1
      let inBelow := below != 0 && inside below k
      let inAbove := inside above k
      if inBelow && inAbove then
        -- the nearer neighbour; a tie goes to the even one
        let c := compareScaled (2 * below + 1) (-e) k (2 * m)
        let (d, kk) := match c with
          | .lt => stripZeros above k 20
          | .gt => stripZeros below k 20
          | .eq => if below % 2 == 0 then stripZeros below k 20 else stripZeros above k 20
        ⟨d, kk⟩
      else if inBelow then
        let (d, kk) := stripZeros below k 20
        ⟨d, kk⟩
      else if inAbove then
        let (d, kk) := stripZeros above k 20
        ⟨d, kk⟩
      else search (n + 1) fuel
  search 1 17

/-- Shortest digits of the magnitude of finite nonzero parts. -/
def Parts.shortest (p : Parts) : Shortest :=
  -- at a power of two the interval below is half as wide
  let lowGap := if p.mantissa == Nat.pow 2 52 && p.exp > -1074 then 1 else 2
  shortestOf p.mantissa p.exp lowGap

def zeros (n : Nat) : String := String.ofList (List.replicate n '0')

/-- Text of a float: the shortest digits, positional when the decimal point
lies at most sixteen digits after the first digit and at most four places
before it, in exponent form otherwise; `inf`, `-inf` and `nan` for the
non-finite values. -/
def text (x : Float) : String :=
  match parts? x with
  | none => if x.isNaN then "nan" else if signBit x then "-inf" else "inf"
  | some p =>
    let sign := if p.neg then "-" else ""
    if p.mantissa == 0 then sign ++ "0.0"
    else
      let s := p.shortest
      let ds := Nat.repr s.digits
      let n := ds.length
      let point : Int := s.exp + n
      if point ≤ -4 || point > 16 then
        let mant := if n == 1 then ds else String.ofList (ds.toList.take 1) ++ "." ++ String.ofList (ds.toList.drop 1)
        let e := point - 1
        let eText := Nat.repr e.natAbs
        let eText := if eText.length < 2 then "0" ++ eText else eText
        sign ++ mant ++ "e" ++ (if e < 0 then "-" else "+") ++ eText
      else if point ≤ 0 then
        sign ++ "0." ++ zeros (-point).toNat ++ ds
      else if point ≥ n then
        sign ++ ds ++ zeros (point.toNat - n) ++ ".0"
      else
        sign ++ String.ofList (ds.toList.take point.toNat) ++ "." ++
          String.ofList (ds.toList.drop point.toNat)

end FieldCalc.Binary
