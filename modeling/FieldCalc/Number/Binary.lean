/-!
Exact views of binary64 floating-point numbers.

A finite float is `(-1)^s · m · 2^e` with a 53-bit significand `m`; `Float.ofBits`
and `Float.toBits` move between a float and its IEEE 754 encoding. This module
reads that encoding exactly and builds the float nearest to a ratio of
naturals, ties to the even significand, which is the rounding of every
conversion into binary64 that the library performs: from integers, from
decimal text and from quotients of integers.
-/

namespace FieldCalc.Binary

/-- The exact value of a finite float: sign, significand and binary exponent. -/
structure Parts where
  neg : Bool
  mantissa : Nat
  exp : Int
  deriving Repr, DecidableEq

def biasedExp (x : Float) : Nat := ((x.toBits >>> 52) &&& 0x7FF).toNat

def fraction (x : Float) : Nat := (x.toBits &&& 0xFFFFFFFFFFFFF).toNat

def signBit (x : Float) : Bool := (x.toBits >>> 63) == 1

/-- The exact value of a finite float; `none` for infinities and NaN. -/
def parts? (x : Float) : Option Parts :=
  let b := biasedExp x
  if b == 0x7FF then none
  else if b == 0 then some ⟨signBit x, fraction x, -1074⟩
  else some ⟨signBit x, fraction x + Nat.pow 2 52, (b : Int) - 1075⟩

def zero (neg : Bool) : Float := Float.ofBits (if neg then 0x8000000000000000 else 0)

def infinity (neg : Bool) : Float :=
  Float.ofBits (if neg then 0xFFF0000000000000 else 0x7FF0000000000000)

/-- The float with the given sign, biased exponent and fraction fields. -/
def assemble (neg : Bool) (biased fraction : Nat) : Float :=
  Float.ofBits (UInt64.ofNat ((if neg then Nat.pow 2 63 else 0) + biased * Nat.pow 2 52 + fraction))

/-- Division of naturals rounded to the nearest integer, a tie going to the
even quotient. -/
def divRoundEven (n d : Nat) : Nat :=
  let q := n / d
  let r := n % d
  if 2 * r < d then q
  else if 2 * r > d then q + 1
  else if q % 2 == 0 then q else q + 1

/-- Multiplication by a power of two with an integer exponent, as a ratio
`num / den`. -/
def scaleFraction (num den : Nat) (e : Int) : Nat × Nat :=
  if 0 ≤ e then (num * Nat.pow 2 e.toNat, den) else (num, den * Nat.pow 2 (-e).toNat)

/-- The binary exponent `e` with `2^52 ≤ num / den · 2^(-e) < 2^53`, found
from the bit lengths and corrected by exact comparison. -/
def normalExponent (num den : Nat) : Int :=
  let guess : Int := (Nat.log2 num : Int) - (Nat.log2 den : Int) - 52
  -- `num / den` lies in `[2^(k-1), 2^(k+1))` for `k = log2 num - log2 den`
  let below (e : Int) : Bool :=
    let (a, b) := scaleFraction num den (-e)
    a < b * Nat.pow 2 52
  let atLeast (e : Int) : Bool :=
    let (a, b) := scaleFraction num den (-e)
    a ≥ b * Nat.pow 2 53
  if below guess then guess - 1
  else if atLeast guess then guess + 1
  else guess

/-- The float nearest to `±num / den`, ties to even; a value beyond the largest
finite float becomes an infinity and a value below the smallest subnormal
rounds to zero or to it. -/
def ofFraction (neg : Bool) (num den : Nat) : Float :=
  if num == 0 || den == 0 then zero neg
  else
    let e := max (normalExponent num den) (-1074)
    let (a, b) := scaleFraction num den (-e)
    let q := divRoundEven a b
    -- rounding up may carry into the next binade
    let (q, e) := if q == Nat.pow 2 53 then (Nat.pow 2 52, e + 1) else (q, e)
    if e > 971 then infinity neg
    else if q < Nat.pow 2 52 then assemble neg 0 q
    else assemble neg (e + 1075).toNat (q - Nat.pow 2 52)

def ofInt (n : Int) : Float := ofFraction (n < 0) n.natAbs 1

def Parts.exact (p : Parts) : Int × Nat :=
  let (a, b) := scaleFraction p.mantissa 1 p.exp
  (if p.neg then -(a : Int) else a, b)

/-- The integer part of a finite float, rounding toward zero. -/
def Parts.trunc (p : Parts) : Int :=
  let (a, b) := scaleFraction p.mantissa 1 p.exp
  let q : Int := (a / b : Nat)
  if p.neg then -q else q

def Parts.floor (p : Parts) : Int :=
  let (a, b) := scaleFraction p.mantissa 1 p.exp
  if p.neg then -(((a + b - 1) / b : Nat) : Int) else (a / b : Nat)

def Parts.ceil (p : Parts) : Int :=
  let (a, b) := scaleFraction p.mantissa 1 p.exp
  if p.neg then -((a / b : Nat) : Int) else ((a + b - 1) / b : Nat)

/-- The integer nearest to a finite float, a half going to the even one. -/
def Parts.roundEven (p : Parts) : Int :=
  let fl := p.floor
  let (a, b) := p.exact
  let twice := 2 * (a - fl * b)
  if twice < b then fl
  else if twice > b then fl + 1
  else if fl % 2 == 0 then fl else fl + 1

def Parts.isIntegral (p : Parts) : Bool :=
  let (a, b) := scaleFraction p.mantissa 1 p.exp
  a % b == 0

/-- Exact comparison of an integer with the value of finite parts. -/
def compareIntParts (n : Int) (p : Parts) : Ordering :=
  let (a, b) := p.exact
  compare (n * b) a

def compareParts (p q : Parts) : Ordering :=
  let (a, b) := p.exact
  let (c, d) := q.exact
  compare (a * d) (c * b)

/-- The remainder of `x` by `y` whose sign is that of `x` and whose magnitude
is below that of `y`: `x - trunc(x / y) · y`, computed exactly. It is always
a float, so no rounding takes place. -/
def Parts.fmod (x y : Parts) : Float :=
  let e := min x.exp y.exp
  let a := x.mantissa * Nat.pow 2 (x.exp - e).toNat
  let b := y.mantissa * Nat.pow 2 (y.exp - e).toNat
  let r := if b == 0 then a else a % b
  let (num, den) := scaleFraction r 1 e
  ofFraction x.neg num den

end FieldCalc.Binary
