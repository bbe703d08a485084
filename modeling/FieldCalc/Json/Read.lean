import FieldCalc.Json.Basic
import FieldCalc.Number.Basic
import FieldCalc.Number.Read

/-!
Reading JSON documents.

The reader takes the strict grammar: white space is space, tab, newline and
carriage return; a string holds no raw control character; a number is an
optional minus, an integer part without leading zeros, an optional fraction
and an optional exponent. A number without fraction and exponent is an
integer of any size, any other number is the nearest float. The words `NaN`,
`Infinity` and `-Infinity` are read as those floats. A `\u` escape of a high
surrogate followed by one of a low surrogate is the character they encode; a
surrogate standing alone becomes U+FFFD.
-/

namespace FieldCalc.Json

def isBlank (c : Char) : Bool := c == ' ' || c == '\t' || c == '\n' || c == '\r'

def skipBlank (cs : List Char) : List Char := cs.dropWhile isBlank

def hexDigit? (c : Char) : Option Nat :=
  if c.isDigit then some (c.toNat - 48)
  else if 'a' ≤ c && c ≤ 'f' then some (c.toNat - 87)
  else if 'A' ≤ c && c ≤ 'F' then some (c.toNat - 55)
  else none

def unit? (a b c d : Char) : Option Nat := do
  return ((← hexDigit? a) * 16 + (← hexDigit? b)) * 256 + (← hexDigit? c) * 16 + (← hexDigit? d)

def escaped? (c : Char) : Option Char :=
  match c with
  | '"' => some '"'
  | '\\' => some '\\'
  | '/' => some '/'
  | 'b' => some (Char.ofNat 8)
  | 'f' => some (Char.ofNat 12)
  | 'n' => some '\n'
  | 'r' => some '\r'
  | 't' => some '\t'
  | _ => none

def isHighSurrogate (u : Nat) : Bool := 0xD800 ≤ u && u < 0xDC00

def isLowSurrogate (u : Nat) : Bool := 0xDC00 ≤ u && u < 0xE000

/-- The character of a unit that is no surrogate, or U+FFFD. -/
def unitChar (u : Nat) : Char :=
  if 0xD800 ≤ u && u < 0xE000 then Char.ofNat 0xFFFD else Char.ofNat u

/-- The body of a string after its opening quote, as code points with each
`\u` escape as its UTF-16 unit, and the text after the closing quote. -/
def readUnits : List Char → Option (List Nat × List Char)
  | [] => none
  | '"' :: rest => some ([], rest)
  | '\\' :: 'u' :: a :: b :: c :: d :: rest => do
    let u ← unit? a b c d
    let (body, after) ← readUnits rest
    return (u :: body, after)
  | '\\' :: e :: rest => do
    let c ← escaped? e
    let (body, after) ← readUnits rest
    return (c.toNat :: body, after)
  | c :: rest =>
    if c.toNat < 0x20 then none
    else do
      let (body, after) ← readUnits rest
      return (c.toNat :: body, after)

/-- Characters of code points in which a high surrogate followed by a low
one stands for the character they encode. -/
def joinSurrogates : List Nat → List Char
  | [] => []
  | u :: l :: more =>
    if isHighSurrogate u && isLowSurrogate l then
      Char.ofNat (0x10000 + (u - 0xD800) * 0x400 + (l - 0xDC00)) :: joinSurrogates more
    else unitChar u :: joinSurrogates (l :: more)
  | [u] => [unitChar u]

/-- The body of a string after its opening quote: its characters, and the
text after the closing quote. -/
def readString (cs : List Char) : Option (List Char × List Char) :=
  (readUnits cs).map fun (units, after) => (joinSurrogates units, after)

def digits (cs : List Char) : List Char × List Char := (cs.takeWhile Char.isDigit, cs.dropWhile Char.isDigit)

def readNumber (cs : List Char) : Option (Json × List Char) := do
  let (sign, cs) := match cs with
    | '-' :: r => (['-'], r)
    | r => ([], r)
  let (intPart, cs) ← match cs with
    | '0' :: r => some (['0'], r)
    | r =>
      let (ds, r) := digits r
      if ds.isEmpty then none else some (ds, r)
  let (frac, cs) ← match cs with
    | '.' :: r =>
      let (ds, r) := digits r
      if ds.isEmpty then none else some ('.' :: ds, r)
    | r => some ([], r)
  let (expo, cs) ← match cs with
    | e :: r =>
      if e == 'e' || e == 'E' then
        let (s, r) := match r with
          | '+' :: t => (['+'], t)
          | '-' :: t => (['-'], t)
          | t => ([], t)
        let (ds, r) := digits r
        if ds.isEmpty then none else some (e :: s ++ ds, r)
      else some ([], e :: r)
    | [] => some ([], [])
  if frac.isEmpty && expo.isEmpty then
    if intPart.length > Number.maxStrDigits then none
    let n : Int := Binary.digitValue intPart
    return (.int (if sign.isEmpty then n else -n), cs)
  let x ← Binary.readFloat? (String.ofList (sign ++ intPart ++ frac ++ expo))
  return (.float x, cs)

/-- Whether a text starts with a word; the rest after it. -/
def word? (w : String) (cs : List Char) : Option (List Char) :=
  if w.toList.isPrefixOf cs then some (cs.drop w.length) else none

mutual

/-- A document after optional white space; `fuel` bounds the nesting. -/
def readValue : Nat → List Char → Option (Json × List Char)
  | 0, _ => none
  | fuel + 1, cs =>
    match skipBlank cs with
    | '{' :: rest =>
      match skipBlank rest with
      | '}' :: more => some (.obj [], more)
      | _ => readMembers fuel [] rest
    | '[' :: rest =>
      match skipBlank rest with
      | ']' :: more => some (.arr [], more)
      | _ => readItems fuel [] rest
    | '"' :: rest => (readString rest).map fun (body, after) => (.str (String.ofList body), after)
    | cs =>
      match word? "true" cs, word? "false" cs, word? "null" cs with
      | some r, _, _ => some (.bool true, r)
      | _, some r, _ => some (.bool false, r)
      | _, _, some r => some (.null, r)
      | _, _, _ =>
        match word? "NaN" cs, word? "Infinity" cs, word? "-Infinity" cs with
        | some r, _, _ => some (.float (0.0 / 0.0), r)
        | _, some r, _ => some (.float (Binary.infinity false), r)
        | _, _, some r => some (.float (Binary.infinity true), r)
        | _, _, _ => readNumber cs

/-- The items of an array after `[` or a comma, through the closing `]`. -/
def readItems : Nat → List Json → List Char → Option (Json × List Char)
  | 0, _, _ => none
  | fuel + 1, acc, cs => do
    let (v, rest) ← readValue fuel cs
    match skipBlank rest with
    | ',' :: more => readItems fuel (v :: acc) more
    | ']' :: more => some (.arr (v :: acc).reverse, more)
    | _ => none

/-- The members of an object after `{` or a comma, through the closing `}`. -/
def readMembers : Nat → List (String × Json) → List Char → Option (Json × List Char)
  | 0, _, _ => none
  | fuel + 1, acc, cs => do
    let (key, rest) ← match skipBlank cs with
      | '"' :: r => readString r
      | _ => none
    let rest ← match skipBlank rest with
      | ':' :: r => some r
      | _ => none
    let (v, rest) ← readValue fuel rest
    let acc := (String.ofList key, v) :: acc
    match skipBlank rest with
    | ',' :: more => readMembers fuel acc more
    | '}' :: more => some (.obj acc.reverse, more)
    | _ => none

end

def parse? (s : String) : Option Json := do
  let cs := s.toList
  let (v, rest) ← readValue (2 * cs.length + 2) cs
  if (skipBlank rest).isEmpty then some v else none

end FieldCalc.Json
