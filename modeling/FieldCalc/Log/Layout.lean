import FieldCalc.Log
import FieldCalc.Number.Basic

/-!
Console layouts of log records.

A layout is a text with conversions in it, read the way `%`-formatting reads
a format over a mapping. A conversion is `%(key)` followed by flags (`-`,
`+`, a blank, `#`, `0`), a width, a precision after a dot, an ignored length
letter (`h`, `l`, `L`) and a conversion letter; `%%` is a percent sign. The
key names an attribute of the record:

* its logger `name`, its level as `levelname` and `levelno`, its `message`,
  and the template and arguments of the message as `msg` and `args`;
* the place of the call as `module`, `filename`, `funcName` and `lineno`;
* the names `processName` and `threadName` of the main process and thread,
  and `exc_info`, `exc_text` and `stack_info`, which are empty;
* every extra field of the record.

The attributes that depend on the running process (the time of the record,
the process and thread numbers and the path of the module) are not known
here.

The conversion letter says how the attribute is written: `s`, `r` and `a` as
text, plain, quoted, or quoted with every character outside ASCII escaped;
`c` as one character; `d`, `i`, `u`, `o`, `x` and `X` as an integer in base
ten, eight or sixteen; `e`, `f` and `g` (and their capitals) as a float in
exponent, fixed or general notation. A layout that cannot be filled for a
record leaves that record out: a key the record lacks, a conversion that
does not fit the attribute, a `*` width or precision, a conversion without a
key, or a layout that ends inside a conversion.

A layout is accepted at setup when some conversion in it has a key of word
characters and a conversion letter, in either case.
-/

namespace FieldCalc.Layout

/-- An attribute of a record as a conversion sees it. -/
inductive Attr where
  | text (s : String)
  | int (n : Int)
  | truth (b : Bool)
  | nothing
  /-- A tuple of texts. -/
  | texts (items : List String)

/-- A tuple of texts as it is shown: quoted items, with a comma after a
single item. -/
def tupleText : List String → String
  | [x] => "(" ++ Text.quote x ++ ",)"
  | xs => "(" ++ ", ".intercalate (xs.map Text.quote) ++ ")"

def Attr.plain : Attr → String
  | .text s => s
  | .int n => Number.intText n
  | .truth b => if b then "True" else "False"
  | .nothing => "None"
  | .texts items => tupleText items

/-- The quoted text of an attribute: a text in quotes with escapes, any
other attribute as its plain text. -/
def Attr.shown : Attr → String
  | .text s => Text.quote s
  | a => a.plain

def asciiChar (c : Char) : String :=
  if c.toNat < 0x80 then c.toString
  else if c.toNat < 0x100 then "\\x" ++ Text.hexPadded c.toNat 2
  else if c.toNat < 0x10000 then "\\u" ++ Text.hexPadded c.toNat 4
  else "\\U" ++ Text.hexPadded c.toNat 8

/-- The quoted text of an attribute with every character outside ASCII
escaped. -/
def Attr.ascii (a : Attr) : String := String.join (a.shown.toList.map asciiChar)

/-- The integer of an attribute that is a number; a truth value counts as
one or zero. -/
def Attr.integer? : Attr → Option Int
  | .int n => some n
  | .truth b => some (if b then 1 else 0)
  | _ => none

/-- The flags, width and precision of a conversion. -/
structure Spec where
  /-- `-`: pad on the right. -/
  left : Bool := false
  /-- `+`: a plus sign before a number that is not negative. -/
  plus : Bool := false
  /-- A blank: a space before a number that is not negative. -/
  blank : Bool := false
  /-- `#`: the alternate form. -/
  alt : Bool := false
  /-- `0`: pad numbers with zeros. -/
  zero : Bool := false
  width : Nat := 0
  precision : Option Nat := none

/-- A piece of a layout: a character of text, a percent sign, or the
conversion of a keyed attribute. -/
inductive Piece where
  | char (c : Char)
  | percent
  | field (key : String) (spec : Spec) (letter : Char)

/-- The key of a conversion after its opening bracket: the text up to the
bracket that closes it, with the brackets inside it balanced, and the rest. -/
def readKey (depth : Nat) (acc : List Char) : List Char → Option (String × List Char)
  | [] => none
  | ')' :: rest =>
    if depth == 0 then some (String.ofList acc.reverse, rest)
    else readKey (depth - 1) (')' :: acc) rest
  | '(' :: rest => readKey (depth + 1) ('(' :: acc) rest
  | c :: rest => readKey depth (c :: acc) rest

def readFlags (s : Spec) : List Char → Spec × List Char
  | '-' :: rest => readFlags { s with left := true } rest
  | '+' :: rest => readFlags { s with plus := true } rest
  | ' ' :: rest => readFlags { s with blank := true } rest
  | '#' :: rest => readFlags { s with alt := true } rest
  | '0' :: rest => readFlags { s with zero := true } rest
  | cs => (s, cs)

def isAsciiDigit (c : Char) : Bool := '0' ≤ c && c ≤ '9'

def readCount (acc : Nat) : List Char → Nat × List Char
  | c :: rest => if isAsciiDigit c then readCount (10 * acc + (c.toNat - 48)) rest else (acc, c :: rest)
  | [] => (acc, [])

/-- The width of a conversion and the rest. A `*` takes the width from the
attribute, which leaves none for the conversion, so it fails. -/
def readWidth (s : Spec) : List Char → Option (Spec × List Char)
  | '*' :: _ => none
  | c :: rest =>
    if isAsciiDigit c then
      let (w, r) := readCount 0 (c :: rest)
      some ({ s with width := w }, r)
    else some (s, c :: rest)
  | [] => some (s, [])

/-- The precision of a conversion and the rest; a dot without digits is a
precision of zero, and a `*` fails as it does for the width. -/
def readPrecision (s : Spec) : List Char → Option (Spec × List Char)
  | '.' :: '*' :: _ => none
  | '.' :: rest =>
    let (p, r) := readCount 0 rest
    some ({ s with precision := some p }, r)
  | r => some (s, r)

def skipLength : List Char → List Char
  | 'h' :: r | 'l' :: r | 'L' :: r => r
  | r => r

/-- The width, precision, length letter and conversion letter after the
flags, or none when the layout ends first. -/
def readRest (s : Spec) (cs : List Char) : Option (Spec × Char × List Char) := do
  let (s, cs) ← readWidth s cs
  let (s, cs) ← readPrecision s cs
  match skipLength cs with
  | letter :: rest => some (s, letter, rest)
  | [] => none

/-- The pieces of a layout; `fuel` bounds the pieces read. -/
def pieces : Nat → List Char → Option (List Piece)
  | _, [] => some []
  | 0, _ => none
  | fuel + 1, '%' :: '%' :: rest => (Piece.percent :: ·) <$> pieces fuel rest
  | fuel + 1, '%' :: '(' :: rest => do
    let (key, rest) ← readKey 0 [] rest
    let (spec, rest) := readFlags {} rest
    let (spec, letter, rest) ← readRest spec rest
    (Piece.field key spec letter :: ·) <$> pieces fuel rest
  | _, '%' :: _ => none
  | fuel + 1, c :: rest => (Piece.char c :: ·) <$> pieces fuel rest

/-- The pieces of a layout, or none when it ends inside a conversion or has
a conversion without a key. -/
def parse (layout : String) : Option (List Piece) :=
  pieces (layout.length + 1) layout.toList

def spaces (n : Nat) : String := String.ofList (List.replicate n ' ')

def padText (s : Spec) (t : String) : String :=
  let gap := s.width - t.length
  if s.left then t ++ spaces gap else spaces gap ++ t

def cut (s : Spec) (t : String) : String :=
  match s.precision with
  | some p => String.ofList (t.toList.take p)
  | none => t

/-- A number laid out with its sign, its prefix and its digits: a minus sign
for a negative number, otherwise a plus sign or a space when the flags ask
for one; padded on the right, with zeros after the prefix, or with spaces in
front. -/
def padNumber (s : Spec) (negative : Bool) (pre body : String) : String :=
  let sign := if negative then "-" else if s.plus then "+" else if s.blank then " " else ""
  let core := sign ++ pre ++ body
  let gap := s.width - core.length
  if s.left then core ++ spaces gap
  else if s.zero then sign ++ pre ++ String.ofList (List.replicate gap '0') ++ body
  else spaces gap ++ core

/-- Digits of a number padded with zeros to at least a count. -/
def padDigits (digits : List Char) (count : Nat) : String :=
  String.ofList (List.replicate (count - digits.length) '0' ++ digits)

/-- The integer conversions: the digits of the magnitude in the base of the
letter, at least as many as the precision, behind the prefix of the
alternate form. -/
def integerText (s : Spec) (letter : Char) (n : Int) : String :=
  let base := if letter == 'o' then 8 else if letter == 'd' || letter == 'i' || letter == 'u' then 10 else 16
  let digits := Nat.toDigits base n.natAbs
  let digits := if letter == 'X' then digits.map Char.toUpper else digits
  let pre := if s.alt && base != 10 then "0" ++ (if letter == 'o' then "o" else letter.toString) else ""
  padNumber s (n < 0) pre (padDigits digits (s.precision.getD 1))

/-- A whole number rounded to `n` significant digits, a half to the even
digit: the digits as a number below `10 ^ n`, and the power of ten of the
first digit. -/
def roundSignificant (m n : Nat) : Nat × Nat :=
  let k := (Nat.toDigits 10 m).length
  if m == 0 then (0, 0)
  else if k ≤ n then (m * Nat.pow 10 (n - k), k - 1)
  else
    let unit := Nat.pow 10 (k - n)
    let q := m / unit
    let r := m % unit
    let q := if 2 * r > unit || (2 * r == unit && q % 2 == 1) then q + 1 else q
    if q == Nat.pow 10 n then (Nat.pow 10 (n - 1), k) else (q, k - 1)

/-- The exponent of a float text: a sign and at least two digits. -/
def exponentText (e : Nat) : String := "+" ++ padDigits (Nat.toDigits 10 e) 2

/-- Digits before and after the point: the point is written when there are
digits after it or the alternate form asks for it. -/
def pointed (alt : Bool) (whole frac : List Char) : String :=
  String.ofList whole ++ (if frac.isEmpty && !alt then "" else "." ++ String.ofList frac)

/-- The float conversions of a whole number `m`: fixed notation with the
precision in decimals, exponent notation with the precision in decimals
after the first digit, and general notation with the precision as the count
of significant digits, in fixed notation when the exponent is below it and
without trailing zeros unless the alternate form keeps them. -/
def floatText (s : Spec) (letter : Char) (m : Nat) : String :=
  let p := s.precision.getD 6
  let e := if letter.isUpper then "E" else "e"
  match letter.toLower with
  | 'f' => pointed s.alt (Nat.toDigits 10 m) (List.replicate p '0')
  | 'e' =>
    let (q, x) := roundSignificant m (p + 1)
    let ds := (padDigits (Nat.toDigits 10 q) (p + 1)).toList
    pointed s.alt (ds.take 1) (ds.drop 1) ++ e ++ exponentText x
  | _ =>
    let p := if p == 0 then 1 else p
    let (q, x) := roundSignificant m p
    let ds := (padDigits (Nat.toDigits 10 q) p).toList
    let trim := fun (frac : List Char) => if s.alt then frac else (frac.reverse.dropWhile (· == '0')).reverse
    if x < p then pointed s.alt (ds.take (x + 1)) (trim (ds.drop (x + 1)))
    else pointed s.alt (ds.take 1) (trim (ds.drop 1)) ++ e ++ exponentText x

/-- The float nearest to an integer, as the integer it is; none when it is
beyond the float range. -/
def nearestFloat (n : Int) : Option Int := (Binary.parts? (Binary.ofInt n)).map (·.trunc)

/-- The character of a conversion `c`: of a code point below `0x110000` that
is no surrogate, or of a text of one character. -/
def charOf? : Attr → Option Char
  | .text s => match s.toList with
    | [c] => some c
    | _ => none
  | a => do
    let n ← a.integer?
    if 0 ≤ n && n < 0x110000 && !(0xD800 ≤ n && n < 0xE000) then some (Char.ofNat n.toNat) else none

/-- One attribute written by a conversion, or none when the conversion does
not fit it. -/
def convert (s : Spec) (letter : Char) (a : Attr) : Option String :=
  match letter with
  | 's' => some (padText s (cut s a.plain))
  | 'r' => some (padText s (cut s a.shown))
  | 'a' => some (padText s (cut s a.ascii))
  | 'c' => (charOf? a).map fun c => padText s c.toString
  | 'd' | 'i' | 'u' | 'o' | 'x' | 'X' => (a.integer?).map (integerText s letter)
  | 'e' | 'E' | 'f' | 'F' | 'g' | 'G' => do
    let m ← nearestFloat (← a.integer?)
    some (padNumber s (m < 0) "" (floatText s letter m.natAbs))
  | _ => none

/-- The layout filled with attributes, or none when some conversion cannot
be written. -/
def fill (attr? : String → Option Attr) : List Piece → Option String
  | [] => some ""
  | .char c :: rest => (c.toString ++ ·) <$> fill attr? rest
  | .percent :: rest => ("%" ++ ·) <$> fill attr? rest
  | .field key s letter :: rest => do
    let a ← attr? key
    let t ← convert s letter a
    (t ++ ·) <$> fill attr? rest

/-- Whether a character may stand in a key the setup accepts: a letter, a
digit or an underscore. -/
def isKeyChar (c : Char) : Bool := Text.isWordChar c

/-- Whether a character is a conversion letter in either case; the dotted
and dotless `i` and the long `s` match their letters when case is ignored. -/
def isLetterAnyCase (c : Char) : Bool :=
  "diouxefgcrsa%".toList.contains c.toLower ||
    c.toNat == 0x130 || c.toNat == 0x131 || c.toNat == 0x17F

/-- Whether a text starts with the rest of an accepted conversion after its
key: flags, a width of digits or `*`, a precision, and a conversion letter. -/
def acceptsTail (cs : List Char) : Bool :=
  let cs := cs.dropWhile fun c => c == '#' || c == '0' || c == '+' || c == ' ' || c == '-'
  let cs := match cs with
    | '*' :: r => r
    | r => r.dropWhile Text.isDecimal
  let cs := match cs with
    | '.' :: '*' :: r => r
    | '.' :: r =>
      let ds := r.takeWhile Text.isDecimal
      if ds.isEmpty then '.' :: r else r.drop ds.length
    | r => r
  match cs with
  | c :: _ => isLetterAnyCase c
  | [] => false

/-- Whether a text starts with an accepted conversion: `%(`, a key of one or
more word characters, `)` and an accepted tail. -/
def acceptsAt : List Char → Bool
  | '%' :: '(' :: rest =>
    let key := rest.takeWhile isKeyChar
    match rest.drop key.length with
    | ')' :: tail => !key.isEmpty && acceptsTail tail
    | _ => false
  | _ => false

/-- Whether setup accepts a layout: some conversion in it is accepted. -/
def accepts (layout : String) : Bool :=
  let rec go : List Char → Bool
    | [] => false
    | c :: rest => acceptsAt (c :: rest) || go rest
  go layout.toList

end FieldCalc.Layout
