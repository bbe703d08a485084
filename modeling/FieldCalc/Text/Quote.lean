import FieldCalc.Text.Class

/-!
Trimming and quoting text.

`trim` removes white space of every script from both ends. `quote` writes a
text between single quotes, or between double quotes when it holds a single
quote and no double quote, with backslash escapes for the backslash, the
chosen quote, tab, newline, carriage return and every character that is not
printable.
-/

namespace FieldCalc.Text

def trim (s : String) : String :=
  let cs := s.toList.dropWhile isSpace
  String.ofList (cs.reverse.dropWhile isSpace).reverse

def isBlank (s : String) : Bool := s.toList.all isSpace

/-- Lower-case hexadecimal digits of a number, padded to a width. -/
def hexPadded (n width : Nat) : String :=
  let ds := Nat.toDigits 16 n
  String.ofList (List.replicate (width - ds.length) '0' ++ ds)

def escapeChar (q : Char) (c : Char) : String :=
  if c == '\\' then "\\\\"
  else if c == q then "\\" ++ c.toString
  else if c == '\t' then "\\t"
  else if c == '\n' then "\\n"
  else if c == '\r' then "\\r"
  else if c.toNat < 32 || c.toNat == 127 then "\\x" ++ hexPadded c.toNat 2
  else if c.toNat < 128 || isPrintable c then c.toString
  else if c.toNat < 0x100 then "\\x" ++ hexPadded c.toNat 2
  else if c.toNat < 0x10000 then "\\u" ++ hexPadded c.toNat 4
  else "\\U" ++ hexPadded c.toNat 8

/-- A text between quotes with escapes, as it is shown in messages. -/
def quote (s : String) : String :=
  let q := if s.contains '\'' && !s.contains '"' then '"' else '\''
  q.toString ++ String.join (s.toList.map (escapeChar q)) ++ q.toString

end FieldCalc.Text
