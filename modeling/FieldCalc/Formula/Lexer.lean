import FieldCalc.Formula.Expr
import FieldCalc.Number.Read
import FieldCalc.Text.Class
import FieldCalc.Text.Case
import FieldCalc.Text.Quote

/-!
Tokens of the formula language and the contextual lexer that reads them.

Which tokens are recognised at a point depends on what the grammar allows
there, and that follows from the token before it:

* at the start of an expression (the start, after `(`, `,`, `AND`, `OR` and
  `NOT`) an operand or `NOT`; after the `(` of a call also `)`;
* after a binary operator or a sign, an operand only, so `NOT` there is a
  function name;
* after an operand, an operator, `AND`, `OR`, `)` or `,`, so `ORANGE` there is
  `OR` followed by the name `ANGE`;
* after a function name, only `(`.

Operands are tried in a fixed order: `TRUE`/`FALSE` and `NULL`/`BLANK` when
no word character follows, then field references, texts, numbers and names.
The keywords and the name characters are matched without regard to case.
Spaces, tabs, form feeds, carriage returns and newlines separate tokens.
-/

namespace FieldCalc.Formula

/-- A token of a formula. -/
inductive Token where
  | number (n : Number)
  | string (s : String)
  | boolean (b : Bool)
  | null
  | fieldRef (name : String)
  | name (text : String)
  | kwAnd
  | kwOr
  | kwNot
  /-- A binary operator other than `+` and `-`. -/
  | op (o : BinOp)
  | plus
  | minus
  | lparen
  | rparen
  | comma
  deriving Inhabited

/-- A token and the code-point index where it starts. -/
structure Lexeme where
  token : Token
  pos : Nat
  deriving Inhabited

/-- What the grammar allows at a point of a formula. -/
inductive Expect where
  /-- The start of an expression: an operand or `NOT`. -/
  | expression
  /-- The start of the arguments of a call: an operand, `NOT` or `)`. -/
  | arguments
  /-- After an operator or a sign: an operand. -/
  | operand
  /-- After an operand: an operator, a keyword, `)` or `,`. -/
  | afterOperand
  /-- After a function name: `(`. -/
  | openParen
  deriving DecidableEq

/-- What the grammar allows after a token; a `(` opens the arguments of a
call when a name stands before it. -/
def Expect.after (prev : Option Token) (t : Token) : Expect :=
  match t with
  | .number _ | .string _ | .boolean _ | .null | .fieldRef _ | .rparen => .afterOperand
  | .name _ => .openParen
  | .lparen => match prev with
    | some (.name _) => .arguments
    | _ => .expression
  | .comma | .kwAnd | .kwOr | .kwNot => .expression
  | .op _ | .plus | .minus => .operand

def isSeparator (c : Char) : Bool :=
  c == ' ' || c == '\t' || c == '\x0c' || c == '\r' || c == '\n'

/-- Characters that count as the ASCII letter `l` when case is ignored: its
two cases, the dotted capital and the dotless small i for `i`, the long s for
`s` and the Kelvin sign for `k`. -/
def matchesLetter (l : Char) (c : Char) : Bool :=
  c.toLower == l.toLower ||
    (l.toLower == 'i' && (c.toNat == 0x130 || c.toNat == 0x131)) ||
    (l.toLower == 's' && c.toNat == 0x17F) || (l.toLower == 'k' && c.toNat == 0x212A)

/-- Whether a text starts with a word, ignoring case; the rest after it. -/
def matchWord (w : List Char) (cs : List Char) : Option (List Char) :=
  match w, cs with
  | [], rest => some rest
  | l :: ls, c :: rest => if matchesLetter l c then matchWord ls rest else none
  | _ :: _, [] => none

def matchKeyword (w : String) (cs : List Char) : Option (List Char) :=
  match matchWord w.toList cs with
  | some rest =>
    match rest with
    | c :: _ => if Text.isWordChar c then none else some rest
    | [] => some rest
  | none => none

/-- Letters of a function name: ASCII letters and the underscore, and the
characters that match an ASCII letter when case is ignored. -/
def isNameStart (c : Char) : Bool :=
  c.isAlpha || c == '_' || c.toNat == 0x130 || c.toNat == 0x131 || c.toNat == 0x17F ||
    c.toNat == 0x212A

def isNameChar (c : Char) : Bool := isNameStart c || c.isDigit

/-- A text literal between quotes `q`: its body up to the closing quote, a
backslash taking the next character (other than a newline) with it. -/
def scanQuoted (q : Char) : List Char → Option (List Char × List Char)
  | [] => none
  | c :: rest =>
    if c == q then some ([], rest)
    else if c == '\\' then
      match rest with
      | d :: more =>
        if d == '\n' then none
        else (scanQuoted q more).map fun (body, r) => (c :: d :: body, r)
      | [] => none
    else (scanQuoted q rest).map fun (body, r) => (c :: body, r)

/-- The body of a text literal with its escapes decoded: `\n`, `\t` and `\r`
stand for newline, tab and carriage return, a backslash before any other
character for that character. -/
def unescape : List Char → List Char
  | '\\' :: c :: rest =>
    (if c == 'n' then '\n' else if c == 't' then '\t' else if c == 'r' then '\r' else c) ::
      unescape rest
  | c :: rest => c :: unescape rest
  | [] => []

/-- A field reference `{{name}}` or `{name}`, the name without braces; the
name is not empty and holds no brace. -/
def scanFieldRef (cs : List Char) : Option (List Char × List Char) :=
  let body (r : List Char) := r.takeWhile (fun c => c != '{' && c != '}')
  match cs with
  | '{' :: '{' :: r =>
    let b := body r
    match r.drop b.length with
    | '}' :: '}' :: rest => if b.isEmpty then none else some (b, rest)
    | _ => scanSingle cs
  | _ => scanSingle cs
where
  scanSingle (cs : List Char) : Option (List Char × List Char) :=
    match cs with
    | '{' :: r =>
      let b := r.takeWhile (fun c => c != '{' && c != '}')
      match r.drop b.length with
      | '}' :: rest => if b.isEmpty then none else some (b, rest)
      | _ => none
    | _ => none

/-- A number literal: digits with an optional point and more digits, or a
point and digits; then an optional exponent. Digits of every script count. -/
def scanNumber (cs : List Char) : Option (List Char × List Char) :=
  let digit := Text.isDecimal
  let mantissa : Option (List Char × List Char) :=
    let ds := cs.takeWhile digit
    if !ds.isEmpty then
      let r := cs.drop ds.length
      match r with
      | '.' :: r2 =>
        let fs := r2.takeWhile digit
        some (ds ++ '.' :: fs, r2.drop fs.length)
      | _ => some (ds, r)
    else match cs with
      | '.' :: r =>
        let fs := r.takeWhile digit
        if fs.isEmpty then none else some ('.' :: fs, r.drop fs.length)
      | _ => none
  mantissa.map fun (m, r) =>
    match r with
    | e :: r2 =>
      if e == 'e' || e == 'E' then
        let (sign, r3) := match r2 with
          | '+' :: t => (['+'], t)
          | '-' :: t => (['-'], t)
          | t => ([], t)
        let es := r3.takeWhile digit
        if es.isEmpty then (m, r) else (m ++ e :: sign ++ es, r3.drop es.length)
      else (m, r)
    | [] => (m, r)

/-- The value of a number literal: the float it reads as, stored as an integer
when that is a whole number below `2^53` in magnitude. -/
def numberValue (lexeme : List Char) : Number :=
  match Binary.readFloat? (String.ofList lexeme) with
  | some x =>
    match Number.exactInt? x with
    | some n => .int n
    | none => .float x
  | none => .int 0

/-- The operator at the start of the text after an operand, longest first. -/
def scanOperator (cs : List Char) : Option (Token × List Char) :=
  match matchWord "AND".toList cs with
  | some rest => some (.kwAnd, rest)
  | none =>
  match matchWord "OR".toList cs with
  | some rest => some (.kwOr, rest)
  | none =>
  match cs with
  | '=' :: '=' :: r => some (.op .eq, r)
  | '!' :: '=' :: r => some (.op .ne, r)
  | '<' :: '>' :: r => some (.op .ne, r)
  | '<' :: '=' :: r => some (.op .le, r)
  | '>' :: '=' :: r => some (.op .ge, r)
  | '=' :: r => some (.op .eq, r)
  | '<' :: r => some (.op .lt, r)
  | '>' :: r => some (.op .gt, r)
  | '&' :: r => some (.op .concat, r)
  | '+' :: r => some (.plus, r)
  | '-' :: r => some (.minus, r)
  | '*' :: r => some (.op .mul, r)
  | '/' :: r => some (.op .div, r)
  | '%' :: r => some (.op .mod, r)
  | '^' :: r => some (.op .pow, r)
  | ')' :: r => some (.rparen, r)
  | ',' :: r => some (.comma, r)
  | _ => none

/-- The operand token at the start of the text; `NOT` is a keyword only where
`withNot` allows it. -/
def scanOperand (withNot : Bool) (cs : List Char) : Option (Token × List Char) :=
  match matchKeyword "TRUE" cs with
  | some rest => some (.boolean true, rest)
  | none =>
  match matchKeyword "FALSE" cs with
  | some rest => some (.boolean false, rest)
  | none =>
  match matchKeyword "NULL" cs with
  | some rest => some (.null, rest)
  | none =>
  match matchKeyword "BLANK" cs with
  | some rest => some (.null, rest)
  | none =>
  match scanFieldRef cs with
  | some (body, rest) => some (.fieldRef (Text.trim (String.ofList body)), rest)
  | none =>
  match cs with
  | q :: r =>
    if q == '"' || q == '\'' then
      (scanQuoted q r).map fun (body, rest) => (.string (String.ofList (unescape body)), rest)
    else
      match scanNumber cs with
      | some (lexeme, rest) => some (.number (numberValue lexeme), rest)
      | none =>
        if isNameStart q then
          let tail := r.takeWhile isNameChar
          let word := q :: tail
          let rest := r.drop tail.length
          if withNot && (matchWord "NOT".toList word == some []) then some (.kwNot, rest)
          else some (.name (String.ofList word), rest)
        else if q == '(' then some (.lparen, r)
        else if q == '-' then some (.minus, r)
        else if q == '+' then some (.plus, r)
        else none
  | [] => none

/-- The token at the start of the text under what the grammar allows. -/
def scan (e : Expect) (cs : List Char) : Option (Token × List Char) :=
  match e with
  | .expression => scanOperand true cs
  | .arguments =>
    match cs with
    | ')' :: r => some (.rparen, r)
    | _ => scanOperand true cs
  | .operand => scanOperand false cs
  | .afterOperand => scanOperator cs
  | .openParen =>
    match cs with
    | '(' :: r => some (.lparen, r)
    | _ => none

/-- How the tokens of a formula end: at the end of the text, or at a character
where no allowed token starts. -/
inductive LexEnd where
  | done
  | stuck (pos : Nat)
  deriving DecidableEq

/-- Read the tokens of a formula from a point on, each under what the token
before it allows. -/
def lexFrom (prev : Option Token) (e : Expect) (cs : List Char) (pos : Nat) :
    List Lexeme × LexEnd :=
  let seps := cs.takeWhile isSeparator
  let cs' := cs.drop seps.length
  let pos' := pos + seps.length
  match cs' with
  | [] => ([], .done)
  | _ =>
    match scan e cs' with
    | none => ([], .stuck pos')
    | some (t, rest) =>
      if _h : rest.length < cs.length then
        let (ls, fin) := lexFrom (some t) (Expect.after prev t) rest (pos' + (cs'.length - rest.length))
        (⟨t, pos'⟩ :: ls, fin)
      else ([], .stuck pos')
termination_by cs.length

def lex (src : String) : List Lexeme × LexEnd := lexFrom none .expression src.toList 0

end FieldCalc.Formula
