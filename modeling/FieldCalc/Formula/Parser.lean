import FieldCalc.Formula.Lexer

/-!
Parsing formulas.

The grammar, loosest binding first:

```
expression := or
or         := and ("OR" and)*
and        := not ("AND" not)*
not        := "NOT" not | comparison
comparison := concat (("=" | "==" | "!=" | "<>" | "<" | ">" | "<=" | ">=") concat)*
concat     := additive ("&" additive)*
additive   := term (("+" | "-") term)*
term       := power (("*" | "/" | "%") power)*
power      := unary ("^" power)?
unary      := "-" unary | "+" unary | atom
atom       := number | text | TRUE | FALSE | NULL | BLANK | {field}
            | name "(" [expression ("," expression)*] ")" | "(" expression ")"
```

All binary operators group to the left except `^`. A call of `FIELD` (in any
case) is a field reference and must have exactly one text argument.

A formula that does not parse fails at the first token that no sentence of
the grammar can continue with, or at the first character where no token
starts; a formula that stops too early fails at its last token. A misused
`FIELD` call is reported once the token after its `)` has been read.
-/

namespace FieldCalc.Formula

/-- Why a formula does not parse. -/
inductive ParseError where
  /-- No sentence of the grammar continues at this code-point index. -/
  | at (pos : Nat)
  /-- A `FIELD` call without exactly one text argument. -/
  | fieldCall
  deriving Repr, DecidableEq

def ParseError.message : ParseError → String
  | .at pos => "Invalid formula syntax at position " ++ Nat.repr pos
  | .fieldCall => "field() takes a single quoted field name, e.g. field(\"Budget\")"

/-- The tokens of a formula with how they end: where a parse that runs out of
tokens fails, and whether the text ends in a character no token starts with. -/
structure Stream where
  /-- The position reported when the tokens run out. -/
  endPos : Nat
  /-- Whether the tokens end at an unreadable character. -/
  stuck : Bool

abbrev Parsed := Except ParseError (Expr × List Lexeme)

namespace Stream

def failAt (s : Stream) : List Lexeme → ParseError
  | l :: _ => .at l.pos
  | [] => .at s.endPos

def comparisonOp? : Token → Option BinOp
  | .op o => if o == .eq || o == .ne || o == .lt || o == .gt || o == .le || o == .ge then some o else none
  | _ => none

def additiveOp? : Token → Option BinOp
  | .plus => some .add
  | .minus => some .sub
  | _ => none

def termOp? : Token → Option BinOp
  | .op .mul => some .mul
  | .op .div => some .div
  | .op .mod => some .mod
  | _ => none

def isConcat : Token → Bool
  | .op .concat => true
  | _ => false

def isPow : Token → Bool
  | .op .pow => true
  | _ => false

/-- The field reference a call of `FIELD` stands for, when its arguments are
one text. -/
def fieldCall? (args : List Expr) : Option Expr :=
  match args with
  | [.string s] => some (.field (Text.trim s))
  | _ => none

mutual

def expression (s : Stream) (fuel : Nat) (ls : List Lexeme) : Parsed :=
  match fuel with
  | 0 => .error (s.failAt ls)
  | fuel + 1 => do
    let (l, ls) ← andExpr s fuel ls
    orRest s fuel l ls

def orRest (s : Stream) (fuel : Nat) (left : Expr) (ls : List Lexeme) : Parsed :=
  match fuel with
  | 0 => .error (s.failAt ls)
  | fuel + 1 =>
    match ls with
    | ⟨.kwOr, _⟩ :: rest => do
      let (r, rest) ← andExpr s fuel rest
      orRest s fuel (.binary .or left r) rest
    | _ => .ok (left, ls)

def andExpr (s : Stream) (fuel : Nat) (ls : List Lexeme) : Parsed :=
  match fuel with
  | 0 => .error (s.failAt ls)
  | fuel + 1 => do
    let (l, ls) ← notExpr s fuel ls
    andRest s fuel l ls

def andRest (s : Stream) (fuel : Nat) (left : Expr) (ls : List Lexeme) : Parsed :=
  match fuel with
  | 0 => .error (s.failAt ls)
  | fuel + 1 =>
    match ls with
    | ⟨.kwAnd, _⟩ :: rest => do
      let (r, rest) ← notExpr s fuel rest
      andRest s fuel (.binary .and left r) rest
    | _ => .ok (left, ls)

def notExpr (s : Stream) (fuel : Nat) (ls : List Lexeme) : Parsed :=
  match fuel with
  | 0 => .error (s.failAt ls)
  | fuel + 1 =>
    match ls with
    | ⟨.kwNot, _⟩ :: rest => do
      let (x, rest) ← notExpr s fuel rest
      return (.unary .not x, rest)
    | _ => do
      let (l, ls) ← concatExpr s fuel ls
      comparisonRest s fuel l ls

def comparisonRest (s : Stream) (fuel : Nat) (left : Expr) (ls : List Lexeme) : Parsed :=
  match fuel with
  | 0 => .error (s.failAt ls)
  | fuel + 1 =>
    match ls with
    | l :: rest =>
      match comparisonOp? l.token with
      | some o => do
        let (r, rest) ← concatExpr s fuel rest
        comparisonRest s fuel (.binary o left r) rest
      | none => .ok (left, ls)
    | [] => .ok (left, ls)

def concatExpr (s : Stream) (fuel : Nat) (ls : List Lexeme) : Parsed :=
  match fuel with
  | 0 => .error (s.failAt ls)
  | fuel + 1 => do
    let (l, ls) ← additive s fuel ls
    concatRest s fuel l ls

def concatRest (s : Stream) (fuel : Nat) (left : Expr) (ls : List Lexeme) : Parsed :=
  match fuel with
  | 0 => .error (s.failAt ls)
  | fuel + 1 =>
    match ls with
    | l :: rest =>
      if isConcat l.token then do
        let (r, rest) ← additive s fuel rest
        concatRest s fuel (.binary .concat left r) rest
      else .ok (left, ls)
    | [] => .ok (left, ls)

def additive (s : Stream) (fuel : Nat) (ls : List Lexeme) : Parsed :=
  match fuel with
  | 0 => .error (s.failAt ls)
  | fuel + 1 => do
    let (l, ls) ← term s fuel ls
    additiveRest s fuel l ls

def additiveRest (s : Stream) (fuel : Nat) (left : Expr) (ls : List Lexeme) : Parsed :=
  match fuel with
  | 0 => .error (s.failAt ls)
  | fuel + 1 =>
    match ls with
    | l :: rest =>
      match additiveOp? l.token with
      | some o => do
        let (r, rest) ← term s fuel rest
        additiveRest s fuel (.binary o left r) rest
      | none => .ok (left, ls)
    | [] => .ok (left, ls)

def term (s : Stream) (fuel : Nat) (ls : List Lexeme) : Parsed :=
  match fuel with
  | 0 => .error (s.failAt ls)
  | fuel + 1 => do
    let (l, ls) ← power s fuel ls
    termRest s fuel l ls

def termRest (s : Stream) (fuel : Nat) (left : Expr) (ls : List Lexeme) : Parsed :=
  match fuel with
  | 0 => .error (s.failAt ls)
  | fuel + 1 =>
    match ls with
    | l :: rest =>
      match termOp? l.token with
      | some o => do
        let (r, rest) ← power s fuel rest
        termRest s fuel (.binary o left r) rest
      | none => .ok (left, ls)
    | [] => .ok (left, ls)

def power (s : Stream) (fuel : Nat) (ls : List Lexeme) : Parsed :=
  match fuel with
  | 0 => .error (s.failAt ls)
  | fuel + 1 => do
    let (u, ls) ← unary s fuel ls
    match ls with
    | l :: rest =>
      if isPow l.token then do
        let (p, rest) ← power s fuel rest
        return (.binary .pow u p, rest)
      else return (u, ls)
    | [] => return (u, ls)

def unary (s : Stream) (fuel : Nat) (ls : List Lexeme) : Parsed :=
  match fuel with
  | 0 => .error (s.failAt ls)
  | fuel + 1 =>
    match ls with
    | ⟨.minus, _⟩ :: rest => do
      let (x, rest) ← unary s fuel rest
      return (.unary .neg x, rest)
    | ⟨.plus, _⟩ :: rest => do
      let (x, rest) ← unary s fuel rest
      return (.unary .plus x, rest)
    | _ => atom s fuel ls

def atom (s : Stream) (fuel : Nat) (ls : List Lexeme) : Parsed :=
  match fuel with
  | 0 => .error (s.failAt ls)
  | fuel + 1 =>
    match ls with
    | ⟨.number n, _⟩ :: rest => .ok (.number n, rest)
    | ⟨.string t, _⟩ :: rest => .ok (.string t, rest)
    | ⟨.boolean b, _⟩ :: rest => .ok (.boolean b, rest)
    | ⟨.null, _⟩ :: rest => .ok (.null, rest)
    | ⟨.fieldRef n, _⟩ :: rest => .ok (.field n, rest)
    | ⟨.lparen, _⟩ :: rest => do
      let (e, rest) ← expression s fuel rest
      match rest with
      | ⟨.rparen, _⟩ :: rest => return (e, rest)
      | _ => .error (s.failAt rest)
    | ⟨.name n, _⟩ :: rest =>
      match rest with
      | ⟨.lparen, _⟩ :: rest => do
        let (args, rest) ← callArguments s fuel rest
        let upper := Text.toUpper n
        if upper == "FIELD" then
          if rest.isEmpty && s.stuck then .error (s.failAt rest)
          else match fieldCall? args with
            | some e => return (e, rest)
            | none => .error .fieldCall
        else return (.call upper args, rest)
      | _ => .error (s.failAt rest)
    | _ => .error (s.failAt ls)

/-- The arguments of a call after its `(`, through the closing `)`. -/
def callArguments (s : Stream) (fuel : Nat) (ls : List Lexeme) :
    Except ParseError (List Expr × List Lexeme) :=
  match fuel with
  | 0 => .error (s.failAt ls)
  | fuel + 1 =>
    match ls with
    | ⟨.rparen, _⟩ :: rest => .ok ([], rest)
    | _ => do
      let (e, rest) ← expression s fuel ls
      argumentsRest s fuel [e] rest

/-- Further arguments after a comma, through the closing `)`; `acc` holds the
arguments so far, last first. -/
def argumentsRest (s : Stream) (fuel : Nat) (acc : List Expr) (ls : List Lexeme) :
    Except ParseError (List Expr × List Lexeme) :=
  match fuel with
  | 0 => .error (s.failAt ls)
  | fuel + 1 =>
    match ls with
    | ⟨.rparen, _⟩ :: rest => .ok (acc.reverse, rest)
    | ⟨.comma, _⟩ :: rest => do
      let (e, rest) ← expression s fuel rest
      argumentsRest s fuel (e :: acc) rest
    | _ => .error (s.failAt ls)

end

end Stream

def parse (src : String) : Except ParseError Expr :=
  let (toks, fin) := lex src
  let stream : Stream := match fin with
    | .stuck p => ⟨p, true⟩
    | .done => ⟨(toks.getLast?.map (·.pos)).getD 0, false⟩
  match Stream.expression stream (16 * (toks.length + 2)) toks with
  | .error e => .error e
  | .ok (e, rest) =>
    if rest.isEmpty && !stream.stuck then .ok e else .error (stream.failAt rest)

end FieldCalc.Formula
