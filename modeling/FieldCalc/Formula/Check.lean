import FieldCalc.Formula.References
import FieldCalc.Formula.Catalog

/-!
Checking a formula without evaluating it.

The check reports the first problem it finds, in this order: a source longer
than the limit, unbalanced delimiters, a syntax error, a call of an unknown
function, a call with an argument count the function does not take (calls
outermost first), and, only when the known fields are given, a reference to a
field that is neither known nor a built-in attribute. A blank formula is
valid.

Delimiters balance when every `(` and `{` outside quotes is closed by its own
closer in nesting order; inside quotes a backslash escapes the next
character.
-/

namespace FieldCalc.Formula

def maxFormulaLength : Nat := 10000

def lengthError (src : String) : Option FormulaError :=
  if src.length > maxFormulaLength then
    some (.malformed ("Formula exceeds " ++ Nat.repr maxFormulaLength ++ " characters") .malformed
      (some maxFormulaLength))
  else none

def closerOf? : Char → Option Char
  | '(' => some ')'
  | '{' => some '}'
  | _ => none

def openerOf? : Char → Option Char
  | ')' => some '('
  | '}' => some '{'
  | _ => none

/-- Where the balance scan stands: inside a quote (with where it started and
whether the next character is escaped) or outside, with the open delimiters,
innermost first. -/
inductive BalanceState where
  | outside (pending : List (Char × Nat))
  | quoted (q : Char) (start : Nat) (escaped : Bool) (pending : List (Char × Nat))

def balanceFrom : BalanceState → List Char → Nat → Except FormulaError BalanceState
  | st, [], _ => .ok st
  | .quoted q start escaped pending, c :: rest, pos =>
    let st := if escaped then .quoted q start false pending
      else if c == '\\' then .quoted q start true pending
      else if c == q then .outside pending
      else .quoted q start false pending
    balanceFrom st rest (pos + 1)
  | .outside pending, c :: rest, pos =>
    if c == '\'' || c == '"' then balanceFrom (.quoted c pos false pending) rest (pos + 1)
    else if (closerOf? c).isSome then balanceFrom (.outside ((c, pos) :: pending)) rest (pos + 1)
    else match openerOf? c with
      | some o =>
        match pending with
        | (top, _) :: more =>
          if top == o then balanceFrom (.outside more) rest (pos + 1)
          else .error (unexpectedCloser c pos)
        | [] => .error (unexpectedCloser c pos)
      | none => balanceFrom (.outside pending) rest (pos + 1)
where
  /-- A closer that closes nothing open. -/
  unexpectedCloser (c : Char) (pos : Nat) : FormulaError :=
    .malformed ("Unexpected '" ++ c.toString ++ "' at position " ++ Nat.repr pos) .unbalanced (some pos)

def checkBalance (src : String) : Except FormulaError Unit := do
  match ← balanceFrom (.outside []) src.toList 0 with
  | .quoted _ start _ _ =>
    .error (.malformed ("Unterminated string starting at position " ++ Nat.repr start) .unbalanced
      (some start))
  | .outside ((c, pos) :: _) =>
    .error (.malformed ("Unclosed '" ++ c.toString ++ "' at position " ++ Nat.repr pos) .unbalanced
      (some pos))
  | .outside [] => .ok ()

def ParseError.toFormulaError : ParseError → FormulaError
  | .at pos => .malformed (ParseError.message (.at pos)) .malformed (some pos)
  | .fieldCall => .malformed ParseError.fieldCall.message .malformed none

/-- The report of a check: valid, or the problem with its kind and, for
syntax problems, the position. -/
structure CheckReport where
  valid : Bool
  error : Option String := none
  kind : Option CheckKind := none
  position : Option Nat := none
  deriving Repr

def CheckReport.ofError (e : FormulaError) : CheckReport :=
  match e with
  | .malformed m k p => { valid := false, error := some m, kind := some k, position := p }
  | .unknownFunction _ => { valid := false, error := some e.message, kind := some .unknownFunction }
  | e => { valid := false, error := some e.message, kind := some .invalidArguments }

/-- The first unknown function or wrong argument count among calls. -/
def checkCalls : List (String × Nat) → Except FormulaError Unit
  | [] => .ok ()
  | (name, count) :: rest =>
    match lookupFunction name with
    | none => .error (.unknownFunction name)
    | some info =>
      match info.arityError? count with
      | some e => .error e
      | none => checkCalls rest

/-- Check a formula; `known` are the field names of the project, when given. -/
def checkFormula (source : Option String) (known : Option (List String)) : CheckReport :=
  match source with
  | none => { valid := true }
  | some src =>
    if Text.isBlank src then { valid := true }
    else
      let structural : Except FormulaError Unit := do
        if let some e := lengthError src then .error e
        checkBalance src
        let e ← (parse src).mapError ParseError.toFormulaError
        checkCalls e.calls
      match structural with
      | .error e => CheckReport.ofError e
      | .ok () =>
        match known with
        | none => { valid := true }
        | some names =>
          match (fieldReferences source).find? (fun n => !names.contains n) with
          | some n =>
            { valid := false, error := some ("Unknown field: " ++ n), kind := some .unknownField }
          | none => { valid := true }

end FieldCalc.Formula
