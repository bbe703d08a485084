import FieldCalc.Formula.Eval
import FieldCalc.Formula.Check
import FieldCalc.Log

/-!
Evaluating a formula for one task.

Evaluation never fails on a formula error: a blank formula is null, and a
formula that is too long, does not parse, refers to a missing field or fails
while evaluating gives a failed outcome with its cell code and message, and a
debug record. A formula nested too deeply gives the failed outcome `#ERROR!`
"Formula is nested too deeply". Other faults (a moment beyond the calendar,
digits that are no whole number) are no formula errors and reach the caller.
-/

namespace FieldCalc.Formula

/-- The outcome of evaluating a formula: a value, or a cell code with a
message. -/
inductive Outcome where
  | success (v : Value)
  | failure (code : ErrorCode) (message : String)

def Outcome.ofError (e : FormulaError) : Outcome := .failure e.code e.message

def engineLogger : String := "taskfields.formula.engine"

/-- A debug record of formula evaluation, from a call at a line of a
function. -/
def engineDebug (function : String) (line : Nat) (template : String) (args : List String)
    (extra : List (String × Datum)) : Logged Unit :=
  Logged.emit ⟨.debug, engineLogger, template, args, ⟨"engine", function, line⟩, extra⟩

def run (ctx : Context) (src : String) : Except Fault Value := do
  if let some e := lengthError src then .error (.formula e)
  let e ← (parse src).mapError fun p => .formula p.toFormulaError
  evaluate ctx e

def evaluateFormula (source : Option String) (ctx : Context) : Logged (Except Fault Outcome) :=
  match source with
  | none => pure (.ok (.success .null))
  | some src =>
    if Text.isBlank src then pure (.ok (.success .null))
    else
      match run ctx src with
      | .ok v => pure (.ok (.success v))
      | .error (.formula e) => do
        engineDebug "evaluate_formula" 69 "Formula evaluation failed: %s" [e.message]
          [("formula", .text src), ("error_code", .text e.code.text)]
        pure (.ok (.ofError e))
      | .error .tooDeep => do
        engineDebug "evaluate_formula" 76 "Formula nested too deeply" [] [("formula", .text src)]
        pure (.ok (.failure .error Fault.tooDeep.message))
      | .error f => pure (.error f)

end FieldCalc.Formula
