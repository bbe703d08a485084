import FieldCalc.Formula.Engine

/-!
Rollups: one value aggregated from the values a source field holds across
tasks.

`count` counts the values that are not empty and `concat` joins the display
texts of those values with a delimiter. The numeric aggregations look only at
number values (text that reads as a number is not one) and add in decimal
arithmetic: `sum` is zero over no numbers, while `avg`, `min` and `max` are
undefined there. An aggregation is named in any case with white space around
it.
-/

namespace FieldCalc.Formula

/-- How a rollup aggregates. -/
inductive Aggregation where
  | sum
  | avg
  | count
  | min
  | max
  | concat
  deriving Repr, DecidableEq

namespace Aggregation

def name : Aggregation → String
  | .sum => "sum"
  | .avg => "avg"
  | .count => "count"
  | .min => "min"
  | .max => "max"
  | .concat => "concat"

def all : List Aggregation := [.avg, .concat, .count, .max, .min, .sum]

def ofName? (s : String) : Option Aggregation := all.find? (·.name == s)

/-- The aggregation a name stands for, in any case and with white space
around it. -/
def resolve (raw : String) : Except FormulaError Aggregation :=
  match ofName? (Text.toLower (Text.trim raw)) with
  | some a => .ok a
  | none => .error (.aggregation ("Invalid aggregation '" ++ raw ++ "'. Supported: " ++
      ", ".intercalate (all.map name)))

end Aggregation

def defaultDelimiter : String := ", "

/-- The first of the extreme decimals: the first one that no later one beats. -/
def firstExtreme (better : Decimal → Decimal → Bool) : List Decimal → Option Decimal
  | [] => none
  | d :: ds => some (ds.foldl (fun m x => if better x m then x else m) d)

def aggregate (kind : Aggregation) (typed : List Value) (delimiter : Option String) :
    Except Fault Value := do
  match kind with
  | .count => return .number (.int (typed.filter (!·.isEmpty)).length)
  | .concat =>
    let shown ← (typed.filter (!·.isEmpty)).mapM Value.display
    return .string ((delimiter.getD defaultDelimiter).intercalate shown)
  | kind =>
    let numbers ← (typed.filterMap fun v => match v with
      | .number n => some n
      | _ => none).mapM Number.decimalOfText
    if kind == .sum then return .number (← normalizeDecimal (.finite (Decimal.sum numbers)))
    let undefinedHere : Except Fault Value :=
      .error (.formula (.aggregation ("Cannot compute " ++ kind.name ++ " of an empty set")))
    let result := match kind with
      | .avg => if numbers.isEmpty then none else some ((Decimal.sum numbers).divNat numbers.length)
      | .min => firstExtreme (fun x m => Decimal.compareValue x m == .lt) numbers
      | _ => firstExtreme (fun x m => Decimal.compareValue x m == .gt) numbers
    match result with
    | some d => return .number (← normalizeDecimal (.finite d))
    | none => undefinedHere

/-- Aggregate data, one per task, with an aggregation given by name. -/
def computeRollup (values : List Datum) (aggregation : String) (delimiter : Option String) :
    Except Fault Value := do
  let kind ← (Aggregation.resolve aggregation).mapError Fault.formula
  let typed ← values.mapM Datum.toValue
  aggregate kind typed delimiter

/-- The outcome of a rollup computation: a formula error becomes a failed
outcome with a debug record that names the aggregation as `label`. -/
def rollupOutcome (label : String) (r : Except Fault Value) : Logged (Except Fault Outcome) :=
  match r with
  | .ok v => pure (.ok (.success v))
  | .error (.formula e) => do
    engineDebug "evaluate_rollup" 102 "Rollup evaluation failed: %s" [e.message]
      [("aggregation", .text label), ("error_code", .text e.code.text)]
    pure (.ok (.ofError e))
  | .error f => pure (.error f)

def evaluateRollup (aggregation : String) (values : List Datum) (delimiter : Option String) :
    Logged (Except Fault Outcome) :=
  rollupOutcome aggregation (computeRollup values aggregation delimiter)

/-- The name of an aggregation as a member of its enumeration. -/
def Aggregation.memberName (a : Aggregation) : String := "AggregationKind." ++ Text.toUpper a.name

/-- Evaluate a rollup of typed values with a known aggregation. -/
def evaluateAggregation (kind : Aggregation) (values : List Value) : Logged (Except Fault Outcome) :=
  rollupOutcome kind.memberName (aggregate kind values none)

end FieldCalc.Formula
