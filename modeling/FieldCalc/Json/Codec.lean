import FieldCalc.Json.Basic
import FieldCalc.Formula.Engine

/-!
JSON forms of the library's data.

Data come in as JSON: null, truth values, integers, floats, texts and arrays
stand for themselves, and a one-member object tags a value that JSON has no
form for: `{"$ts": n}` a timestamp in milliseconds, `{"$date": "YYYY-MM-DD"}`
and `{"$datetime": "..."}` moments read as ISO text (UTC unless a zone is
given), `{"$decimal": "..."}` a decimal and `{"$float": "..."}` a float read
from text, infinities and NaN included.

Values go out as `{"type": kind, "value": payload}`, outcomes of formulas as
`{"success": true, "type", "value"}` or `{"success": false, "error_code",
"error"}`, and faults as `{"error": kind, "message"}` where the kind names the
class of the failure.
-/

namespace FieldCalc

def Number.toJson : Number → Json
  | .int n => .int n
  | .float x => .float x

namespace Datum

/-- The timestamp tagged by `$ts`: an integer, or a finite float cut to its
integer part; a truth value is refused. -/
def ofTimestampJson (j : Json) : Except Fault Datum :=
  match j with
  | .int n => .ok (.value (.timestamp n))
  | .float x =>
    match Binary.parts? x with
    | some p => .ok (.value (.timestamp p.trunc))
    | Option.none => .error (.type ("Invalid timestamp: " ++ Binary.text x))
  | .bool b => .error (.type ("Invalid timestamp: " ++ if b then "True" else "False"))
  | other => .error (.type ("Invalid timestamp: " ++ other.render))

def ofTagged (tag : String) (j : Json) : Option (Except Fault Datum) :=
  match tag, j with
  | "$ts", j => some (ofTimestampJson j)
  | "$date", .str s => some <|
    match Calendar.readDate? s with
    | some d => .ok (.day d)
    | Option.none => .error (.badIsoFormat s)
  | "$datetime", .str s => some <|
    match Calendar.DateTime.read? s with
    | some t => .ok (.moment t)
    | Option.none => .error (.badIsoFormat s)
  | "$decimal", .str s => some <|
    match DecimalValue.ofText? s with
    | some d => .ok (.decimal d)
    | Option.none => .error (.decimal .conversionSyntax)
  | "$float", .str s => some <|
    match Binary.readFloat? s with
    | some x => .ok (.float x)
    | Option.none => .error (.badFloat s)
  | _, _ => Option.none

mutual

def ofJson : Json → Except Fault Datum
  | .null => .ok .none
  | .bool b => .ok (.bool b)
  | .int n => .ok (.int n)
  | .float x => .ok (.float x)
  | .str s => .ok (.text s)
  | .arr xs => return .list (← ofJsonList xs)
  | .obj [(tag, j)] =>
    match ofTagged tag j with
    | some d => d
    | Option.none => .ok (.text (Json.obj [(tag, j)]).render)
  | .obj ms => .ok (.text (Json.obj ms).render)

def ofJsonList : List Json → Except Fault (List Datum)
  | [] => .ok []
  | j :: js => return (← ofJson j) :: (← ofJsonList js)

end

end Datum

namespace Value

/-- The payload of a value: a text, a number, a truth value, milliseconds, an
array of texts or null. -/
def payload : Value → Json
  | .string s => .str s
  | .number n => n.toJson
  | .boolean b => .bool b
  | .timestamp ms => .int ms
  | .list xs => .arr (xs.map .str)
  | .null => .null

def toJson (v : Value) : Json := .obj [("type", .str v.kind.name), ("value", v.payload)]

end Value

def Formula.Outcome.toJson : Formula.Outcome → Json
  | .success v => .obj [("success", .bool true), ("type", .str v.kind.name), ("value", v.payload)]
  | .failure code message =>
    .obj [("success", .bool false), ("error_code", .str code.text), ("error", .str message)]

def Formula.CheckReport.toJson (r : Formula.CheckReport) : Json :=
  .obj [("valid", .bool r.valid), ("error", Json.ofOption .str r.error),
    ("kind", Json.ofOption (fun k => .str k.name) r.kind),
    ("position", Json.ofOption (fun p => .int p) r.position)]

def Formula.FunctionInfo.toJson (f : Formula.FunctionInfo) : Json :=
  .obj [("name", .str f.name), ("category", .str f.category), ("description", .str f.description),
    ("syntax", .str f.usage), ("min_args", .int f.minArgs),
    ("max_args", Json.ofOption (fun n => .int n) f.maxArgs),
    ("returns", Json.ofOption (fun k => .str k.name) f.returns)]

def ArithFault.kindName : ArithFault → String
  | .domainError | .nanToInt => "ValueError"
  | .divisionByZero => "ZeroDivisionError"
  | _ => "OverflowError"

def FormulaError.kindName : FormulaError → String
  | .malformed .. => "FormulaSyntaxError"
  | .reference .. => "FormulaReferenceError"
  | .divisionByZero => "FormulaDivisionError"
  | .type _ => "FormulaTypeError"
  | .unknownFunction _ => "UnknownFunctionError"
  | .argument .. => "FormulaArgumentError"
  | .aggregation _ => "AggregationError"

def Fault.kindName : Fault → String
  | .formula e => e.kindName
  | .arithmetic e => e.kindName
  | .decimal .overflow => "Overflow"
  | .decimal _ => "InvalidOperation"
  | .moment .yearOverflow => "OSError"
  | .moment (.yearOutOfRange _) => "ValueError"
  | .moment _ => "OverflowError"
  | .badInteger _ | .digitLimit | .tooManyDigits _ | .badIsoFormat _ | .badFloat _ | .signalingNaN =>
    "ValueError"
  | .notReal _ => "TypeError"
  | .tooDeep => "RecursionError"
  | .rejectedValue _ | .unknownOperator _ | .unknownLevel _ | .badLayout _ => "ValueError"
  | .invalidRule _ => "InvalidFilterRuleError"
  | .unknownFieldType _ => "InvalidFieldTypeError"
  | .invalidSchema _ => "ValidationError"
  | .noValue _ => "AttributeError"

def Fault.toJson (f : Fault) : Json := .obj [("error", .str f.kindName), ("message", .str f.message)]

end FieldCalc
