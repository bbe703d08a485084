import FieldCalc.Filter.Rule
import FieldCalc.Json.Codec

/-!
Schemas of the records the library takes in as JSON: field definitions,
stored values, tasks and filter rules.

Validation reports every problem of the members at once, each as the path to
the member and the kind of problem (`name: string_too_short`), in the order
of the members. A definition whose members are valid must then carry only
the settings of its type: a formula exactly for formula fields, a rollup
configuration exactly for rollup fields, a currency code only for currency
fields and options only for select types; the first setting out of place is
the problem reported.

Members are read leniently where that is unambiguous: an identifier is an
integer or a text, and a truth value or a float without fraction stands for
an integer; a currency code is trimmed and upper-cased before its length is
checked. Unknown members are ignored.
-/

namespace FieldCalc

/-- A problem with one member of a record. -/
structure SchemaError where
  /-- The path to the member: member names and item indexes. -/
  loc : List String
  /-- The kind of problem. -/
  kind : String
  deriving Repr

def SchemaError.text (e : SchemaError) : String := ".".intercalate e.loc ++ ": " ++ e.kind

abbrev Checked (α : Type) := Except (List SchemaError) α

namespace Checked

def problems {α : Type} : Checked α → List SchemaError
  | .ok _ => []
  | .error es => es

def fail {α : Type} (loc : List String) (kind : String) : Checked α := .error [⟨loc, kind⟩]

def under {α : Type} (prefix_ : String) (r : Checked α) : Checked α :=
  r.mapError fun es => es.map fun e => { e with loc := prefix_ :: e.loc }

def toFault (es : List SchemaError) : Fault := .invalidSchema (es.map SchemaError.text)

end Checked

/-- An identifier: an integer or a text; a truth value and a float without
fraction stand for an integer. -/
def readIdent (j : Option Json) : Checked Ident :=
  match j with
  | none => Checked.fail [] "missing"
  | some (.int n) => .ok (.int n)
  | some (.str s) => .ok (.text s)
  | some (.bool b) => .ok (.int (if b then 1 else 0))
  | some (.float x) =>
    match Binary.parts? x with
    | some p =>
      if p.isIntegral then .ok (.int p.trunc)
      else .error [⟨["int"], "int_from_float"⟩, ⟨["str"], "string_type"⟩]
    | none => .error [⟨["int"], "finite_number"⟩, ⟨["str"], "string_type"⟩]
  | some _ => .error [⟨["int"], "int_type"⟩, ⟨["str"], "string_type"⟩]

def readText (j : Option Json) (minLen : Nat := 0) (maxLen : Option Nat := none) : Checked String :=
  match j with
  | none => Checked.fail [] "missing"
  | some (.str s) =>
    if s.length < minLen then Checked.fail [] "string_too_short"
    else if (maxLen.map fun m => decide (s.length > m)).getD false then
      Checked.fail [] "string_too_long"
    else .ok s
  | some _ => Checked.fail [] "string_type"

/-- A text or nothing; null is nothing. -/
def readOptionalText (j : Option Json) : Checked (Option String) :=
  match j with
  | none | some .null => .ok none
  | some (.str s) => .ok (some s)
  | some _ => Checked.fail [] "string_type"

/-- A truth value or nothing: JSON truth values, 0 and 1, and the usual words
for yes and no. -/
def readOptionalBool (j : Option Json) : Checked (Option Bool) :=
  match j with
  | none | some .null => .ok none
  | some (.bool b) => .ok (some b)
  | some (.int 0) => .ok (some false)
  | some (.int 1) => .ok (some true)
  | some (.int _) => Checked.fail [] "bool_parsing"
  | some (.str s) =>
    let w := s.toLower
    if ["0", "off", "f", "false", "n", "no"].contains w then .ok (some false)
    else if ["1", "on", "t", "true", "y", "yes"].contains w then .ok (some true)
    else Checked.fail [] "bool_parsing"
  | some _ => Checked.fail [] "bool_type"

def readOptionalTexts (j : Option Json) : Checked (Option (List String)) :=
  match j with
  | none | some .null => .ok none
  | some (.arr xs) =>
    let items := xs.zipIdx.map fun (x, i) => Checked.under (Nat.repr i) (readText (some x))
    let es := items.flatMap Checked.problems
    if es.isEmpty then .ok (some (items.filterMap fun r => match r with
      | .ok s => some s
      | .error _ => none))
    else .error es
  | some _ => Checked.fail [] "list_type"

def member {α : Type} (j : Json) (key : String) (read : Option Json → Checked α) : Checked α :=
  Checked.under key (read (j.get? key))

def readEnum {α : Type} (ofName? : String → Option α) (j : Option Json) : Checked α :=
  match j with
  | none => Checked.fail [] "missing"
  | some (.str s) =>
    match ofName? s with
    | some a => .ok a
    | none => Checked.fail [] "enum"
  | some _ => Checked.fail [] "enum"

def readOption (j : Json) : Checked FieldOption :=
  match j with
  | .obj _ =>
    let label := member j "label" (readText · 1)
    let value := member j "value" (readText · 1)
    let color := member j "color" readOptionalText
    match label, value, color with
    | .ok label, .ok value, .ok color => .ok { label, value, color }
    | _, _, _ => .error (label.problems ++ value.problems ++ color.problems)
  | _ => Checked.fail [] "model_type"

/-- The options of a field; a missing member is no options. -/
def readOptions (j : Option Json) : Checked (List FieldOption) :=
  match j with
  | none => .ok []
  | some (.arr xs) =>
    let items := xs.zipIdx.map fun (x, i) => Checked.under (Nat.repr i) (readOption x)
    let es := items.flatMap Checked.problems
    if es.isEmpty then .ok (items.filterMap fun r => match r with
      | .ok o => some o
      | .error _ => none)
    else .error es
  | some _ => Checked.fail [] "list_type"

def readRollupConfig (j : Option Json) : Checked (Option RollupConfig) :=
  match j with
  | none | some .null => .ok none
  | some (.obj ms) =>
    let j := Json.obj ms
    let source := member j "source_field_name" (readText · 1)
    let aggregation := member j "aggregation" (readEnum Formula.Aggregation.ofName?)
    match source, aggregation with
    | .ok s, .ok a => .ok (some ⟨s, a⟩)
    | _, _ => .error (source.problems ++ aggregation.problems)
  | some _ => Checked.fail [] "model_type"

/-- A currency code: trimmed, upper-cased, three characters. -/
def readCurrencyCode (j : Option Json) : Checked (Option String) :=
  match j with
  | some (.str s) => (readText (some (.str (Text.toUpper (Text.trim s)))) 3 (some 3)).map some
  | other => readOptionalText other

namespace FieldDefinition

/-- The first setting a definition carries that its type does not allow. -/
def settingProblem (f : FieldDefinition) : Option String :=
  let t := "Field of type '" ++ f.type.name ++ "' cannot have "
  if f.type == .formula && f.formula.isNone then some "Formula field must specify a formula"
  else if f.type != .formula && f.formula.isSome then some (t ++ "a formula")
  else if f.type == .rollup && f.rollupConfig.isNone then
    some "Rollup field must specify a rollup configuration"
  else if f.type != .rollup && f.rollupConfig.isSome then some (t ++ "a rollup configuration")
  else if f.currencyCode.isSome && f.type != .currency then some (t ++ "a currency code")
  else if !f.options.isEmpty && !f.type.hasOptions then some (t ++ "options")
  else none

def ofJson (j : Json) : Except Fault FieldDefinition :=
  match j with
  | .obj _ =>
    let id := member j "id" readIdent
    let name := member j "name" (readText · 1 (some 100))
    let type := member j "type" (readEnum FieldType.ofName?)
    let options := member j "options" readOptions
    let formula := member j "formula" readOptionalText
    let rollup := member j "rollup_config" readRollupConfig
    let currency := member j "currency_code" readCurrencyCode
    match id, name, type, options, formula, rollup, currency with
    | .ok id, .ok name, .ok type, .ok options, .ok formula, .ok rollupConfig, .ok currencyCode =>
      let f : FieldDefinition := { id, name, type, options, formula, rollupConfig, currencyCode }
      match f.settingProblem with
      | some p => .error (.invalidSchema [p])
      | none => .ok f
    | _, _, _, _, _, _, _ =>
      .error (Checked.toFault (id.problems ++ name.problems ++ type.problems ++ options.problems ++
        formula.problems ++ rollup.problems ++ currency.problems))
  | _ => .error (Checked.toFault [⟨[], "model_type"⟩])

end FieldDefinition

/-- A decimal given as an integer, a float (by its shortest text) or decimal
text; only finite decimals are stored. -/
def readNumeric (j : Option Json) : Except Fault (Checked (Option Decimal)) :=
  let finite (d : DecimalValue) : Checked (Option Decimal) :=
    match d with
    | .finite d => .ok (some d)
    | _ => Checked.fail [] "finite_number"
  match j with
  | none | some .null => .ok (.ok none)
  | some (.int n) => .ok (.ok (some (Decimal.ofInt n)))
  | some (.float x) =>
    match DecimalValue.ofText? (Binary.text x) with
    | some d => .ok (finite d)
    | none => .error (.decimal .conversionSyntax)
  | some (.str s) =>
    match DecimalValue.ofText? s with
    | some d => .ok (finite d)
    | none => .error (.decimal .conversionSyntax)
  | some _ => .ok (Checked.fail [] "decimal_type")

/-- A moment given as ISO text (UTC unless a zone is given) or as epoch
milliseconds. -/
def readMoment (j : Option Json) : Except Fault (Checked (Option Calendar.Instant)) :=
  match j with
  | none | some .null => .ok (.ok none)
  | some (.int ms) => return .ok (some (← storableMoment ms))
  | some (.str s) =>
    match Calendar.readDateTime? s with
    | some (d, micros, off) => .ok (.ok (some (Calendar.dateTimeInstant d micros off)))
    | none => .error (.badIsoFormat s)
  | some _ => .ok (Checked.fail [] "datetime_type")

namespace FieldValue

def ofJson (j : Json) : Except Fault FieldValue := do
  let numeric ← (readNumeric (j.get? "numeric_value")).map (Checked.under "numeric_value")
  let date ← (readMoment (j.get? "date_value")).map (Checked.under "date_value")
  let fieldId := member j "field_id" readIdent
  let taskId := member j "task_id" readIdent
  let value := member j "value" readOptionalText
  let boolean := member j "boolean_value" readOptionalBool
  let list := member j "list_value" readOptionalTexts
  match fieldId, taskId, value, numeric, date, boolean, list with
  | .ok fieldId, .ok taskId, .ok value, .ok numericValue, .ok dateValue, .ok booleanValue,
    .ok listValue => return { fieldId, taskId, value, numericValue, dateValue, booleanValue, listValue }
  | _, _, _, _, _, _, _ =>
    .error (Checked.toFault (fieldId.problems ++ taskId.problems ++ value.problems ++
      numeric.problems ++ date.problems ++ boolean.problems ++ list.problems))

/-- A stored value as JSON: every slot, null when unset; the decimal as its
scientific text and the moment in milliseconds. -/
def toJson (fv : FieldValue) : Json :=
  let ident := fun (i : Ident) => match i with
    | .int n => Json.int n
    | .text s => Json.str s
  .obj [("field_id", ident fv.fieldId), ("task_id", ident fv.taskId),
    ("value", Json.ofOption .str fv.value),
    ("numeric_value", Json.ofOption (fun d => .str d.toText) fv.numericValue),
    ("date_value", Json.ofOption (fun t => .int t.millis) fv.dateValue),
    ("boolean_value", Json.ofOption .bool fv.booleanValue),
    ("list_value", Json.ofOption (fun xs => .arr (xs.map .str)) fv.listValue)]

end FieldValue

def readOptionalFloat (j : Option Json) : Checked (Option Float) :=
  match j with
  | none | some .null => .ok none
  | some (.int n) => .ok (some (Binary.ofInt n))
  | some (.float x) => .ok (some x)
  | some (.bool b) => .ok (some (if b then 1 else 0))
  | some (.str s) =>
    match Binary.readFloat? s with
    | some x => .ok (some x)
    | none => Checked.fail [] "float_parsing"
  | some _ => Checked.fail [] "float_type"

def TaskSnapshot.ofJson (j : Json) : Except Fault TaskSnapshot := do
  let deadline ← (readMoment (j.get? "deadline")).map (Checked.under "deadline")
  let id := member j "id" readIdent
  let title : Checked String := match j.get? "title" with
    | none => .ok ""
    | some t => Checked.under "title" (readText (some t))
  let description := member j "description" readOptionalText
  let status := member j "status" readOptionalText
  let priority := member j "priority" readOptionalText
  let progress := member j "progress" readOptionalFloat
  match id, title, description, status, priority, deadline, progress with
  | .ok id, .ok title, .ok description, .ok status, .ok priority, .ok deadline, .ok progress =>
    return { id, title, description, status, priority, deadline, progress }
  | _, _, _, _, _, _, _ =>
    .error (Checked.toFault (id.problems ++ title.problems ++ description.problems ++
      status.problems ++ priority.problems ++ deadline.problems ++ progress.problems))

def FilterRule.ofJson (j : Json) : Except Fault FilterRule :=
  let fieldId := member j "field_id" readIdent
  let operator := member j "operator" (readEnum FilterOperator.ofName?)
  let value : Checked String := match j.get? "value" with
    | none => .ok ""
    | some v => Checked.under "value" (readText (some v))
  let id := member j "id" readOptionalText
  match fieldId, operator, value, id with
  | .ok fieldId, .ok operator, .ok value, .ok id => .ok { fieldId, operator, value, id }
  | _, _, _, _ =>
    .error (Checked.toFault (fieldId.problems ++ operator.problems ++ value.problems ++ id.problems))

end FieldCalc
