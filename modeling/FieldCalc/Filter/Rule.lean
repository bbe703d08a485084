import FieldCalc.Filter.Match
import FieldCalc.Log

/-!
Filter rules and the tasks that pass them.

A rule names a field, an operator and an operand. It fits its field when it
names that field, the field's type offers the operator, and an operator that
compares has an operand that is not blank. A task passes a rule by the
emptiness of its stored value for the emptiness tests, by the checkbox tests
even without a stored value, and otherwise by comparing its stored value,
which a task without one fails. A rule whose operator the field's type does
not offer is ignored, with a warning. A task passes a set of rules when it
passes each rule whose field is known.
-/

namespace FieldCalc

/-- A filter rule. -/
structure FilterRule where
  fieldId : Ident
  operator : FilterOperator
  value : String := ""
  id : Option String := none
  deriving Repr

/-- Stored values by task, then by field; a later value of a task and field
replaces an earlier one. -/
abbrev ValuesIndex := List (Ident × List (Ident × FieldValue))

def ValuesIndex.get? (idx : ValuesIndex) (task field : Ident) : Option FieldValue :=
  ((idx.lookup task).bind fun vs => vs.lookup field)

/-- Index stored values by task and field, tasks in order of first
appearance. -/
def ValuesIndex.ofList (values : List FieldValue) : ValuesIndex :=
  values.foldl (fun idx v =>
    match idx.lookup v.taskId with
    | some vs =>
      let vs := if (vs.lookup v.fieldId).isSome then vs.map fun p => if p.1 == v.fieldId then (p.1, v) else p
        else vs ++ [(v.fieldId, v)]
      idx.map fun p => if p.1 == v.taskId then (p.1, vs) else p
    | none => idx ++ [(v.taskId, [(v.fieldId, v)])]) []

/-- Field definitions by identifier; a later definition of an identifier
replaces an earlier one. -/
def fieldsIndex (fields : List FieldDefinition) : List (Ident × FieldDefinition) :=
  fields.foldl (fun idx f =>
    if (idx.lookup f.id).isSome then idx.map fun p => if p.1 == f.id then (p.1, f) else p
    else idx ++ [(f.id, f)]) []

def filterLogger : String := "taskfields.filters.engine"

namespace FilterRule

def check (rule : FilterRule) (field : FieldDefinition) : Except Fault Unit :=
  if rule.fieldId != field.id then
    .error (.invalidRule ("Rule targets field " ++ rule.fieldId.shown ++ ", not " ++ field.id.shown))
  else if !field.type.offers rule.operator then
    .error (.invalidRule ("Operator '" ++ rule.operator.name ++ "' is not available for " ++
      field.type.name ++ " field '" ++ field.name ++ "'"))
  else if rule.operator.needsValue && (Text.trim rule.value).isEmpty then
    .error (.invalidRule ("Operator '" ++ rule.operator.name ++ "' requires a value"))
  else .ok ()

/-- Build a rule for a field from an operator name; an operator without
operand drops the one given. -/
def build (field : FieldDefinition) (operator : String) (value : String := "")
    (ruleId : Option String := none) : Except Fault FilterRule := do
  let some op := FilterOperator.ofName? operator
    | .error (.invalidRule ("Unknown filter operator: " ++ operator))
  let rule : FilterRule :=
    { fieldId := field.id, operator := op, value := if op.needsValue then value else "", id := ruleId }
  rule.check field
  return rule

/-- Whether a task's stored value passes a rule on its field. -/
def passes (rule : FilterRule) (fv : Option FieldValue) (field : FieldDefinition) :
    ExceptT Fault Logged Bool := do
  let op := rule.operator
  if !field.type.offers op then
    Logged.emit ⟨.warning, filterLogger, "Ignoring filter rule with unsupported operator", [],
      ⟨"engine", "task_passes_filter", 114⟩,
      [("field_id", match field.id with
          | .int n => .int n
          | .text s => .text s),
        ("field_type", .text field.type.name), ("operator", .text op.name)]⟩
    return true
  match op with
  | .isEmpty => field.type.isEmpty fv
  | .isNotEmpty => return !(← field.type.isEmpty fv)
  | .isTrue | .isFalse => field.type.matches op fv rule.value
  | op =>
    match fv with
    | none => return false
    | some _ => field.type.matches op fv rule.value

end FilterRule

def passesAll (rules : List FilterRule) (task : Ident) (values : ValuesIndex)
    (fields : List (Ident × FieldDefinition)) : ExceptT Fault Logged Bool := do
  match rules with
  | [] => return true
  | rule :: rest =>
    match fields.lookup rule.fieldId with
    | none => passesAll rest task values fields
    | some field =>
      if ← rule.passes (values.get? task rule.fieldId) field then passesAll rest task values fields
      else return false

def filterTasks (rules : List FilterRule) (tasks : List Ident) (values : ValuesIndex)
    (fields : List (Ident × FieldDefinition)) : ExceptT Fault Logged (List Ident) :=
  tasks.filterM fun t => passesAll rules t values fields

end FieldCalc
