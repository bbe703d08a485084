import FieldCalc.Field.Basic

/-!
How each field type reads and writes its slot of a stored value.

Text, URL, email and select fields use the text slot, the numeric types the
decimal slot, date fields the moment slot, checkboxes the truth slot and
multiselect fields the list slot. Computed fields store a result in the slot
of its kind and read the first populated slot, in the order decimal, truth,
moment, list, text. A task without a stored value reads as null.

Emptiness depends on the type: an empty text and an empty selection count as
empty, and a computed field is empty when the value it reads is.
-/

namespace FieldCalc

namespace FieldValue

def blank (fieldId taskId : Ident) : FieldValue := { fieldId, taskId }

end FieldValue

/-- The date-time a stored value holds for a moment in milliseconds: the
instant of its calendar fields, which must exist. -/
def storableMoment (ms : Int) : Except Fault Calendar.Instant :=
  match Calendar.Moment.ofMillis ms with
  | .ok m => .ok m.instant
  | .error e => .error (.moment e)

namespace FieldType

/-- The value of the computed slots: the first populated one. -/
def readComputed (fv : FieldValue) : Except Fault Value :=
  match fv.numericValue, fv.booleanValue, fv.dateValue, fv.listValue, fv.value with
  | some d, _, _, _, _ => return .number (← normalizeDecimal (.finite d))
  | none, some b, _, _, _ => return .boolean b
  | none, none, some t, _, _ => return .timestamp t.millis
  | none, none, none, some xs, _ => return .list xs
  | none, none, none, none, some s => return .string s
  | none, none, none, none, none => return .null

/-- The value a field of the type reads from a task's stored value. -/
def read (t : FieldType) (fv : Option FieldValue) : Except Fault Value :=
  match fv with
  | none => .ok .null
  | some fv =>
    match t with
    | .text | .url | .email | .select => .ok ((fv.value.map Value.string).getD .null)
    | .number | .currency | .percent | .rating =>
      match fv.numericValue with
      | some d => return .number (← normalizeDecimal (.finite d))
      | none => .ok .null
    | .date => .ok ((fv.dateValue.map fun t => Value.timestamp t.millis).getD .null)
    | .checkbox => .ok ((fv.booleanValue.map Value.boolean).getD .null)
    | .multiselect => .ok ((fv.listValue.map Value.list).getD .null)
    | .formula | .rollup => readComputed fv

def isEmpty (t : FieldType) (fv : Option FieldValue) : Except Fault Bool :=
  match fv with
  | none => .ok true
  | some fv =>
    match t with
    | .text | .url | .email | .select => .ok ((fv.value.getD "").isEmpty)
    | .number | .currency | .percent | .rating => .ok fv.numericValue.isNone
    | .date => .ok fv.dateValue.isNone
    | .checkbox => .ok fv.booleanValue.isNone
    | .multiselect => .ok ((fv.listValue.getD []).isEmpty)
    | .formula | .rollup => return (← readComputed fv).isEmpty

/-- Store a value in the slot of the type. Null leaves every slot empty;
text types store the display text, numeric types a numeric reading (a moment
is none), dates a moment or text read as one, checkboxes the truth of the
value, select types the display text of a non-empty value, and computed types
the value in the slot of its kind. -/
def store (t : FieldType) (fieldId taskId : Ident) (v : Value) : Except Fault FieldValue := do
  let blank := FieldValue.blank fieldId taskId
  match t with
  | .text | .url | .email =>
    if v.isNull then return blank
    return { blank with value := some (← v.display) }
  | .number | .currency | .percent | .rating =>
    let reading := if v.isNull then none else v.asNumber?
    match reading, v with
    | _, .timestamp _ => return blank
    | some n, _ => return { blank with numericValue := some (← n.decimalOfText) }
    | none, _ => return blank
  | .date =>
    let ms? ← match v with
      | .timestamp ms => pure (some ms)
      | .string s => parseTimestamp? s
      | _ => pure none
    match ms? with
    | some ms => return { blank with dateValue := some (← storableMoment ms) }
    | none => return blank
  | .checkbox =>
    if v.isNull then return blank
    return { blank with booleanValue := some v.isTruthy }
  | .select =>
    if v.isEmpty then return blank
    return { blank with value := some (← v.display) }
  | .multiselect =>
    match v with
    | .list xs => return { blank with listValue := some xs }
    | v =>
      if v.isEmpty then return blank
      return { blank with listValue := some [← v.display] }
  | .formula | .rollup =>
    match v with
    | .number n => return { blank with numericValue := some (← n.decimalOfText) }
    | .boolean b => return { blank with booleanValue := some b }
    | .timestamp ms => return { blank with dateValue := some (← storableMoment ms) }
    | .list xs => return { blank with listValue := some xs }
    | .string s => return { blank with value := some s }
    | .null => return blank

end FieldType

end FieldCalc
