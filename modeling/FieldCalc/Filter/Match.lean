import FieldCalc.Filter.Operator
import FieldCalc.Field.Slot

/-!
How a stored value meets a filter operator and its operand.

Text comparisons ignore case: equality, inequality and containment of the
lower-cased operand in the lower-cased text. Numbers compare as floats with
the operand read as a number; dates compare as moments with the operand read
as one, equal when less than a day apart, and `before` and `after` strict. An
operand that does not read fails the comparison, and so does a missing
number or date. Multiselect fields test membership of the operand among the
selected values, ignoring case, and checkboxes test whether they are
checked. Computed fields compare the display text of their value. An
operator a type does not compare by passes.
-/

namespace FieldCalc

/-- How close two moments are to count as equal dates, in milliseconds. -/
def dateTolerance : Int := 86400000

def containsText (hay needle : String) : Bool :=
  let h := hay.toList
  let n := needle.toList
  (List.range (h.length + 1)).any fun k => n.isPrefixOf (h.drop k)

def compareText (op : FilterOperator) (actual operand : String) : Bool :=
  let a := Text.toLower actual
  let o := Text.toLower operand
  match op with
  | .equals => a == o
  | .notEquals => a != o
  | .contains => containsText a o
  | .notContains => !containsText a o
  | _ => true

def compareFloats (op : FilterOperator) (actual operand : Float) : Bool :=
  match op with
  | .equals => actual == operand
  | .notEquals => actual != operand
  | .greaterThan => actual > operand
  | .lessThan => actual < operand
  | .greaterOrEqual => actual ≥ operand
  | .lessOrEqual => actual ≤ operand
  | _ => true

/-- Whether a stored value of a field of the type meets an operator and its
operand; `none` stands for a task without a stored value. -/
def FieldType.matches (t : FieldType) (op : FilterOperator) (fv : Option FieldValue)
    (operand : String) : Except Fault Bool := do
  match t with
  | .text | .url | .email =>
    let some fv := fv | .error (.noValue "value")
    return compareText op (fv.value.getD "") operand
  | .number | .currency | .percent | .rating =>
    let some fv := fv | .error (.noValue "numeric_value")
    match fv.numericValue, parseNumber? operand with
    | some d, some target => return compareFloats op d.toFloat target
    | _, _ => return false
  | .date =>
    let some fv := fv | .error (.noValue "date_value")
    match fv.dateValue with
    | none => return false
    | some actual =>
      match ← parseTimestamp? operand with
      | none => return false
      | some target =>
        match op with
        | .equals => return (actual.millis - target).natAbs < dateTolerance
        | .before => return actual.millis < target
        | .after => return actual.millis > target
        | _ => return true
  | .checkbox =>
    let checked := (fv.bind (·.booleanValue)) == some true
    match op with
    | .isTrue => return checked
    | .isFalse => return !checked
    | _ => return true
  | .select =>
    if op == .equals || op == .notEquals then
      let some fv := fv | .error (.noValue "value")
      return compareText op (fv.value.getD "") operand
    else return true
  | .multiselect =>
    let some fv := fv | .error (.noValue "list_value")
    let selected := (fv.listValue.getD []).map Text.toLower
    match op with
    | .contains => return selected.contains (Text.toLower operand)
    | .notContains => return !selected.contains (Text.toLower operand)
    | _ => return true
  | .formula | .rollup =>
    if op == .equals || op == .contains then
      return compareText op (← (← t.read fv).display) operand
    else return true

end FieldCalc
