import FieldCalc.Field.Basic

/-!
Filter operators and which of them each field type offers.

Fourteen operators compare a field's stored value with an operand or test it
alone. Each field type offers a fixed list of them, in the order an editor
shows them; an operator outside that list is not available for the type.
The emptiness tests and the checkbox tests take no operand.
-/

namespace FieldCalc

/-- A filter operator. -/
inductive FilterOperator where
  | equals
  | notEquals
  | contains
  | notContains
  | greaterThan
  | lessThan
  | greaterOrEqual
  | lessOrEqual
  | before
  | after
  | isTrue
  | isFalse
  | isEmpty
  | isNotEmpty
  deriving Repr, DecidableEq

namespace FilterOperator

def name : FilterOperator → String
  | .equals => "equals"
  | .notEquals => "not_equals"
  | .contains => "contains"
  | .notContains => "not_contains"
  | .greaterThan => "greater_than"
  | .lessThan => "less_than"
  | .greaterOrEqual => "greater_or_equal"
  | .lessOrEqual => "less_or_equal"
  | .before => "before"
  | .after => "after"
  | .isTrue => "is_true"
  | .isFalse => "is_false"
  | .isEmpty => "is_empty"
  | .isNotEmpty => "is_not_empty"

def all : List FilterOperator :=
  [.equals, .notEquals, .contains, .notContains, .greaterThan, .lessThan, .greaterOrEqual,
    .lessOrEqual, .before, .after, .isTrue, .isFalse, .isEmpty, .isNotEmpty]

def ofName? (s : String) : Option FilterOperator := all.find? (·.name == s)

def label : FilterOperator → String
  | .equals => "is"
  | .notEquals => "is not"
  | .contains => "contains"
  | .notContains => "does not contain"
  | .greaterThan => ">"
  | .lessThan => "<"
  | .greaterOrEqual => "≥"
  | .lessOrEqual => "≤"
  | .before => "is before"
  | .after => "is after"
  | .isTrue => "is checked"
  | .isFalse => "is unchecked"
  | .isEmpty => "is empty"
  | .isNotEmpty => "is not empty"

def needsValue : FilterOperator → Bool
  | .isEmpty | .isNotEmpty | .isTrue | .isFalse => false
  | _ => true

end FilterOperator

/-- The operators a field type offers, in the order an editor shows them. -/
def FieldType.operators : FieldType → List FilterOperator
  | .text | .url | .email => [.contains, .equals, .notContains, .isEmpty, .isNotEmpty]
  | .number | .currency | .percent =>
    [.equals, .notEquals, .greaterThan, .lessThan, .greaterOrEqual, .lessOrEqual, .isEmpty,
      .isNotEmpty]
  | .date => [.equals, .before, .after, .isEmpty, .isNotEmpty]
  | .checkbox => [.isTrue, .isFalse]
  | .select => [.equals, .notEquals, .isEmpty, .isNotEmpty]
  | .multiselect => [.contains, .notContains, .isEmpty, .isNotEmpty]
  | .rating => [.equals, .greaterThan, .lessThan, .greaterOrEqual, .lessOrEqual]
  | .formula | .rollup => [.equals, .contains, .isEmpty, .isNotEmpty]

def FieldType.offers (t : FieldType) (op : FilterOperator) : Bool := t.operators.contains op

/-- The operators of a field type named by text; none for an unknown type. -/
def operatorsOf (typeName : String) : List FilterOperator :=
  match FieldType.ofName? typeName with
  | some t => t.operators
  | none => []

/-- Whether a field type named by text offers an operator named by text. -/
def operatorAllowed (typeName opName : String) : Bool :=
  match FilterOperator.ofName? opName with
  | some op => (operatorsOf typeName).contains op
  | none => false

/-- The operator a text names; an unknown name is refused. -/
def FilterOperator.parse (s : String) : Except Fault FilterOperator :=
  match FilterOperator.ofName? s with
  | some op => .ok op
  | none => .error (.unknownOperator (Text.quote s))

end FieldCalc
