import FieldCalc.Formula.Rollup

/-!
Custom fields: their types, definitions and stored values.

A project defines custom fields of thirteen types. A field definition names
the field and, depending on the type, carries options (select and
multiselect), a formula (formula fields), a rollup source and aggregation
(rollup fields) or a currency code (currency fields).

A stored value has five slots, of which the field's type reads one: text,
a decimal, a moment (milliseconds since the epoch, UTC), a truth value or a
list of texts. Identifiers of fields and tasks are integers or texts, and an
integer is never equal to a text, even one that spells it.
-/

namespace FieldCalc

/-- The types of custom fields. -/
inductive FieldType where
  | text
  | url
  | email
  | number
  | currency
  | percent
  | rating
  | date
  | checkbox
  | select
  | multiselect
  | formula
  | rollup
  deriving Repr, DecidableEq

namespace FieldType

def name : FieldType → String
  | .text => "text"
  | .url => "url"
  | .email => "email"
  | .number => "number"
  | .currency => "currency"
  | .percent => "percent"
  | .rating => "rating"
  | .date => "date"
  | .checkbox => "checkbox"
  | .select => "select"
  | .multiselect => "multiselect"
  | .formula => "formula"
  | .rollup => "rollup"

def all : List FieldType :=
  [.text, .url, .email, .number, .currency, .percent, .rating, .date, .checkbox, .select,
    .multiselect, .formula, .rollup]

def ofName? (s : String) : Option FieldType := all.find? (·.name == s)

/-- Whether fields of the type are computed rather than entered. -/
def isComputed : FieldType → Bool
  | .formula | .rollup => true
  | _ => false

def hasOptions : FieldType → Bool
  | .select | .multiselect => true
  | _ => false

end FieldType

def maxRating : Nat := 5

/-- The identifier of a field or a task: an integer or a text. -/
inductive Ident where
  | int (n : Int)
  | text (s : String)
  deriving Repr, DecidableEq, Inhabited

/-- The text of an identifier: the digits of an integer, a text as it is. -/
def Ident.shown : Ident → String
  | .int n => Number.intText n
  | .text s => s

/-- A choice of a select or multiselect field. -/
structure FieldOption where
  label : String
  value : String
  color : Option String := none
  deriving Repr

/-- The source field and aggregation of a rollup field. -/
structure RollupConfig where
  sourceFieldName : String
  aggregation : Formula.Aggregation
  deriving Repr

/-- The definition of a custom field. -/
structure FieldDefinition where
  id : Ident
  name : String
  type : FieldType
  options : List FieldOption := []
  formula : Option String := none
  rollupConfig : Option RollupConfig := none
  currencyCode : Option String := none
  deriving Repr

/-- The label of the option stored as a value, or the value itself. -/
def FieldDefinition.optionLabel (f : FieldDefinition) (value : String) : String :=
  match f.options.find? (·.value == value) with
  | some o => o.label
  | none => value

/-- The stored value of one field on one task. -/
structure FieldValue where
  fieldId : Ident
  taskId : Ident
  value : Option String := none
  numericValue : Option Decimal := none
  dateValue : Option Calendar.Instant := none
  booleanValue : Option Bool := none
  listValue : Option (List String) := none
  deriving Repr

/-- The built-in attributes of a task. -/
structure TaskSnapshot where
  id : Ident
  title : String := ""
  description : Option String := none
  status : Option String := none
  priority : Option String := none
  deadline : Option Calendar.Instant := none
  progress : Option Float := none

end FieldCalc
