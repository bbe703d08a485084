import FieldCalc.Field.Slot
import FieldCalc.Number.Fixed

/-!
Display text of stored values.

Numbers show as in formulas, percentages with a `%` after them, ratings as
five stars of which the whole part of the rating (at most five) is filled,
and checkboxes as `Yes` or `No`. Select types show the labels of their
options when the field is known. Currency amounts show a sign, the symbol of
the field's currency (US dollars by default; a code without a symbol is
written before the amount) and the magnitude with two places and grouped
thousands. Dates and computed fields show the display text of their value.
A task without a value shows the empty text.
-/

namespace FieldCalc

def defaultCurrency : String := "USD"

def currencySymbols : List (String × String) :=
  [("USD", "$"), ("EUR", "€"), ("GBP", "£"), ("JPY", "¥"), ("CNY", "¥"), ("KRW", "₩"),
    ("INR", "₹"), ("BRL", "R$"), ("CAD", "CA$"), ("AUD", "A$"), ("CHF", "CHF"), ("MXN", "MX$")]

def currencyPrefix (code : String) : String :=
  match currencySymbols.lookup code with
  | some s => s
  | none => code ++ " "

/-- An amount of a currency: sign, symbol, magnitude with two places. -/
def currencyText (code : String) (amount : Decimal) : String :=
  let x := amount.toFloat
  (if x < 0 then "-" else "") ++ currencyPrefix code ++ Binary.fixedMagnitude x 2 true

/-- A rating as stars: the whole part, kept between zero and five, filled. -/
def ratingStars (rating : Decimal) : String :=
  let filled := (max 0 (min (maxRating : Int) rating.trunc)).toNat
  String.join (List.replicate filled "★") ++ String.join (List.replicate (maxRating - filled) "☆")

namespace FieldType

/-- The display text of a task's stored value of a field of the type; the
definition gives option labels and the currency. -/
def display (t : FieldType) (fv : Option FieldValue) (field : Option FieldDefinition) :
    Except Fault String :=
  match t with
  | .text | .url | .email => .ok ((fv.bind (·.value)).getD "")
  | .number | .currency | .percent | .rating =>
    match fv.bind (·.numericValue) with
    | none => .ok ""
    | some d =>
      match t with
      | .currency =>
        .ok (currencyText ((field.bind (·.currencyCode)).getD defaultCurrency) d)
      | .rating => .ok (ratingStars d)
      | t => do
        let n ← normalizeDecimal (.finite d)
        return formatNumber n ++ (if t == .percent then "%" else "")
  | .checkbox =>
    match fv.bind (·.booleanValue) with
    | some b => .ok (if b then "Yes" else "No")
    | none => .ok ""
  | .select =>
    match fv.bind (·.value) with
    | none | some "" => .ok ""
    | some v =>
      match field with
      | some f => .ok (f.optionLabel v)
      | none => .ok v
  | .multiselect =>
    match fv.bind (·.listValue) with
    | none | some [] => .ok ""
    | some xs =>
      match field with
      | some f => .ok (", ".intercalate (xs.map f.optionLabel))
      | none => .ok (", ".intercalate xs)
  | .date | .formula | .rollup => do (← t.read fv).display

end FieldType

end FieldCalc
