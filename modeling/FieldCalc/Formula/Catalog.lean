import FieldCalc.Value

/-!
The functions of the formula language: their names, what they do and how many
arguments they take.

Some functions have a second name (`AVERAGE` for `AVG`, `ISBLANK` for
`ISNULL`, `CEILING` for `CEIL`, `VALUE` for `NUMBER`); each name has its own
entry, whose usage line shows that name. The logical functions `IF`, `IFS`,
`SWITCH`, `AND`, `OR`, `IFNULL`, `ISERROR` and `IFERROR` evaluate only the
arguments they need; all others receive every argument evaluated.
-/

namespace FieldCalc.Formula

/-- What a function computes. -/
inductive Builtin where
  | sum
  | avg
  | count
  | min
  | max
  | choose
  | ifs
  | switch
  | all
  | any
  | negation
  | isNull
  | ifNull
  | isError
  | ifError
  | concat
  | upper
  | lower
  | trim
  | len
  | left
  | right
  | mid
  | substitute
  | search
  | rept
  | text
  | round
  | floor
  | ceil
  | abs
  | sqrt
  | power
  | mod
  | number
  | now
  | today
  | daysBetween
  | dateAdd
  | year
  | month
  | day
  | weekday
  deriving Repr, DecidableEq

/-- Whether a function evaluates its arguments only as it needs them. -/
def Builtin.isLazy : Builtin → Bool
  | .choose | .ifs | .switch | .all | .any | .ifNull | .isError | .ifError => true
  | _ => false

/-- A function under one of its names. -/
structure FunctionInfo where
  name : String
  builtin : Builtin
  category : String
  description : String
  /-- How a call is written. -/
  usage : String
  minArgs : Nat
  /-- The most arguments it takes; `none` for any number. -/
  maxArgs : Option Nat
  /-- The kind of its result when that does not depend on the arguments. -/
  returns : Option Kind

/-- Every function under every name, in the order they are defined. -/
def catalog : List FunctionInfo := [
  { name := "SUM", builtin := .sum, category := "aggregate",
    description := "Sum of the numeric arguments",
    usage := "SUM(number1, number2, ...)", minArgs := 0, maxArgs := none,
    returns := some .number },
  { name := "AVG", builtin := .avg, category := "aggregate",
    description := "Average of the numeric arguments, 0 when there are none",
    usage := "AVG(number1, number2, ...)", minArgs := 0, maxArgs := none,
    returns := some .number },
  { name := "AVERAGE", builtin := .avg, category := "aggregate",
    description := "Average of the numeric arguments, 0 when there are none",
    usage := "AVERAGE(number1, number2, ...)", minArgs := 0, maxArgs := none,
    returns := some .number },
  { name := "COUNT", builtin := .count, category := "aggregate",
    description := "Number of non-null arguments",
    usage := "COUNT(value1, value2, ...)", minArgs := 0, maxArgs := none,
    returns := some .number },
  { name := "MIN", builtin := .min, category := "aggregate",
    description := "Smallest numeric argument, null when there are none",
    usage := "MIN(number1, number2, ...)", minArgs := 0, maxArgs := none,
    returns := none },
  { name := "MAX", builtin := .max, category := "aggregate",
    description := "Largest numeric argument, null when there are none",
    usage := "MAX(number1, number2, ...)", minArgs := 0, maxArgs := none,
    returns := none },
  { name := "IF", builtin := .choose, category := "logical",
    description := "Value depending on a condition; only the chosen branch is evaluated",
    usage := "IF(condition, value_if_true, value_if_false)", minArgs := 2, maxArgs := some 3,
    returns := none },
  { name := "IFS", builtin := .ifs, category := "logical",
    description := "Value of the first condition that holds, null if none does",
    usage := "IFS(condition1, value1, condition2, value2, ...)", minArgs := 2, maxArgs := none,
    returns := none },
  { name := "SWITCH", builtin := .switch, category := "logical",
    description := "Value paired with the first case equal to the expression",
    usage := "SWITCH(expression, case1, value1, ..., default)", minArgs := 3, maxArgs := none,
    returns := none },
  { name := "AND", builtin := .all, category := "logical",
    description := "TRUE if all arguments are true; stops at the first false one",
    usage := "AND(logical1, logical2, ...)", minArgs := 1, maxArgs := none,
    returns := some .boolean },
  { name := "OR", builtin := .any, category := "logical",
    description := "TRUE if any argument is true; stops at the first true one",
    usage := "OR(logical1, logical2, ...)", minArgs := 1, maxArgs := none,
    returns := some .boolean },
  { name := "NOT", builtin := .negation, category := "logical",
    description := "Logical negation",
    usage := "NOT(logical)", minArgs := 1, maxArgs := some 1,
    returns := some .boolean },
  { name := "ISNULL", builtin := .isNull, category := "logical",
    description := "TRUE if the value is null",
    usage := "ISNULL(value)", minArgs := 1, maxArgs := some 1,
    returns := some .boolean },
  { name := "ISBLANK", builtin := .isNull, category := "logical",
    description := "TRUE if the value is null",
    usage := "ISBLANK(value)", minArgs := 1, maxArgs := some 1,
    returns := some .boolean },
  { name := "IFNULL", builtin := .ifNull, category := "logical",
    description := "The value, or the fallback when the value is null",
    usage := "IFNULL(value, fallback)", minArgs := 2, maxArgs := some 2,
    returns := none },
  { name := "ISERROR", builtin := .isError, category := "logical",
    description := "TRUE if evaluating the expression fails",
    usage := "ISERROR(expression)", minArgs := 1, maxArgs := some 1,
    returns := some .boolean },
  { name := "IFERROR", builtin := .ifError, category := "logical",
    description := "The value, or the fallback when evaluating the value fails",
    usage := "IFERROR(value, fallback)", minArgs := 2, maxArgs := some 2,
    returns := none },
  { name := "CONCAT", builtin := .concat, category := "text",
    description := "Join values into one text",
    usage := "CONCAT(text1, text2, ...)", minArgs := 0, maxArgs := none,
    returns := some .string },
  { name := "UPPER", builtin := .upper, category := "text",
    description := "Convert to uppercase",
    usage := "UPPER(text)", minArgs := 1, maxArgs := some 1,
    returns := some .string },
  { name := "LOWER", builtin := .lower, category := "text",
    description := "Convert to lowercase",
    usage := "LOWER(text)", minArgs := 1, maxArgs := some 1,
    returns := some .string },
  { name := "TRIM", builtin := .trim, category := "text",
    description := "Remove leading and trailing whitespace",
    usage := "TRIM(text)", minArgs := 1, maxArgs := some 1,
    returns := some .string },
  { name := "LEN", builtin := .len, category := "text",
    description := "Number of characters",
    usage := "LEN(text)", minArgs := 1, maxArgs := some 1,
    returns := some .number },
  { name := "LEFT", builtin := .left, category := "text",
    description := "Leftmost characters",
    usage := "LEFT(text, count)", minArgs := 1, maxArgs := some 2,
    returns := some .string },
  { name := "RIGHT", builtin := .right, category := "text",
    description := "Rightmost characters",
    usage := "RIGHT(text, count)", minArgs := 1, maxArgs := some 2,
    returns := some .string },
  { name := "MID", builtin := .mid, category := "text",
    description := "Substring starting at a 1-based position",
    usage := "MID(text, start, count)", minArgs := 3, maxArgs := some 3,
    returns := some .string },
  { name := "SUBSTITUTE", builtin := .substitute, category := "text",
    description := "Replace occurrences of old text with new text",
    usage := "SUBSTITUTE(text, old, new, count)", minArgs := 3, maxArgs := some 4,
    returns := some .string },
  { name := "SEARCH", builtin := .search, category := "text",
    description := "1-based position of text within text, ignoring case; null if absent",
    usage := "SEARCH(find, within, start)", minArgs := 2, maxArgs := some 3,
    returns := none },
  { name := "REPT", builtin := .rept, category := "text",
    description := "Repeat text a number of times",
    usage := "REPT(text, count)", minArgs := 2, maxArgs := some 2,
    returns := some .string },
  { name := "TEXT", builtin := .text, category := "text",
    description := "Convert a value to text",
    usage := "TEXT(value)", minArgs := 1, maxArgs := some 1,
    returns := some .string },
  { name := "ROUND", builtin := .round, category := "math",
    description := "Round half away from zero to a number of decimal places",
    usage := "ROUND(number, decimals)", minArgs := 1, maxArgs := some 2,
    returns := some .number },
  { name := "FLOOR", builtin := .floor, category := "math",
    description := "Round down to an integer",
    usage := "FLOOR(number)", minArgs := 1, maxArgs := some 1,
    returns := some .number },
  { name := "CEIL", builtin := .ceil, category := "math",
    description := "Round up to an integer",
    usage := "CEIL(number)", minArgs := 1, maxArgs := some 1,
    returns := some .number },
  { name := "CEILING", builtin := .ceil, category := "math",
    description := "Round up to an integer",
    usage := "CEILING(number)", minArgs := 1, maxArgs := some 1,
    returns := some .number },
  { name := "ABS", builtin := .abs, category := "math",
    description := "Absolute value",
    usage := "ABS(number)", minArgs := 1, maxArgs := some 1,
    returns := some .number },
  { name := "SQRT", builtin := .sqrt, category := "math",
    description := "Square root",
    usage := "SQRT(number)", minArgs := 1, maxArgs := some 1,
    returns := some .number },
  { name := "POWER", builtin := .power, category := "math",
    description := "Number raised to a power",
    usage := "POWER(base, exponent)", minArgs := 2, maxArgs := some 2,
    returns := some .number },
  { name := "MOD", builtin := .mod, category := "math",
    description := "Remainder of a division, with the sign of the divisor",
    usage := "MOD(number, divisor)", minArgs := 2, maxArgs := some 2,
    returns := some .number },
  { name := "NUMBER", builtin := .number, category := "math",
    description := "Parse a value as a number, null if it is not numeric",
    usage := "NUMBER(value)", minArgs := 1, maxArgs := some 1,
    returns := none },
  { name := "VALUE", builtin := .number, category := "math",
    description := "Parse a value as a number, null if it is not numeric",
    usage := "VALUE(value)", minArgs := 1, maxArgs := some 1,
    returns := none },
  { name := "NOW", builtin := .now, category := "date",
    description := "Current date and time",
    usage := "NOW()", minArgs := 0, maxArgs := some 0,
    returns := some .timestamp },
  { name := "TODAY", builtin := .today, category := "date",
    description := "Current date at midnight UTC",
    usage := "TODAY()", minArgs := 0, maxArgs := some 0,
    returns := some .timestamp },
  { name := "DAYS_BETWEEN", builtin := .daysBetween, category := "date",
    description := "Whole days between two dates, rounded up; null if either is empty",
    usage := "DAYS_BETWEEN(date1, date2)", minArgs := 2, maxArgs := some 2,
    returns := none },
  { name := "DATE_ADD", builtin := .dateAdd, category := "date",
    description := "Date shifted by a number of days; null if the date is empty",
    usage := "DATE_ADD(date, days)", minArgs := 2, maxArgs := some 2,
    returns := none },
  { name := "YEAR", builtin := .year, category := "date",
    description := "Year of a date",
    usage := "YEAR(date)", minArgs := 1, maxArgs := some 1,
    returns := none },
  { name := "MONTH", builtin := .month, category := "date",
    description := "Month of a date (1-12)",
    usage := "MONTH(date)", minArgs := 1, maxArgs := some 1,
    returns := none },
  { name := "DAY", builtin := .day, category := "date",
    description := "Day of the month of a date (1-31)",
    usage := "DAY(date)", minArgs := 1, maxArgs := some 1,
    returns := none },
  { name := "WEEKDAY", builtin := .weekday, category := "date",
    description := "Day of the week of a date, 0 for Sunday through 6 for Saturday",
    usage := "WEEKDAY(date)", minArgs := 1, maxArgs := some 1,
    returns := none }
]

def lookupFunction (name : String) : Option FunctionInfo :=
  catalog.find? (·.name == name)

namespace FunctionInfo

/-- The arity check of a call: the message when the count of arguments is
outside what the function takes. -/
def arityError? (f : FunctionInfo) (count : Nat) : Option FormulaError :=
  let tooMany := match f.maxArgs with
    | some m => count > m
    | none => false
  if count < f.minArgs || tooMany then
    let expected := match f.maxArgs with
      | none => "at least " ++ Nat.repr f.minArgs
      | some m => if f.minArgs == m then Nat.repr m else Nat.repr f.minArgs ++ " to " ++ Nat.repr m
    some (.argument f.name (f.name ++ " expects " ++ expected ++ " argument(s), got " ++
      Nat.repr count ++ ". Usage: " ++ f.usage))
  else none

end FunctionInfo

def availableFunctions : List FunctionInfo :=
  catalog.mergeSort fun a b => decide (a.name ≤ b.name)

end FieldCalc.Formula
