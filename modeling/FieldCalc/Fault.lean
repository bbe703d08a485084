import FieldCalc.Number.Basic
import FieldCalc.Number.Decimal
import FieldCalc.Calendar.Civil
import FieldCalc.Text.Quote

/-!
What can go wrong while computing with field values and formulas.

A `FormulaError` is a fault of a formula or of its inputs. It carries the code
shown in the cell: `#REF!` for a missing field, `#DIV/0!` for a division by
zero and `#ERROR!` for everything else. Evaluation reports it as a failed
result.

A `Fault` is any failure of a computation: a formula error, an arithmetic
fault (a result beyond the float range), a decimal operation without a
result, a moment that cannot be placed on the calendar, text that does not
read as what it should, or a formula nested too deeply to evaluate; or a
request the library refuses: a value a field does not accept, a filter rule
that does not fit its field, an unknown field type or operator, or a
definition that breaks its schema. Operators and
function calls turn arithmetic faults into formula errors; the others reach
the caller as they are.
-/

namespace FieldCalc

/-- What kind of problem a formula check reports. -/
inductive CheckKind where
  | malformed
  | unbalanced
  | unknownFunction
  | unknownField
  | invalidArguments
  deriving Repr, DecidableEq

def CheckKind.name : CheckKind → String
  | .malformed => "syntax"
  | .unbalanced => "unbalanced"
  | .unknownFunction => "unknown_function"
  | .unknownField => "unknown_field"
  | .invalidArguments => "invalid_arguments"

/-- The code a failed formula shows in its cell. -/
inductive ErrorCode where
  | ref
  | error
  | divZero
  deriving Repr, DecidableEq

def ErrorCode.text : ErrorCode → String
  | .ref => "#REF!"
  | .error => "#ERROR!"
  | .divZero => "#DIV/0!"

/-- A fault of a formula or of its inputs. -/
inductive FormulaError where
  /-- The source is malformed; `position` is where reading stopped, if known. -/
  | malformed (message : String) (kind : CheckKind) (position : Option Nat)
  /-- A field that does not exist. -/
  | reference (name : String) (message : String)
  /-- A division or remainder by zero. -/
  | divisionByZero
  /-- An operator or function met a value it cannot use. -/
  | type (message : String)
  /-- A call of a function that does not exist. -/
  | unknownFunction (name : String)
  /-- A call with arguments a function does not accept. -/
  | argument (name : String) (message : String)
  /-- An aggregation that is unknown or undefined for its input. -/
  | aggregation (message : String)
  deriving Repr, DecidableEq

namespace FormulaError

def message : FormulaError → String
  | .malformed m _ _ => m
  | .reference _ m => m
  | .divisionByZero => "Division by zero"
  | .type m => m
  | .unknownFunction n => "Unknown function: " ++ n
  | .argument _ m => m
  | .aggregation m => m

def code : FormulaError → ErrorCode
  | .reference _ _ => .ref
  | .divisionByZero => .divZero
  | _ => .error

def unknownField (name : String) : FormulaError := .reference name ("Unknown field: " ++ name)

end FormulaError

/-- A failure of a computation with values. -/
inductive Fault where
  /-- A formula error. -/
  | formula (e : FormulaError)
  /-- An arithmetic result beyond the float range, or undefined. -/
  | arithmetic (e : ArithFault)
  /-- A decimal operation without a result. -/
  | decimal (s : DecimalSignal)
  /-- A moment that cannot be placed on the calendar. -/
  | moment (e : Calendar.MomentFault)
  /-- A text of digits that does not read as a whole number. -/
  | badInteger (text : String)
  /-- An integer of more than `Number.maxStrDigits` digits to be written as text. -/
  | digitLimit
  /-- A numeral of `count` digits, more than `Number.maxStrDigits`, to be read. -/
  | tooManyDigits (count : Nat)
  /-- A text that is no ISO date or date-time. -/
  | badIsoFormat (text : String)
  /-- A text that is no float. -/
  | badFloat (text : String)
  /-- Data of a kind that has no float reading, named by its kind. -/
  | notReal (kind : String)
  /-- A signaling decimal NaN was to become a float. -/
  | signalingNaN
  /-- A formula nested too deeply to evaluate. -/
  | tooDeep
  /-- A value entered for a field that the field does not accept. -/
  | rejectedValue (message : String)
  /-- A filter rule that does not fit its field. -/
  | invalidRule (message : String)
  /-- A field type that does not exist. -/
  | unknownFieldType (name : String)
  /-- A definition that breaks its schema, one problem per entry. -/
  | invalidSchema (problems : List String)
  /-- A text that names no filter operator, as it is shown. -/
  | unknownOperator (shown : String)
  /-- A part was needed and there was none; `slot` is the part read. -/
  | noValue (slot : String)
  /-- A log level that does not exist. -/
  | unknownLevel (name : String)
  /-- A console layout without a single conversion of a keyed attribute. -/
  | badLayout (layout : String)
  deriving Repr

namespace Fault

def type (m : String) : Fault := .formula (.type m)

def message : Fault → String
  | .formula e => e.message
  | .arithmetic e => e.message
  | .decimal .invalidOperation => "[<class 'decimal.InvalidOperation'>]"
  | .decimal .overflow => "[<class 'decimal.Overflow'>]"
  | .decimal .conversionSyntax => "[<class 'decimal.ConversionSyntax'>]"
  | .moment .quotientTooLarge => "integer division result too large for a float"
  | .moment .outOfTimeRange => "timestamp out of range for platform time_t"
  | .moment .yearOverflow => "[Errno 75] Value too large for defined data type"
  | .moment (.yearOutOfRange y) => "year " ++ Number.intText y ++ " is out of range"
  | .badInteger t => "invalid literal for int() with base 10: " ++ String.ofList ((Text.quote t).toList.take 200)
  | .digitLimit => "Exceeds the limit (4300 digits) for integer string conversion; " ++
      "use sys.set_int_max_str_digits() to increase the limit"
  | .tooManyDigits n => "Exceeds the limit (4300 digits) for integer string conversion: value has " ++
      Nat.repr n ++ " digits; use sys.set_int_max_str_digits() to increase the limit"
  | .badIsoFormat t => "Invalid isoformat string: " ++ Text.quote t
  | .badFloat t => "could not convert string to float: " ++ Text.quote t
  | .notReal k => "float() argument must be a string or a real number, not '" ++ k ++ "'"
  | .signalingNaN => "cannot convert signaling NaN to float"
  | .tooDeep => "Formula is nested too deeply"
  | .rejectedValue m => m
  | .invalidRule m => m
  | .unknownFieldType n => "Invalid field type: " ++ n
  | .invalidSchema ps => "; ".intercalate ps
  | .unknownOperator t => t ++ " is not a valid FilterOperator"
  | .noValue slot => "'NoneType' object has no attribute '" ++ slot ++ "'"
  | .unknownLevel n => "Unknown level: " ++ Text.quote n
  | .badLayout l => "Invalid format '" ++ l ++ "' for '%' style"

/-- Whether operators and function calls report the fault as an arithmetic
error of the formula: results beyond the float range and moments too far
from the epoch. -/
def isArithmetic : Fault → Bool
  | .arithmetic _ => true
  | .decimal _ => true
  | .moment .quotientTooLarge => true
  | .moment .outOfTimeRange => true
  | _ => false

/-- The formula error an operator or function call reports for a fault:
division by zero as itself, any other arithmetic fault as an arithmetic
error with its message. -/
def asFormula (f : Fault) : Fault :=
  match f with
  | .arithmetic .divisionByZero => .formula .divisionByZero
  | f => if f.isArithmetic then .formula (.type ("Arithmetic error: " ++ f.message)) else f

end Fault

end FieldCalc
