import FieldCalc.Formula.Expr
import FieldCalc.Formula.Context
import FieldCalc.Formula.Operators
import FieldCalc.Formula.Catalog
import FieldCalc.Text.Case

/-!
Evaluating formulas.

Every field reference is resolved before evaluation starts, so a formula that
names a missing field fails with `#REF!` even when the reference sits in a
branch that would not be taken. Operands are then evaluated from left to
right; `AND` and `OR` stop at the first operand that decides them, and the
logical functions evaluate only the arguments they need.

Evaluation runs under a budget of nested steps: each node, each operator and
each call uses steps of the budget while its operands are evaluated, and a
formula nested beyond the budget cannot be evaluated. `IFERROR` and `ISERROR`
catch formula errors only, never that failure.

An operator or a function call reports an arithmetic fault of its own work as
a formula error: `#DIV/0!` for a division by zero and `Arithmetic error: …`
otherwise.
-/

namespace FieldCalc.Formula

/-- An argument of a function that evaluates its arguments as needed. -/
abbrev Thunk := Unit → Except Fault Value

def guarded {α : Type} (x : Except Fault α) : Except Fault α :=
  match x with
  | .ok a => .ok a
  | .error f => .error f.asFormula

def flatten (vals : List Value) : List Value :=
  vals.flatMap fun v => match v with
    | .list xs => xs.map Value.string
    | v => [v]

def numbersOf (vals : List Value) : List Number :=
  (flatten vals).filterMap fun v => match v with
    | .number n => some n
    | _ => none

def decimalValue (d : Decimal) : Except Fault Value :=
  return .number (← normalizeDecimal (.finite d))

/-- The smallest of a list of numbers; the first of equal ones. -/
def minOf : List Number → Option Number
  | [] => none
  | n :: ns => some (ns.foldl (fun m x => if x.compare m == .lt then x else m) n)

/-- The largest of a list of numbers; the first of equal ones. -/
def maxOf : List Number → Option Number
  | [] => none
  | n :: ns => some (ns.foldl (fun m x => if x.compare m == .gt then x else m) n)

/-- The suffix of a text after a start index that may be negative and then
counts from the end, as slices do. -/
def dropFrom (cs : List Char) (start : Int) : List Char :=
  let start := if start < 0 then start + cs.length else start
  cs.drop start.toNat

/-- Replace occurrences of a non-empty text from left to right, at most
`limit` of them when a limit is given. -/
def replaceText (s old new : List Char) (limit : Option Nat) : List Char :=
  match s with
  | [] => []
  | c :: rest =>
    if _h : limit == some 0 || old = [] then c :: rest
    else if old.isPrefixOf (c :: rest) then
      new ++ replaceText ((c :: rest).drop old.length) old new (limit.map (· - 1))
    else c :: replaceText rest old new limit
termination_by s.length
decreasing_by
  · have : 0 < old.length := List.length_pos_iff.mpr (by simp_all)
    simp only [List.length_drop, List.length_cons]
    omega
  · simp

/-- The first index at or after `start` where `sub` occurs in `s`. -/
def findFrom (s sub : List Char) (start : Nat) : Option Nat :=
  if start > s.length then none
  else ((List.range (s.length - start + 1)).find? fun k =>
    sub.isPrefixOf (s.drop (start + k))).map (start + ·)

/-- A date argument: null as no date, a moment or a number as milliseconds,
text that reads as a moment; anything else is refused for the function
named. -/
def dateArg (v : Value) (name : String) : Except Fault (Option Int) := do
  let refuse : Except Fault (Option Int) := do
    .error (.type (name ++ " expects a date, got " ++ v.kind.name ++ " '" ++ (← v.display) ++ "'"))
  match v with
  | .null => return none
  | .timestamp ms => return some ms
  | .number n => return some (← arith n.trunc)
  | .string s =>
    match ← parseTimestamp? s with
    | some ms => return some ms
    | none => refuse
  | _ => refuse

def datePart (v : Value) (name : String) (part : Calendar.Moment → Nat) : Except Fault Value := do
  match ← dateArg v name with
  | none => return .null
  | some ms =>
    match Calendar.Moment.ofMillis ms with
    | .ok m => return .number (.int (part m))
    | .error e => .error (.moment e)

/-- Round to `places` decimal places, a half away from zero, through the text
of the number. -/
def roundNumber (n : Number) (places : Int) : Except Fault Value := do
  let d ← n.decimalOfText
  let scale ← match Decimal.unitScale (-places) with
    | .ok s => pure s
    | .error e => .error (.decimal e)
  match d.quantizeHalfUp scale with
  | .ok d => decimalValue d
  | .error e => .error (.decimal e)

/-- A text repeated; a count beyond the addressable size is an arithmetic
fault. -/
def repeatText (s : String) (count : Int) : Except Fault Value :=
  let n := max 0 count
  if n ≥ Nat.pow 2 63 then .error (.type "Arithmetic error: cannot fit 'int' into an index-sized integer")
  else if s.length * n.toNat ≥ Nat.pow 2 63 then .error (.type "Arithmetic error: repeated string is too long")
  else .ok (.string (String.join (List.replicate n.toNat s)))

def applyEager (ctx : Context) (f : Builtin) (args : List Value) : Except Fault Value := do
  let display (v : Value) := v.display
  match f, args with
  | .sum, vals => decimalValue (Decimal.sum (← (numbersOf vals).mapM Number.decimalOfText))
  | .avg, vals =>
    let ns := numbersOf vals
    if ns.isEmpty then return .number (.int 0)
    decimalValue ((Decimal.sum (← ns.mapM Number.decimalOfText)).divNat ns.length)
  | .count, vals => return .number (.int ((flatten vals).filter (!·.isNull)).length)
  | .min, vals =>
    match minOf (numbersOf vals) with
    | some n => Value.ofNumber n
    | none => return .null
  | .max, vals =>
    match maxOf (numbersOf vals) with
    | some n => Value.ofNumber n
    | none => return .null
  | .negation, [v] => return .boolean !v.isTruthy
  | .isNull, [v] => return .boolean v.isNull
  | .concat, vals => return .string (String.join (← (flatten vals).mapM display))
  | .upper, [v] => return .string (Text.toUpper (← display v))
  | .lower, [v] => return .string (Text.toLower (← display v))
  | .trim, [v] => return .string (Text.trim (← display v))
  | .len, [v] => return .number (.int (← display v).length)
  | .text, [v] => return .string (← display v)
  | .left, v :: rest => do
    let n ← match rest with
      | [c] => pure (max 0 (← toInteger c "LEFT"))
      | _ => pure 1
    return .string (String.ofList ((← display v).toList.take n.toNat))
  | .right, v :: rest => do
    let n ← match rest with
      | [c] => pure (max 0 (← toInteger c "RIGHT"))
      | _ => pure 1
    let s := (← display v).toList
    if n == 0 then return .string ""
    return .string (String.ofList (dropFrom s (s.length - n)))
  | .mid, [v, start, count] => do
    let begin := max 1 (← toInteger start "MID") - 1
    let length := max 0 (← toInteger count "MID")
    let s := (← display v).toList
    return .string (String.ofList ((s.drop begin.toNat).take length.toNat))
  | .substitute, v :: old :: new :: rest => do
    let s ← display v
    let target ← display old
    let replacement ← display new
    if target.isEmpty then return .string s
    let limit ← match rest with
      | [c] => pure (some (max 0 (← toInteger c "SUBSTITUTE")).toNat)
      | _ => pure none
    return .string (String.ofList (replaceText s.toList target.toList replacement.toList limit))
  | .search, find :: within :: rest => do
    let offset ← match rest with
      | [c] => pure (max 1 (← toInteger c "SEARCH") - 1)
      | _ => pure 0
    let w := Text.toLower (← display within)
    let f := Text.toLower (← display find)
    match findFrom w.toList f.toList offset.toNat with
    | some i => return .number (.int (i + 1))
    | none => return .null
  | .rept, [v, count] => do
    let s ← display v
    repeatText s (← toInteger count "REPT")
  | .round, n :: rest => do
    let places ← match rest with
      | [p] => toInteger p "ROUND"
      | _ => pure 0
    roundNumber (← toNumber n "ROUND") places
  | .floor, [n] => Value.ofNumber (.int (← arith (← toNumber n "FLOOR").floor))
  | .ceil, [n] => Value.ofNumber (.int (← arith (← toNumber n "CEIL").ceil))
  | .abs, [n] => Value.ofNumber (← toNumber n "ABS").abs
  | .sqrt, [n] => do
    let x ← toNumber n "SQRT"
    if x.isNeg then .error (.type "SQRT of a negative number")
    Value.ofNumber (.float (← arith x.toFloat).sqrt)
  | .power, [b, e] => power b e
  | .mod, [n, d] => do
    let r ← remainder n d
    let dv ← toNumber d "MOD"
    match r with
    | .number rn =>
      if !rn.isZero && rn.isNeg != dv.isNeg then Value.ofNumber (← arith (rn.add dv))
      else return r
    | _ => return r
  | .number, [v] =>
    match v with
    | .string s =>
      match parseNumber? s with
      | some x => Value.ofNumber (.float x)
      | none => return .null
    | .list _ => return .null
    | v =>
      match v.asNumber? with
      | some n => Value.ofNumber n
      | none => return .null
  | .now, _ => return .timestamp ctx.now
  | .today, _ => return .timestamp (ctx.now - ctx.now % msPerDay)
  | .daysBetween, [a, b] => do
    let start ← dateArg a "DAYS_BETWEEN"
    let stop ← dateArg b "DAYS_BETWEEN"
    match start, stop with
    | some s, some t =>
      let q ← arith ((Number.int (t - s).natAbs).div (.int msPerDay))
      Value.ofNumber (.int (← arith q.ceil))
    | _, _ => return .null
  | .dateAdd, [v, days] => do
    match ← dateArg v "DATE_ADD" with
    | none => return .null
    | some ms => shiftDays ms (← toNumber days "DATE_ADD")
  | .year, [v] => datePart v "YEAR" fun m => m.date.year.toNat
  | .month, [v] => datePart v "MONTH" fun m => m.date.month
  | .day, [v] => datePart v "DAY" fun m => m.date.day
  | .weekday, [v] => datePart v "WEEKDAY" fun m => (Calendar.mondayWeekday m.dayNumber + 1) % 7
  | _, _ => return .null

/-- Apply a function that evaluates its arguments as it needs them. -/
def applyLazy (f : Builtin) (args : List Thunk) : Except Fault Value := do
  match f, args with
  | .choose, cond :: ifTrue :: rest =>
    if (← cond ()).isTruthy then ifTrue ()
    else match rest with
      | ifFalse :: _ => ifFalse ()
      | [] => return .null
  | .ifs, args =>
    if args.length % 2 == 1 then
      .error (.formula (.argument "IFS" "IFS expects condition/value pairs"))
    let rec pairs : List Thunk → Except Fault Value
      | cond :: value :: rest => do
        if (← cond ()).isTruthy then value () else pairs rest
      | _ => return .null
    pairs args
  | .switch, subject :: cases => do
    let s ← subject ()
    let rec firstCase : List Thunk → Except Fault Value
      | c :: value :: rest => do
        if valuesEqual s (← c ()) then value () else firstCase rest
      | [default] => default ()
      | [] => return .null
    firstCase cases
  | .all, args =>
    let rec allTrue : List Thunk → Except Fault Bool
      | [] => return true
      | a :: rest => do if (← a ()).isTruthy then allTrue rest else return false
    return .boolean (← allTrue args)
  | .any, args =>
    let rec anyTrue : List Thunk → Except Fault Bool
      | [] => return false
      | a :: rest => do if (← a ()).isTruthy then return true else anyTrue rest
    return .boolean (← anyTrue args)
  | .ifNull, [value, fallback] => do
    let r ← value ()
    if r.isNull then fallback () else return r
  | .isError, [e] =>
    match e () with
    | .ok _ => return .boolean false
    | .error (.formula _) => return .boolean true
    | .error f => .error f
  | .ifError, [value, fallback] =>
    match value () with
    | .ok v => return v
    | .error (.formula _) => fallback ()
    | .error f => .error f
  | _, _ => return .null

/-- Steps of the budget that a call of a lazy function uses before its
arguments are evaluated: the call, the function and the argument itself, and
one more for `AND` and `OR`, which walk their arguments. -/
def lazySteps (f : Builtin) : Nat := if f == .all || f == .any then 4 else 3

mutual

def eval (ctx : Context) : Nat → Expr → Except Fault Value
  | 0, _ => .error .tooDeep
  | b + 1, e =>
    match e with
    | .number n => Value.ofNumber n
    | .string s => .ok (.string s)
    | .boolean v => .ok (.boolean v)
    | .null => .ok .null
    | .field name => ctx.resolve name
    | .call name args => evalCall ctx b name args
    | .binary op l r => evalBinary ctx b op l r
    | .unary op x => evalUnary ctx b op x

def evalBinary (ctx : Context) : Nat → BinOp → Expr → Expr → Except Fault Value
  | 0, _, _, _ => .error .tooDeep
  | b + 1, op, l, r =>
    match op with
    | .and => do
      if !(← eval ctx b l).isTruthy then return .boolean false
      return .boolean (← eval ctx b r).isTruthy
    | .or => do
      if (← eval ctx b l).isTruthy then return .boolean true
      return .boolean (← eval ctx b r).isTruthy
    | op => do
      let lv ← eval ctx b l
      let rv ← eval ctx b r
      match op with
      | .eq => return .boolean (valuesEqual lv rv)
      | .ne => return .boolean !(valuesEqual lv rv)
      | .lt => return .boolean (← compareValues lv rv .lt)
      | .gt => return .boolean (← compareValues lv rv .gt)
      | .le => return .boolean (← compareValues lv rv .le)
      | .ge => return .boolean (← compareValues lv rv .ge)
      | .add => guarded (add lv rv)
      | .sub => guarded (subtract lv rv)
      | .mul => guarded (multiply lv rv)
      | .div => guarded (divide lv rv)
      | .mod => guarded (remainder lv rv)
      | .pow => guarded (power lv rv)
      | .concat => guarded (concat lv rv)
      | _ => return .null

def evalUnary (ctx : Context) : Nat → UnOp → Expr → Except Fault Value
  | 0, _, _ => .error .tooDeep
  | b + 1, op, x => do
    let v ← eval ctx b x
    match op with
    | .neg => negate v
    | .plus => Value.ofNumber (← toNumber v "unary plus")
    | .not => return .boolean !v.isTruthy

/-- Evaluate a call: the function must exist and accept the number of
arguments. -/
def evalCall (ctx : Context) : Nat → String → List Expr → Except Fault Value
  | 0, _, _ => .error .tooDeep
  | b + 1, name, args =>
    match lookupFunction name with
    | none => .error (.formula (.unknownFunction name))
    | some info =>
      match info.arityError? args.length with
      | some e => .error (.formula e)
      | none =>
        if info.builtin.isLazy then
          match b with
          | c + 3 =>
            let steps := lazySteps info.builtin - 3
            let thunks := args.map fun a => fun (_ : Unit) => eval ctx (c - steps) a
            guarded (applyLazy info.builtin thunks)
          | _ => .error .tooDeep
        else do
          let vals ← evalArgs ctx b args
          guarded (applyEager ctx info.builtin vals)

def evalArgs (ctx : Context) : Nat → List Expr → Except Fault (List Value)
  | 0, _ => .error .tooDeep
  | b + 1, args => args.mapM (eval ctx b)

end

def nestingBudget : Nat := 994

/-- Evaluate a formula: resolve every field reference first, then evaluate
under the nesting budget. -/
def evaluate (ctx : Context) (e : Expr) : Except Fault Value := do
  for name in e.fieldRefs do
    let _ ← ctx.resolve name
  eval ctx nestingBudget e

end FieldCalc.Formula
