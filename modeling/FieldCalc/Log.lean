import FieldCalc.Datum

/-!
Log records that the library emits while it works.

A record has a level, the name of the logger that emits it, a message and
extra fields in the order they were given, and the place of the call that
emitted it. The message is a template with `%s` in place of each argument,
filled with the arguments. The operations that emit records return them
beside their result, in the order of emission, so a caller can route them to
any sink.
-/

namespace FieldCalc

/-- The severity of a log record, least severe first. -/
inductive Level where
  | debug
  | info
  | warning
  | error
  | critical
  deriving Repr, DecidableEq

namespace Level

def name : Level → String
  | .debug => "DEBUG"
  | .info => "INFO"
  | .warning => "WARNING"
  | .error => "ERROR"
  | .critical => "CRITICAL"

def rank : Level → Nat
  | .debug => 10
  | .info => 20
  | .warning => 30
  | .error => 40
  | .critical => 50

def ofName? (s : String) : Option Level :=
  [Level.debug, .info, .warning, .error, .critical].find? (·.name == s)

end Level

/-- The place of the call that emits a record: the module, the function and
the line of the call. -/
structure Site where
  module : String
  function : String
  line : Nat
  deriving Repr, DecidableEq

/-- One log record. -/
structure LogRecord where
  level : Level
  logger : String
  /-- The message with `%s` in place of each argument. -/
  template : String
  /-- The arguments of the message, in order. -/
  args : List String
  site : Site
  extra : List (String × Datum) := []

/-- A template with each `%s` replaced by the next argument; once the
arguments run out the rest is kept as it is. -/
def fillTemplate : List Char → List String → List Char
  | '%' :: 's' :: rest, a :: more => a.toList ++ fillTemplate rest more
  | c :: rest, args => c :: fillTemplate rest args
  | [], _ => []

/-- The message of a record: its template filled with its arguments. -/
def LogRecord.message (r : LogRecord) : String :=
  if r.args.isEmpty then r.template else String.ofList (fillTemplate r.template.toList r.args)

/-- A result with the log records emitted while computing it. -/
structure Logged (α : Type) where
  value : α
  records : List LogRecord := []

namespace Logged

def pure {α : Type} (a : α) : Logged α := ⟨a, []⟩

/-- Run a second step on a result, keeping the records of both in order. -/
def bind {α β : Type} (x : Logged α) (f : α → Logged β) : Logged β :=
  let y := f x.value
  ⟨y.value, x.records ++ y.records⟩

instance : Monad Logged where
  pure := Logged.pure
  bind := Logged.bind

def emit (r : LogRecord) : Logged Unit := ⟨(), [r]⟩

end Logged

end FieldCalc
