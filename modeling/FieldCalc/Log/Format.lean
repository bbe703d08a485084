import FieldCalc.Log.Layout
import FieldCalc.Json.Codec

/-!
Writing log records.

Logging is set up with a level, by name in any case, and a style. Records
below the level are dropped. The first record is the one that reports the
setup itself. In the JSON style a record is an object with its level, logger
and message, and its extra fields when it has any. In the console style a
record is a line of a layout filled with the record's attributes (see
`FieldCalc.Layout`); the level name is wrapped in the ANSI colour of its
level before it is padded.
-/

namespace FieldCalc

/-- How records are written. -/
inductive LogStyle where
  | json
  | console (format : String)

/-- The setup of logging. -/
structure LogSetup where
  /-- The level's name as given, upper-cased. -/
  levelName : String
  /-- The lowest rank written. -/
  threshold : Nat
  style : LogStyle

/-- The rank of a level name; `WARN` and `FATAL` are other names of
`WARNING` and `CRITICAL`, and `NOTSET` lets every record through. -/
def levelRank? (name : String) : Option Nat :=
  match name with
  | "CRITICAL" | "FATAL" => some 50
  | "ERROR" => some 40
  | "WARNING" | "WARN" => some 30
  | "INFO" => some 20
  | "DEBUG" => some 10
  | "NOTSET" => some 0
  | _ => none

def setupLogger : String := "taskfields.core.logging"

/-- Set up logging with a level name in any case; a console layout must
hold an accepted conversion. -/
def LogSetup.make (level : String) (style : LogStyle) : Except Fault LogSetup :=
  let name := Text.toUpper level
  match levelRank? name with
  | none => .error (.unknownLevel name)
  | some r =>
    match style with
    | .console layout => if Layout.accepts layout then .ok ⟨name, r, style⟩ else .error (.badLayout layout)
    | .json => .ok ⟨name, r, style⟩

def LogSetup.record (s : LogSetup) : LogRecord :=
  ⟨.info, setupLogger, "Logging configured", [], ⟨"logging", "setup_logging", 151⟩,
    [("log_level", .text s.levelName), ("json_logs", .bool (match s.style with
      | .json => true
      | .console _ => false))]⟩

def Datum.toJson : Datum → Json
  | .none => .null
  | .bool b => .bool b
  | .int n => .int n
  | .float x => .float x
  | .text s => .str s
  | d => .str d.shown

def LogRecord.toJson (r : LogRecord) : Json :=
  let base := [("level", Json.str r.level.name), ("logger", .str r.logger), ("message", .str r.message)]
  if r.extra.isEmpty then .obj base
  else .obj (base ++ [("extra", .obj (r.extra.map fun (k, v) => (k, v.toJson)))])

def Level.color : Level → String
  | .debug => "\x1b[36m"
  | .info => "\x1b[32m"
  | .warning => "\x1b[33m"
  | .error => "\x1b[31m"
  | .critical => "\x1b[35m"

/-- An attribute of a record by the key a console layout names it with; the
level name is wrapped in the colour of its level. -/
def LogRecord.attr? (r : LogRecord) (key : String) : Option Layout.Attr :=
  match key with
  | "name" => some (.text r.logger)
  | "msg" => some (.text r.template)
  | "args" => some (.texts r.args)
  | "levelname" => some (.text (r.level.color ++ r.level.name ++ "\x1b[0m"))
  | "levelno" => some (.int r.level.rank)
  | "message" => some (.text r.message)
  | "module" => some (.text r.site.module)
  | "filename" => some (.text (r.site.module ++ ".py"))
  | "funcName" => some (.text r.site.function)
  | "lineno" => some (.int r.site.line)
  | "processName" => some (.text "MainProcess")
  | "threadName" => some (.text "MainThread")
  | "exc_info" | "exc_text" | "stack_info" => some .nothing
  | _ => (r.extra.lookup key).map fun
    | .text t => .text t
    | .int n => .int n
    | .bool b => .truth b
    | .none => .nothing
    | d => .text d.shown

/-- The records a setup writes, each written in its style; in the console
style a record whose line cannot be filled is left out. -/
def LogSetup.write (s : LogSetup) (records : List LogRecord) : List Json :=
  ((s.record :: records).filter (·.level.rank ≥ s.threshold)).filterMap fun r =>
    match s.style with
    | .json => some r.toJson
    | .console layout => ((Layout.parse layout).bind (Layout.fill r.attr?)).map Json.str

end FieldCalc
