import FieldCalc.Datum

/-!
What a formula can reference for one task.

The built-in attributes `status`, `priority`, `deadline`, `progress`, `title`
and `description` are read first and shadow fields of the same name. They are
kept as plain data and typed when referenced, so a bad attribute fails only
the formulas that use it; the deadline is a moment in milliseconds. Custom
fields are typed when the context is built. `now` is the moment that `NOW()`
and `TODAY()` see.
-/

namespace FieldCalc.Formula

def builtinNames : List String := ["status", "priority", "deadline", "progress", "title", "description"]

/-- The values a formula can reference for one task. -/
structure Context where
  status : Datum := .none
  priority : Datum := .none
  deadline : Datum := .none
  progress : Datum := .none
  title : Datum := .none
  description : Datum := .none
  /-- Custom fields by name; a later entry of a name wins. -/
  fields : List (String × Value) := []
  /-- The current moment in epoch milliseconds. -/
  now : Int
  deriving Inhabited

namespace Context

def builtin (ctx : Context) (name : String) : Option (Except Fault Value) :=
  if name == "deadline" then
    some (match ctx.deadline with
      | .none => .ok .null
      | d => return .timestamp (← d.toTimestamp))
  else
    let raw? := match name with
      | "status" => some ctx.status
      | "priority" => some ctx.priority
      | "progress" => some ctx.progress
      | "title" => some ctx.title
      | "description" => some ctx.description
      | _ => none
    raw?.map Datum.toValue

/-- Resolve a reference: a built-in attribute first, then a custom field; an
unknown name is a missing field. -/
def resolve (ctx : Context) (name : String) : Except Fault Value :=
  match ctx.builtin name with
  | some v => v
  | none =>
    match (ctx.fields.reverse.find? (·.1 == name)) with
    | some (_, v) => .ok v
    | none => .error (.formula (.unknownField name))

/-- A context from typed custom fields given as data; a datum that is no
value (a non-finite number) fails the whole context. -/
def ofData (fields : List (String × Datum)) (now : Int) : Except Fault Context := do
  let typed ← fields.mapM fun (n, d) => return (n, ← d.toValue)
  return { fields := typed, now }

end Context

end FieldCalc.Formula
