import FieldCalc.Field.Dependency
import FieldCalc.Field.Display
import FieldCalc.Field.Entry
import FieldCalc.Filter.Rule

/-!
The custom fields of one project: evaluating computed fields for tasks.

A formula field is evaluated in a context where every field of the catalog is
known by name, with the value the task stores for it (null when none), beside
the task's built-in attributes. A rollup field aggregates the values its
source field holds across tasks.

Deriving the computed fields of a set of tasks evaluates them in dependency
order, so a formula may read a rollup or another formula; each result is
stored as a field value, a failure as the text of its cell code. A field in
or behind a dependency cycle fails as a circular reference. A field that
reads a computed field that failed is not evaluated and takes over that
field's failure, and a rollup fails when its source failed for any task.
-/

namespace FieldCalc

abbrev TaskValues := List (Ident × FieldValue)

/-- Set the value of a key in an association list, keeping the place of a
key that is already present. -/
def setEntry {κ α : Type} [BEq κ] (xs : List (κ × α)) (k : κ) (a : α) : List (κ × α) :=
  if (xs.lookup k).isSome then xs.map fun p => if p.1 == k then (p.1, a) else p else xs ++ [(k, a)]

/-- The service of a project's field catalog. -/
structure Service where
  catalog : List FieldDefinition

namespace Service

def logger : String := "taskfields.services.custom_fields.CustomFieldService"

/-- The field of a name; of two fields of one name the later one. -/
def fieldByName? (s : Service) (name : String) : Option FieldDefinition :=
  s.catalog.reverse.find? (·.name == name)

def failure (message : String) : Formula.Outcome := .failure .error message

/-- The formula context of a task: every catalog field by name with the
task's value, and the task's attributes. -/
def context (s : Service) (task : TaskSnapshot) (values : TaskValues) (now : Int) :
    Except Fault Formula.Context := do
  let fields ← s.catalog.mapM fun f => return (f.name, ← f.type.read (values.lookup f.id))
  let text := fun (o : Option String) => match o with
    | some t => Datum.text t
    | none => Datum.none
  let ctx : Formula.Context :=
    { fields := fields
      now := now
      status := text task.status
      priority := text task.priority
      deadline := (task.deadline.map fun t => Datum.int t.millis).getD .none
      progress := (task.progress.map Datum.float).getD .none
      title := .text task.title
      description := text task.description }
  return ctx

/-- The values a rollup field aggregates, one per task: of all tasks of the
index when none are given. A field without a rollup configuration has no
source to read. -/
def rollupValues (s : Service) (field : FieldDefinition) (index : ValuesIndex)
    (tasks : Option (List Ident)) : Except Fault (List Value) := do
  let some config := field.rollupConfig | .error (.noValue "source_field_name")
  let source := config.sourceFieldName
  let some src := s.fieldByName? source
    | .error (.formula (.reference source ("Rollup source field not found: " ++ source)))
  let tasks := tasks.getD (index.map (·.1))
  tasks.mapM fun t => src.type.read (index.get? t src.id)

def evaluateFormulaField (s : Service) (field : FieldDefinition) (task : TaskSnapshot)
    (values : TaskValues) (now : Int) : Logged (Except Fault Formula.Outcome) :=
  if field.type != .formula then
    pure (.ok (failure ("Field '" ++ field.name ++ "' is not a formula field")))
  else
    match s.context task values now with
    | .ok ctx => Formula.evaluateFormula field.formula ctx
    | .error f => pure (.error f)

/-- Evaluate a rollup field across tasks; a missing source is a failed
outcome, while a stored value that cannot be read reaches the caller. -/
def evaluateRollupField (s : Service) (field : FieldDefinition) (index : ValuesIndex)
    (tasks : Option (List Ident)) : Logged (Except Fault Formula.Outcome) :=
  match field.type, field.rollupConfig with
  | .rollup, some config =>
    match s.rollupValues field index tasks with
    | .ok values => Formula.evaluateAggregation config.aggregation values
    | .error (.formula (.reference name message)) => do
      Logged.emit ⟨.debug, logger, "Rollup field '%s' failed: %s", [field.name, message],
        ⟨"custom_fields", "evaluate_rollup_field", 138⟩, []⟩
      pure (.ok (.ofError (.reference name message)))
    | .error f => pure (.error f)
  | _, _ => pure (.ok (failure ("Field '" ++ field.name ++ "' is not a rollup field")))

/-- The computed fields a field reads, in the order it refers to them. A
field that is no formula is read as a rollup, so one without a rollup
configuration has no inputs to name. -/
def computedInputs (s : Service) (field : FieldDefinition) : Except Fault (List String) := do
  let names ← match field.type, field.rollupConfig with
    | .formula, _ => pure (Formula.fieldReferences field.formula)
    | _, some config => pure [config.sourceFieldName]
    | _, none => .error (.noValue "source_field_name")
  return names.filter fun n => match s.fieldByName? n with
    | some f => f.type.isComputed
    | none => false

abbrev Failures := List (String × (ErrorCode × String))

/-- The failure a field takes over from the first failed input, looking at
the tasks in order; with a debug record. -/
def upstreamFailure (field : FieldDefinition) (inputs : List String) :
    List Failures → Logged (Option Formula.Outcome)
  | [] => pure none
  | failed :: rest =>
    match inputs.findSome? fun n => (failed.lookup n).map (n, ·) with
    | some (n, (code, message)) => do
      Logged.emit ⟨.debug, logger, "Field '%s' not evaluated: input '%s' failed", [field.name, n],
        ⟨"custom_fields", "_upstream_failure", 237⟩, [("error_code", .text code.text)]⟩
      pure (some (.failure code ("Field '" ++ n ++ "' failed: " ++ message)))
    | none => upstreamFailure field inputs rest

/-- The stored form of an outcome: the value in the field's slot, or the
text of the cell code. -/
def storedOutcome (field : FieldDefinition) (task : Ident) : Formula.Outcome → Except Fault FieldValue
  | .success v => field.type.store field.id task v
  | .failure code _ => .ok { FieldValue.blank field.id task with value := some code.text }

/-- The state of a derivation: values read, values derived and failures, by
task. -/
structure Derivation where
  working : List (Ident × TaskValues)
  derived : List (Ident × TaskValues)
  failures : List (Ident × Failures)

def Derivation.record (d : Derivation) (field : FieldDefinition) (task : Ident)
    (outcome : Formula.Outcome) : Except Fault Derivation := do
  let value ← storedOutcome field task outcome
  let put := fun (idx : List (Ident × TaskValues)) =>
    setEntry idx task (setEntry ((idx.lookup task).getD []) field.id value)
  let failures := match outcome with
    | .failure code message =>
      setEntry d.failures task (setEntry ((d.failures.lookup task).getD []) field.name (code, message))
    | .success _ => d.failures
  return { working := put d.working, derived := put d.derived, failures }

/-- Evaluate every formula and rollup field for a set of tasks. -/
def deriveValues (s : Service) (tasks : List TaskSnapshot) (index : ValuesIndex) (now : Int) :
    ExceptT Fault Logged (List (Ident × TaskValues)) := do
  let graph ← (DependencyGraph.ofFields s.catalog : Logged DependencyGraph)
  let computed := s.catalog.filter (·.type.isComputed)
  let unresolvable := graph.unresolvable
  let order := graph.evaluationOrder
    ((computed.filter (!unresolvable.contains ·.name)).map (·.name))
  let taskIds := tasks.map (·.id)
  let start : Derivation :=
    { working := tasks.foldl (fun acc t => setEntry acc t.id ((index.lookup t.id).getD [])) []
      derived := tasks.foldl (fun acc t => setEntry acc t.id []) []
      failures := tasks.foldl (fun acc t => setEntry acc t.id []) [] }
  let lift := fun {α : Type} (x : Except Fault α) => (ExceptT.mk (pure x) : ExceptT Fault Logged α)
  -- fields in or behind a cycle fail first
  let d ← computed.foldlM (fun d f =>
    if unresolvable.contains f.name then
      let outcome := failure ("Circular reference involving field '" ++ f.name ++ "'")
      lift (taskIds.foldlM (fun d t => d.record f t outcome) d)
    else pure d) start
  let d ← order.foldlM (fun d name => do
    let some field := s.fieldByName? name | pure d
    let inputs ← lift (s.computedInputs field)
    if field.type == .formula then
      tasks.foldlM (fun d task => do
        let failed := (d.failures.lookup task.id).getD []
        let outcome ← match ← (upstreamFailure field inputs [failed] : Logged _) with
          | some o => pure o
          | none =>
            ExceptT.mk (s.evaluateFormulaField field task ((d.working.lookup task.id).getD []) now)
        lift (d.record field task.id outcome)) d
    else do
      let failed := taskIds.map fun t => (d.failures.lookup t).getD []
      let outcome ← match ← (upstreamFailure field inputs failed : Logged _) with
        | some o => pure o
        | none => ExceptT.mk (s.evaluateRollupField field d.working (some taskIds))
      lift (taskIds.foldlM (fun d t => d.record field t outcome) d)) d
  return d.derived

/-- Why saving a field would close a reference cycle, if it would. -/
def dependencyProblem (s : Service) (field : FieldDefinition) : Logged (Option String) := do
  let others := s.catalog.filter (·.id != field.id)
  let graph ← DependencyGraph.ofFields others
  let deps? := match field.type with
    | .formula => some ((Formula.fieldReferences field.formula).foldl insertName [])
    | .rollup => some ((field.rollupConfig.map RollupConfig.sourceFieldName).toList)
    | _ => none
  match deps? with
  | some deps =>
    if graph.closesCycle field.name deps then
      pure (some ("Field '" ++ field.name ++ "' would create a circular reference"))
    else pure none
  | none => pure none

/-- Check a value entered for a field: computed fields take no entries. -/
def checkValue (field : FieldDefinition) (fv : Option FieldValue) : Except Fault Unit :=
  if field.type.isComputed then
    .error (.rejectedValue ("Field '" ++ field.name ++ "' is computed and cannot be edited"))
  else field.type.check fv (some field)

end Service

end FieldCalc
