import FieldCalc.Proofs.Graph.Catalog
import FieldCalc.Proofs.Formula.Locality

/-!
# The meaning of the computed fields

`Derives s tasks index now task f o` says that the computed field `f` has the
outcome `o` on `task`, read as a recursive definition over the fields a
computed field reads:

* a field that reaches a cycle of the catalog fails as a circular reference;
* otherwise a formula field takes over the failure of the first computed input
  that failed on the task, and is evaluated over the fields it refers to when
  none did: a computed input with its outcome in stored form, any other field
  with the value the index stores for the task;
* a rollup field takes over the failure of its computed source on the first
  task where the source failed, and aggregates the values its source holds
  across the tasks when none did.

A derivation is a finite tree, so every field has at most one outcome on a
task (`Derives.unique`) without any assumption on the catalog.
-/

namespace FieldCalc.Service

open Relation Formula

section Definitions

variable (s : Service) (tasks : List TaskSnapshot) (index : ValuesIndex) (now : Int)

/-- The names a field reads: the fields its formula refers to, or the source
of its rollup. -/
def readNames (f : FieldDefinition) : List String :=
  match f.type, f.rollupConfig with
  | .formula, _ => fieldReferences f.formula
  | _, some config => [config.sourceFieldName]
  | _, none => []

/-- The name of a computed field of the catalog. -/
def isComputedName (n : String) : Bool :=
  match s.fieldByName? n with
  | some g => g.type.isComputed
  | none => false

def inputsOf (f : FieldDefinition) : List String := (readNames f).filter s.isComputedName

/-- The value a field holds on a task: a computed field its outcome in stored
form read back, any other field the value the index stores for it. -/
def heldValue (task : Ident) (g : FieldDefinition) (o : Outcome) : Except Fault Value :=
  if g.type.isComputed then do g.type.read (some (← storedOutcome g task o))
  else g.type.read (index.get? task g.id)

/-- The context a formula field is evaluated in on a task: the attributes of
the task, `now`, and each field the formula refers to with the value it holds
when the computed inputs have the outcomes `held`. -/
def referenceContext (task : TaskSnapshot) (f : FieldDefinition) (held : String → Outcome) :
    Except Fault Context := do
  let fields ← ((fieldReferences f.formula).filterMap s.fieldByName?).mapM fun g =>
    return (g.name, ← heldValue index task.id g (held g.name))
  let text := fun (o : Option String) => match o with
    | some t => Datum.text t
    | none => Datum.none
  return { fields := fields
           now := now
           status := text task.status
           priority := text task.priority
           deadline := (task.deadline.map fun t => Datum.int t.millis).getD .none
           progress := (task.progress.map Datum.float).getD .none
           title := .text task.title
           description := text task.description }

/-- The failure a field takes over from the first of `inputs` that failed. -/
def firstFailure (inputs : List String) (held : String → Outcome) : Option Outcome :=
  inputs.findSome? fun n => match held n with
    | .failure code message => some (.failure code ("Field '" ++ n ++ "' failed: " ++ message))
    | .success _ => none

/-- The outcome of a formula field on a task when its computed inputs have the
outcomes `held`. -/
def formulaOutcome (task : TaskSnapshot) (f : FieldDefinition) (held : String → Outcome) :
    Except Fault Outcome :=
  match firstFailure (s.inputsOf f) held with
  | some o => .ok o
  | none => do (evaluateFormula f.formula (← s.referenceContext index now task f held)).value

/-- The outcome of a rollup field when its source has the outcome `held t` on
the task of id `t`. -/
def rollupOutcome (config : RollupConfig) (held : Ident → Outcome) : Except Fault Outcome :=
  let source := config.sourceFieldName
  match s.fieldByName? source with
  | none => .ok (.ofError (.reference source ("Rollup source field not found: " ++ source)))
  | some g =>
    let upstream := if g.type.isComputed then
        tasks.findSome? fun u => match held u.id with
          | .failure code message => some (.failure code ("Field '" ++ source ++ "' failed: " ++ message))
          | .success _ => none
      else none
    match upstream with
    | some o => .ok o
    | none => do
      let values ← tasks.mapM fun u => heldValue index u.id g (held u.id)
      (evaluateAggregation config.aggregation values).value

/-- The outcome of a computed field on a task. -/
inductive Derives : TaskSnapshot → FieldDefinition → Outcome → Prop
  | circular {task : TaskSnapshot} {f : FieldDefinition} :
      f ∈ s.catalog → f.type.isComputed → s.ReachesCycle f.name →
      Derives task f (failure ("Circular reference involving field '" ++ f.name ++ "'"))
  | formula {task : TaskSnapshot} {f : FieldDefinition} {o : Outcome} (held : String → Outcome) :
      f ∈ s.catalog → f.type = .formula → ¬ s.ReachesCycle f.name →
      (∀ n ∈ s.inputsOf f, ∀ g, s.fieldByName? n = some g → Derives task g (held n)) →
      s.formulaOutcome index now task f held = .ok o → Derives task f o
  | rollup {task : TaskSnapshot} {f : FieldDefinition} {o : Outcome} (config : RollupConfig)
      (held : Ident → Outcome) :
      f ∈ s.catalog → f.type = .rollup → f.rollupConfig = some config → ¬ s.ReachesCycle f.name →
      (∀ g, s.fieldByName? config.sourceFieldName = some g → g.type.isComputed →
        ∀ u ∈ tasks, Derives u g (held u.id)) →
      s.rollupOutcome tasks index config held = .ok o → Derives task f o

end Definitions

variable {s : Service} {tasks : List TaskSnapshot} {index : ValuesIndex} {now : Int}

theorem fieldByName?_spec {n : String} {g : FieldDefinition} (found : s.fieldByName? n = some g) :
    g ∈ s.catalog ∧ g.name = n := by
  obtain ⟨member, named⟩ := List.mem_of_find?_eq_some found, List.find?_some found
  exact ⟨List.mem_reverse.mp member, by simpa using named⟩

theorem exists_of_mem_inputsOf {f : FieldDefinition} {n : String} (member : n ∈ s.inputsOf f) :
    ∃ g, s.fieldByName? n = some g ∧ g.type.isComputed := by
  have computed := (List.mem_filter.mp member).2
  unfold isComputedName at computed
  split at computed
  · rename_i g found
    exact ⟨g, found, computed⟩
  · cases computed

theorem findSome?_congr_of_mem {α β : Type} {f g : α → Option β} :
    ∀ (l : List α), (∀ a ∈ l, f a = g a) → l.findSome? f = l.findSome? g
  | [], _ => rfl
  | a :: l, same => by
      rw [List.findSome?_cons, List.findSome?_cons, same a List.mem_cons_self,
        findSome?_congr_of_mem l fun b member => same b (List.mem_cons_of_mem a member)]

theorem firstFailure_congr {inputs : List String} {held₁ held₂ : String → Outcome}
    (agree : ∀ n ∈ inputs, held₁ n = held₂ n) :
    firstFailure inputs held₁ = firstFailure inputs held₂ :=
  findSome?_congr_of_mem inputs fun n member => by rw [agree n member]

theorem mem_readNames_of_formula {f : FieldDefinition} (formula : f.type = .formula) {n : String} :
    n ∈ readNames f ↔ n ∈ fieldReferences f.formula := by
  unfold readNames
  rw [formula]

theorem referenceContext_congr {task : TaskSnapshot} {f : FieldDefinition}
    (formula : f.type = .formula) {held₁ held₂ : String → Outcome}
    (agree : ∀ n ∈ s.inputsOf f, held₁ n = held₂ n) :
    s.referenceContext index now task f held₁ = s.referenceContext index now task f held₂ := by
  have fields : ∀ g ∈ (fieldReferences f.formula).filterMap s.fieldByName?,
      heldValue index task.id g (held₁ g.name) = heldValue index task.id g (held₂ g.name) := by
    intro g member
    obtain ⟨n, referenced, found⟩ := List.mem_filterMap.mp member
    unfold heldValue
    by_cases computed : g.type.isComputed
    · have input : n ∈ s.inputsOf f := List.mem_filter.mpr
        ⟨(mem_readNames_of_formula formula).mpr referenced, by simp [isComputedName, found, computed]⟩
      rw [(fieldByName?_spec found).2, agree n input]
    · simp only [computed, Bool.false_eq_true, if_false]
  unfold referenceContext
  rw [mapM_congr_of_mem _ fun g member => by rw [fields g member]]

theorem formulaOutcome_congr {task : TaskSnapshot} {f : FieldDefinition}
    (formula : f.type = .formula) {held₁ held₂ : String → Outcome}
    (agree : ∀ n ∈ s.inputsOf f, held₁ n = held₂ n) :
    s.formulaOutcome index now task f held₁ = s.formulaOutcome index now task f held₂ := by
  unfold formulaOutcome
  rw [firstFailure_congr agree, referenceContext_congr formula agree]

theorem rollupOutcome_congr {config : RollupConfig} {held₁ held₂ : Ident → Outcome}
    (agree : ∀ g, s.fieldByName? config.sourceFieldName = some g → g.type.isComputed →
      ∀ u ∈ tasks, held₁ u.id = held₂ u.id) :
    s.rollupOutcome tasks index config held₁ = s.rollupOutcome tasks index config held₂ := by
  unfold rollupOutcome
  dsimp only
  split
  · rfl
  · rename_i g found
    by_cases computed : g.type.isComputed
    · have same := agree g found computed
      have upstream : (tasks.findSome? fun u => match held₁ u.id with
            | .failure code message => some (Outcome.failure code
                ("Field '" ++ config.sourceFieldName ++ "' failed: " ++ message))
            | .success _ => none) =
          tasks.findSome? fun u => match held₂ u.id with
            | .failure code message => some (Outcome.failure code
                ("Field '" ++ config.sourceFieldName ++ "' failed: " ++ message))
            | .success _ => none :=
        findSome?_congr_of_mem tasks fun u member => by rw [same u member]
      have values : (tasks.mapM fun u => heldValue index u.id g (held₁ u.id)) =
          tasks.mapM fun u => heldValue index u.id g (held₂ u.id) :=
        mapM_congr_of_mem _ fun u member => by rw [same u member]
      simp only [computed, if_true, upstream, values]
    · have values : (tasks.mapM fun u => heldValue index u.id g (held₁ u.id)) =
          tasks.mapM fun u => heldValue index u.id g (held₂ u.id) :=
        mapM_congr_of_mem _ fun u _ => by simp [heldValue, computed]
      simp only [computed, Bool.false_eq_true, if_false, values]

theorem Derives.unique {task : TaskSnapshot} {f : FieldDefinition} {o₁ o₂ : Outcome}
    (first : s.Derives tasks index now task f o₁) (second : s.Derives tasks index now task f o₂) :
    o₁ = o₂ := by
  induction first generalizing o₂ with
  | circular _ _ cycle =>
      cases second with
      | circular => rfl
      | formula _ _ _ resolvable => exact absurd cycle resolvable
      | rollup _ _ _ _ _ resolvable => exact absurd cycle resolvable
  | @formula task f o held₁ _ formula resolvable _ outcome₁ inputs =>
      cases second with
      | circular _ _ cycle => exact absurd cycle resolvable
      | formula held₂ _ _ _ derived₂ outcome₂ =>
          have agree : ∀ n ∈ s.inputsOf f, held₁ n = held₂ n := by
            intro n member
            obtain ⟨g, found, -⟩ := exists_of_mem_inputsOf member
            exact inputs n member g found (derived₂ n member g found)
          rw [formulaOutcome_congr formula agree, outcome₂] at outcome₁
          exact (Except.ok.inj outcome₁).symm
      | rollup _ _ _ rollup => exact absurd (formula.symm.trans rollup) (by decide)
  | rollup config held₁ _ rollup configured resolvable _ outcome₁ sources =>
      cases second with
      | circular _ _ cycle => exact absurd cycle resolvable
      | formula _ _ formula => exact absurd (formula.symm.trans rollup) (by decide)
      | rollup config₂ held₂ _ _ configured₂ _ derived₂ outcome₂ =>
          obtain rfl : config = config₂ := Option.some.inj (configured.symm.trans configured₂)
          have agree : ∀ g, s.fieldByName? config.sourceFieldName = some g → g.type.isComputed →
              ∀ u ∈ tasks, held₁ u.id = held₂ u.id := fun g found computed u member =>
            sources g found computed u member (derived₂ g found computed u member)
          rw [rollupOutcome_congr agree, outcome₂] at outcome₁
          exact (Except.ok.inj outcome₁).symm

end FieldCalc.Service
