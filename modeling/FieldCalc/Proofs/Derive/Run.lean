import FieldCalc.Proofs.Derive.State

/-!
# Deriving the computed fields

`deriveValues` first records the circular failure of every field that reaches
a cycle, then walks the evaluation order of the other computed fields. Each
formula field is evaluated task by task over the values derived so far; each
rollup field is evaluated once across the tasks.

The evaluation order is a topological order of the fields that reach no
cycle, so every computed input of a field is recorded before the field. The
state then holds, for every recorded field and task, the stored form of the
outcome the semantics gives, and a run that returns holds one derived value
per task and computed field, each the stored outcome of `Derives`
(`deriveValues_eq_semantics`).
-/

namespace FieldCalc.Service

open Relation Formula DependencyGraph

/-! ### The run without its records -/

/-- The first phase for one field: a field that reaches a cycle fails on every task. -/
def circularStep (taskIds : List Ident) (unresolvable : List String) (d : Derivation)
    (f : FieldDefinition) : Except Fault Derivation :=
  if unresolvable.contains f.name then
    taskIds.foldlM (fun d t => d.record f t (failure ("Circular reference involving field '" ++ f.name ++ "'"))) d
  else pure d

/-- A formula field on one task. -/
def formulaStep (s : Service) (now : Int) (field : FieldDefinition) (inputs : List String)
    (d : Derivation) (task : TaskSnapshot) : Except Fault Derivation := do
  let failed := (d.failures.lookup task.id).getD []
  let outcome ← match (upstreamFailure field inputs [failed]).value with
    | some o => pure o
    | none => (s.evaluateFormulaField field task ((d.working.lookup task.id).getD []) now).value
  d.record field task.id outcome

/-- A rollup field across the tasks. -/
def rollupStep (s : Service) (taskIds : List Ident) (field : FieldDefinition) (inputs : List String)
    (d : Derivation) : Except Fault Derivation := do
  let failed := taskIds.map fun t => (d.failures.lookup t).getD []
  let outcome ← match (upstreamFailure field inputs failed).value with
    | some o => pure o
    | none => (s.evaluateRollupField field d.working (some taskIds)).value
  taskIds.foldlM (fun d t => d.record field t outcome) d

/-- The second phase for one name of the evaluation order. -/
def fieldStep (s : Service) (tasks : List TaskSnapshot) (now : Int) (d : Derivation)
    (name : String) : Except Fault Derivation :=
  match s.fieldByName? name with
  | none => pure d
  | some field => do
    let inputs ← s.computedInputs field
    if field.type == .formula then tasks.foldlM (s.formulaStep now field inputs) d
    else s.rollupStep (tasks.map (·.id)) field inputs d

def resolvableNames (s : Service) : List String :=
  ((s.catalog.filter (·.type.isComputed)).filter (!s.graph.unresolvable.contains ·.name)).map (·.name)

theorem run_value_liftM_bind {α β : Type} (x : Logged α) (f : α → ExceptT Fault Logged β) :
    (liftM x >>= f : ExceptT Fault Logged β).run.value = (f x.value).run.value := rfl

theorem deriveValues_run (s : Service) (tasks : List TaskSnapshot) (index : ValuesIndex) (now : Int) :
    (s.deriveValues tasks index now).run.value =
      ((s.catalog.filter (·.type.isComputed)).foldlM
        (circularStep (tasks.map (·.id)) s.graph.unresolvable) (start tasks index)) >>= fun d =>
          (s.graph.evaluationOrder s.resolvableNames).foldlM (s.fieldStep tasks now) d >>= fun d =>
            .ok d.derived := by
  unfold deriveValues
  rw [run_value_liftM_bind]
  simp only [run_value_bind, run_value_foldlM, run_value_pure]
  congr 1
  · congr 1
    funext d f
    unfold circularStep graph
    by_cases cyclic : (ofFields s.catalog).value.unresolvable.contains f.name = true
    · rw [if_pos cyclic, if_pos cyclic]
      rfl
    · rw [if_neg cyclic, if_neg cyclic]
      rfl
  · funext d
    congr 2
    funext d name
    unfold fieldStep
    cases s.fieldByName? name with
    | none => rfl
    | some field =>
        simp only [run_value_bind, run_value_mk]
        congr 1
        funext inputs
        by_cases formula : (field.type == FieldType.formula) = true
        · rw [if_pos formula, if_pos formula, run_value_foldlM]
          congr 1
          funext d task
          unfold formulaStep
          dsimp only
          rw [run_value_liftM_bind]
          cases (upstreamFailure field inputs [(d.failures.lookup task.id).getD []]).value with
          | some o => rfl
          | none =>
              simp only [run_value_bind, run_value_mk]
              rfl
        · rw [if_neg formula, if_neg formula]
          unfold rollupStep
          dsimp only
          rw [run_value_liftM_bind]
          cases (upstreamFailure field inputs
              ((tasks.map (·.id)).map fun t => (d.failures.lookup t).getD [])).value with
          | some o => rfl
          | none =>
              simp only [run_value_bind, run_value_mk]
              rfl

/-! ### Inputs and the evaluation order -/

variable {s : Service}

theorem computedInputs_ok {f : FieldDefinition} {inputs : List String}
    (found : s.computedInputs f = .ok inputs) : inputs = s.inputsOf f := by
  unfold computedInputs at found
  unfold inputsOf readNames isComputedName
  cases type : f.type <;> cases config : f.rollupConfig <;> simp only [type, config] at found ⊢ <;>
    first
    | (cases found; rfl)
    | cases found

theorem reads_of_mem_inputsOf {f : FieldDefinition} (member : f ∈ s.catalog)
    (computed : f.type.isComputed) {n : String} (input : n ∈ s.inputsOf f) : s.Reads f.name n := by
  have read := (List.mem_filter.mp input).1
  unfold readNames at read
  cases type : f.type <;> simp only [type, FieldType.isComputed, Bool.false_eq_true] at computed
  · rw [type] at read
    exact reads_of_mem member (by simp [catalogDeps?, type])
      ((mem_foldl_insertName (fieldReferences f.formula) [] n).mpr (Or.inr read))
  · rw [type] at read
    cases config : f.rollupConfig with
    | none => simp [config] at read
    | some c =>
        simp only [config, List.mem_singleton] at read
        have found : catalogDeps? f = some [c.sourceFieldName] := by simp [catalogDeps?, type, config]
        exact reads_of_mem member found (by simp [read])

theorem reachesCycle_of_reads {a b : String} (step : s.Reads a b) (cycle : s.ReachesCycle b) :
    s.ReachesCycle a := by
  obtain ⟨c, path, around⟩ := cycle
  exact ⟨c, ReflTransGen.head step path, around⟩

section Distinct

variable (names : (s.catalog.map (·.name)).Nodup)

include names

theorem fieldByName?_of_mem {g : FieldDefinition} (member : g ∈ s.catalog) :
    s.fieldByName? g.name = some g := by
  unfold fieldByName?
  cases found : s.catalog.reverse.find? (·.name == g.name) with
  | none =>
      have missing := List.find?_eq_none.mp found g (List.mem_reverse.mpr member)
      simp at missing
  | some g' =>
      obtain ⟨member', named⟩ := fieldByName?_spec (s := s) found
      rw [List.inj_on_of_nodup_map names member' member named]

theorem mem_resolvableNames {n : String} :
    n ∈ s.resolvableNames ↔ ∃ f ∈ s.catalog, f.type.isComputed ∧ f.name = n ∧ ¬ s.ReachesCycle n := by
  simp only [resolvableNames, List.mem_map, List.mem_filter, Bool.not_eq_true',
    Bool.eq_false_iff, ne_eq, List.contains_iff_mem, mem_unresolvable_iff_reachesCycle names]
  constructor
  · rintro ⟨f, ⟨⟨member, computed⟩, resolvable⟩, rfl⟩
    exact ⟨f, member, computed, rfl, resolvable⟩
  · rintro ⟨f, member, computed, rfl, resolvable⟩
    exact ⟨f, ⟨⟨member, computed⟩, resolvable⟩, rfl⟩

theorem graph_evaluationOrder : s.graph.TopologicalOrder s.resolvableNames
    (s.graph.evaluationOrder s.resolvableNames) :=
  evaluationOrder_topological (graph_wellFormed s) (graph_inverse s)
    (catalogGraph_graph names).unique _

/-- Every computed input of a field that reaches no cycle comes before the field
in the evaluation order. -/
theorem input_before {f : FieldDefinition} (member : f ∈ s.catalog) (computed : f.type.isComputed)
    (resolvable : ¬ s.ReachesCycle f.name) {pre post : List String}
    (split : s.graph.evaluationOrder s.resolvableNames = pre ++ f.name :: post) {n : String}
    (input : n ∈ s.inputsOf f) : n ∈ pre := by
  have step := reads_of_mem_inputsOf member computed input
  obtain ⟨g, found, gComputed⟩ := exists_of_mem_inputsOf input
  obtain ⟨gMember, named⟩ := fieldByName?_spec found
  have wanted : n ∈ s.resolvableNames := (mem_resolvableNames names).mpr
    ⟨g, gMember, gComputed, named, fun cycle => resolvable (reachesCycle_of_reads step cycle)⟩
  have kept : f.name ∉ s.graph.cyclic := fun cyclic =>
    resolvable ((mem_unresolvable_iff_reachesCycle names).mp
      ((mem_unresolvable_iff (graph_wellFormed s)).mpr ⟨f.name, cyclic, ReflTransGen.refl⟩))
  exact (graph_evaluationOrder names).before pre f.name post split n
    (graph_dependsOn_of_reads names step kept) wanted

end Distinct

end FieldCalc.Service
