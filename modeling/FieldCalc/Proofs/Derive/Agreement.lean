import FieldCalc.Proofs.Derive.Steps

/-!
# The derivation computes the semantics

`deriveValues` records the circular failure of every computed field that
reaches a cycle, then each other computed field in the evaluation order. Each
phase keeps `Reflects`: after the first, every task holds the fields that
reach a cycle; after each name of the order, the field of that name as well,
its computed inputs having come before it.

So a run that returns holds one entry per task, and in it one value per
computed field, the stored form of the outcome `Derives` gives the field on
the task (`deriveValues_eq_semantics`).
-/

namespace FieldCalc.Service

open Relation DependencyGraph

variable {s : Service} {tasks : List TaskSnapshot} {index : ValuesIndex} {now : Int}

def circularFields (s : Service) : List FieldDefinition :=
  (s.catalog.filter (·.type.isComputed)).filter (s.graph.unresolvable.contains ·.name)

/-- The computed fields a derivation records for every task: those that reach
a cycle, then those of the evaluation order. -/
def derivedFields (s : Service) : List FieldDefinition :=
  s.circularFields ++ (s.graph.evaluationOrder s.resolvableNames).filterMap s.fieldByName?

section Names

variable (names : (s.catalog.map (·.name)).Nodup)

include names

theorem mem_orderFields {g : FieldDefinition} :
    g ∈ (s.graph.evaluationOrder s.resolvableNames).filterMap s.fieldByName? ↔
      g ∈ s.catalog ∧ g.type.isComputed ∧ ¬ s.ReachesCycle g.name := by
  rw [List.mem_filterMap]
  constructor
  · rintro ⟨n, ordered, found⟩
    obtain ⟨f, member, computed, named, resolvable⟩ :=
      (mem_resolvableNames names).mp (((graph_evaluationOrder names).mem_iff n).mp ordered)
    rw [← named, fieldByName?_of_mem names member] at found
    cases found
    exact ⟨member, computed, named ▸ resolvable⟩
  · rintro ⟨member, computed, resolvable⟩
    have listed : g.name ∈ s.resolvableNames :=
      (mem_resolvableNames names).mpr ⟨g, member, computed, rfl, resolvable⟩
    exact ⟨g.name, ((graph_evaluationOrder names).mem_iff _).mpr listed, fieldByName?_of_mem names member⟩

theorem mem_circularFields {g : FieldDefinition} :
    g ∈ s.circularFields ↔ g ∈ s.catalog ∧ g.type.isComputed ∧ s.ReachesCycle g.name := by
  simp only [circularFields, List.mem_filter, List.contains_iff_mem,
    mem_unresolvable_iff_reachesCycle names, and_assoc]

/-- The fields a derivation records are the computed fields of the catalog,
each once. -/
theorem derivedFields_perm (ids : (s.catalog.map (·.id)).Nodup) :
    s.derivedFields.Perm (s.catalog.filter (·.type.isComputed)) := by
  have distinctOrder : ((s.graph.evaluationOrder s.resolvableNames).filterMap s.fieldByName?).Nodup :=
    (graph_evaluationOrder names).nodup.filterMap fun a a' g found found' =>
      (fieldByName?_spec found).2.symm.trans (fieldByName?_spec found').2
  have distinctCircular : s.circularFields.Nodup := ((List.Nodup.of_map _ ids).filter _).filter _
  have disjoint : ∀ g ∈ s.circularFields, ∀ g' ∈ (s.graph.evaluationOrder s.resolvableNames).filterMap
      s.fieldByName?, g ≠ g' := by
    rintro g circular g' ordered rfl
    exact ((mem_orderFields names).mp ordered).2.2 ((mem_circularFields names).mp circular).2.2
  apply (List.perm_ext_iff_of_nodup (List.nodup_append.mpr ⟨distinctCircular, distinctOrder, disjoint⟩)
    ((List.Nodup.of_map _ ids).filter _)).mpr
  intro g
  rw [List.mem_append, mem_circularFields names, mem_orderFields names, List.mem_filter]
  by_cases reaches : s.ReachesCycle g.name <;> simp [reaches]

end Names

section Distinct

variable (ids : (s.catalog.map (·.id)).Nodup) (names : (s.catalog.map (·.name)).Nodup)
  (distinctTasks : (tasks.map (·.id)).Nodup)

include ids names distinctTasks

/-- One computed field of the first phase: a field that reaches a cycle is
recorded as circular on every task, and any other leaves the tasks as they are. -/
theorem Reflects.cycleStep {pre : List FieldDefinition} {f : FieldDefinition}
    {post : List FieldDefinition} {d d' : Derivation}
    (split : pre ++ f :: post = s.catalog.filter (·.type.isComputed))
    (holds : Reflects s tasks index now d fun _ => pre.filter (s.graph.unresolvable.contains ·.name))
    (step : circularStep (tasks.map (·.id)) s.graph.unresolvable d f = .ok d') :
    Reflects s tasks index now d' fun _ =>
      (pre ++ [f]).filter (s.graph.unresolvable.contains ·.name) := by
  have distinctComputed : (s.catalog.filter (·.type.isComputed)).Nodup :=
    (List.Nodup.of_map _ ids).filter _
  obtain ⟨member, computed⟩ := List.mem_filter.mp (split ▸ List.mem_append_right pre List.mem_cons_self)
  unfold circularStep at step
  by_cases cyclic : s.graph.unresolvable.contains f.name
  · rw [if_pos cyclic] at step
    have fresh : f ∉ pre.filter (s.graph.unresolvable.contains ·.name) := fun listed =>
      not_mem_of_nodup_split distinctComputed split (List.mem_filter.mp listed).1
    have unresolvable := List.contains_iff_mem.mp cyclic
    have recorded := holds.recordAll ids names distinctTasks fresh
      (fun u _ => Derives.circular member computed
        ((mem_unresolvable_iff_reachesCycle names).mp unresolvable)) step
    exact recorded.congr fun u _ => by simp [List.filter_append, unresolvable]
  · rw [if_neg cyclic] at step
    cases step
    have resolvable : f.name ∉ s.graph.unresolvable := fun listed => cyclic (List.contains_iff_mem.mpr listed)
    exact holds.congr fun u _ => by simp [List.filter_append, resolvable]

theorem reflects_circular {d : Derivation}
    (run : (s.catalog.filter (·.type.isComputed)).foldlM
      (circularStep (tasks.map (·.id)) s.graph.unresolvable) (start tasks index) = .ok d) :
    Reflects s tasks index now d fun _ => s.circularFields :=
  foldlM_invariant _
    (fun pre d => Reflects s tasks index now d fun _ => pre.filter (s.graph.unresolvable.contains ·.name))
    (fun _ _ _ _ _ split holds step => holds.cycleStep ids names distinctTasks split step)
    [] _ _ d rfl (reflects_start distinctTasks) run

/-- One name of the evaluation order: the field it names is recorded on every
task, each of its computed inputs having been recorded before it. -/
theorem Reflects.orderStep {pre : List String} {name : String} {post : List String}
    {d d' : Derivation} (split : pre ++ name :: post = s.graph.evaluationOrder s.resolvableNames)
    (holds : Reflects s tasks index now d fun _ => s.circularFields ++ pre.filterMap s.fieldByName?)
    (step : s.fieldStep tasks now d name = .ok d') :
    Reflects s tasks index now d' fun _ =>
      s.circularFields ++ (pre ++ [name]).filterMap s.fieldByName? := by
  have order := graph_evaluationOrder (s := s) names
  unfold fieldStep at step
  cases found : s.fieldByName? name with
  | none =>
      rw [found] at step
      cases step
      exact holds.congr fun u _ => by simp [found]
  | some f =>
      rw [found] at step
      obtain ⟨inputs, computedOk, step⟩ := bind_eq_ok step
      obtain rfl := computedInputs_ok computedOk
      have listed : name ∈ s.resolvableNames :=
        (order.mem_iff name).mp (split ▸ List.mem_append_right pre List.mem_cons_self)
      obtain ⟨f', member, computed, named, resolvable⟩ := (mem_resolvableNames names).mp listed
      obtain rfl : f = f' := by
        rw [← named, fieldByName?_of_mem names member] at found
        exact (Option.some.inj found).symm
      subst named
      have fresh : f ∉ s.circularFields ++ pre.filterMap s.fieldByName? := by
        intro listed
        rcases List.mem_append.mp listed with circular | earlier
        · have cyclic := (List.mem_filter.mp circular).2
          exact resolvable ((mem_unresolvable_iff_reachesCycle names).mp (List.contains_iff_mem.mp cyclic))
        · obtain ⟨m, early, named⟩ := List.mem_filterMap.mp earlier
          rw [← (fieldByName?_spec named).2] at early
          exact not_mem_of_nodup_split order.nodup split early
      have inputsDone : ∀ n ∈ s.inputsOf f, ∀ g, s.fieldByName? n = some g →
          g ∈ s.circularFields ++ pre.filterMap s.fieldByName? := fun n input g found' =>
        List.mem_append_right _ (List.mem_filterMap.mpr
          ⟨n, input_before names member computed resolvable split.symm input, found'⟩)
      have recorded : Reflects s tasks index now d' fun _ =>
          (s.circularFields ++ pre.filterMap s.fieldByName?) ++ [f] := by
        by_cases formula : (f.type == .formula) = true
        · rw [if_pos formula] at step
          exact holds.formulaField ids names distinctTasks fresh member (eq_of_beq formula) resolvable
            inputsDone step
        · rw [if_neg formula] at step
          have rollup : f.type = .rollup := by
            revert computed formula
            cases f.type <;> simp [FieldType.isComputed]
          cases configured : f.rollupConfig with
          | none =>
              unfold computedInputs at computedOk
              rw [rollup, configured] at computedOk
              cases computedOk
          | some config =>
              exact holds.rollupField ids names distinctTasks fresh member rollup configured resolvable
                inputsDone step
      exact recorded.congr fun u _ => by simp [found]

theorem reflects_order {d d' : Derivation} (reflects : Reflects s tasks index now d fun _ => s.circularFields)
    (run : (s.graph.evaluationOrder s.resolvableNames).foldlM (s.fieldStep tasks now) d = .ok d') :
    Reflects s tasks index now d' fun _ =>
      s.circularFields ++ (s.graph.evaluationOrder s.resolvableNames).filterMap s.fieldByName? :=
  foldlM_invariant _
    (fun pre d => Reflects s tasks index now d fun _ => s.circularFields ++ pre.filterMap s.fieldByName?)
    (fun _ _ _ _ _ split holds step => holds.orderStep ids names distinctTasks split step)
    [] _ d d' rfl (reflects.congr fun u _ => by simp) run

/-- A derivation that returns holds one entry per task and, in the entry of a
task, one value per computed field of the catalog: the stored form of the
outcome the semantics gives the field on the task. -/
theorem deriveValues_eq_semantics {result : List (Ident × TaskValues)}
    (returns : (s.deriveValues tasks index now).run.value = .ok result) :
    result.map Prod.fst = tasks.map (·.id) ∧
      ∀ u ∈ tasks, ∃ values, result.lookup u.id = some values ∧
        (values.map Prod.fst).Perm ((s.catalog.filter (·.type.isComputed)).map (·.id)) ∧
        ∀ g ∈ s.catalog, g.type.isComputed → ∃ o v, s.Derives tasks index now u g o ∧
          storedOutcome g u.id o = .ok v ∧ values.lookup g.id = some v := by
  rw [deriveValues_run] at returns
  obtain ⟨d, circular, rest⟩ := bind_eq_ok returns
  obtain ⟨d', ordered, finished⟩ := bind_eq_ok rest
  cases finished
  obtain ⟨keys, entries⟩ := reflects_order ids names distinctTasks
    (reflects_circular ids names distinctTasks circular) ordered
  refine ⟨keys, fun u member => ?_⟩
  obtain ⟨working, derived, failures, -, inDerived, -, entry⟩ := entries u member
  refine ⟨derived, inDerived, ?_, fun g gMember computed => ?_⟩
  · rw [entry.keys]
    exact (derivedFields_perm names ids).map _
  · have recorded : g ∈ s.derivedFields :=
      (derivedFields_perm names ids).mem_iff.mpr (List.mem_filter.mpr ⟨gMember, computed⟩)
    obtain ⟨o, v, derives, stored, -, inDerived', -⟩ := entry.recorded g recorded
    exact ⟨o, v, derives, stored, inDerived'⟩

end Distinct

/-- A catalog with a checkbox and a rollup that counts it across the tasks. -/
def checkboxCount : Service :=
  { catalog := [{ id := .int 1, name := "done", type := .checkbox },
      { id := .int 2, name := "finished", type := .rollup,
        rollupConfig := some { sourceFieldName := "done", aggregation := .count } }] }

def countedOnce (task : Ident) : FieldValue :=
  { fieldId := .int 2, taskId := task, numericValue := some ⟨false, 1, 0⟩ }

theorem deriveValues_eq_semantics_checkboxCount :
    let tasks : List TaskSnapshot := [{ id := .int 10 }, { id := .int 11 }]
    let index : ValuesIndex :=
      [(.int 10, [(.int 1, { fieldId := .int 1, taskId := .int 10, booleanValue := some true })])]
    let result : List (Ident × TaskValues) :=
      [(.int 10, [(.int 2, countedOnce (.int 10))]), (.int 11, [(.int 2, countedOnce (.int 11))])]
    ((checkboxCount.catalog.map (·.id)).Nodup ∧ (checkboxCount.catalog.map (·.name)).Nodup ∧
      (tasks.map (·.id)).Nodup ∧ (checkboxCount.deriveValues tasks index 0).run.value = .ok result) ∧
    result.map Prod.fst = tasks.map (·.id) ∧
      ∀ u ∈ tasks, ∃ values, result.lookup u.id = some values ∧
        (values.map Prod.fst).Perm ((checkboxCount.catalog.filter (·.type.isComputed)).map (·.id)) ∧
        ∀ g ∈ checkboxCount.catalog, g.type.isComputed → ∃ o v,
          checkboxCount.Derives tasks index 0 u g o ∧ storedOutcome g u.id o = .ok v ∧
            values.lookup g.id = some v :=
  ⟨⟨by decide, by decide, by decide, rfl⟩, deriveValues_eq_semantics (by decide) (by decide) (by decide) rfl⟩

end FieldCalc.Service
