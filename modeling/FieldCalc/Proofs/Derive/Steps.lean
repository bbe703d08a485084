import FieldCalc.Proofs.Derive.Run

/-!
# One field of the derivation

Once every computed input of a field is recorded for the tasks, what the run
records for the field is the outcome the semantics gives it. The failure a
field takes over is read off the failures recorded so far, the context of a
formula holds the values recorded so far, and a rollup aggregates the values
its source holds across the tasks.
-/

namespace FieldCalc.Service

open Formula

/-! ### Lists built in `Except` -/

section MapM

variable {α β : Type} {f : α → Except Fault β}

theorem forall₂_of_mapM_ok : ∀ {l : List α} {r : List β}, l.mapM f = .ok r →
    List.Forall₂ (fun a b => f a = .ok b) l r
  | [], r, built => by
      cases built
      exact .nil
  | a :: l, r, built => by
      rw [List.mapM_cons] at built
      obtain ⟨b, first, rest⟩ := bind_eq_ok built
      obtain ⟨bs, others, made⟩ := bind_eq_ok rest
      cases made
      exact .cons first (forall₂_of_mapM_ok others)

theorem ok_of_mapM_ok : ∀ {l : List α} {r : List β}, l.mapM f = .ok r → ∀ a ∈ l, ∃ b, f a = .ok b
  | [], _, _, _, member => by cases member
  | a :: l, r, built, x, member => by
      rw [List.mapM_cons] at built
      obtain ⟨b, first, rest⟩ := bind_eq_ok built
      obtain ⟨bs, others, -⟩ := bind_eq_ok rest
      rcases List.mem_cons.mp member with rfl | later
      · exact ⟨b, first⟩
      · exact ok_of_mapM_ok others x later

theorem mapM_ok_of_forall : ∀ (l : List α), (∀ a ∈ l, ∃ b, f a = .ok b) → ∃ r, l.mapM f = .ok r
  | [], _ => ⟨[], rfl⟩
  | a :: l, each => by
      obtain ⟨b, first⟩ := each a List.mem_cons_self
      obtain ⟨r, rest⟩ := mapM_ok_of_forall l fun x member => each x (List.mem_cons_of_mem a member)
      exact ⟨b :: r, by rw [List.mapM_cons, first, rest]; rfl⟩

theorem mem_of_mapM_error {e : Fault} : ∀ {l : List α}, l.mapM f = .error e → ∃ a ∈ l, f a = .error e
  | [], failed => by cases failed
  | a :: l, failed => by
      rw [List.mapM_cons] at failed
      cases first : f a with
      | error e' =>
          rw [first] at failed
          cases failed
          exact ⟨a, List.mem_cons_self, first⟩
      | ok b =>
          rw [first] at failed
          cases rest : l.mapM f with
          | error e' =>
              rw [rest] at failed
              cases failed
              obtain ⟨x, member, failedAt⟩ := mem_of_mapM_error rest
              exact ⟨x, List.mem_cons_of_mem a member, failedAt⟩
          | ok bs =>
              rw [rest] at failed
              cases failed

end MapM

theorem find?_rel {α β : Type} {R : α → β → Prop} {p : α → Bool} {q : β → Bool}
    (same : ∀ a b, R a b → p a = q b) :
    ∀ {l : List α} {r : List β}, List.Forall₂ R l r → Option.Rel R (l.find? p) (r.find? q)
  | [], [], .nil => .none
  | a :: _, b :: _, .cons related rest => by
      rw [List.find?_cons, List.find?_cons, same a b related]
      cases q b
      · exact find?_rel same rest
      · exact .some related

/-! ### Tables of named values -/

/-- A table of named values built field by field, searched from its end by
name, finds the value of the field found from the end of the list. -/
theorem find?_named {l : List FieldDefinition} {val : FieldDefinition → Except Fault Value}
    {fields : List (String × Value)}
    (built : l.mapM (fun g => return (g.name, ← val g)) = .ok fields) (n : String) :
    Option.Rel (fun g (p : String × Value) => val g = .ok p.2)
      (l.reverse.find? (·.name == n)) (fields.reverse.find? (·.1 == n)) := by
  have table : List.Forall₂ (fun g (p : String × Value) => val g = .ok p.2 ∧ p.1 = g.name) l fields :=
    (forall₂_of_mapM_ok built).imp fun g p entry => by
      obtain ⟨v, read, pair⟩ := bind_eq_ok entry
      cases pair
      exact ⟨read, rfl⟩
  have weaken : ∀ {x : Option FieldDefinition} {y : Option (String × Value)},
      Option.Rel (fun g (p : String × Value) => val g = .ok p.2 ∧ p.1 = g.name) x y →
        Option.Rel (fun g (p : String × Value) => val g = .ok p.2) x y := by
    intro x y related
    cases related with
    | none => exact .none
    | some both => exact .some both.1
  exact weaken (find?_rel (p := fun g : FieldDefinition => g.name == n) (q := fun p => p.1 == n)
    (fun g p related => by rw [related.2]) (List.forall₂_reverse_iff.mpr table))

theorem map_snd_eq_of_rel {x : Option FieldDefinition} {y z : Option (String × Value)}
    {val₁ val₂ : FieldDefinition → Except Fault Value} (same : ∀ g, x = some g → val₁ g = val₂ g)
    (first : Option.Rel (fun g (p : String × Value) => val₁ g = .ok p.2) x y)
    (second : Option.Rel (fun g (p : String × Value) => val₂ g = .ok p.2) x z) :
    y.map (·.2) = z.map (·.2) := by
  cases first with
  | none =>
      cases second
      rfl
  | @some g p related₁ =>
      cases second with
      | @some _ p' related₂ =>
          rw [same g rfl, related₂] at related₁
          simp [Except.ok.inj related₁]

/-- The fields of a list of names, searched from the end, find a name of the
list as the catalog does. -/
theorem find?_referenced {s : Service} {refs : List String} {n : String} (member : n ∈ refs) :
    (refs.filterMap s.fieldByName?).reverse.find? (·.name == n) = s.fieldByName? n := by
  cases found : (refs.filterMap s.fieldByName?).reverse.find? (·.name == n) with
  | none =>
      cases byName : s.fieldByName? n with
      | none => rfl
      | some g =>
          have listed : g ∈ (refs.filterMap s.fieldByName?).reverse :=
            List.mem_reverse.mpr (List.mem_filterMap.mpr ⟨n, member, byName⟩)
          have missing := List.find?_eq_none.mp found g listed
          simp [(fieldByName?_spec byName).2] at missing
  | some g =>
      obtain ⟨m, -, byName⟩ := List.mem_filterMap.mp (List.mem_reverse.mp (List.mem_of_find?_eq_some found))
      have same : g.name = n := by simpa using List.find?_some found
      rw [← same, ← byName, (fieldByName?_spec byName).2]

/-! ### Reading a stored value -/

theorem normalizeDecimal_ne_reference (d : DecimalValue) (name message : String) :
    normalizeDecimal d ≠ .error (.formula (.reference name message)) := by
  unfold normalizeDecimal
  split
  · split
    · simp
    · dsimp only
      split
      · simp [Fault.type]
      · split <;> simp
  · simp [Fault.type]

theorem number_ne_reference (d : DecimalValue) (name message : String) :
    Value.number <$> normalizeDecimal d ≠ .error (.formula (.reference name message)) := by
  cases normal : normalizeDecimal d with
  | error e =>
      intro failed
      cases failed
      exact normalizeDecimal_ne_reference d name message normal
  | ok n => simp [Functor.map, Except.map]

theorem readComputed_ne_reference (fv : FieldValue) (name message : String) :
    FieldType.readComputed fv ≠ .error (.formula (.reference name message)) := by
  unfold FieldType.readComputed
  split
  · simpa using number_ne_reference _ name message
  all_goals simp [pure, Except.pure]

theorem read_ne_reference (t : FieldType) (fv : Option FieldValue) (name message : String) :
    t.read fv ≠ .error (.formula (.reference name message)) := by
  cases fv with
  | none => simp [FieldType.read]
  | some fv =>
      cases t <;> cases numeric : fv.numericValue <;>
        simp [FieldType.read, numeric, number_ne_reference, readComputed_ne_reference]
/-! ### The failure a field takes over -/

theorem upstreamFailure_value (field : FieldDefinition) (inputs : List String) :
    ∀ failed : List Failures, (upstreamFailure field inputs failed).value =
      failed.findSome? fun fs => (inputs.findSome? fun n => (fs.lookup n).map (n, ·)).map
        fun p => .failure p.2.1 ("Field '" ++ p.1 ++ "' failed: " ++ p.2.2)
  | [] => rfl
  | fs :: rest => by
      rw [List.findSome?_cons]
      unfold upstreamFailure
      cases (inputs.findSome? fun n => (fs.lookup n).map (n, ·)) with
      | none => exact upstreamFailure_value field inputs rest
      | some found => rfl

theorem takenOver_eq_firstFailure {inputs : List String} {fs : Failures} {held : String → Outcome}
    (agree : ∀ n ∈ inputs, fs.lookup n = failedOf (held n)) :
    (inputs.findSome? fun n => (fs.lookup n).map (n, ·)).map
        (fun p => Outcome.failure p.2.1 ("Field '" ++ p.1 ++ "' failed: " ++ p.2.2)) =
      firstFailure inputs held := by
  rw [List.map_findSome?]
  unfold firstFailure
  apply findSome?_congr_of_mem
  intro n input
  simp only [Function.comp_apply, agree n input]
  cases held n <;> rfl

/-! ### A formula field on one task -/

section Formula

variable {s : Service} {tasks : List TaskSnapshot} {index : ValuesIndex} {now : Int}
  {task : TaskSnapshot} {done : List FieldDefinition} {working derived : TaskValues}
  {failures : Failures} {f : FieldDefinition}

theorem evaluateFormulaField_of_formula (formula : f.type = .formula) (values : TaskValues) :
    s.evaluateFormulaField f task values now = match s.context task values now with
      | .ok ctx => evaluateFormula f.formula ctx
      | .error e => pure (.error e) := by
  unfold evaluateFormulaField
  rw [formula]
  rfl

/-- Over the values a task holds, once the computed inputs of a formula field
are recorded, the context of the field resolves every field the formula
refers to as the context of the semantics does. -/
theorem context_agrees (entry : Entry s tasks index now task done working derived failures)
    (formula : f.type = .formula) {held : String → Outcome}
    (covered : ∀ n ∈ s.inputsOf f, ∀ g, s.fieldByName? n = some g →
      g ∈ done ∧ s.Derives tasks index now task g (held n))
    {ctx : Context} (built : s.context task working now = .ok ctx) :
    ∃ ctx', s.referenceContext index now task f held = .ok ctx' ∧
      evaluateFormula f.formula ctx = evaluateFormula f.formula ctx' := by
  unfold context at built
  obtain ⟨fields, table, made⟩ := bind_eq_ok built
  cases made
  have referencedHeld : ∀ g ∈ (fieldReferences f.formula).filterMap s.fieldByName?,
      heldValue index task.id g (held g.name) = g.type.read (working.lookup g.id) := by
    intro g listed
    obtain ⟨n, referenced, found⟩ := List.mem_filterMap.mp listed
    obtain ⟨member, named⟩ := fieldByName?_spec found
    refine entry.heldValue_eq_read member fun computed => ?_
    have input : n ∈ s.inputsOf f := List.mem_filter.mpr
      ⟨(mem_readNames_of_formula formula).mpr referenced, by simp [isComputedName, found, computed]⟩
    rw [named]
    exact covered n input g found
  obtain ⟨fields', table'⟩ := mapM_ok_of_forall ((fieldReferences f.formula).filterMap s.fieldByName?)
    (f := fun g => return (g.name, ← heldValue index task.id g (held g.name))) fun g listed => by
      obtain ⟨n, -, found⟩ := List.mem_filterMap.mp listed
      obtain ⟨p, read⟩ := ok_of_mapM_ok table g (fieldByName?_spec found).1
      obtain ⟨v, readOk, -⟩ := bind_eq_ok read
      exact ⟨(g.name, v), by rw [referencedHeld g listed, readOk]; rfl⟩
  unfold referenceContext
  rw [table']
  refine ⟨_, rfl, evaluateFormula_congr ?_ _ fun n referenced => resolve_congr ?_ ?_⟩
  · rfl
  · rfl
  · have fromCatalog : Option.Rel _ (s.fieldByName? n) _ := find?_named table n
    have fromReferences := find?_named table' n
    rw [find?_referenced referenced] at fromReferences
    refine map_snd_eq_of_rel (fun g found => ?_) fromCatalog fromReferences
    rw [← referencedHeld g (List.mem_filterMap.mpr ⟨n, referenced, found⟩), (fieldByName?_spec found).2]

theorem Entry.inputOutcomes (entry : Entry s tasks index now task done working derived failures)
    (inputsDone : ∀ n ∈ s.inputsOf f, ∀ g, s.fieldByName? n = some g → g ∈ done) :
    ∃ held : String → Outcome, ∀ n ∈ s.inputsOf f, ∀ g, s.fieldByName? n = some g →
      s.Derives tasks index now task g (held n) := by
  have outcomes : ∀ n, ∃ o, n ∈ s.inputsOf f → ∀ g, s.fieldByName? n = some g →
      s.Derives tasks index now task g o := by
    intro n
    by_cases input : n ∈ s.inputsOf f
    · obtain ⟨g, found, -⟩ := exists_of_mem_inputsOf input
      obtain ⟨o, -, derives, -⟩ := entry.recorded g (inputsDone n input g found)
      refine ⟨o, fun _ g' found' => ?_⟩
      rw [← Option.some.inj (found.symm.trans found')]
      exact derives
    · exact ⟨failure "", fun listed => absurd listed input⟩
  choose held derives using outcomes
  exact ⟨held, derives⟩

theorem Entry.failures_inputs (entry : Entry s tasks index now task done working derived failures)
    {held : String → Outcome} (covered : ∀ n ∈ s.inputsOf f, ∀ g, s.fieldByName? n = some g →
      g ∈ done ∧ s.Derives tasks index now task g (held n)) :
    ∀ n ∈ s.inputsOf f, failures.lookup n = failedOf (held n) := by
  intro n input
  obtain ⟨g, found, -⟩ := exists_of_mem_inputsOf input
  obtain ⟨recorded, derivesG⟩ := covered n input g found
  obtain ⟨v, -, -, -, failed⟩ := entry.recorded_of_derives recorded derivesG
  rw [← (fieldByName?_spec found).2, failed, (fieldByName?_spec found).2]

/-- The step of a formula field on a task whose entries hold its computed
inputs records the outcome the semantics gives the field on the task. -/
theorem formulaStep_derives {d d' : Derivation} (reflects : TaskReflects s tasks index now d task done)
    (member : f ∈ s.catalog) (formula : f.type = .formula) (resolvable : ¬ s.ReachesCycle f.name)
    (inputsDone : ∀ n ∈ s.inputsOf f, ∀ g, s.fieldByName? n = some g → g ∈ done)
    (step : s.formulaStep now f (s.inputsOf f) d task = .ok d') :
    ∃ o, s.Derives tasks index now task f o ∧ d.record f task.id o = .ok d' := by
  obtain ⟨working, derived, failures, inWorking, -, inFailures, entry⟩ := reflects
  obtain ⟨held, derives⟩ := entry.inputOutcomes inputsDone
  have covered : ∀ n ∈ s.inputsOf f, ∀ g, s.fieldByName? n = some g →
      g ∈ done ∧ s.Derives tasks index now task g (held n) :=
    fun n input g found => ⟨inputsDone n input g found, derives n input g found⟩
  have agree := entry.failures_inputs covered
  unfold formulaStep at step
  dsimp only at step
  rw [inFailures, Option.getD_some, upstreamFailure_value, List.findSome?_singleton,
    takenOver_eq_firstFailure agree] at step
  have derivesWith : ∀ o, s.formulaOutcome index now task f held = .ok o →
      s.Derives tasks index now task f o :=
    fun o => .formula held member formula resolvable fun n input g found => derives n input g found
  cases first : firstFailure (s.inputsOf f) held with
  | some taken =>
      rw [first] at step
      exact ⟨taken, derivesWith taken (by unfold formulaOutcome; rw [first]), step⟩
  | none =>
      rw [first, inWorking, Option.getD_some] at step
      obtain ⟨o, evaluated, recorded⟩ := bind_eq_ok step
      refine ⟨o, derivesWith o ?_, recorded⟩
      rw [evaluateFormulaField_of_formula formula] at evaluated
      cases built : s.context task working now with
      | error e =>
          rw [built] at evaluated
          cases evaluated
      | ok ctx =>
          rw [built] at evaluated
          obtain ⟨ctx', referenced, same⟩ := context_agrees entry formula covered built
          unfold formulaOutcome
          rw [first, referenced]
          dsimp only at evaluated
          rw [same] at evaluated
          exact evaluated

end Formula

/-! ### A rollup field across the tasks -/

section Rollup

variable {s : Service} {tasks : List TaskSnapshot} {index : ValuesIndex} {now : Int}
  {done : List FieldDefinition} {f : FieldDefinition} {config : RollupConfig}
  (rollup : f.type = .rollup) (configured : f.rollupConfig = some config)

include rollup configured

theorem inputsOf_rollup : s.inputsOf f = [config.sourceFieldName].filter s.isComputedName := by
  unfold inputsOf readNames
  rw [rollup, configured]

theorem evaluateRollupField_ok {values : ValuesIndex} {ids : List Ident} {read : List Value}
    (readAll : s.rollupValues f values (some ids) = .ok read) :
    (s.evaluateRollupField f values (some ids)).value =
      (evaluateAggregation config.aggregation read).value := by
  unfold evaluateRollupField
  rw [rollup, configured]
  dsimp only
  rw [readAll]

theorem evaluateRollupField_missing {values : ValuesIndex} {ids : List Ident}
    (missing : s.fieldByName? config.sourceFieldName = none) :
    (s.evaluateRollupField f values (some ids)).value = .ok (.ofError (.reference config.sourceFieldName
      ("Rollup source field not found: " ++ config.sourceFieldName))) := by
  unfold evaluateRollupField rollupValues
  rw [rollup, configured]
  dsimp only
  rw [missing]
  rfl

theorem evaluateRollupField_found {values : ValuesIndex} {ids : List Ident} {g : FieldDefinition}
    (found : s.fieldByName? config.sourceFieldName = some g) {o : Outcome}
    (evaluated : (s.evaluateRollupField f values (some ids)).value = .ok o) :
    ∃ read, (ids.mapM fun t => g.type.read (values.get? t g.id)) = .ok read ∧
      (evaluateAggregation config.aggregation read).value = .ok o := by
  have readAll : s.rollupValues f values (some ids) = ids.mapM fun t => g.type.read (values.get? t g.id) := by
    unfold rollupValues
    rw [configured]
    dsimp only
    rw [found]
    rfl
  cases reads : ids.mapM fun t => g.type.read (values.get? t g.id) with
  | ok read =>
      rw [← readAll] at reads
      rw [evaluateRollupField_ok rollup configured reads] at evaluated
      exact ⟨read, rfl, evaluated⟩
  | error e =>
      obtain ⟨t, -, failed⟩ := mem_of_mapM_error reads
      rw [← readAll] at reads
      unfold evaluateRollupField at evaluated
      rw [rollup, configured] at evaluated
      dsimp only at evaluated
      rw [reads] at evaluated
      split at evaluated
      · rename_i read heq
        cases heq
      · rename_i name message heq
        cases heq
        exact absurd failed (read_ne_reference _ _ name message)
      · cases evaluated

theorem rollupOutcome_taken {held : Ident → Outcome} {g : FieldDefinition}
    (found : s.fieldByName? config.sourceFieldName = some g) {taken : Outcome}
    (first : (tasks.findSome? fun u => firstFailure (s.inputsOf f) fun _ => held u.id) = some taken) :
    s.rollupOutcome tasks index config held = .ok taken := by
  rw [inputsOf_rollup rollup configured] at first
  unfold rollupOutcome
  dsimp only
  rw [found]
  dsimp only
  by_cases computed : g.type.isComputed
  · have inputs : [config.sourceFieldName].filter s.isComputedName = [config.sourceFieldName] := by
      simp [isComputedName, found, computed]
    simp only [inputs, firstFailure, List.findSome?_singleton] at first
    simp only [computed, if_true, first]
  · have inputs : [config.sourceFieldName].filter s.isComputedName = [] := by
      simpa [isComputedName, found] using computed
    simp only [inputs, firstFailure, List.findSome?_nil] at first
    rw [List.findSome?_eq_none_iff.mpr fun _ _ => rfl] at first
    cases first

theorem rollupOutcome_aggregated {held : Ident → Outcome} {g : FieldDefinition}
    (found : s.fieldByName? config.sourceFieldName = some g)
    (first : (tasks.findSome? fun u => firstFailure (s.inputsOf f) fun _ => held u.id) = none) :
    s.rollupOutcome tasks index config held =
      (tasks.mapM fun u => heldValue index u.id g (held u.id)) >>= fun read =>
        (evaluateAggregation config.aggregation read).value := by
  rw [inputsOf_rollup rollup configured] at first
  unfold rollupOutcome
  dsimp only
  rw [found]
  dsimp only
  by_cases computed : g.type.isComputed
  · have inputs : [config.sourceFieldName].filter s.isComputedName = [config.sourceFieldName] := by
      simp [isComputedName, found, computed]
    simp only [inputs, firstFailure, List.findSome?_singleton] at first
    simp only [computed, if_true, first]
  · simp only [computed, Bool.false_eq_true, if_false]

theorem source_mem_inputsOf {g : FieldDefinition} (found : s.fieldByName? config.sourceFieldName = some g)
    (computed : g.type.isComputed) : config.sourceFieldName ∈ s.inputsOf f := by
  rw [inputsOf_rollup rollup configured]
  simp [isComputedName, found, computed]

section Recorded

variable {d : Derivation} (reflects : Reflects s tasks index now d fun _ => done)
  (inputsDone : ∀ n ∈ s.inputsOf f, ∀ g, s.fieldByName? n = some g → g ∈ done)

include reflects inputsDone

theorem rollupSource_outcomes (distinctTasks : (tasks.map (·.id)).Nodup) :
    ∃ held : Ident → Outcome, ∀ u ∈ tasks, ∀ g, s.fieldByName? config.sourceFieldName = some g →
      g.type.isComputed → s.Derives tasks index now u g (held u.id) := by
  have outcomes : ∀ i, ∃ o, ∀ u ∈ tasks, u.id = i → ∀ g, s.fieldByName? config.sourceFieldName = some g →
      g.type.isComputed → s.Derives tasks index now u g o := by
    intro i
    by_cases listed : ∃ u ∈ tasks, u.id = i
    · obtain ⟨u, uMember, rfl⟩ := listed
      cases found : s.fieldByName? config.sourceFieldName with
      | none => exact ⟨failure "", fun _ _ _ g missing => by cases missing⟩
      | some g =>
          by_cases computed : g.type.isComputed
          · have taskReflects : TaskReflects s tasks index now d u done := reflects.2 u uMember
            obtain ⟨working, derived, failures, -, -, -, entry⟩ := taskReflects
            obtain ⟨o, -, derives, -⟩ := entry.recorded g
              (inputsDone _ (source_mem_inputsOf rollup configured found computed) g found)
            refine ⟨o, fun u' u'Member same g' found' _ => ?_⟩
            rw [List.inj_on_of_nodup_map distinctTasks u'Member uMember same, ← Option.some.inj found']
            exact derives
          · exact ⟨failure "", fun _ _ _ g' found' computed' =>
              absurd (Option.some.inj found' ▸ computed') computed⟩
    · exact ⟨failure "", fun u uMember same => absurd ⟨u, uMember, same⟩ listed⟩
  choose held derives using outcomes
  exact ⟨held, fun u uMember => derives u.id u uMember rfl⟩

variable {held : Ident → Outcome} (derives : ∀ u ∈ tasks, ∀ g,
  s.fieldByName? config.sourceFieldName = some g → g.type.isComputed →
    s.Derives tasks index now u g (held u.id))

include derives

theorem rollup_upstream : (upstreamFailure f (s.inputsOf f)
    ((tasks.map (·.id)).map fun t => (d.failures.lookup t).getD [])).value =
      tasks.findSome? fun u => firstFailure (s.inputsOf f) fun _ => held u.id := by
  rw [upstreamFailure_value, List.findSome?_map, List.findSome?_map]
  apply findSome?_congr_of_mem
  intro u uMember
  have taskReflects : TaskReflects s tasks index now d u done := reflects.2 u uMember
  obtain ⟨working, derived, failures, -, -, inFailures, entry⟩ := taskReflects
  simp only [Function.comp_apply, inFailures, Option.getD_some]
  apply takenOver_eq_firstFailure
  intro n input
  obtain ⟨g, found, computed⟩ := exists_of_mem_inputsOf input
  have isSource : n = config.sourceFieldName := by
    rw [inputsOf_rollup rollup configured] at input
    exact List.mem_singleton.mp (List.mem_filter.mp input).1
  subst isSource
  obtain ⟨v, -, -, -, failed⟩ := entry.recorded_of_derives (inputsDone _ input g found)
    (derives u uMember g found computed)
  rw [← failed, (fieldByName?_spec found).2]

theorem rollup_heldRead {g : FieldDefinition} (found : s.fieldByName? config.sourceFieldName = some g) :
    (tasks.mapM fun u => heldValue index u.id g (held u.id)) =
      (tasks.map (·.id)).mapM fun t => g.type.read (ValuesIndex.get? d.working t g.id) := by
  rw [List.mapM_map]
  apply mapM_congr_of_mem
  intro u uMember
  have taskReflects : TaskReflects s tasks index now d u done := reflects.2 u uMember
  obtain ⟨working, derived, failures, inWorking, -, -, entry⟩ := taskReflects
  simp only [Function.comp_apply, ValuesIndex.get?, inWorking, Option.bind_some]
  exact entry.heldValue_eq_read (fieldByName?_spec found).1 fun computed =>
    ⟨inputsDone _ (source_mem_inputsOf rollup configured found computed) g found,
      derives u uMember g found computed⟩

end Recorded

/-- The step of a rollup field whose computed source is recorded for every
task records, on every task, the one outcome the semantics gives the field. -/
theorem rollupStep_derives (distinctTasks : (tasks.map (·.id)).Nodup) {d d' : Derivation}
    (reflects : Reflects s tasks index now d fun _ => done) (member : f ∈ s.catalog)
    (resolvable : ¬ s.ReachesCycle f.name)
    (inputsDone : ∀ n ∈ s.inputsOf f, ∀ g, s.fieldByName? n = some g → g ∈ done)
    (step : s.rollupStep (tasks.map (·.id)) f (s.inputsOf f) d = .ok d') :
    ∃ o, (∀ u ∈ tasks, s.Derives tasks index now u f o) ∧
      (tasks.map (·.id)).foldlM (fun d t => d.record f t o) d = .ok d' := by
  obtain ⟨held, derives⟩ := rollupSource_outcomes rollup configured reflects inputsDone distinctTasks
  have derivesWith : ∀ o, s.rollupOutcome tasks index config held = .ok o →
      ∀ u ∈ tasks, s.Derives tasks index now u f o :=
    fun o outcome _ _ => .rollup config held member rollup configured resolvable
      (fun g found computed u uMember => derives u uMember g found computed) outcome
  unfold rollupStep at step
  dsimp only at step
  rw [rollup_upstream rollup configured reflects inputsDone derives] at step
  cases found : s.fieldByName? config.sourceFieldName with
  | none =>
      have noInputs : s.inputsOf f = [] := by
        rw [inputsOf_rollup rollup configured]
        simp [isComputedName, found]
      rw [noInputs] at step
      simp only [firstFailure, List.findSome?_nil, List.findSome?_eq_none_iff.mpr fun _ _ => rfl] at step
      obtain ⟨o, evaluated, recorded⟩ := bind_eq_ok step
      rw [evaluateRollupField_missing rollup configured found] at evaluated
      cases evaluated
      refine ⟨_, derivesWith _ ?_, recorded⟩
      unfold rollupOutcome
      dsimp only
      rw [found]
  | some g =>
      cases first : tasks.findSome? fun u => firstFailure (s.inputsOf f) fun _ => held u.id with
      | some taken =>
          rw [first] at step
          exact ⟨taken, derivesWith taken (rollupOutcome_taken rollup configured found first), step⟩
      | none =>
          rw [first] at step
          obtain ⟨o, evaluated, recorded⟩ := bind_eq_ok step
          obtain ⟨read, readAll, aggregated⟩ := evaluateRollupField_found rollup configured found evaluated
          refine ⟨o, derivesWith o ?_, recorded⟩
          rw [rollupOutcome_aggregated rollup configured found first,
            rollup_heldRead rollup configured reflects inputsDone derives found, readAll]
          exact aggregated

end Rollup

/-! ### A field recorded for every task -/

theorem not_mem_of_nodup_split {α : Type} {full pre post : List α} {a : α} (distinct : full.Nodup)
    (split : pre ++ a :: post = full) : a ∉ pre := fun early =>
  (List.nodup_append.mp (split ▸ distinct)).2.2 a early a List.mem_cons_self rfl

section Record

variable {s : Service} {tasks : List TaskSnapshot} {index : ValuesIndex} {now : Int}
  {d d' : Derivation} {done : List FieldDefinition} {f : FieldDefinition}
  (ids : (s.catalog.map (·.id)).Nodup) (names : (s.catalog.map (·.name)).Nodup)
  (distinctTasks : (tasks.map (·.id)).Nodup)

include ids names distinctTasks

theorem Reflects.recordNext {recorded : List Ident}
    (reflects : Reflects s tasks index now d fun u => if u.id ∈ recorded then done ++ [f] else done)
    {t : TaskSnapshot} (member : t ∈ tasks) (pending : t.id ∉ recorded) (fresh : f ∉ done)
    {o : Outcome} (derives : s.Derives tasks index now t f o) (step : d.record f t.id o = .ok d') :
    Reflects s tasks index now d' fun u => if u.id ∈ recorded ++ [t.id] then done ++ [f] else done := by
  have next := Reflects.record ids names distinctTasks reflects member
    (by rw [if_neg pending]; exact fresh) derives step
  refine next.congr fun u _ => ?_
  by_cases same : u.id = t.id
  · simp [same, pending]
  · simp [same]

theorem Reflects.recordAll (reflects : Reflects s tasks index now d fun _ => done) (fresh : f ∉ done)
    {o : Outcome} (derives : ∀ u ∈ tasks, s.Derives tasks index now u f o)
    (run : (tasks.map (·.id)).foldlM (fun d t => d.record f t o) d = .ok d') :
    Reflects s tasks index now d' fun _ => done ++ [f] := by
  have preserve : ∀ pre i post (d d' : Derivation), pre ++ i :: post = tasks.map (·.id) →
      Reflects s tasks index now d (fun u => if u.id ∈ pre then done ++ [f] else done) →
      d.record f i o = .ok d' →
      Reflects s tasks index now d' fun u => if u.id ∈ pre ++ [i] then done ++ [f] else done := by
    intro pre i post d d' split holds step
    obtain ⟨t, member, rfl⟩ := List.mem_map.mp (split ▸ List.mem_append_right pre List.mem_cons_self)
    exact holds.recordNext ids names distinctTasks member
      (not_mem_of_nodup_split distinctTasks split) fresh (derives t member) step
  have recorded := foldlM_invariant (tasks.map (·.id))
    (fun recorded d => Reflects s tasks index now d fun u => if u.id ∈ recorded then done ++ [f] else done)
    preserve [] _ d d' rfl (reflects.congr fun u _ => by simp) run
  exact recorded.congr fun u member => by simp [List.mem_map_of_mem member]

/-- Recording a formula field on one more task, its computed inputs recorded
for every task and the field itself for the tasks before it. -/
theorem Reflects.formulaTask {pre post : List TaskSnapshot} {t : TaskSnapshot}
    (split : pre ++ t :: post = tasks)
    (holds : Reflects s tasks index now d fun u => if u.id ∈ pre.map (·.id) then done ++ [f] else done)
    (fresh : f ∉ done) (member : f ∈ s.catalog) (formula : f.type = .formula)
    (resolvable : ¬ s.ReachesCycle f.name)
    (inputsDone : ∀ n ∈ s.inputsOf f, ∀ g, s.fieldByName? n = some g → g ∈ done)
    (step : s.formulaStep now f (s.inputsOf f) d t = .ok d') :
    Reflects s tasks index now d' fun u =>
      if u.id ∈ (pre ++ [t]).map (·.id) then done ++ [f] else done := by
  have tMember : t ∈ tasks := split ▸ List.mem_append_right pre List.mem_cons_self
  have pending : t.id ∉ pre.map (·.id) :=
    not_mem_of_nodup_split distinctTasks (by rw [← split, List.map_append, List.map_cons])
  have taskReflects : TaskReflects s tasks index now d t done := by
    have atT := holds.2 t tMember
    dsimp only at atT
    rw [if_neg pending] at atT
    exact atT
  obtain ⟨o, derives, recorded⟩ :=
    formulaStep_derives taskReflects member formula resolvable inputsDone step
  rw [List.map_append, List.map_singleton]
  exact holds.recordNext ids names distinctTasks tMember pending fresh derives recorded

theorem Reflects.formulaField (reflects : Reflects s tasks index now d fun _ => done) (fresh : f ∉ done)
    (member : f ∈ s.catalog) (formula : f.type = .formula) (resolvable : ¬ s.ReachesCycle f.name)
    (inputsDone : ∀ n ∈ s.inputsOf f, ∀ g, s.fieldByName? n = some g → g ∈ done)
    (run : tasks.foldlM (s.formulaStep now f (s.inputsOf f)) d = .ok d') :
    Reflects s tasks index now d' fun _ => done ++ [f] := by
  have recorded := foldlM_invariant tasks
    (fun pre d => Reflects s tasks index now d fun u => if u.id ∈ pre.map (·.id) then done ++ [f] else done)
    (fun _ _ _ _ _ split holds step => holds.formulaTask ids names distinctTasks split fresh member
      formula resolvable inputsDone step)
    [] tasks d d' rfl (reflects.congr fun u _ => by simp) run
  exact recorded.congr fun u member => by simp [List.mem_map_of_mem member]

theorem Reflects.rollupField {config : RollupConfig} (reflects : Reflects s tasks index now d fun _ => done)
    (fresh : f ∉ done) (member : f ∈ s.catalog) (rollup : f.type = .rollup)
    (configured : f.rollupConfig = some config) (resolvable : ¬ s.ReachesCycle f.name)
    (inputsDone : ∀ n ∈ s.inputsOf f, ∀ g, s.fieldByName? n = some g → g ∈ done)
    (run : s.rollupStep (tasks.map (·.id)) f (s.inputsOf f) d = .ok d') :
    Reflects s tasks index now d' fun _ => done ++ [f] := by
  obtain ⟨o, derives, recorded⟩ :=
    rollupStep_derives rollup configured distinctTasks reflects member resolvable inputsDone run
  exact reflects.recordAll ids names distinctTasks fresh derives recorded

end Record

end FieldCalc.Service
