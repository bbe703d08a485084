import FieldCalc.Proofs.Formula.Escapes
import FieldCalc.Proofs.Field.Faults
import FieldCalc.Proofs.Derive.Run

/-!
# What evaluating computed fields lets through

The service evaluates a formula field in a context read from the stored
values of a task, and a rollup field over the values its source stores. What
reaches the caller is a fault of data: a stored decimal beyond the float
range (read as a type error), a moment the calendar cannot hold, a date text
that is no whole number, a built-in attribute that does not read. Deriving
the computed fields of a set of tasks adds one more: a rollup field without a
rollup configuration, whose inputs cannot be named
(`deriveValues_failsWithin`).

Together with the formula and rollup entry points this says which faults
each public evaluation lets through (`evaluation_escapes_only_data_faults`):
not every failure becomes a failed outcome.
-/

namespace FieldCalc

theorem FailsWithin.reported_ofData {α : Type} {x : Except Fault α}
    (h : FailsWithin Fault.Reported x) : FailsWithin Fault.OfData x :=
  h.mono fun _ reported => .ofValues (.reported reported)

namespace Service

open Formula

variable (s : Service)

/-! ### One field -/

@[simp]
theorem context_reported (task : TaskSnapshot) (values : TaskValues) (now : Int) :
    FailsWithin Fault.Reported (s.context task values now) := by
  simp [context]

theorem evaluateFormulaField_ofData (field : FieldDefinition) (task : TaskSnapshot) (values : TaskValues)
    (now : Int) : FailsWithin Fault.OfData (s.evaluateFormulaField field task values now).value := by
  unfold evaluateFormulaField
  split
  · simp [pure, Logged.pure]
  · split
    next ctx _ => exact evaluateFormula_ofData field.formula ctx
    next f unbuilt =>
      simp only [pure, Logged.pure, FailsWithin.error_iff]
      exact (s.context_reported task values now).reported_ofData f unbuilt

theorem rollupValues_failsWithin {field : FieldDefinition} {config : RollupConfig}
    (configured : field.rollupConfig = some config) (index : ValuesIndex) (tasks : Option (List Ident)) :
    FailsWithin (fun f => f.Reported ∨ ∃ name message, f = .formula (.reference name message))
      (s.rollupValues field index tasks) := by
  unfold rollupValues
  simp only [configured]
  split
  · exact FailsWithin.mapM_of_forall fun t => (FieldType.read_reported _ _).mono fun _ => Or.inl
  · simp

theorem evaluateRollupField_ofData (field : FieldDefinition) (index : ValuesIndex)
    (tasks : Option (List Ident)) :
    FailsWithin Fault.OfData (s.evaluateRollupField field index tasks).value := by
  unfold evaluateRollupField
  split
  next config _ configured =>
    split
    next values _ =>
      intro f failed
      rcases evaluateAggregation_failsWithin config.aggregation values f failed with rfl | ⟨_, m, rfl⟩
      · exact .ofValues (.reported .digitLimit)
      · exact .ofValues (.reported (.moment m))
    · simp [bind, Logged.bind, pure, Logged.pure]
    next f notReference unread =>
      simp only [pure, Logged.pure, FailsWithin.error_iff]
      rcases s.rollupValues_failsWithin configured index tasks f unread with
        reported | ⟨name, message, rfl⟩
      · exact .ofValues (.reported reported)
      · exact absurd rfl (notReference name message)
  · simp [pure, Logged.pure]

/-! ### The derivation -/

@[simp]
theorem storedOutcome_reported (field : FieldDefinition) (task : Ident) (o : Outcome) :
    FailsWithin Fault.Reported (storedOutcome field task o) := by
  cases o <;> simp [storedOutcome]

@[simp]
theorem record_reported (d : Derivation) (field : FieldDefinition) (task : Ident) (o : Outcome) :
    FailsWithin Fault.Reported (d.record field task o) := by
  simp [Derivation.record]

theorem circularStep_reported (taskIds : List Ident) (unresolvable : List String) (d : Derivation)
    (field : FieldDefinition) : FailsWithin Fault.Reported (circularStep taskIds unresolvable d field) := by
  unfold circularStep
  split
  · exact FailsWithin.foldlM d fun d t _ => record_reported d field t _
  · simp

theorem formulaStep_ofData (now : Int) (field : FieldDefinition) (inputs : List String) (d : Derivation)
    (task : TaskSnapshot) : FailsWithin Fault.OfData (s.formulaStep now field inputs d task) := by
  unfold formulaStep
  dsimp only
  split
  · simp
  · simp only [FailsWithin.bind_iff]
    exact ⟨s.evaluateFormulaField_ofData field task _ now, by simp⟩

theorem rollupStep_ofData (taskIds : List Ident) (field : FieldDefinition) (inputs : List String)
    (d : Derivation) : FailsWithin Fault.OfData (s.rollupStep taskIds field inputs d) := by
  have recorded (o : Outcome) : FailsWithin Fault.OfData (taskIds.foldlM (fun d t => d.record field t o) d) :=
    FailsWithin.foldlM d fun d t _ => (record_reported d field t o).reported_ofData
  unfold rollupStep
  dsimp only
  split
  · simp [recorded]
  · simp only [FailsWithin.bind_iff]
    exact ⟨s.evaluateRollupField_ofData field d.working (some taskIds), fun o _ => recorded o⟩

theorem computedInputs_failsWithin (field : FieldDefinition) :
    FailsWithin (· = .noValue "source_field_name") (s.computedInputs field) := by
  unfold computedInputs
  split <;> simp

theorem fieldStep_failsWithin (tasks : List TaskSnapshot) (now : Int) (d : Derivation) (name : String) :
    FailsWithin (fun f => f.OfData ∨ f = .noValue "source_field_name") (s.fieldStep tasks now d name) := by
  unfold fieldStep
  split
  · simp
  next field _ =>
    simp only [FailsWithin.bind_iff]
    refine ⟨(s.computedInputs_failsWithin field).mono fun _ => Or.inr, fun inputs _ => ?_⟩
    split
    · exact (FailsWithin.foldlM d fun d task _ => s.formulaStep_ofData now field inputs d task).mono
        fun _ => Or.inl
    · exact (s.rollupStep_ofData _ field inputs d).mono fun _ => Or.inl

theorem deriveValues_failsWithin (tasks : List TaskSnapshot) (index : ValuesIndex) (now : Int) :
    FailsWithin (fun f => f.OfData ∨ f = .noValue "source_field_name")
      (s.deriveValues tasks index now).run.value := by
  rw [deriveValues_run]
  simp only [FailsWithin.bind_iff]
  refine ⟨?_, fun d _ => ⟨?_, fun _ _ => by simp⟩⟩
  · -- the fields that reach a cycle: only their failures are recorded
    refine FailsWithin.foldlM _ fun d field _ => ?_
    exact (circularStep_reported _ _ d field).reported_ofData.mono fun _ => Or.inl
  · exact FailsWithin.foldlM d fun d name _ => s.fieldStep_failsWithin tasks now d name

end Service

/-- Every public evaluation lets through faults of data only. A formula lets
through an uncaught fault of an operator or call (a moment beyond the
calendar, date digits that do not read, an integer too long to write) or a
fault of reading a built-in attribute; a rollup, a datum that is no value, an
integer too long to write or, for `concat`, a moment beyond the calendar; the
service, faults of data, and for a derivation a rollup field without a
configuration. -/
theorem evaluation_escapes_only_data_faults (source : Option String) (ctx : Formula.Context)
    (aggregation : String) (values : List Datum) (delimiter : Option String) (s : Service)
    (field : FieldDefinition) (task : TaskSnapshot) (taskValues : TaskValues) (index : ValuesIndex)
    (taskIds : Option (List Ident)) (tasks : List TaskSnapshot) (now : Int) :
    FailsWithin (fun f => (∃ n ∈ Formula.builtinNames, ctx.resolve n = .error f) ∨ f.Uncaught)
        (Formula.evaluateFormula source ctx).value ∧
      FailsWithin (fun f => (∃ d ∈ values, d.toValue = .error f) ∨ f = .digitLimit ∨
          Formula.Aggregation.resolve aggregation = .ok .concat ∧ ∃ m, f = .moment m)
        (Formula.evaluateRollup aggregation values delimiter).value ∧
      FailsWithin Fault.OfData (s.evaluateFormulaField field task taskValues now).value ∧
      FailsWithin Fault.OfData (s.evaluateRollupField field index taskIds).value ∧
      FailsWithin (fun f => f.OfData ∨ f = .noValue "source_field_name")
        (s.deriveValues tasks index now).run.value :=
  ⟨Formula.evaluateFormula_failsWithin source ctx, Formula.evaluateRollup_failsWithin aggregation values delimiter,
    s.evaluateFormulaField_ofData field task taskValues now, s.evaluateRollupField_ofData field index taskIds,
    s.deriveValues_failsWithin tasks index now⟩

end FieldCalc
