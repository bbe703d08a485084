import FieldCalc.Proofs.Formula.Resolution
import FieldCalc.Formula.Rollup

/-!
# The faults that evaluation lets through

`evaluateFormula` turns every formula error into a failed outcome with its
cell code, and a formula nested too deeply into `#ERROR!`. Some faults that
operators and calls report are no formula errors and reach the caller as they
are (`Fault.Uncaught`): a moment that the calendar cannot hold, met where a
function splits a moment into its parts or shows it, a date text of digits
that are no whole number or more than `Number.maxStrDigits` of them, and an
integer of more digits than that, met where it is shown or made a decimal.
Apart from those, only a fault of reading a built-in attribute of the context
gets through (`evaluateFormula_failsWithin`): `YEAR(1e15)` ends in "year 33658
is out of range", not in a failed outcome.

A rollup turns its formula errors (an unknown aggregation, one undefined on
no numbers, a result beyond the float range) into failed outcomes too. What
reaches the caller is a datum that is no value, an integer too long to write,
or a moment beyond the calendar that `concat` was to show
(`evaluateRollup_failsWithin`).
-/

namespace FieldCalc

/-- The faults that operators and calls report and that are no formula
errors: a moment the calendar cannot hold, a date text of digits that are no
whole number or too many to read, and an integer too long to write. -/
inductive Fault.Uncaught : Fault → Prop
  | moment (e : Calendar.MomentFault) : Fault.Uncaught (.moment e)
  | badInteger (text : String) : Fault.Uncaught (.badInteger text)
  | tooManyDigits (count : Nat) : Fault.Uncaught (.tooManyDigits count)
  | digitLimit : Fault.Uncaught .digitLimit

namespace Fault

theorem Uncaught.reported {f : Fault} : f.Uncaught → f.Reported
  | .moment e => .moment e
  | .badInteger t => .badInteger t
  | .tooManyDigits n => .tooManyDigits n
  | .digitLimit => .digitLimit

theorem Reported.formula_or_uncaught {f : Fault} : f.Reported → (∃ e, f = .formula e) ∨ f.Uncaught
  | .type _ => .inl ⟨_, rfl⟩
  | .divisionByZero => .inl ⟨_, rfl⟩
  | .moment e => .inr (.moment e)
  | .badInteger t => .inr (.badInteger t)
  | .tooManyDigits n => .inr (.tooManyDigits n)
  | .digitLimit => .inr .digitLimit

end Fault

namespace Formula

/-! ### Formulas -/

theorem CallFault.formula_or_tooDeep_or_uncaught {calls : List (String × Nat)} {f : Fault} :
    CallFault calls f → (∃ e, f = .formula e) ∨ f = .tooDeep ∨ f.Uncaught
  | .tooDeep => .inr (.inl rfl)
  | .unknownFunction _ _ => .inl ⟨_, rfl⟩
  | .arity _ _ _ => .inl ⟨_, rfl⟩
  | .unpaired _ _ _ _ => .inl ⟨_, rfl⟩
  | .reported h => h.formula_or_uncaught.imp_right .inr

theorem resolve_plain_eq_error {ctx : Context} {n : String} {f : Fault} (plain : n ∉ builtinNames)
    (failed : ctx.resolve n = .error f) : f = .formula (.unknownField n) := by
  by_cases key : n ∈ ctx.fields.map Prod.fst
  · obtain ⟨v, resolved⟩ := resolve_of_key plain key
    rw [resolved] at failed
    cases failed
  · rw [resolve_of_missing plain key] at failed
    exact (Except.error.inj failed).symm

/-- Running a formula fails with a formula error, a nesting too deep, a fault
of reading a built-in attribute, or a fault of dates. -/
theorem run_failsWithin (ctx : Context) (src : String) :
    FailsWithin (fun f => (∃ e, f = .formula e) ∨ f = .tooDeep ∨
      (∃ n ∈ builtinNames, ctx.resolve n = .error f) ∨ f.Uncaught) (run ctx src) := by
  unfold run
  cases long : lengthError src with
  | some e => simp
  | none =>
      cases parsed : parse src with
      | error p => simp [Except.mapError, bind, Except.bind]
      | ok e =>
          simp only [Except.mapError, bind, Except.bind]
          intro f failed
          rcases evaluate_failsWithin e f failed with ⟨n, _, unresolved⟩ | ⟨_, fault⟩
          · by_cases builtin : n ∈ builtinNames
            · exact .inr (.inr (.inl ⟨n, builtin, unresolved⟩))
            · exact .inl ⟨_, resolve_plain_eq_error builtin unresolved⟩
          · rcases fault.formula_or_tooDeep_or_uncaught with isFormula | deep | uncaught
            · exact .inl isFormula
            · exact .inr (.inl deep)
            · exact .inr (.inr (.inr uncaught))

/-- A formula fails with exactly the faults of its run that are no formula
error and no nesting too deep: those become failed outcomes. -/
theorem evaluateFormula_value_eq_error {source : Option String} {ctx : Context} {f : Fault}
    (failed : (evaluateFormula source ctx).value = .error f) :
    ∃ src, source = some src ∧ run ctx src = .error f ∧
      (∀ e, f ≠ .formula e) ∧ f ≠ .tooDeep := by
  unfold evaluateFormula at failed
  split at failed
  · cases failed
  next src =>
    split at failed
    · cases failed
    · split at failed
      · cases failed
      · cases failed
      · cases failed
      next g notFormula notDeep ran =>
        cases failed
        exact ⟨src, rfl, ran, fun e isFormula => notFormula e isFormula, notDeep⟩

theorem evaluateFormula_failsWithin_of_run {Q : Fault → Prop} {source : Option String} {ctx : Context}
    (ran : ∀ src, FailsWithin (fun f => (∃ e, f = .formula e) ∨ f = .tooDeep ∨ Q f) (run ctx src)) :
    FailsWithin Q (evaluateFormula source ctx).value := by
  intro f failed
  obtain ⟨src, _, ranToError, notFormula, notDeep⟩ := evaluateFormula_value_eq_error failed
  rcases ran src f ranToError with ⟨e, isFormula⟩ | deep | escaped
  · exact absurd isFormula (notFormula e)
  · exact absurd deep notDeep
  · exact escaped

theorem evaluateFormula_failsWithin (source : Option String) (ctx : Context) :
    FailsWithin (fun f => (∃ n ∈ builtinNames, ctx.resolve n = .error f) ∨ f.Uncaught)
      (evaluateFormula source ctx).value :=
  evaluateFormula_failsWithin_of_run (run_failsWithin ctx)

theorem evaluateFormula_ofData (source : Option String) (ctx : Context) :
    FailsWithin Fault.OfData (evaluateFormula source ctx).value := by
  intro f failed
  rcases evaluateFormula_failsWithin source ctx f failed with ⟨n, builtin, unreadable⟩ | uncaught
  · exact (resolve_failsWithin ctx n f unreadable).resolve_right fun ⟨plain, _⟩ => plain builtin
  · exact .ofValues (.reported uncaught.reported)

/-! ### Rollups -/

theorem display_moment (v : Value) :
    FailsWithin (fun f => (∃ m, f = .moment m) ∨ f = .digitLimit) v.display := by
  cases v with
  | timestamp ms =>
      simp only [Value.display, formatTimestamp]
      split
      · simp
      · split <;> simp
  | number n =>
      simp only [Value.display]
      split <;> simp
  | _ => simp [Value.display]

theorem decimalOfText_digitLimit {P Q : Fault → Prop} (n : Number) :
    FailsWithin (fun f => P f ∨ f = .digitLimit ∨ Q f) n.decimalOfText := by
  unfold Number.decimalOfText
  split <;> simp

theorem normalizeDecimal_formula {Q : Fault → Prop} (d : DecimalValue) :
    FailsWithin (fun f => (∃ e, f = .formula e) ∨ Q f) (normalizeDecimal d) := by
  unfold normalizeDecimal
  split
  · dsimp only
    split
    · simp
    · split
      · simp [Fault.type]
      · split <;> simp
  · simp [Fault.type]

/-- Aggregating typed values fails with a formula error, on an integer too
long to write, or, for `concat`, on a moment it was to show. -/
theorem aggregate_failsWithin (kind : Aggregation) (typed : List Value) (delimiter : Option String) :
    FailsWithin (fun f => (∃ e, f = .formula e) ∨ f = .digitLimit ∨ kind = .concat ∧ ∃ m, f = .moment m)
      (aggregate kind typed delimiter) := by
  cases kind with
  | count => simp [aggregate]
  | concat =>
      simp only [aggregate, FailsWithin.bind_iff, FailsWithin.of_pure, implies_true, and_true]
      exact FailsWithin.mapM_of_forall fun v => (display_moment v).mono fun _ shown =>
        shown.elim (fun moment => .inr (.inr ⟨trivial, moment⟩)) (.inr ∘ .inl)
  | sum =>
      simp only [aggregate, FailsWithin.bind_iff]
      exact ⟨FailsWithin.mapM_of_forall decimalOfText_digitLimit, fun _ _ => by simp [normalizeDecimal_formula]⟩
  | avg | min | max =>
      simp only [aggregate, FailsWithin.bind_iff]
      refine ⟨FailsWithin.mapM_of_forall decimalOfText_digitLimit, fun numbers _ => ?_⟩
      simp only [beq_iff_eq, reduceCtorEq, if_false]
      split <;> simp [normalizeDecimal_formula]

/-- Computing a rollup fails with a formula error, as a datum that is no value
does, on an integer too long to write, or, for `concat`, on a moment it was to
show. -/
theorem computeRollup_failsWithin (values : List Datum) (aggregation : String) (delimiter : Option String) :
    FailsWithin (fun f => (∃ e, f = .formula e) ∨ (∃ d ∈ values, d.toValue = .error f) ∨
      f = .digitLimit ∨ Aggregation.resolve aggregation = .ok .concat ∧ ∃ m, f = .moment m)
      (computeRollup values aggregation delimiter) := by
  unfold computeRollup
  simp only [FailsWithin.bind_iff]
  refine ⟨?_, fun kind named => ⟨?_, fun typed _ => ?_⟩⟩
  · -- a name of no aggregation is a formula error
    cases Aggregation.resolve aggregation <;> simp [Except.mapError]
  · exact FailsWithin.mapM fun d member f untyped => .inr (.inl ⟨d, member, untyped⟩)
  · have resolved : Aggregation.resolve aggregation = .ok kind := by
      cases resolving : Aggregation.resolve aggregation <;> simp_all [Except.mapError]
    exact (aggregate_failsWithin kind typed delimiter).mono fun f => Or.imp_right fun escaped =>
      .inr (escaped.imp_right fun concat => ⟨resolved.trans (congrArg Except.ok concat.1), concat.2⟩)

theorem rollupOutcome_failsWithin {Q : Fault → Prop} (label : String) {r : Except Fault Value}
    (computed : FailsWithin (fun f => (∃ e, f = .formula e) ∨ Q f) r) :
    FailsWithin Q (rollupOutcome label r).value := by
  unfold rollupOutcome
  split
  · simp [pure, Logged.pure]
  · simp [pure, Logged.pure, bind, Logged.bind]
  next f notFormula =>
    simp only [pure, Logged.pure, FailsWithin.error_iff]
    exact (computed f rfl).resolve_left (not_exists.mpr notFormula)

/-- Evaluating a rollup lets through only a datum that is no value, an
integer too long to write, or, for `concat`, a moment beyond the calendar
that it was to show. -/
theorem evaluateRollup_failsWithin (aggregation : String) (values : List Datum) (delimiter : Option String) :
    FailsWithin (fun f => (∃ d ∈ values, d.toValue = .error f) ∨ f = .digitLimit ∨
      Aggregation.resolve aggregation = .ok .concat ∧ ∃ m, f = .moment m)
      (evaluateRollup aggregation values delimiter).value :=
  rollupOutcome_failsWithin aggregation (computeRollup_failsWithin values aggregation delimiter)

theorem evaluateAggregation_failsWithin (kind : Aggregation) (values : List Value) :
    FailsWithin (fun f => f = .digitLimit ∨ kind = .concat ∧ ∃ m, f = .moment m)
      (evaluateAggregation kind values).value :=
  rollupOutcome_failsWithin kind.memberName (aggregate_failsWithin kind values none)

end Formula

end FieldCalc
