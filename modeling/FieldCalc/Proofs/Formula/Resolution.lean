import FieldCalc.Proofs.Formula.Provenance

/-!
# A missing field is `#REF!`, wherever it stands

A formula that parses refers to the fields that `fieldReferences` lists. When
the built-in attributes of the context resolve, evaluating the formula fails
with `#REF!` exactly when one of those fields is not in the context, even one
that sits in a branch of `IF`, `IFS`, `SWITCH`, `IFERROR`, `ISERROR`, `AND` or
`OR` that evaluation does not take: the references are resolved before
evaluation starts (`evaluate_failsWithin`), and evaluation itself never
reports a missing field (`CallFault.not_reference`).
-/

namespace FieldCalc.Formula

section Names

variable {ctx : Context} {n : String}

theorem builtin_eq_none (plain : n ∉ builtinNames) : ctx.builtin n = none := by
  simp only [builtinNames, List.mem_cons, List.not_mem_nil, or_false, not_or] at plain
  obtain ⟨notStatus, notPriority, notDeadline, notProgress, notTitle, notDescription⟩ := plain
  unfold Context.builtin
  split
  · simp_all
  · split <;> simp_all

theorem resolve_of_key (plain : n ∉ builtinNames) (key : n ∈ ctx.fields.map Prod.fst) :
    ∃ v, ctx.resolve n = .ok v := by
  unfold Context.resolve
  rw [builtin_eq_none plain]
  dsimp only
  split
  next v _ => exact ⟨v, rfl⟩
  next absent =>
    obtain ⟨⟨m, v⟩, member, rfl⟩ := List.mem_map.mp key
    have := List.find?_eq_none.mp absent (m, v) (List.mem_reverse.mpr member)
    simp at this

theorem resolve_of_missing (plain : n ∉ builtinNames) (missing : n ∉ ctx.fields.map Prod.fst) :
    ctx.resolve n = .error (.formula (.unknownField n)) := by
  unfold Context.resolve
  rw [builtin_eq_none plain]
  dsimp only
  split
  next m v found =>
    have named := List.find?_some found
    have member := List.mem_reverse.mp (List.mem_of_find?_eq_some found)
    simp only [beq_iff_eq] at named
    exact absurd (List.mem_map.mpr ⟨(m, v), member, named⟩) missing
  next => rfl

theorem resolve_failsWithin (ctx : Context) (n : String) :
    FailsWithin (fun f => f.OfData ∨
      n ∉ builtinNames ∧ n ∉ ctx.fields.map Prod.fst ∧ f = .formula (.unknownField n)) (ctx.resolve n) := by
  by_cases builtin : n ∈ builtinNames
  · obtain ⟨r, found⟩ := @resolve_builtin ctx n builtin
    have resolved : ctx.resolve n = r := by simp [Context.resolve, found]
    rw [resolved]
    exact (builtin_ofData found).mono fun _ => Or.inl
  · by_cases key : n ∈ ctx.fields.map Prod.fst
    · obtain ⟨v, resolved⟩ := resolve_of_key builtin key
      simp [resolved]
    · rw [resolve_of_missing builtin key]
      simp [builtin, key]

end Names

/-- With the built-in attributes resolving, a name of a formula fails to
resolve exactly when it is a field the context lacks. -/
theorem resolve_fails_iff {ctx : Context} (attributes : ∀ n ∈ builtinNames, (ctx.resolve n).isOk = true)
    {n : String} {f : Fault} (failed : ctx.resolve n = .error f) :
    n ∉ builtinNames ∧ n ∉ ctx.fields.map Prod.fst ∧ f = .formula (.unknownField n) := by
  have plain : n ∉ builtinNames := by
    intro builtin
    have := attributes n builtin
    simp [failed, Except.isOk, Except.toBool] at this
  have missing : n ∉ ctx.fields.map Prod.fst := by
    intro key
    obtain ⟨v, resolved⟩ := resolve_of_key plain key
    rw [resolved] at failed
    cases failed
  refine ⟨plain, missing, ?_⟩
  rw [resolve_of_missing plain missing] at failed
  exact (Except.error.inj failed).symm

/-- Evaluating a parsed formula fails with a missing field exactly when it
refers to a field that is neither a built-in attribute nor in the context. -/
theorem evaluate_reference_iff {ctx : Context} (attributes : ∀ n ∈ builtinNames, (ctx.resolve n).isOk = true)
    (e : Expr) :
    (∃ name message, evaluate ctx e = .error (.formula (.reference name message))) ↔
      ∃ n ∈ e.fieldRefs, n ∉ builtinNames ∧ n ∉ ctx.fields.map Prod.fst := by
  constructor
  · rintro ⟨name, message, failed⟩
    rcases evaluate_failsWithin e _ failed with ⟨n, member, unresolved⟩ | ⟨_, fault⟩
    · obtain ⟨plain, missing, _⟩ := resolve_fails_iff attributes unresolved
      exact ⟨n, member, plain, missing⟩
    · exact absurd fault CallFault.not_reference
  · rintro ⟨n, member, plain, missing⟩
    -- the loop over the references cannot pass the missing one, so it fails,
    -- at the first reference that does not resolve
    have stops : ¬∀ m ∈ e.fieldRefs, ∃ v, ctx.resolve m = .ok v := by
      intro resolves
      obtain ⟨v, resolved⟩ := resolves n member
      rw [resolve_of_missing plain missing] at resolved
      cases resolved
    rw [← forIn_resolve_eq_ok_iff] at stops
    unfold evaluate
    cases loop : (forIn e.fieldRefs PUnit.unit fun name (_ : PUnit) => do
        let _ ← ctx.resolve name
        pure (ForInStep.yield PUnit.unit)) with
    | ok u => exact absurd loop stops
    | error f =>
        obtain ⟨m, _, unresolved⟩ := forIn_resolve_eq_error loop
        obtain ⟨_, _, rfl⟩ := resolve_fails_iff attributes unresolved
        exact ⟨m, _, rfl⟩

theorem run_eq_evaluate {ctx : Context} {src : String} {e : Expr} (short : src.length ≤ maxFormulaLength)
    (parsed : parse src = .ok e) : run ctx src = evaluate ctx e := by
  have fits : lengthError src = none := by simp [lengthError, Nat.not_lt.mpr short]
  simp [run, fits, parsed, Except.mapError, bind, Except.bind]

/-- A non-blank formula fails with `#REF!` exactly when running it ends in a
missing field. -/
theorem evaluateFormula_ref_iff {ctx : Context} {src : String} (filled : Text.isBlank src = false) :
    (∃ message, (evaluateFormula (some src) ctx).value = .ok (.failure .ref message)) ↔
      ∃ name message, run ctx src = .error (.formula (.reference name message)) := by
  unfold evaluateFormula
  simp only [filled, Bool.false_eq_true, if_false]
  cases run ctx src with
  | ok v => simp [pure, Logged.pure]
  | error f =>
      cases f with
      | formula e =>
          simp only [bind, Logged.bind, pure, Logged.pure, Outcome.ofError, Except.ok.injEq,
            Outcome.failure.injEq, Except.error.injEq, Fault.formula.injEq]
          constructor
          · rintro ⟨_, coded, _⟩
            cases e with
            | reference name message => exact ⟨name, message, rfl⟩
            | _ => cases coded
          · rintro ⟨name, message, rfl⟩
            exact ⟨_, rfl, rfl⟩
      | tooDeep => simp [bind, Logged.bind, pure, Logged.pure]
      | _ => simp [pure, Logged.pure]

theorem mem_fieldReferences_iff {src : String} {e : Expr} (filled : Text.isBlank src = false)
    (parsed : parse src = .ok e) {n : String} :
    n ∈ fieldReferences (some src) ↔ n ∈ e.fieldRefs ∧ n ∉ builtinNames := by
  have notEmpty : src.isEmpty = false := by
    cases empty : src.isEmpty
    · rfl
    · rw [String.isEmpty_iff.mp empty] at filled
      cases filled
  simp [fieldReferences, notEmpty, filled, parsed, mem_firstOccurrences]

/-- A non-blank formula within the length limit that parses, evaluated in a
context whose built-in attributes resolve, fails with `#REF!` exactly when
one of the fields it refers to is not in the context. -/
theorem refFailure_iff_missing_field {src : String} {ctx : Context} (filled : Text.isBlank src = false)
    (short : src.length ≤ maxFormulaLength) (parses : (parse src).isOk = true)
    (attributes : ∀ n ∈ builtinNames, (ctx.resolve n).isOk = true) :
    (∃ message, (evaluateFormula (some src) ctx).value = .ok (.failure .ref message)) ↔
      ∃ n ∈ fieldReferences (some src), n ∉ ctx.fields.map Prod.fst := by
  obtain ⟨e, parsed⟩ : ∃ e, parse src = .ok e := by
    cases parsing : parse src with
    | ok e => exact ⟨e, rfl⟩
    | error _ => simp [parsing, Except.isOk, Except.toBool] at parses
  rw [evaluateFormula_ref_iff filled, run_eq_evaluate short parsed, evaluate_reference_iff attributes]
  simp only [mem_fieldReferences_iff filled parsed, and_assoc]

/-- `IF(TRUE, 1, {price})` names `price` in a branch that is never taken; the
context has no fields. -/
theorem refFailure_iff_missing_field_untakenBranch :
    Text.isBlank "IF(TRUE, 1, {price})" = false ∧ "IF(TRUE, 1, {price})".length ≤ maxFormulaLength ∧
      (parse "IF(TRUE, 1, {price})").isOk = true ∧
      (∀ n ∈ builtinNames, (({ now := 0 } : Context).resolve n).isOk = true) ∧
      ((∃ message, (evaluateFormula (some "IF(TRUE, 1, {price})") { now := 0 }).value =
          .ok (.failure .ref message)) ↔
        ∃ n ∈ fieldReferences (some "IF(TRUE, 1, {price})"), n ∉ ({ now := 0 } : Context).fields.map Prod.fst) :=
  ⟨by decide, by decide, by decide +kernel, by decide,
    refFailure_iff_missing_field (by decide) (by decide) (by decide +kernel) (by decide)⟩

end FieldCalc.Formula
