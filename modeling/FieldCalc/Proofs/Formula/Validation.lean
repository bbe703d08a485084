import FieldCalc.Proofs.Formula.Resolution

/-!
# What the check of a formula rules out

`checkFormula` reports a source that is too long, unbalanced or malformed, a
call of an unknown function, a call whose argument count its function
refuses, and, given the known fields, a reference to any other field. A
formula it accepts, evaluated in a context that holds the known fields, ends
in none of these errors but one: the check counts the arguments of an `IFS`
call against its bounds only, while evaluation also refuses a condition
without a value, so `IFS(TRUE, 1, FALSE)` passes the check and fails when
evaluated (`checked_fails_statically_only_unpaired`).
-/

namespace FieldCalc

/-- The kinds of formula error that the check reports: a malformed source
(syntax, length or balance), a call of an unknown function, arguments a
function refuses, a missing field. -/
inductive FormulaError.IsStatic : FormulaError → Prop
  | malformed (message : String) (kind : CheckKind) (position : Option Nat) :
      FormulaError.IsStatic (.malformed message kind position)
  | unknownFunction (name : String) : FormulaError.IsStatic (.unknownFunction name)
  | argument (name message : String) : FormulaError.IsStatic (.argument name message)
  | reference (name message : String) : FormulaError.IsStatic (.reference name message)

namespace Formula

/-- The check of the calls passes exactly when every call names a function
that takes its number of arguments. -/
theorem checkCalls_eq_ok_iff (calls : List (String × Nat)) :
    checkCalls calls = .ok () ↔
      ∀ c ∈ calls, ∃ info, lookupFunction c.1 = some info ∧ info.arityError? c.2 = none := by
  induction calls with
  | nil => simp [checkCalls]
  | cons c calls inductionHypothesis =>
      obtain ⟨name, count⟩ := c
      unfold checkCalls
      split
      next unknown => simp [unknown]
      next info found =>
        split
        next e refused => simp [found, refused]
        next accepted => simp [found, accepted, inductionHypothesis]

@[simp]
theorem CheckReport.ofError_valid (e : FormulaError) : (CheckReport.ofError e).valid = false := by
  unfold CheckReport.ofError
  split <;> rfl

/-- What an accepted check of a non-blank formula against known fields
establishes: the source is within the length limit and parses, its calls
pass the check, and every field it refers to is known. -/
theorem checkFormula_valid {s : String} {known : List String} (filled : Text.isBlank s = false)
    (valid : (checkFormula (some s) (some known)).valid = true) :
    ∃ t, s.length ≤ maxFormulaLength ∧ parse s = .ok t ∧ checkCalls t.calls = .ok () ∧
      ∀ n ∈ fieldReferences (some s), n ∈ known := by
  unfold checkFormula at valid
  simp only [filled, Bool.false_eq_true, if_false] at valid
  cases long : lengthError s with
  | some e => simp [long, bind, Except.bind] at valid
  | none =>
      have short : s.length ≤ maxFormulaLength := by
        unfold lengthError at long
        split at long
        · cases long
        · omega
      cases balanced : checkBalance s with
      | error e => simp [long, balanced, bind, Except.bind] at valid
      | ok u =>
          cases parsed : parse s with
          | error p => simp [long, balanced, parsed, bind, Except.bind, Except.mapError] at valid
          | ok t =>
              cases checked : checkCalls t.calls with
              | error e => simp [long, balanced, parsed, checked, bind, Except.bind, Except.mapError] at valid
              | ok u' =>
                  refine ⟨t, short, rfl, checked, fun n listed => ?_⟩
                  simp only [long, balanced, parsed, checked, bind, Except.bind, Except.mapError] at valid
                  split at valid
                  · cases valid
                  next unlisted =>
                    simpa using List.find?_eq_none.mp unlisted n listed

theorem ifs_named {name : String} {info : FunctionInfo} (found : lookupFunction name = some info)
    (conditions : info.builtin = .ifs) : name = "IFS" := by
  have named := List.find?_some found
  have listed := List.mem_of_find?_eq_some found
  have unique : ∀ g ∈ catalog, g.builtin = .ifs → g.name = "IFS" := by decide
  simp only [beq_iff_eq] at named
  rw [← named]
  exact unique info listed conditions

/-- A formula that the check accepts against known fields, evaluated in a
context that holds those fields, ends in no error of a kind the check
reports, except that an `IFS` call with an odd number of arguments refuses
its unpaired condition. -/
theorem checked_fails_statically_only_unpaired {s : String} {known : List String} {ctx : Context}
    (filled : Text.isBlank s = false) (valid : (checkFormula (some s) (some known)).valid = true)
    (covers : ∀ n ∈ known, n ∈ ctx.fields.map Prod.fst) :
    ∀ e : FormulaError, run ctx s = .error (.formula e) → e.IsStatic →
      e = .argument "IFS" "IFS expects condition/value pairs" ∧
        ∃ t, parse s = .ok t ∧ ∃ count, ("IFS", count) ∈ t.calls ∧ count % 2 = 1 := by
  intro e failed static
  obtain ⟨t, short, parsed, checked, listed⟩ := checkFormula_valid filled valid
  rw [run_eq_evaluate short parsed] at failed
  rcases evaluate_failsWithin t _ failed with ⟨n, member, unresolved⟩ | ⟨_, fault⟩
  · -- a reference fails only as a built-in attribute, since every other one is known
    rcases resolve_failsWithin ctx n _ unresolved with ofData | ⟨plain, missing, _⟩
    · cases ofData with
      | ofValues ofValues =>
          cases ofValues with
          | reported reported => cases reported <;> cases static
    · have isKnown : n ∈ known :=
        listed n ((mem_fieldReferences_iff filled parsed).mpr ⟨member, plain⟩)
      exact absurd (covers n isKnown) missing
  · have accepted := (checkCalls_eq_ok_iff t.calls).mp checked
    cases fault with
    | unknownFunction called unknown =>
        obtain ⟨_, found, _⟩ := accepted _ called
        simp [unknown] at found
    | arity called found refused =>
        obtain ⟨info, listedInfo, fine⟩ := accepted _ called
        rw [found] at listedInfo
        cases listedInfo
        simp [fine] at refused
    | unpaired called found conditions odd =>
        obtain rfl := ifs_named found conditions
        exact ⟨rfl, t, parsed, _, called, odd⟩
    | reported reported => cases reported <;> cases static

/-- `IFS({a} > 1, 1, FALSE)` passes the check with `a` known, in a context
holding `a`. -/
theorem checked_fails_statically_only_unpaired_ifs :
    let ctx : Context := { now := 0, fields := [("a", .number (.int 2))] }
    Text.isBlank "IFS({a} > 1, 1, FALSE)" = false ∧
      (checkFormula (some "IFS({a} > 1, 1, FALSE)") (some ["a"])).valid = true ∧
      (∀ n ∈ ["a"], n ∈ ctx.fields.map Prod.fst) ∧
      ∀ e : FormulaError, run ctx "IFS({a} > 1, 1, FALSE)" = .error (.formula e) → e.IsStatic →
        e = .argument "IFS" "IFS expects condition/value pairs" ∧
          ∃ t, parse "IFS({a} > 1, 1, FALSE)" = .ok t ∧ ∃ count, ("IFS", count) ∈ t.calls ∧ count % 2 = 1 :=
  ⟨by decide, by decide +kernel, by decide,
    @checked_fails_statically_only_unpaired "IFS({a} > 1, 1, FALSE)" ["a"] _ (by decide)
      (by decide +kernel) (by decide)⟩

end Formula

end FieldCalc
