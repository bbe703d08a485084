import FieldCalc.Proofs.Formula.Faults
import FieldCalc.Proofs.Formula.Locality

/-!
# Where the faults of an evaluation come from

Evaluating a formula first resolves every field it refers to and stops at the
first that does not resolve. Once they all resolve, evaluation fails only in
the ways `CallFault` lists, each tied to a call the formula makes: nesting
beyond the budget, a call of an unknown function, an argument count the
function refuses, an `IFS` call with an unpaired condition, or a fault an
operator or call reports (`eval_failsWithin`). So a missing field is reported
only by the resolution that comes first (`evaluate_failsWithin`), whichever
branches the evaluation then takes.
-/

namespace FieldCalc.Formula

namespace Expr

theorem calls_call (name : String) (args : List Expr) :
    (Expr.call name args).calls = (name, args.length) :: args.flatMap calls := by
  simp [calls_eq_cons_children (.call name args), callShape?, children]

@[simp]
theorem calls_binary (op : BinOp) (l r : Expr) : (Expr.binary op l r).calls = l.calls ++ r.calls := by
  simp [calls_eq_cons_children (.binary op l r), callShape?, children]

@[simp]
theorem calls_unary (op : UnOp) (x : Expr) : (Expr.unary op x).calls = x.calls := by
  simp [calls_eq_cons_children (.unary op x), callShape?, children]

theorem call_mem_calls (name : String) (args : List Expr) :
    (name, args.length) ∈ (Expr.call name args).calls := by
  simp [calls_call]

theorem calls_subset_of_mem {a : Expr} {name : String} {args : List Expr} (member : a ∈ args) :
    a.calls ⊆ (Expr.call name args).calls := by
  intro c inside
  rw [calls_call]
  exact List.mem_cons_of_mem _ (List.mem_flatMap.mpr ⟨a, member, inside⟩)

end Expr

theorem arityError?_eq_some {info : FunctionInfo} {count : Nat} {e : FormulaError}
    (refused : info.arityError? count = some e) : ∃ message, e = .argument info.name message := by
  unfold FunctionInfo.arityError? at refused
  simp only [Option.ite_none_right_eq_some] at refused
  exact ⟨_, (Option.some.inj refused.2).symm⟩

/-- How evaluating a formula whose references resolve can fail, given the
calls it makes. -/
inductive CallFault (calls : List (String × Nat)) : Fault → Prop
  /-- Nesting beyond the budget. -/
  | tooDeep : CallFault calls .tooDeep
  /-- A call of a function that does not exist. -/
  | unknownFunction {name : String} {count : Nat} (called : (name, count) ∈ calls)
      (unknown : lookupFunction name = none) : CallFault calls (.formula (.unknownFunction name))
  /-- A call with an argument count its function refuses. -/
  | arity {name : String} {count : Nat} {info : FunctionInfo} {e : FormulaError}
      (called : (name, count) ∈ calls) (found : lookupFunction name = some info)
      (refused : info.arityError? count = some e) : CallFault calls (.formula e)
  /-- An `IFS` call with an odd number of arguments. -/
  | unpaired {name : String} {count : Nat} {info : FunctionInfo} (called : (name, count) ∈ calls)
      (found : lookupFunction name = some info) (conditions : info.builtin = .ifs)
      (odd : count % 2 = 1) : CallFault calls unpairedConditions
  /-- A fault that an operator or call reports. -/
  | reported {f : Fault} (h : f.Reported) : CallFault calls f

namespace CallFault

variable {calls calls' : List (String × Nat)} {f : Fault}

theorem mono (sub : calls ⊆ calls') : CallFault calls f → CallFault calls' f
  | .tooDeep => .tooDeep
  | .unknownFunction called unknown => .unknownFunction (sub called) unknown
  | .arity called found refused => .arity (sub called) found refused
  | .unpaired called found conditions odd => .unpaired (sub called) found conditions odd
  | .reported h => .reported h

theorem asFormula : CallFault calls f → CallFault calls f.asFormula
  | .tooDeep => by simpa [Fault.asFormula, Fault.isArithmetic] using CallFault.tooDeep
  | .unknownFunction called unknown => by
      simpa [Fault.asFormula, Fault.isArithmetic] using CallFault.unknownFunction called unknown
  | .arity called found refused => by
      simpa [Fault.asFormula, Fault.isArithmetic] using CallFault.arity called found refused
  | .unpaired called found conditions odd => by
      simpa [Fault.asFormula, Fault.isArithmetic] using CallFault.unpaired called found conditions odd
  | .reported h => .reported (Fault.OfValues.reported h).asFormula

theorem not_reference {name message : String} : ¬CallFault calls (.formula (.reference name message)) := by
  intro h
  cases h with
  | arity called found refused =>
      obtain ⟨_, argument⟩ := arityError?_eq_some refused
      cases argument
  | reported h => cases h

end CallFault

theorem FailsWithin.reported_calls {α : Type} {calls : List (String × Nat)} {x : Except Fault α}
    (h : FailsWithin Fault.Reported x) : FailsWithin (CallFault calls) x :=
  h.mono fun _ => .reported

theorem FailsWithin.guarded_calls {α : Type} {calls : List (String × Nat)} {x : Except Fault α}
    (h : FailsWithin Fault.OfValues x) : FailsWithin (CallFault calls) (guarded x) :=
  guarded_failsWithin h fun _ ofValues => .reported ofValues.asFormula

section Provenance

variable {ctx : Context}

/-- A binary operation fails only as one of its operands does, or with a fault
that an operator reports. -/
theorem evalBinary_failsWithin {calls : List (String × Nat)} {b : Nat} {op : BinOp} {l r : Expr}
    (left : FailsWithin (CallFault calls) (eval ctx b l))
    (right : FailsWithin (CallFault calls) (eval ctx b r)) :
    FailsWithin (CallFault calls) (evalBinary ctx (b + 1) op l r) := by
  unfold evalBinary
  -- `AND` and `OR` may skip their right operand; the other operators take both
  split
  · simp only [FailsWithin.bind_iff]
    refine ⟨left, fun _ _ => ?_⟩
    split <;> simp [right]
  · simp only [FailsWithin.bind_iff]
    refine ⟨left, fun _ _ => ?_⟩
    split <;> simp [right]
  · simp only [FailsWithin.bind_iff]
    refine ⟨left, fun lv _ => ⟨right, fun rv _ => ?_⟩⟩
    split <;> simp [FailsWithin.guarded_calls, FailsWithin.reported_calls]

/-- A call fails only when its function is unknown or refuses the argument
count, as an unpaired `IFS`, by nesting, as one of its arguments does under a
smaller budget, or with a fault that its function reports. -/
theorem evalCall_failsWithin {b : Nat} {name : String} {args : List Expr}
    (argument : ∀ k ≤ b, ∀ a ∈ args,
      FailsWithin (CallFault (Expr.call name args).calls) (eval ctx k a)) :
    FailsWithin (CallFault (Expr.call name args).calls) (evalCall ctx (b + 1) name args) := by
  have called := Expr.call_mem_calls name args
  rw [evalCall]
  split
  next unknown => simpa using CallFault.unknownFunction called unknown
  next info found =>
    split
    next e refused => simpa using CallFault.arity called found refused
    next =>
      split
      · -- a lazy function evaluates its arguments under what is left of the budget
        split
        · refine guarded_failsWithin (applyLazy_failsWithin _ _ ?_ ?_) fun _ => CallFault.asFormula
          · simp only [List.mem_map]
            rintro _ ⟨a, member, rfl⟩
            exact argument _ (by omega) a member
          · intro conditions odd
            exact CallFault.unpaired called found conditions (by simpa using odd)
        · simpa using CallFault.tooDeep
      · simp only [FailsWithin.bind_iff]
        refine ⟨?_, fun vals _ => FailsWithin.guarded_calls (applyEager_ofValues _ _ _)⟩
        cases b with
        | zero => simpa [evalArgs] using CallFault.tooDeep
        | succ b =>
            rw [evalArgs]
            exact FailsWithin.mapM fun a member => argument b (by omega) a member

/-- Once the references of a formula resolve, evaluating it under any budget
fails only as `CallFault` says. The induction is on the budget, since a lazy
call evaluates its arguments under a budget several steps smaller. -/
theorem eval_failsWithin (budget : Nat) :
    ∀ e : Expr, (∀ n ∈ e.fieldRefs, ∃ v, ctx.resolve n = .ok v) →
      FailsWithin (CallFault e.calls) (eval ctx budget e) := by
  induction budget using Nat.strongRecOn with
  | _ budget inductionHypothesis =>
  intro e resolves
  match budget, e with
  | 0, _ => simpa [eval] using CallFault.tooDeep
  | _ + 1, .number n => simpa [eval] using FailsWithin.reported_calls (ofNumber_reported n)
  | _ + 1, .string _ => simp [eval]
  | _ + 1, .boolean _ => simp [eval]
  | _ + 1, .null => simp [eval]
  | _ + 1, .field name =>
      obtain ⟨v, resolved⟩ := resolves name (by simp)
      simp [eval, resolved]
  | b + 1, .binary op l r =>
      simp only [eval]
      cases b with
      | zero => simpa [evalBinary] using CallFault.tooDeep
      | succ b =>
          have left : FailsWithin (CallFault (l.calls ++ r.calls)) (eval ctx b l) :=
            (inductionHypothesis b (by omega) l fun n member => resolves n (by simp [member])).mono
              fun _ => CallFault.mono (List.subset_append_left _ _)
          have right : FailsWithin (CallFault (l.calls ++ r.calls)) (eval ctx b r) :=
            (inductionHypothesis b (by omega) r fun n member => resolves n (by simp [member])).mono
              fun _ => CallFault.mono (List.subset_append_right _ _)
          rw [Expr.calls_binary]
          exact evalBinary_failsWithin left right
  | b + 1, .unary op x =>
      simp only [eval]
      cases b with
      | zero => simpa [evalUnary] using CallFault.tooDeep
      | succ b =>
          have operand : FailsWithin (CallFault x.calls) (eval ctx b x) :=
            inductionHypothesis b (by omega) x fun n member => resolves n (by simpa using member)
          rw [Expr.calls_unary, evalUnary]
          simp only [FailsWithin.bind_iff]
          refine ⟨operand, fun v _ => ?_⟩
          cases op <;> simp [FailsWithin.reported_calls]
  | b + 1, .call name args =>
      simp only [eval]
      cases b with
      | zero => simpa [evalCall] using CallFault.tooDeep
      | succ b =>
          exact evalCall_failsWithin fun k smaller a member =>
            (inductionHypothesis k (by omega) a fun n inside =>
              resolves n (by simpa using ⟨a, member, inside⟩)).mono
              fun _ => CallFault.mono (Expr.calls_subset_of_mem member)

/-! ### Resolving every reference first -/

theorem forIn_resolve_eq_ok_iff (names : List String) :
    (forIn names PUnit.unit fun name (_ : PUnit) => do
        let _ ← ctx.resolve name
        pure (ForInStep.yield PUnit.unit)) = .ok PUnit.unit ↔
      ∀ n ∈ names, ∃ v, ctx.resolve n = .ok v := by
  induction names with
  | nil => simp [forIn, pure, Except.pure]
  | cons n names inductionHypothesis =>
      rw [List.forIn_cons]
      cases resolved : ctx.resolve n with
      | error f => simp [resolved, bind, Except.bind]
      | ok v => simpa [resolved, bind, Except.bind, pure, Except.pure] using inductionHypothesis

theorem forIn_resolve_eq_error {names : List String} {f : Fault}
    (failed : (forIn names PUnit.unit fun name (_ : PUnit) => do
        let _ ← ctx.resolve name
        pure (ForInStep.yield PUnit.unit)) = .error f) :
    ∃ n ∈ names, ctx.resolve n = .error f := by
  induction names with
  | nil => simp [forIn, pure, Except.pure] at failed
  | cons n names inductionHypothesis =>
      rw [List.forIn_cons] at failed
      cases resolved : ctx.resolve n with
      | error g =>
          simp only [resolved, bind, Except.bind, Except.error.injEq] at failed
          exact ⟨n, List.mem_cons_self, by rw [resolved, failed]⟩
      | ok v =>
          simp only [resolved, bind, Except.bind, pure, Except.pure] at failed
          obtain ⟨m, member, found⟩ := inductionHypothesis failed
          exact ⟨m, List.mem_cons_of_mem n member, found⟩

theorem evaluate_failsWithin (e : Expr) :
    FailsWithin (fun f => (∃ n ∈ e.fieldRefs, ctx.resolve n = .error f) ∨
      (∀ n ∈ e.fieldRefs, ∃ v, ctx.resolve n = .ok v) ∧ CallFault e.calls f) (evaluate ctx e) := by
  unfold evaluate
  simp only [FailsWithin.bind_iff]
  constructor
  · intro f failed
    exact Or.inl (forIn_resolve_eq_error failed)
  · intro _ resolvedAll
    have resolves := (forIn_resolve_eq_ok_iff e.fieldRefs).mp resolvedAll
    exact (eval_failsWithin nestingBudget e resolves).mono fun _ h => Or.inr ⟨resolves, h⟩

end Provenance

end FieldCalc.Formula
