import Mathlib
import FieldCalc.Formula.Engine
import FieldCalc.Formula.References
import FieldCalc.Proofs.Formula.Traversal

/-!
# What a formula reads from its context

Evaluating a formula consults its context in two ways only: it resolves the
names of its reference nodes, and `NOW()` and `TODAY()` read the current
moment. So two contexts that share their built-in attributes and their moment,
and resolve every field the formula refers to alike, give the same outcome
(`evaluateFormula_congr`). The fields a formula refers to are those of
`fieldReferences`, the built-in attributes being resolved before any field.
-/

namespace FieldCalc.Formula

namespace Expr

@[simp]
theorem fieldRefs_field (name : String) : (Expr.field name).fieldRefs = [name] := by
  simp [fieldRefs_eq_cons_children (.field name), fieldName?, children]

@[simp]
theorem fieldRefs_binary (op : BinOp) (l r : Expr) :
    (Expr.binary op l r).fieldRefs = l.fieldRefs ++ r.fieldRefs := by
  simp [fieldRefs_eq_cons_children (.binary op l r), fieldName?, children]

@[simp]
theorem fieldRefs_unary (op : UnOp) (x : Expr) : (Expr.unary op x).fieldRefs = x.fieldRefs := by
  simp [fieldRefs_eq_cons_children (.unary op x), fieldName?, children]

@[simp]
theorem fieldRefs_call (name : String) (args : List Expr) :
    (Expr.call name args).fieldRefs = args.flatMap fieldRefs := by
  simp [fieldRefs_eq_cons_children (.call name args), fieldName?, children]

end Expr

theorem applyEager_congr {ctx₁ ctx₂ : Context} (now : ctx₁.now = ctx₂.now) (f : Builtin)
    (args : List Value) : applyEager ctx₁ f args = applyEager ctx₂ f args := by
  unfold applyEager
  rw [now]

theorem mapM_congr_of_mem {α β ε : Type} {f g : α → Except ε β} :
    ∀ (l : List α), (∀ a ∈ l, f a = g a) → l.mapM f = l.mapM g
  | [], _ => rfl
  | a :: l, same => by
      rw [List.mapM_cons, List.mapM_cons, same a List.mem_cons_self,
        mapM_congr_of_mem l fun b member => same b (List.mem_cons_of_mem a member)]

theorem forIn_congr_of_mem {α β ε : Type} (l : List α) (b : β)
    (f g : α → β → Except ε (ForInStep β)) (same : ∀ a ∈ l, f a = g a) :
    forIn l b f = forIn l b g := by
  induction l generalizing b with
  | nil => rfl
  | cons a l inductionHypothesis =>
      rw [List.forIn_cons, List.forIn_cons, same a List.mem_cons_self]
      congr 1
      funext step
      cases step with
      | done _ => rfl
      | yield c => exact inductionHypothesis c fun x member => same x (List.mem_cons_of_mem a member)

theorem evalBinary_congr {ctx₁ ctx₂ : Context} {b : Nat} {op : BinOp} {l r : Expr}
    (left : eval ctx₁ b l = eval ctx₂ b l) (right : eval ctx₁ b r = eval ctx₂ b r) :
    evalBinary ctx₁ (b + 1) op l r = evalBinary ctx₂ (b + 1) op l r := by
  unfold evalBinary
  rw [left, right]

/-- A call evaluates alike in two contexts that share their moment and evaluate
each argument alike under every smaller budget. -/
theorem evalCall_congr {ctx₁ ctx₂ : Context} (now : ctx₁.now = ctx₂.now) {b : Nat}
    {name : String} {args : List Expr}
    (argument : ∀ k ≤ b, ∀ a ∈ args, eval ctx₁ k a = eval ctx₂ k a) :
    evalCall ctx₁ (b + 1) name args = evalCall ctx₂ (b + 1) name args := by
  rw [evalCall, evalCall]
  split
  · rfl
  · split
    · rfl
    · split
      · -- a lazy function evaluates its arguments under what is left of the budget
        split
        · simp only []
          congr 2
          apply List.map_congr_left
          intro a member
          funext
          exact argument _ (by omega) a member
        · rfl
      · have values : evalArgs ctx₁ b args = evalArgs ctx₂ b args := by
          cases b with
          | zero => simp [evalArgs]
          | succ b =>
              rw [evalArgs, evalArgs]
              exact mapM_congr_of_mem args fun a member => argument b (by omega) a member
        simp only [values, applyEager_congr now]

section Locality

variable {ctx₁ ctx₂ : Context} (now : ctx₁.now = ctx₂.now) {P : String → Prop}
  (agree : ∀ n, P n → ctx₁.resolve n = ctx₂.resolve n)

include now agree

/-- Evaluation under any budget only reads the fields a formula refers to.
The induction is on the budget, since a lazy call evaluates its arguments
under a budget several steps smaller. -/
theorem eval_congr (budget : Nat) :
    ∀ e : Expr, (∀ n ∈ e.fieldRefs, P n) → eval ctx₁ budget e = eval ctx₂ budget e := by
  induction budget using Nat.strongRecOn with
  | _ budget inductionHypothesis =>
  intro e reads
  match budget, e with
  | 0, _ => simp [eval]
  | _ + 1, .number _ => simp [eval]
  | _ + 1, .string _ => simp [eval]
  | _ + 1, .boolean _ => simp [eval]
  | _ + 1, .null => simp [eval]
  | _ + 1, .field name => simpa [eval] using agree name (reads name (by simp))
  | b + 1, .binary op l r =>
      simp only [eval]
      cases b with
      | zero => simp [evalBinary]
      | succ b =>
          have left := inductionHypothesis b (by omega) l fun n member => reads n (by simp [member])
          have right := inductionHypothesis b (by omega) r fun n member => reads n (by simp [member])
          exact evalBinary_congr left right
  | b + 1, .unary op x =>
      simp only [eval]
      cases b with
      | zero => simp [evalUnary]
      | succ b =>
          have operand := inductionHypothesis b (by omega) x fun n member => reads n (by simpa using member)
          rw [evalUnary, evalUnary, operand]
  | b + 1, .call name args =>
      simp only [eval]
      cases b with
      | zero => simp [evalCall]
      | succ b =>
          exact evalCall_congr now fun k smaller a member => inductionHypothesis k (by omega) a
            fun n inside => reads n (by simpa using ⟨a, member, inside⟩)

theorem evaluate_congr (e : Expr) (reads : ∀ n ∈ e.fieldRefs, P n) :
    evaluate ctx₁ e = evaluate ctx₂ e := by
  unfold evaluate
  rw [eval_congr now agree nestingBudget e reads]
  congr 1
  exact forIn_congr_of_mem _ _ _ _ fun n member => funext fun _ => by rw [agree n (reads n member)]

theorem run_congr (src : String) (reads : ∀ e, parse src = .ok e → ∀ n ∈ e.fieldRefs, P n) :
    run ctx₁ src = run ctx₂ src := by
  unfold run
  cases parsed : parse src with
  | error _ => rfl
  | ok e =>
      simp only [Except.mapError]
      cases lengthError src with
      | some _ => rfl
      | none => exact evaluate_congr now agree e (reads e parsed)

end Locality

theorem mem_firstOccurrences {names : List String} {n : String} :
    n ∈ firstOccurrences names ↔ n ∈ names := by
  suffices general : ∀ acc : List String,
      n ∈ names.foldl (fun acc n => if acc.contains n then acc else acc ++ [n]) acc ↔
        n ∈ acc ∨ n ∈ names from by
    unfold firstOccurrences
    simpa using general []
  induction names with
  | nil => simp
  | cons m names inductionHypothesis =>
      intro acc
      rw [List.foldl_cons, inductionHypothesis]
      by_cases present : m ∈ acc
      · simp only [List.contains_iff_mem, present, if_true, List.mem_cons]
        constructor
        · rintro (old | later)
          · exact Or.inl old
          · exact Or.inr (Or.inr later)
        · rintro (old | rfl | later)
          · exact Or.inl old
          · exact Or.inl present
          · exact Or.inr later
      · simp only [List.contains_iff_mem, present, if_false, List.mem_append, List.mem_cons,
          List.not_mem_nil, or_false]
        exact or_assoc

theorem mem_fieldReferences_of_parse {src : String} {e : Expr} (filled : Text.isBlank src = false)
    (parsed : parse src = .ok e) {n : String} (member : n ∈ e.fieldRefs) :
    n ∈ fieldReferences (some src) ∨ n ∈ builtinNames := by
  have notEmpty : src.isEmpty = false := by
    cases empty : src.isEmpty
    · rfl
    · rw [String.isEmpty_iff.mp empty] at filled
      cases filled
  by_cases builtin : n ∈ builtinNames
  · exact Or.inr builtin
  · left
    simp [fieldReferences, notEmpty, filled, parsed, mem_firstOccurrences, member, builtin]

theorem resolve_builtin {ctx : Context} {n : String} (builtin : n ∈ builtinNames) :
    ∃ v, ctx.builtin n = some v := by
  simp only [builtinNames, List.mem_cons, List.not_mem_nil, or_false] at builtin
  rcases builtin with rfl | rfl | rfl | rfl | rfl | rfl <;> simp [Context.builtin]

/-- Two contexts that differ at most in their fields resolve a name alike when
the last entries of that name hold the same value. -/
theorem resolve_congr {ctx₁ ctx₂ : Context}
    (sameRest : { ctx₁ with fields := [] } = { ctx₂ with fields := [] }) {n : String}
    (found : (ctx₁.fields.reverse.find? (·.1 == n)).map (·.2) =
      (ctx₂.fields.reverse.find? (·.1 == n)).map (·.2)) :
    ctx₁.resolve n = ctx₂.resolve n := by
  have builtins : ctx₁.builtin n = ctx₂.builtin n := by
    have same := congrArg (Context.builtin · n) sameRest
    exact same
  unfold Context.resolve
  rw [builtins]
  cases ctx₂.builtin n with
  | some v => rfl
  | none =>
      cases first : ctx₁.fields.reverse.find? (·.1 == n) <;>
        cases second : ctx₂.fields.reverse.find? (·.1 == n) <;>
        simp_all

/-- Two contexts that differ at most in their fields and resolve every field
a formula refers to alike give the formula the same outcome. -/
theorem evaluateFormula_congr {ctx₁ ctx₂ : Context}
    (sameRest : { ctx₁ with fields := [] } = { ctx₂ with fields := [] }) (source : Option String)
    (agree : ∀ n ∈ fieldReferences source, ctx₁.resolve n = ctx₂.resolve n) :
    evaluateFormula source ctx₁ = evaluateFormula source ctx₂ := by
  have now : ctx₁.now = ctx₂.now := by
    have same := congrArg Context.now sameRest
    exact same
  have builtins : ∀ n, ctx₁.builtin n = ctx₂.builtin n := by
    intro n
    have same := congrArg (Context.builtin · n) sameRest
    exact same
  cases source with
  | none => rfl
  | some src =>
      unfold evaluateFormula
      dsimp only
      cases filled : Text.isBlank src
      · have agreeAll : ∀ n, (n ∈ fieldReferences (some src) ∨ n ∈ builtinNames) →
            ctx₁.resolve n = ctx₂.resolve n := by
          rintro n (listed | builtin)
          · exact agree n listed
          · obtain ⟨v, found⟩ := @resolve_builtin ctx₁ _ builtin
            have found₂ : ctx₂.builtin n = some v := builtins n ▸ found
            simp [Context.resolve, found, found₂]
        rw [run_congr now agreeAll src fun e parsed n member =>
          mem_fieldReferences_of_parse filled parsed member]
      · rfl

end FieldCalc.Formula
