import FieldCalc.Service
import FieldCalc.Json.Codec
import FieldCalc.Proofs.Formula.Faults

/-!
# Values in normal form

A number is stored normalized: an integer, or a finite float that is no whole
number below `2^53` in magnitude (`Number.Normal`). The other kinds of values
hold their payload in its only form: a moment is a whole number of
milliseconds, a list a list of texts, a truth value no number.

`Yields P x` says that every value the computation `x` can end in satisfies
`P`. Like `FailsWithin` for faults, it passes through `bind`, `if` and
`mapM`, so what a function yields follows from what its steps yield.

Every way a number value is made normalizes it, so the operators, every
function body and every aggregation yield normal values whatever their
arguments (`applyEager_normal`, `aggregate_normal`); a function that evaluates
its arguments as it needs them yields what they yield. What a formula reads
from its context is normal when the context is (`resolve_normal`), and so
every step of an evaluation, and its result, is normal (`eval_normal`). Data
typed from outside is normal, a value already typed being taken as it is, and
every field type reads a stored value as a normal value (`read_normal`).
-/

namespace FieldCalc

/-- A number in its stored form: an integer, or a finite float that is no
whole number below `2^53` in magnitude. -/
@[simp]
def Number.Normal : Number → Prop
  | .int _ => True
  | .float x => x.isFinite = true ∧ Number.exactInt? x = none

/-- A value in its stored form: a number value holds a normal number. -/
@[simp]
def Value.Normal : Value → Prop
  | .number n => n.Normal
  | _ => True

/-- A datum whose value, where it is one already typed, is normal. -/
@[simp]
def Datum.Normal : Datum → Prop
  | .value v => v.Normal
  | _ => True

instance : DecidablePred Number.Normal
  | .int _ => isTrue trivial
  | .float x => inferInstanceAs (Decidable (x.isFinite = true ∧ Number.exactInt? x = none))

instance : DecidablePred Value.Normal
  | .number n => inferInstanceAs (Decidable n.Normal)
  | .string _ | .boolean _ | .timestamp _ | .list _ | .null => isTrue trivial

/-! ### Values a computation yields -/

def Yields {α : Type} (P : α → Prop) (x : Except Fault α) : Prop :=
  ∀ a, x = .ok a → P a

namespace Yields

variable {α β γ : Type} {P Q : α → Prop}

@[simp]
theorem ok_iff (a : α) : Yields P (.ok a : Except Fault α) ↔ P a :=
  ⟨fun h => h a rfl, fun h _ done => by cases done; exact h⟩

@[simp]
theorem pure_iff (a : α) : Yields P (pure a : Except Fault α) ↔ P a := ok_iff a

@[simp]
theorem of_error (f : Fault) : Yields P (.error f : Except Fault α) := by
  intro a done
  cases done

@[simp]
theorem bind_iff {x : Except Fault β} {g : β → Except Fault α} :
    Yields P (x >>= g) ↔ ∀ b, x = .ok b → Yields P (g b) := by
  cases x <;> simp [bind, Except.bind]

@[simp]
theorem map_iff {x : Except Fault β} {g : β → α} :
    Yields P (g <$> x) ↔ ∀ b, x = .ok b → P (g b) := by
  cases x <;> simp [Functor.map, Except.map]

@[simp]
theorem ite_iff {c : Prop} [Decidable c] {x y : Except Fault α} :
    Yields P (if c then x else y) ↔ (c → Yields P x) ∧ (¬c → Yields P y) := by
  by_cases holds : c <;> simp [holds]

theorem bind {Q : β → Prop} {x : Except Fault β} {g : β → Except Fault α} (first : Yields Q x)
    (rest : ∀ b, Q b → Yields P (g b)) : Yields P (x >>= g) :=
  bind_iff.mpr fun b done => rest b (first b done)

theorem mapM {g : γ → Except Fault α} :
    ∀ {l : List γ}, (∀ c ∈ l, Yields P (g c)) → Yields (fun bs => ∀ b ∈ bs, P b) (l.mapM g)
  | [], _ => by simp
  | c :: l, each => by
      rw [List.mapM_cons]
      refine bind (each c List.mem_cons_self) fun b first => ?_
      refine bind (mapM fun c' member => each c' (List.mem_cons_of_mem c member)) fun bs rest => ?_
      simp only [pure_iff, List.mem_cons, forall_eq_or_imp]
      exact ⟨first, rest⟩

end Yields

/-! ### Numbers -/

theorem Number.normalize_normal {n m : Number} (normalized : n.normalize = some m) : m.Normal := by
  cases n with
  | int k =>
      cases normalized
      trivial
  | float x =>
      dsimp only [Number.normalize] at normalized
      split at normalized
      · cases normalized
      next finite =>
        split at normalized
        · cases normalized
          trivial
        next notWhole =>
          cases normalized
          exact ⟨by simpa using finite, notWhole⟩

@[simp]
theorem normalizeNumber_normal (n : Number) : Yields Number.Normal (normalizeNumber n) := by
  unfold normalizeNumber
  split
  next m normalized => simpa using Number.normalize_normal normalized
  next => simp

/-- A decimal is stored as an integer or as a float that the integer test
turned down. -/
@[simp]
theorem normalizeDecimal_normal (d : DecimalValue) : Yields Number.Normal (normalizeDecimal d) := by
  unfold normalizeDecimal
  split
  next x =>
    split
    · simp
    next =>
      dsimp only
      split
      · simp
      next finite =>
        split
        · simp
        next notWhole => simpa using ⟨by simpa using finite, notWhole⟩
  next => simp

theorem Yields.number {x : Except Fault Number} (normal : Yields Number.Normal x) :
    Yields Value.Normal (do return Value.number (← x)) :=
  Yields.bind normal fun m normalM => by simpa using normalM

@[simp]
theorem ofNumber_normal (n : Number) : Yields Value.Normal (Value.ofNumber n) :=
  Yields.number (normalizeNumber_normal n)

/-! ### Data -/

theorem Datum.toValue_normal {d : Datum} (normal : d.Normal) : Yields Value.Normal d.toValue := by
  cases d with
  | decimal d => exact Yields.number (normalizeDecimal_normal d)
  | value v => simpa [Datum.toValue] using normal
  | _ => simp [Datum.toValue]

theorem Datum.ofTagged_normal {tag : String} {j : Json} {r : Except Fault Datum}
    (tagged : Datum.ofTagged tag j = some r) : Yields Datum.Normal r := by
  unfold Datum.ofTagged at tagged
  split at tagged
  all_goals cases tagged
  · unfold Datum.ofTimestampJson
    split
    all_goals try split
    all_goals simp
  all_goals split <;> simp

theorem Datum.ofJson_normal (j : Json) : Yields Datum.Normal (Datum.ofJson j) := by
  unfold Datum.ofJson
  split
  · simp
  · simp
  · simp
  · simp
  · simp
  · simp
  · split
    next r tagged => exact Datum.ofTagged_normal tagged
    next => simp
  · simp

namespace Formula

/-! ### Operators -/

section Operators

@[simp]
theorem guarded_yields {α : Type} {P : α → Prop} {x : Except Fault α} :
    Yields P (guarded x) ↔ Yields P x := by
  cases x <;> simp [guarded]

@[simp]
theorem shiftDays_normal (ms : Int) (days : Number) : Yields Value.Normal (shiftDays ms days) := by
  unfold shiftDays
  split <;> simp

@[simp]
theorem add_normal (l r : Value) : Yields Value.Normal (add l r) := by
  unfold add
  split <;> simp

@[simp]
theorem subtract_normal (l r : Value) : Yields Value.Normal (subtract l r) := by
  unfold subtract
  split <;> simp

@[simp]
theorem multiply_normal (l r : Value) : Yields Value.Normal (multiply l r) := by
  simp [multiply]

@[simp]
theorem divide_normal (l r : Value) : Yields Value.Normal (divide l r) := by
  simp [divide]

@[simp]
theorem remainder_normal (l r : Value) : Yields Value.Normal (remainder l r) := by
  simp [remainder]

@[simp]
theorem power_normal (l r : Value) : Yields Value.Normal (power l r) := by
  simp [power]

@[simp]
theorem negate_normal (v : Value) : Yields Value.Normal (negate v) := by
  simp [negate]

@[simp]
theorem concat_normal (l r : Value) : Yields Value.Normal (concat l r) := by
  simp [concat]

end Operators

/-! ### Function bodies -/

section Functions

@[simp]
theorem decimalValue_normal (d : Decimal) : Yields Value.Normal (decimalValue d) :=
  Yields.bind (normalizeDecimal_normal _) fun m normal => by simpa using normal

@[simp]
theorem datePart_normal (v : Value) (name : String) (part : Calendar.Moment → Nat) :
    Yields Value.Normal (datePart v name part) := by
  unfold datePart
  simp only [Yields.bind_iff]
  intro r _
  split
  · simp
  · split <;> simp

@[simp]
theorem roundNumber_normal (n : Number) (places : Int) : Yields Value.Normal (roundNumber n places) := by
  unfold roundNumber
  simp only [Yields.bind_iff]
  intro d _
  split
  · simp only [Yields.bind_iff]
    intro _ _
    split <;> simp
  · simp

@[simp]
theorem repeatText_normal (s : String) (count : Int) : Yields Value.Normal (repeatText s count) := by
  unfold repeatText
  dsimp only
  split
  · simp
  · split <;> simp

/-- Every function body yields a normal value, whatever its arguments: each
number it makes is normalized or an integer, and `MOD` passes on the normal
remainder or normalizes its correction. -/
theorem applyEager_normal (ctx : Context) (f : Builtin) (args : List Value) :
    Yields Value.Normal (applyEager ctx f args) := by
  unfold applyEager
  split <;> simp
  -- what is left branches after its first steps: on an optional last argument
  -- (`LEFT`, `RIGHT`, `SUBSTITUTE`, `SEARCH`, `ROUND`), on the extreme found
  -- (`MIN`, `MAX`), on a reading (`NUMBER`) or on the dates read
  all_goals (intros; split <;> try simp)
  all_goals (intros; split <;> try simp)
  exact remainder_normal _ _ _ ‹_›


end Functions

/-! ### Functions that evaluate their arguments as needed -/

section Lazy

variable {thunks : List Thunk}

theorem pairs_normal (each : ∀ t ∈ thunks, Yields Value.Normal (t ())) :
    Yields Value.Normal (applyLazy.pairs thunks) := by
  fun_induction applyLazy.pairs thunks with
  | case1 cond value rest later =>
      simp only [Yields.bind_iff]
      intro _ _
      split
      · exact each value (by simp)
      · exact later fun t member => each t (by simp [member])
  | case2 => simp

theorem firstCase_normal (subject : Value) (each : ∀ t ∈ thunks, Yields Value.Normal (t ())) :
    Yields Value.Normal (applyLazy.firstCase subject thunks) := by
  fun_induction applyLazy.firstCase subject thunks with
  | case1 c value rest later =>
      simp only [Yields.bind_iff]
      intro _ _
      split
      · exact each value (by simp)
      · exact later fun t member => each t (by simp [member])
  | case2 default => exact each default (by simp)
  | case3 => simp

/-- A function that evaluates its arguments as it needs them yields one of
its arguments, a truth value or null. -/
theorem applyLazy_normal (f : Builtin) (each : ∀ t ∈ thunks, Yields Value.Normal (t ())) :
    Yields Value.Normal (applyLazy f thunks) := by
  unfold applyLazy
  split
  next cond ifTrue rest =>
    simp only [Yields.bind_iff]
    intro _ _
    split
    · exact each ifTrue (by simp)
    · split
      · exact each _ (by simp)
      · simp
  next =>
    dsimp only
    split
    · simp
    · exact pairs_normal each
  next subject cases =>
    simp only [Yields.bind_iff]
    exact fun s _ => firstCase_normal s fun t member => each t (by simp [member])
  next => simp
  next => simp
  next value fallback =>
    simp only [Yields.bind_iff]
    intro r produced
    split
    · exact each fallback (by simp)
    · simpa using each value (by simp) r produced
  next e => split <;> simp
  next value fallback =>
    split
    next v produced => simpa using each value (by simp) v produced
    · exact each fallback (by simp)
    · simp
  next => simp

end Lazy

/-! ### Contexts -/

/-- A context whose data and custom fields are normal. The deadline needs no
condition: it is read as a moment whatever it holds. -/
structure Context.Normal (ctx : Context) : Prop where
  status : ctx.status.Normal
  priority : ctx.priority.Normal
  progress : ctx.progress.Normal
  title : ctx.title.Normal
  description : ctx.description.Normal
  fields : ∀ p ∈ ctx.fields, p.2.Normal

namespace Context

variable {ctx : Context}

theorem builtin_normal (normal : ctx.Normal) {name : String} {r : Except Fault Value}
    (found : ctx.builtin name = some r) : Yields Value.Normal r := by
  unfold builtin at found
  split at found
  · cases found
    split <;> simp
  · obtain ⟨raw, named, rfl⟩ := Option.map_eq_some_iff.mp found
    apply Datum.toValue_normal
    split at named
    · cases named
      exact normal.status
    · cases named
      exact normal.priority
    · cases named
      exact normal.progress
    · cases named
      exact normal.title
    · cases named
      exact normal.description
    · cases named

theorem resolve_normal (normal : ctx.Normal) (name : String) :
    Yields Value.Normal (ctx.resolve name) := by
  unfold resolve
  split
  next r found => exact builtin_normal normal found
  next =>
    split
    next v found =>
      have member := List.mem_reverse.mp (List.mem_of_find?_eq_some found)
      simpa using normal.fields _ member
    next => simp

theorem ofData_normal {fields : List (String × Datum)} (normal : ∀ p ∈ fields, p.2.Normal)
    (now : Int) : Yields Context.Normal (ofData fields now) := by
  unfold ofData
  refine Yields.bind (Yields.mapM (P := fun p : String × Value => p.2.Normal) fun p member => ?_)
    fun typed each => ?_
  · exact Yields.bind (Datum.toValue_normal (normal p member)) fun v typedNormal => by
      simpa using typedNormal
  · simpa using ⟨trivial, trivial, trivial, trivial, trivial, each⟩

end Context

/-! ### Evaluation -/

section Evaluation

variable {ctx : Context}

theorem evalBinary_normal (b : Nat) (op : BinOp) (l r : Expr) :
    Yields Value.Normal (evalBinary ctx (b + 1) op l r) := by
  unfold evalBinary
  split
  · simp
  · simp
  · simp only [Yields.bind_iff]
    intro _ _ _ _
    split <;> simp

theorem evalCall_normal {b : Nat} {name : String} {args : List Expr}
    (argument : ∀ k ≤ b, ∀ a ∈ args, Yields Value.Normal (eval ctx k a)) :
    Yields Value.Normal (evalCall ctx (b + 1) name args) := by
  rw [evalCall]
  split
  · simp
  · split
    · simp
    · split
      · -- a lazy function evaluates its arguments under what is left of the budget
        split
        · rw [guarded_yields]
          refine applyLazy_normal _ ?_
          simp only [List.mem_map]
          rintro _ ⟨a, member, rfl⟩
          exact argument _ (by omega) a member
        · simp
      · simp only [Yields.bind_iff, guarded_yields]
        exact fun vals _ => applyEager_normal ctx _ vals

/-- Under a normal context every value an evaluation yields is normal, for
every budget and formula, so every intermediate value is too. Operators and
function bodies need nothing of their operands; the induction on the budget
is for the functions that pass on one of their arguments. -/
theorem eval_normal (normal : ctx.Normal) (budget : Nat) :
    ∀ e : Expr, Yields Value.Normal (eval ctx budget e) := by
  induction budget using Nat.strongRecOn with
  | _ budget inductionHypothesis =>
  intro e
  match budget, e with
  | 0, _ => simp [eval]
  | _ + 1, .number n => simp [eval]
  | _ + 1, .string _ => simp [eval]
  | _ + 1, .boolean _ => simp [eval]
  | _ + 1, .null => simp [eval]
  | _ + 1, .field name => simpa [eval] using Context.resolve_normal normal name
  | b + 1, .binary op l r =>
      simp only [eval]
      cases b with
      | zero => simp [evalBinary]
      | succ b => exact evalBinary_normal b op l r
  | b + 1, .unary op x =>
      simp only [eval]
      cases b with
      | zero => simp [evalUnary]
      | succ b =>
          rw [evalUnary]
          simp only [Yields.bind_iff]
          intro _ _
          cases op <;> simp
  | b + 1, .call name args =>
      simp only [eval]
      cases b with
      | zero => simp [evalCall]
      | succ b =>
          exact evalCall_normal fun k smaller a _ => inductionHypothesis k (by omega) a

theorem evaluate_normal (normal : ctx.Normal) (e : Expr) : Yields Value.Normal (evaluate ctx e) := by
  unfold evaluate
  simp only [Yields.bind_iff]
  exact fun _ _ => eval_normal normal nestingBudget e

theorem run_normal (normal : ctx.Normal) (src : String) : Yields Value.Normal (run ctx src) := by
  unfold run
  split
  · simp
  · simp only [Yields.bind_iff]
    exact fun e _ => evaluate_normal normal e

/-- An outcome whose value, when it has one, is normal. -/
@[simp]
def Outcome.Normal : Outcome → Prop
  | .success v => v.Normal
  | .failure _ _ => True

@[simp]
theorem Outcome.ofError_normal (e : FormulaError) : (Outcome.ofError e).Normal := trivial

/-- Evaluating a formula under a normal context succeeds, when it does, with
a normal value. -/
theorem evaluateFormula_normal (normal : ctx.Normal) (source : Option String) :
    Yields Outcome.Normal (evaluateFormula source ctx).value := by
  intro outcome produced
  unfold evaluateFormula at produced
  split at produced
  · cases produced
    trivial
  next src =>
    split at produced
    · cases produced
      trivial
    · split at produced
      next v ran =>
        cases produced
        exact run_normal normal src v ran
      next e _ =>
        cases produced
        exact Outcome.ofError_normal e
      next =>
        cases produced
        trivial
      next => cases produced

end Evaluation

/-! ### Rollups -/

theorem aggregate_normal (kind : Aggregation) (typed : List Value) (delimiter : Option String) :
    Yields Value.Normal (aggregate kind typed delimiter) := by
  unfold aggregate
  split
  · simp
  · simp
  · simp only [Yields.bind_iff]
    intro numbers _
    split
    · exact Yields.number (normalizeDecimal_normal _)
    · split
      · exact Yields.number (normalizeDecimal_normal _)
      · simp

theorem rollupOutcome_normal (label : String) {r : Except Fault Value} (normal : Yields Value.Normal r) :
    Yields Outcome.Normal (rollupOutcome label r).value := by
  intro outcome produced
  unfold rollupOutcome at produced
  split at produced
  next v =>
    cases produced
    exact normal v rfl
  next e =>
    cases produced
    exact Outcome.ofError_normal e
  next => cases produced

theorem evaluateRollup_normal (aggregation : String) (values : List Datum) (delimiter : Option String) :
    Yields Outcome.Normal (evaluateRollup aggregation values delimiter).value := by
  refine rollupOutcome_normal aggregation ?_
  unfold computeRollup
  simp only [Yields.bind_iff]
  exact fun kind _ typed _ => aggregate_normal kind typed delimiter

end Formula

/-! ### Stored values -/

namespace FieldType

theorem readComputed_normal (fv : FieldValue) : Yields Value.Normal (readComputed fv) := by
  unfold readComputed
  split
  · exact Yields.number (normalizeDecimal_normal _)
  all_goals simp

/-- Every field type reads a stored value as a normal value: a stored decimal
is normalized. -/
theorem read_normal (t : FieldType) (fv : Option FieldValue) : Yields Value.Normal (t.read fv) := by
  cases fv with
  | none => simp [read]
  | some fv =>
      cases t
      case text | url | email | select =>
        simp only [read]
        cases fv.value <;> simp
      case number | currency | percent | rating =>
        simp only [read]
        cases fv.numericValue with
        | some d => exact Yields.number (normalizeDecimal_normal _)
        | none => simp
      case date =>
        simp only [read]
        cases fv.dateValue <;> simp
      case checkbox =>
        simp only [read]
        cases fv.booleanValue <;> simp
      case multiselect =>
        simp only [read]
        cases fv.listValue <;> simp
      case formula | rollup => exact readComputed_normal fv

end FieldType

namespace Service

theorem context_normal (s : Service) (task : TaskSnapshot) (values : TaskValues) (now : Int) :
    Yields Formula.Context.Normal (s.context task values now) := by
  unfold context
  refine Yields.bind (Yields.mapM (P := fun p : String × Value => p.2.Normal) fun f _ => ?_)
    fun fields each => ?_
  · exact Yields.bind (FieldType.read_normal _ _) fun v readNormal => by simpa using readNormal
  · simp only [Yields.pure_iff]
    refine ⟨?_, ?_, ?_, trivial, ?_, each⟩
    · cases task.status <;> trivial
    · cases task.priority <;> trivial
    · cases task.progress <;> trivial
    · cases task.description <;> trivial

theorem evaluateFormulaField_normal (s : Service) (field : FieldDefinition) (task : TaskSnapshot)
    (values : TaskValues) (now : Int) :
    Yields Formula.Outcome.Normal (s.evaluateFormulaField field task values now).value := by
  unfold evaluateFormulaField
  split
  · exact (Yields.ok_iff _).mpr trivial
  · split
    next ctx built => exact Formula.evaluateFormula_normal (context_normal s task values now ctx built) _
    next f _ => exact Yields.of_error f

theorem evaluateRollupField_normal (s : Service) (field : FieldDefinition) (index : ValuesIndex)
    (tasks : Option (List Ident)) :
    Yields Formula.Outcome.Normal (s.evaluateRollupField field index tasks).value := by
  unfold evaluateRollupField
  split
  · split
    next values _ => exact Formula.rollupOutcome_normal _ (Formula.aggregate_normal _ values none)
    next => exact (Yields.ok_iff _).mpr (Formula.Outcome.ofError_normal _)
    next f _ _ => exact Yields.of_error f
  · exact (Yields.ok_iff _).mpr trivial

end Service

/-- Every value the library makes is normal: data typed, data read from JSON,
a context built from data, every step of an evaluation under a normal context
and the outcome of a formula, every rollup, every field type's reading of a
stored value, and the formula and rollup fields evaluated for tasks, whose
contexts are read from stored values. -/
theorem produced_values_normal :
    (∀ d : Datum, d.Normal → Yields Value.Normal d.toValue) ∧
    (∀ j : Json, Yields Datum.Normal (Datum.ofJson j)) ∧
    (∀ (fields : List (String × Datum)) (now : Int), (∀ p ∈ fields, p.2.Normal) →
      Yields Formula.Context.Normal (Formula.Context.ofData fields now)) ∧
    (∀ ctx : Formula.Context, ctx.Normal →
      ∀ budget e, Yields Value.Normal (Formula.eval ctx budget e)) ∧
    (∀ ctx : Formula.Context, ctx.Normal →
      ∀ source, Yields Formula.Outcome.Normal (Formula.evaluateFormula source ctx).value) ∧
    (∀ aggregation values delimiter,
      Yields Formula.Outcome.Normal (Formula.evaluateRollup aggregation values delimiter).value) ∧
    (∀ (t : FieldType) fv, Yields Value.Normal (t.read fv)) ∧
    (∀ (s : Service) field task values now,
      Yields Formula.Outcome.Normal (s.evaluateFormulaField field task values now).value) ∧
    (∀ (s : Service) field index tasks,
      Yields Formula.Outcome.Normal (s.evaluateRollupField field index tasks).value) :=
  ⟨fun _ normal => Datum.toValue_normal normal, Datum.ofJson_normal,
    fun _ now normal => Formula.Context.ofData_normal normal now,
    fun _ normal => Formula.eval_normal normal, fun _ normal => Formula.evaluateFormula_normal normal,
    Formula.evaluateRollup_normal, FieldType.read_normal, Service.evaluateFormulaField_normal,
    Service.evaluateRollupField_normal⟩

/-- The context with no data is normal, and so is every value `2.5 * 2`
yields under it. -/
theorem produced_values_normal_product :
    ({ now := 0 } : Formula.Context).Normal ∧
      Yields Value.Normal
        (Formula.eval { now := 0 } 3 (.binary .mul (.number (.float 2.5)) (.number (.int 2)))) :=
  have normal : ({ now := 0 } : Formula.Context).Normal :=
    ⟨trivial, trivial, trivial, trivial, trivial, by simp⟩
  ⟨normal, produced_values_normal.2.2.2.1 _ normal 3 _⟩

end FieldCalc
