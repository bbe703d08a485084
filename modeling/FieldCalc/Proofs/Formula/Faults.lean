import FieldCalc.Formula.Eval

/-!
# The faults of working with values

`FailsWithin P x` says that every fault the computation `x` can end in
satisfies `P`. It passes through `bind`, `map`, `if` and `mapM`, so a lemma
about a function follows from the lemmas about the steps it takes, one per
helper.

Two classes of faults matter for formulas. `Fault.Reported` holds the faults
that an operator or function call reports: a type error or a division by zero
of the formula, a moment that cannot be placed on the calendar, and digits
that are no whole number. `Fault.OfValues` adds the arithmetic and decimal
faults that operators and calls turn into type errors (`guarded`), which is
what `Fault.asFormula` does to them (`Fault.OfValues.asFormula`).

Every function body fails within `OfValues` (`applyEager_ofValues`), and a
function that evaluates its arguments as it needs them fails as one of its
arguments does, or refuses an `IFS` call with an unpaired condition
(`applyLazy_failsWithin`).

Plain data handed to the library is typed within `Fault.OfData`, which adds
text that reads as no float, data with no float reading and signaling NaNs;
so do the built-in attributes of a formula context (`builtin_ofData`).
-/

namespace FieldCalc

def FailsWithin {α : Type} (P : Fault → Prop) (x : Except Fault α) : Prop :=
  ∀ f, x = .error f → P f

namespace FailsWithin

variable {α β γ : Type} {P Q : Fault → Prop}

@[simp]
theorem of_ok (a : α) : FailsWithin P (.ok a : Except Fault α) := by
  intro f failed
  cases failed

@[simp]
theorem of_pure (a : α) : FailsWithin P (pure a : Except Fault α) := of_ok a

@[simp]
theorem error_iff (f : Fault) : FailsWithin P (.error f : Except Fault α) ↔ P f :=
  ⟨fun h => h f rfl, fun h _ failed => by cases failed; exact h⟩

@[simp]
theorem bind_iff {x : Except Fault α} {g : α → Except Fault β} :
    FailsWithin P (x >>= g) ↔ FailsWithin P x ∧ ∀ a, x = .ok a → FailsWithin P (g a) := by
  cases x <;> simp [bind, Except.bind]

@[simp]
theorem map_iff {x : Except Fault α} {g : α → β} : FailsWithin P (g <$> x) ↔ FailsWithin P x := by
  cases x <;> simp [Functor.map, Except.map]

@[simp]
theorem ite_iff {c : Prop} [Decidable c] {x y : Except Fault α} :
    FailsWithin P (if c then x else y) ↔ (c → FailsWithin P x) ∧ (¬c → FailsWithin P y) := by
  by_cases holds : c <;> simp [holds]

theorem mono (weaker : ∀ f, P f → Q f) {x : Except Fault α} (h : FailsWithin P x) :
    FailsWithin Q x :=
  fun f failed => weaker f (h f failed)

theorem mapM {g : γ → Except Fault α} :
    ∀ {l : List γ}, (∀ a ∈ l, FailsWithin P (g a)) → FailsWithin P (l.mapM g)
  | [], _ => by simp
  | a :: l, each => by
      rw [List.mapM_cons]
      simp only [bind_iff, of_pure, implies_true, and_true]
      exact ⟨each a List.mem_cons_self,
        fun _ _ => mapM fun b member => each b (List.mem_cons_of_mem a member)⟩

@[simp]
theorem mapM_of_forall {g : γ → Except Fault α} {l : List γ} (each : ∀ a, FailsWithin P (g a)) :
    FailsWithin P (l.mapM g) :=
  mapM fun a _ => each a

theorem foldlM {step : β → γ → Except Fault β} :
    ∀ {l : List γ} (init : β), (∀ b, ∀ a ∈ l, FailsWithin P (step b a)) →
      FailsWithin P (l.foldlM step init)
  | [], _, _ => by simp [pure, Except.pure]
  | a :: l, init, each => by
      rw [List.foldlM_cons]
      simp only [bind_iff]
      exact ⟨each init a List.mem_cons_self,
        fun b _ => foldlM b fun b' a' member => each b' a' (List.mem_cons_of_mem a member)⟩

end FailsWithin

/-- The faults an operator or a function call reports: a type error or a
division by zero of the formula, a moment off the calendar, digits that are
no whole number or too many to read, and an integer too long to write. -/
inductive Fault.Reported : Fault → Prop
  | type (message : String) : Fault.Reported (.formula (.type message))
  | divisionByZero : Fault.Reported (.formula .divisionByZero)
  | moment (e : Calendar.MomentFault) : Fault.Reported (.moment e)
  | badInteger (text : String) : Fault.Reported (.badInteger text)
  | tooManyDigits (count : Nat) : Fault.Reported (.tooManyDigits count)
  | digitLimit : Fault.Reported .digitLimit

/-- The faults that working with values ends in: those reported, and the
arithmetic and decimal faults that operators and calls report as type
errors. -/
inductive Fault.OfValues : Fault → Prop
  | reported {f : Fault} : f.Reported → Fault.OfValues f
  | arithmetic (e : ArithFault) : Fault.OfValues (.arithmetic e)
  | decimal (s : DecimalSignal) : Fault.OfValues (.decimal s)

namespace Fault

attribute [simp] Reported.type Reported.divisionByZero Reported.moment Reported.badInteger
  Reported.tooManyDigits Reported.digitLimit OfValues.reported OfValues.arithmetic OfValues.decimal

@[simp]
theorem reported_type (message : String) : (Fault.type message).Reported := .type message

theorem OfValues.asFormula {f : Fault} (h : f.OfValues) : f.asFormula.Reported := by
  cases h with
  | arithmetic e => cases e <;> simp [Fault.asFormula, isArithmetic]
  | decimal s => simp [Fault.asFormula, isArithmetic]
  | reported h =>
      cases h with
      | type m => simp [Fault.asFormula, isArithmetic]
      | divisionByZero => simp [Fault.asFormula, isArithmetic]
      | moment e => cases e <;> simp [Fault.asFormula, isArithmetic]
      | badInteger t => simp [Fault.asFormula, isArithmetic]
      | tooManyDigits n => simp [Fault.asFormula, isArithmetic]
      | digitLimit => simp [Fault.asFormula, isArithmetic]

end Fault

@[simp]
theorem FailsWithin.reported_ofValues {α : Type} {x : Except Fault α}
    (h : FailsWithin Fault.Reported x) : FailsWithin Fault.OfValues x :=
  h.mono fun _ => .reported

/-! ### Values, numbers and moments -/

section Values

@[simp]
theorem normalizeNumber_reported (n : Number) : FailsWithin Fault.Reported (normalizeNumber n) := by
  unfold normalizeNumber
  split <;> simp

@[simp]
theorem ofNumber_reported (n : Number) : FailsWithin Fault.Reported (Value.ofNumber n) := by
  simp [Value.ofNumber]

@[simp]
theorem normalizeDecimal_reported (d : DecimalValue) :
    FailsWithin Fault.Reported (normalizeDecimal d) := by
  unfold normalizeDecimal
  split
  · dsimp only
    split
    · simp
    · split
      · simp
      · split <;> simp
  · simp

@[simp]
theorem formatTimestamp_reported (ms : Int) : FailsWithin Fault.Reported (formatTimestamp ms) := by
  unfold formatTimestamp
  split
  · simp
  · split <;> simp

@[simp]
theorem display_reported (v : Value) : FailsWithin Fault.Reported v.display := by
  cases v <;> simp [Value.display]

@[simp]
theorem decimalOfText_reported (n : Number) : FailsWithin Fault.Reported n.decimalOfText := by
  unfold Number.decimalOfText
  split <;> simp

@[simp]
theorem readInt_reported (s : String) : FailsWithin Fault.Reported (readInt s) := by
  unfold readInt
  dsimp only
  split
  · simp
  · split
    · simp
    · split <;> simp

@[simp]
theorem parseTimestamp?_reported (s : String) : FailsWithin Fault.Reported (parseTimestamp? s) := by
  unfold parseTimestamp?
  dsimp only
  split
  · simp
  · split
    · simp
    · split
      · simp
      · split <;> simp

end Values

/-! ### Plain data -/

/-- The faults that typing plain data ends in: those of working with values,
text that reads as no float, data of a kind with no float reading, and a
signaling decimal NaN. -/
inductive Fault.OfData : Fault → Prop
  | ofValues {f : Fault} : f.OfValues → Fault.OfData f
  | badFloat (text : String) : Fault.OfData (.badFloat text)
  | notReal (kind : String) : Fault.OfData (.notReal kind)
  | signalingNaN : Fault.OfData .signalingNaN

attribute [simp] Fault.OfData.ofValues Fault.OfData.badFloat Fault.OfData.notReal Fault.OfData.signalingNaN

@[simp]
theorem FailsWithin.ofValues_ofData {α : Type} {x : Except Fault α}
    (h : FailsWithin Fault.OfValues x) : FailsWithin Fault.OfData x :=
  h.mono fun _ => .ofValues

namespace Datum

theorem quotedItems_failsWithin {ds : List Datum} (each : ∀ d ∈ ds, FailsWithin Fault.OfData d.itemText) :
    FailsWithin Fault.OfData (quotedItems ds) := by
  induction ds with
  | nil => simp [quotedItems]
  | cons d ds inductionHypothesis =>
      have rest := inductionHypothesis fun d' mem => each d' (List.mem_cons_of_mem d mem)
      unfold quotedItems
      split
      all_goals simp only [FailsWithin.bind_iff, FailsWithin.of_pure, implies_true, and_true, rest]
      · split <;> simp [rest]
      · exact each d List.mem_cons_self

theorem itemText_ofData (d : Datum) : FailsWithin Fault.OfData d.itemText := by
  match d with
  | .list xs =>
      simp only [itemText, FailsWithin.bind_iff, FailsWithin.of_pure, implies_true, and_true]
      exact quotedItems_failsWithin fun d _ => itemText_ofData d
  | .int n => simp only [itemText]; split <;> simp
  | .none | .bool _ | .float _ | .decimal _ | .text _ | .day _ | .moment _ | .value _ => simp [itemText]

@[simp]
theorem toValue_ofData (d : Datum) : FailsWithin Fault.OfData d.toValue := by
  cases d with
  | list xs =>
      simp only [toValue, FailsWithin.bind_iff, FailsWithin.of_pure, implies_true, and_true]
      exact FailsWithin.mapM fun x _ => itemText_ofData x
  | _ => simp [toValue]

@[simp]
theorem toTimestamp_ofData (d : Datum) : FailsWithin Fault.OfData d.toTimestamp := by
  unfold toTimestamp
  dsimp only
  split
  all_goals try simp
  all_goals split <;> simp

end Datum

theorem Formula.builtin_ofData {ctx : Formula.Context} {n : String} {r : Except Fault Value}
    (found : ctx.builtin n = some r) : FailsWithin Fault.OfData r := by
  unfold Formula.Context.builtin at found
  split at found
  · cases found
    split <;> simp
  · obtain ⟨raw, _, rfl⟩ := Option.map_eq_some_iff.mp found
    exact raw.toValue_ofData

namespace Formula

/-! ### Operators -/

section Operators

@[simp]
theorem arith_ofValues {α : Type} (x : Except ArithFault α) : FailsWithin Fault.OfValues (arith x) := by
  unfold arith
  split <;> simp

@[simp]
theorem toNumber_reported (v : Value) (operation : String) :
    FailsWithin Fault.Reported (toNumber v operation) := by
  unfold toNumber
  split
  all_goals try simp
  split <;> simp

@[simp]
theorem toInteger_ofValues (v : Value) (operation : String) :
    FailsWithin Fault.OfValues (toInteger v operation) := by
  unfold toInteger
  simp only [FailsWithin.bind_iff, (toNumber_reported v operation).reported_ofValues, true_and]
  intro n _
  split <;> simp

@[simp]
theorem shiftDays_ofValues (ms : Int) (days : Number) : FailsWithin Fault.OfValues (shiftDays ms days) := by
  unfold shiftDays
  split <;> simp

@[simp]
theorem add_ofValues (l r : Value) : FailsWithin Fault.OfValues (add l r) := by
  unfold add
  split <;> simp

@[simp]
theorem subtract_ofValues (l r : Value) : FailsWithin Fault.OfValues (subtract l r) := by
  unfold subtract
  split <;> simp

@[simp]
theorem multiply_ofValues (l r : Value) : FailsWithin Fault.OfValues (multiply l r) := by
  simp [multiply]

@[simp]
theorem divide_ofValues (l r : Value) : FailsWithin Fault.OfValues (divide l r) := by
  simp only [divide, FailsWithin.bind_iff, FailsWithin.reported_ofValues, toNumber_reported, true_and]
  intro a _ b _
  split <;> simp

@[simp]
theorem remainder_ofValues (l r : Value) : FailsWithin Fault.OfValues (remainder l r) := by
  simp only [remainder, FailsWithin.bind_iff, FailsWithin.reported_ofValues, toNumber_reported, true_and]
  intro a _ b _
  split <;> simp

@[simp]
theorem power_ofValues (l r : Value) : FailsWithin Fault.OfValues (power l r) := by
  simp only [power, FailsWithin.bind_iff, FailsWithin.reported_ofValues, toNumber_reported, true_and]
  intro a _ b _
  split
  · simp
  · simp only [FailsWithin.bind_iff, arith_ofValues, true_and]
    intro x _ y _
    split
    · simp
    · split <;> simp

@[simp]
theorem negate_reported (v : Value) : FailsWithin Fault.Reported (negate v) := by
  simp [negate]

@[simp]
theorem concat_reported (l r : Value) : FailsWithin Fault.Reported (concat l r) := by
  simp [concat]

@[simp]
theorem orderingKey_reported (v : Value) (op : String) :
    FailsWithin Fault.Reported (orderingKey v op) := by
  unfold orderingKey
  dsimp only
  split <;> simp

@[simp]
theorem compareValues_reported (l r : Value) (c : Comparison) :
    FailsWithin Fault.Reported (compareValues l r c) := by
  unfold compareValues
  split
  · simp
  · split <;> simp

theorem guarded_failsWithin {α : Type} {P Q : Fault → Prop} {x : Except Fault α}
    (h : FailsWithin P x) (carry : ∀ f, P f → Q f.asFormula) : FailsWithin Q (guarded x) := by
  cases x with
  | ok a => simp [guarded]
  | error f => simpa [guarded] using carry f (h f rfl)

end Operators

/-! ### Function bodies -/

section Functions

@[simp]
theorem decimalValue_ofValues (d : Decimal) : FailsWithin Fault.OfValues (decimalValue d) := by
  simp [decimalValue]

@[simp]
theorem dateArg_ofValues (v : Value) (name : String) : FailsWithin Fault.OfValues (dateArg v name) := by
  unfold dateArg
  split
  · simp
  · simp
  · simp
  · simp only [FailsWithin.bind_iff, (parseTimestamp?_reported _).reported_ofValues, true_and]
    intro r _
    split <;> simp
  · simp

@[simp]
theorem datePart_ofValues (v : Value) (name : String) (part : Calendar.Moment → Nat) :
    FailsWithin Fault.OfValues (datePart v name part) := by
  unfold datePart
  simp only [FailsWithin.bind_iff, dateArg_ofValues, true_and]
  intro r _
  split
  · simp
  · split <;> simp

@[simp]
theorem roundNumber_ofValues (n : Number) (places : Int) :
    FailsWithin Fault.OfValues (roundNumber n places) := by
  unfold roundNumber
  simp only [FailsWithin.bind_iff, (decimalOfText_reported n).reported_ofValues, true_and]
  intro d _
  split
  · simp only [FailsWithin.bind_iff, FailsWithin.of_pure, true_and]
    intro _ _
    split <;> simp
  · simp

@[simp]
theorem repeatText_ofValues (s : String) (count : Int) : FailsWithin Fault.OfValues (repeatText s count) := by
  unfold repeatText
  dsimp only
  split
  · simp
  · split <;> simp

theorem applyEager_ofValues (ctx : Context) (f : Builtin) (args : List Value) :
    FailsWithin Fault.OfValues (applyEager ctx f args) := by
  unfold applyEager
  split <;> simp
  -- what is left branches after its first steps: on an optional last argument
  -- (`LEFT`, `RIGHT`, `SUBSTITUTE`, `SEARCH`), on the remainder (`MOD`), on a
  -- reading (`NUMBER`) or on the dates read (`DAYS_BETWEEN`, `DATE_ADD`)
  all_goals (intros; split <;> try simp)
  all_goals (intros; split <;> simp)

abbrev unpairedConditions : Fault := .formula (.argument "IFS" "IFS expects condition/value pairs")

section Lazy

variable {P : Fault → Prop}

theorem pairs_failsWithin (thunks : List Thunk) (each : ∀ t ∈ thunks, FailsWithin P (t ())) :
    FailsWithin P (applyLazy.pairs thunks) := by
  fun_induction applyLazy.pairs thunks with
  | case1 cond value rest later =>
      simp only [FailsWithin.bind_iff]
      refine ⟨each cond (by simp), fun _ _ => ?_⟩
      split
      · exact each value (by simp)
      · exact later fun t member => each t (by simp [member])
  | case2 => simp

theorem firstCase_failsWithin (subject : Value) (thunks : List Thunk)
    (each : ∀ t ∈ thunks, FailsWithin P (t ())) :
    FailsWithin P (applyLazy.firstCase subject thunks) := by
  fun_induction applyLazy.firstCase subject thunks with
  | case1 c value rest later =>
      simp only [FailsWithin.bind_iff]
      refine ⟨each c (by simp), fun _ _ => ?_⟩
      split
      · exact each value (by simp)
      · exact later fun t member => each t (by simp [member])
  | case2 default => exact each default (by simp)
  | case3 => simp

theorem allTrue_failsWithin (thunks : List Thunk) (each : ∀ t ∈ thunks, FailsWithin P (t ())) :
    FailsWithin P (applyLazy.allTrue thunks) := by
  fun_induction applyLazy.allTrue thunks with
  | case1 => simp
  | case2 a rest later =>
      simp only [FailsWithin.bind_iff]
      refine ⟨each a (by simp), fun _ _ => ?_⟩
      split
      · exact later fun t member => each t (by simp [member])
      · simp

theorem anyTrue_failsWithin (thunks : List Thunk) (each : ∀ t ∈ thunks, FailsWithin P (t ())) :
    FailsWithin P (applyLazy.anyTrue thunks) := by
  fun_induction applyLazy.anyTrue thunks with
  | case1 => simp
  | case2 a rest later =>
      simp only [FailsWithin.bind_iff]
      refine ⟨each a (by simp), fun _ _ => ?_⟩
      split
      · simp
      · exact later fun t member => each t (by simp [member])

/-- A function that evaluates its arguments as it needs them fails as an
argument does, or refuses an `IFS` call with an odd number of arguments.
`ISERROR` and `IFERROR` pass on the faults of their first argument that are no
formula errors. -/
theorem applyLazy_failsWithin (f : Builtin) (thunks : List Thunk)
    (each : ∀ t ∈ thunks, FailsWithin P (t ()))
    (unpaired : f = .ifs → thunks.length % 2 = 1 → P unpairedConditions) :
    FailsWithin P (applyLazy f thunks) := by
  unfold applyLazy
  split
  next cond ifTrue rest =>
    simp only [FailsWithin.bind_iff]
    refine ⟨each cond (by simp), fun _ _ => ?_⟩
    split
    · exact each ifTrue (by simp)
    · split
      · exact each _ (by simp)
      · simp
  next =>
    dsimp only
    split
    next odd => simpa using unpaired rfl (by simpa using odd)
    next => exact pairs_failsWithin thunks each
  next subject cases =>
    simp only [FailsWithin.bind_iff]
    exact ⟨each subject (by simp),
      fun s _ => firstCase_failsWithin s cases fun t member => each t (by simp [member])⟩
  next => simpa using allTrue_failsWithin thunks each
  next => simpa using anyTrue_failsWithin thunks each
  next value fallback =>
    simp only [FailsWithin.bind_iff]
    refine ⟨each value (by simp), fun _ _ => ?_⟩
    split
    · exact each fallback (by simp)
    · simp
  next e =>
    split
    · simp
    · simp
    next f _ failed => simpa using each e (by simp) f failed
  next value fallback =>
    split
    · simp
    · exact each fallback (by simp)
    next f _ failed => simpa using each value (by simp) f failed
  next => simp

end Lazy

end Functions

end Formula

end FieldCalc
