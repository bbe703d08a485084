import FieldCalc.Proofs.Field.Faults

/-!
# When a filter raises

A rule on a field whose type does not offer its operator passes every task,
with a warning. Any other rule tests the value the task stores, and that test
fails in three ways only (`FilterRule.Raises`):

* a date rule compares with an operand of digits that is no whole number,
  such as `--5`, or that has more digits than an integer is read with
  (`Number.maxStrDigits`, leading zeros counted);
* a rule on the emptiness of a computed field meets a stored decimal beyond
  the float range;
* a rule that compares a computed field with text meets such a decimal, or a
  stored moment beyond the calendar.

A rule raises exactly then (`passes_eq_error_iff`). Filtering a task by a list
of rules, or a list of tasks, raises only when one of the rules raises on one
of the tasks (`filter_raises_only_on_unreadable_values`).
-/

namespace FieldCalc

/-! ### Runs that log -/

namespace FailsWithin

variable {α β : Type} {P : Fault → Prop}

@[simp]
theorem run_pure (a : α) : FailsWithin P (pure a : ExceptT Fault Logged α).run.value := of_ok a

@[simp]
theorem run_bind_iff {x : ExceptT Fault Logged α} {g : α → ExceptT Fault Logged β} :
    FailsWithin P (x >>= g).run.value ↔
      FailsWithin P x.run.value ∧ ∀ a, x.run.value = .ok a → FailsWithin P (g a).run.value := by
  change FailsWithin P (ExceptT.bindCont g x.run.value).value ↔ _
  cases x.run.value <;> simp [ExceptT.bindCont, ExceptT.run, pure, Logged.pure]

theorem run_filterM {p : α → ExceptT Fault Logged Bool} :
    ∀ {l : List α}, (∀ a ∈ l, FailsWithin P (p a).run.value) →
      FailsWithin P (l.filterM p).run.value := by
  suffices kept : ∀ (l acc : List α), (∀ a ∈ l, FailsWithin P (p a).run.value) →
      FailsWithin P (List.filterAuxM p l acc).run.value by
    intro l each
    simp only [List.filterM, run_bind_iff, run_pure, implies_true, and_true]
    exact kept l [] each
  intro l
  induction l with
  | nil => exact fun acc _ => of_ok acc
  | cons a l inductionHypothesis =>
      intro acc each
      simp only [List.filterAuxM, run_bind_iff]
      exact ⟨each a List.mem_cons_self,
        fun _ _ => inductionHypothesis _ fun b member => each b (List.mem_cons_of_mem a member)⟩

end FailsWithin

/-! ### Tests of stored values -/

theorem FieldType.isEmpty_eq_error_iff {t : FieldType} {fv : Option FieldValue} {f : Fault} :
    t.isEmpty fv = .error f ↔
      t.isComputed = true ∧ ∃ stored, fv = some stored ∧ readComputed stored = .error f := by
  cases fv with
  | none => simp [isEmpty]
  | some stored =>
      cases t
      all_goals simp only [isEmpty, isComputed, reduceCtorEq, false_and, Bool.false_eq_true, true_and,
        Option.some.injEq, exists_eq_left']
      all_goals cases readComputed stored <;> simp [bind, Except.bind, pure, Except.pure]

/-- Comparing a stored value with an operand fails exactly on a stored date
compared with an operand that does not read as a moment, or on a computed
field compared with text whose stored value does not read or show. -/
theorem FieldType.matches_some_eq_error_iff {t : FieldType} {op : FilterOperator} {stored : FieldValue}
    {operand : String} {f : Fault} :
    t.matches op (some stored) operand = .error f ↔
      t = .date ∧ stored.dateValue.isSome ∧ parseTimestamp? operand = .error f ∨
        t.isComputed = true ∧ (op = .equals ∨ op = .contains) ∧
          (readComputed stored >>= Value.display) = .error f := by
  cases t with
  | text | url | email => simp [FieldType.matches, isComputed, bind, Except.bind, pure, Except.pure]
  | number | currency | percent | rating | checkbox | select | multiselect =>
      simp [FieldType.matches, isComputed, bind, Except.bind, pure, Except.pure]
      split <;> simp
  | date =>
      simp only [FieldType.matches, bind, Except.bind, pure, Except.pure, true_and, isComputed,
        Bool.false_eq_true, false_and, or_false]
      cases stored.dateValue with
      | none => simp
      | some actual =>
          simp only [Option.isSome_some, true_and]
          cases parseTimestamp? operand with
          | error e => simp
          | ok target? =>
              simp only [reduceCtorEq, iff_false]
              cases target? with
              | none => simp
              | some target => cases op <;> simp
  | formula | rollup =>
      simp only [FieldType.matches, read, isComputed, bind, Except.bind, pure, Except.pure, true_and,
        reduceCtorEq, false_and, false_or]
      by_cases compares : op = .equals ∨ op = .contains
      · cases readComputed stored with
        | error e => simp [compares]
        | ok v =>
            simp [compares]
            cases v.display <;> simp
      · simp [compares]

theorem FieldType.isComputed_iff {t : FieldType} : t.isComputed = true ↔ t = .formula ∨ t = .rollup := by
  cases t <;> simp [isComputed]

theorem FieldType.matches_truth_ne_error {t : FieldType} {op : FilterOperator} {fv : Option FieldValue}
    {operand : String} {f : Fault} (offered : t.offers op = true) (truth : op = .isTrue ∨ op = .isFalse) :
    t.matches op fv operand ≠ .error f := by
  have checkbox : t = .checkbox := by
    rcases truth with rfl | rfl <;> cases t <;> simp_all [offers, operators]
  subst checkbox
  rcases truth with rfl | rfl <;> simp [FieldType.matches, pure, Except.pure]

/-! ### Rules -/

namespace FilterRule

/-- What a rule computes, without its records: an operator the field does not
offer passes; emptiness is read off the stored value; a task without a stored
value fails every comparison. -/
theorem passes_run_value (rule : FilterRule) (fv : Option FieldValue) (field : FieldDefinition) :
    (rule.passes fv field).run.value =
      if field.type.offers rule.operator then
        match rule.operator, fv with
        | .isEmpty, _ => field.type.isEmpty fv
        | .isNotEmpty, _ => (!·) <$> field.type.isEmpty fv
        | .isTrue, _ | .isFalse, _ => field.type.matches rule.operator fv rule.value
        | _, none => .ok false
        | op, some _ => field.type.matches op fv rule.value
      else .ok true := by
  unfold passes
  by_cases offered : field.type.offers rule.operator = true
  · simp only [offered, Bool.not_true, Bool.false_eq_true, if_false, if_true]
    generalize rule.operator = op
    cases op <;> cases fv <;> try rfl
    all_goals cases field.type.isEmpty _ <;> rfl
  · simp only [offered, Bool.not_false, if_true, Bool.false_eq_true, if_false]
    rfl

/-- When a rule raises on the value a task stores (`none` when it stores
none). -/
inductive Raises (rule : FilterRule) (field : FieldDefinition) : Option FieldValue → Fault → Prop
  /-- A date rule compares a stored moment with an operand that does not read
  as one. -/
  | operand {stored : FieldValue} {f : Fault} (date : field.type = .date)
      (compares : rule.operator ∈ [.equals, .before, .after]) (dated : stored.dateValue.isSome)
      (unread : parseTimestamp? rule.value = .error f) : Raises rule field (some stored) f
  /-- A rule on emptiness meets a computed value that does not read. -/
  | unreadable {stored : FieldValue} {f : Fault} (computed : field.type.isComputed)
      (tests : rule.operator ∈ [.isEmpty, .isNotEmpty])
      (unread : FieldType.readComputed stored = .error f) :
      Raises rule field (some stored) f
  /-- A rule that compares a computed field with text meets a value that does
  not read or show. -/
  | unshowable {stored : FieldValue} {f : Fault} (computed : field.type.isComputed)
      (compares : rule.operator ∈ [.equals, .contains])
      (unshown : (FieldType.readComputed stored >>= Value.display) = .error f) :
      Raises rule field (some stored) f

theorem raises_of_matches {rule : FilterRule} {field : FieldDefinition} {stored : FieldValue} {f : Fault}
    (offered : field.type.offers rule.operator = true)
    (compared : rule.operator ≠ .isEmpty ∧ rule.operator ≠ .isNotEmpty)
    (failed : field.type.matches rule.operator (some stored) rule.value = .error f) :
    rule.Raises field (some stored) f := by
  rcases FieldType.matches_some_eq_error_iff.mp failed with
    ⟨date, dated, unread⟩ | ⟨computed, compares, unshown⟩
  · -- a date field offers no other comparison
    refine .operand date ?_ dated unread
    rw [date] at offered
    simp only [FieldType.offers, FieldType.operators, List.contains_iff_mem, List.mem_cons,
      List.not_mem_nil, or_false] at offered
    simp only [List.mem_cons, List.not_mem_nil, or_false]
    rcases offered with op | op | op | op | op <;> simp_all
  · exact .unshowable computed (by simpa using compares) unshown

theorem raises_of_passes {rule : FilterRule} {fv : Option FieldValue} {field : FieldDefinition} {f : Fault}
    (failed : (rule.passes fv field).run.value = .error f) : rule.Raises field fv f := by
  rw [passes_run_value] at failed
  -- an operator the field does not offer passes
  have offered : field.type.offers rule.operator = true := by
    cases offers : field.type.offers rule.operator
    · simp [offers] at failed
    · rfl
  rw [if_pos offered] at failed
  obtain ⟨fieldId, op, operand, id⟩ := rule
  dsimp only at offered failed
  cases fv with
  | none =>
      cases op <;> simp [FieldType.isEmpty, Functor.map, Except.map] at failed
      all_goals exact absurd failed (FieldType.matches_truth_ne_error offered (by simp))
  | some stored =>
      cases op
      case isEmpty =>
        obtain ⟨computed, _, held, unread⟩ := FieldType.isEmpty_eq_error_iff.mp failed
        cases held
        exact .unreadable computed (by simp) unread
      case isNotEmpty =>
        have unread : field.type.isEmpty (some stored) = .error f := by
          revert failed
          cases field.type.isEmpty (some stored) <;> simp [Functor.map, Except.map]
        obtain ⟨computed, _, held, unread⟩ := FieldType.isEmpty_eq_error_iff.mp unread
        cases held
        exact .unreadable computed (by simp) unread
      case isTrue | isFalse => exact absurd failed (FieldType.matches_truth_ne_error offered (by simp))
      all_goals exact raises_of_matches offered (by simp) failed

theorem Raises.passes {rule : FilterRule} {field : FieldDefinition} {fv : Option FieldValue} {f : Fault}
    (raises : rule.Raises field fv f) : (rule.passes fv field).run.value = .error f := by
  rw [passes_run_value]
  cases raises with
  | operand date compares dated unread =>
      have matched : field.type.matches rule.operator (some _) rule.value = .error f :=
        FieldType.matches_some_eq_error_iff.mpr (.inl ⟨date, dated, unread⟩)
      rw [date] at matched ⊢
      simp only [List.mem_cons, List.not_mem_nil, or_false] at compares
      rcases compares with op | op | op <;> simpa [op, FieldType.offers, FieldType.operators] using matched
  | unreadable computed tests unread =>
      have emptiness : field.type.isEmpty (some _) = .error f :=
        FieldType.isEmpty_eq_error_iff.mpr ⟨computed, _, rfl, unread⟩
      simp only [List.mem_cons, List.not_mem_nil, or_false] at tests
      rcases FieldType.isComputed_iff.mp computed with type | type <;> rw [type] at emptiness ⊢ <;>
        rcases tests with op | op <;>
        simp [op, FieldType.offers, FieldType.operators, emptiness, Functor.map, Except.map]
  | unshowable computed compares unshown =>
      have matched : field.type.matches rule.operator (some _) rule.value = .error f :=
        FieldType.matches_some_eq_error_iff.mpr (.inr ⟨computed, by simpa using compares, unshown⟩)
      simp only [List.mem_cons, List.not_mem_nil, or_false] at compares
      rcases FieldType.isComputed_iff.mp computed with type | type <;> rw [type] at matched ⊢ <;>
        rcases compares with op | op <;> simpa [op, FieldType.offers, FieldType.operators] using matched

theorem passes_eq_error_iff {rule : FilterRule} {fv : Option FieldValue} {field : FieldDefinition}
    {f : Fault} : (rule.passes fv field).run.value = .error f ↔ rule.Raises field fv f :=
  ⟨raises_of_passes, Raises.passes⟩

/-- What a rule raises is a fault an operator reports: digits that are no
whole number or too many to read, a decimal beyond the float range, a moment
off the calendar. -/
theorem Raises.reported {rule : FilterRule} {field : FieldDefinition} {fv : Option FieldValue} {f : Fault}
    (raises : rule.Raises field fv f) : f.Reported := by
  cases raises with
  | operand _ _ _ unread => exact parseTimestamp?_reported _ f unread
  | unreadable _ _ unread => exact FieldType.readComputed_reported _ f unread
  | @unshowable stored _ _ _ unshown =>
      have shown : FailsWithin Fault.Reported (FieldType.readComputed stored >>= Value.display) := by simp
      exact shown f unshown

end FilterRule

/-! ### Lists of rules and tasks -/

section Lists

variable (rules : List FilterRule) (values : ValuesIndex) (fields : List (Ident × FieldDefinition))

/-- One of the rules whose field is known raises on what the task stores. -/
def FilterRule.SomeRaises (task : Ident) (f : Fault) : Prop :=
  ∃ rule ∈ rules, ∃ field, fields.lookup rule.fieldId = some field ∧
    rule.Raises field (values.get? task rule.fieldId) f

theorem passesAll_failsWithin (task : Ident) :
    FailsWithin (FilterRule.SomeRaises rules values fields task)
      (passesAll rules task values fields).run.value := by
  induction rules with
  | nil => exact FailsWithin.of_ok true
  | cons rule rest inductionHypothesis =>
      have later : FailsWithin (FilterRule.SomeRaises (rule :: rest) values fields task)
          (passesAll rest task values fields).run.value :=
        inductionHypothesis.mono fun _ ⟨earlier, member, raised⟩ =>
          ⟨earlier, List.mem_cons_of_mem rule member, raised⟩
      unfold passesAll
      split
      · exact later
      next field known =>
        simp only [FailsWithin.run_bind_iff]
        refine ⟨fun f failed =>
          ⟨rule, List.mem_cons_self, field, known, FilterRule.raises_of_passes failed⟩, fun passed _ => ?_⟩
        cases passed
        · exact FailsWithin.of_ok false
        · exact later

theorem filterTasks_failsWithin (tasks : List Ident) :
    FailsWithin (fun f => ∃ t ∈ tasks, FilterRule.SomeRaises rules values fields t f)
      (filterTasks rules tasks values fields).run.value :=
  FailsWithin.run_filterM fun t member =>
    (passesAll_failsWithin rules values fields t).mono fun _ raised => ⟨t, member, raised⟩

end Lists

/-- A filter raises exactly where a date rule meets an operand that does not
read as a moment, or a rule on a computed field meets a stored value that
does not read or show (`FilterRule.Raises`); testing a task against rules, or
filtering tasks, raises only where one of the rules raises on one task. -/
theorem filter_raises_only_on_unreadable_values (rule : FilterRule) (fv : Option FieldValue)
    (field : FieldDefinition) (f : Fault) (rules : List FilterRule) (task : Ident) (tasks : List Ident)
    (values : ValuesIndex) (fields : List (Ident × FieldDefinition)) :
    ((rule.passes fv field).run.value = .error f ↔ rule.Raises field fv f) ∧
      FailsWithin (FilterRule.SomeRaises rules values fields task) (passesAll rules task values fields).run.value ∧
      FailsWithin (fun f => ∃ t ∈ tasks, FilterRule.SomeRaises rules values fields t f)
        (filterTasks rules tasks values fields).run.value :=
  ⟨FilterRule.passes_eq_error_iff, passesAll_failsWithin rules values fields task,
    filterTasks_failsWithin rules values fields tasks⟩

end FieldCalc
