import FieldCalc.Proofs.Number.StoredForm
import FieldCalc.Proofs.Calendar.Instants
import FieldCalc.Field.Slot

/-!
# Values through their stored slot

A field type writes a value into the slot of its type and reads it back from
there. Each type has values it keeps natively: every value for a computed
field, numbers for the numeric types, moments for a date, truth values for a
checkbox, texts for the text types, a non-empty text for a select and lists
for a multiselect (`FieldType.Native`).

A native value comes back with its kind and payload exactly when its slot can
hold it (`roundTrip_native_iff`): a number must be one its stored decimal gives
back (`Number.Storable`: an integer below `2^53` in magnitude or a float in
normal form), and a moment must fall in the years the calendar holds; its
date-time is read back through a float count of seconds, which rounds to the
same milliseconds (`Calendar.ofMillis_instant_millis`). Every
number a field reads is storable (`read_number_storable`), so a larger
integer never comes back, and a moment beyond the calendar is refused when it
is stored.
-/

namespace FieldCalc

/-- The values a field of the type keeps in the slot of their own kind. -/
def FieldType.Native : FieldType → Value → Prop
  | .formula, _ | .rollup, _ => True
  | .number, .number _ | .currency, .number _ | .percent, .number _ | .rating, .number _ => True
  | .date, .timestamp _ => True
  | .checkbox, .boolean _ => True
  | .text, .string _ | .url, .string _ | .email, .string _ => True
  | .select, .string s => s ≠ ""
  | .multiselect, .list _ => True
  | _, _ => False

/-- A value its slot can hold: a number its decimal gives back, a moment of
the calendar's years, any other value. -/
def Value.Storable : Value → Prop
  | .number n => n.Storable
  | .timestamp ms => ∃ m, Calendar.Moment.ofMillis ms = .ok m
  | _ => True

def FieldType.roundTrip (t : FieldType) (fieldId taskId : Ident) (v : Value) : Except Fault Value :=
  t.store fieldId taskId v >>= fun fv => t.read (some fv)

section Moments

variable {ms : Int}

theorem storableMoment_of_calendar {m : Calendar.Moment} (split : Calendar.Moment.ofMillis ms = .ok m) :
    storableMoment ms = .ok m.instant := by
  simp [storableMoment, split]

theorem storableMoment_of_not_calendar (beyond : ¬∃ m, Calendar.Moment.ofMillis ms = .ok m) :
    ∃ e, storableMoment ms = .error e := by
  unfold storableMoment
  split
  next m ok => exact absurd ⟨m, ok⟩ beyond
  next e _ => exact ⟨_, rfl⟩

end Moments

namespace FieldType

/-- Every number a field reads from a stored value is storable: a stored
decimal is read through `normalizeDecimal`. -/
theorem read_number_storable {t : FieldType} {fv : Option FieldValue} {n : Number}
    (read : t.read fv = .ok (.number n)) : n.Storable := by
  have decimal : ∀ d, (do return Value.number (← normalizeDecimal (.finite d))) =
      (Except.ok (.number n) : Except Fault Value) → n.Storable := by
    intro d done
    cases normalized : normalizeDecimal (.finite d) with
    | error e => simp [normalized, bind, Except.bind] at done
    | ok m =>
      simp only [normalized, bind, Except.bind, pure, Except.pure, Except.ok.injEq,
        Value.number.injEq] at done
      exact done ▸ normalizeDecimal_storable _ m normalized
  cases fv with
  | none => cases read
  | some fv =>
    obtain ⟨_, _, text, decimalSlot, moment, truth, items⟩ := fv
    cases t
    case text | url | email | select => cases text <;> cases read
    case date => cases moment <;> cases read
    case checkbox => cases truth <;> cases read
    case multiselect => cases items <;> cases read
    case number | currency | percent | rating =>
      cases decimalSlot with
      | none => cases read
      | some d => exact decimal d read
    case formula | rollup =>
      simp only [FieldType.read, readComputed] at read
      split at read
      · exact decimal _ read
      all_goals cases read

end FieldType

section RoundTrip

variable (fieldId taskId : Ident)

/-- A computed field reads back every storable value from the slot of its
kind. -/
theorem roundTrip_computed {t : FieldType} (computed : t = .formula ∨ t = .rollup) {v : Value}
    (storable : v.Storable) : t.roundTrip fieldId taskId v = .ok v := by
  -- a rollup field writes and reads its slots as a formula field does
  have same : t.roundTrip fieldId taskId v = FieldType.formula.roundTrip fieldId taskId v := by
    rcases computed with rfl | rfl <;> rfl
  rw [same]
  cases v with
  | number n =>
    simp [FieldType.roundTrip, FieldType.store, FieldType.read, FieldType.readComputed,
      FieldValue.blank, bind, Except.bind, pure, Except.pure, storable.fitsText,
      normalizeDecimal_toDecimal storable]
  | timestamp ms =>
    obtain ⟨m, split⟩ := storable
    simp [FieldType.roundTrip, FieldType.store, FieldType.read, FieldType.readComputed,
      FieldValue.blank, bind, Except.bind, pure, Except.pure, storableMoment_of_calendar split,
      Calendar.ofMillis_instant_millis split]
  | string s | boolean b | list xs | null =>
    simp [FieldType.roundTrip, FieldType.store, FieldType.read, FieldType.readComputed,
      FieldValue.blank, bind, Except.bind, pure, Except.pure]

theorem roundTrip_of_storable (t : FieldType) {v : Value} (native : t.Native v)
    (storable : v.Storable) : t.roundTrip fieldId taskId v = .ok v := by
  cases t
  case formula => exact roundTrip_computed fieldId taskId (.inl rfl) storable
  case rollup => exact roundTrip_computed fieldId taskId (.inr rfl) storable
  -- a value of another kind is not native, and a native one is written to its own slot
  all_goals cases v <;> simp only [FieldType.Native, Value.Storable] at native storable
  case number.number | currency.number | percent.number | rating.number =>
    simp [FieldType.roundTrip, FieldType.store, FieldType.read, Value.isNull, Value.asNumber?,
      FieldValue.blank, bind, Except.bind, pure, Except.pure, storable.fitsText,
      normalizeDecimal_toDecimal storable]
  case date.timestamp =>
    obtain ⟨m, split⟩ := storable
    simp [FieldType.roundTrip, FieldType.store, FieldType.read, FieldValue.blank, bind,
      Except.bind, pure, Except.pure, storableMoment_of_calendar split,
      Calendar.ofMillis_instant_millis split]
  all_goals simp [FieldType.roundTrip, FieldType.store, FieldType.read, Value.isNull,
    Value.isEmpty, Value.display, Value.isTruthy, FieldValue.blank, bind, Except.bind, pure,
    Except.pure, native]

/-- A native value its slot cannot hold does not come back: every number a
field reads is storable, and a moment beyond the calendar is refused when it
is stored. -/
theorem roundTrip_ne_of_not_storable (t : FieldType) {v : Value} (native : t.Native v)
    (beyond : ¬v.Storable) : t.roundTrip fieldId taskId v ≠ .ok v := by
  intro back
  cases v with
  | number n =>
    cases stored : t.store fieldId taskId (.number n) with
    | error e => simp [FieldType.roundTrip, stored, bind, Except.bind] at back
    | ok fv =>
      have read : t.read (some fv) = .ok (.number n) := by
        simpa [FieldType.roundTrip, stored, bind, Except.bind] using back
      exact beyond (FieldType.read_number_storable read)
  | timestamp ms =>
    obtain ⟨e, refused⟩ := storableMoment_of_not_calendar beyond
    cases t <;> simp only [FieldType.Native] at native <;>
      simp [FieldType.roundTrip, FieldType.store, refused, bind, Except.bind, pure, Except.pure] at back
  | string _ | boolean _ | list _ | null => exact beyond trivial

/-- An integer beyond `2^53` kept by a number field comes back as something
else. -/
theorem number_roundTrip_loses_large_integer :
    FieldType.Native .number (.number (.int 9007199254740993)) ∧
      FieldType.number.roundTrip (.int 1) (.int 1) (.number (.int 9007199254740993)) ≠
        .ok (.number (.int 9007199254740993)) :=
  ⟨trivial, roundTrip_ne_of_not_storable (.int 1) (.int 1) .number trivial (by simp [Value.Storable])⟩

/-- A value a field keeps natively comes back from its slot, with its kind and
payload, exactly when the slot can hold it. -/
theorem roundTrip_native_iff (t : FieldType) {v : Value} (native : t.Native v) :
    t.roundTrip fieldId taskId v = .ok v ↔ v.Storable := by
  constructor
  · intro back
    by_contra beyond
    exact roundTrip_ne_of_not_storable fieldId taskId t native beyond back
  · exact roundTrip_of_storable fieldId taskId t native

end RoundTrip

theorem roundTrip_native_iff_largeInteger :
    FieldType.Native .formula (.number (.int 9007199254740993)) ∧
      (FieldType.formula.roundTrip (.int 7) (.int 101) (.number (.int 9007199254740993)) =
          .ok (.number (.int 9007199254740993)) ↔
        Value.Storable (.number (.int 9007199254740993))) :=
  ⟨trivial, roundTrip_native_iff (.int 7) (.int 101) .formula trivial⟩

end FieldCalc
