import FieldCalc.Proofs.Calendar.Fractions
import FieldCalc.Formula.Eval

/-!
# Calendar fields of a moment

`YEAR`, `MONTH`, `DAY` and `WEEKDAY` read the fields of the split of one
moment, given as the moment, a number that truncates to it or text that reads
as it (`DateValue`). For a moment of years 1 to 9999 the split is the date of
its floor day (`datePart_of_dateValue`), so the three fields form a valid date
of the proleptic Gregorian calendar whose midnight is the moment less its
floor remainder of a day, which is `TODAY()` at that moment, and `WEEKDAY`
counts days from a Sunday, 1970-01-01 being a Thursday
(`date_parts_of_moment`).
-/

namespace FieldCalc.Formula

/-- A date argument standing for the moment `ts`: the moment itself, a number
that truncates to it, or text that reads as it. -/
def DateValue (v : Value) (ts : Int) : Prop :=
  v = .timestamp ts ∨ (∃ n, v = .number n ∧ n.trunc = .ok ts) ∨
    ∃ s, v = .string s ∧ parseTimestamp? s = .ok (some ts)

theorem dateArg_of_dateValue {v : Value} {ts : Int} (date : DateValue v ts) (name : String) :
    dateArg v name = .ok (some ts) := by
  rcases date with rfl | ⟨n, rfl, trunc⟩ | ⟨s, rfl, parsed⟩
  · rfl
  · simp only [dateArg, trunc, arith]
    rfl
  · simp only [dateArg, parsed]
    rfl

section Fields

variable {v : Value} {ts : Int}

theorem datePart_of_dateValue (date : DateValue v ts)
    (low : 1 ≤ (Calendar.CivilDate.ofDay (ts.fdiv msPerDay)).year)
    (high : (Calendar.CivilDate.ofDay (ts.fdiv msPerDay)).year ≤ 9999) :
    ∃ m : Calendar.Moment, m.OnClock ∧ m.date = Calendar.CivilDate.ofDay (ts.fdiv msPerDay) ∧
      m.dayNumber = ts.fdiv msPerDay ∧ ∀ name part, datePart v name part = .ok (.number (.int (part m))) := by
  obtain ⟨m, split, clock, dateEq, day, -, -⟩ := Calendar.ofMillis_spec low high
  refine ⟨m, clock, dateEq, day, fun name part => ?_⟩
  simp only [datePart, dateArg_of_dateValue date, bind, Except.bind, split, pure, Except.pure]

/-- The calendar fields of a moment of years 1 to 9999, given as a moment, a
number or text: `YEAR`, `MONTH` and `DAY` form a valid date whose midnight is
the moment less its floor remainder of a day, that midnight is `TODAY()` at the
moment, and `WEEKDAY` is the floor day counted from a Sunday. -/
theorem date_parts_of_moment (ctx : Context) (date : DateValue v ts)
    (low : 1 ≤ (Calendar.CivilDate.ofDay (ts.fdiv msPerDay)).year)
    (high : (Calendar.CivilDate.ofDay (ts.fdiv msPerDay)).year ≤ 9999) :
    ∃ Y M D : Nat,
      applyEager ctx .year [v] = .ok (.number (.int Y)) ∧
      applyEager ctx .month [v] = .ok (.number (.int M)) ∧
      applyEager ctx .day [v] = .ok (.number (.int D)) ∧
      1 ≤ Y ∧ Y ≤ 9999 ∧ 1 ≤ M ∧ M ≤ 12 ∧ 1 ≤ D ∧ D ≤ Calendar.daysInMonth Y M ∧
      (⟨Y, M, D⟩ : Calendar.CivilDate).toMillis = ts - ts % msPerDay ∧
      applyEager { ctx with now := ts } .today [] = .ok (.timestamp (⟨Y, M, D⟩ : Calendar.CivilDate).toMillis) ∧
      applyEager ctx .weekday [v] = .ok (.number (.int ((ts.fdiv msPerDay + 4) % 7))) := by
  obtain ⟨m, clock, dateEq, day, parts⟩ := datePart_of_dateValue date low high
  have valid := clock.valid
  simp only [Calendar.CivilDate.isValid, Bool.and_eq_true, decide_eq_true_eq] at valid
  obtain ⟨⟨⟨⟨⟨yearLow, yearHigh⟩, monthLow⟩, monthHigh⟩, dayLow⟩, dayHigh⟩ := valid
  have year : ((m.date.year.toNat : Nat) : Int) = m.date.year := by omega
  have civil : (⟨(m.date.year.toNat : Nat), m.date.month, m.date.day⟩ : Calendar.CivilDate) = m.date := by
    rw [year]
  -- the date counts back to the floor day, whose midnight is the moment less its remainder
  have midnight : m.date.toMillis = ts - ts % msPerDay := by
    rw [Calendar.CivilDate.toMillis, dateEq, Calendar.toDay_ofDay, Int.fdiv_eq_ediv_of_nonneg _ (by decide)]
    simp only [Calendar.msPerDay, msPerDay]
    omega
  have weekday : (((Calendar.mondayWeekday m.dayNumber + 1) % 7 : Nat) : Int) = (ts.fdiv msPerDay + 4) % 7 := by
    rw [day]
    unfold Calendar.mondayWeekday
    omega
  refine ⟨m.date.year.toNat, m.date.month, m.date.day, parts _ _, parts _ _, parts _ _, by omega, by omega,
    monthLow, monthHigh, dayLow, by rw [year]; exact dayHigh, by rw [civil]; exact midnight, ?_, ?_⟩
  · rw [civil, midnight]
    rfl
  · rw [← weekday]
    exact parts _ _

/-- The last millisecond before the epoch falls on a Wednesday. -/
theorem date_parts_of_moment_beforeEpoch :
    applyEager { now := 0 } .weekday [.timestamp (-1)] = .ok (.number (.int 3)) := by
  obtain ⟨-, -, -, -, -, -, -, -, -, -, -, -, -, -, weekday⟩ :=
    @date_parts_of_moment (.timestamp (-1)) (-1) { now := 0 } (Or.inl rfl) (by decide) (by decide)
  exact weekday

end Fields

end FieldCalc.Formula
