import FieldCalc.Proofs.Formula.Faults
import FieldCalc.Filter.Rule

/-!
# The faults of stored values

Reading a stored value fails only where a computed slot holds a decimal beyond
the float range; storing one fails only where a moment is shown or kept that
the calendar cannot hold, or where date text does not read. All of these are
faults an operator or call reports (`Fault.Reported`).
-/

namespace FieldCalc

@[simp]
theorem storableMoment_reported (ms : Int) : FailsWithin Fault.Reported (storableMoment ms) := by
  unfold storableMoment
  split <;> simp

namespace FieldType

@[simp]
theorem readComputed_reported (fv : FieldValue) : FailsWithin Fault.Reported (readComputed fv) := by
  unfold readComputed
  split <;> simp

@[simp]
theorem read_reported (t : FieldType) (fv : Option FieldValue) : FailsWithin Fault.Reported (t.read fv) := by
  unfold read
  split
  · simp
  · split
    all_goals try simp
    all_goals split <;> simp

@[simp]
theorem isEmpty_reported (t : FieldType) (fv : Option FieldValue) :
    FailsWithin Fault.Reported (t.isEmpty fv) := by
  unfold isEmpty
  split
  · simp
  · split <;> simp

@[simp]
theorem store_reported (t : FieldType) (fieldId taskId : Ident) (v : Value) :
    FailsWithin Fault.Reported (t.store fieldId taskId v) := by
  unfold store
  cases t <;> simp
  all_goals split <;> simp
  intro ms? _
  split <;> simp

end FieldType

end FieldCalc
