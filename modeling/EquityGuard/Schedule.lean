import Mathlib.Algebra.Order.Group.Defs
import Mathlib.Order.Interval.Set.Defs

/-!
A value that is scheduled to change once, over any ordered time line: what is in
effect at an instant, and the inclusive refusal interval around the change.
-/
namespace EquityGuard

/-- `before` holds until `activation`; from that instant on, `after` does. -/
@[ext] structure Schedule (Value Time : Type*) where
  before : Value
  after : Value
  activation : Time

namespace Schedule
variable {Value Time : Type*} [LinearOrder Time]

/-- The change has happened; the activation instant itself counts. -/
def Activated (schedule : Schedule Value Time) (now : Time) : Prop := schedule.activation ≤ now
/-- The value in effect at an instant. -/
def effective (schedule : Schedule Value Time) (now : Time) : Value :=
  if schedule.activation ≤ now then schedule.after else schedule.before
/-- The change is a real one. -/
def Changes (schedule : Schedule Value Time) : Prop := schedule.before ≠ schedule.after

theorem effective_of_activated {schedule : Schedule Value Time} {now : Time} (activated : schedule.Activated now) :
    schedule.effective now = schedule.after := if_pos activated
theorem effective_of_pending {schedule : Schedule Value Time} {now : Time} (pending : ¬ schedule.Activated now) :
    schedule.effective now = schedule.before := if_neg pending
/-- Without a real change, time is irrelevant. -/
theorem effective_of_unchanged {schedule : Schedule Value Time} (unchanged : ¬ schedule.Changes) (now : Time) :
    schedule.effective now = schedule.before := by
  have same : schedule.before = schedule.after := not_not.mp unchanged
  unfold effective
  split
  · exact same.symm
  · rfl
/-- A real change is visible at two instants exactly when it lies between them. -/
theorem effective_eq_iff {schedule : Schedule Value Time} (changes : schedule.Changes) (earlier later : Time) :
    schedule.effective later = schedule.effective earlier ↔
      (schedule.Activated later ↔ schedule.Activated earlier) := by
  by_cases first : schedule.Activated earlier <;> by_cases second : schedule.Activated later
  · simp [effective_of_activated, first, second]
  · rw [effective_of_activated first, effective_of_pending second]
    exact iff_of_false changes (by simp [first, second])
  · rw [effective_of_pending first, effective_of_activated second]
    exact iff_of_false (Ne.symm changes) (by simp [first, second])
  · simp [effective_of_pending, first, second]

/-- The instants from `lead` before the change to `lag` after it, ends included. -/
def window [AddGroup Time] (schedule : Schedule Value Time) (lead lag : Time) : Set Time :=
  Set.Icc (schedule.activation - lead) (schedule.activation + lag)
theorem mem_window [AddGroup Time] {schedule : Schedule Value Time} {lead lag now : Time} :
    now ∈ schedule.window lead lag ↔ schedule.activation - lead ≤ now ∧ now ≤ schedule.activation + lag := Iff.rfl
instance [AddGroup Time] (schedule : Schedule Value Time) (lead lag now : Time) :
    Decidable (now ∈ schedule.window lead lag) := decidable_of_iff _ mem_window.symm

end Schedule
end EquityGuard
