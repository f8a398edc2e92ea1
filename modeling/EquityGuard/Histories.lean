import Mathlib.Data.List.Basic

/-!
Histories, with the most recent event first, and what stands in them since something last
happened. A chain of such facts tells the order in which its events came.
-/
namespace EquityGuard.Histories

variable {Event : Type}

/-- Something happened, at a point that the past had led to, and nothing began anew since. -/
def After (mark anew : Event → Prop) (past : List Event → Prop) (history : List Event) : Prop :=
  ∃ recent event earlier, history = recent ++ event :: earlier ∧ mark event ∧ past earlier ∧ ∀ other ∈ recent, ¬ anew other

variable {mark anew : Event → Prop} {past : List Event → Prop} {event : Event} {history : List Event}

theorem After.now (happens : mark event) (holds : past history) : After mark anew past (event :: history) :=
  ⟨[], event, history, rfl, happens, holds, fun _ member => absurd member List.not_mem_nil⟩
theorem After.later (holds : After mark anew past history) (aside : ¬ anew event) : After mark anew past (event :: history) := by
  obtain ⟨recent, marked, earlier, rfl, happened, before, since⟩ := holds
  exact ⟨event :: recent, marked, earlier, rfl, happened, before, List.forall_mem_cons.mpr ⟨aside, since⟩⟩
theorem After.exists_mem (holds : After mark anew past history) : ∃ event ∈ history, mark event := by
  obtain ⟨recent, marked, earlier, rfl, happened, _⟩ := holds
  exact ⟨marked, by simp, happened⟩
/-- What came before the last such event. -/
theorem After.exists_past (holds : After mark anew past history) : ∃ earlier, earlier <:+ history ∧ past earlier := by
  obtain ⟨recent, marked, earlier, rfl, _, before, _⟩ := holds
  exact ⟨earlier, ⟨recent ++ [marked], by simp⟩, before⟩

end EquityGuard.Histories
