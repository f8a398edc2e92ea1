import Mathlib.Data.List.Basic
import Mathlib.Data.List.Infix

/-!
Histories cut into runs. A history stands latest first, and whether an item starts a new
run may depend on everything before it. What holds of every run is proved by what one
more item keeps.
-/
namespace EquityGuard.Segments

section
variable {α : Type} (breaks : List α → α → Prop) [∀ earlier item, Decidable (breaks earlier item)]

/-- The runs of a history, the latest one first; each run stands latest first too. -/
def segments : List α → List (List α)
  | [] => []
  | item :: earlier =>
    match segments earlier with
    | [] => [[item]]
    | segment :: rest => if breaks earlier item then [item] :: segment :: rest else (item :: segment) :: rest

theorem segments_of_break {earlier : List α} {item : α} (cut : breaks earlier item) :
    segments breaks (item :: earlier) = [item] :: segments breaks earlier := by
  rw [segments]
  cases segments breaks earlier with
  | nil => rfl
  | cons segment rest => simp only [if_pos cut]
theorem segments_of_join {earlier segment : List α} {item : α} {rest : List (List α)} (joins : ¬ breaks earlier item)
    (before : segments breaks earlier = segment :: rest) :
    segments breaks (item :: earlier) = (item :: segment) :: rest := by
  rw [segments, before]
  simp only [if_neg joins]
/-- Nothing is lost, doubled or moved. -/
@[simp] theorem segments_flatten (items : List α) : (segments breaks items).flatten = items := by
  induction items with
  | nil => rfl
  | cons item earlier ih =>
    rw [segments]
    cases before : segments breaks earlier with
    | nil =>
      rw [before] at ih
      rw [← ih]
      rfl
    | cons segment rest =>
      rw [before] at ih
      dsimp only
      split <;> simp [← ih]
theorem segments_eq_nil {items : List α} : segments breaks items = [] ↔ items = [] := by
  constructor
  · intro none
    rw [← segments_flatten breaks items, none]
    rfl
  · rintro rfl
    rfl
/-- The rule of runs: a property of single items that one more item keeps, as long as it does not break, holds of
    every run. -/
theorem segments_rule {motive : List α → Prop} {items : List α} (start : ∀ item, item ∈ items → motive [item])
    (grow : ∀ item earlier segment rest, (item :: earlier) <:+ items → segments breaks earlier = segment :: rest →
      ¬ breaks earlier item → motive segment → motive (item :: segment)) :
    ∀ segment ∈ segments breaks items, motive segment := by
  induction items with
  | nil => simp [segments]
  | cons item earlier ih =>
    have before := ih (fun other member => start other (List.mem_cons_of_mem item member))
      (fun other older segment rest inside => grow other older segment rest (inside.trans (List.suffix_cons item earlier)))
    have single := start item List.mem_cons_self
    rw [segments]
    cases cut : segments breaks earlier with
    | nil => simpa using single
    | cons segment rest =>
      rw [cut] at before
      obtain ⟨latest, others⟩ := List.forall_mem_cons.mp before
      dsimp only
      split
      · exact List.forall_mem_cons.mpr ⟨single, before⟩
      · rename_i joins
        exact List.forall_mem_cons.mpr ⟨grow item earlier segment rest List.suffix_rfl cut joins latest, others⟩
theorem ne_nil_of_mem_segments {items segment : List α} (member : segment ∈ segments breaks items) : segment ≠ [] :=
  segments_rule breaks (motive := (· ≠ [])) (by simp) (by simp) segment member
/-- The latest run ends where the history does. -/
theorem history_of_segments {items segment : List α} {rest : List (List α)} (cut : segments breaks items = segment :: rest) :
    items = segment ++ rest.flatten := by
  rw [← segments_flatten breaks items, cut, List.flatten_cons]
/-- A run only grows: what was the last run at some time is the beginning of one in the end. -/
theorem grown_of_suffix {items earlier segment : List α} {rest : List (List α)} (before : earlier <:+ items)
    (cut : segments breaks earlier = segment :: rest) : ∃ grown, grown ++ segment ∈ segments breaks items := by
  induction items with
  | nil =>
    rw [List.suffix_nil.mp before] at cut
    cases cut
  | cons item others ih =>
    rcases List.suffix_cons_iff.mp before with rfl | inside
    · exact ⟨[], by simp [cut]⟩
    · obtain ⟨grown, member⟩ := ih inside
      by_cases broken : breaks others item
      · exact ⟨grown, by rw [segments_of_break breaks broken]; exact List.mem_cons_of_mem _ member⟩
      · cases found : segments breaks others with
        | nil =>
          rw [found] at member
          cases member
        | cons latest older =>
          rw [found] at member
          rw [segments_of_join breaks broken found]
          rcases List.mem_cons.mp member with rfl | member
          · exact ⟨item :: grown, List.mem_cons_self⟩
          · exact ⟨grown, List.mem_cons_of_mem _ member⟩
end

end EquityGuard.Segments
