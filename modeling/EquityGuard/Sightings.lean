import Mathlib.Algebra.Order.Group.Defs
import Mathlib.Algebra.Order.Sub.Basic
import Mathlib.Order.Interval.Set.Defs

/-!
Changes that are only seen at polls. A change that was first seen at one reading, and not
yet at the one before, happened in between; two such brackets bound the time between the
two changes, and sometimes tell which came first.
-/
namespace EquityGuard

/-- The last reading without a state, if there is one, and the first with it. -/
structure Sighting (Time : Type*) where
  before : Option Time
  first : Time

namespace Sighting
variable {Time : Type*}

section
variable [LinearOrder Time]

/-- The change may have happened then. -/
def Contains (sighting : Sighting Time) (time : Time) : Prop :=
  (∀ last ∈ sighting.before, last < time) ∧ time ≤ sighting.first
/-- The last reading without the state came before the first with it. -/
def Ordered (sighting : Sighting Time) : Prop := ∀ last ∈ sighting.before, last < sighting.first

theorem contains_first {sighting : Sighting Time} (ordered : sighting.Ordered) : sighting.Contains sighting.first :=
  ⟨ordered, le_rfl⟩
/-- A state that holds once, from `opens` on for some time. -/
def Episode (state : Time → Prop) (opens : Time) : Prop :=
  ∀ time, state time → opens ≤ time ∧ ∀ since, opens ≤ since → since ≤ time → state since

/-- A state that was seen at the first reading, and not at the one before it, began in between. -/
theorem contains_of_episode {state : Time → Prop} {opens : Time} (episode : Episode state opens) {sighting : Sighting Time}
    (seen : state sighting.first) (unseen : ∀ last ∈ sighting.before, last ≤ sighting.first ∧ ¬ state last) :
    sighting.Contains opens := by
  obtain ⟨begun, since⟩ := episode _ seen
  refine ⟨fun last member => ?_, begun⟩
  obtain ⟨earlier, absent⟩ := unseen last member
  by_contra late
  exact absent (since last (not_lt.mp late) earlier)

/-- The item before the one at `index`. -/
def previousOf {α : Type*} (items : List α) (index : Nat) : Option α := if index > 0 then items[index - 1]? else none
/-- The first item that shows a state, among items in the order of their times, and the one before it bracket its
    beginning. -/
theorem contains_of_first {α : Type*} {items : List α} {time : α → Option Time} {seen : α → Bool} {state : Time → Prop}
    {opens : Time} (episode : Episode state opens) (tells : ∀ item ∈ items, ∀ now ∈ time item, seen item = true ↔ state now)
    (ordered : items.Pairwise fun left right => ∀ one ∈ time left, ∀ other ∈ time right, one ≤ other) {index : Nat}
    (found : items.findIdx? seen = some index) {current : α} (here : items[index]? = some current) {first : Time}
    (now : time current = some first) : Contains ⟨(previousOf items index).bind time, first⟩ opens := by
  obtain ⟨inside, shown, earlier⟩ := List.findIdx?_eq_some_iff_getElem.mp found
  rw [List.getElem?_eq_getElem inside, Option.some_inj] at here
  subst here
  refine contains_of_episode episode ((tells _ (List.getElem_mem inside) first now).mp shown) fun last member => ?_
  obtain ⟨previous, before, known⟩ := Option.bind_eq_some_iff.mp member
  unfold previousOf at before
  split at before
  · rename_i positive
    have step : index - 1 < index := Nat.sub_lt positive Nat.one_pos
    rw [List.getElem?_eq_getElem (step.trans inside), Option.some_inj] at before
    subst before
    refine ⟨List.pairwise_iff_getElem.mp ordered _ _ (step.trans inside) inside step last known first now, fun holds => ?_⟩
    exact earlier (index - 1) step ((tells _ (List.getElem_mem _) last known).mpr holds)
  · cases before

/-- Where the last reading without the state came before some moment, the change may have come by then. -/
theorem exists_contains_le {sighting : Sighting Time} (ordered : sighting.Ordered) {moment : Time}
    (early : ∀ last ∈ sighting.before, last < moment) : ∃ time, sighting.Contains time ∧ time ≤ moment := by
  refine ⟨min sighting.first moment, ⟨fun last member => ?_, min_le_left _ _⟩, min_le_right _ _⟩
  exact lt_min (ordered last member) (early last member)
/-- A change bracketed after another one's first reading came later. -/
theorem lt_of_le_before {earlier later : Sighting Time} {one other last : Time} (one_in : earlier.Contains one)
    (other_in : later.Contains other) (before : last ∈ later.before) (apart : earlier.first ≤ last) : one < other :=
  one_in.2.trans_lt (apart.trans_lt (other_in.1 last before))
end

section
variable [AddCommGroup Time] [LinearOrder Time] [IsOrderedAddMonoid Time] {earlier later : Sighting Time} {one other last : Time}

theorem lt_sub (one_in : earlier.Contains one) (other_in : later.Contains other) (before : last ∈ later.before) :
    last - earlier.first < other - one :=
  calc last - earlier.first ≤ last - one := sub_le_sub_left one_in.2 last
    _ < other - one := sub_lt_sub_right (other_in.1 last before) one
theorem sub_le (one_in : earlier.Contains one) (other_in : later.Contains other) (before : last ∈ earlier.before) :
    other - one ≤ later.first - last :=
  calc other - one ≤ later.first - one := sub_le_sub_right other_in.2 one
    _ ≤ later.first - last := sub_le_sub_left (one_in.1 last before).le later.first
end

end Sighting
end EquityGuard
