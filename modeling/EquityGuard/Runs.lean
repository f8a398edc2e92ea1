import Mathlib.Data.List.Basic

/-!
Finite runs of a transition system, with the events that happened. The most recent
event stands first. An invariant is proved by what one step keeps; that something
happens at most once, by a mark that the event leaves and refuses to find.
-/
namespace EquityGuard.Runs

variable {State Event Token : Type}

inductive Run (initial : State → Prop) (step : State → Event → State → Prop) : List Event → State → Prop where
  | start {state : State} (fresh : initial state) : Run initial step [] state
  | next {events : List Event} {event : Event} {before after : State} (earlier : Run initial step events before)
      (taken : step before event after) : Run initial step (event :: events) after

variable {initial : State → Prop} {step : State → Event → State → Prop} {events : List Event} {state : State}

/-- A relation of histories and states holds of every run if each step keeps it. -/
theorem Run.history {invariant : List Event → State → Prop} (first : ∀ state, initial state → invariant [] state)
    (kept : ∀ events event before after, Run initial step events before → invariant events before →
      step before event after → invariant (event :: events) after)
    (run : Run initial step events state) : invariant events state := by
  induction run with
  | start fresh => exact first _ fresh
  | next earlier taken ih => exact kept _ _ _ _ earlier ih taken
theorem Run.invariant {invariant : State → Prop} (first : ∀ state, initial state → invariant state)
    (kept : ∀ event before after, invariant before → step before event after → invariant after)
    (run : Run initial step events state) : invariant state :=
  run.history (fun state fresh => first state fresh)
    (fun _ event before after _ holds taken => kept event before after holds taken)
/-- Every event was a step, from a state that what came before it led to. -/
theorem Run.taken {later earlier : List Event} {event : Event}
    (run : Run initial step (later ++ event :: earlier) state) :
    ∃ before after, Run initial step earlier before ∧ step before event after ∧
      ∀ kept : State → Prop, (∀ event before after, kept before → step before event after → kept after) → kept after →
        kept state := by
  induction later generalizing state with
  | nil =>
    cases run with
    | next run taken => exact ⟨_, _, run, taken, fun _ _ holds => holds⟩
  | cons last later ih =>
    cases run with
    | next run taken =>
      obtain ⟨before, after, first, happened, continues⟩ := ih run
      exact ⟨before, after, first, happened, fun kept keeps holds => keeps _ _ _ (continues kept keeps holds) taken⟩

/-- The states of a run keep what its steps keep, so the steps may be taken to start in such states. -/
theorem Run.restrict {invariant : State → Prop} (first : ∀ state, initial state → invariant state)
    (kept : ∀ event before after, invariant before → step before event after → invariant after)
    (run : Run initial step events state) :
    Run initial (fun before event after => invariant before ∧ step before event after) events state := by
  induction run with
  | start fresh => exact .start fresh
  | next earlier taken ih => exact ih.next ⟨earlier.invariant first kept, taken⟩

/-- An event that spends a token finds it unspent and marks it, and no step clears a mark. -/
structure OneShot (step : State → Event → State → Prop) (spends : Event → Token → Prop) (spent : State → Token → Prop) :
    Prop where
  fresh : ∀ {before event after token}, step before event after → spends event token → ¬ spent before token
  marked : ∀ {before event after token}, step before event after → spends event token → spent after token
  kept : ∀ {before event after token}, step before event after → spent before token → spent after token

variable {spends : Event → Token → Prop} {spent : State → Token → Prop}

theorem OneShot.spent_of_mem (once : OneShot step spends spent) (run : Run initial step events state) {event : Event}
    (happened : event ∈ events) {token : Token} (spending : spends event token) : spent state token := by
  obtain ⟨later, earlier, rfl⟩ := List.append_of_mem happened
  obtain ⟨_, _, _, taken, continues⟩ := run.taken
  exact continues (fun state => spent state token) (fun _ _ _ holds taken => once.kept taken holds) (once.marked taken spending)
/-- No token is spent twice. -/
theorem OneShot.once (once : OneShot step spends spent) (run : Run initial step events state) :
    events.Pairwise (fun later earlier => ∀ token, spends later token → ¬ spends earlier token) := by
  induction run with
  | start _ => exact .nil
  | next earlier taken ih =>
    refine .cons ?_ ih
    intro event happened token spending before
    exact once.fresh taken spending (once.spent_of_mem earlier happened before)

theorem Run.weaken {weaker : State → Event → State → Prop}
    (weakens : ∀ before event after, step before event after → weaker before event after) (run : Run initial step events state) :
    Run initial weaker events state := by
  induction run with
  | start fresh => exact .start fresh
  | next earlier taken ih => exact ih.next (weakens _ _ _ taken)

/-! ### Numbered objects -/

/-- What is found after one more object was issued. -/
theorem found_append {α : Type} {objects : List α} {last object : α} {number : Nat}
    (found : (objects ++ [last])[number]? = some object) :
    objects[number]? = some object ∨ (number = objects.length ∧ object = last) := by
  rw [List.getElem?_append] at found
  split at found
  · exact .inl found
  · obtain ⟨bound, same⟩ := List.getElem?_eq_some_iff.mp found
    have first : number = objects.length := by
      simp only [List.length_singleton] at bound
      omega
    subst first
    simp at same
    exact .inr ⟨rfl, same.symm⟩
/-- What is found after one object changed. -/
theorem found_set {α : Type} {objects : List α} {number other : Nat} {changed object : α}
    (found : (objects.set number changed)[other]? = some object) :
    (other = number ∧ object = changed) ∨ (other ≠ number ∧ objects[other]? = some object) := by
  rw [List.getElem?_set] at found
  by_cases same : number = other
  · rw [if_pos same] at found
    split at found
    · exact .inl ⟨same.symm, (Option.some.inj found).symm⟩
    · cases found
  · rw [if_neg same] at found
    exact .inr ⟨Ne.symm same, found⟩

end EquityGuard.Runs
