import Mathlib.Data.List.Forall2
import Mathlib.Data.Nat.Init

/-!
Loops that run until they leave. A round goes on, leaves or throws; a loop is run with fuel,
and what a program ends with is what it gives with all fuel from some amount on.
-/
namespace EquityGuard.Loops

/-- A result, an error, or neither where the fuel was not enough. -/
abbrev Fueled (ε α : Type) := ExceptT ε Option α

section
variable {σ ε α β : Type}

/-- `for (;;)`: a round goes on with a state or leaves with a result. -/
def forever (round : σ → Except ε (σ ⊕ α)) : Nat → σ → Fueled ε α
  | 0, _ => ExceptT.mk none
  | fuel + 1, state =>
    match round state with
    | .error error => throw error
    | .ok (.inl next) => forever round fuel next
    | .ok (.inr result) => pure result
/-- A round of `while (test) step`. -/
def whileRound (test : σ → Except ε Bool) (step : σ → Except ε σ) (state : σ) : Except ε (σ ⊕ σ) := do
  if ← test state then return .inl (← step state) else return .inr state

theorem whileRound_stop {test : σ → Except ε Bool} {step : σ → Except ε σ} {state : σ} (fails : test state = .ok false) :
    whileRound test step state = .ok (.inr state) := by
  rw [whileRound, fails]
  rfl

/-- All fuel from some amount on gives this result. -/
def Ends (program : Nat → Fueled ε α) (result : α) : Prop := ∃ enough, ∀ fuel ≥ enough, program fuel = pure result
/-- The states in which a round begins. -/
inductive Visits (round : σ → Except ε (σ ⊕ α)) (start : σ) : σ → Prop where
  | start : Visits round start start
  | next {state next : σ} (visited : Visits round start state) (goes : round state = .ok (.inl next)) :
      Visits round start next

theorem eq_pure_of_toOption {program : Fueled ε α} {result : α}
    (found : program.run.bind Except.toOption = some result) : program = pure result := by
  obtain ⟨outcome, ran, value⟩ := Option.bind_eq_some_iff.mp found
  cases outcome with
  | error error => cases value
  | ok found =>
    cases value
    exact ran
theorem Ends.pure (result : α) : Ends (fun _ => (pure result : Fueled ε α)) result := ⟨0, fun _ _ => rfl⟩
theorem Ends.bind {first : Nat → Fueled ε α} {next : Nat → α → Fueled ε β} {value : α} {result : β}
    (before : Ends first value) (after : Ends (fun fuel => next fuel value) result) :
    Ends (fun fuel => first fuel >>= next fuel) result := by
  obtain ⟨enough, gives⟩ := before
  obtain ⟨more, continues⟩ := after
  refine ⟨max enough more, fun fuel large => ?_⟩
  dsimp only
  rw [gives fuel (Nat.le_trans (Nat.le_max_left _ _) large), pure_bind]
  exact continues fuel (Nat.le_trans (Nat.le_max_right _ _) large)
theorem Ends.unique {program : Nat → Fueled ε α} {left right : α} (one : Ends program left) (two : Ends program right) :
    left = right := by
  obtain ⟨enough, gives⟩ := one
  obtain ⟨more, agrees⟩ := two
  have same := (gives _ (Nat.le_max_left enough more)).symm.trans (agrees _ (Nat.le_max_right enough more))
  exact Except.ok.inj (Option.some.inj same)

theorem Ends.leave {round : σ → Except ε (σ ⊕ α)} {state : σ} {result : α} (leaves : round state = .ok (.inr result)) :
    Ends (fun fuel => forever round fuel state) result := by
  refine ⟨1, fun fuel large => ?_⟩
  obtain ⟨fuel, rfl⟩ := Nat.exists_eq_add_of_le' large
  simp only [forever, leaves]
theorem Ends.goOn {round : σ → Except ε (σ ⊕ α)} {state next : σ} {result : α} (goes : round state = .ok (.inl next))
    (ends : Ends (fun fuel => forever round fuel next) result) : Ends (fun fuel => forever round fuel state) result := by
  obtain ⟨enough, gives⟩ := ends
  refine ⟨enough + 1, fun fuel large => ?_⟩
  obtain ⟨fuel, rfl⟩ := Nat.exists_eq_add_of_le' (Nat.le_of_add_left_le large)
  simp only [forever, goes]
  exact gives fuel (Nat.le_of_add_le_add_right large)

/-- A loop that was left with some fuel is left the same with more. -/
theorem Ends.enough {round : σ → Except ε (σ ⊕ α)} {fuel : Nat} {state : σ} {result : α}
    (left : forever round fuel state = Pure.pure result) : Ends (fun fuel => forever round fuel state) result := by
  induction fuel generalizing state with
  | zero => cases left
  | succ fuel ih =>
    cases goes : round state with
    | error error =>
      simp only [forever, goes] at left
      cases left
    | ok outcome =>
      cases outcome with
      | inl next =>
        simp only [forever, goes] at left
        exact (ih left).goOn goes
      | inr value =>
        simp only [forever, goes] at left
        cases left
        exact .leave goes
theorem Ends.mapM {f : Nat → α → Fueled ε β} {items : List α} {results : List β}
    (each : List.Forall₂ (fun item result => Ends (fun fuel => f fuel item) result) items results) :
    Ends (fun fuel => items.mapM (f fuel)) results := by
  induction each with
  | nil => exact .pure []
  | cons head _ ih =>
    simp only [List.mapM_cons]
    exact head.bind (ih.bind (.pure _))

/-- A loop whose rounds keep an invariant and lower a variant ends, without throwing, where a round leaves. -/
theorem forever_ends {round : σ → Except ε (σ ⊕ α)} {invariant : σ → Prop} (variant : σ → Nat) {post : α → Prop}
    (spec : ∀ state, invariant state →
      (∃ next, round state = .ok (.inl next) ∧ invariant next ∧ variant next < variant state) ∨
      ∃ result, round state = .ok (.inr result) ∧ post result)
    {start : σ} (holds : invariant start) : ∃ result, post result ∧ Ends (fun fuel => forever round fuel start) result := by
  induction bound : variant start using Nat.strong_induction_on generalizing start with
  | _ bound ih =>
    rcases spec start holds with ⟨next, goes, kept, lower⟩ | ⟨result, leaves, known⟩
    · obtain ⟨result, known, ends⟩ := ih (variant next) (bound ▸ lower) kept rfl
      exact ⟨result, known, ends.goOn goes⟩
    · exact ⟨result, known, .leave leaves⟩
/-- What every round keeps holds wherever a round begins. -/
theorem visits_keeps {round : σ → Except ε (σ ⊕ α)} {invariant : σ → Prop}
    (keeps : ∀ state next, invariant state → round state = .ok (.inl next) → invariant next) {start state : σ}
    (holds : invariant start) (visited : Visits round start state) : invariant state := by
  induction visited with
  | start => exact holds
  | next _ goes ih => exact keeps _ _ ih goes

/-- `for (let i = start; …; i += stride)`, by an invariant of how many rounds there have been. -/
theorem counted_keeps {body : σ → Nat → σ} {invariant : Nat → σ → Prop} {start stride count : Nat}
    (keeps : ∀ i < count, ∀ state, invariant i state → invariant (i + 1) (body state (start + stride * i))) {state : σ}
    (holds : invariant 0 state) : invariant count ((List.range' start count stride).foldl body state) := by
  induction count with
  | zero => exact holds
  | succ count ih =>
    rw [List.range'_concat, List.foldl_append]
    exact keeps count (Nat.lt_succ_self count) _ (ih fun i inside => keeps i (Nat.lt_succ_of_lt inside))

/-! ### Folds that may throw -/

section
variable {step : σ → α → Except ε σ} {invariant : List α → σ → Prop} {items seen : List α} {state last : σ}

/-- What every step keeps of the items so far holds of all of them. -/
theorem fold_keeps (keeps : ∀ seen state item next, invariant seen state → step state item = .ok next → invariant (seen ++ [item]) next)
    (holds : invariant seen state) (ran : items.foldlM step state = .ok last) : invariant (seen ++ items) last := by
  induction items generalizing seen state with
  | nil =>
    cases ran
    rwa [List.append_nil]
  | cons item rest ih =>
    rw [List.foldlM_cons] at ran
    cases goes : step state item with
    | error error =>
      rw [goes] at ran
      cases ran
    | ok next =>
      rw [goes] at ran
      have rest := ih (keeps seen state item next holds goes) ran
      rwa [List.append_assoc] at rest
/-- A fold that returns has returned at every item. -/
theorem fold_steps (ran : items.foldlM step state = .ok last) {item : α} (member : item ∈ items) :
    ∃ before next, step before item = .ok next := by
  induction items generalizing state with
  | nil => cases member
  | cons first rest ih =>
    rw [List.foldlM_cons] at ran
    cases goes : step state first with
    | error error =>
      rw [goes] at ran
      cases ran
    | ok next =>
      rw [goes] at ran
      rcases List.mem_cons.mp member with rfl | later
      · exact ⟨state, next, goes⟩
      · exact ih ran later
/-- A fold whose steps return under what they keep returns. -/
theorem fold_returns (keeps : ∀ seen state item next, invariant seen state → step state item = .ok next → invariant (seen ++ [item]) next)
    (returns : ∀ earlier item later state, items = earlier ++ item :: later → invariant (seen ++ earlier) state →
      ∃ next, step state item = .ok next)
    (holds : invariant seen state) : ∃ last, items.foldlM step state = .ok last := by
  induction items generalizing seen state with
  | nil => exact ⟨state, rfl⟩
  | cons item rest ih =>
    obtain ⟨next, goes⟩ := returns [] item rest state rfl (by rwa [List.append_nil])
    obtain ⟨last, ran⟩ := ih (fun earlier other later state split holds =>
      returns (item :: earlier) other later state (by rw [split, List.cons_append]) (by rwa [List.append_assoc] at holds))
      (keeps seen state item next holds goes)
    exact ⟨last, by rw [List.foldlM_cons, goes]; exact ran⟩
end
end

end EquityGuard.Loops
