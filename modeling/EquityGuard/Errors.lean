import Mathlib.Logic.Basic

namespace EquityGuard.Errors

/-- The program's error codes, in the order of their discriminants. The client's
    `EquityGuardErrorName` is the same list of names. -/
inductive EquityGuardError where
  | UnsupportedInstruction
  | InvalidInstructionLength
  | InvalidExpectedState
  | InvalidAccountCount
  | InvalidMintOwner
  | InvalidMintData
  | MissingScaledUiAmount
  | InvalidExtensionCombination
  | InvalidMultiplier
  | MultiplierChanged
  | NewMultiplierChanged
  | EffectiveTimestampChanged
  | ActivationPhaseChanged
  | InsideTransitionWindow
  | ArithmeticOverflow
  | ClockUnavailable
  | UnsupportedVersion
  | MintKeyMismatch
  | InvalidInstructionsSysvar
  | MissingDownstreamInstruction
  | UnsupportedDownstreamProgram
  | UnsupportedDownstreamInstruction
  | DownstreamMintMismatch
  | DownstreamCommitmentMismatch
  | UnsupportedAdapter
  | GuardNotTopLevel
  | GuardNotFirst
  | UnsupportedTransactionGrammar
  | InvalidComputeBudgetInstruction
  | InvalidAtaSetup
  | InvalidJupiterProgram
  | InvalidJupiterInstruction
  | InvalidJupiterDirection
  | InvalidCounterMint
  | InvalidTokenProgram
  | DestinationOverrideUnsupported
  | UnsupportedJupiterFee
  | NonCanonicalSourceAccount
  | NonCanonicalDestinationAccount
deriving DecidableEq

/-- The result of a fallible function of the program. -/
abbrev Checked := Except EquityGuardError

/-- `if condition { return Err(error); }`. -/
def refuse_if {ε : Type} (condition : Prop) [Decidable condition] (error : ε) : Except ε Unit :=
  if condition then .error error else .ok ()
/-- `option.ok_or(error)`. -/
def ok_or {ε α : Type} (error : ε) : Option α → Except ε α
  | some value => .ok value
  | none => .error error

/-- `if (condition) problems.push(problem);`, over the list of such lines. -/
def pushed {α : Type} (checks : List (Bool × α)) : List α := (checks.filter Prod.fst).map Prod.snd

theorem pushed_eq_nil {α : Type} {checks : List (Bool × α)} : pushed checks = [] ↔ ∀ check ∈ checks, check.1 = false := by
  rw [pushed, List.map_eq_nil_iff, List.filter_eq_nil_iff]
  simp

/-- A computation that succeeds went through an intermediate success. -/
theorem bind_eq_ok {ε α β : Type} {first : Except ε α} {next : α → Except ε β} {result : β} :
    first >>= next = .ok result ↔ ∃ value, first = .ok value ∧ next value = .ok result := by
  cases first with
  | error error =>
    constructor
    · intro failed
      cases failed
    · rintro ⟨_, failed, _⟩
      cases failed
  | ok value =>
    constructor
    · intro succeeded
      exact ⟨value, rfl, succeeded⟩
    · rintro ⟨_, same, succeeded⟩
      cases same
      exact succeeded
theorem then_eq_ok {ε α : Type} {first : Except ε Unit} {next : Unit → Except ε α} {result : α} :
    first >>= next = .ok result ↔ first = .ok () ∧ next () = .ok result := by
  rw [bind_eq_ok]
  exact ⟨fun ⟨_, done, succeeded⟩ => ⟨done, succeeded⟩, fun ⟨done, succeeded⟩ => ⟨(), done, succeeded⟩⟩
theorem refuse_if_eq_ok {ε : Type} {condition : Prop} [Decidable condition] {error : ε} {done : Unit} :
    refuse_if condition error = .ok done ↔ ¬ condition := by
  unfold refuse_if
  split <;> simp_all
theorem ok_or_eq_ok {ε α : Type} {error : ε} {option : Option α} {value : α} :
    ok_or error option = .ok value ↔ option = some value := by
  cases option <;> simp [ok_or]
@[simp] theorem ok_or_some {ε α : Type} (error : ε) (value : α) : ok_or error (some value) = .ok value := rfl
@[simp] theorem ok_or_none {ε α : Type} (error : ε) : ok_or error (none : Option α) = .error error := rfl
theorem mapError_eq_ok {ε δ α : Type} {convert : ε → δ} {result : Except ε α} {value : α} :
    result.mapError convert = .ok value ↔ result = .ok value := by
  cases result with
  | error error => exact ⟨nofun, nofun⟩
  | ok answer =>
    constructor
    · rintro ⟨⟩
      rfl
    · rintro ⟨⟩
      rfl
theorem exists_error_iff {ε α : Type} {result : Except ε α} :
    (∃ error, result = .error error) ↔ ¬ ∃ value, result = .ok value := by
  cases result <;> simp
theorem pure_eq_ok {ε α : Type} (value : α) : (pure value : Except ε α) = .ok value := rfl
@[simp] theorem ok_bind {ε α β : Type} (value : α) (next : α → Except ε β) : Except.ok value >>= next = next value := rfl
@[simp] theorem error_bind {ε α β : Type} (error : ε) (next : α → Except ε β) :
    Except.error error >>= next = .error error := rfl
/-- A sequence of checks refuses with its first failing one. -/
@[simp] theorem refuse_if_bind {ε α : Type} (condition : Prop) [Decidable condition] (error : ε)
    (next : Unit → Except ε α) :
    refuse_if condition error >>= next = if condition then .error error else next () := by
  unfold refuse_if
  split <;> rfl
/-- A checked conversion of a list converts every item or refuses. -/
theorem mapM_checked {ε α β : Type} {convert : α → Except ε β} {valid : α → Prop} [DecidablePred valid]
    {result : α → β} {error : ε} (spec : ∀ item, convert item = if valid item then .ok (result item) else .error error)
    (items : List α) :
    items.mapM convert = if ∀ item ∈ items, valid item then .ok (items.map result) else .error error := by
  induction items with
  | nil => rfl
  | cons item rest ih =>
    rw [List.mapM_cons, spec, ih]
    by_cases first : valid item
    · by_cases others : ∀ item ∈ rest, valid item
      · rw [if_pos first, if_pos others, if_pos (List.forall_mem_cons.mpr ⟨first, others⟩)]
        rfl
      · rw [if_pos first, if_neg others, if_neg (fun all => others (List.forall_mem_cons.mp all).2)]
        rfl
    · rw [if_neg first, if_neg (fun all => first (List.forall_mem_cons.mp all).1)]
      rfl

theorem bind_returns {ε α β : Type} {first : Except ε α} {next : α → Except ε β} (before : ∃ value, first = .ok value)
    (after : ∀ value, ∃ result, next value = .ok result) : ∃ result, first >>= next = .ok result := by
  obtain ⟨value, rfl⟩ := before
  exact after value
/-- A conversion that succeeds on every item of a list succeeds on the list. -/
theorem mapM_returns {ε α β : Type} {convert : α → Except ε β} {items : List α}
    (each : ∀ item ∈ items, ∃ value, convert item = .ok value) : ∃ values, items.mapM convert = .ok values := by
  induction items with
  | nil => exact ⟨[], rfl⟩
  | cons item rest ih =>
    obtain ⟨value, converted⟩ := each item List.mem_cons_self
    obtain ⟨values, others⟩ := ih (fun other member => each other (List.mem_cons_of_mem item member))
    exact ⟨value :: values, by rw [List.mapM_cons, converted, others]; rfl⟩

/-- A conversion that succeeds on a list succeeds on every item of it. -/
theorem mapM_each {ε α β : Type} {convert : α → Except ε β} {items : List α} {values : List β}
    (converted : items.mapM convert = .ok values) {item : α} (member : item ∈ items) : ∃ value, convert item = .ok value := by
  induction items generalizing values with
  | nil => cases member
  | cons first rest ih =>
    rw [List.mapM_cons] at converted
    obtain ⟨value, head, converted⟩ := bind_eq_ok.mp converted
    obtain ⟨others, later, _⟩ := bind_eq_ok.mp converted
    rcases List.mem_cons.mp member with rfl | inside
    · exact ⟨value, head⟩
    · exact ih later inside

/-- What a conversion keeps of every item it keeps of the list. -/
theorem mapM_map {ε α β γ : Type} {convert : α → Except ε β} {before : α → γ} {after : β → γ}
    (kept : ∀ item value, convert item = .ok value → after value = before item) {items : List α} {values : List β}
    (converted : items.mapM convert = .ok values) : values.map after = items.map before := by
  induction items generalizing values with
  | nil =>
    cases converted
    rfl
  | cons item rest ih =>
    rw [List.mapM_cons] at converted
    obtain ⟨value, first, converted⟩ := bind_eq_ok.mp converted
    obtain ⟨others, later, converted⟩ := bind_eq_ok.mp converted
    cases converted
    rw [List.map_cons, List.map_cons, kept item value first, ih later]
theorem mapM_length {ε α β : Type} {convert : α → Except ε β} {items : List α} {values : List β}
    (converted : items.mapM convert = .ok values) : values.length = items.length := by
  have units : values.map (fun _ => ()) = items.map (fun _ => ()) := mapM_map (fun _ _ _ => rfl) converted
  simpa using congrArg List.length units

/-! ### What can be thrown -/

/-- Every error a computation can end with is one of these. -/
def Throws {ε α : Type} (allowed : ε → Prop) (result : Except ε α) : Prop := ∀ error, result = .error error → allowed error

namespace Throws
variable {ε α β : Type} {allowed : ε → Prop}

theorem ok (value : α) : Throws allowed (.ok value : Except ε α) := by
  intro error thrown
  cases thrown
theorem error {error : ε} (known : allowed error) : Throws allowed (.error error : Except ε α) := by
  intro other thrown
  cases thrown
  exact known
theorem bind {first : Except ε α} {next : α → Except ε β} (before : Throws allowed first)
    (after : ∀ value, first = .ok value → Throws allowed (next value)) : Throws allowed (first >>= next) := by
  intro error thrown
  cases first with
  | error other =>
    cases thrown
    exact before error rfl
  | ok value => exact after value rfl error thrown
theorem refuse_if {condition : Prop} [Decidable condition] {error : ε} (known : condition → allowed error) :
    Throws allowed (refuse_if condition error) := by
  intro other thrown
  unfold Errors.refuse_if at thrown
  split at thrown
  · rename_i holds
    cases thrown
    exact known holds
  · cases thrown
theorem ok_or {error : ε} {option : Option α} (known : option = none → allowed error) :
    Throws allowed (ok_or error option) := by
  intro other thrown
  cases option with
  | none =>
    cases thrown
    exact known rfl
  | some value => cases thrown
theorem mapM {convert : α → Except ε β} {items : List α} (each : ∀ item ∈ items, Throws allowed (convert item)) :
    Throws allowed (items.mapM convert) := by
  induction items with
  | nil => exact ok []
  | cons item rest ih =>
    rw [List.mapM_cons]
    refine bind (each item List.mem_cons_self) (fun value _ => bind (ih ?_) (fun _ _ => ok _))
    intro other member
    exact each other (List.mem_cons_of_mem item member)

end Throws

/-- Every value a computation can return is one of these. -/
def Returns {ε α : Type} (allowed : α → Prop) (result : Except ε α) : Prop := ∀ value, result = .ok value → allowed value

namespace Returns
variable {ε α β : Type}

theorem ok {allowed : α → Prop} {value : α} (known : allowed value) : Returns allowed (.ok value : Except ε α) := by
  intro other returned
  cases returned
  exact known
theorem error (allowed : α → Prop) (error : ε) : Returns allowed (.error error : Except ε α) := by
  intro value returned
  cases returned
theorem bind {allowed : β → Prop} {first : Except ε α} {next : α → Except ε β}
    (after : ∀ value, Returns allowed (next value)) : Returns allowed (first >>= next) := by
  intro result returned
  obtain ⟨value, _, went⟩ := bind_eq_ok.mp returned
  exact after value result went

end Returns

end EquityGuard.Errors
