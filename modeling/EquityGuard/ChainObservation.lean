import EquityGuard.ClientOffline
import EquityGuard.Representations

/-!
Decoding mint accounts into evidence, classifying the evidence, and what the
classification has to do with the guard that is built from it.
-/
namespace EquityGuard.ChainObservation
open EquityGuard.Binary64 EquityGuard.Bytes EquityGuard.Client EquityGuard.ClientAbi EquityGuard.ClientMintState
open EquityGuard.ClientOffline EquityGuard.Errors EquityGuard.Hex EquityGuard.JsonText EquityGuard.JsValue
open EquityGuard.Records EquityGuard.Representations

structure RawMintAccount extends Context where
  owner : String
  data : List UInt8
  chainUnixTimestamp : Option Int

def codeText : GuardClientErrorCode → Text
  | .AccountNotFound => "AccountNotFound"
  | .InvalidClockData => "InvalidClockData"
  | .InvalidDownstream => "InvalidDownstream"
  | .InvalidExpectedState => "InvalidExpectedState"
  | .InvalidExtensionCombination => "InvalidExtensionCombination"
  | .InvalidMintData => "InvalidMintData"
  | .InvalidMintOwner => "InvalidMintOwner"
  | .InvalidMultiplier => "InvalidMultiplier"
  | .InvalidProtectionWindow => "InvalidProtectionWindow"
  | .MissingScaledUiAmount => "MissingScaledUiAmount"
  | .UnsupportedJupiterTrade => "UnsupportedJupiterTrade"
def decodeObservation (account : RawMintAccount) : Js ChainObservation := do
  let protectedState ← decodeProtectedState account.owner account.data
  let metadata ← decodeMintMetadata account.owner account.data
  return {
    toContext := account.toContext
    chainUnixTimestamp := account.chainUnixTimestamp
    decimals := .number (.ofInt metadata.decimals)
    paused := metadata.paused
    protectedState
    hasScheduledChange := ClientAbi.hasScheduledChange protectedState
    phase := account.chainUnixTimestamp.map (fun now => .number (phaseAt protectedState now)) }
/-- Decodes one mint account. Rejections become evidence. -/
def observeMintAccount (account : RawMintAccount) : Js ChainEvidence :=
  match decodeObservation account with
  | .ok observation => .ok (.decoded observation)
  | .error (.GuardClientError code message _) => .ok (.decodeError account.toContext (codeText code) message)
  | .error error => .error error

structure Classification where
  state : RepresentationState
  reason : Message

structure TransitionPolicyError where
  message : Message
def assertValidPolicy (policy : TransitionPolicy) : Except TransitionPolicyError Unit :=
  refuse_if (policy.beforeSecs < 0 ∨ policy.afterSecs < 0) ⟨["protection interval bounds must be non-negative"]⟩
/-- The state of a representation, by chain evidence and a policy alone. -/
def classifyChainEvidence (evidence : ChainEvidence) (policy : TransitionPolicy) :
    Except TransitionPolicyError Classification := do
  assertValidPolicy policy
  match evidence with
  | .decodeError _ code _ => return ⟨.UNKNOWN, ["mint could not be decoded: ", code]⟩
  | .decoded observation =>
    if observation.paused = some true then return ⟨.PAUSED, ["Token-2022 Pausable flag is set"]⟩
    else if observation.hasScheduledChange = false then return ⟨.SAFE, ["no scheduled multiplier change"]⟩
    else
      match observation.chainUnixTimestamp with
      | none => return ⟨.UNKNOWN, ["multiplier change scheduled but chain time unavailable"]⟩
      | some now =>
        let activation := observation.protectedState.newMultiplierEffectiveTimestamp
        if activation - policy.beforeSecs ≤ now ∧ now ≤ activation + policy.afterSecs then
          return ⟨.TRANSITION, ["chain time ", now, " is inside [", activation - policy.beforeSecs, ", ",
            activation + policy.afterSecs, "]"]⟩
        else
          return ⟨.SAFE, ["scheduled change ", if now ≥ activation then "activated" else "pending",
            " and outside the protection interval (policy ", policy.calibration.name, ")"]⟩

/-- What the guard of a delivery expects: the bound state in its phase, under the policy's window.
    `Number(secs)` is exact up to `2 ^ 53`, and a window is refused from `2 ^ 32` on. -/
def deliveryExpectation (boundState : EconomicState) (policy : TransitionPolicy) : AssertSafeExecutionRequest where
  expected := protectedStateOf boundState
  expectedPhase := boundState.phase.value
  window := ⟨.ofInt policy.beforeSecs, .ofInt policy.afterSecs⟩

/-! ### The classification and the guard -/

def Safe (evidence : ChainEvidence) (policy : TransitionPolicy) : Prop :=
  ∃ reason, classifyChainEvidence evidence policy = .ok ⟨.SAFE, reason⟩
/-- Chain time is in the window, on unbounded integers. -/
def Inside (observation : ChainObservation) (policy : TransitionPolicy) (now : Int) : Prop :=
  observation.protectedState.newMultiplierEffectiveTimestamp - policy.beforeSecs ≤ now ∧
    now ≤ observation.protectedState.newMultiplierEffectiveTimestamp + policy.afterSecs
/-- Both ends of the window are `i64` values. -/
def Fits (observation : ChainObservation) (policy : TransitionPolicy) : Prop :=
  -2 ^ 63 ≤ observation.protectedState.newMultiplierEffectiveTimestamp - policy.beforeSecs ∧
    observation.protectedState.newMultiplierEffectiveTimestamp + policy.afterSecs < 2 ^ 63

theorem safe_iff {observation : ChainObservation} {policy : TransitionPolicy} {now : Int}
    (valid : 0 ≤ policy.beforeSecs ∧ 0 ≤ policy.afterSecs) (running : observation.paused ≠ some true)
    (timed : observation.chainUnixTimestamp = some now) :
    Safe (.decoded observation) policy ↔ observation.hasScheduledChange = false ∨ ¬ Inside observation policy now := by
  have bounds : ¬ (policy.beforeSecs < 0 ∨ policy.afterSecs < 0) := by omega
  unfold Safe classifyChainEvidence assertValidPolicy
  rw [refuse_if_bind, if_neg bounds]
  dsimp only
  rw [if_neg running, timed]
  by_cases scheduled : observation.hasScheduledChange = false
  · simp [scheduled, pure_eq_ok]
  · rw [if_neg scheduled]
    dsimp only
    by_cases inside : Inside observation policy now
    · have taken : observation.protectedState.newMultiplierEffectiveTimestamp - policy.beforeSecs ≤ now ∧
          now ≤ observation.protectedState.newMultiplierEffectiveTimestamp + policy.afterSecs := inside
      rw [if_pos taken]
      simp [scheduled, inside, pure_eq_ok]
    · have missed : ¬ (observation.protectedState.newMultiplierEffectiveTimestamp - policy.beforeSecs ≤ now ∧
          now ≤ observation.protectedState.newMultiplierEffectiveTimestamp + policy.afterSecs) := inside
      rw [if_neg missed]
      simp [inside, pure_eq_ok]
/-- What evidence from an account says about it. -/
theorem observeMintAccount_decoded {account : RawMintAccount} {observation : ChainObservation}
    (observed : observeMintAccount account = .ok (.decoded observation)) :
    decodeProtectedState account.owner account.data = .ok observation.protectedState ∧
      observation.hasScheduledChange = ClientAbi.hasScheduledChange observation.protectedState ∧
      observation.chainUnixTimestamp = account.chainUnixTimestamp ∧
      observation.phase = account.chainUnixTimestamp.map (fun now => .number (phaseAt observation.protectedState now)) := by
  unfold observeMintAccount at observed
  split at observed
  · rename_i decoded run
    cases observed
    obtain ⟨state, stated, run⟩ := bind_eq_ok.mp run
    obtain ⟨metadata, _, run⟩ := bind_eq_ok.mp run
    cases run
    exact ⟨stated, rfl, rfl, rfl⟩
  · cases observed
  · cases observed
/-- The decoders throw errors of the client only. -/
theorem parseMintAccount_throws (owner : String) (data : List UInt8) :
    Throws JsError.IsGuardClientError (parseMintAccount owner data) := by
  by_cases token2022 : owner = TOKEN_2022_PROGRAM_ADDRESS.text
  · subst token2022
    rcases parseMintAccount_correct data with ⟨_, reads⟩ | ⟨_, message, refused⟩
    · cases walked : Token2022.tlv_entries (data.drop 166) with
      | none =>
        rw [walked] at reads
        obtain ⟨message, refused⟩ := reads
        rw [refused]
        exact .error trivial
      | some known =>
        rw [walked] at reads
        rcases reads with ⟨_, found, read, _⟩ | ⟨_, message, refused⟩
        · rw [read]
          exact .ok _
        · rw [refused]
          exact .error trivial
    · rw [refused]
      exact .error trivial
  · rw [parseMintAccount, refuse_if_bind, if_pos token2022]
    exact .error trivial
theorem decodeMintMetadata_throws (owner : String) (data : List UInt8) :
    Throws JsError.IsGuardClientError (decodeMintMetadata owner data) := by
  refine .bind (parseMintAccount_throws owner data) fun entries _ => .bind (.ok_or fun _ => trivial) fun decimals _ => ?_
  split
  · exact .ok _
  · exact .bind (.refuse_if fun _ => trivial) fun _ _ => .bind (.refuse_if fun _ => trivial) fun _ _ => .ok _
theorem decodeProtectedState_throws (owner : String) (data : List UInt8) :
    Throws JsError.IsGuardClientError (decodeProtectedState owner data) := by
  by_cases token2022 : owner = TOKEN_2022_PROGRAM_ADDRESS.text
  · subst token2022
    rcases decodeProtectedState_cases TOKEN_2022_PROGRAM_ADDRESS data with ⟨state, decoded⟩ | ⟨code, message, refused⟩
    · rw [decoded]
      exact .ok _
    · rw [refused]
      exact .error trivial
  · rw [decodeProtectedState, parseMintAccount, refuse_if_bind, if_pos token2022]
    exact .error trivial
/-- Every account is evidence of something. -/
theorem observeMintAccount_returns (account : RawMintAccount) : ∃ evidence, observeMintAccount account = .ok evidence := by
  have throws : Throws JsError.IsGuardClientError (decodeObservation account) :=
    .bind (decodeProtectedState_throws _ _) fun _ _ => .bind (decodeMintMetadata_throws _ _) fun _ _ => .ok _
  unfold observeMintAccount
  cases decoded : decodeObservation account with
  | ok observation => exact ⟨_, rfl⟩
  | error error =>
    have known := throws error decoded
    cases error with
    | GuardClientError code message guardError => exact ⟨_, rfl⟩
    | _ => exact known.elim
theorem windowBound_of {secs : Int} (low : 0 ≤ secs) (high : secs ≤ 2 ^ 32 - 1) :
    ∃ bound : UInt32, Number.ofInt secs = .ofInt bound.toNat ∧ secs = bound.toNat := by
  have bounded : WindowBound (.ofInt secs) := by
    refine ⟨secs.toNat, by rw [Int.toNat_of_nonneg low], by omega⟩
  obtain ⟨bound, same⟩ := (windowBound_iff _).mp bounded
  exact ⟨bound, same, Number.ofInt_injective same⟩
/-- A guard that is built from evidence accepts at the time of the evidence unless a change is
    scheduled and its window overflows or contains that time. -/
theorem check_built_iff (state : State.ProtectedState) (window : Instruction.ProtectionWindow) (now : I64) :
    Guard.check ⟨state, state.phase_at now, window⟩ state now = .ok () ↔
      state.has_scheduled_change = false ∨ (¬ window.Overflows state.new_multiplier_effective_timestamp ∧
        ¬ now.value ∈ state.schedule.window window.before_secs.toNat window.after_secs.toNat) := by
  have same := Guard.check_of_same ⟨state, state.phase_at now, window⟩ now
  dsimp only at same
  rw [same]
  by_cases scheduled : state.has_scheduled_change = false
  · simp [scheduled]
  · rw [if_neg scheduled]
    by_cases overflows : window.Overflows state.new_multiplier_effective_timestamp
    · rw [if_pos overflows]
      simp [scheduled, overflows]
    · rw [if_neg overflows]
      by_cases inside : now.value ∈ state.schedule.window window.before_secs.toNat window.after_secs.toNat
      · rw [if_pos inside]
        simp [scheduled, inside]
      · rw [if_neg inside, if_neg (by simp)]
        simp [overflows, inside]

/-- The classifier and the guard agree on an account exactly where the window does not leave `i64`
    unnoticed: nothing is scheduled, or both ends fit, or the time is inside anyway. -/
theorem classification_agrees_iff {account : RawMintAccount} {observation : ChainObservation}
    {policy : TransitionPolicy} {now : I64} (observed : observeMintAccount account = .ok (.decoded observation))
    (timed : account.chainUnixTimestamp = some now.value) (running : observation.paused ≠ some true)
    (before : 0 ≤ policy.beforeSecs ∧ policy.beforeSecs ≤ 2 ^ 32 - 1)
    (after : 0 ≤ policy.afterSecs ∧ policy.afterSecs ≤ 2 ^ 32 - 1) :
    ∃ boundState execution state,
      economicStateOf (some (.decoded observation)) = some boundState ∧
      ofExecution execution = deliveryExpectation boundState policy ∧
      ofProtectedState state = observation.protectedState ∧
      deliveryExpectation boundState policy = {
        expected := observation.protectedState
        expectedPhase := phaseAt observation.protectedState now.value
        window := ⟨.ofInt policy.beforeSecs, .ofInt policy.afterSecs⟩ } ∧
      (checkGuardOffline (deliveryExpectation boundState policy) observation.protectedState now.value = .ok none ↔
        Guard.check execution state now = .ok ()) ∧
      ((Safe (.decoded observation) policy ↔ Guard.check execution state now = .ok ()) ↔
        observation.hasScheduledChange = false ∨ Fits observation policy ∨ Inside observation policy now.value) := by
  obtain ⟨decoded, scheduledEq, timestamp, phase⟩ := observeMintAccount_decoded observed
  obtain ⟨state, stateEq⟩ := decodeProtectedState_valid decoded
  obtain ⟨lead, leadNumber, leadEq⟩ := windowBound_of before.1 before.2
  obtain ⟨lag, lagNumber, lagEq⟩ := windowBound_of after.1 after.2
  rw [timed] at timestamp phase
  let boundState : EconomicState := {
    mint := observation.mint
    decimals := observation.decimals
    multiplierHex := toHex observation.protectedState.multiplier
    newMultiplierHex := toHex observation.protectedState.newMultiplier
    effectiveTimestamp := observation.protectedState.newMultiplierEffectiveTimestamp
    phase := .number (phaseAt observation.protectedState now.value)
    paused := observation.paused }
  let execution : Instruction.AssertSafeExecution := ⟨state, state.phase_at now, ⟨lead, lag⟩⟩
  have expectation : deliveryExpectation boundState policy = {
      expected := observation.protectedState
      expectedPhase := phaseAt observation.protectedState now.value
      window := ⟨.ofInt policy.beforeSecs, .ofInt policy.afterSecs⟩ } := by
    unfold deliveryExpectation protectedStateOf
    rw [fromHex_toHex, fromHex_toHex]
    rfl
  have built : ofExecution execution = deliveryExpectation boundState policy := by
    rw [expectation, ofExecution, ofWindow, stateEq, ← leadNumber, ← lagNumber, ← stateEq, phaseAt_of]
  have activation : observation.protectedState.newMultiplierEffectiveTimestamp =
      state.new_multiplier_effective_timestamp.value := by rw [← stateEq]; rfl
  have scheduled : observation.hasScheduledChange = state.has_scheduled_change := by
    rw [scheduledEq, ← stateEq, hasScheduledChange_of]
  have inside : Inside observation policy now.value ↔
      now.value ∈ state.schedule.window lead.toNat lag.toNat := by
    unfold Inside
    rw [activation, leadEq, lagEq]
    rfl
  have fits : Fits observation policy ↔
      ¬ Instruction.ProtectionWindow.Overflows ⟨lead, lag⟩ state.new_multiplier_effective_timestamp := by
    unfold Fits Instruction.ProtectionWindow.Overflows
    rw [activation, leadEq, lagEq]
    dsimp only
    omega
  refine ⟨boundState, execution, state, by simp [economicStateOf, phase, boundState], built, stateEq, expectation, ?_, ?_⟩
  · rw [← built, ← stateEq, checkGuardOffline_of, Except.ok.injEq]
    exact verdict_eq_none
  · rw [safe_iff ⟨before.1, after.1⟩ running timestamp, check_built_iff, scheduled, fits, inside]
    tauto

/-- An account of the token program, read at second 0. -/
def accountWith (data : List UInt8) : RawMintAccount where
  mint := "XsMint"
  slot := none
  blockTime := none
  observedAt := none
  owner := Addresses.Address.text TOKEN_2022_PROGRAM_ADDRESS
  data
  chainUnixTimestamp := some 0
/-- What is observed of an account of the token program with no other extension. -/
def observationWith (state : State.ProtectedState) : ChainObservation where
  mint := "XsMint"
  slot := none
  blockTime := none
  observedAt := none
  chainUnixTimestamp := some 0
  decimals := .number (.ofInt (0 : Nat))
  paused := none
  protectedState := ofProtectedState state
  hasScheduledChange := ClientAbi.hasScheduledChange (ofProtectedState state)
  phase := some (.number (phaseAt (ofProtectedState state) 0))
theorem observe_accountWith {data : List UInt8} {state : State.ProtectedState}
    (decoded : decodeProtectedState (Addresses.Address.text TOKEN_2022_PROGRAM_ADDRESS) data = .ok (ofProtectedState state))
    (metadata : decodeMintMetadata (Addresses.Address.text TOKEN_2022_PROGRAM_ADDRESS) data = .ok ⟨0, none⟩) :
    observeMintAccount (accountWith data) = .ok (.decoded (observationWith state)) := by
  unfold observeMintAccount decodeObservation accountWith
  rw [decoded, ok_bind, metadata]
  rfl
def policyOf (beforeSecs afterSecs : Int) : TransitionPolicy := ⟨beforeSecs, afterSecs, .CALIBRATED, "test"⟩

theorem classification_agrees_iff_split :
    ∃ execution state, ofProtectedState state = ofProtectedState Guard.twoForOneSplit ∧
      (Safe (.decoded (observationWith Guard.twoForOneSplit)) (policyOf 10 10) ↔
        Guard.check execution state (I64.ofU32 0) = .ok ()) := by
  have observed : observeMintAccount (accountWith Guard.splitMint) = .ok (.decoded (observationWith Guard.twoForOneSplit)) :=
    observe_accountWith (by decide +kernel) (by decide +kernel)
  obtain ⟨boundState, execution, state, _, _, same, _, _, agrees⟩ := @classification_agrees_iff _ _ (policyOf 10 10)
    (I64.ofU32 0) observed rfl (by simp [observationWith]) (by decide) (by decide)
  have fits : Fits (observationWith Guard.twoForOneSplit) (policyOf 10 10) := by unfold Fits; decide
  exact ⟨execution, state, same, agrees.mpr (.inr (.inl fits))⟩
/-- A split at the last second that an `i64` can name. -/
def lastSecondSplit : State.ProtectedState :=
  { Guard.twoForOneSplit with new_multiplier_effective_timestamp := ⟨2 ^ 63 - 1, by decide, by decide⟩ }
def lastSecondMint : List UInt8 :=
  List.replicate 45 0 ++ [1] ++ List.replicate 119 0 ++ [1] ++ [25, 0, 56, 0] ++ List.replicate 32 0 ++
    [0, 0, 0, 0, 0, 0, 0xF0, 0x3F] ++ leBytes 8 (2 ^ 63 - 1) ++ [0, 0, 0, 0, 0, 0, 0x00, 0x40]
/-- The classifier calls it safe at second 0, and the guard built from the same observation overflows. -/
theorem classification_disagrees_lastSecond :
    observeMintAccount (accountWith lastSecondMint) = .ok (.decoded (observationWith lastSecondSplit)) ∧
      Safe (.decoded (observationWith lastSecondSplit)) (policyOf 0 1) ∧
      (∃ boundState, economicStateOf (some (.decoded (observationWith lastSecondSplit))) = some boundState ∧
        deliveryExpectation boundState (policyOf 0 1) = ofExecution ⟨lastSecondSplit, .Pending, ⟨0, 1⟩⟩) ∧
      Guard.check ⟨lastSecondSplit, .Pending, ⟨0, 1⟩⟩ lastSecondSplit (I64.ofU32 0) = .error .ArithmeticOverflow := by
  refine ⟨observe_accountWith (by decide +kernel) (by decide +kernel), ?_, ⟨_, rfl, by decide +kernel⟩, by decide +kernel⟩
  have outside : ¬ Inside (observationWith lastSecondSplit) (policyOf 0 1) 0 := by unfold Inside; decide +kernel
  exact (safe_iff (by decide) (by simp [observationWith]) rfl).mpr (.inr outside)

end EquityGuard.ChainObservation
