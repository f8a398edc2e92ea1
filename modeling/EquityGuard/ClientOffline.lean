import EquityGuard.ClientAbi
import EquityGuard.Guard

/-!
The execution-time policy once more, in the client library and in the browser
bundle. Both compute the window on unbounded integers and are compared with the
program's checked arithmetic.
-/
namespace EquityGuard.ClientOffline
open EquityGuard.Bytes EquityGuard.Binary64 EquityGuard.Client EquityGuard.ClientAbi EquityGuard.Errors
open EquityGuard.State (StoredMultiplier)

/-- `guard-client`'s mirror of the program's policy: the error a payload would hit, if any. -/
def checkGuardOffline (request : AssertSafeExecutionRequest) (actual : ProtectedState) (unixTimestamp : Int) :
    Js (Option EquityGuardError) :=
  let expected := request.expected
  if !bytesEqual actual.multiplier expected.multiplier then .ok (some .MultiplierChanged)
  else if !bytesEqual actual.newMultiplier expected.newMultiplier then .ok (some .NewMultiplierChanged)
  else if actual.newMultiplierEffectiveTimestamp ≠ expected.newMultiplierEffectiveTimestamp then
    .ok (some .EffectiveTimestampChanged)
  else if !hasScheduledChange actual then .ok none
  else do
    let t := actual.newMultiplierEffectiveTimestamp
    let start := t - (← BigInt request.window.beforeSecs)
    let finish := t + (← BigInt request.window.afterSecs)
    if start < I64_MIN ∨ finish > I64_MAX then return some .ArithmeticOverflow
    else if start ≤ unixTimestamp ∧ unixTimestamp ≤ finish then return some .InsideTransitionWindow
    else if ¬ Number.strictEq (phaseAt actual unixTimestamp) request.expectedPhase then
      return some .ActivationPhaseChanged
    else return none

/-! ### The browser's copy -/

namespace Browser

def I64_MIN : Int := -(1 <<< 63)
def I64_MAX : Int := (1 <<< 63) - 1
def bytesEqual (left right : List UInt8) : Bool := decide (left = right)
def hasScheduledChange (state : ProtectedState) : Bool := !bytesEqual state.multiplier state.newMultiplier
def phaseAt (state : ProtectedState) (unixTimestamp : Int) : Number :=
  if unixTimestamp ≥ state.newMultiplierEffectiveTimestamp then ActivationPhase.Activated else ActivationPhase.Pending
/-- The policy as `apps/web` repeats it. -/
def checkGuardOffline (request : AssertSafeExecutionRequest) (actual : ProtectedState) (unixTimestamp : Int) :
    Js (Option EquityGuardError) :=
  if !bytesEqual actual.multiplier request.expected.multiplier then .ok (some .MultiplierChanged)
  else if !bytesEqual actual.newMultiplier request.expected.newMultiplier then .ok (some .NewMultiplierChanged)
  else if actual.newMultiplierEffectiveTimestamp ≠ request.expected.newMultiplierEffectiveTimestamp then
    .ok (some .EffectiveTimestampChanged)
  else if !hasScheduledChange actual then .ok none
  else do
    let start := actual.newMultiplierEffectiveTimestamp - (← BigInt request.window.beforeSecs)
    let finish := actual.newMultiplierEffectiveTimestamp + (← BigInt request.window.afterSecs)
    if start < I64_MIN ∨ finish > I64_MAX then return some .ArithmeticOverflow
    else if start ≤ unixTimestamp ∧ unixTimestamp ≤ finish then return some .InsideTransitionWindow
    else if ¬ Number.strictEq (phaseAt actual unixTimestamp) request.expectedPhase then
      return some .ActivationPhaseChanged
    else return none

/-- The copy has not drifted. -/
theorem checkGuardOffline_eq : checkGuardOffline = ClientOffline.checkGuardOffline := by
  have least : I64_MIN = ClientAbi.I64_MIN := by decide
  have greatest : I64_MAX = ClientAbi.I64_MAX := by decide
  unfold checkGuardOffline ClientOffline.checkGuardOffline
  rw [least, greatest]
  rfl

end Browser

/-! ### Agreement with the program -/

/-- The client's reading of the program's result. -/
def verdict : Checked Unit → Option EquityGuardError
  | .ok () => none
  | .error error => some error

theorem verdict_eq_none {result : Checked Unit} : verdict result = none ↔ result = .ok () := by
  match result with
  | .ok () => simp [verdict]
  | .error error => simp [verdict]
theorem bytesEqual_to_bytes (left right : StoredMultiplier) :
    bytesEqual left.to_bytes.bytes right.to_bytes.bytes = decide (left = right) := by
  have same : left.to_bytes.bytes = right.to_bytes.bytes ↔ left = right := by
    rw [StoredMultiplier.ext_iff, Chunk.ext_iff]
    rfl
  rw [bytesEqual, decide_eq_decide]
  exact same
theorem hasScheduledChange_of (state : State.ProtectedState) :
    hasScheduledChange (ofProtectedState state) = state.has_scheduled_change := by
  rw [hasScheduledChange, State.ProtectedState.has_scheduled_change, decide_not, ← bytesEqual_to_bytes]
  rfl
theorem phaseAt_of (state : State.ProtectedState) (now : I64) :
    phaseAt (ofProtectedState state) now.value = .ofInt (state.phase_at now).as_u8.toNat := by
  by_cases activated : now.value ≥ state.new_multiplier_effective_timestamp.value
  · rw [phaseAt, State.ProtectedState.phase_at, if_pos activated]
    exact if_pos activated
  · rw [phaseAt, State.ProtectedState.phase_at, if_neg activated]
    exact if_neg activated
theorem phase_strictEq (one two : State.ActivationPhase) :
    Number.strictEq (.ofInt one.as_u8.toNat) (.ofInt two.as_u8.toNat) = decide (one = two) := by
  cases one <;> cases two <;> decide

/-- The clock half: unbounded bounds compared with the limits of `i64` are checked bounds. -/
theorem checkGuardOffline_of_same (execution : Instruction.AssertSafeExecution) (now : I64) :
    checkGuardOffline (ofExecution execution) (ofProtectedState execution.expected) now.value =
      .ok (verdict (Guard.check execution execution.expected now)) := by
  have overflow : (execution.expected.new_multiplier_effective_timestamp.value - execution.window.before_secs.toNat <
        I64_MIN ∨
      execution.expected.new_multiplier_effective_timestamp.value + execution.window.after_secs.toNat > I64_MAX) ↔
      execution.window.Overflows execution.expected.new_multiplier_effective_timestamp := by
    simp only [I64_MIN, I64_MAX, Instruction.ProtectionWindow.Overflows]
    omega
  have inside : (execution.expected.new_multiplier_effective_timestamp.value - execution.window.before_secs.toNat ≤
        now.value ∧
      now.value ≤ execution.expected.new_multiplier_effective_timestamp.value + execution.window.after_secs.toNat) ↔
      now.value ∈ execution.expected.schedule.window execution.window.before_secs.toNat
        execution.window.after_secs.toNat := Iff.rfl
  have timestamp : (ofProtectedState execution.expected).newMultiplierEffectiveTimestamp =
      execution.expected.new_multiplier_effective_timestamp.value := rfl
  rw [Guard.check_of_same]
  simp only [checkGuardOffline, ofExecution, bytesEqual, decide_true, Bool.not_true, Bool.false_eq_true, ↓reduceIte,
    ne_eq, not_true_eq_false, hasScheduledChange_of, ofWindow, BigInt_ofInt, phaseAt_of, phase_strictEq,
    decide_eq_true_eq, timestamp, bind, Except.bind, overflow, inside]
  cases execution.expected.has_scheduled_change with
  | false => rfl
  | true =>
    simp only [Bool.not_true, Bool.false_eq_true, Bool.true_eq_false, ↓reduceIte]
    split
    · rfl
    · split
      · rfl
      · split
        · rfl
        · rfl
/-- A window the ABI can carry is all that is needed for an answer. -/
theorem checkGuardOffline_returns {request : AssertSafeExecutionRequest} (before : WindowBound request.window.beforeSecs)
    (after : WindowBound request.window.afterSecs) (actual : ProtectedState) (unixTimestamp : Int) :
    ∃ answer, checkGuardOffline request actual unixTimestamp = .ok answer := by
  obtain ⟨lead, leadEq, _⟩ := before
  obtain ⟨lag, lagEq, _⟩ := after
  unfold checkGuardOffline
  simp only [leadEq, lagEq, BigInt_ofInt, ok_bind]
  split_ifs <;> exact ⟨_, rfl⟩
/-- Acceptance means the stored fields are the expected ones, in the expected phase if that matters. -/
theorem checkGuardOffline_accepts {request : AssertSafeExecutionRequest} {actual : ProtectedState} {unixTimestamp : Int}
    (accepted : checkGuardOffline request actual unixTimestamp = .ok none) :
    actual = request.expected ∧
      (hasScheduledChange actual = true → phaseAt actual unixTimestamp = request.expectedPhase) := by
  unfold checkGuardOffline at accepted
  dsimp only at accepted
  split at accepted
  · cases accepted
  rename_i multiplier
  split at accepted
  · cases accepted
  rename_i newMultiplier
  split at accepted
  · cases accepted
  rename_i timestamp
  have same : actual = request.expected := by
    obtain ⟨first, next, at_⟩ := actual
    simp only [bytesEqual, Bool.not_eq_true', decide_eq_false_iff_not, not_not, ne_eq] at multiplier newMultiplier timestamp
    rw [ProtectedState.mk.injEq]
    exact ⟨multiplier, newMultiplier, timestamp⟩
  refine ⟨same, fun scheduled => ?_⟩
  rw [scheduled, Bool.not_true, if_neg Bool.false_ne_true] at accepted
  obtain ⟨before, _, accepted⟩ := bind_eq_ok.mp accepted
  obtain ⟨after, _, accepted⟩ := bind_eq_ok.mp accepted
  split at accepted
  · cases accepted
  split at accepted
  · cases accepted
  split at accepted
  · cases accepted
  · rename_i phase
    rw [not_not] at phase
    exact ((Number.strictEq_iff _ _).mp phase).1
theorem checkGuardOffline_of (execution : Instruction.AssertSafeExecution) (state : State.ProtectedState) (now : I64) :
    checkGuardOffline (ofExecution execution) (ofProtectedState state) now.value =
      .ok (verdict (Guard.check execution state now)) := by
  by_cases multiplier : state.multiplier = execution.expected.multiplier
  · by_cases newMultiplier : state.new_multiplier = execution.expected.new_multiplier
    · by_cases timestamp : state.new_multiplier_effective_timestamp =
          execution.expected.new_multiplier_effective_timestamp
      · obtain rfl : state = execution.expected := State.ProtectedState.ext multiplier newMultiplier timestamp
        exact checkGuardOffline_of_same execution now
      · have otherTimestamp : state.new_multiplier_effective_timestamp.value ≠
            execution.expected.new_multiplier_effective_timestamp.value := mt I64.ext timestamp
        simp [checkGuardOffline, ofExecution, ofProtectedState, bytesEqual, Guard.check, verdict, multiplier,
          newMultiplier, timestamp, otherTimestamp]
    · have otherBytes := bytesEqual_to_bytes state.new_multiplier execution.expected.new_multiplier
      simp only [newMultiplier, decide_false] at otherBytes
      simp [checkGuardOffline, ofExecution, ofProtectedState, multiplier, bytesEqual_to_bytes, otherBytes, Guard.check,
        verdict, newMultiplier]
  · have otherBytes := bytesEqual_to_bytes state.multiplier execution.expected.multiplier
    simp only [multiplier, decide_false] at otherBytes
    simp [checkGuardOffline, ofExecution, ofProtectedState, otherBytes, Guard.check, verdict, multiplier]

/-- The three copies of the policy give one verdict on everything ABI v2 can represent. -/
theorem offline_checks_correct (request : AssertSafeExecutionRequest) (actual : ProtectedState) (now : I64)
    (representable : request.Representable) (valid : actual.Valid) :
    ∃ execution state, ofExecution execution = request ∧ ofProtectedState state = actual ∧
      checkGuardOffline request actual now.value = .ok (verdict (Guard.check execution state now)) ∧
      Browser.checkGuardOffline request actual now.value = .ok (verdict (Guard.check execution state now)) := by
  obtain ⟨execution, rfl⟩ := (execution_representable_iff request).mp representable
  obtain ⟨state, rfl⟩ := (valid_iff actual).mp valid
  have agreed := checkGuardOffline_of execution state now
  exact ⟨execution, state, rfl, rfl, agreed, by rw [Browser.checkGuardOffline_eq, agreed]⟩
/-- A split scheduled at the least `i64`, where any lead overflows. -/
def splitAtLimit : State.ProtectedState :=
  { Guard.twoForOneSplit with new_multiplier_effective_timestamp := ⟨-2 ^ 63, by decide, by decide⟩ }
theorem offline_checks_correct_overflow :
    ∃ execution state,
      checkGuardOffline ⟨ofProtectedState splitAtLimit, 0, ⟨1, 1⟩⟩ (ofProtectedState splitAtLimit) 0 =
        .ok (verdict (Guard.check execution state (I64.ofU32 0))) ∧
      Browser.checkGuardOffline ⟨ofProtectedState splitAtLimit, 0, ⟨1, 1⟩⟩ (ofProtectedState splitAtLimit) 0 =
        .ok (verdict (Guard.check execution state (I64.ofU32 0))) ∧
      verdict (Guard.check execution state (I64.ofU32 0)) = some .ArithmeticOverflow := by
  have representable : AssertSafeExecutionRequest.Representable ⟨ofProtectedState splitAtLimit, 0, ⟨1, 1⟩⟩ :=
    (execution_representable_iff _).mpr ⟨⟨splitAtLimit, .Pending, ⟨1, 1⟩⟩, rfl⟩
  have valid : (ofProtectedState splitAtLimit).Valid := (valid_iff _).mpr ⟨splitAtLimit, rfl⟩
  have evaluated : checkGuardOffline ⟨ofProtectedState splitAtLimit, 0, ⟨1, 1⟩⟩ (ofProtectedState splitAtLimit) 0 =
      .ok (some .ArithmeticOverflow) := by decide
  obtain ⟨execution, state, _, _, client, browser⟩ :=
    offline_checks_correct _ _ (I64.ofU32 0) representable valid
  exact ⟨execution, state, client, browser, Except.ok.inj (client.symm.trans evaluated)⟩

end EquityGuard.ClientOffline
