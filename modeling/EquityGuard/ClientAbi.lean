import EquityGuard.Client
import EquityGuard.Instruction

/-!
The client's half of ABI v2: its own types, its reading of a stored multiplier and
its encoder, which writes ten fields at fixed offsets. Both directions of the
layout are proved to be inverse to the program's sequential decoder.
-/
namespace EquityGuard.ClientAbi
open EquityGuard.Addresses EquityGuard.Binary64 EquityGuard.Bytes EquityGuard.Client EquityGuard.Errors
open EquityGuard.State (StoredMultiplier)

def ABI_VERSION_V2 : UInt8 := 2
def ASSERT_SAFE_EXECUTION_V2_LEN : Nat := 99
def MULTIPLIER_LEN : Nat := 8
def I64_MIN : Int := -(2 ^ 63)
def I64_MAX : Int := 2 ^ 63 - 1
def U32_MAX : Number := .ofInt (2 ^ 32 - 1)
/-- The literal `2.2250738585072014e-308`, which rounds to `2^-1022`. -/
def MIN_POSITIVE_NORMAL_F64 : Number := .finite (1 / 2 ^ 1022)
-- The literal is less than half a unit in the last place away.
example : |(22250738585072014 * 2 ^ 1022 - 10 ^ 324 : Int)| * 2 ^ 53 < 10 ^ 324 := by decide +kernel

namespace DownstreamAdapterKind
def TOKEN_2022_TRANSFER_CHECKED : Number := 1
def JUPITER_ROUTE_V2_BUY_USDC : Number := 2
def JUPITER_ROUTE_V2_SELL_USDC : Number := 3
def values : List Number := [TOKEN_2022_TRANSFER_CHECKED, JUPITER_ROUTE_V2_BUY_USDC, JUPITER_ROUTE_V2_SELL_USDC]
end DownstreamAdapterKind

namespace ActivationPhase
def Pending : Number := 0
def Activated : Number := 1
end ActivationPhase

structure ProtectedState where
  multiplier : List UInt8
  newMultiplier : List UInt8
  newMultiplierEffectiveTimestamp : Int
deriving DecidableEq

structure ProtectionWindow where
  beforeSecs : Number
  afterSecs : Number
deriving DecidableEq

structure AssertSafeExecutionRequest where
  expected : ProtectedState
  expectedPhase : Number
  window : ProtectionWindow
deriving DecidableEq

structure AssertSafeExecutionV2Request extends AssertSafeExecutionRequest where
  expectedMint : String
  adapterKind : Number
  downstreamCommitment : List UInt8
deriving DecidableEq

def isValidStoredMultiplier (bytes : List UInt8) : Bool :=
  if bytes.length ≠ MULTIPLIER_LEN then false
  else
    -- a `getFloat64` of the whole array
    let value := ofBits (leNat bytes)
    value.isFinite && Number.le MIN_POSITIVE_NORMAL_F64 value
def bytesEqual (a b : List UInt8) : Bool := decide (a = b)
def hasScheduledChange (state : ProtectedState) : Bool := !bytesEqual state.multiplier state.newMultiplier
def phaseAt (state : ProtectedState) (unixTimestamp : Int) : Number :=
  if unixTimestamp ≥ state.newMultiplierEffectiveTimestamp then ActivationPhase.Activated else ActivationPhase.Pending
def isValidWindowSecs (secs : Number) : Bool := secs.isInteger && Number.le 0 secs && Number.le secs U32_MAX
def isDownstreamAdapterKind (value : Number) : Bool := DownstreamAdapterKind.values.any (Number.strictEq · value)

/-- Encodes and validates an ABI v2 instruction payload. -/
def encodeAssertSafeExecutionV2 (request : AssertSafeExecutionV2Request) : Js (List UInt8) := do
  let expected := request.expected
  refuse_if (¬ isValidStoredMultiplier expected.multiplier ∨ ¬ isValidStoredMultiplier expected.newMultiplier)
    (.GuardClientError .InvalidExpectedState ["multipliers must be 8 bytes encoding a positive normal f64"] none)
  let timestamp := expected.newMultiplierEffectiveTimestamp
  refuse_if (timestamp < I64_MIN ∨ timestamp > I64_MAX)
    (.GuardClientError .InvalidExpectedState ["effective timestamp outside i64 range"] none)
  refuse_if (¬ Number.strictEq request.expectedPhase ActivationPhase.Pending ∧
      ¬ Number.strictEq request.expectedPhase ActivationPhase.Activated)
    (.GuardClientError .InvalidExpectedState ["unknown activation phase ", request.expectedPhase] none)
  refuse_if (¬ isValidWindowSecs request.window.beforeSecs)
    (.GuardClientError .InvalidProtectionWindow ["beforeSecs", " must be a u32"] none)
  refuse_if (¬ isValidWindowSecs request.window.afterSecs)
    (.GuardClientError .InvalidProtectionWindow ["afterSecs", " must be a u32"] none)
  refuse_if (¬ isDownstreamAdapterKind request.adapterKind)
    (.GuardClientError .InvalidDownstream ["unsupported adapter kind ", request.adapterKind] none)
  refuse_if (request.downstreamCommitment.length ≠ 32)
    (.GuardClientError .InvalidDownstream ["downstream commitment must be 32 bytes"] none)
  let mint ← encodeAddress request.expectedMint
  let out ← set (List.replicate ASSERT_SAFE_EXECUTION_V2_LEN 0) [ABI_VERSION_V2] 0
  let out ← set out mint.bytes 1
  let out ← set out expected.multiplier 33
  let out ← set out expected.newMultiplier 41
  let out ← set out (leBytes 8 (timestamp % 2 ^ 64).toNat) 49
  let out ← set out [UInt8.ofNat (toUint 8 request.expectedPhase)] 57
  let out ← set out (leBytes 4 (toUint 32 request.window.beforeSecs)) 58
  let out ← set out (leBytes 4 (toUint 32 request.window.afterSecs)) 62
  let out ← set out [UInt8.ofNat (toUint 8 request.adapterKind)] 66
  set out request.downstreamCommitment 67

/-! ### Representable requests -/

def ProtectedState.Valid (state : ProtectedState) : Prop :=
  (∃ bytes : Chunk 8, bytes.bytes = state.multiplier ∧ (StoredMultiplier.new bytes).isSome = true) ∧
  (∃ bytes : Chunk 8, bytes.bytes = state.newMultiplier ∧ (StoredMultiplier.new bytes).isSome = true) ∧
  -2 ^ 63 ≤ state.newMultiplierEffectiveTimestamp ∧ state.newMultiplierEffectiveTimestamp ≤ 2 ^ 63 - 1
/-- An integer number of seconds in `[0, 2^32 - 1]`. -/
def WindowBound (secs : Number) : Prop := ∃ whole : Nat, secs = .ofInt whole ∧ whole ≤ 2 ^ 32 - 1
def AssertSafeExecutionRequest.Representable (request : AssertSafeExecutionRequest) : Prop :=
  request.expected.Valid ∧ (request.expectedPhase = 0 ∨ request.expectedPhase = 1) ∧
  WindowBound request.window.beforeSecs ∧ WindowBound request.window.afterSecs
def AssertSafeExecutionV2Request.Representable (request : AssertSafeExecutionV2Request) : Prop :=
  request.toAssertSafeExecutionRequest.Representable ∧
  (request.adapterKind = 1 ∨ request.adapterKind = 2 ∨ request.adapterKind = 3) ∧
  request.downstreamCommitment.length = 32 ∧ isAddress request.expectedMint = true

/-! ### The program's values as the client writes them -/

def ofProtectedState (state : State.ProtectedState) : ProtectedState where
  multiplier := state.multiplier.to_bytes.bytes
  newMultiplier := state.new_multiplier.to_bytes.bytes
  newMultiplierEffectiveTimestamp := state.new_multiplier_effective_timestamp.value
def ofWindow (window : Instruction.ProtectionWindow) : ProtectionWindow where
  beforeSecs := .ofInt window.before_secs.toNat
  afterSecs := .ofInt window.after_secs.toNat
def ofExecution (execution : Instruction.AssertSafeExecution) : AssertSafeExecutionRequest where
  expected := ofProtectedState execution.expected
  expectedPhase := .ofInt execution.expected_phase.as_u8.toNat
  window := ofWindow execution.window
def ofRequest (request : Instruction.AssertSafeExecutionV2) : AssertSafeExecutionV2Request where
  toAssertSafeExecutionRequest := ofExecution request.execution
  expectedMint := (Address.ofKey request.expected_mint).text
  adapterKind := .ofInt request.adapter.as_u8.toNat
  downstreamCommitment := request.downstream_commitment.bytes

@[simp] theorem ofProtectedState_multiplier_length (state : State.ProtectedState) :
    (ofProtectedState state).multiplier.length = 8 := state.multiplier.to_bytes.size_eq
@[simp] theorem ofProtectedState_newMultiplier_length (state : State.ProtectedState) :
    (ofProtectedState state).newMultiplier.length = 8 := state.new_multiplier.to_bytes.size_eq

/-! ### Each check recognises the program's values -/

theorem isValidStoredMultiplier_chunk (bytes : Chunk 8) :
    isValidStoredMultiplier bytes.bytes = (StoredMultiplier.new bytes).isSome := by
  rw [Bool.eq_iff_iff, StoredMultiplier.new_isSome, ← positive_normal_iff]
  simp [isValidStoredMultiplier, MULTIPLIER_LEN, MIN_POSITIVE_NORMAL_F64]
theorem isValidStoredMultiplier_iff (bytes : List UInt8) :
    isValidStoredMultiplier bytes = true ↔ ∃ multiplier : StoredMultiplier, multiplier.to_bytes.bytes = bytes := by
  constructor
  · intro valid
    by_cases size : bytes.length = 8
    · have chunk := isValidStoredMultiplier_chunk ⟨bytes, size⟩
      obtain ⟨multiplier, made⟩ := Option.isSome_iff_exists.mp (chunk.symm.trans valid)
      exact ⟨multiplier, congrArg Chunk.bytes (StoredMultiplier.new_eq_some.mp made)⟩
    · simp [isValidStoredMultiplier, MULTIPLIER_LEN, size] at valid
  · rintro ⟨multiplier, rfl⟩
    rw [isValidStoredMultiplier_chunk, StoredMultiplier.new_to_bytes]
    rfl
theorem windowBound_iff (secs : Number) : WindowBound secs ↔ ∃ bound : UInt32, secs = .ofInt bound.toNat := by
  constructor
  · rintro ⟨whole, rfl, small⟩
    have below : whole < UInt32.size := Nat.lt_of_le_of_lt small (by decide)
    have kept : (UInt32.ofNat whole).toNat = whole := UInt32.toNat_ofNat_of_lt below
    exact ⟨UInt32.ofNat whole, by rw [kept]⟩
  · rintro ⟨bound, rfl⟩
    have small := bound.toNat_lt
    exact ⟨bound.toNat, rfl, by omega⟩
theorem isValidWindowSecs_iff (secs : Number) : isValidWindowSecs secs = true ↔ WindowBound secs := by
  constructor
  · intro valid
    simp only [isValidWindowSecs, Bool.and_eq_true] at valid
    obtain ⟨⟨integer, lower⟩, upper⟩ := valid
    obtain ⟨value, rfl⟩ := Number.eq_ofInt_of_isInteger integer
    have nonneg : 0 ≤ value := of_decide_eq_true ((Number.le_ofInt 0 value).symm.trans lower)
    have small : value ≤ 2 ^ 32 - 1 := of_decide_eq_true ((Number.le_ofInt value (2 ^ 32 - 1)).symm.trans upper)
    refine ⟨value.toNat, ?_, by omega⟩
    rw [Int.toNat_of_nonneg nonneg]
  · rintro ⟨whole, rfl, small⟩
    have lower : Number.le (.ofInt 0) (.ofInt whole) = true :=
      (Number.le_ofInt 0 whole).trans (decide_eq_true (Int.natCast_nonneg whole))
    have upper : Number.le (.ofInt whole) (.ofInt (2 ^ 32 - 1)) = true :=
      (Number.le_ofInt whole (2 ^ 32 - 1)).trans (decide_eq_true (by omega))
    rw [isValidWindowSecs, Number.isInteger_ofInt, Bool.true_and, Bool.and_eq_true]
    exact ⟨lower, upper⟩
theorem phase_iff (phase : Number) :
    (phase = 0 ∨ phase = 1) ↔ ∃ known : State.ActivationPhase, phase = .ofInt known.as_u8.toNat := by
  constructor
  · rintro (pending | activated)
    · exact ⟨.Pending, pending⟩
    · exact ⟨.Activated, activated⟩
  · rintro ⟨known, same⟩
    cases known with
    | Pending => exact .inl same
    | Activated => exact .inr same
theorem kind_iff (kind : Number) :
    (kind = 1 ∨ kind = 2 ∨ kind = 3) ↔
      ∃ known : Instruction.DownstreamAdapter, kind = .ofInt known.as_u8.toNat := by
  constructor
  · rintro (transfer | buy | sell)
    · exact ⟨.Token2022TransferChecked, transfer⟩
    · exact ⟨.JupiterRouteV2BuyUsdc, buy⟩
    · exact ⟨.JupiterRouteV2SellUsdc, sell⟩
  · rintro ⟨known, same⟩
    cases known with
    | Token2022TransferChecked => exact .inl same
    | JupiterRouteV2BuyUsdc => exact .inr (.inl same)
    | JupiterRouteV2SellUsdc => exact .inr (.inr same)
theorem isDownstreamAdapterKind_iff (kind : Number) :
    isDownstreamAdapterKind kind = true ↔ kind = 1 ∨ kind = 2 ∨ kind = 3 := by
  have known : ∀ number ∈ DownstreamAdapterKind.values, number ≠ .nan := by decide
  have listed : kind ∈ DownstreamAdapterKind.values ↔ kind = 1 ∨ kind = 2 ∨ kind = 3 := by
    simp only [DownstreamAdapterKind.values, DownstreamAdapterKind.TOKEN_2022_TRANSFER_CHECKED,
      DownstreamAdapterKind.JUPITER_ROUTE_V2_BUY_USDC, DownstreamAdapterKind.JUPITER_ROUTE_V2_SELL_USDC,
      List.mem_cons, List.not_mem_nil, or_false]
  rw [isDownstreamAdapterKind, List.any_eq_true, ← listed]
  constructor
  · rintro ⟨value, member, same⟩
    obtain ⟨rfl, _⟩ := (Number.strictEq_iff _ _).mp same
    exact member
  · intro member
    exact ⟨kind, member, (Number.strictEq_iff _ _).mpr ⟨rfl, known kind member⟩⟩

/-! ### The encoder -/

theorem valid_iff (state : ProtectedState) : state.Valid ↔ ∃ known : State.ProtectedState, ofProtectedState known = state := by
  constructor
  · rintro ⟨⟨multiplier, multiplierEq, usable⟩, ⟨newMultiplier, newMultiplierEq, newUsable⟩, lower, upper⟩
    obtain ⟨stored, storedEq⟩ := Option.isSome_iff_exists.mp usable
    obtain ⟨newStored, newStoredEq⟩ := Option.isSome_iff_exists.mp newUsable
    refine ⟨⟨stored, newStored, ⟨state.newMultiplierEffectiveTimestamp, lower, by omega⟩⟩, ?_⟩
    rw [ofProtectedState, StoredMultiplier.to_bytes, StoredMultiplier.to_bytes, StoredMultiplier.new_eq_some.mp storedEq,
      StoredMultiplier.new_eq_some.mp newStoredEq, multiplierEq, newMultiplierEq]
  · rintro ⟨known, rfl⟩
    have lower := known.new_multiplier_effective_timestamp.lower
    have upper := known.new_multiplier_effective_timestamp.upper
    exact ⟨⟨known.multiplier.to_bytes, rfl, by simp⟩, ⟨known.new_multiplier.to_bytes, rfl, by simp⟩, lower,
      Int.le_sub_one_of_lt upper⟩
theorem execution_representable_iff (request : AssertSafeExecutionRequest) :
    request.Representable ↔ ∃ execution, ofExecution execution = request := by
  constructor
  · rintro ⟨valid, phase, before, after⟩
    obtain ⟨expected, expectedEq⟩ := (valid_iff _).mp valid
    obtain ⟨known, phaseEq⟩ := (phase_iff _).mp phase
    obtain ⟨lead, leadEq⟩ := (windowBound_iff _).mp before
    obtain ⟨lag, lagEq⟩ := (windowBound_iff _).mp after
    refine ⟨⟨expected, known, ⟨lead, lag⟩⟩, ?_⟩
    rw [ofExecution, ofWindow, expectedEq, ← phaseEq, ← leadEq, ← lagEq]
  · rintro ⟨execution, rfl⟩
    exact ⟨(valid_iff _).mpr ⟨_, rfl⟩, (phase_iff _).mpr ⟨_, rfl⟩, (windowBound_iff _).mpr ⟨_, rfl⟩,
      (windowBound_iff _).mpr ⟨_, rfl⟩⟩
theorem representable_iff (request : AssertSafeExecutionV2Request) :
    request.Representable ↔ ∃ known, ofRequest known = request := by
  constructor
  · rintro ⟨execution, kind, commitment, mint⟩
    obtain ⟨known, knownEq⟩ := (execution_representable_iff _).mp execution
    obtain ⟨adapter, adapterEq⟩ := (kind_iff _).mp kind
    refine ⟨⟨(Address.mk request.expectedMint mint).key, known, adapter, ⟨request.downstreamCommitment, commitment⟩⟩, ?_⟩
    rw [ofRequest, knownEq, Address.ofKey_key, ← adapterEq]
  · rintro ⟨known, rfl⟩
    exact ⟨(execution_representable_iff _).mpr ⟨_, rfl⟩, (kind_iff _).mpr ⟨_, rfl⟩, known.downstream_commitment.size_eq,
      (Address.ofKey known.expected_mint).valid⟩

/-- The encoder refuses every request the program has no value for. -/
theorem representable_of_encoded {request : AssertSafeExecutionV2Request} {bytes : List UInt8}
    (encoded : encodeAssertSafeExecutionV2 request = .ok bytes) : request.Representable := by
  simp only [encodeAssertSafeExecutionV2, bind_eq_ok, refuse_if_eq_ok, exists_const, not_or, not_and, not_not,
    not_lt] at encoded
  obtain ⟨⟨multiplier, newMultiplier⟩, ⟨lower, upper⟩, phase, before, after, kind, commitment, key, mint, _⟩ := encoded
  obtain ⟨stored, storedEq⟩ := (isValidStoredMultiplier_iff _).mp multiplier
  obtain ⟨newStored, newStoredEq⟩ := (isValidStoredMultiplier_iff _).mp newMultiplier
  have phaseKnown : request.expectedPhase = 0 ∨ request.expectedPhase = 1 := by
    by_cases pending : Number.strictEq request.expectedPhase ActivationPhase.Pending = true
    · exact .inl ((Number.strictEq_iff _ _).mp pending).1
    · exact .inr ((Number.strictEq_iff _ _).mp (phase pending)).1
  have address : isAddress request.expectedMint = true := by
    rw [encodeAddress_eq_ok.mp mint]
    exact (Address.ofKey key).valid
  refine ⟨⟨⟨⟨stored.to_bytes, storedEq, by simp⟩, ⟨newStored.to_bytes, newStoredEq, by simp⟩, lower, upper⟩, phaseKnown,
    (isValidWindowSecs_iff _).mp before, (isValidWindowSecs_iff _).mp after⟩,
    (isDownstreamAdapterKind_iff _).mp kind, commitment, address⟩
/-- Every write lands where the sequential layout puts the field. -/
theorem encode_ofRequest (request : Instruction.AssertSafeExecutionV2) :
    encodeAssertSafeExecutionV2 (ofRequest request) = .ok request.pack := by
  obtain ⟨⟨⟨_, _, lower, upper⟩, phase, before, after⟩, kind, commitment, _⟩ :=
    (representable_iff (ofRequest request)).mpr ⟨request, rfl⟩
  have multiplier : isValidStoredMultiplier (ofRequest request).expected.multiplier = true :=
    (isValidStoredMultiplier_iff _).mpr ⟨_, rfl⟩
  have newMultiplier : isValidStoredMultiplier (ofRequest request).expected.newMultiplier = true :=
    (isValidStoredMultiplier_iff _).mpr ⟨_, rfl⟩
  have mint : encodeAddress (ofRequest request).expectedMint = .ok request.expected_mint :=
    encodeAddress_eq_ok.mpr rfl
  have phaseByte : UInt8.ofNat (toUint 8 (ofRequest request).expectedPhase) = request.execution.expected_phase.as_u8 := by
    rw [ofRequest, ofExecution, toUint_ofNat (UInt8.toNat_lt _), UInt8.ofNat_toNat]
  have kindByte : UInt8.ofNat (toUint 8 (ofRequest request).adapterKind) = request.adapter.as_u8 := by
    rw [ofRequest, toUint_ofNat (UInt8.toNat_lt _), UInt8.ofNat_toNat]
  have beforeBytes : leBytes 4 (toUint 32 (ofRequest request).window.beforeSecs) =
      (u32_to_le_bytes request.execution.window.before_secs).bytes := by
    rw [ofRequest, ofExecution, ofWindow, toUint_ofNat (UInt32.toNat_lt _)]
    rfl
  have afterBytes : leBytes 4 (toUint 32 (ofRequest request).window.afterSecs) =
      (u32_to_le_bytes request.execution.window.after_secs).bytes := by
    rw [ofRequest, ofExecution, ofWindow, toUint_ofNat (UInt32.toNat_lt _)]
    rfl
  have fields : (ofRequest request).expected = ofProtectedState request.execution.expected := rfl
  unfold encodeAssertSafeExecutionV2
  refine bind_eq_ok.mpr ⟨(), refuse_if_eq_ok.mpr (by simp [multiplier, newMultiplier]), ?_⟩
  refine bind_eq_ok.mpr ⟨(), refuse_if_eq_ok.mpr (by simp only [I64_MIN, I64_MAX]; omega), ?_⟩
  refine bind_eq_ok.mpr ⟨(), refuse_if_eq_ok.mpr (by rcases phase with same | same <;> simp [same] <;> decide), ?_⟩
  refine bind_eq_ok.mpr ⟨(), refuse_if_eq_ok.mpr (by simpa using (isValidWindowSecs_iff _).mpr before), ?_⟩
  refine bind_eq_ok.mpr ⟨(), refuse_if_eq_ok.mpr (by simpa using (isValidWindowSecs_iff _).mpr after), ?_⟩
  refine bind_eq_ok.mpr ⟨(), refuse_if_eq_ok.mpr (by simpa using (isDownstreamAdapterKind_iff _).mpr kind), ?_⟩
  refine bind_eq_ok.mpr ⟨(), refuse_if_eq_ok.mpr (by simpa using commitment), ?_⟩
  refine bind_eq_ok.mpr ⟨_, mint, ?_⟩
  rw [phaseByte, kindByte, beforeBytes, afterBytes]
  refine bind_eq_ok.mpr ⟨_, set_next 98 List.length_nil rfl, ?_⟩
  refine bind_eq_ok.mpr ⟨_, set_next 66 (by simp) (by simp), ?_⟩
  refine bind_eq_ok.mpr ⟨_, set_next 58 (by simp) (by simp [fields]), ?_⟩
  refine bind_eq_ok.mpr ⟨_, set_next 50 (by simp [fields]) (by simp [fields]), ?_⟩
  refine bind_eq_ok.mpr ⟨_, set_next 42 (by simp [fields]) (by simp), ?_⟩
  refine bind_eq_ok.mpr ⟨_, set_next 41 (by simp [fields]) (by simp), ?_⟩
  refine bind_eq_ok.mpr ⟨_, set_next 37 (by simp [fields]) (by simp), ?_⟩
  refine bind_eq_ok.mpr ⟨_, set_next 33 (by simp [fields]) (by simp), ?_⟩
  refine bind_eq_ok.mpr ⟨_, set_next 32 (by simp [fields]) (by simp), ?_⟩
  refine (set_next 0 (by simp [fields]) (by simp [commitment])).trans ?_
  rw [fields, Instruction.AssertSafeExecutionV2.pack]
  simp only [List.append_assoc, List.nil_append, List.replicate_zero, List.append_nil, List.singleton_append]
  rfl

/-- The two halves of the ABI are exact inverses, and the client's reading of a
    float accepts exactly the multipliers the program does. -/
theorem encode_unpack_correct :
    (∀ request : AssertSafeExecutionV2Request,
      ((∃ bytes, encodeAssertSafeExecutionV2 request = .ok bytes) ↔ request.Representable) ∧
      ∀ bytes, encodeAssertSafeExecutionV2 request = .ok bytes →
        ∃ known, ofRequest known = request ∧ Instruction.AssertSafeExecutionV2.unpack bytes = .ok known ∧
          bytes = known.pack) ∧
    (∀ bytes known, Instruction.AssertSafeExecutionV2.unpack bytes = .ok known → known.pack = bytes) ∧
    (∀ left right known, Instruction.AssertSafeExecutionV2.unpack left = .ok known →
      Instruction.AssertSafeExecutionV2.unpack right = .ok known → left = right) ∧
    (∀ bytes : Chunk 8, isValidStoredMultiplier bytes.bytes = (StoredMultiplier.new bytes).isSome ∧
      (isValidStoredMultiplier bytes.bytes = true ↔
        sign (leNat bytes.bytes) = 0 ∧ exponent (leNat bytes.bytes) ≠ 0 ∧
          exponent (leNat bytes.bytes) ≠ maxExponent)) := by
  refine ⟨?_, ?_, ?_, ?_⟩
  · intro request
    refine ⟨⟨?_, ?_⟩, ?_⟩
    · rintro ⟨bytes, encoded⟩
      exact representable_of_encoded encoded
    · intro representable
      obtain ⟨known, rfl⟩ := (representable_iff _).mp representable
      exact ⟨known.pack, encode_ofRequest known⟩
    · intro bytes encoded
      obtain ⟨known, rfl⟩ := (representable_iff _).mp (representable_of_encoded encoded)
      rw [encode_ofRequest] at encoded
      obtain rfl := Except.ok.inj encoded
      exact ⟨known, rfl, Instruction.AssertSafeExecutionV2.unpack_pack known, rfl⟩
  · intro bytes known unpacked
    exact Instruction.AssertSafeExecutionV2.pack_of_unpack unpacked
  · intro left right known leftUnpacked rightUnpacked
    rw [← Instruction.AssertSafeExecutionV2.pack_of_unpack leftUnpacked,
      ← Instruction.AssertSafeExecutionV2.pack_of_unpack rightUnpacked]
  · intro bytes
    rw [isValidStoredMultiplier_chunk]
    exact ⟨rfl, StoredMultiplier.new_isSome bytes⟩

end EquityGuard.ClientAbi
