import EquityGuard.State

/-!
The `assert_safe_execution` payload, ABI v2: a fixed little-endian layout of
exactly 99 bytes.
-/
namespace EquityGuard.Instruction
open EquityGuard.Addresses EquityGuard.Bytes EquityGuard.Errors EquityGuard.State

def VERSION_V2 : UInt8 := 2
def ASSERT_SAFE_EXECUTION_V2_LEN : Nat := 99

/-- Seconds around a scheduled activation during which execution is refused. -/
structure ProtectionWindow where
  before_secs : UInt32
  after_secs : UInt32
deriving DecidableEq

/-- The economic-state expectation. -/
structure AssertSafeExecution where
  expected : ProtectedState
  expected_phase : ActivationPhase
  window : ProtectionWindow
deriving DecidableEq

inductive DownstreamAdapter where
  | Token2022TransferChecked
  | JupiterRouteV2BuyUsdc
  | JupiterRouteV2SellUsdc
deriving DecidableEq

def DownstreamAdapter.from_u8 (value : UInt8) : Option DownstreamAdapter :=
  if value = 1 then some .Token2022TransferChecked
  else if value = 2 then some .JupiterRouteV2BuyUsdc
  else if value = 3 then some .JupiterRouteV2SellUsdc
  else none
/-- The discriminant, `adapter as u8`. -/
def DownstreamAdapter.as_u8 : DownstreamAdapter → UInt8
  | .Token2022TransferChecked => 1
  | .JupiterRouteV2BuyUsdc => 2
  | .JupiterRouteV2SellUsdc => 3

theorem DownstreamAdapter.from_u8_eq_some {value : UInt8} {adapter : DownstreamAdapter} :
    DownstreamAdapter.from_u8 value = some adapter ↔ value = adapter.as_u8 := by
  unfold DownstreamAdapter.from_u8
  split_ifs <;> cases adapter <;> simp_all [DownstreamAdapter.as_u8]

structure AssertSafeExecutionV2 where
  expected_mint : Key
  execution : AssertSafeExecution
  adapter : DownstreamAdapter
  downstream_commitment : Chunk 32
deriving DecidableEq

/-- `Reader::take`: the next `size` bytes and what is left to read. -/
def take (size : Nat) (reader : List UInt8) : Checked (Chunk size × List UInt8) :=
  ok_or .InvalidInstructionLength (split_first_chunk size reader)

namespace AssertSafeExecutionV2

def unpack (data : List UInt8) : Checked AssertSafeExecutionV2 :=
  match data with
  | [] => .error .UnsupportedInstruction
  | version :: fields => do
    refuse_if (version ≠ VERSION_V2) .UnsupportedVersion
    refuse_if (data.length ≠ ASSERT_SAFE_EXECUTION_V2_LEN) .InvalidInstructionLength
    let (expected_mint, reader) ← take 32 fields
    let (multiplier, reader) ← take 8 reader
    let (new_multiplier, reader) ← take 8 reader
    let (new_multiplier_effective_timestamp, reader) ← take 8 reader
    let (phase, reader) ← take 1 reader
    let (before_secs, reader) ← take 4 reader
    let (after_secs, reader) ← take 4 reader
    let (adapter, reader) ← take 1 reader
    let (downstream_commitment, _) ← take 32 reader
    match StoredMultiplier.new multiplier, StoredMultiplier.new new_multiplier, ActivationPhase.from_u8 phase.byte with
    | some multiplier, some new_multiplier, some expected_phase =>
      let adapter ← ok_or .UnsupportedAdapter (DownstreamAdapter.from_u8 adapter.byte)
      return {
        expected_mint
        execution := {
          expected := {
            multiplier, new_multiplier
            new_multiplier_effective_timestamp := I64.from_le_bytes new_multiplier_effective_timestamp }
          expected_phase
          window := { before_secs := u32_from_le_bytes before_secs, after_secs := u32_from_le_bytes after_secs } }
        adapter
        downstream_commitment }
    | _, _, _ => .error .InvalidExpectedState

/-- The ten fields, in the order they are written. -/
def pack (request : AssertSafeExecutionV2) : List UInt8 :=
  VERSION_V2 :: (request.expected_mint.bytes ++ (request.execution.expected.multiplier.to_bytes.bytes ++
    (request.execution.expected.new_multiplier.to_bytes.bytes ++
    (request.execution.expected.new_multiplier_effective_timestamp.to_le_bytes.bytes ++
    ((Chunk.ofByte request.execution.expected_phase.as_u8).bytes ++
    ((u32_to_le_bytes request.execution.window.before_secs).bytes ++
    ((u32_to_le_bytes request.execution.window.after_secs).bytes ++
    ((Chunk.ofByte request.adapter.as_u8).bytes ++ request.downstream_commitment.bytes))))))))

theorem pack_length (request : AssertSafeExecutionV2) : request.pack.length = ASSERT_SAFE_EXECUTION_V2_LEN := by
  simp [pack, ASSERT_SAFE_EXECUTION_V2_LEN]

theorem take_append {size : Nat} (head : Chunk size) (rest : List UInt8) :
    take size (head.bytes ++ rest) = .ok (head, rest) := by
  rw [take, split_first_chunk_append, ok_or_some]
theorem take_all {size : Nat} (head : Chunk size) : take size head.bytes = .ok (head, []) := by
  simpa using take_append head []
theorem take_eq_ok {size : Nat} {reader rest : List UInt8} {head : Chunk size}
    (taken : take size reader = .ok (head, rest)) : reader = head.bytes ++ rest :=
  split_first_chunk_eq_some.mp (ok_or_eq_ok.mp taken)

/-- Decoding inverts encoding. -/
theorem unpack_pack (request : AssertSafeExecutionV2) : unpack request.pack = .ok request := by
  have size := pack_length request
  have phase := ActivationPhase.from_u8_eq_some.mpr (rfl : request.execution.expected_phase.as_u8 = _)
  have adapter := DownstreamAdapter.from_u8_eq_some.mpr (rfl : request.adapter.as_u8 = _)
  unfold pack at size ⊢
  simp only [unpack, refuse_if, size, take_append, take_all, ne_eq, not_true_eq_false, ↓reduceIte,
    Chunk.byte_ofByte, bind, Except.bind, StoredMultiplier.new_to_bytes, phase, adapter, ok_or_some, pure, Except.pure, I64.from_to_le_bytes,
    u32_from_to_le_bytes]

/-- Every accepted payload is the encoding of what it decodes to. -/
theorem pack_of_unpack {data : List UInt8} {request : AssertSafeExecutionV2} (unpacked : unpack data = .ok request) :
    request.pack = data := by
  cases data with
  | nil => cases unpacked
  | cons version fields =>
    -- the two checks, then one read for each field
    simp only [unpack, bind_eq_ok, refuse_if_eq_ok, Prod.exists, exists_const, not_not] at unpacked
    obtain ⟨known, sized, mint, afterMint, readMint, multiplier, afterMultiplier, readMultiplier, newMultiplier,
      afterNewMultiplier, readNewMultiplier, timestamp, afterTimestamp, readTimestamp, phase, afterPhase, readPhase,
      before, afterBefore, readBefore, after, afterAfter, readAfter, adapter, afterAdapter, readAdapter,
      commitment, left, readCommitment, built⟩ := unpacked
    obtain rfl := take_eq_ok readMint
    obtain rfl := take_eq_ok readMultiplier
    obtain rfl := take_eq_ok readNewMultiplier
    obtain rfl := take_eq_ok readTimestamp
    obtain rfl := take_eq_ok readPhase
    obtain rfl := take_eq_ok readBefore
    obtain rfl := take_eq_ok readAfter
    obtain rfl := take_eq_ok readAdapter
    obtain rfl := take_eq_ok readCommitment
    have nothingLeft : left = [] := by
      rw [← List.length_eq_zero_iff]
      simp only [List.length_cons, List.length_append, Chunk.size_eq, ASSERT_SAFE_EXECUTION_V2_LEN] at sized
      omega
    split at built
    · rename_i usable newUsable expectedPhase storedEq newStoredEq phaseEq
      obtain ⟨kind, kindEq, requestEq⟩ := bind_eq_ok.mp built
      have storedBytes := StoredMultiplier.new_eq_some.mp storedEq
      have newStoredBytes := StoredMultiplier.new_eq_some.mp newStoredEq
      have phaseByte := ActivationPhase.from_u8_eq_some.mp phaseEq
      have kindByte := DownstreamAdapter.from_u8_eq_some.mp (ok_or_eq_ok.mp kindEq)
      cases requestEq
      simp only [pack, known, nothingLeft, StoredMultiplier.to_bytes, storedBytes, newStoredBytes, ← phaseByte,
        ← kindByte, Chunk.ofByte_byte, I64.to_from_le_bytes, u32_to_from_le_bytes, List.append_nil]
    · cases built

end AssertSafeExecutionV2
end EquityGuard.Instruction
