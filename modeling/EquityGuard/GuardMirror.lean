import EquityGuard.GuardedTransfer
import EquityGuard.Processor

/-!
The two off-chain models of one guard invocation: the client's mirror of the program and
the program's own host model. Each takes the Instructions sysvar apart in its own way; the
verdict is the program's, down to the first failing check.
-/
namespace EquityGuard.GuardMirror
open EquityGuard.Addresses EquityGuard.Binary64 EquityGuard.Bytes EquityGuard.Client EquityGuard.ClientAbi
open EquityGuard.Downstream EquityGuard.Errors EquityGuard.Transaction
open EquityGuard.ClientJupiter (JupiterAdapterKind checkGuardedJupiterTransaction)
open EquityGuard.ClientMintState (TOKEN_2022_PROGRAM_ADDRESS decodeProtectedState slice)
open EquityGuard.ClientOffline (checkGuardOffline verdict)
open EquityGuard.ClientTrade (SYSVAR_INSTRUCTIONS_ADDRESS)
open EquityGuard.Instruction (AssertSafeExecutionV2)
open EquityGuard.Jupiter (AccountInfo Platform encodable_of_fits)
open EquityGuard.Processor (Linked assert_safe_execution)
open EquityGuard.Commitments (downstream_commitment downstream_encoded_eq)
open EquityGuard.State (StoredMultiplier decode_protected_state)

/-! ### The mirror -/

structure MirrorAccount where
  pubkey : Address
  owner : Address
  data : List UInt8
structure MirrorAccountMeta where
  pubkey : Address
  isSigner : Bool
  isWritable : Bool
deriving DecidableEq
structure MirrorInstruction where
  programId : Address
  accounts : List MirrorAccountMeta
  data : List UInt8
deriving DecidableEq
structure MirrorInvocation where
  programId : Address
  data : List UInt8
  accounts : List MirrorAccount
  instructions : List MirrorInstruction
  currentInstructionIndex : Nat
  clockUnixTimestamp : Int
structure DecodedV2 where
  expectedMint : String
  execution : AssertSafeExecutionRequest
  adapterKind : Number
  downstreamCommitment : List UInt8
deriving DecidableEq

/-- What the mirror throws: its own rejection, or an error of the client's code it calls. -/
inductive MirrorError where
  | MirrorRejection (guardError : EquityGuardError)
  | Other (error : JsError)
deriving DecidableEq
abbrev Mirror := Except MirrorError
/-- A call of the client's code. -/
def called {α : Type} (result : Js α) : Mirror α := result.mapError .Other
@[simp] theorem called_ok {α : Type} (value : α) : called (.ok value) = .ok value := rfl

def alphabet : List Char := "123456789ABCDEFGHJKLMNPQRSTUVWXYZabcdefghijkmnopqrstuvwxyz".toList
/-- The loop of `base58` that writes the digits of a number in front of `out`. -/
def digitsBefore (n : Nat) (out : List Char) : List Char :=
  if n = 0 then out
  else digitsBefore (n / 58) (alphabet.getD (n % 58) '1' :: out)
termination_by n
decreasing_by omega
/-- The loop of `base58` that counts the zero bytes in front. -/
def leading : List UInt8 → Nat
  | 0 :: rest => leading rest + 1
  | _ => 0
def base58 (bytes : List UInt8) : String :=
  let n := bytes.foldl (fun n byte => (n <<< 8) ||| byte.toNat) 0
  String.ofList (List.replicate (leading bytes) '1' ++ digitsBefore n [])

def decodeAssertSafeExecutionV2 (data : List UInt8) : Mirror DecodedV2 := do
  refuse_if (data.length = 0) (.MirrorRejection .UnsupportedInstruction)
  refuse_if (data[0]? ≠ some ABI_VERSION_V2) (.MirrorRejection .UnsupportedVersion)
  refuse_if (data.length ≠ ASSERT_SAFE_EXECUTION_V2_LEN) (.MirrorRejection .InvalidInstructionLength)
  let expectedMint := base58 (slice data 1 33)
  let multiplier := slice data 33 41
  let newMultiplier := slice data 41 49
  let newMultiplierEffectiveTimestamp ← called (getBigInt64 data 49)
  let phase ← called (read 1 data 57)
  let beforeSecs ← called (getUint32 data 58)
  let afterSecs ← called (getUint32 data 62)
  let adapterKind ← called (read 1 data 66)
  let phase : Number := .ofInt phase.byte.toNat
  let adapterKind : Number := .ofInt adapterKind.byte.toNat
  refuse_if (¬ isValidStoredMultiplier multiplier ∨ ¬ isValidStoredMultiplier newMultiplier)
    (.MirrorRejection .InvalidExpectedState)
  refuse_if (¬ Number.strictEq phase ActivationPhase.Pending ∧ ¬ Number.strictEq phase ActivationPhase.Activated)
    (.MirrorRejection .InvalidExpectedState)
  refuse_if (¬ isDownstreamAdapterKind adapterKind) (.MirrorRejection .UnsupportedAdapter)
  return {
    expectedMint
    execution := {
      expected := { multiplier, newMultiplier, newMultiplierEffectiveTimestamp }
      expectedPhase := phase
      window := { beforeSecs := .ofInt beforeSecs, afterSecs := .ofInt afterSecs } }
    adapterKind
    downstreamCommitment := slice data 67 99 }

/-- The instruction as the client's functions take it. -/
def MirrorInstruction.committed (instruction : MirrorInstruction) : CommittedInstruction where
  programAddress := instruction.programId
  accounts := instruction.accounts.map (fun account => ⟨account.pubkey, account.isSigner, account.isWritable⟩)
  data := instruction.data
/-- `isJupiterAdapterKind`, with the kind it narrows to. -/
def isJupiterAdapterKind (adapterKind : Number) : Option JupiterAdapterKind :=
  if Number.strictEq adapterKind DownstreamAdapterKind.JUPITER_ROUTE_V2_BUY_USDC then some .JUPITER_ROUTE_V2_BUY_USDC
  else if Number.strictEq adapterKind DownstreamAdapterKind.JUPITER_ROUTE_V2_SELL_USDC then
    some .JUPITER_ROUTE_V2_SELL_USDC
  else none

def verifyTransferChecked (sha256 : List UInt8 → Chunk 32) (invocation : MirrorInvocation) (request : DecodedV2)
    (mintKey : Address) : Mirror Unit := do
  let next ← ok_or (.MirrorRejection .MissingDownstreamInstruction)
    invocation.instructions[invocation.currentInstructionIndex + 1]?
  refuse_if (next.programId ≠ TOKEN_2022_PROGRAM_ADDRESS) (.MirrorRejection .UnsupportedDownstreamProgram)
  let isTransferChecked := decide (next.data.length = TRANSFER_CHECKED_DATA_LEN) &&
    decide (next.data[0]? = some TRANSFER_CHECKED_TAG) && decide (next.accounts.length ≥ TRANSFER_CHECKED_MIN_ACCOUNTS)
  refuse_if (isTransferChecked = false) (.MirrorRejection .UnsupportedDownstreamInstruction)
  refuse_if (next.accounts[TRANSFER_CHECKED_MINT_INDEX]?.map MirrorAccountMeta.pubkey ≠ some mintKey)
    (.MirrorRejection .DownstreamMintMismatch)
  let actual ← called (GuardedTransfer.downstreamCommitment sha256 next.committed)
  refuse_if (¬ bytesEqual actual request.downstreamCommitment) (.MirrorRejection .DownstreamCommitmentMismatch)
def verifyDownstream (platform : Platform) (invocation : MirrorInvocation) (request : DecodedV2) (mintKey : Address) :
    Mirror Unit := do
  let current ← ok_or (.MirrorRejection .GuardNotTopLevel) invocation.instructions[invocation.currentInstructionIndex]?
  refuse_if (current.programId ≠ invocation.programId ∨ ¬ bytesEqual current.data invocation.data)
    (.MirrorRejection .GuardNotTopLevel)
  match isJupiterAdapterKind request.adapterKind with
  | some adapterKind => do
    match ← called (checkGuardedJupiterTransaction platform (invocation.instructions.map MirrorInstruction.committed)
        (.ofInt invocation.currentInstructionIndex) adapterKind mintKey request.downstreamCommitment) with
    | some verdict => .error (.MirrorRejection verdict)
    | none => return ()
  | none => verifyTransferChecked platform.sha256 invocation request mintKey

/-- The program's variant a decoder code is named after. -/
def ofCode (code : GuardClientErrorCode) : Option EquityGuardError :=
  [EquityGuardError.InvalidMintOwner, .InvalidMintData, .MissingScaledUiAmount, .InvalidExtensionCombination,
    .InvalidMultiplier].find? (fun error => decide (GuardClientErrorCode.ofProgram? error = some code))
/-- `decodeProtectedState` inside the mirror's `catch`. -/
def decoded (owner : Address) (data : List UInt8) : Mirror ProtectedState :=
  match decodeProtectedState owner.text data with
  | .ok actual => .ok actual
  | .error (.GuardClientError code message guardError) =>
    match ofCode code with
    | some error => .error (.MirrorRejection error)
    | none => .error (.Other (.GuardClientError code message guardError))
  | .error error => .error (.Other error)

/-- The checks of `evaluateGuard`, up to its own `catch`. -/
def evaluated (platform : Platform) (invocation : MirrorInvocation) : Mirror (Option EquityGuardError) := do
  let request ← decodeAssertSafeExecutionV2 invocation.data
  match invocation.accounts with
  | [mint, sysvar] => do
    refuse_if (mint.pubkey.text ≠ request.expectedMint) (.MirrorRejection .MintKeyMismatch)
    refuse_if (sysvar.pubkey ≠ SYSVAR_INSTRUCTIONS_ADDRESS) (.MirrorRejection .InvalidInstructionsSysvar)
    let actual ← decoded mint.owner mint.data
    verifyDownstream platform invocation request mint.pubkey
    called (checkGuardOffline request.execution actual invocation.clockUnixTimestamp)
  | _ => .error (.MirrorRejection .InvalidAccountCount)
/-- The `catch` of `evaluateGuard`. -/
def caught : Mirror (Option EquityGuardError) → Js (Option EquityGuardError)
  | .ok verdict => .ok verdict
  | .error (.MirrorRejection guardError) => .ok (some guardError)
  | .error (.Other error) => .error error
/-- The error name the guard would produce, or none when it would pass. -/
def evaluateGuard (platform : Platform) (invocation : MirrorInvocation) : Js (Option EquityGuardError) :=
  caught (evaluated platform invocation)

/-! ### The host model -/

structure GuardAccount where
  pubkey : Key
  owner : Key
  data : List UInt8
deriving DecidableEq
structure GuardInvocation where
  program_id : Key
  guard_data : List UInt8
  accounts : List GuardAccount
  instructions : List Instruction
  current_index : UInt16
  clock : I64
deriving DecidableEq

/-- What the host model is linked with besides. -/
structure Host extends Linked where
  construct_instructions_data : List Instruction → Option (List UInt8)
/-- The layout the crate documents, with no instruction executing. -/
structure Host.Documented (host : Host) : Prop extends host.toLinked.Documented where
  constructed : ∀ instructions, Sysvar.Fits instructions →
    host.construct_instructions_data instructions = some (Sysvar.serialize instructions 0)

/-- How the host model ends early: an `expect` that fails, or an error it returns. -/
inductive Stopped where
  | Panicked
  | Refused (error : EquityGuardError)
deriving DecidableEq
/-- The `?` of the host model. -/
def raised {α : Type} (result : Checked α) : Except Stopped α := result.mapError .Refused

def sysvar_data (host : Host) (instructions : List Instruction) (current_index : UInt16) : Except Stopped (List UInt8) := do
  let data ← ok_or .Panicked (host.construct_instructions_data instructions)
  return data.take (data.length - 2) ++ (u16_to_le_bytes current_index).bytes
def evaluate (host : Host) (invocation : GuardInvocation) : Except Stopped Unit := do
  let request ← raised (AssertSafeExecutionV2.unpack invocation.guard_data)
  match invocation.accounts with
  | [mint, instructions_sysvar] => do
    refuse_if (mint.pubkey ≠ request.expected_mint) (.Refused .MintKeyMismatch)
    refuse_if (instructions_sysvar.pubkey ≠ INSTRUCTIONS_SYSVAR_ID) (.Refused .InvalidInstructionsSysvar)
    let actual ← raised (decode_protected_state host.token mint.owner mint.data)
    let data ← sysvar_data host invocation.instructions invocation.current_index
    let info : AccountInfo := ⟨instructions_sysvar.pubkey, ⟨List.replicate 32 0, zeros_size⟩, some data⟩
    raised (verify_downstream host.crates host.platform invocation.program_id invocation.guard_data request mint.pubkey info)
    raised (Guard.check request.execution actual invocation.clock)
  | _ => .error (.Refused .InvalidAccountCount)

/-! ### The payload -/

theorem alphabet_eq : alphabet = Base58.alphabet := rfl
theorem digitsBefore_eq (n : Nat) (out : List Char) :
    digitsBefore n out = (Nat.digits 58 n).reverse.map Base58.letterOf ++ out := by
  induction n using Nat.strong_induction_on generalizing out with
  | h n ih =>
    rw [digitsBefore]
    by_cases zero : n = 0
    · rw [if_pos zero, zero]
      rfl
    · rw [if_neg zero, ih _ (Nat.div_lt_self (Nat.pos_of_ne_zero zero) (by decide)),
        Nat.digits_def' (by decide) (Nat.pos_of_ne_zero zero), alphabet_eq, List.reverse_cons, List.map_append,
        List.append_assoc]
      rfl
theorem leading_eq (bytes : List UInt8) : leading bytes = Base58.leadingZeros (bytes.map UInt8.toNat) := by
  induction bytes with
  | nil => rfl
  | cons byte rest ih =>
    by_cases zero : byte = 0
    · subst zero
      rw [leading, ih]
      simp [Base58.leadingZeros]
    · have nonzero : byte.toNat ≠ 0 := fun same => zero (UInt8.toNat_inj.mp same)
      rw [leading]
      · simp [Base58.leadingZeros, nonzero]
      · rintro _ same
        exact zero (List.cons.inj same).1
theorem shifted_eq (bytes : List UInt8) (start : Nat) :
    bytes.foldl (fun n byte => (n <<< 8) ||| byte.toNat) start =
      Nat.ofDigits 256 ((bytes.map UInt8.toNat).reverse ++ Nat.digits 256 start) := by
  induction bytes generalizing start with
  | nil => exact (Nat.ofDigits_digits 256 start).symm
  | cons byte rest ih =>
    have small := byte.toNat_lt
    have step : (start <<< 8) ||| byte.toNat = start * 256 + byte.toNat := by
      rw [← Nat.shiftLeft_add_eq_or_of_lt small, Nat.shiftLeft_eq]
    rw [List.foldl_cons, ih, step, Nat.ofDigits_append, Nat.ofDigits_digits, List.map_cons, List.reverse_cons,
      Nat.ofDigits_append, Nat.ofDigits_append, Nat.ofDigits_digits]
    simp only [List.length_append, List.length_reverse, List.length_map, List.length_cons, List.length_nil,
      Nat.ofDigits_singleton]
    ring
/-- The mirror's own base 58 is the one text of a key. -/
theorem base58_eq (bytes : List UInt8) : base58 bytes = Base58.encode bytes := by
  have number := shifted_eq bytes 0
  rw [Nat.digits_zero, List.append_nil] at number
  rw [base58, Base58.encode, number, digitsBefore_eq, leading_eq, List.append_nil, Base58.convert, Base58.numeral,
    List.map_append, List.map_replicate]
  rfl

theorem slice_length {data : List UInt8} {start width : Nat} (inside : start + width ≤ data.length) :
    (slice data start (start + width)).length = width := by
  simp only [slice, List.length_take, List.length_drop]
  omega
/-- The `width` bytes at an offset inside the payload. -/
def field (data : List UInt8) (start width : Nat) (inside : start + width ≤ data.length) : Chunk width :=
  ⟨slice data start (start + width), slice_length inside⟩
theorem within {data : List UInt8} (size : data.length = 99) {stop : Nat} (small : Nat.ble stop 99 = true) : stop ≤ data.length := by
  rw [size]
  exact Nat.le_of_ble_eq_true small

theorem take_drop {data : List UInt8} {start width : Nat} (inside : start + width ≤ data.length) :
    Instruction.take width (data.drop start) = .ok (field data start width inside, data.drop (start + width)) := by
  have shape : data.drop start = (field data start width inside).bytes ++ data.drop (start + width) := by
    simp [field, slice]
  rw [shape]
  exact AssertSafeExecutionV2.take_append _ _
theorem read_field {data : List UInt8} {start width : Nat} (inside : start + width ≤ data.length) :
    read width data start = .ok (field data start width inside) := by
  rw [read_of_le inside]
  simp [field, slice]
/-- Both decoders read the payload's fields at the same places. -/
theorem unpack_of_length {data : List UInt8} (version : data[0]? = some Instruction.VERSION_V2) (size : data.length = 99) :
    AssertSafeExecutionV2.unpack data =
      match StoredMultiplier.new (field data 33 8 (within size rfl)), StoredMultiplier.new (field data 41 8 (within size rfl)),
        State.ActivationPhase.from_u8 (field data 57 1 (within size rfl)).byte with
      | some multiplier, some new_multiplier, some expected_phase => do
        let adapter ← ok_or .UnsupportedAdapter (Instruction.DownstreamAdapter.from_u8 (field data 66 1 (within size rfl)).byte)
        return {
          expected_mint := field data 1 32 (within size rfl)
          execution := {
            expected := ⟨multiplier, new_multiplier, I64.from_le_bytes (field data 49 8 (within size rfl))⟩
            expected_phase
            window := ⟨u32_from_le_bytes (field data 58 4 (within size rfl)), u32_from_le_bytes (field data 62 4 (within size rfl))⟩ }
          adapter
          downstream_commitment := field data 67 32 (within size rfl) }
      | _, _, _ => .error .InvalidExpectedState := by
  match data, version, size with
  | byte :: fields, version, size =>
    obtain rfl := Option.some.inj version
    have first : Instruction.take 32 fields =
        .ok (field (Instruction.VERSION_V2 :: fields) 1 32 (by omega), (Instruction.VERSION_V2 :: fields).drop 33) :=
      (take_drop (by omega) : Instruction.take 32 ((Instruction.VERSION_V2 :: fields).drop 1) = _)
    rw [AssertSafeExecutionV2.unpack, refuse_if_bind, if_neg (not_not.mpr rfl), refuse_if_bind,
      if_neg (show ¬ (_ ≠ Instruction.ASSERT_SAFE_EXECUTION_V2_LEN) from not_not.mpr size)]
    simp (disch := omega) only [first, take_drop, ok_bind, Nat.reduceAdd]
    all_goals rfl

/-- A rejection under the program's own name. -/
def mirrored {α : Type} (result : Checked α) : Mirror α := result.mapError .MirrorRejection
@[simp] theorem mirrored_ok {α : Type} (value : α) : mirrored (.ok value) = .ok value := rfl
@[simp] theorem mirrored_error {α : Type} (error : EquityGuardError) :
    mirrored (.error error : Checked α) = .error (.MirrorRejection error) := rfl
@[simp] theorem map_ok {α β : Type} (convert : α → β) (value : α) :
    (Except.ok value : Checked α).map convert = .ok (convert value) := rfl
/-- A request as the mirror decodes it. -/
def ofDecoded (request : AssertSafeExecutionV2) : DecodedV2 where
  expectedMint := (Address.ofKey request.expected_mint).text
  execution := ofExecution request.execution
  adapterKind := .ofInt request.adapter.as_u8.toNat
  downstreamCommitment := request.downstream_commitment.bytes

theorem phase_known (byte : UInt8) :
    (¬ Number.strictEq (.ofInt byte.toNat) ActivationPhase.Pending ∧
      ¬ Number.strictEq (.ofInt byte.toNat) ActivationPhase.Activated) ↔ State.ActivationPhase.from_u8 byte = none := by
  have table : ∀ byte : Fin 256, (¬ Number.strictEq (.ofInt byte.val) ActivationPhase.Pending ∧
      ¬ Number.strictEq (.ofInt byte.val) ActivationPhase.Activated) ↔
      State.ActivationPhase.from_u8 (UInt8.ofNat byte.val) = none := by decide +kernel
  simpa using table ⟨byte.toNat, byte.toNat_lt⟩
theorem adapter_known (byte : UInt8) :
    isDownstreamAdapterKind (.ofInt byte.toNat) = true ↔ Instruction.DownstreamAdapter.from_u8 byte ≠ none := by
  have table : ∀ byte : Fin 256, isDownstreamAdapterKind (.ofInt byte.val) = true ↔
      Instruction.DownstreamAdapter.from_u8 (UInt8.ofNat byte.val) ≠ none := by decide +kernel
  simpa using table ⟨byte.toNat, byte.toNat_lt⟩
theorem multiplier_known (bytes : Chunk 8) :
    ¬ isValidStoredMultiplier bytes.bytes ↔ StoredMultiplier.new bytes = none := by
  rw [isValidStoredMultiplier_chunk]
  cases StoredMultiplier.new bytes <;> simp

theorem decode_of_length {data : List UInt8} (version : data[0]? = some ABI_VERSION_V2) (size : data.length = 99) :
    decodeAssertSafeExecutionV2 data = (do
      refuse_if (StoredMultiplier.new (field data 33 8 (within size rfl)) = none ∨
        StoredMultiplier.new (field data 41 8 (within size rfl)) = none) (.MirrorRejection .InvalidExpectedState)
      refuse_if (State.ActivationPhase.from_u8 (field data 57 1 (within size rfl)).byte = none)
        (.MirrorRejection .InvalidExpectedState)
      refuse_if (Instruction.DownstreamAdapter.from_u8 (field data 66 1 (within size rfl)).byte = none)
        (.MirrorRejection .UnsupportedAdapter)
      return {
        expectedMint := (Address.ofKey (field data 1 32 (within size rfl))).text
        execution := {
          expected := ⟨(field data 33 8 (within size rfl)).bytes, (field data 41 8 (within size rfl)).bytes,
            (I64.from_le_bytes (field data 49 8 (within size rfl))).value⟩
          expectedPhase := .ofInt (field data 57 1 (within size rfl)).byte.toNat
          window := ⟨.ofInt (leNat (field data 58 4 (within size rfl)).bytes), .ofInt (leNat (field data 62 4 (within size rfl)).bytes)⟩ }
        adapterKind := .ofInt (field data 66 1 (within size rfl)).byte.toNat
        downstreamCommitment := (field data 67 32 (within size rfl)).bytes }) := by
  have nonempty : ¬ data.length = 0 := by omega
  have multiplier : slice data 33 41 = (field data 33 8 (by omega)).bytes := rfl
  have newMultiplier : slice data 41 49 = (field data 41 8 (by omega)).bytes := rfl
  have mint : base58 (slice data 1 33) = (Address.ofKey (field data 1 32 (by omega))).text := base58_eq _
  have timestamp : getBigInt64 data 49 = .ok (I64.from_le_bytes (field data 49 8 (by omega))).value := by
    rw [getBigInt64, read_field (by omega)]
    rfl
  have before : getUint32 data 58 = .ok (leNat (field data 58 4 (by omega)).bytes) := by
    rw [getUint32, read_field (by omega)]
    rfl
  have after : getUint32 data 62 = .ok (leNat (field data 62 4 (by omega)).bytes) := by
    rw [getUint32, read_field (by omega)]
    rfl
  have phase : read 1 data 57 = .ok (field data 57 1 (by omega)) := read_field (by omega)
  have kind : read 1 data 66 = .ok (field data 66 1 (by omega)) := read_field (by omega)
  have whole : ¬ data.length ≠ ASSERT_SAFE_EXECUTION_V2_LEN := not_not.mpr size
  rw [decodeAssertSafeExecutionV2, refuse_if_bind, if_neg nonempty, refuse_if_bind, if_neg (not_not.mpr version),
    refuse_if_bind, if_neg whole]
  simp only [timestamp, before, after, phase, kind, multiplier, newMultiplier, mint, multiplier_known, phase_known,
    adapter_known, not_not, called_ok, ok_bind]
  rfl

/-- The mirror decodes what the program unpacks, and refuses under the same name. -/
theorem decode_correct (data : List UInt8) :
    decodeAssertSafeExecutionV2 data = mirrored ((AssertSafeExecutionV2.unpack data).map ofDecoded) := by
  match data with
  | [] => rfl
  | version :: fields =>
    have nonempty : ¬ (version :: fields).length = 0 := by simp
    by_cases known : version = Instruction.VERSION_V2
    swap
    · have other : (version :: fields)[0]? ≠ some ABI_VERSION_V2 := fun same => known (Option.some.inj same)
      rw [decodeAssertSafeExecutionV2, refuse_if_bind, if_neg nonempty, refuse_if_bind, if_pos other,
        AssertSafeExecutionV2.unpack, refuse_if_bind, if_pos known]
      rfl
    have first : (version :: fields)[0]? = some ABI_VERSION_V2 := congrArg some known
    by_cases size : (version :: fields).length = 99
    swap
    · have short : (version :: fields).length ≠ ASSERT_SAFE_EXECUTION_V2_LEN := size
      have short' : (version :: fields).length ≠ Instruction.ASSERT_SAFE_EXECUTION_V2_LEN := size
      rw [decodeAssertSafeExecutionV2, refuse_if_bind, if_neg nonempty, refuse_if_bind,
        if_neg (not_not.mpr first), refuse_if_bind, if_pos short, AssertSafeExecutionV2.unpack,
        refuse_if_bind, if_neg (not_not.mpr known), refuse_if_bind, if_pos short']
      rfl
    rw [decode_of_length first size, unpack_of_length first size]
    simp only [refuse_if_bind]
    cases multiplier : StoredMultiplier.new (field (version :: fields) 33 8 (by omega)) with
    | none => rfl
    | some stored =>
      cases newMultiplier : StoredMultiplier.new (field (version :: fields) 41 8 (by omega)) with
      | none => rfl
      | some newStored =>
        cases phase : State.ActivationPhase.from_u8 (field (version :: fields) 57 1 (by omega)).byte with
        | none => rfl
        | some known =>
          cases kind : Instruction.DownstreamAdapter.from_u8 (field (version :: fields) 66 1 (by omega)).byte with
          | none => rfl
          | some adapter =>
            have bytes := StoredMultiplier.new_eq_some.mp multiplier
            have newBytes := StoredMultiplier.new_eq_some.mp newMultiplier
            have phaseByte := State.ActivationPhase.from_u8_eq_some.mp phase
            have kindByte := Instruction.DownstreamAdapter.from_u8_eq_some.mp kind
            have before : (u32_from_le_bytes (field (version :: fields) 58 4 (by omega))).toNat =
                leNat (field (version :: fields) 58 4 (by omega)).bytes := u32_from_le_bytes_toNat _
            have after : (u32_from_le_bytes (field (version :: fields) 62 4 (by omega))).toNat =
                leNat (field (version :: fields) 62 4 (by omega)).bytes := u32_from_le_bytes_toNat _
            rw [if_neg (by simp), if_neg (by simp), if_neg (by simp)]
            simp only [ok_or_some, ok_bind, pure_eq_ok, map_ok, mirrored_ok, ofDecoded, ofExecution,
              ofProtectedState, ofWindow, StoredMultiplier.to_bytes, bytes, newBytes, phaseByte, kindByte, before, after]

/-! ### The downstream action -/

@[simp] theorem mirrored_bind {α β : Type} (first : Checked α) (next : α → Checked β) :
    mirrored (first >>= next) = mirrored first >>= fun value => mirrored (next value) := by
  cases first <;> rfl
@[simp] theorem mirrored_refuse_if (condition : Prop) [Decidable condition] (error : EquityGuardError) :
    mirrored (refuse_if condition error) = refuse_if condition (.MirrorRejection error) := by
  unfold refuse_if
  split <;> rfl
@[simp] theorem mirrored_ok_or {α : Type} (error : EquityGuardError) (option : Option α) :
    mirrored (ok_or error option) = ok_or (.MirrorRejection error) option := by
  cases option <;> rfl

def ofAccountMeta (account : AccountMeta) : MirrorAccountMeta :=
  ⟨.ofKey account.pubkey, account.is_signer, account.is_writable⟩
def ofInstruction (instruction : Instruction) : MirrorInstruction where
  programId := .ofKey instruction.program_id
  accounts := instruction.accounts.map ofAccountMeta
  data := instruction.data
/-- The same invocation for the mirror. -/
def GuardInvocation.mirror (invocation : GuardInvocation) : MirrorInvocation where
  programId := .ofKey invocation.program_id
  data := invocation.guard_data
  accounts := invocation.accounts.map (fun account => ⟨.ofKey account.pubkey, .ofKey account.owner, account.data⟩)
  instructions := invocation.instructions.map ofInstruction
  currentInstructionIndex := invocation.current_index.toNat
  clockUnixTimestamp := invocation.clock.value

theorem committed_ofInstruction (instruction : Instruction) : (ofInstruction instruction).committed.toProgram = instruction := by
  have accounts : instruction.accounts.map (CommittedAccount.toProgram ∘
      (fun account : MirrorAccountMeta => (⟨account.pubkey, account.isSigner, account.isWritable⟩ : CommittedAccount)) ∘
      ofAccountMeta) = instruction.accounts := by
    refine List.map_id'' (fun account => ?_) _
    simp [CommittedAccount.toProgram, ofAccountMeta]
  ext1
  · exact Address.key_ofKey _
  · simp only [CommittedInstruction.toProgram, MirrorInstruction.committed, ofInstruction, List.map_map]
    exact accounts
  · rfl
theorem ofKey_eq {left right : Key} : Address.ofKey left = Address.ofKey right ↔ left = right := by
  rw [← Address.key_inj, Address.key_ofKey, Address.key_ofKey]

/-- The transfer rule over the instructions themselves. -/
def transferRule (sha256 : List UInt8 → Chunk 32) (instructions : List Instruction) (current : Nat)
    (commitment : Chunk 32) (mint_key : Key) : Checked Unit := do
  let next ← ok_or .MissingDownstreamInstruction instructions[current + 1]?
  refuse_if (next.program_id ≠ TOKEN_2022_PROGRAM_ID) .UnsupportedDownstreamProgram
  refuse_if (¬ (next.data.length = 10 ∧ next.data.head? = some TRANSFER_CHECKED_TAG ∧ 4 ≤ next.accounts.length))
    .UnsupportedDownstreamInstruction
  refuse_if (next.accounts[1]?.map AccountMeta.pubkey ≠ some mint_key) .DownstreamMintMismatch
  refuse_if (sha256 (Commitments.DOWNSTREAM_COMMITMENT_DOMAIN ++ Commitments.instruction_bytes next) ≠ commitment)
    .DownstreamCommitmentMismatch

/-- Everything about the action, over the instructions themselves. -/
def downstreamRule (platform : Platform) (invocation : GuardInvocation) (request : AssertSafeExecutionV2) (mint_key : Key) :
    Checked Unit := do
  let current ← ok_or .GuardNotTopLevel invocation.instructions[invocation.current_index.toNat]?
  refuse_if (current.program_id ≠ invocation.program_id ∨ current.data ≠ invocation.guard_data) .GuardNotTopLevel
  match roleOf request.adapter with
  | none =>
    transferRule platform.sha256 invocation.instructions invocation.current_index.toNat request.downstream_commitment mint_key
  | some role => do
    refuse_if (invocation.current_index ≠ 0) .GuardNotFirst
    Jupiter.check_suffix platform (invocation.instructions.drop 1) role mint_key
    let commitment ← Commitments.jupiter_suffix_commitment platform.sha256 (invocation.instructions.drop 1)
    refuse_if (commitment ≠ request.downstream_commitment) .DownstreamCommitmentMismatch

/-- The client's name of an adapter with a Jupiter suffix. -/
def kindOf : Instruction.DownstreamAdapter → Option JupiterAdapterKind
  | .Token2022TransferChecked => none
  | .JupiterRouteV2BuyUsdc => some .JUPITER_ROUTE_V2_BUY_USDC
  | .JupiterRouteV2SellUsdc => some .JUPITER_ROUTE_V2_SELL_USDC
theorem isJupiterAdapterKind_known (adapter : Instruction.DownstreamAdapter) :
    isJupiterAdapterKind (.ofInt adapter.as_u8.toNat) = kindOf adapter := by
  cases adapter <;> decide
theorem verdict_of_mirrored (result : Checked Unit) :
    (match verdict result with
      | some error => .error (.MirrorRejection error)
      | none => .ok () : Mirror Unit) = mirrored result := by
  cases result <;> rfl

section
variable (platform : Platform) {invocation : GuardInvocation} (fits : Sysvar.Fits invocation.instructions)
include fits

theorem verify_transfer_checked_rule {crates : Crates} (documented : crates.Documented) {instructions_sysvar : AccountInfo}
    (exposed : Exposes instructions_sysvar invocation.instructions invocation.current_index)
    (request : AssertSafeExecutionV2) (mint_key : Key) :
    verify_transfer_checked crates platform invocation.current_index request mint_key instructions_sysvar =
      transferRule platform.sha256 invocation.instructions invocation.current_index.toNat request.downstream_commitment
        mint_key := by
  have small := invocation.current_index.toNat_lt
  have next_index : usize_checked_add invocation.current_index.toNat 1 = some (invocation.current_index.toNat + 1) :=
    if_pos (by omega)
  rw [verify_transfer_checked, transferRule, next_index, ok_or_some, ok_bind,
    documented.instruction_at instructions_sysvar _ _ fits exposed]
  cases read : invocation.instructions[invocation.current_index.toNat + 1]? with
  | none => rfl
  | some next =>
    have encodable := encodable_of_fits fits next (List.mem_of_getElem? read)
    have shape : (decide (next.data.length = TRANSFER_CHECKED_DATA_LEN) &&
        matches_transfer_checked (crates.unpack next.data) &&
        decide (next.accounts.length ≥ TRANSFER_CHECKED_MIN_ACCOUNTS)) = false ↔
        ¬ (next.data.length = 10 ∧ next.data.head? = some TRANSFER_CHECKED_TAG ∧ 4 ≤ next.accounts.length) := by
      rw [← Bool.not_eq_true, not_iff_not]
      simp only [Bool.and_eq_true, decide_eq_true_eq, matches_transfer_checked_iff]
      constructor
      · rintro ⟨⟨length, unpacked⟩, enough⟩
        exact ⟨length, (documented.transfer_checked _ length).mp unpacked, enough⟩
      · rintro ⟨length, tag, enough⟩
        exact ⟨⟨length, (documented.transfer_checked _ length).mpr tag⟩, enough⟩
    simp only [ok_or_some, map_err, ok_bind, refuse_if_bind, shape]
    by_cases transfer : next.data.length = 10 ∧ next.data.head? = some TRANSFER_CHECKED_TAG ∧ 4 ≤ next.accounts.length
    · have second : 1 < next.accounts.length := by omega
      have mint : next.accounts[TRANSFER_CHECKED_MINT_INDEX]? = some next.accounts[1] := List.getElem?_eq_getElem second
      have key : next.accounts[1]?.map AccountMeta.pubkey ≠ some mint_key ↔ next.accounts[1].pubkey ≠ mint_key := by
        rw [List.getElem?_eq_getElem second, Option.map_some, ne_eq, Option.some_inj]
      rw [mint, downstream_commitment, downstream_encoded_eq, if_pos encodable]
      simp only [transfer, key, and_self, not_true_eq_false, ↓reduceIte, ok_or_some, ok_bind]
      rfl
    · simp only [transfer, not_false_eq_true, ↓reduceIte]
theorem verifyTransferChecked_rule (request : AssertSafeExecutionV2) (mint : Address) :
    verifyTransferChecked platform.sha256 invocation.mirror (ofDecoded request) mint =
      mirrored (transferRule platform.sha256 invocation.instructions invocation.current_index.toNat
        request.downstream_commitment mint.key) := by
  have next_read : invocation.mirror.instructions[invocation.mirror.currentInstructionIndex + 1]? =
      invocation.instructions[invocation.current_index.toNat + 1]?.map ofInstruction := List.getElem?_map
  rw [verifyTransferChecked, transferRule, next_read]
  simp only [mirrored_bind, mirrored_ok_or, mirrored_refuse_if]
  cases read : invocation.instructions[invocation.current_index.toNat + 1]? with
  | none => rfl
  | some next =>
    have encodable := encodable_of_fits fits next (List.mem_of_getElem? read)
    have program : (ofInstruction next).programId ≠ TOKEN_2022_PROGRAM_ADDRESS ↔ next.program_id ≠ TOKEN_2022_PROGRAM_ID := by
      rw [not_iff_not, ofInstruction, ← Address.key_inj, Address.key_ofKey]
      rfl
    have shape : (decide ((ofInstruction next).data.length = TRANSFER_CHECKED_DATA_LEN) &&
        decide ((ofInstruction next).data[0]? = some TRANSFER_CHECKED_TAG) &&
        decide ((ofInstruction next).accounts.length ≥ TRANSFER_CHECKED_MIN_ACCOUNTS)) = false ↔
        ¬ (next.data.length = 10 ∧ next.data.head? = some TRANSFER_CHECKED_TAG ∧ 4 ≤ next.accounts.length) := by
      have accounts : (ofInstruction next).accounts.length = next.accounts.length := List.length_map _
      rw [← Bool.not_eq_true, not_iff_not, accounts, List.head?_eq_getElem?]
      simp only [Bool.and_eq_true, decide_eq_true_eq, and_assoc]
      rfl
    have key : (ofInstruction next).accounts[TRANSFER_CHECKED_MINT_INDEX]?.map MirrorAccountMeta.pubkey ≠ some mint ↔
        next.accounts[1]?.map AccountMeta.pubkey ≠ some mint.key := by
      have account : (ofInstruction next).accounts[TRANSFER_CHECKED_MINT_INDEX]? = next.accounts[1]?.map ofAccountMeta :=
        List.getElem?_map
      rw [not_iff_not, account]
      cases next.accounts[1]? with
      | none => simp
      | some account => simp [ofAccountMeta, ← Address.key_inj]
    have committed : GuardedTransfer.downstreamCommitment platform.sha256 (ofInstruction next).committed = .ok
        (platform.sha256 (Commitments.DOWNSTREAM_COMMITMENT_DOMAIN ++ Commitments.instruction_bytes next)).bytes := by
      rw [GuardedTransfer.downstreamCommitment_eq, committed_ofInstruction, if_pos encodable, GuardedTransfer.preimage,
        committed_ofInstruction]
    have digest (actual : Chunk 32) : ¬ bytesEqual actual.bytes (ofDecoded request).downstreamCommitment = true ↔
        actual ≠ request.downstream_commitment := by
      rw [bytesEqual, decide_eq_true_eq, not_iff_not, Chunk.ext_iff]
      rfl
    simp only [Option.map_some, ok_or_some, ok_bind, refuse_if_bind, program, shape, key, committed, called_ok, digest]

theorem verify_downstream_rule {crates : Crates} (documented : crates.Documented) {instructions_sysvar : AccountInfo}
    (exposed : Exposes instructions_sysvar invocation.instructions invocation.current_index)
    (request : AssertSafeExecutionV2) (mint_key : Key) :
    verify_downstream crates platform invocation.program_id invocation.guard_data request mint_key instructions_sysvar =
      downstreamRule platform invocation request mint_key := by
  rw [verify_downstream, downstreamRule, refuse_if_bind, if_neg (not_not.mpr exposed.1),
    documented.current_index instructions_sysvar _ _ fits exposed, map_err, ok_bind,
    documented.instruction_at instructions_sysvar _ _ fits exposed]
  cases invocation.instructions[invocation.current_index.toNat]? with
  | none => rfl
  | some current =>
    simp only [ok_or_some, map_err, ok_bind]
    congr 1
    funext _
    cases request.adapter with
    | Token2022TransferChecked => exact verify_transfer_checked_rule platform fits documented exposed request mint_key
    | JupiterRouteV2BuyUsdc | JupiterRouteV2SellUsdc =>
      exact Jupiter.verify_jupiter_suffix_serialize platform _ _ request mint_key fits exposed.2

theorem verifyDownstream_rule (request : AssertSafeExecutionV2) (mint : Address) :
    verifyDownstream platform invocation.mirror (ofDecoded request) mint =
      mirrored (downstreamRule platform invocation request mint.key) := by
  have current_read : invocation.mirror.instructions[invocation.mirror.currentInstructionIndex]? =
      invocation.instructions[invocation.current_index.toNat]?.map ofInstruction := List.getElem?_map
  have committed : invocation.mirror.instructions.map MirrorInstruction.committed =
      invocation.instructions.map (MirrorInstruction.committed ∘ ofInstruction) := List.map_map
  have programs : (invocation.instructions.map (MirrorInstruction.committed ∘ ofInstruction)).map
      CommittedInstruction.toProgram = invocation.instructions := by
    rw [List.map_map]
    exact List.map_id'' committed_ofInstruction _
  have jupiter (kind : JupiterAdapterKind) : checkGuardedJupiterTransaction platform
      (invocation.mirror.instructions.map MirrorInstruction.committed) (.ofInt invocation.mirror.currentInstructionIndex)
      kind mint request.downstream_commitment.bytes = .ok (verdict (do
        refuse_if (invocation.current_index ≠ 0) .GuardNotFirst
        Jupiter.check_suffix platform (invocation.instructions.drop 1) (ClientJupiter.roleOf kind) mint.key
        let commitment ← Commitments.jupiter_suffix_commitment platform.sha256 (invocation.instructions.drop 1)
        refuse_if (commitment ≠ request.downstream_commitment) .DownstreamCommitmentMismatch)) := by
    have checked := ClientJupiter.checkGuardedJupiterTransaction_eq platform (programs.symm ▸ fits)
      invocation.current_index kind mint request.downstream_commitment
    rwa [programs, ← committed] at checked
  rw [verifyDownstream, downstreamRule, current_read]
  simp only [mirrored_bind, mirrored_ok_or, mirrored_refuse_if]
  cases invocation.instructions[invocation.current_index.toNat]? with
  | none => rfl
  | some current =>
    have other : (ofInstruction current).programId ≠ invocation.mirror.programId ∨
        ¬ bytesEqual (ofInstruction current).data invocation.mirror.data = true ↔
        current.program_id ≠ invocation.program_id ∨ current.data ≠ invocation.guard_data := by
      have program : (ofInstruction current).programId = invocation.mirror.programId ↔
          current.program_id = invocation.program_id := ofKey_eq
      rw [ne_eq, program, bytesEqual, decide_eq_true_eq]
      rfl
    rw [Option.map_some, ok_or_some, ok_bind, ok_or_some, ok_bind, refuse_if_bind, refuse_if_bind]
    simp only [other, ofDecoded, isJupiterAdapterKind_known]
    congr 1
    cases request.adapter with
    | Token2022TransferChecked => exact verifyTransferChecked_rule platform fits request mint
    | JupiterRouteV2BuyUsdc | JupiterRouteV2SellUsdc =>
      simp only [kindOf, jupiter, called_ok, ok_bind]
      exact verdict_of_mirrored _
end

/-! ### One verdict -/

theorem ofCode_of {error : EquityGuardError} {code : GuardClientErrorCode}
    (named : GuardClientErrorCode.ofProgram? error = some code) : ofCode code = some error := by
  cases error <;> cases named <;> rfl
theorem decoded_correct {token : Token2022.Interface} (documented : token.Documented) (owner : Key) (data : List UInt8) :
    decoded (.ofKey owner) data = mirrored ((decode_protected_state token owner data).map ofProtectedState) := by
  have agrees := ClientMintState.decodeProtectedState_correct documented (.ofKey owner) data
  rw [Address.key_ofKey] at agrees
  cases program : decode_protected_state token owner data with
  | ok state =>
    rw [program] at agrees
    rw [decoded, agrees]
    rfl
  | error error =>
    rw [program] at agrees
    obtain ⟨code, named, message, refused⟩ := agrees
    rw [decoded, refused]
    simp only [ClientMintState.guardClientError, ofCode_of named]
    rfl
@[simp] theorem raised_bind {α β : Type} (first : Checked α) (next : α → Checked β) :
    raised (first >>= next) = raised first >>= fun value => raised (next value) := by
  cases first <;> rfl
@[simp] theorem raised_refuse_if (condition : Prop) [Decidable condition] (error : EquityGuardError) :
    raised (refuse_if condition error) = refuse_if condition (.Refused error) := by
  unfold refuse_if
  split <;> rfl
/-- Writing the index over the last two bytes gives the sysvar of that index. -/
theorem sysvar_data_eq {host : Host} (documented : host.Documented) {instructions : List Instruction}
    (fits : Sysvar.Fits instructions) (current_index : UInt16) :
    sysvar_data host instructions current_index = .ok (Sysvar.serialize instructions current_index.toNat) := by
  have shape (index : Nat) : Sysvar.serialize instructions index = (leBytes 2 instructions.length ++
      ((Sysvar.offsets (2 + 2 * instructions.length) instructions).flatMap (leBytes 2) ++
        instructions.flatMap Sysvar.body)) ++ leBytes 2 index := by
    simp only [Sysvar.serialize, List.append_assoc]
  rw [sysvar_data, documented.constructed instructions fits, ok_or_some, ok_bind, shape 0, shape current_index.toNat,
    List.length_append, leBytes_length, Nat.add_sub_cancel, List.take_left]
  rfl

/-- The accounts as the runtime passes them: the second one shows the instructions. -/
def GuardInvocation.loaded (invocation : GuardInvocation) : List AccountInfo :=
  match invocation.accounts with
  | [mint, instructions_sysvar] =>
    [⟨mint.pubkey, mint.owner, some mint.data⟩,
      ⟨instructions_sysvar.pubkey, instructions_sysvar.owner,
        some (Sysvar.serialize invocation.instructions invocation.current_index.toNat)⟩]
  | accounts => accounts.map (fun account => ⟨account.pubkey, account.owner, some account.data⟩)
/-- What the program answers to the invocation. -/
def onChain (linked : Linked) (invocation : GuardInvocation) : Checked Unit :=
  assert_safe_execution linked (some invocation.clock) invocation.program_id invocation.loaded invocation.guard_data

/-- The program's checks in their order, over the instructions themselves. -/
def rule (linked : Linked) (invocation : GuardInvocation) : Checked Unit := do
  let request ← AssertSafeExecutionV2.unpack invocation.guard_data
  match invocation.accounts with
  | [mint, instructions_sysvar] => do
    refuse_if (mint.pubkey ≠ request.expected_mint) .MintKeyMismatch
    refuse_if (instructions_sysvar.pubkey ≠ INSTRUCTIONS_SYSVAR_ID) .InvalidInstructionsSysvar
    let actual ← decode_protected_state linked.token mint.owner mint.data
    downstreamRule linked.platform invocation request mint.pubkey
    Guard.check request.execution actual invocation.clock
  | _ => .error .InvalidAccountCount

section
variable {host : Host} (documented : host.Documented) {invocation : GuardInvocation}
  (fits : Sysvar.Fits invocation.instructions)
include documented fits

theorem onChain_rule : onChain host.toLinked invocation = rule host.toLinked invocation := by
  rw [onChain, rule, assert_safe_execution]
  congr 1
  funext request
  rw [GuardInvocation.loaded]
  rcases invocation.accounts with _ | ⟨mint, _ | ⟨instructions_sysvar, _ | ⟨other, rest⟩⟩⟩
  · rfl
  · rfl
  · by_cases sysvar : instructions_sysvar.pubkey = INSTRUCTIONS_SYSVAR_ID
    · have bound := verify_downstream_rule host.platform fits documented.crates
        (⟨sysvar, rfl⟩ : Exposes ⟨instructions_sysvar.pubkey, instructions_sysvar.owner,
          some (Sysvar.serialize invocation.instructions invocation.current_index.toNat)⟩
            invocation.instructions invocation.current_index) request mint.pubkey
      simp only [ok_or_some, ok_bind, bound]
    · simp only [refuse_if_bind, ne_eq, sysvar, not_false_eq_true, ↓reduceIte]
  · rfl
theorem evaluate_rule : evaluate host invocation = raised (rule host.toLinked invocation) := by
  rw [evaluate, rule, raised_bind]
  congr 1
  funext request
  match invocation.accounts with
  | [] | [_] | _ :: _ :: _ :: _ => rfl
  | [mint, instructions_sysvar] =>
    simp only [raised_bind, raised_refuse_if, sysvar_data_eq documented fits, ok_bind]
    by_cases sysvar : instructions_sysvar.pubkey = INSTRUCTIONS_SYSVAR_ID
    · have bound := verify_downstream_rule host.platform fits documented.crates
        (⟨sysvar, rfl⟩ : Exposes ⟨instructions_sysvar.pubkey, ⟨List.replicate 32 0, zeros_size⟩,
          some (Sysvar.serialize invocation.instructions invocation.current_index.toNat)⟩
            invocation.instructions invocation.current_index) request mint.pubkey
      simp only [bound]
    · simp only [refuse_if_bind, ne_eq, sysvar, not_false_eq_true, ↓reduceIte]
omit documented fits in
/-- A rejection ends the mirror the way an error ends the program. -/
theorem caught_bind {α : Type} {first : Checked α} {next : α → Mirror (Option EquityGuardError)} {rest : α → Checked Unit}
    (same : ∀ value, caught (next value) = .ok (verdict (rest value))) :
    caught (mirrored first >>= next) = .ok (verdict (first >>= rest)) := by
  cases first with
  | error error => rfl
  | ok value => exact same value
theorem evaluateGuard_rule :
    evaluateGuard host.platform invocation.mirror = .ok (verdict (rule host.toLinked invocation)) := by
  have payload : decodeAssertSafeExecutionV2 invocation.mirror.data =
      mirrored (AssertSafeExecutionV2.unpack invocation.guard_data) >>= fun request => .ok (ofDecoded request) := by
    rw [GuardInvocation.mirror, decode_correct]
    cases AssertSafeExecutionV2.unpack invocation.guard_data <;> rfl
  have accounts : invocation.mirror.accounts =
      invocation.accounts.map (fun account => ⟨.ofKey account.pubkey, .ofKey account.owner, account.data⟩) := rfl
  rw [evaluateGuard, evaluated, rule, payload, bind_assoc]
  refine caught_bind fun request => ?_
  rw [ok_bind, accounts]
  match invocation.accounts with
  | [] | [_] | _ :: _ :: _ :: _ => rfl
  | [mint, instructions_sysvar] =>
    have mintKey : (Address.ofKey mint.pubkey).text ≠ (ofDecoded request).expectedMint ↔
        mint.pubkey ≠ request.expected_mint := by
      rw [ofDecoded, ne_eq, Address.text_inj, ofKey_eq]
    have sysvar : Address.ofKey instructions_sysvar.pubkey ≠ SYSVAR_INSTRUCTIONS_ADDRESS ↔
        instructions_sysvar.pubkey ≠ INSTRUCTIONS_SYSVAR_ID := by
      rw [ne_eq, ← Address.key_inj, Address.key_ofKey]
      rfl
    simp only [List.map_cons, List.map_nil, mintKey, sysvar, ← mirrored_refuse_if]
    refine caught_bind fun _ => caught_bind fun _ => ?_
    rw [decoded_correct documented.token]
    cases decode_protected_state host.token mint.owner mint.data with
    | error error => rfl
    | ok actual =>
      rw [map_ok, mirrored_ok, ok_bind, ok_bind, verifyDownstream_rule host.platform fits request, Address.key_ofKey]
      refine caught_bind fun _ => ?_
      have checked := ClientOffline.checkGuardOffline_of request.execution actual invocation.clock
      exact congrArg (fun result => caught (called result)) checked
end
/-- The three models of one invocation agree: the host model is the program with its answer
unchanged, and the client's mirror names the very error the program ends with. -/
theorem models_agree {host : Host} (documented : host.Documented) (invocation : GuardInvocation)
    (fits : Sysvar.Fits invocation.instructions) :
    evaluate host invocation = raised (onChain host.toLinked invocation) ∧
      evaluateGuard host.platform invocation.mirror = .ok (verdict (onChain host.toLinked invocation)) := by
  rw [onChain_rule documented fits]
  exact ⟨evaluate_rule documented fits, evaluateGuard_rule documented fits⟩

def transferHost : Host where
  toLinked := Processor.transferLinked
  construct_instructions_data := fun instructions => some (Sysvar.serialize instructions 0)
theorem transferHost_documented : transferHost.Documented where
  token := Token2022.documented_correct
  crates := documented_correct
  constructed := fun _ _ => rfl
/-- The guarded transfer, one second before the split. -/
def transferInvocation : GuardInvocation where
  program_id := Processor.repeated 5
  guard_data := Processor.transferRequest.pack
  accounts := [⟨Processor.repeated 9, TOKEN_2022_PROGRAM_ID, Guard.splitMint⟩, ⟨INSTRUCTIONS_SYSVAR_ID, Processor.repeated 0, []⟩]
  instructions := Processor.guardedTransfer
  current_index := 0
  clock := I64.ofU32 0
theorem models_agree_transfer :
    evaluate transferHost transferInvocation = .ok () ∧
      evaluateGuard transferHost.platform transferInvocation.mirror = .ok none := by
  have settled : onChain transferHost.toLinked transferInvocation = .ok () := Processor.assert_safe_execution_eq_ok_transfer
  have agree := models_agree transferHost_documented transferInvocation Processor.guardedTransfer_fits
  rwa [settled] at agree

end EquityGuard.GuardMirror
