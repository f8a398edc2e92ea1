import EquityGuard.Exposure
import EquityGuard.SessionMint

/-!
The public page's own builder of a guarded transfer, and exactly the calls on which it and
the client's part: the page looks at the program of the protected instruction, and at
nothing else of it.
-/
namespace EquityGuard.PublicTransfer
open EquityGuard.Addresses EquityGuard.Binary64 EquityGuard.Bytes EquityGuard.Client EquityGuard.ClientAbi
open EquityGuard.ClientMintState EquityGuard.ClientTrade EquityGuard.Commitments EquityGuard.Errors EquityGuard.Kit
open EquityGuard.GuardedTransfer EquityGuard.SessionMint EquityGuard.Transaction

/-! ### The page -/

/-- The page's copy of the encoder. -/
def encodeAssertSafeExecutionV2 (request : AssertSafeExecutionV2Request) : Page (List UInt8) := do
  let expected := request.expected
  let window := request.window
  refuse_if (¬ positiveNormalMultiplier expected.multiplier ∨ ¬ positiveNormalMultiplier expected.newMultiplier)
    (.Error "multipliers must be 8 bytes encoding a positive normal f64")
  let timestamp := expected.newMultiplierEffectiveTimestamp
  refuse_if (timestamp < I64_MIN ∨ timestamp > I64_MAX) (.Error "effective timestamp outside i64 range")
  refuse_if (¬ Number.strictEq request.expectedPhase ActivationPhase.Pending ∧
    ¬ Number.strictEq request.expectedPhase ActivationPhase.Activated) (.Error "unknown activation phase")
  refuse_if (¬ window.beforeSecs.isInteger ∨ Number.lt window.beforeSecs 0 ∨ Number.lt (.ofInt 4294967295) window.beforeSecs)
    (.Error "protection window must be a u32")
  refuse_if (¬ window.afterSecs.isInteger ∨ Number.lt window.afterSecs 0 ∨ Number.lt (.ofInt 4294967295) window.afterSecs)
    (.Error "protection window must be a u32")
  refuse_if (¬ Number.strictEq request.adapterKind 1 ∨ request.downstreamCommitment.length ≠ 32)
    (.Error "downstream commitment must be a Token-2022 transfer commitment")
  called do
    let mintBytes ← encodeAddress request.expectedMint
    let out ← set (List.replicate 99 0) [2] 0
    let out ← set out mintBytes.bytes 1
    let out ← set out expected.multiplier 33
    let out ← set out expected.newMultiplier 41
    let out ← set out (leBytes 8 (timestamp % 2 ^ 64).toNat) 49
    let out ← set out [UInt8.ofNat (toUint 8 request.expectedPhase)] 57
    let out ← set out (leBytes 4 (toUint 32 window.beforeSecs)) 58
    let out ← set out (leBytes 4 (toUint 32 window.afterSecs)) 62
    let out ← set out [1] 66
    set out request.downstreamCommitment 67

/-- A `setUint32`, which wraps. -/
def u32le (value : Nat) : List UInt8 := leBytes 4 (toUint 32 (.ofInt value))

structure Flags where
  signer : Bool
  writable : Bool
deriving DecidableEq
/-- One turn of the inner loop of `flags`. -/
def mergeMeta (account : Address) (merged : Flags) (entry : Kit.AccountMeta) : Flags :=
  if entry.address ≠ account then merged
  else {
    signer := merged.signer || (entry.role = .READONLY_SIGNER || entry.role = .WRITABLE_SIGNER)
    writable := merged.writable || (entry.role = .WRITABLE || entry.role = .WRITABLE_SIGNER) }
def flags (instructions : List Kit.Instruction) (feePayer account : Address) : Flags :=
  instructions.foldl (fun merged current => current.accounts.foldl (mergeMeta account) merged)
    { signer := account = feePayer, writable := account = feePayer }
def commitmentOf (sha256 : List UInt8 → Chunk 32) (instruction : Kit.Instruction) (instructions : List Kit.Instruction)
    (feePayer : Address) : List UInt8 :=
  let metaParts (entry : Kit.AccountMeta) : List (List UInt8) :=
    let flag := flags instructions feePayer entry.address
    [entry.address.key.bytes, [if flag.signer then 1 else 0, if flag.writable then 1 else 0]]
  let parts := [ascii "EQUITYGUARD_DOWNSTREAM_V2", instruction.programAddress.key.bytes, u32le instruction.accounts.length] ++
    instruction.accounts.flatMap metaParts ++ [u32le instruction.data.length, instruction.data]
  (sha256 parts.flatten).bytes

/-- The program id that the page was bound to, if it was. -/
def reviewedProgramId (boundProgram : Option Address) : Page Address :=
  ok_or (.Error "Reviewed StateGuard program was not bound") boundProgram

structure PublicGuardedTransfer where
  instructions : List Kit.Instruction
  guard : Kit.Instruction
deriving DecidableEq
def buildPublicGuardedTransfer (sha256 : List UInt8 → Chunk 32) (boundProgram : Option Address) (feePayer mint : Address)
    (expectation : AssertSafeExecutionRequest) (transferChecked : Kit.Instruction) : Page PublicGuardedTransfer := do
  refuse_if (transferChecked.programAddress ≠ TOKEN_2022_PROGRAM_ADDRESS)
    (.Error "Protected action is not a Token-2022 transfer")
  let programAddress ← reviewedProgramId boundProgram
  let blank ← encodeAssertSafeExecutionV2 ⟨expectation, mint.text, 1, List.replicate 32 0⟩
  let placeholder : Kit.Instruction := {
    programAddress
    accounts := [⟨mint, .READONLY⟩, ⟨SYSVAR_INSTRUCTIONS_ADDRESS, .READONLY⟩]
    data := blank }
  let commitment := commitmentOf sha256 transferChecked [placeholder, transferChecked] feePayer
  let data ← encodeAssertSafeExecutionV2 ⟨expectation, mint.text, 1, commitment⟩
  let guard := { placeholder with data }
  return { instructions := [guard, transferChecked], guard }

/-! ### The encoder -/

theorem window_iff (secs : Number) :
    ¬ (¬ secs.isInteger ∨ Number.lt secs 0 ∨ Number.lt (.ofInt 4294967295) secs) ↔ isValidWindowSecs secs = true := by
  by_cases integer : secs.isInteger = true
  · obtain ⟨value, rfl⟩ := Number.eq_ofInt_of_isInteger integer
    have below : Number.lt (.ofInt value) 0 = decide (value < 0) := Number.lt_ofInt value 0
    have above : Number.lt (.ofInt 4294967295) (.ofInt value) = decide (4294967295 < value) := Number.lt_ofInt _ value
    have least : Number.le 0 (.ofInt value) = decide (0 ≤ value) := Number.le_ofInt 0 value
    have most : Number.le (.ofInt value) U32_MAX = decide (value ≤ 2 ^ 32 - 1) := Number.le_ofInt value _
    rw [isValidWindowSecs, below, above, least, most, integer]
    simp only [not_true_eq_false, false_or, decide_eq_true_eq, Bool.true_and, Bool.and_eq_true]
    omega
  · simp [isValidWindowSecs, integer]
/-- The page's encoder writes what the client's does, for a guard of kind 1 alone. -/
theorem encodeAssertSafeExecutionV2_eq_ok {request : AssertSafeExecutionV2Request} {bytes : List UInt8} :
    encodeAssertSafeExecutionV2 request = .ok bytes ↔
      request.adapterKind = 1 ∧ ClientAbi.encodeAssertSafeExecutionV2 request = .ok bytes := by
  have transferByte : UInt8.ofNat (toUint 8 1) = 1 := by
    rw [show (1 : Number) = .ofInt (1 : Nat) from rfl, toUint_ofNat (by decide)]
    rfl
  unfold encodeAssertSafeExecutionV2 ClientAbi.encodeAssertSafeExecutionV2
  simp only [then_eq_ok, refuse_if_eq_ok, called_eq_ok]
  simp only [window_iff, positiveNormalMultiplier_eq]
  simp only [not_not, not_or]
  constructor
  · rintro ⟨multipliers, timestamp, phase, before, after, ⟨transfer, commitment⟩, written⟩
    obtain ⟨kind, _⟩ := (Number.strictEq_iff _ _).mp transfer
    refine ⟨kind, multipliers, timestamp, phase, before, after, (isDownstreamAdapterKind_iff _).mpr (.inl kind), ?_⟩
    rw [kind, transferByte]
    exact ⟨commitment, written⟩
  · rintro ⟨kind, multipliers, timestamp, phase, before, after, _, commitment, written⟩
    rw [kind, transferByte] at written
    refine ⟨multipliers, timestamp, phase, before, after, ⟨(Number.strictEq_iff _ _).mpr ⟨kind, ?_⟩, commitment⟩, written⟩
    rw [kind]
    decide

/-! ### The commitment -/

/-- The accounts of one instruction raise the flags that their roles give. -/
theorem foldl_mergeMeta (account : Address) (accounts : List Kit.AccountMeta) (merged : Flags) :
    accounts.foldl (mergeMeta account) merged = {
      signer := merged.signer || accounts.any (fun entry => decide (entry.address = account) && isSignerRole entry.role)
      writable := merged.writable ||
        accounts.any (fun entry => decide (entry.address = account) && isWritableRole entry.role) } := by
  induction accounts generalizing merged with
  | nil => simp
  | cons entry rest ih =>
    rw [List.foldl_cons, ih, List.any_cons, List.any_cons, mergeMeta]
    by_cases same : entry.address = account
    · simp only [same, not_true_eq_false, ↓reduceIte, decide_true, Bool.true_and, Bool.or_assoc, isSignerRole,
        isWritableRole, ne_eq]
    · simp only [same, not_false_eq_true, ↓reduceIte, decide_false, Bool.false_and, Bool.false_or, ne_eq]
theorem foldl_mergeMetas (account : Address) (instructions : List Kit.Instruction) (merged : Flags) :
    instructions.foldl (fun merged current => current.accounts.foldl (mergeMeta account) merged) merged = {
      signer := merged.signer || instructions.any (fun current =>
        current.accounts.any (fun entry => decide (entry.address = account) && isSignerRole entry.role))
      writable := merged.writable || instructions.any (fun current =>
        current.accounts.any (fun entry => decide (entry.address = account) && isWritableRole entry.role)) } := by
  induction instructions generalizing merged with
  | nil => simp
  | cons current rest ih => rw [List.foldl_cons, ih, foldl_mergeMeta, List.any_cons, List.any_cons, Bool.or_assoc, Bool.or_assoc]
theorem flags_eq (instructions : List Kit.Instruction) (feePayer account : Address) :
    flags instructions feePayer account = {
      signer := flagged isSignerRole instructions feePayer account
      writable := flagged isWritableRole instructions feePayer account } :=
  foldl_mergeMetas account instructions _
theorem u32le_eq (value : Nat) : PublicTransfer.u32le value = leBytes 4 value := by
  rw [PublicTransfer.u32le, toUint_natCast]
  exact leBytes_mod 4 value
/-- The page hashes what the client hashes, whatever the instruction. -/
theorem commitmentOf_eq (sha256 : List UInt8 → Chunk 32) (instruction : Kit.Instruction)
    (instructions : List Kit.Instruction) (feePayer : Address) :
    commitmentOf sha256 instruction instructions feePayer =
      (sha256 (preimage (asCommittedInstruction instruction instructions feePayer))).bytes := by
  rw [preimage, ← flatten_instructionParts]
  simp only [commitmentOf, flags_eq, u32le_eq, asCommittedInstruction, List.flatMap_map, accountParts, List.length_map]
  rfl

/-! ### What the page builds -/

/-- A `TransferChecked` of the mint, by its data and its accounts. -/
def TransfersChecked (instruction : Kit.Instruction) (mint : Address) : Prop :=
  (instruction.data.length = TRANSFER_CHECKED_DATA_LEN ∧ instruction.data.head? = some TRANSFER_CHECKED_TAG ∧
    4 ≤ instruction.accounts.length) ∧
  instruction.accounts[1]?.map Kit.AccountMeta.address = some mint

section
variable {sha256 : List UInt8 → Chunk 32} {reviewed feePayer mint : Address} {expectation : AssertSafeExecutionRequest}
  {transferChecked : Kit.Instruction}

theorem encode_transfer (execution : Instruction.AssertSafeExecution) (commitment : Chunk 32) :
    encodeAssertSafeExecutionV2 ⟨ofExecution execution, mint.text, 1, commitment.bytes⟩ =
      .ok (transferRequest mint execution commitment).pack := by
  have encoded := encode_ofRequest (transferRequest mint execution commitment)
  rw [ofRequest_transferRequest] at encoded
  exact encodeAssertSafeExecutionV2_eq_ok.mpr ⟨rfl, encoded⟩
/-- The page builds what the client builds, of any instruction of the token program. -/
theorem buildPublicGuardedTransfer_iff {built : PublicGuardedTransfer} :
    buildPublicGuardedTransfer sha256 (some reviewed) feePayer mint expectation transferChecked = .ok built ↔
      transferChecked.programAddress = TOKEN_2022_PROGRAM_ADDRESS ∧ ∃ execution, ofExecution execution = expectation ∧
        built = ⟨(builtTransfer sha256 reviewed feePayer mint execution transferChecked []).instructions,
          (builtTransfer sha256 reviewed feePayer mint execution transferChecked []).guard⟩ := by
  rw [buildPublicGuardedTransfer, then_eq_ok, refuse_if_eq_ok, not_not]
  refine and_congr_right fun _ => ?_
  rw [reviewedProgramId, ok_or_some, ok_bind]
  have placed (execution : Instruction.AssertSafeExecution) :=
    @encode_transfer mint execution ⟨List.replicate 32 0, List.length_replicate⟩
  constructor
  · intro made
    have encoded := made
    obtain ⟨blank, encoded, _⟩ := bind_eq_ok.mp encoded
    obtain ⟨_, encoded⟩ := encodeAssertSafeExecutionV2_eq_ok.mp encoded
    obtain ⟨execution, rfl⟩ := (execution_representable_iff expectation).mp (representable_of_encoded encoded).1
    rw [placed, ok_bind] at made
    dsimp only at made
    rw [commitmentOf_eq, encode_transfer, ok_bind] at made
    cases made
    exact ⟨execution, rfl, rfl⟩
  · rintro ⟨execution, rfl, rfl⟩
    rw [placed, ok_bind]
    dsimp only
    rw [commitmentOf_eq, encode_transfer, ok_bind]
    rfl

variable (sha256 reviewed feePayer mint expectation transferChecked)

/-- Both build the same two instructions around the same guard data, or both refuse. -/
def BuildersAgree : Prop :=
  ((∃ built, buildPublicGuardedTransfer sha256 (some reviewed) feePayer mint expectation transferChecked = .ok built) ↔
    ∃ built, buildGuardedTransferChecked sha256 reviewed feePayer mint expectation transferChecked [] = .ok built) ∧
  ∀ ours theirs,
    buildPublicGuardedTransfer sha256 (some reviewed) feePayer mint expectation transferChecked = .ok ours →
    buildGuardedTransferChecked sha256 reviewed feePayer mint expectation transferChecked [] = .ok theirs →
    ours.instructions = theirs.instructions ∧ ours.guard = theirs.guard

/-- The builders agree, unless the instruction is one of the token program, with an expectation that can be encoded,
    and no `TransferChecked` of the mint. -/
theorem public_transfer_agrees_iff :
    BuildersAgree sha256 reviewed feePayer mint expectation transferChecked ↔
      (transferChecked.programAddress = TOKEN_2022_PROGRAM_ADDRESS → expectation.Representable →
        TransfersChecked transferChecked mint ∧ transferChecked.accounts.length < 2 ^ 32) := by
  have supported : assertSupportedTransferChecked transferChecked mint = .ok () ↔
      transferChecked.programAddress = TOKEN_2022_PROGRAM_ADDRESS ∧ TransfersChecked transferChecked mint :=
    assertSupportedTransferChecked_eq_ok
  constructor
  · rintro ⟨together, _⟩ token representable
    obtain ⟨execution, same⟩ := (execution_representable_iff expectation).mp representable
    obtain ⟨_, made⟩ := together.mp ⟨_, buildPublicGuardedTransfer_iff.mpr ⟨token, execution, same, rfl⟩⟩
    obtain ⟨checked, counted, _⟩ := buildGuardedTransferChecked_iff.mp made
    exact ⟨(supported.mp checked).2, counted⟩
  · intro transfer
    refine ⟨⟨?_, ?_⟩, ?_⟩
    · rintro ⟨built, made⟩
      obtain ⟨token, execution, same, _⟩ := buildPublicGuardedTransfer_iff.mp made
      obtain ⟨checked, counted⟩ := transfer token ((execution_representable_iff expectation).mpr ⟨execution, same⟩)
      exact ⟨_, buildGuardedTransferChecked_iff.mpr ⟨supported.mpr ⟨token, checked⟩, counted, execution, same, rfl⟩⟩
    · rintro ⟨built, made⟩
      obtain ⟨checked, _, execution, same, _⟩ := buildGuardedTransferChecked_iff.mp made
      exact ⟨_, buildPublicGuardedTransfer_iff.mpr ⟨(supported.mp checked).1, execution, same, rfl⟩⟩
    · intro ours theirs page client
      obtain ⟨_, execution, same, rfl⟩ := buildPublicGuardedTransfer_iff.mp page
      obtain ⟨checked, counted, _⟩ := buildGuardedTransferChecked_iff.mp client
      have again : buildGuardedTransferChecked sha256 reviewed feePayer mint expectation transferChecked [] =
          .ok (builtTransfer sha256 reviewed feePayer mint execution transferChecked []) :=
        buildGuardedTransferChecked_iff.mpr ⟨checked, counted, execution, same, rfl⟩
      rw [client] at again
      cases again
      exact ⟨rfl, rfl⟩

end

/-- A plain `Transfer` of the token program, which names no mint. -/
def plainTransfer : Kit.Instruction where
  programAddress := TOKEN_2022_PROGRAM_ADDRESS
  accounts := [⟨Exposure.senderTokens, .WRITABLE⟩, ⟨Exposure.recipientTokens, .WRITABLE⟩, ⟨Exposure.sender, .READONLY_SIGNER⟩]
  data := [3, 1, 0, 0, 0, 0, 0, 0, 0]
theorem plainTransfer_built (sha256 : List UInt8 → Chunk 32) :
    ∃ built, buildPublicGuardedTransfer sha256 (some Exposure.transferGuard) Exposure.sender Exposure.transferMint
      (ofExecution Processor.transferRequest.execution) plainTransfer = .ok built :=
  ⟨_, (@buildPublicGuardedTransfer_iff sha256 Exposure.transferGuard Exposure.sender Exposure.transferMint
    (ofExecution Processor.transferRequest.execution) plainTransfer _).mpr ⟨rfl, _, rfl, rfl⟩⟩
theorem plainTransfer_refused (sha256 : List UInt8 → Chunk 32) :
    buildGuardedTransferChecked sha256 Exposure.transferGuard Exposure.sender Exposure.transferMint
      (ofExecution Processor.transferRequest.execution) plainTransfer [] =
        .error (.GuardClientError .InvalidDownstream ["downstream instruction is not Token-2022 TransferChecked"] none) :=
  rfl
/-- A hash that is not looked at. -/
def zeroDigest (_ : List UInt8) : Chunk 32 := ⟨List.replicate 32 0, zeros_size⟩
/-- The page puts a guard in front of it; the client does not. -/
theorem public_transfer_unchecked :
    (∃ built, buildPublicGuardedTransfer zeroDigest (some Exposure.transferGuard) Exposure.sender Exposure.transferMint
      (ofExecution Processor.transferRequest.execution) plainTransfer = .ok built) ∧
    buildGuardedTransferChecked zeroDigest Exposure.transferGuard Exposure.sender Exposure.transferMint
      (ofExecution Processor.transferRequest.execution) plainTransfer [] =
        .error (.GuardClientError .InvalidDownstream ["downstream instruction is not Token-2022 TransferChecked"] none) ∧
    ¬ BuildersAgree zeroDigest Exposure.transferGuard Exposure.sender Exposure.transferMint
      (ofExecution Processor.transferRequest.execution) plainTransfer := by
  refine ⟨plainTransfer_built _, plainTransfer_refused _, ?_⟩
  rintro ⟨together, _⟩
  obtain ⟨built, made⟩ := together.mp (plainTransfer_built _)
  rw [plainTransfer_refused] at made
  cases made

end EquityGuard.PublicTransfer
