import EquityGuard.ClientMintState
import EquityGuard.ClientTrade

/-!
The guarded Token-2022 transfer. The transfer is fixed first; the guard commits to it
with the flags that the whole transaction gives its accounts.
-/
namespace EquityGuard.GuardedTransfer
open EquityGuard.Addresses EquityGuard.Binary64 EquityGuard.Bytes EquityGuard.Client EquityGuard.ClientAbi
open EquityGuard.ClientMintState EquityGuard.ClientTrade EquityGuard.Commitments EquityGuard.Errors EquityGuard.Kit
open EquityGuard.Transaction

def TRANSFER_CHECKED_TAG : UInt8 := 12
def TRANSFER_CHECKED_DATA_LEN : Nat := 10

/-- Whether an address pays the fees or has such a role in some instruction. -/
def flagged (role : AccountRole → Bool) (instructions : List Kit.Instruction) (feePayer address : Address) : Bool :=
  decide (address = feePayer) || instructions.any (fun instruction =>
    instruction.accounts.any (fun account => decide (account.address = address) && role account.role))
/-- `target` as the Instructions sysvar will expose it inside a transaction. -/
def asCommittedInstruction (target : Kit.Instruction) (instructions : List Kit.Instruction) (feePayer : Address) :
    CommittedInstruction where
  programAddress := target.programAddress
  accounts := target.accounts.map (fun account => {
    address := account.address
    isSigner := flagged isSignerRole instructions feePayer account.address
    isWritable := flagged isWritableRole instructions feePayer account.address })
  data := target.data
def downstreamCommitment (sha256 : List UInt8 → Chunk 32) (instruction : CommittedInstruction) : Js (List UInt8) := do
  return (sha256 (← downstreamCommitmentPreimage instruction)).bytes
/-- The client's mirror of the program's check of a transfer of `mint`. -/
def assertSupportedTransferChecked (instruction : Kit.Instruction) (mint : Address) : Js Unit := do
  refuse_if (instruction.programAddress ≠ TOKEN_2022_PROGRAM_ADDRESS) (.GuardClientError .InvalidDownstream
    ["downstream program ", instruction.programAddress, " is not Token-2022"] none)
  refuse_if (instruction.data.length ≠ TRANSFER_CHECKED_DATA_LEN ∨ instruction.data.head? ≠ some TRANSFER_CHECKED_TAG ∨
      instruction.accounts.length < 4)
    (.GuardClientError .InvalidDownstream ["downstream instruction is not Token-2022 TransferChecked"] none)
  refuse_if (instruction.accounts[1]?.map Kit.AccountMeta.address ≠ some mint)
    (.GuardClientError .InvalidDownstream ["TransferChecked mint is not the protected mint"] none)

structure GuardedTransferChecked where
  instructions : List Kit.Instruction
  guard : Kit.Instruction
  transferChecked : Kit.Instruction
  committed : CommittedInstruction
  commitment : List UInt8

/-- Builds `[...before, guard, transferChecked]`. -/
def buildGuardedTransferChecked (sha256 : List UInt8 → Chunk 32) (programAddress feePayer mint : Address)
    (expectation : AssertSafeExecutionRequest) (transferChecked : Kit.Instruction) (before : List Kit.Instruction) :
    Js GuardedTransferChecked := do
  assertSupportedTransferChecked transferChecked mint
  let guardFor (commitment : List UInt8) := getAssertSafeExecutionV2Instruction programAddress mint expectation commitment
    DownstreamAdapterKind.TOKEN_2022_TRANSFER_CHECKED
  let placeholder ← guardFor (List.replicate 32 0)
  let committed := asCommittedInstruction transferChecked (before ++ [placeholder, transferChecked]) feePayer
  let commitment ← downstreamCommitment sha256 committed
  let guard ← guardFor commitment
  return { instructions := before ++ [guard, transferChecked], guard, transferChecked, committed, commitment }

/-! ### What is built -/

/-- What a guard expects, as the program reads it from the instruction. -/
def Expects (guard : Kit.Instruction) (mint : Address) (expectation : AssertSafeExecutionRequest) (commitment : List UInt8) :
    Prop :=
  ∃ known, Instruction.AssertSafeExecutionV2.unpack guard.data = .ok known ∧
    ofRequest known = ⟨expectation, mint.text, DownstreamAdapterKind.TOKEN_2022_TRANSFER_CHECKED, commitment⟩
/-- A guard and the transfer it commits to, as both stand in the transaction. -/
structure Guards (sha256 : List UInt8 → Chunk 32) (programAddress feePayer mint : Address)
    (expectation : AssertSafeExecutionRequest) (transferChecked : Kit.Instruction) (before : List Kit.Instruction)
    (built : GuardedTransferChecked) : Prop where
  transfer : built.transferChecked = transferChecked
  instructions : built.instructions = before ++ [built.guard, transferChecked]
  program : built.guard.programAddress = programAddress
  accounts : built.guard.accounts = [⟨mint, .READONLY⟩, ⟨SYSVAR_INSTRUCTIONS_ADDRESS, .READONLY⟩]
  committed : built.committed = asCommittedInstruction transferChecked built.instructions feePayer
  commitment : downstreamCommitment sha256 built.committed = .ok built.commitment
  expects : Expects built.guard mint expectation built.commitment

theorem flagged_congr {left right : List Kit.Instruction}
    (same : left.map Kit.Instruction.accounts = right.map Kit.Instruction.accounts) (role : AccountRole → Bool)
    (feePayer address : Address) : flagged role left feePayer address = flagged role right feePayer address := by
  have any (instructions : List Kit.Instruction) : instructions.any (fun instruction =>
        instruction.accounts.any (fun account => decide (account.address = address) && role account.role)) =
      (instructions.map Kit.Instruction.accounts).any
        (fun accounts => accounts.any (fun account => decide (account.address = address) && role account.role)) := by
    rw [List.any_map]
    rfl
  rw [flagged, flagged, any left, any right, same]
/-- Only the accounts of the other instructions are read. -/
theorem asCommittedInstruction_congr {target : Kit.Instruction} {left right : List Kit.Instruction} {feePayer : Address}
    (same : left.map Kit.Instruction.accounts = right.map Kit.Instruction.accounts) :
    asCommittedInstruction target left feePayer = asCommittedInstruction target right feePayer := by
  simp only [asCommittedInstruction, flagged_congr same]
theorem getAssertSafeExecutionV2Instruction_eq_ok {programAddress mint : Address} {expectation : AssertSafeExecutionRequest}
    {commitment : List UInt8} {kind : Number} {guard : Kit.Instruction}
    (made : getAssertSafeExecutionV2Instruction programAddress mint expectation commitment kind = .ok guard) :
    guard.programAddress = programAddress ∧ guard.accounts = [⟨mint, .READONLY⟩, ⟨SYSVAR_INSTRUCTIONS_ADDRESS, .READONLY⟩] ∧
      encodeAssertSafeExecutionV2 ⟨expectation, mint.text, kind, commitment⟩ = .ok guard.data := by
  unfold getAssertSafeExecutionV2Instruction at made
  obtain ⟨data, encoded, made⟩ := bind_eq_ok.mp made
  cases made
  exact ⟨rfl, rfl, encoded⟩
theorem assertSupportedTransferChecked_eq_ok {instruction : Kit.Instruction} {mint : Address} :
    assertSupportedTransferChecked instruction mint = .ok () ↔
      instruction.programAddress = TOKEN_2022_PROGRAM_ADDRESS ∧
        (instruction.data.length = TRANSFER_CHECKED_DATA_LEN ∧ instruction.data.head? = some TRANSFER_CHECKED_TAG ∧
          4 ≤ instruction.accounts.length) ∧
        instruction.accounts[1]?.map Kit.AccountMeta.address = some mint := by
  unfold assertSupportedTransferChecked
  simp only [then_eq_ok, refuse_if_eq_ok, ne_eq, not_or, not_not, Nat.not_lt]
theorem buildGuardedTransferChecked_eq_ok {sha256 : List UInt8 → Chunk 32} {programAddress feePayer mint : Address}
    {expectation : AssertSafeExecutionRequest} {transferChecked : Kit.Instruction} {before : List Kit.Instruction}
    {built : GuardedTransferChecked}
    (made : buildGuardedTransferChecked sha256 programAddress feePayer mint expectation transferChecked before = .ok built) :
    Guards sha256 programAddress feePayer mint expectation transferChecked before built := by
  unfold buildGuardedTransferChecked at made
  obtain ⟨_, made⟩ := then_eq_ok.mp made
  obtain ⟨placeholder, placed, made⟩ := bind_eq_ok.mp made
  obtain ⟨commitment, hashed, made⟩ := bind_eq_ok.mp made
  obtain ⟨guard, guarded, made⟩ := bind_eq_ok.mp made
  cases made
  obtain ⟨_, placeholderAccounts, _⟩ := getAssertSafeExecutionV2Instruction_eq_ok placed
  obtain ⟨program, accounts, encoded⟩ := getAssertSafeExecutionV2Instruction_eq_ok guarded
  obtain ⟨known, request, unpacked, _⟩ := (encode_unpack_correct.1 _).2 _ encoded
  exact {
    transfer := rfl
    instructions := rfl
    program
    accounts
    committed := asCommittedInstruction_congr (by simp [placeholderAccounts, accounts])
    commitment := hashed
    expects := ⟨known, unpacked, request⟩ }

/-! ### When something is built -/

/-- What the program hashes of an instruction. -/
def preimage (instruction : CommittedInstruction) : List UInt8 :=
  DOWNSTREAM_COMMITMENT_DOMAIN ++ instruction_bytes instruction.toProgram
/-- The request of a guard of kind 1. -/
def transferRequest (mint : Address) (execution : Instruction.AssertSafeExecution) (commitment : Chunk 32) :
    Instruction.AssertSafeExecutionV2 where
  expected_mint := mint.key
  execution := execution
  adapter := .Token2022TransferChecked
  downstream_commitment := commitment
/-- The transfer as a guard that still commits to nothing would see it. -/
def committedTransfer (programAddress feePayer mint : Address) (execution : Instruction.AssertSafeExecution)
    (transferChecked : Kit.Instruction) (before : List Kit.Instruction) : CommittedInstruction :=
  let placeholder := guardWith programAddress mint
    (transferRequest mint execution ⟨List.replicate 32 0, zeros_size⟩)
  asCommittedInstruction transferChecked (before ++ [placeholder, transferChecked]) feePayer
/-- What is built when nothing is refused. -/
def builtTransfer (sha256 : List UInt8 → Chunk 32) (programAddress feePayer mint : Address)
    (execution : Instruction.AssertSafeExecution) (transferChecked : Kit.Instruction) (before : List Kit.Instruction) :
    GuardedTransferChecked :=
  let committed := committedTransfer programAddress feePayer mint execution transferChecked before
  let commitment := sha256 (preimage committed)
  let guard := guardWith programAddress mint (transferRequest mint execution commitment)
  { instructions := before ++ [guard, transferChecked], guard, transferChecked, committed, commitment := commitment.bytes }

theorem downstreamCommitment_eq (sha256 : List UInt8 → Chunk 32) (instruction : CommittedInstruction) :
    downstreamCommitment sha256 instruction =
      if Encodable instruction.toProgram then .ok (sha256 (preimage instruction)).bytes else .error lengthError := by
  rw [downstreamCommitment, downstreamCommitmentPreimage_eq]
  split <;> rfl
theorem ofRequest_transferRequest (mint : Address) (execution : Instruction.AssertSafeExecution) (commitment : Chunk 32) :
    ofRequest (transferRequest mint execution commitment) =
      ⟨ofExecution execution, mint.text, DownstreamAdapterKind.TOKEN_2022_TRANSFER_CHECKED, commitment.bytes⟩ := by
  rw [ofRequest, transferRequest, Address.ofKey_key]
  rfl
theorem guardFor_transfer (programAddress mint : Address) (execution : Instruction.AssertSafeExecution)
    (commitment : Chunk 32) :
    getAssertSafeExecutionV2Instruction programAddress mint (ofExecution execution) commitment.bytes
        DownstreamAdapterKind.TOKEN_2022_TRANSFER_CHECKED =
      .ok (guardWith programAddress mint (transferRequest mint execution commitment)) := by
  have encoded := encode_ofRequest (transferRequest mint execution commitment)
  rw [ofRequest_transferRequest] at encoded
  rw [getAssertSafeExecutionV2Instruction, encoded]
  rfl
theorem encodable_committedTransfer {transferChecked : Kit.Instruction} {mint : Address}
    (supported : assertSupportedTransferChecked transferChecked mint = .ok ()) (instructions : List Kit.Instruction)
    (feePayer : Address) : Encodable (asCommittedInstruction transferChecked instructions feePayer).toProgram ↔
      transferChecked.accounts.length < 2 ^ 32 := by
  obtain ⟨_, ⟨length, _, _⟩, _⟩ := assertSupportedTransferChecked_eq_ok.mp supported
  have data : transferChecked.data.length < 2 ^ 32 := by
    rw [length]
    decide
  simp only [encodable_toProgram, asCommittedInstruction, List.length_map, data, and_true]
/-- A transfer is built exactly when it is one of the mint, its accounts can be counted, and the program has a value for
    what is expected. -/
theorem buildGuardedTransferChecked_iff {sha256 : List UInt8 → Chunk 32} {programAddress feePayer mint : Address}
    {expectation : AssertSafeExecutionRequest} {transferChecked : Kit.Instruction} {before : List Kit.Instruction}
    {built : GuardedTransferChecked} :
    buildGuardedTransferChecked sha256 programAddress feePayer mint expectation transferChecked before = .ok built ↔
      assertSupportedTransferChecked transferChecked mint = .ok () ∧ transferChecked.accounts.length < 2 ^ 32 ∧
      ∃ execution, ofExecution execution = expectation ∧
        built = builtTransfer sha256 programAddress feePayer mint execution transferChecked before := by
  unfold buildGuardedTransferChecked
  rw [then_eq_ok]
  refine and_congr_right fun supported => ?_
  have hashes (instructions : List Kit.Instruction) :=
    downstreamCommitment_eq sha256 (asCommittedInstruction transferChecked instructions feePayer)
  simp only [encodable_committedTransfer supported] at hashes
  have placed (execution : Instruction.AssertSafeExecution) :=
    guardFor_transfer programAddress mint execution ⟨List.replicate 32 0, List.length_replicate⟩
  dsimp only at placed ⊢
  constructor
  · intro made
    have encoded := made
    obtain ⟨placeholder, encoded, _⟩ := bind_eq_ok.mp encoded
    obtain ⟨_, _, encoded⟩ := getAssertSafeExecutionV2Instruction_eq_ok encoded
    obtain ⟨execution, rfl⟩ := (execution_representable_iff expectation).mp (representable_of_encoded encoded).1
    rw [placed, ok_bind, hashes] at made
    by_cases counted : transferChecked.accounts.length < 2 ^ 32
    · rw [if_pos counted, ok_bind, guardFor_transfer, ok_bind] at made
      cases made
      exact ⟨counted, execution, rfl, rfl⟩
    · rw [if_neg counted] at made
      cases made
  · rintro ⟨counted, execution, rfl, rfl⟩
    rw [placed, ok_bind, hashes, if_pos counted, ok_bind, guardFor_transfer, ok_bind]
    rfl

end EquityGuard.GuardedTransfer
