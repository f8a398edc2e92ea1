import EquityGuard.GuardedTransfer
import EquityGuard.Processor

/-!
What the Instructions sysvar exposes of a transaction, and which of the guards that the
client builds commit to it. The runtime merges the flags of the whole message and makes
some accounts read-only; the builder of a trade refuses to write those, the builder of a
transfer does not look.
-/
namespace EquityGuard.Exposure
open EquityGuard.Addresses EquityGuard.Bytes EquityGuard.Client EquityGuard.ClientAbi EquityGuard.ClientMintState
open EquityGuard.ClientTrade EquityGuard.Commitments EquityGuard.Downstream EquityGuard.Errors EquityGuard.GuardedTransfer
open EquityGuard.Kit EquityGuard.Transaction
open EquityGuard.Instruction (AssertSafeExecutionV2)
open EquityGuard.Jupiter (AccountInfo Platform encodable_of_fits)

/-! ### The runtime -/

/-- Read-only whatever the instructions ask for: an invoked program, a reserved account, a sysvar. -/
def demoted (invoked : List Address) (address : Address) : Bool :=
  invoked.contains address || RESERVED_ACCOUNTS.contains address.text || "Sysvar".toList.isPrefixOf address.text.toList
/-- An instruction of a transaction as the Instructions sysvar exposes it. -/
def exposed (instructions : List Kit.Instruction) (feePayer : Address) (instruction : Kit.Instruction) :
    CommittedInstruction where
  programAddress := instruction.programAddress
  accounts := instruction.accounts.map (fun account => {
    address := account.address
    isSigner := flagged isSignerRole instructions feePayer account.address
    isWritable := flagged isWritableRole instructions feePayer account.address &&
      !demoted (instructions.map Kit.Instruction.programAddress) account.address })
  data := instruction.data
def exposedTransaction (instructions : List Kit.Instruction) (feePayer : Address) : List CommittedInstruction :=
  instructions.map (exposed instructions feePayer)

theorem contains_addressesWith (role : AccountRole → Bool) (instructions : List Kit.Instruction)
    (feePayer address : Address) :
    (addressesWith role instructions feePayer).contains address = flagged role instructions feePayer address := by
  have member : address ∈ addressesWith role instructions feePayer ↔ flagged role instructions feePayer address = true := by
    simp only [addressesWith, flagged, List.mem_cons, List.mem_flatMap, List.mem_map, List.mem_filter, Bool.or_eq_true,
      decide_eq_true_eq, List.any_eq_true, Bool.and_eq_true]
    refine or_congr Iff.rfl (exists_congr fun instruction => and_congr_right fun _ => exists_congr fun account => ?_)
    tauto
  rw [Bool.eq_iff_iff, List.contains_iff_mem, member]
/-- No account of the target that the transaction writes is one that the runtime makes read-only. -/
def KeepsWritable (target : Kit.Instruction) (instructions : List Kit.Instruction) (invoked : List Address)
    (feePayer : Address) : Prop :=
  ∀ account ∈ target.accounts, flagged isWritableRole instructions feePayer account.address = true →
    demoted invoked account.address = false
instance (target : Kit.Instruction) (instructions : List Kit.Instruction) (invoked : List Address) (feePayer : Address) :
    Decidable (KeepsWritable target instructions invoked feePayer) := by delta KeepsWritable; infer_instance
theorem exposed_eq_committed_iff (target : Kit.Instruction) (instructions : List Kit.Instruction) (feePayer : Address) :
    exposed instructions feePayer target = asCommittedInstruction target instructions feePayer ↔
      KeepsWritable target instructions (instructions.map Kit.Instruction.programAddress) feePayer := by
  simp only [exposed, asCommittedInstruction, CommittedInstruction.mk.injEq, true_and, and_true, List.map_inj_left,
    CommittedAccount.mk.injEq, KeepsWritable]
  refine forall₂_congr fun account _ => ?_
  cases flagged isWritableRole instructions feePayer account.address <;> simp

/-- The builder of a trade knows what will be exposed, and refuses to write what the runtime demotes. -/
theorem sysvarView_eq_ok {instructions : List Kit.Instruction} {feePayer : Address} {views : List CommittedInstruction} :
    sysvarView instructions feePayer = .ok views ↔
      (∀ address, flagged isWritableRole instructions feePayer address = true →
        demoted (instructions.map Kit.Instruction.programAddress) address = false) ∧
      views = exposedTransaction instructions feePayer := by
  let refused := (addressesWith isWritableRole instructions feePayer).find?
    (demoted (instructions.map Kit.Instruction.programAddress))
  have view : sysvarView instructions feePayer = refused.elim
      (.ok (instructions.map (asCommittedInstruction · instructions feePayer)))
      (fun key => .error (.GuardClientError .InvalidDownstream
        [key, " is writable but the runtime would demote it; refusing to commit to flags it will not expose"] none)) := by
    simp only [sysvarView, contains_addressesWith]
    split
    · rename_i key found
      rw [show refused = some key from found]
      rfl
    · rename_i found
      rw [show refused = none from found]
      rfl
  have writes (address : Address) : address ∈ addressesWith isWritableRole instructions feePayer ↔
      flagged isWritableRole instructions feePayer address = true := by
    rw [← contains_addressesWith, List.contains_iff_mem]
  rw [view]
  cases found : refused with
  | some key =>
    have bad := List.find?_some found
    have written := (writes key).mp (List.mem_of_find?_eq_some found)
    refine iff_of_false (fun refusal => by cases refusal) (fun kept => ?_)
    rw [kept.1 key written] at bad
    cases bad
  | none =>
    have kept (address : Address) (written : flagged isWritableRole instructions feePayer address = true) :
        demoted (instructions.map Kit.Instruction.programAddress) address = false :=
      Bool.eq_false_iff.mpr (List.find?_eq_none.mp found address ((writes address).mpr written))
    have committed : instructions.map (asCommittedInstruction · instructions feePayer) =
        exposedTransaction instructions feePayer := by
      refine List.map_congr_left fun instruction _ => ?_
      exact ((exposed_eq_committed_iff instruction instructions feePayer).mpr fun account _ => kept account.address).symm
    rw [committed, Option.elim_none, Except.ok.injEq]
    exact ⟨fun same => ⟨kept, same.symm⟩, fun same => same.2.symm⟩

/-! ### Two mergers of flags -/

/-- The fee payer, and every account that some instruction writes. -/
def Written (instructions : List Kit.Instruction) (feePayer address : Address) : Prop :=
  address = feePayer ∨ ∃ instruction ∈ instructions, ∃ account ∈ instruction.accounts,
    account.address = address ∧ (account.role = .WRITABLE ∨ account.role = .WRITABLE_SIGNER)
/-- What the builder of a trade refuses to write. -/
def Unwritable (instructions : List Kit.Instruction) (address : Address) : Prop :=
  (∃ instruction ∈ instructions, instruction.programAddress = address) ∨ address.text ∈ RESERVED_ACCOUNTS ∨
    "Sysvar".toList <+: address.text.toList

theorem flagged_writable_iff {instructions : List Kit.Instruction} {feePayer address : Address} :
    flagged isWritableRole instructions feePayer address = true ↔ Written instructions feePayer address := by
  simp only [flagged, Written, isWritableRole, Bool.or_eq_true, decide_eq_true_eq, List.any_eq_true, Bool.and_eq_true]
theorem demoted_iff {instructions : List Kit.Instruction} {address : Address} :
    demoted (instructions.map Kit.Instruction.programAddress) address = true ↔ Unwritable instructions address := by
  simp only [demoted, Unwritable, Bool.or_eq_true, List.contains_iff_mem, List.mem_map, List.isPrefixOf_iff_prefix, or_assoc]
/-- The flags merged account by account are those merged over the whole message, which is refused
    exactly when it writes what cannot be written. -/
theorem flag_merging_agrees (instructions : List Kit.Instruction) (feePayer : Address) :
    (∀ views, sysvarView instructions feePayer = .ok views → views.length = instructions.length ∧
      ∀ i (inside : i < instructions.length),
        views[i]? = some (asCommittedInstruction instructions[i] instructions feePayer)) ∧
    ((∃ error, sysvarView instructions feePayer = .error error) ↔
      ∃ address, Written instructions feePayer address ∧ Unwritable instructions address) := by
  constructor
  · intro views viewed
    obtain ⟨kept, rfl⟩ := sysvarView_eq_ok.mp viewed
    refine ⟨List.length_map _, fun i inside => ?_⟩
    rw [exposedTransaction, List.getElem?_map, List.getElem?_eq_getElem inside, Option.map_some, Option.some.injEq]
    exact (exposed_eq_committed_iff _ _ _).mpr fun account _ => kept account.address
  · have answers : (∃ views, sysvarView instructions feePayer = .ok views) ↔
        ∀ address, flagged isWritableRole instructions feePayer address = true →
          demoted (instructions.map Kit.Instruction.programAddress) address = false := by
      simp only [sysvarView_eq_ok, exists_and_left, exists_eq, and_true]
    rw [exists_error_iff, answers]
    push Not
    refine exists_congr fun address => and_congr flagged_writable_iff ?_
    rw [ne_eq, Bool.not_eq_false, demoted_iff]

/-! ### A payload is not seen -/

/-- Transactions that differ in the data of their first instruction alone are exposed with the same flags. -/
theorem exposed_congr {left right : List Kit.Instruction}
    (programs : left.map Kit.Instruction.programAddress = right.map Kit.Instruction.programAddress)
    (accounts : left.map Kit.Instruction.accounts = right.map Kit.Instruction.accounts) (feePayer : Address)
    (instruction : Kit.Instruction) : exposed left feePayer instruction = exposed right feePayer instruction := by
  simp only [exposed, flagged_congr accounts, programs]
/-- A payload is not seen by the flags, nor by what follows the guard. -/
theorem sysvarView_payload {guard other : Kit.Instruction} (program : guard.programAddress = other.programAddress)
    (accounts : guard.accounts = other.accounts) {suffix : List Kit.Instruction} {feePayer : Address}
    {views : List CommittedInstruction} (viewed : sysvarView (guard :: suffix) feePayer = .ok views) :
    ∃ final, sysvarView (other :: suffix) feePayer = .ok final ∧
      final.map CommittedInstruction.accounts = views.map CommittedInstruction.accounts ∧ final.drop 1 = views.drop 1 := by
  obtain ⟨kept, rfl⟩ := sysvarView_eq_ok.mp viewed
  have programs : (other :: suffix).map Kit.Instruction.programAddress =
      (guard :: suffix).map Kit.Instruction.programAddress := by rw [List.map_cons, List.map_cons, program]
  have lists : (other :: suffix).map Kit.Instruction.accounts = (guard :: suffix).map Kit.Instruction.accounts := by
    rw [List.map_cons, List.map_cons, accounts]
  have same : exposed (other :: suffix) feePayer = exposed (guard :: suffix) feePayer :=
    funext (exposed_congr programs lists feePayer)
  refine ⟨_, sysvarView_eq_ok.mpr ⟨?_, rfl⟩, ?_, ?_⟩
  · intro address written
    rw [programs]
    exact kept address ((flagged_congr lists isWritableRole feePayer address).symm.trans written)
  · simp only [exposedTransaction, same, List.map_cons, List.cons.injEq, and_true]
    simp only [exposed, accounts]
  · rw [exposedTransaction, exposedTransaction, same]
    rfl

/-! ### A guarded transfer -/

theorem flagged_append (role : AccountRole → Bool) (left right : List Kit.Instruction) (feePayer address : Address) :
    flagged role (left ++ right) feePayer address =
      (flagged role left feePayer address || flagged role right feePayer address) := by
  unfold flagged
  rw [List.any_append]
  cases decide (address = feePayer) <;> simp
/-- A guard writes nothing, so it does not count. -/
theorem keepsWritable_guard {guard transferChecked : Kit.Instruction} {before : List Kit.Instruction} {mint feePayer : Address}
    (accounts : guard.accounts = [⟨mint, .READONLY⟩, ⟨SYSVAR_INSTRUCTIONS_ADDRESS, .READONLY⟩]) :
    KeepsWritable transferChecked (before ++ [guard, transferChecked])
        ((before ++ [guard, transferChecked]).map Kit.Instruction.programAddress) feePayer ↔
      KeepsWritable transferChecked (before ++ [transferChecked])
        ((before ++ [transferChecked]).map Kit.Instruction.programAddress ++ [guard.programAddress]) feePayer := by
  have writes (address : Address) : flagged isWritableRole (before ++ [guard, transferChecked]) feePayer address =
      flagged isWritableRole (before ++ [transferChecked]) feePayer address := by
    have guarded : flagged isWritableRole [guard] feePayer address = decide (address = feePayer) := by
      simp [flagged, accounts, isWritableRole]
    rw [List.append_cons, flagged_append, flagged_append, guarded, flagged_append, flagged]
    cases decide (address = feePayer) <;> simp
  have demotes (address : Address) : demoted ((before ++ [guard, transferChecked]).map Kit.Instruction.programAddress) address =
      demoted ((before ++ [transferChecked]).map Kit.Instruction.programAddress ++ [guard.programAddress]) address := by
    have invoked : ((before ++ [guard, transferChecked]).map Kit.Instruction.programAddress).contains address =
        ((before ++ [transferChecked]).map Kit.Instruction.programAddress ++ [guard.programAddress]).contains address := by
      rw [Bool.eq_iff_iff]
      simp only [List.contains_iff_mem, List.map_append, List.map_cons, List.map_nil, List.mem_append, List.mem_cons,
        List.not_mem_nil, or_false]
      tauto
    rw [demoted, demoted, invoked]
  simp only [KeepsWritable, writes, demotes]
theorem isTransferChecked_exposed {transferChecked : Kit.Instruction} {mint : Address}
    (supported : assertSupportedTransferChecked transferChecked mint = .ok ()) (instructions : List Kit.Instruction)
    (feePayer : Address) : IsTransferChecked (exposed instructions feePayer transferChecked).toProgram mint.key := by
  obtain ⟨program, ⟨length, tag, enough⟩, atMint⟩ := assertSupportedTransferChecked_eq_ok.mp supported
  obtain ⟨account, read, rfl⟩ := Option.map_eq_some_iff.mp atMint
  refine ⟨congrArg Address.key program, length, tag, ?_, ?_⟩
  · simpa only [exposed, CommittedInstruction.toProgram, List.length_map] using enough
  · simp only [exposed, CommittedInstruction.toProgram, List.getElem?_map, read]
    rfl
/-- The guard stands right before the transfer, and both are exposed there. -/
theorem exposed_positions {before : List Kit.Instruction} {guard transferChecked : Kit.Instruction} (feePayer : Address) :
    let instructions := before ++ [guard, transferChecked]
    let shown := (exposedTransaction instructions feePayer).map CommittedInstruction.toProgram
    shown[before.length]? = some (exposed instructions feePayer guard).toProgram ∧
      shown[before.length + 1]? = some (exposed instructions feePayer transferChecked).toProgram := by
  intro instructions shown
  have guardAt : instructions[before.length]? = some guard := by simp [instructions]
  have transferAt : instructions[before.length + 1]? = some transferChecked := by simp [instructions]
  refine ⟨?_, ?_⟩
  · simp only [shown, exposedTransaction, List.getElem?_map, guardAt, Option.map_some]
  · simp only [shown, exposedTransaction, List.getElem?_map, transferAt, Option.map_some]

/-- The program compares what it is shown with what the client committed to. -/
theorem verify_built {crates : Crates} (documented : crates.Documented) (platform : Platform)
    (programAddress feePayer mint : Address) (execution : Instruction.AssertSafeExecution) (transferChecked : Kit.Instruction)
    (before : List Kit.Instruction) (supported : assertSupportedTransferChecked transferChecked mint = .ok ())
    {instructions_sysvar : AccountInfo} {current : UInt16} (position : current.toNat = before.length) :
    let built := builtTransfer platform.sha256 programAddress feePayer mint execution transferChecked before
    let request := transferRequest mint execution (platform.sha256 (preimage built.committed))
    let instructions := (exposedTransaction built.instructions feePayer).map CommittedInstruction.toProgram
    Sysvar.Fits instructions → Exposes instructions_sysvar instructions current →
    verify_downstream crates platform programAddress.key built.guard.data request mint.key instructions_sysvar =
      refuse_if (platform.sha256 (preimage (exposed built.instructions feePayer transferChecked)) ≠
        platform.sha256 (preimage built.committed)) .DownstreamCommitmentMismatch := by
  intro built request instructions fits shown
  obtain ⟨guardAt, transferAt⟩ := @exposed_positions before built.guard transferChecked feePayer
  rw [← position] at guardAt transferAt
  exact verify_downstream_of documented fits shown guardAt rfl rfl transferAt
    (isTransferChecked_exposed supported built.instructions feePayer)
/-- The client committed to what the program is shown, exactly when the runtime leaves the flags of the transfer alone. -/
theorem exposed_eq_built_iff (sha256 : List UInt8 → Chunk 32) (programAddress feePayer mint : Address)
    (execution : Instruction.AssertSafeExecution) (transferChecked : Kit.Instruction) (before : List Kit.Instruction) :
    let built := builtTransfer sha256 programAddress feePayer mint execution transferChecked before
    exposed built.instructions feePayer transferChecked = built.committed ↔
      KeepsWritable transferChecked (before ++ [transferChecked])
        ((before ++ [transferChecked]).map Kit.Instruction.programAddress ++ [programAddress]) feePayer := by
  intro built
  have accounts : built.guard.accounts = [⟨mint, .READONLY⟩, ⟨SYSVAR_INSTRUCTIONS_ADDRESS, .READONLY⟩] := rfl
  have committed : built.committed = asCommittedInstruction transferChecked built.instructions feePayer :=
    asCommittedInstruction_congr (by simp [built, builtTransfer, guardWith])
  rw [committed, exposed_eq_committed_iff]
  exact keepsWritable_guard accounts
theorem preimage_injective {left right : CommittedInstruction} (leftFits : Encodable left.toProgram)
    (rightFits : Encodable right.toProgram) (same : preimage left = preimage right) : left = right :=
  CommittedInstruction.toProgram_injective
    (delimited_instruction.injective leftFits rightFits (List.append_cancel_left same))

/-- Two preimages that differ have two digests. -/
def CollisionFree (platform : Platform) (left right : CommittedInstruction) : Prop :=
  platform.sha256 (preimage left) = platform.sha256 (preimage right) → preimage left = preimage right
/-- The program accepts a transfer behind the guard that was built for it exactly when the runtime leaves writable every
    account of the transfer that the transaction writes. The builder does not look whether it does. -/
theorem guarded_transfer_accepted_exactly {crates : Crates} (documented : crates.Documented) (platform : Platform)
    (programAddress feePayer mint : Address) (expectation : AssertSafeExecutionRequest) (transferChecked : Kit.Instruction)
    (before : List Kit.Instruction) (built : GuardedTransferChecked)
    (made : buildGuardedTransferChecked platform.sha256 programAddress feePayer mint expectation transferChecked before =
      .ok built)
    (instructions_sysvar : AccountInfo) (current : UInt16) (position : current.toNat = before.length)
    (fits : Sysvar.Fits ((exposedTransaction built.instructions feePayer).map CommittedInstruction.toProgram))
    (shown : Exposes instructions_sysvar
      ((exposedTransaction built.instructions feePayer).map CommittedInstruction.toProgram) current) :
    let keeps := KeepsWritable transferChecked (before ++ [transferChecked])
      ((before ++ [transferChecked]).map Kit.Instruction.programAddress ++ [programAddress]) feePayer
    ∃ request, AssertSafeExecutionV2.unpack built.guard.data = .ok request ∧
      ofRequest request =
        ⟨expectation, mint.text, DownstreamAdapterKind.TOKEN_2022_TRANSFER_CHECKED, built.commitment⟩ ∧
      (keeps → verify_downstream crates platform programAddress.key built.guard.data request mint.key
        instructions_sysvar = .ok ()) ∧
      (CollisionFree platform (exposed built.instructions feePayer transferChecked) built.committed →
        (verify_downstream crates platform programAddress.key built.guard.data request mint.key instructions_sysvar = .ok () ↔
          keeps)) := by
  obtain ⟨supported, counted, execution, rfl, rfl⟩ := buildGuardedTransferChecked_iff.mp made
  have verdict := verify_built documented platform programAddress feePayer mint execution transferChecked before supported
    position fits shown
  have keepsFlags := exposed_eq_built_iff platform.sha256 programAddress feePayer mint execution transferChecked before
  intro keeps
  refine ⟨transferRequest mint execution (platform.sha256 (preimage
    (builtTransfer platform.sha256 programAddress feePayer mint execution transferChecked before).committed)),
    AssertSafeExecutionV2.unpack_pack _, ofRequest_transferRequest _ _ _, ?_, ?_⟩
  · intro kept
    rw [verdict, keepsFlags.mpr kept]
    exact refuse_if_eq_ok.mpr (not_not.mpr rfl)
  · intro collisionFree
    rw [verdict, refuse_if_eq_ok, not_not]
    refine Iff.trans ?_ keepsFlags
    constructor
    · intro same
      obtain ⟨_, transferAt⟩ := @exposed_positions before
        (builtTransfer platform.sha256 programAddress feePayer mint execution transferChecked before).guard transferChecked
        feePayer
      exact preimage_injective (encodable_of_fits fits _ (List.mem_of_getElem? transferAt))
        ((encodable_committedTransfer supported _ feePayer).mpr counted) (collisionFree same)
    · intro same
      rw [same]

def transferGuard : Address := address "LbUiWL3xVV8hTFYBVdbTNrpDo41NKS6o3LHHuDzjfcY" (by decide +kernel)
def transferMint : Address := address "cGfHiC6Kgg3FpFZvgwGcswsCRtp4aBP2fzuXRQPizuN" (by decide +kernel)
def sender : Address := address "US517G5965aydkZ46HS38QLi7UQiSojurfbQfKCELFx" (by decide +kernel)
def senderTokens : Address := address "4vJ9JU1bJJE96FWSJKvHsmmFADCg4gpZQff4P3bkLKi" (by decide +kernel)
def recipientTokens : Address := address "8qbHbw2BbbTHBW1sbeqakYXVKRQM8Ne7pLK7m6CVfeR" (by decide +kernel)
/-- A transfer that also names the token program itself, with this role. -/
def transferNaming (role : AccountRole) : Kit.Instruction where
  programAddress := TOKEN_2022_PROGRAM_ADDRESS
  accounts := [⟨senderTokens, .WRITABLE⟩, ⟨transferMint, .READONLY⟩, ⟨recipientTokens, .WRITABLE⟩,
    ⟨sender, .READONLY_SIGNER⟩, ⟨TOKEN_2022_PROGRAM_ADDRESS, role⟩]
  data := Processor.transfer.data
/-- The transfer with the program read-only, as a transaction of it alone exposes it. -/
def shownNaming : CommittedInstruction :=
  asCommittedInstruction (transferNaming .READONLY) [transferNaming .READONLY] sender
def readonlyDigest : Chunk 32 := ⟨[0x9d, 0xb9, 0x00, 0x58, 0x72, 0x5b, 0x0f, 0xeb, 0xd6, 0xc8, 0xc5, 0xf3, 0xf7, 0xf7, 0x0a,
  0xab, 0x4b, 0x7c, 0x03, 0x3e, 0xad, 0x6f, 0xb5, 0x2d, 0xbe, 0x5f, 0x46, 0x62, 0x23, 0x17, 0xb1, 0xf0], rfl⟩
def writableDigest : Chunk 32 := ⟨[0xcc, 0xb2, 0x5a, 0x86, 0xbe, 0xd7, 0x8d, 0x77, 0x03, 0x89, 0x3d, 0x9c, 0x50, 0xe8, 0xa9,
  0xda, 0xff, 0x00, 0x7f, 0x2d, 0x7b, 0x7d, 0x95, 0x50, 0x7d, 0x59, 0xec, 0xcf, 0xd1, 0x08, 0xf6, 0x96], rfl⟩
/-- The digests of that transfer with the program read-only, and with the program writable. -/
def namingPlatform : Platform where
  sha256 bytes := if bytes = preimage shownNaming then readonlyDigest else writableDigest
  find_program_address := fun _ program => program
theorem namingPlatform_digest {instruction : CommittedInstruction} (fits : Encodable instruction.toProgram) :
    namingPlatform.sha256 (preimage instruction) = if instruction = shownNaming then readonlyDigest else writableDigest := by
  have shownFits : Encodable shownNaming.toProgram := (encodable_toProgram _).mpr
    ⟨Nat.le_of_ble_eq_true rfl, Nat.le_of_ble_eq_true rfl⟩
  have same : preimage instruction = preimage shownNaming ↔ instruction = shownNaming :=
    ⟨preimage_injective fits shownFits, congrArg preimage⟩
  simp only [namingPlatform, same]
/-- What is built for it. -/
def builtNaming (role : AccountRole) : GuardedTransferChecked :=
  builtTransfer namingPlatform.sha256 transferGuard sender transferMint Processor.transferRequest.execution (transferNaming role) []
def namingTransaction (role : AccountRole) : List Transaction.Instruction :=
  (exposedTransaction (builtNaming role).instructions sender).map CommittedInstruction.toProgram
/-- The sysvar of that transaction while its guard executes. -/
def namingSysvar (role : AccountRole) : AccountInfo :=
  ⟨INSTRUCTIONS_SYSVAR_ID, Processor.repeated 0, some (Sysvar.serialize (namingTransaction role) 0)⟩
theorem supported_naming (role : AccountRole) :
    assertSupportedTransferChecked (transferNaming role) transferMint = .ok () := by
  rw [assertSupportedTransferChecked_eq_ok]
  exact ⟨rfl, ⟨rfl, rfl, Nat.le_add_left 4 1⟩, rfl⟩
theorem built_naming (role : AccountRole) :
    buildGuardedTransferChecked namingPlatform.sha256 transferGuard sender transferMint
      (ofExecution Processor.transferRequest.execution) (transferNaming role) [] = .ok (builtNaming role) :=
  buildGuardedTransferChecked_iff.mpr ⟨supported_naming role, Nat.le_of_ble_eq_true rfl, _, rfl, rfl⟩
theorem naming_fits (role : AccountRole) : Sysvar.Fits (namingTransaction role) := by
  refine Sysvar.fits_of_size ?_
  have guard : (builtNaming role).guard.data.length = 99 := AssertSafeExecutionV2.pack_length _
  show 3 + (2 + (builtNaming role).guard.data.length) + (3 + (5 + 10) + 0) ≤ 1232
  omega
/-- Named read-only, the program does no harm. -/
theorem guarded_transfer_accepted_exactly_readonly : ∃ request,
    AssertSafeExecutionV2.unpack (builtNaming .READONLY).guard.data = .ok request ∧
    verify_downstream Downstream.documented namingPlatform transferGuard.key (builtNaming .READONLY).guard.data request
      transferMint.key (namingSysvar .READONLY) = .ok () := by
  obtain ⟨request, unpacked, _, accepted, _⟩ := guarded_transfer_accepted_exactly documented_correct namingPlatform _ _ _ _ _ _
    _ (built_naming .READONLY) (namingSysvar .READONLY) 0 rfl (naming_fits .READONLY) ⟨rfl, rfl⟩
  exact ⟨request, unpacked, accepted (by decide)⟩
/-- Named writable, it is exposed read-only, and the guard that was built for the transfer rejects it. -/
theorem guarded_transfer_rejected :
    buildGuardedTransferChecked namingPlatform.sha256 transferGuard sender transferMint
      (ofExecution Processor.transferRequest.execution) (transferNaming .WRITABLE) [] = .ok (builtNaming .WRITABLE) ∧
    Sysvar.Fits (namingTransaction .WRITABLE) ∧
    ∃ request, AssertSafeExecutionV2.unpack (builtNaming .WRITABLE).guard.data = .ok request ∧
      verify_downstream Downstream.documented namingPlatform transferGuard.key (builtNaming .WRITABLE).guard.data request
        transferMint.key (namingSysvar .WRITABLE) = .error .DownstreamCommitmentMismatch := by
  have shown : exposed (builtNaming .WRITABLE).instructions sender (transferNaming .WRITABLE) = shownNaming := by
    decide
  have committed : (builtNaming .WRITABLE).committed ≠ shownNaming := by decide
  refine ⟨built_naming .WRITABLE, naming_fits .WRITABLE, _, AssertSafeExecutionV2.unpack_pack _, ?_⟩
  have verdict := verify_built documented_correct namingPlatform transferGuard sender transferMint
    Processor.transferRequest.execution (transferNaming .WRITABLE) [] (supported_naming .WRITABLE) (rfl : (0 : UInt16).toNat = _)
    (naming_fits .WRITABLE) (⟨rfl, rfl⟩ : Exposes (namingSysvar .WRITABLE) _ 0)
  have fits : Encodable (builtNaming .WRITABLE).committed.toProgram :=
    (encodable_committedTransfer (supported_naming .WRITABLE) _ sender).mpr (Nat.le_of_ble_eq_true rfl)
  have shownFits : Encodable (exposed (builtNaming .WRITABLE).instructions sender (transferNaming .WRITABLE)).toProgram :=
    (encodable_toProgram _).mpr ⟨Nat.le_of_ble_eq_true rfl, Nat.le_of_ble_eq_true rfl⟩
  refine verdict.trans (if_pos fun same => ?_)
  rw [← builtNaming, namingPlatform_digest shownFits, namingPlatform_digest fits, if_pos shown, if_neg committed] at same
  exact absurd same (by decide)

end EquityGuard.Exposure
