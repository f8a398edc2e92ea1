import EquityGuard.Exposure
import EquityGuard.SessionMint
import EquityGuard.SwapCompose

/-!
What a wallet may change of a transaction it signs. Both applications compare the signed
message with the unsigned one, instruction by instruction; the program looks at the whole
message instead. A wallet that passes has put compute budget in front, and the program
sees the guard and its transfer as before.
-/
namespace EquityGuard.WalletSigning
open EquityGuard.Addresses EquityGuard.Client EquityGuard.ClientMintState EquityGuard.ClientTrade
open EquityGuard.Downstream EquityGuard.Errors EquityGuard.Exposure EquityGuard.GuardedTransfer EquityGuard.Kit
open EquityGuard.SessionMint EquityGuard.SwapCompose EquityGuard.Transaction
open EquityGuard.Instruction (AssertSafeExecutionV2)
open EquityGuard.Jupiter (AccountInfo Platform)

/-! ### The kit -/

/-- `Transaction`: the signatures are a record by signer, in its order. -/
structure SignedTransaction where
  messageBytes : List UInt8
  signatures : List (Address × Option (List UInt8))
structure DecodedMessage extends CompiledTransactionMessage where
  lifetimeToken : String
/-- A decoded instruction leaves out accounts and data that it does not have. -/
structure DecodedInstruction where
  programAddress : Address
  accounts : Option (List Kit.AccountMeta)
  data : Option (List UInt8)
deriving DecidableEq
/-- The kit's decoders. Where they throw their own error, here they give nothing. -/
structure Decoders where
  /-- `getTransactionDecoder().decode`. -/
  decodeTransaction : List UInt8 → Option SignedTransaction
  /-- `getCompiledTransactionMessageDecoder().decode`. -/
  decodeMessage : List UInt8 → Option DecodedMessage
  getInstructionsFromCompiledTransactionMessage : DecodedMessage → Option (List DecodedInstruction)

section
variable (message : DecodedMessage)

/-- A message's header says of every one of its accounts whether it signs. -/
def signsAt (index : Nat) : Bool := index < message.header.numSignerAccounts
/-- Of the signers, and of the others, those that may be written come first. -/
def writesAt (index : Nat) : Bool :=
  if index < message.header.numSignerAccounts then
    index < message.header.numSignerAccounts - message.header.numReadonlySignerAccounts
  else index < message.staticAccounts.length - message.header.numReadonlyNonSignerAccounts

/-- An account of a decoded instruction has the role that the header gives it. -/
def DecodesAccount (index : Nat) (account : Kit.AccountMeta) : Prop :=
  message.staticAccounts[index]? = some account.address ∧
  isSignerRole account.role = signsAt message index ∧ isWritableRole account.role = writesAt message index
structure Decodes (compiled : CompiledInstruction) (instruction : DecodedInstruction) : Prop where
  program : message.staticAccounts[compiled.programAddressIndex]? = some instruction.programAddress
  accounts : List.Forall₂ (DecodesAccount message) (compiled.accountIndices.getD []) (instruction.accounts.getD [])
  data : compiled.data.getD [] = instruction.data.getD []

end

/-- The roles of a decoded instruction are those of the message. -/
structure Decoders.Documented (kit : Decoders) : Prop where
  instructions : ∀ message instructions, message.version = .legacy →
    kit.getInstructionsFromCompiledTransactionMessage message = some instructions →
    List.Forall₂ (Decodes message) message.instructions instructions

/-! ### The two checks -/

def COMPUTE_BUDGET_PROGRAM : String := "ComputeBudget111111111111111111111111111111"

def sameBytes : Option (List UInt8) → Option (List UInt8) → Bool
  | some left, some right =>
    decide (left.length = right.length) && (List.range left.length).all (fun index => left[index]? = right[index]?)
  | left, right => left.isNone && right.isNone
/-- `left.every((item, index) => right[index] !== undefined && test(item, right[index]))`. -/
def everyAt {α β : Type} (left : List α) (right : List β) (test : α → β → Bool) : Bool :=
  left.zipIdx.all (fun (item, index) => right[index]?.any (test item))
def sameInstruction (left right : DecodedInstruction) : Bool :=
  if left.programAddress ≠ right.programAddress ∨ sameBytes left.data right.data = false then false
  else
    let leftAccounts := left.accounts.getD []
    let rightAccounts := right.accounts.getD []
    decide (leftAccounts.length = rightAccounts.length) && everyAt leftAccounts rightAccounts
      (fun account other => account.address = other.address && account.role = other.role)
def isSetComputeUnitLimit (data : List UInt8) : Bool := data.length = 5 && data[0]? = some 2
def isSetComputeUnitPrice (data : List UInt8) : Bool := data.length = 9 && data[0]? = some 3
def isAllowedComputeBudgetPrefix (instruction : DecodedInstruction) : Bool :=
  match instruction.data with
  | none => false
  | some data =>
    if instruction.programAddress.text ≠ COMPUTE_BUDGET_PROGRAM ∨ (instruction.accounts.getD []).length ≠ 0 then false
    else isSetComputeUnitLimit data || isSetComputeUnitPrice data
/-- `instruction.data?.[0]`. -/
def discriminator (instruction : DecodedInstruction) : Option UInt8 := instruction.data.bind (·[0]?)

structure Verified where
  signature : String
  guardInstructionIndex : Nat
deriving DecidableEq
/-- What both applications check; they differ in what they throw. -/
def verifyWalletSigned {ε : Type} (refused : String → ε) (thrown : JsError → ε) (kit : Decoders)
    (unsignedTransaction : SignedTransaction) (signedWire : List UInt8) : Except ε Verified := do
  let signedTransaction ← (orSolanaError (kit.decodeTransaction signedWire)).mapError thrown
  let unsignedMessage ← (orSolanaError (kit.decodeMessage unsignedTransaction.messageBytes)).mapError thrown
  let signedMessage ← (orSolanaError (kit.decodeMessage signedTransaction.messageBytes)).mapError thrown
  refuse_if (unsignedMessage.version ≠ .legacy ∨ signedMessage.version ≠ .legacy)
    (refused "Phantom returned an unexpected transaction version")
  let unsignedSigners := unsignedMessage.staticAccounts.take unsignedMessage.header.numSignerAccounts
  let signedSigners := signedMessage.staticAccounts.take signedMessage.header.numSignerAccounts
  refuse_if (unsignedSigners.length ≠ 1 ∨ signedSigners.length ≠ 1 ∨ signedSigners[0]? ≠ unsignedSigners[0]? ∨
      unsignedMessage.lifetimeToken ≠ signedMessage.lifetimeToken)
    (refused "Phantom changed the transaction signer or lifetime")
  let unsignedInstructions ←
    (orSolanaError (kit.getInstructionsFromCompiledTransactionMessage unsignedMessage)).mapError thrown
  let signedInstructions ←
    (orSolanaError (kit.getInstructionsFromCompiledTransactionMessage signedMessage)).mapError thrown
  let prefixLength : Int := signedInstructions.length - unsignedInstructions.length
  refuse_if (prefixLength < 0 ∨ prefixLength > 2) (refused "Phantom returned an unexpected signed transaction shape")
  let added := signedInstructions.take prefixLength.toNat
  let discriminators := added.map discriminator
  refuse_if (added.all isAllowedComputeBudgetPrefix = false ∨ discriminators.dedup.length ≠ discriminators.length)
    (refused "Phantom added an unsupported transaction instruction")
  let signedSuffix := signedInstructions.drop prefixLength.toNat
  refuse_if (everyAt unsignedInstructions signedSuffix sameInstruction = false)
    (refused "Phantom changed a protected transaction instruction while signing")
  let signatureBytes ← ok_or (refused "Phantom returned an unsigned transaction")
    (signedTransaction.signatures.head?.bind Prod.snd)
  refuse_if (signatureBytes.all (· = 0) = true) (refused "Phantom returned an unsigned transaction")
  return { signature := Base58.encode signatureBytes, guardInstructionIndex := prefixLength.toNat }

namespace Web

def verifyWalletSignedTransaction (kit : Decoders) (unsignedTransaction : SignedTransaction) (signedWire : List UInt8) :
    Page Verified := verifyWalletSigned .Error .thrown kit unsignedTransaction signedWire

end Web

namespace DevnetWalletDemo

/-- What the demo throws while the wallet signs: its own error of that phase, or what the kit throws. -/
inductive DemoError where
  | signing (message : String)
  | thrown (error : JsError)
deriving DecidableEq
def verifyWalletSignedTransaction (kit : Decoders) (unsignedTransaction : SignedTransaction) (signedWire : List UInt8) :
    Except DemoError Verified := verifyWalletSigned .signing .thrown kit unsignedTransaction signedWire

end DevnetWalletDemo

/-! ### What passes -/

/-- An instruction as it stands: a missing list of accounts is an empty one. -/
structure Plain where
  programAddress : Address
  accounts : List Kit.AccountMeta
  data : Option (List UInt8)
deriving DecidableEq
def plain (instruction : DecodedInstruction) : Plain :=
  ⟨instruction.programAddress, instruction.accounts.getD [], instruction.data⟩

theorem sameBytes_iff (left right : Option (List UInt8)) : sameBytes left right = true ↔ left = right := by
  match left, right with
  | none, none => simp [sameBytes]
  | none, some bytes | some bytes, none => simp [sameBytes]
  | some left, some right =>
    simp only [sameBytes, Bool.and_eq_true, decide_eq_true_eq, List.all_eq_true, List.mem_range, Option.some.injEq]
    constructor
    · rintro ⟨length, each⟩
      refine List.ext_getElem? fun index => ?_
      by_cases inside : index < left.length
      · exact each index inside
      · rw [List.getElem?_eq_none (by omega), List.getElem?_eq_none (by omega)]
    · rintro rfl
      exact ⟨rfl, fun _ _ => rfl⟩
theorem everyAt_iff {α β : Type} {left : List α} {right : List β} {test : α → β → Bool}
    (length : right.length = left.length) :
    everyAt left right test = true ↔ List.Forall₂ (fun item other => test item other = true) left right := by
  rw [List.forall₂_iff_get, everyAt, List.all_eq_true]
  constructor
  · intro each
    refine ⟨length.symm, fun index inside others => ?_⟩
    have met := each (left[index], index) (List.mem_zipIdx_iff_getElem?.mpr (List.getElem?_eq_getElem inside))
    simpa [List.getElem?_eq_getElem others] using met
  · rintro ⟨_, each⟩ ⟨item, index⟩ member
    have read : left[index]? = some item := List.mem_zipIdx_iff_getElem?.mp member
    obtain ⟨inside, rfl⟩ := List.getElem?_eq_some_iff.mp read
    have others : index < right.length := by omega
    simpa [List.getElem?_eq_getElem others] using each index inside others
theorem sameInstruction_iff (left right : DecodedInstruction) :
    sameInstruction left right = true ↔ plain left = plain right := by
  simp only [sameInstruction, plain, Plain.mk.injEq]
  by_cases differs : left.programAddress ≠ right.programAddress ∨ sameBytes left.data right.data = false
  · rw [if_pos differs]
    refine iff_of_false Bool.false_ne_true ?_
    rintro ⟨program, _, data⟩
    rw [(sameBytes_iff _ _).mpr data] at differs
    exact differs.elim (fun other => other program) Bool.noConfusion
  · rw [if_neg differs]
    simp only [not_or, not_not, Bool.not_eq_false, sameBytes_iff] at differs
    simp only [Bool.and_eq_true, decide_eq_true_eq, differs, true_and, and_true]
    constructor
    · rintro ⟨length, each⟩
      rw [← List.forall₂_eq_eq_eq]
      refine ((everyAt_iff length.symm).mp each).imp fun account other same => ?_
      cases account
      cases other
      simpa using same
    · intro same
      rw [same]
      refine ⟨rfl, (everyAt_iff rfl).mpr (List.forall₂_same.mpr fun account _ => ?_)⟩
      simp
theorem everyAt_sameInstruction {left right : List DecodedInstruction} (length : right.length = left.length) :
    everyAt left right sameInstruction = true ↔ left.map plain = right.map plain := by
  rw [everyAt_iff length]
  simp only [sameInstruction_iff]
  rw [← List.forall₂_eq_eq_eq, List.forall₂_map_left_iff, List.forall₂_map_right_iff]

/-- What a wallet may put in front: an instruction to the compute budget program, without accounts. -/
structure IsBudget (instruction : DecodedInstruction) : Prop where
  program : instruction.programAddress.text = COMPUTE_BUDGET_PROGRAM
  accounts : instruction.accounts.getD [] = []
  data : ∃ data, instruction.data = some data ∧ (isSetComputeUnitLimit data = true ∨ isSetComputeUnitPrice data = true)
theorem isAllowedComputeBudgetPrefix_iff (instruction : DecodedInstruction) :
    isAllowedComputeBudgetPrefix instruction = true ↔ IsBudget instruction := by
  unfold isAllowedComputeBudgetPrefix
  cases written : instruction.data with
  | none =>
    refine iff_of_false Bool.false_ne_true ?_
    rintro ⟨_, _, data, same, _⟩
    rw [written] at same
    cases same
  | some data =>
    dsimp only
    by_cases other : instruction.programAddress.text ≠ COMPUTE_BUDGET_PROGRAM ∨ (instruction.accounts.getD []).length ≠ 0
    · rw [if_pos other]
      refine iff_of_false Bool.false_ne_true fun budget => ?_
      rcases other with program | accounts
      · exact program budget.program
      · exact accounts (List.length_eq_zero_iff.mpr budget.accounts)
    · rw [if_neg other, Bool.or_eq_true]
      simp only [not_or, not_not, ne_eq, List.length_eq_zero_iff] at other
      constructor
      · intro sets
        exact ⟨other.1, other.2, data, written, sets⟩
      · rintro ⟨_, _, _, same, sets⟩
        rw [written] at same
        cases same
        exact sets

/-- How many of the instructions carry data that passes a test. -/
def countData (test : List UInt8 → Bool) (instructions : List DecodedInstruction) : Nat :=
  instructions.countP (fun instruction => instruction.data.any test)
theorem countData_le_one {test : List UInt8 → Bool} {tag : UInt8}
    (tagged : ∀ data, test data = true → data[0]? = some tag) {instructions : List DecodedInstruction}
    (distinct : (instructions.map discriminator).Nodup) :
    countData test instructions ≤ 1 := by
  have each := List.nodup_iff_count_le_one.mp distinct (some tag)
  refine le_trans ?_ each
  rw [List.count, List.countP_map]
  refine List.countP_mono_left fun instruction _ passes => ?_
  obtain ⟨data, written, passes⟩ := (Option.any_eq_true _ _).mp passes
  simp [discriminator, written, tagged data passes]

/-- The signed instructions are the unsigned ones, behind compute budget alone. -/
structure Prepends (added kept unsigned : List DecodedInstruction) : Prop where
  kept : kept.map plain = unsigned.map plain
  few : added.length ≤ 2
  budget : ∀ instruction ∈ added, IsBudget instruction
  one_limit : countData isSetComputeUnitLimit added ≤ 1
  one_price : countData isSetComputeUnitPrice added ≤ 1
/-- The transactions have the same single signer and the same lifetime. -/
structure SameSigner (unsigned signed : DecodedMessage) : Prop where
  signer : ∃ signer, unsigned.staticAccounts.take unsigned.header.numSignerAccounts = [signer] ∧
    signed.staticAccounts.take signed.header.numSignerAccounts = [signer]
  lifetime : signed.lifetimeToken = unsigned.lifetimeToken

/-- All that a passing check has read. -/
structure Accepts (kit : Decoders) (unsignedTransaction : SignedTransaction) (signedWire : List UInt8) (index : Nat)
    (unsignedMessage signedMessage : DecodedMessage) (unsigned added kept : List DecodedInstruction) : Prop where
  transaction : ∃ signedTransaction, kit.decodeTransaction signedWire = some signedTransaction ∧
    kit.decodeMessage signedTransaction.messageBytes = some signedMessage
  message : kit.decodeMessage unsignedTransaction.messageBytes = some unsignedMessage
  legacy : unsignedMessage.version = .legacy ∧ signedMessage.version = .legacy
  unsigned_read : kit.getInstructionsFromCompiledTransactionMessage unsignedMessage = some unsigned
  signed_read : kit.getInstructionsFromCompiledTransactionMessage signedMessage = some (added ++ kept)
  index_eq : index = added.length
  signer : SameSigner unsignedMessage signedMessage
  prepends : Prepends added kept unsigned

theorem accepts_of_ok {ε : Type} {refused : String → ε} {thrown : JsError → ε} {kit : Decoders}
    {unsignedTransaction : SignedTransaction} {signedWire : List UInt8} {result : Verified}
    (accepted : verifyWalletSigned refused thrown kit unsignedTransaction signedWire = .ok result) :
    ∃ unsignedMessage signedMessage unsigned added kept, Accepts kit unsignedTransaction signedWire
      result.guardInstructionIndex unsignedMessage signedMessage unsigned added kept := by
  unfold verifyWalletSigned at accepted
  simp only [refuse_if_eq_ok, bind_eq_ok, mapError_eq_ok, orSolanaError, ok_or_eq_ok, not_or, not_not,
    pure_eq_ok, Except.ok.injEq, Bool.not_eq_false, ne_eq] at accepted
  obtain ⟨signedTransaction, wire, unsignedMessage, unsignedRead, signedMessage, signedRead, _, legacy,
    _, ⟨oneUnsigned, oneSigned, sameSigner, lifetime⟩, unsigned, unsignedList, signed, signedList, _, ⟨least, most⟩,
    _, ⟨budget, distinct⟩, _, same, signatureBytes, signature, _, nonzero, rfl⟩ := accepted
  have split : ((signed.length : Int) - unsigned.length).toNat = signed.length - unsigned.length := by omega
  rw [split] at budget distinct same ⊢
  have nodup := List.dedup_eq_self.mp ((List.dedup_sublist _).eq_of_length distinct)
  refine ⟨unsignedMessage, signedMessage, unsigned, signed.take (signed.length - unsigned.length),
    signed.drop (signed.length - unsigned.length), ⟨⟨signedTransaction, wire, signedRead⟩, unsignedRead, legacy,
    unsignedList, by rw [List.take_append_drop]; exact signedList, ?_, ⟨?_, lifetime.symm⟩, ?_⟩⟩
  · show signed.length - unsigned.length = _
    rw [List.length_take]
    omega
  · obtain ⟨signer, alone⟩ := List.length_eq_one_iff.mp oneUnsigned
    obtain ⟨other, others⟩ := List.length_eq_one_iff.mp oneSigned
    rw [alone, others, List.getElem?_cons_zero, List.getElem?_cons_zero, Option.some.injEq] at sameSigner
    exact ⟨signer, alone, sameSigner ▸ others⟩
  · refine ⟨?_, by rw [List.length_take]; omega, ?_, ?_, ?_⟩
    · exact ((everyAt_sameInstruction (by rw [List.length_drop]; omega)).mp same).symm
    · intro instruction member
      exact (isAllowedComputeBudgetPrefix_iff instruction).mp (List.all_eq_true.mp budget instruction member)
    · refine @countData_le_one _ 2 (fun data sets => ?_) _ nodup
      rw [isSetComputeUnitLimit, Bool.and_eq_true, decide_eq_true_eq, decide_eq_true_eq] at sets
      exact sets.2
    · refine @countData_le_one _ 3 (fun data sets => ?_) _ nodup
      rw [isSetComputeUnitPrice, Bool.and_eq_true, decide_eq_true_eq, decide_eq_true_eq] at sets
      exact sets.2

/-! ### What the program sees -/

/-- An account of a message as the Instructions sysvar exposes it. -/
def exposedAccount (message : DecodedMessage) (invoked : List Address) (index : Nat) : Option CommittedAccount := do
  let address ← message.staticAccounts[index]?
  return { address, isSigner := signsAt message index, isWritable := writesAt message index && !demoted invoked address }
def exposedInstruction (message : DecodedMessage) (invoked : List Address) (compiled : CompiledInstruction) :
    Option CommittedInstruction := do
  let programAddress ← message.staticAccounts[compiled.programAddressIndex]?
  let accounts ← (compiled.accountIndices.getD []).mapM (exposedAccount message invoked)
  return { programAddress, accounts, data := compiled.data.getD [] }
/-- The instructions of a message as the Instructions sysvar exposes them. -/
def exposedMessage (message : DecodedMessage) : Option (List CommittedInstruction) := do
  let invoked ← message.instructions.mapM (fun compiled => message.staticAccounts[compiled.programAddressIndex]?)
  message.instructions.mapM (exposedInstruction message invoked)
/-- While the instruction at `current` executes, the account is the Instructions sysvar of the message. -/
def Executing (message : DecodedMessage) (account : AccountInfo) (current : UInt16) : Prop :=
  ∃ views, exposedMessage message = some views ∧ Sysvar.Fits (views.map CommittedInstruction.toProgram) ∧
    Exposes account (views.map CommittedInstruction.toProgram) current

/-- A decoded instruction as its roles show it. -/
def shown (invoked : List Address) (instruction : Plain) : CommittedInstruction where
  programAddress := instruction.programAddress
  accounts := instruction.accounts.map (fun account => {
    address := account.address
    isSigner := isSignerRole account.role
    isWritable := isWritableRole account.role && !demoted invoked account.address })
  data := instruction.data.getD []

theorem mapM_of_forall₂ {α β γ : Type} {convert : α → Option γ} {result : β → γ} {related : α → β → Prop}
    (each : ∀ item other, related item other → convert item = some (result other)) {items : List α} {others : List β}
    (all : List.Forall₂ related items others) : items.mapM convert = some (others.map result) := by
  induction all with
  | nil => rfl
  | cons first _ ih =>
    rw [List.mapM_cons, each _ _ first, ih]
    rfl
/-- The decoded instructions show what the sysvar will. -/
theorem exposedMessage_eq {message : DecodedMessage} {instructions : List DecodedInstruction}
    (decoded : List.Forall₂ (Decodes message) message.instructions instructions) :
    exposedMessage message =
      some (instructions.map (fun instruction =>
        shown (instructions.map DecodedInstruction.programAddress) (plain instruction))) := by
  have invoked := @mapM_of_forall₂ _ _ _
    (fun compiled : CompiledInstruction => message.staticAccounts[compiled.programAddressIndex]?)
    DecodedInstruction.programAddress _ (fun _ _ reads => Decodes.program reads) _ _ decoded
  rw [exposedMessage, invoked]
  refine mapM_of_forall₂ (fun compiled instruction reads => ?_) decoded
  have accounts := @mapM_of_forall₂ _ _ _ (exposedAccount message (instructions.map DecodedInstruction.programAddress))
    (fun account : Kit.AccountMeta => (⟨account.address, isSignerRole account.role, isWritableRole account.role &&
      !demoted (instructions.map DecodedInstruction.programAddress) account.address⟩ : CommittedAccount))
    (DecodesAccount message) (fun index account ⟨listed, signs, writes⟩ => by
      rw [exposedAccount, listed, signs, writes]
      rfl) _ _ reads.accounts
  rw [exposedInstruction, reads.program, accounts, reads.data]
  rfl

/-- The compute budget program is reserved: invoking it makes nothing else read-only. -/
theorem demoted_budget {added : List DecodedInstruction} (budget : ∀ instruction ∈ added, IsBudget instruction)
    (invoked : List Address) (address : Address) :
    demoted (added.map DecodedInstruction.programAddress ++ invoked) address = demoted invoked address := by
  rw [Bool.eq_iff_iff]
  simp only [demoted, Bool.or_eq_true, List.contains_iff_mem, List.mem_append, List.mem_map]
  constructor
  · rintro (((⟨instruction, member, rfl⟩ | invoked) | reserved) | sysvar)
    · refine .inl (.inr ?_)
      rw [(budget instruction member).program]
      decide
    · exact .inl (.inl invoked)
    · exact .inl (.inr reserved)
    · exact .inr sysvar
  · rintro ((invoked | reserved) | sysvar)
    · exact .inl (.inl (.inr invoked))
    · exact .inl (.inr reserved)
    · exact .inr sysvar
/-- Behind the compute budget, the sysvar exposes the unsigned transaction. -/
theorem exposed_prepended {kit : Decoders} (documented : kit.Documented) {unsignedTransaction : SignedTransaction}
    {signedWire : List UInt8} {index : Nat} {unsignedMessage signedMessage : DecodedMessage}
    {unsigned added kept : List DecodedInstruction}
    (accepts : Accepts kit unsignedTransaction signedWire index unsignedMessage signedMessage unsigned added kept) :
    ∃ budget views, budget.length = index ∧ exposedMessage unsignedMessage = some views ∧
      exposedMessage signedMessage = some (budget ++ views) := by
  have plainProgram : DecodedInstruction.programAddress = Plain.programAddress ∘ plain := rfl
  have programs : kept.map DecodedInstruction.programAddress = unsigned.map DecodedInstruction.programAddress := by
    rw [plainProgram, ← List.map_map, ← List.map_map, accepts.prepends.kept]
  refine ⟨added.map (fun instruction =>
    shown (added.map DecodedInstruction.programAddress ++ kept.map DecodedInstruction.programAddress) (plain instruction)),
    _, by rw [List.length_map, accepts.index_eq],
    exposedMessage_eq (documented.instructions _ _ accepts.legacy.1 accepts.unsigned_read), ?_⟩
  rw [exposedMessage_eq (documented.instructions _ _ accepts.legacy.2 accepts.signed_read), List.map_append, List.map_append]
  have flags : shown (added.map DecodedInstruction.programAddress ++ kept.map DecodedInstruction.programAddress) =
      shown (unsigned.map DecodedInstruction.programAddress) := by
    funext instruction
    simp only [shown, demoted_budget accepts.prepends.budget, programs]
  have same : kept.map (fun instruction => shown (unsigned.map DecodedInstruction.programAddress) (plain instruction)) =
      unsigned.map (fun instruction => shown (unsigned.map DecodedInstruction.programAddress) (plain instruction)) := by
    have composed := congrArg (List.map (shown (unsigned.map DecodedInstruction.programAddress))) accepts.prepends.kept
    rwa [List.map_map, List.map_map] at composed
  rw [flags, same]

/-- A wallet that passes either check has put compute budget in front and changed nothing else. If the program accepts the
    guard of the unsigned transaction, it accepts that of the signed one, at the index that the check returns. -/
theorem wallet_prepends_budget {kit : Decoders} (documented : kit.Documented) {unsignedTransaction : SignedTransaction}
    {signedWire : List UInt8} {result : Verified}
    (accepted : Web.verifyWalletSignedTransaction kit unsignedTransaction signedWire = .ok result ∨
      DevnetWalletDemo.verifyWalletSignedTransaction kit unsignedTransaction signedWire = .ok result) :
    ∃ unsignedMessage signedMessage unsigned added kept,
      Accepts kit unsignedTransaction signedWire result.guardInstructionIndex unsignedMessage signedMessage unsigned added
        kept ∧
      ∀ (crates : Crates) (platform : Platform) (program_id : Key) (guard_data : List UInt8)
        (request : AssertSafeExecutionV2) (mint_key : Key) (before after : AccountInfo) (current : UInt16),
        crates.Documented → request.adapter = .Token2022TransferChecked → Executing unsignedMessage before 0 →
        verify_downstream crates platform program_id guard_data request mint_key before = .ok () →
        Executing signedMessage after current → current.toNat = result.guardInstructionIndex →
        verify_downstream crates platform program_id guard_data request mint_key after = .ok () := by
  obtain ⟨unsignedMessage, signedMessage, unsigned, added, kept, accepts⟩ :
      ∃ unsignedMessage signedMessage unsigned added kept, Accepts kit unsignedTransaction signedWire
        result.guardInstructionIndex unsignedMessage signedMessage unsigned added kept := by
    rcases accepted with accepted | accepted
    · exact accepts_of_ok accepted
    · exact accepts_of_ok accepted
  refine ⟨unsignedMessage, signedMessage, unsigned, added, kept, accepts, ?_⟩
  intro crates platform program_id guard_data request mint_key before after current crated transfer unsignedRuns verified
    signedRuns position
  obtain ⟨budget, views, length, unsignedShown, signedShown⟩ := exposed_prepended documented accepts
  obtain ⟨_, same, unsignedFits, unsignedExposed⟩ := unsignedRuns
  rw [unsignedShown, Option.some.injEq] at same
  subst same
  obtain ⟨_, same, signedFits, signedExposed⟩ := signedRuns
  rw [signedShown, Option.some.injEq] at same
  subst same
  -- what stands at an index before stands behind the budget now
  have moved (index : Nat) : ((budget ++ views).map CommittedInstruction.toProgram)[current.toNat + index]? =
      (views.map CommittedInstruction.toProgram)[index]? := by
    rw [List.map_append, List.getElem?_append_right (by rw [List.length_map]; omega), List.length_map]
    congr 1
    omega
  rw [verify_downstream_eq_ok crated unsignedFits unsignedExposed] at verified
  rw [verify_downstream_eq_ok crated signedFits signedExposed]
  simp only [Bound, roleOf, transfer] at verified ⊢
  rw [moved 1, ← Nat.add_zero current.toNat, moved 0]
  exact verified

/-! ### The documented decoders, on one transfer -/

def decodedAccount (message : DecodedMessage) (index : Nat) : Option Kit.AccountMeta := do
  let address ← message.staticAccounts[index]?
  return ⟨address, roleOfFlags (signsAt message index) (writesAt message index)⟩
def decodedInstruction (message : DecodedMessage) (compiled : CompiledInstruction) : Option DecodedInstruction := do
  let programAddress ← message.staticAccounts[compiled.programAddressIndex]?
  let accounts ← (compiled.accountIndices.getD []).mapM (decodedAccount message)
  let data := compiled.data.getD []
  return {
    programAddress
    accounts := if accounts = [] then none else some accounts
    data := if data = [] then none else some data }
theorem forall₂_of_mapM {α β : Type} {convert : α → Option β} {items : List α} {others : List β}
    (converted : items.mapM convert = some others) :
    List.Forall₂ (fun item other => convert item = some other) items others := by
  induction items generalizing others with
  | nil =>
    cases converted
    exact .nil
  | cons item rest ih =>
    rw [List.mapM_cons] at converted
    simp only [Option.bind_eq_bind, Option.bind_eq_some_iff, Option.pure_def, Option.some.injEq] at converted
    obtain ⟨other, first, later, remaining, rfl⟩ := converted
    exact .cons first (ih remaining)
theorem decodes_of_decodedInstruction {message : DecodedMessage} {compiled : CompiledInstruction}
    {instruction : DecodedInstruction} (decoded : decodedInstruction message compiled = some instruction) :
    Decodes message compiled instruction := by
  simp only [decodedInstruction, Option.bind_eq_bind, Option.bind_eq_some_iff, Option.pure_def, Option.some.injEq] at decoded
  obtain ⟨programAddress, program, accounts, decoded, rfl⟩ := decoded
  have listed : (if accounts = [] then none else some accounts).getD [] = accounts := by
    by_cases empty : accounts = [] <;> simp [empty]
  have written : (if compiled.data.getD [] = [] then none else some (compiled.data.getD [])).getD [] =
      compiled.data.getD [] := by
    by_cases empty : compiled.data.getD [] = [] <;> simp [empty]
  refine ⟨program, ?_, written.symm⟩
  rw [listed]
  refine (forall₂_of_mapM decoded).imp fun index account found => ?_
  simp only [decodedAccount, Option.bind_eq_bind, Option.bind_eq_some_iff, Option.pure_def, Option.some.injEq] at found
  obtain ⟨address, read, rfl⟩ := found
  refine ⟨read, ?_, ?_⟩
  · cases signsAt message index <;> cases writesAt message index <;> rfl
  · cases signsAt message index <;> cases writesAt message index <;> rfl

/-- A legacy message of that lifetime, none of whose counts and lengths reaches 128. -/
def legacyBytes (message : DecodedMessage) (lifetime : List UInt8) : List UInt8 :=
  [.ofNat message.header.numSignerAccounts, .ofNat message.header.numReadonlySignerAccounts,
    .ofNat message.header.numReadonlyNonSignerAccounts, .ofNat message.staticAccounts.length] ++
  message.staticAccounts.flatMap (fun address => address.key.bytes) ++ lifetime ++
  (.ofNat message.instructions.length :: message.instructions.flatMap (fun compiled =>
    [.ofNat compiled.programAddressIndex, .ofNat (compiled.accountIndices.getD []).length] ++
      (compiled.accountIndices.getD []).map .ofNat ++ (.ofNat (compiled.data.getD []).length :: compiled.data.getD [])))
/-- A guard and its transfer, as the message holds them. -/
def unsignedTransfer : DecodedMessage where
  version := .legacy
  header := ⟨1, 0, 4⟩
  staticAccounts := [sender, senderTokens, recipientTokens, transferMint, SYSVAR_INSTRUCTIONS_ADDRESS, transferGuard,
    TOKEN_2022_PROGRAM_ADDRESS]
  addressTableLookups := none
  instructions := [⟨5, some [3, 4], some (builtNaming .READONLY).guard.data⟩,
    ⟨6, some [1, 3, 2, 0, 6], some (transferNaming .READONLY).data⟩]
  lifetimeToken := "11111111111111111111111111111111"
/-- The same with a price and a limit in front, its accounts in another order. -/
def signedTransfer : DecodedMessage where
  version := .legacy
  header := ⟨1, 0, 5⟩
  staticAccounts := [sender, recipientTokens, senderTokens, ClientJupiter.COMPUTE_BUDGET_PROGRAM_ADDRESS, transferMint,
    SYSVAR_INSTRUCTIONS_ADDRESS, transferGuard, TOKEN_2022_PROGRAM_ADDRESS]
  addressTableLookups := none
  instructions := [⟨3, none, some [3, 1, 0, 0, 0, 0, 0, 0, 0]⟩, ⟨3, none, some [2, 200, 0, 0, 0]⟩,
    ⟨6, some [4, 5], some (builtNaming .READONLY).guard.data⟩,
    ⟨7, some [2, 4, 1, 0, 7], some (transferNaming .READONLY).data⟩]
  lifetimeToken := "11111111111111111111111111111111"
@[irreducible] def unsignedBytes : List UInt8 := legacyBytes unsignedTransfer (List.replicate 32 0)
@[irreducible] def signedBytes : List UInt8 := legacyBytes signedTransfer (List.replicate 32 0)
def knownMessage (bytes : List UInt8) : Option DecodedMessage :=
  if bytes = unsignedBytes then some unsignedTransfer else if bytes = signedBytes then some signedTransfer else none
/-- Decoders that know these two messages. -/
def transferDecoders : Decoders where
  decodeTransaction wire :=
    match wire with
    | 1 :: rest => some ⟨rest.drop 64, [(sender, some (rest.take 64))]⟩
    | _ => none
  decodeMessage := knownMessage
  getInstructionsFromCompiledTransactionMessage message := message.instructions.mapM (decodedInstruction message)
theorem transferDecoders_documented : transferDecoders.Documented where
  instructions _ _ _ decoded := (forall₂_of_mapM decoded).imp fun _ _ => decodes_of_decodedInstruction
/-- The wallet's answer: its signature, then the signed message. -/
def signedWire : List UInt8 := 1 :: (List.replicate 64 9 ++ signedBytes)
def guardInstruction : DecodedInstruction where
  programAddress := transferGuard
  accounts := some [⟨transferMint, .READONLY⟩, ⟨SYSVAR_INSTRUCTIONS_ADDRESS, .READONLY⟩]
  data := some (builtNaming .READONLY).guard.data
def transferInstruction : DecodedInstruction where
  programAddress := TOKEN_2022_PROGRAM_ADDRESS
  accounts := some [⟨senderTokens, .WRITABLE⟩, ⟨transferMint, .READONLY⟩, ⟨recipientTokens, .WRITABLE⟩,
    ⟨sender, .WRITABLE_SIGNER⟩, ⟨TOKEN_2022_PROGRAM_ADDRESS, .READONLY⟩]
  data := some (transferNaming .READONLY).data
def priceAndLimit : List DecodedInstruction := [
  ⟨ClientJupiter.COMPUTE_BUDGET_PROGRAM_ADDRESS, none, some [3, 1, 0, 0, 0, 0, 0, 0, 0]⟩,
  ⟨ClientJupiter.COMPUTE_BUDGET_PROGRAM_ADDRESS, none, some [2, 200, 0, 0, 0]⟩]
theorem unsigned_decoded : unsignedTransfer.instructions.mapM (decodedInstruction unsignedTransfer) =
    some [guardInstruction, transferInstruction] := rfl
theorem signed_decoded : signedTransfer.instructions.mapM (decodedInstruction signedTransfer) =
    some (priceAndLimit ++ [guardInstruction, transferInstruction]) := rfl
theorem wire_known :
    transferDecoders.decodeTransaction signedWire = some ⟨signedBytes, [(sender, some (List.replicate 64 9))]⟩ := by
  show some (SignedTransaction.mk ((List.replicate 64 9 ++ signedBytes).drop 64)
    [(sender, some ((List.replicate 64 9 ++ signedBytes).take 64))]) = _
  rw [List.drop_left' List.length_replicate, List.take_left' List.length_replicate]
theorem unsigned_known : transferDecoders.decodeMessage unsignedBytes = some unsignedTransfer := if_pos rfl
theorem signed_known : transferDecoders.decodeMessage signedBytes = some signedTransfer := by
  have third (message : DecodedMessage) (lifetime : List UInt8) :
      (legacyBytes message lifetime)[2]? = some (.ofNat message.header.numReadonlyNonSignerAccounts) := by
    simp [legacyBytes]
  have differ : signedBytes ≠ unsignedBytes := by
    intro same
    have counts := congrArg (·[2]?) same
    simp only [signedBytes, unsignedBytes, third] at counts
    exact absurd counts (by decide)
  exact (if_neg differ).trans (if_pos rfl)
theorem transfer_signed :
    Web.verifyWalletSignedTransaction transferDecoders ⟨unsignedBytes, [(sender, none)]⟩ signedWire =
    .ok ⟨Base58.encode (List.replicate 64 9), 2⟩ := by
  have kept :
      everyAt [guardInstruction, transferInstruction] [guardInstruction, transferInstruction] sameInstruction = true :=
    (everyAt_sameInstruction rfl).mpr rfl
  rw [Web.verifyWalletSignedTransaction, verifyWalletSigned]
  simp only [refuse_if_eq_ok, bind_eq_ok, mapError_eq_ok, orSolanaError, ok_or_eq_ok, pure_eq_ok, Except.ok.injEq]
  refine ⟨_, wire_known, _, unsigned_known, _, signed_known, (), by decide, (), by decide, _, unsigned_decoded, _,
    signed_decoded, (), by decide, (), ?_, (), ?_, List.replicate 64 9, rfl, (), by decide, rfl⟩
  · decide
  · exact Bool.not_eq_false _ ▸ kept

def shownIn (instructions : List DecodedInstruction) : List Transaction.Instruction := instructions.map (fun instruction =>
  (shown (instructions.map DecodedInstruction.programAddress) (plain instruction)).toProgram)
/-- The sysvar of a transaction of these instructions. -/
def sysvarOf (instructions : List DecodedInstruction) (current : UInt16) : AccountInfo :=
  ⟨INSTRUCTIONS_SYSVAR_ID, Processor.repeated 0, some (Sysvar.serialize (shownIn instructions) current.toNat)⟩
theorem executing_sysvarOf {message : DecodedMessage} {instructions : List DecodedInstruction}
    (legacy : message.version = .legacy)
    (decoded : message.instructions.mapM (decodedInstruction message) = some instructions)
    (small : ((shownIn instructions).map Sysvar.wire_size).sum ≤ 1232) (current : UInt16) :
    Executing message (sysvarOf instructions current) current := by
  have views := exposedMessage_eq (transferDecoders_documented.instructions message instructions legacy decoded)
  have same : (instructions.map (fun instruction => shown (instructions.map DecodedInstruction.programAddress)
      (plain instruction))).map CommittedInstruction.toProgram = shownIn instructions := by
    rw [List.map_map]
    rfl
  refine ⟨_, views, ?_, ?_⟩
  · rw [same]
    exact Sysvar.fits_of_size small
  · rw [same]
    exact ⟨rfl, rfl⟩
theorem transfer_shown : shown [transferGuard, TOKEN_2022_PROGRAM_ADDRESS] (plain transferInstruction) = shownNaming := by
  decide
theorem transfer_committed : (builtNaming .READONLY).committed = shownNaming := by decide
theorem guard_length : (builtNaming .READONLY).guard.data.length = 99 := AssertSafeExecutionV2.pack_length _
theorem wire_size_shown (invoked : List Address) (instruction : Plain) :
    Sysvar.wire_size (shown invoked instruction).toProgram =
      3 + (instruction.accounts.length + (instruction.data.getD []).length) := by
  simp [Sysvar.wire_size, shown, CommittedInstruction.toProgram]
theorem transfer_small (before : List DecodedInstruction) (few : before = [] ∨ before = priceAndLimit) :
    ((shownIn (before ++ [guardInstruction, transferInstruction])).map Sysvar.wire_size).sum ≤ 1232 := by
  have guard : (plain guardInstruction).accounts.length + ((plain guardInstruction).data.getD []).length = 2 + 99 := by
    rw [show (plain guardInstruction).data.getD [] = (builtNaming .READONLY).guard.data from rfl, guard_length]
    rfl
  have transfer :
      (plain transferInstruction).accounts.length + ((plain transferInstruction).data.getD []).length = 5 + 10 := rfl
  rcases few with rfl | rfl
  · simp only [shownIn, List.nil_append, List.map_cons, List.map_nil, wire_size_shown, guard, transfer]
    decide
  · simp only [shownIn, priceAndLimit, List.cons_append, List.nil_append, List.map_cons, List.map_nil, wire_size_shown,
      guard, transfer]
    decide
theorem requested_commitment (mint : Address) (execution : Instruction.AssertSafeExecution) (commitment : Bytes.Chunk 32) :
    (transferRequest mint execution commitment).downstream_commitment = commitment := rfl
theorem unsigned_accepted {platform : Platform} {request : AssertSafeExecutionV2}
    (transfer : request.adapter = .Token2022TransferChecked)
    (same : platform.sha256 (preimage shownNaming) = request.downstream_commitment) :
    verify_downstream Downstream.documented platform transferGuard.key (builtNaming .READONLY).guard.data request
      transferMint.key (sysvarOf [guardInstruction, transferInstruction] 0) = .ok () := by
  have exposes : Exposes (sysvarOf [guardInstruction, transferInstruction] 0)
      (shownIn [guardInstruction, transferInstruction]) 0 := ⟨rfl, rfl⟩
  have guardData : (plain guardInstruction).data.getD [] = (builtNaming .READONLY).guard.data := Option.getD_some
  rw [verify_downstream_eq_ok documented_correct (Sysvar.fits_of_size (transfer_small [] (.inl rfl))) exposes]
  refine ⟨⟨(shown [transferGuard, TOKEN_2022_PROGRAM_ADDRESS] (plain guardInstruction)).toProgram, rfl, rfl,
    guardData⟩, ?_⟩
  simp only [Bound, roleOf, transfer]
  refine ⟨(shown [transferGuard, TOKEN_2022_PROGRAM_ADDRESS] (plain transferInstruction)).toProgram, rfl, ?_, ?_⟩
  · exact ⟨rfl, rfl, rfl, Nat.le_of_ble_eq_true rfl, rfl⟩
  · rw [← same, ← transfer_shown]
    rfl
/-- The program accepts the unsigned transfer, and so the signed one, behind the price and the limit. -/
theorem wallet_prepends_budget_transfer : ∃ result request,
    Web.verifyWalletSignedTransaction transferDecoders ⟨unsignedBytes, [(sender, none)]⟩ signedWire = .ok result ∧
    result.guardInstructionIndex = 2 ∧ AssertSafeExecutionV2.unpack (builtNaming .READONLY).guard.data = .ok request ∧
    verify_downstream Downstream.documented namingPlatform transferGuard.key (builtNaming .READONLY).guard.data request
      transferMint.key (sysvarOf (priceAndLimit ++ [guardInstruction, transferInstruction]) 2) = .ok () := by
  obtain ⟨unsignedMessage, signedMessage, unsigned, added, kept, accepts, safe⟩ :=
    wallet_prepends_budget transferDecoders_documented (.inl transfer_signed)
  have unsignedKnown : unsignedMessage = unsignedTransfer := by
    have read := accepts.message
    rw [unsigned_known] at read
    exact (Option.some.inj read).symm
  have signedKnown : signedMessage = signedTransfer := by
    obtain ⟨signedTransaction, wire, read⟩ := accepts.transaction
    rw [wire_known, Option.some.injEq] at wire
    rw [← wire, signed_known] at read
    exact (Option.some.inj read).symm
  subst unsignedKnown signedKnown
  have before := executing_sysvarOf rfl unsigned_decoded (transfer_small [] (.inl rfl)) 0
  have after := executing_sysvarOf rfl signed_decoded (transfer_small priceAndLimit (.inr rfl)) 2
  refine ⟨_, transferRequest transferMint Processor.transferRequest.execution (namingPlatform.sha256 (preimage
    (builtNaming .READONLY).committed)), transfer_signed, rfl, AssertSafeExecutionV2.unpack_pack _, ?_⟩
  refine safe _ _ _ _ _ _ _ _ 2 documented_correct rfl before ?_ after rfl
  refine unsigned_accepted rfl ?_
  rw [requested_commitment, transfer_committed]

end EquityGuard.WalletSigning
