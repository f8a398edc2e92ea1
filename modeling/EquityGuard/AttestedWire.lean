import EquityGuard.ClientDeployment
import EquityGuard.Failures
import EquityGuard.Hex
import EquityGuard.Kit

/-!
How the local coordinator reads a transaction that it is asked to attest, and the rule
that ties the Clock to the phase that the transaction itself encodes.
-/
namespace EquityGuard.AttestedWire
open EquityGuard.Addresses EquityGuard.Base58 EquityGuard.Bytes EquityGuard.Canonical EquityGuard.Client
open EquityGuard.ClientDeployment EquityGuard.Errors EquityGuard.Failures EquityGuard.JsonText EquityGuard.JsValue
open EquityGuard.Hex EquityGuard.Kit

def GUARD_DATA_LEN : Nat := 99
def GUARD_VERSION_V2 : UInt8 := 2
def GUARD_MINT_OFFSET : Nat := 1
def GUARD_EFFECTIVE_TIMESTAMP_OFFSET : Nat := 49
def GUARD_PHASE_OFFSET : Nat := 57
def GUARD_ADAPTER_OFFSET : Nat := 66
def JUPITER_BUY_USDC : UInt8 := 2
def JUPITER_SELL_USDC : UInt8 := 3
/-- The grammar adapter kinds 2 and 3 accept after the guard. -/
def SUFFIX_LENGTHS : List Nat := [3, 4]
def EQUITY_GUARD_PROGRAM : Address := EQUITY_GUARD_DEVNET_PROGRAM_ID
def JUPITER_PROGRAM : Address := ClientJupiter.JUPITER_V6_PROGRAM_ADDRESS
def WHIRLPOOL_PROGRAM : Text := "whirLbMiicVdio4qvUfM5KAg6Ct8VwpYzGff3uctyCc"
def COMPUTE_BUDGET_PROGRAM : Address := ClientJupiter.COMPUTE_BUDGET_PROGRAM_ADDRESS
/-- Programs whose success the pre-sign simulation must show. -/
def REQUIRED_SUCCESS : List Text := [text EQUITY_GUARD_PROGRAM.text, text JUPITER_PROGRAM.text, WHIRLPOOL_PROGRAM]

/-! ### Refusals -/

inductive AttestationErrorCode where
  | PHASE_TIMING_MISMATCH
  | CLOCK_AT_OR_PAST_ACTIVATION
  | CLOCK_BEFORE_ACTIVATION
  | UNDECODABLE_WIRE
  | UNSUPPORTED_VERSION
  | UNEXPECTED_SIGNERS
  | UNRESOLVED_PROGRAM
  | UNSUPPORTED_GRAMMAR
  | GUARD_NOT_FIRST
  | JUPITER_NOT_LAST
  | UNSUPPORTED_GUARD_PAYLOAD
  | UNEXPECTED_MINT
  | UNEXPECTED_ACTIVATION
  | SIMULATION_FAILED
  | SIMULATION_INCOMPLETE
  | UNKNOWN_PROOF
  | ACTIVATION_MISMATCH
  | ALREADY_ATTESTED
  | MESSAGE_MISMATCH
  | MISSING_SIGNATURE
  | INVALID_SIGNATURE
deriving DecidableEq

/-- The activation phase an ABI v2 payload names. -/
inductive EncodedPhase where
  | PENDING
  | ACTIVATED
deriving DecidableEq
/-- Where a Clock reading sits relative to the armed activation. -/
inductive ClockRelation where
  | BEFORE_ACTIVATION
  | AT_OR_AFTER_ACTIVATION
deriving DecidableEq

def EncodedPhase.name : EncodedPhase → Text
  | .PENDING => "PENDING"
  | .ACTIVATED => "ACTIVATED"
def ClockRelation.name : ClockRelation → Text
  | .BEFORE_ACTIVATION => "BEFORE_ACTIVATION"
  | .AT_OR_AFTER_ACTIVATION => "AT_OR_AFTER_ACTIVATION"

structure AttestationContext where
  endpoint : Option Text := none
  proofId : Option Text := none
  phase : Option EncodedPhase := none
  clock : Option Text := none
  localT : Option Text := none

/-- What a call can fail with: a refusal of the store, an error of the language, or what a dependency rejects with. -/
inductive AttestationFailure where
  | AttestationError (code : AttestationErrorCode) (message : Message) (context : AttestationContext)
  | thrown (error : JsError)
  | rejected (reason : Value)
def AttestationFailure.IsAttestationError : AttestationFailure → Prop
  | .AttestationError _ _ _ => True
  | _ => False

abbrev Attempt := Except AttestationFailure
def refusal (code : AttestationErrorCode) (message : Message) : AttestationFailure := .AttestationError code message {}
/-- `String(value)` of a text that may be missing. -/
def orUndefined (value : Option Text) : Value := .string (value.getD "undefined")

/-! ### The phase rule -/

structure AttestationClock where
  unixTimestamp : Int
  slot : Int
structure PhaseTiming where
  encodedPhase : EncodedPhase
  clockRelationToLocalT : ClockRelation
  requiredRelationToLocalT : ClockRelation
  clockMatchesExpectedPhase : clockRelationToLocalT = requiredRelationToLocalT

def requiredRelation (phase : EncodedPhase) : ClockRelation :=
  if phase = .PENDING then .BEFORE_ACTIVATION else .AT_OR_AFTER_ACTIVATION
def observedRelation (clock : AttestationClock) (localT : Int) : ClockRelation :=
  if clock.unixTimestamp < localT then .BEFORE_ACTIVATION else .AT_OR_AFTER_ACTIVATION
def phaseTiming (clock : AttestationClock) (localT : Int) (encodedPhase : EncodedPhase) : Attempt PhaseTiming :=
  let clockRelationToLocalT := observedRelation clock localT
  let required := requiredRelation encodedPhase
  if agree : clockRelationToLocalT = required then .ok ⟨encodedPhase, clockRelationToLocalT, required, agree⟩
  else .error (refusal .PHASE_TIMING_MISMATCH
    ["Clock is ", clockRelationToLocalT.name, ", but ", encodedPhase.name, " requires ", required.name])
/-- Whether the validator Clock is in the window that the authorization's own encoded phase requires. -/
def assertClockMatchesPhase (clock : AttestationClock) (localT : Int) (phase : EncodedPhase) (context : AttestationContext) :
    Attempt Unit := do
  let detail := { context with
    phase := some phase, clock := some (decimal clock.unixTimestamp), localT := some (decimal localT) }
  refuse_if (phase = .PENDING ∧ clock.unixTimestamp ≥ localT) (.AttestationError .CLOCK_AT_OR_PAST_ACTIVATION
    ["a PENDING authorization needs a validator Clock before the armed activation; Clock ", clock.unixTimestamp,
      " is not before ", localT] detail)
  refuse_if (phase = .ACTIVATED ∧ clock.unixTimestamp < localT) (.AttestationError .CLOCK_BEFORE_ACTIVATION
    ["an ACTIVATED authorization needs a validator Clock at or after the armed activation; Clock ", clock.unixTimestamp,
      " is before ", localT] detail)

/-- What the encoded phase requires of a Clock reading. -/
def InWindow (phase : EncodedPhase) (localT unixTimestamp : Int) : Prop :=
  (phase = .PENDING → unixTimestamp < localT) ∧ (phase = .ACTIVATED → localT ≤ unixTimestamp)

theorem assertClockMatchesPhase_eq_ok {clock : AttestationClock} {localT : Int} {phase : EncodedPhase}
    {context : AttestationContext} :
    assertClockMatchesPhase clock localT phase context = .ok () ↔ InWindow phase localT clock.unixTimestamp := by
  unfold assertClockMatchesPhase InWindow
  rw [then_eq_ok, refuse_if_eq_ok, refuse_if_eq_ok]
  simp
/-- A reading that passed the phase rule has its timing recorded. -/
theorem phaseTiming_returns {clock : AttestationClock} {localT : Int} {phase : EncodedPhase}
    (inside : InWindow phase localT clock.unixTimestamp) : ∃ timing, phaseTiming clock localT phase = .ok timing := by
  have agree : observedRelation clock localT = requiredRelation phase := by
    unfold observedRelation requiredRelation
    cases phase with
    | PENDING => simp [inside.1 rfl]
    | ACTIVATED => simp [inside.2 rfl]
  refine ⟨⟨phase, _, _, agree⟩, ?_⟩
  simp [phaseTiming, agree]

/-! ### Decoding -/

/-- `String(version)`. -/
def versionText : TransactionVersion → Text
  | .legacy => "legacy"
  | .numbered version => digits version

/-- `getTransactionDecoder().decode`: no signer occurs twice, and who has not signed has no signature. -/
structure DecodedTransaction where
  messageBytes : List UInt8
  signatures : List (Address × Option (List UInt8))
/-- What is used of the kit and of Node. Where a function throws, here it gives nothing. -/
structure Platform where
  /-- `Buffer.from(text, "base64")`, which never throws. -/
  bufferFromBase64 : Text → List UInt8
  getTransactionDecoder : List UInt8 → Option DecodedTransaction
  getCompiledTransactionMessageDecoder : List UInt8 → Option CompiledTransactionMessage
  /-- The digest in hexadecimal. -/
  sha256 : List UInt8 → Text
  /-- Ed25519's `verify`, given the key as raw bytes. -/
  verify : (key : Key) → (message signature : List UInt8) → Option Bool

structure ProtectedTradeShape where
  version : Nat
  signerCount : Nat
  feePayer : Address
  protectedMint : String
  adapterKind : UInt8
  encodedPhase : EncodedPhase
  effectiveTimestamp : Int
  instructionPrograms : List Address
deriving DecidableEq
structure DecodedWire where
  messageBytes : List UInt8
  messageSha256 : Text
  wireSha256 : Text
  wireLength : Nat
  feePayer : Address
  signature : Option (List UInt8)
  signatureBase58 : Option String
  shape : ProtectedTradeShape
deriving DecidableEq
structure Expected where
  protectedMint : String
  localT : Int

/-- The single signer, who is also the fee payer. -/
def singleSigner (transaction : DecodedTransaction) (message : CompiledTransactionMessage) : Attempt Address := do
  let signers := transaction.signatures.map Prod.fst
  refuse_if (signers.length ≠ 1) (refusal .UNEXPECTED_SIGNERS ["expected exactly one signer, got ", (signers.length : Int)])
  let feePayer ← ok_or (refusal .UNEXPECTED_SIGNERS ["expected exactly one signer, got ", (signers.length : Int)]) signers[0]?
  refuse_if (message.header.numSignerAccounts ≠ 1 ∨ message.staticAccounts[0]? ≠ some feePayer)
    (refusal .UNEXPECTED_SIGNERS ["the message's single signer is not its fee payer"])
  return feePayer
def programOf (message : CompiledTransactionMessage) (index : Nat) : Attempt Address :=
  ok_or (refusal .UNRESOLVED_PROGRAM ["instruction program index ", (index : Int), " is not a static account"])
    message.staticAccounts[index]?
/-- Guard first, ComputeBudget next, Jupiter last. -/
def assertGrammar (programs : List Address) : Attempt Unit := do
  refuse_if (programs.length - 1 ∉ SUFFIX_LENGTHS)
    (refusal .UNSUPPORTED_GRAMMAR ["expected 4 or 5 instructions, got ", (programs.length : Int)])
  refuse_if (programs[0]? ≠ some EQUITY_GUARD_PROGRAM) (refusal .GUARD_NOT_FIRST
    ["instruction 0 is ", orUndefined (programs[0]?.map (text ·.text)), ", not EquityGuard"])
  refuse_if (programs.getLast? ≠ some JUPITER_PROGRAM) (refusal .JUPITER_NOT_LAST
    ["the last instruction is ", orUndefined (programs.getLast?.map (text ·.text)), ", not Jupiter"])
  [1, 2].forM (fun (index : Nat) => refuse_if (programs[index]? ≠ some COMPUTE_BUDGET_PROGRAM) (refusal .UNSUPPORTED_GRAMMAR
    ["instruction ", (index : Int), " is ", orUndefined (programs[index]?.map (text ·.text)), ", not ComputeBudget"]))
structure GuardPayload where
  adapterKind : UInt8
  protectedMint : String
  effectiveTimestamp : Int
  encodedPhase : EncodedPhase
def readGuardPayload (guardData : Option (List UInt8)) (expected : Expected) : Attempt GuardPayload := do
  let guardData ← ok_or (refusal .UNSUPPORTED_GUARD_PAYLOAD ["guard payload is ", (0 : Int), " bytes, expected ", (GUARD_DATA_LEN : Int)])
    guardData
  refuse_if (guardData.length ≠ GUARD_DATA_LEN) (refusal .UNSUPPORTED_GUARD_PAYLOAD
    ["guard payload is ", (guardData.length : Int), " bytes, expected ", (GUARD_DATA_LEN : Int)])
  let version := guardData.getD 0 0
  refuse_if (version ≠ GUARD_VERSION_V2) (refusal .UNSUPPORTED_GUARD_PAYLOAD ["guard ABI version ", (version.toNat : Int)])
  let adapterKind := guardData.getD GUARD_ADAPTER_OFFSET 0
  refuse_if (adapterKind ≠ JUPITER_BUY_USDC ∧ adapterKind ≠ JUPITER_SELL_USDC) (refusal .UNSUPPORTED_GUARD_PAYLOAD
    ["adapter kind ", (adapterKind.toNat : Int), " is not a Jupiter adapter"])
  let protectedMint := Base58.encode ((guardData.drop GUARD_MINT_OFFSET).take 32)
  refuse_if (protectedMint ≠ expected.protectedMint)
    (refusal .UNEXPECTED_MINT ["guard protects ", protectedMint, ", not ", expected.protectedMint])
  let effectiveTimestamp ← (getBigInt64 guardData GUARD_EFFECTIVE_TIMESTAMP_OFFSET).mapError .thrown
  refuse_if (effectiveTimestamp ≠ expected.localT) (refusal .UNEXPECTED_ACTIVATION
    ["guard names activation ", effectiveTimestamp, ", not the armed ", expected.localT])
  let phaseByte := guardData.getD GUARD_PHASE_OFFSET 0
  refuse_if (phaseByte ≠ 0 ∧ phaseByte ≠ 1)
    (refusal .UNSUPPORTED_GUARD_PAYLOAD ["activation phase byte ", (phaseByte.toNat : Int)])
  return ⟨adapterKind, protectedMint, effectiveTimestamp, if phaseByte = 0 then .PENDING else .ACTIVATED⟩

section
variable (platform : Platform)

/-- Decodes a wire and checks that it is the protected trade. -/
def decodeProtectedTradeWire (wireBase64 : Text) (expected : Expected) : Attempt DecodedWire := do
  let wire := platform.bufferFromBase64 wireBase64
  refuse_if (wire.length = 0) (refusal .UNDECODABLE_WIRE ["transaction is empty"])
  let transaction ← ok_or (refusal .UNDECODABLE_WIRE ["transaction does not decode"]) (platform.getTransactionDecoder wire)
  let message ← ok_or (refusal .UNDECODABLE_WIRE ["transaction message does not decode"])
    (platform.getCompiledTransactionMessageDecoder transaction.messageBytes)
  refuse_if (message.version ≠ .numbered 0) (refusal .UNSUPPORTED_VERSION ["expected a v0 transaction, got ", versionText message.version])
  let feePayer ← singleSigner transaction message
  let programs ← message.instructions.mapM (fun instruction => programOf message instruction.programAddressIndex)
  assertGrammar programs
  let payload ← readGuardPayload (message.instructions[0]?.bind CompiledInstruction.data) expected
  let signature := (transaction.signatures.lookup feePayer).join
  return {
    messageBytes := transaction.messageBytes
    messageSha256 := platform.sha256 transaction.messageBytes
    wireSha256 := platform.sha256 wire
    wireLength := wire.length
    feePayer
    signature
    signatureBase58 := signature.map Base58.encode
    shape := ⟨0, 1, feePayer, payload.protectedMint, payload.adapterKind, payload.encodedPhase, payload.effectiveTimestamp, programs⟩ }
/-- Verifies a raw Ed25519 signature. -/
def verifySignature (signer : Address) (message signature : List UInt8) : Bool :=
  if signature.length ≠ 64 then false else (platform.verify signer.key message signature).getD false
end

/-! ### What an accepted wire is -/

/-- A v0 message with one signer, who pays; the guard first and Jupiter last. The guard's payload names the expected
    mint and activation, and the phase. -/
structure Protected (expected : Expected) (message : CompiledTransactionMessage) (feePayer : Address)
    (guardData : List UInt8) (phase : EncodedPhase) : Prop where
  version : message.version = .numbered 0
  signers : message.header.numSignerAccounts = 1
  payer : message.staticAccounts[0]? = some feePayer
  guardFirst : ∃ first, message.instructions[0]? = some first ∧
    message.staticAccounts[first.programAddressIndex]? = some EQUITY_GUARD_PROGRAM ∧ first.data = some guardData
  jupiterLast : ∃ last, message.instructions.getLast? = some last ∧
    message.staticAccounts[last.programAddressIndex]? = some JUPITER_PROGRAM
  length : guardData.length = GUARD_DATA_LEN
  guardVersion : guardData[0]? = some GUARD_VERSION_V2
  mint : Base58.encode ((guardData.drop GUARD_MINT_OFFSET).take 32) = expected.protectedMint
  timestamp : getBigInt64 guardData GUARD_EFFECTIVE_TIMESTAMP_OFFSET = .ok expected.localT
  phaseByte : guardData[GUARD_PHASE_OFFSET]? = some (if phase = .PENDING then 0 else 1)
/-- The same of the bytes of a message. -/
def ProtectedBytes (platform : Platform) (expected : Expected) (messageBytes : List UInt8) (feePayer : Address)
    (phase : EncodedPhase) : Prop :=
  ∃ message guardData, platform.getCompiledTransactionMessageDecoder messageBytes = some message ∧
    Protected expected message feePayer guardData phase

theorem getElem?_of_getD {bytes : List UInt8} {index : Nat} (inside : index < bytes.length) :
    bytes[index]? = some (bytes.getD index 0) := by
  rw [List.getD_eq_getElem?_getD, List.getElem?_eq_getElem inside]
  rfl
theorem singleSigner_eq_ok {transaction : DecodedTransaction} {message : CompiledTransactionMessage} {feePayer : Address}
    (passed : singleSigner transaction message = .ok feePayer) :
    message.header.numSignerAccounts = 1 ∧ message.staticAccounts[0]? = some feePayer := by
  unfold singleSigner at passed
  obtain ⟨_, passed⟩ := then_eq_ok.mp passed
  obtain ⟨signer, _, passed⟩ := bind_eq_ok.mp passed
  obtain ⟨payer, passed⟩ := then_eq_ok.mp passed
  cases passed
  rw [refuse_if_eq_ok, not_or, not_not, not_not] at payer
  exact payer
/-- The programs of the instructions, in their order. -/
theorem programs_eq {message : CompiledTransactionMessage} {programs : List Address}
    (resolved : message.instructions.mapM (fun instruction => programOf message instruction.programAddressIndex) = .ok programs) :
    programs.map some = message.instructions.map (fun instruction => message.staticAccounts[instruction.programAddressIndex]?) :=
  mapM_map (fun _ _ found => (ok_or_eq_ok.mp found).symm) resolved
theorem assertGrammar_eq_ok {programs : List Address} (passed : assertGrammar programs = .ok ()) :
    programs[0]? = some EQUITY_GUARD_PROGRAM ∧ programs.getLast? = some JUPITER_PROGRAM := by
  unfold assertGrammar at passed
  obtain ⟨_, passed⟩ := then_eq_ok.mp passed
  obtain ⟨first, passed⟩ := then_eq_ok.mp passed
  obtain ⟨last, _⟩ := then_eq_ok.mp passed
  rw [refuse_if_eq_ok, not_not] at first last
  exact ⟨first, last⟩
theorem readGuardPayload_eq_ok {data : Option (List UInt8)} {expected : Expected} {payload : GuardPayload}
    (read : readGuardPayload data expected = .ok payload) :
    ∃ guardData, data = some guardData ∧ guardData.length = GUARD_DATA_LEN ∧ guardData[0]? = some GUARD_VERSION_V2 ∧
      Base58.encode ((guardData.drop GUARD_MINT_OFFSET).take 32) = expected.protectedMint ∧
      getBigInt64 guardData GUARD_EFFECTIVE_TIMESTAMP_OFFSET = .ok expected.localT ∧
      guardData[GUARD_PHASE_OFFSET]? = some (if payload.encodedPhase = .PENDING then 0 else 1) := by
  unfold readGuardPayload at read
  obtain ⟨guardData, present, read⟩ := bind_eq_ok.mp read
  obtain ⟨length, read⟩ := then_eq_ok.mp read
  obtain ⟨version, read⟩ := then_eq_ok.mp read
  obtain ⟨_, read⟩ := then_eq_ok.mp read
  obtain ⟨mint, read⟩ := then_eq_ok.mp read
  obtain ⟨timestamp, named, read⟩ := bind_eq_ok.mp read
  obtain ⟨same, read⟩ := then_eq_ok.mp read
  obtain ⟨phase, read⟩ := then_eq_ok.mp read
  cases read
  rw [refuse_if_eq_ok, not_not] at length version mint same
  rw [refuse_if_eq_ok, not_and_or, not_not, not_not] at phase
  subst same
  have zero : 0 < guardData.length := by rw [length]; decide
  have offset : GUARD_PHASE_OFFSET < guardData.length := by rw [length]; decide
  refine ⟨guardData, ok_or_eq_ok.mp present, length, ?_, mint, mapError_eq_ok.mp named, ?_⟩
  · rw [getElem?_of_getD zero, version]
  · rw [getElem?_of_getD offset]
    obtain pending | activated := phase
    · rw [pending]
      rfl
    · rw [activated]
      rfl

section
variable {platform : Platform} {wireBase64 : Text} {expected : Expected} {decoded : DecodedWire}

theorem decodeProtectedTradeWire_eq_ok (accepted : decodeProtectedTradeWire platform wireBase64 expected = .ok decoded) :
    ProtectedBytes platform expected decoded.messageBytes decoded.feePayer decoded.shape.encodedPhase ∧
      decoded.messageSha256 = platform.sha256 decoded.messageBytes ∧
      decoded.signatureBase58 = decoded.signature.map Base58.encode := by
  unfold decodeProtectedTradeWire at accepted
  obtain ⟨_, accepted⟩ := then_eq_ok.mp accepted
  obtain ⟨transaction, _, accepted⟩ := bind_eq_ok.mp accepted
  obtain ⟨message, decodes, accepted⟩ := bind_eq_ok.mp accepted
  obtain ⟨version, accepted⟩ := then_eq_ok.mp accepted
  obtain ⟨feePayer, signer, accepted⟩ := bind_eq_ok.mp accepted
  obtain ⟨programs, resolved, accepted⟩ := bind_eq_ok.mp accepted
  obtain ⟨grammar, accepted⟩ := then_eq_ok.mp accepted
  obtain ⟨payload, read, accepted⟩ := bind_eq_ok.mp accepted
  cases accepted
  rw [refuse_if_eq_ok, not_not] at version
  obtain ⟨signers, payer⟩ := singleSigner_eq_ok signer
  obtain ⟨first, last⟩ := assertGrammar_eq_ok grammar
  obtain ⟨guardData, present, length, guardVersion, mint, timestamp, phaseByte⟩ := readGuardPayload_eq_ok read
  obtain ⟨guard, guardFound, guardIs⟩ := Option.bind_eq_some_iff.mp present
  have inOrder := programs_eq resolved
  refine ⟨⟨message, guardData, ok_or_eq_ok.mp decodes, ?_⟩, rfl, rfl⟩
  exact {
    version
    signers
    payer
    guardFirst := by
      have found := congrArg (fun programs => programs[0]?) inOrder
      simp only [List.getElem?_map, first, guardFound, Option.map_some, Option.some.injEq] at found
      exact ⟨guard, guardFound, found.symm, guardIs⟩
    jupiterLast := by
      have found := congrArg List.getLast? inOrder
      rw [List.getLast?_map, List.getLast?_map, last] at found
      obtain ⟨jupiter, isLast, same⟩ := Option.map_eq_some_iff.mp found.symm
      exact ⟨jupiter, isLast, same⟩
    length
    guardVersion
    mint
    timestamp
    phaseByte }

/-! ### Refusals are attestation errors -/

theorem singleSigner_throws (transaction : DecodedTransaction) (message : CompiledTransactionMessage) :
    Throws AttestationFailure.IsAttestationError (singleSigner transaction message) := by
  unfold singleSigner
  refine .bind (.refuse_if fun _ => trivial) (fun _ _ => .bind (.ok_or fun _ => trivial) (fun _ _ => ?_))
  exact .bind (.refuse_if fun _ => trivial) (fun _ _ => .ok _)
theorem assertGrammar_throws (programs : List Address) :
    Throws AttestationFailure.IsAttestationError (assertGrammar programs) := by
  unfold assertGrammar
  refine .bind (.refuse_if fun _ => trivial) (fun _ _ => .bind (.refuse_if fun _ => trivial) (fun _ _ => ?_))
  refine .bind (.refuse_if fun _ => trivial) (fun _ _ => ?_)
  exact .bind (.refuse_if fun _ => trivial) (fun _ _ => .bind (.refuse_if fun _ => trivial) (fun _ _ => .ok _))
/-- The timestamp of a payload of the right length can be read. -/
theorem readGuardPayload_throws (data : Option (List UInt8)) (expected : Expected) :
    Throws AttestationFailure.IsAttestationError (readGuardPayload data expected) := by
  unfold readGuardPayload
  refine .bind (.ok_or fun _ => trivial) (fun guardData _ => .bind (.refuse_if fun _ => trivial) (fun _ length => ?_))
  rw [refuse_if_eq_ok, not_not] at length
  have inside : GUARD_EFFECTIVE_TIMESTAMP_OFFSET + 8 ≤ guardData.length := by rw [length]; decide
  refine .bind (.refuse_if fun _ => trivial) (fun _ _ => .bind (.refuse_if fun _ => trivial) (fun _ _ => ?_))
  refine .bind (.refuse_if fun _ => trivial) (fun _ _ => ?_)
  rw [getBigInt64, read_of_le inside]
  refine .bind (.ok _) (fun _ _ => .bind (.refuse_if fun _ => trivial) (fun _ _ => ?_))
  exact .bind (.refuse_if fun _ => trivial) (fun _ _ => .ok _)
theorem assertClockMatchesPhase_throws (clock : AttestationClock) (localT : Int) (phase : EncodedPhase)
    (context : AttestationContext) :
    Throws AttestationFailure.IsAttestationError (assertClockMatchesPhase clock localT phase context) := by
  unfold assertClockMatchesPhase
  exact .bind (.refuse_if fun _ => trivial) (fun _ _ => .refuse_if fun _ => trivial)
/-- Whatever goes wrong with a wire, the refusal is the store's own. -/
theorem decodeProtectedTradeWire_throws :
    Throws AttestationFailure.IsAttestationError (decodeProtectedTradeWire platform wireBase64 expected) := by
  unfold decodeProtectedTradeWire
  refine .bind (.refuse_if fun _ => trivial) (fun _ _ => .bind (.ok_or fun _ => trivial) (fun transaction _ => ?_))
  refine .bind (.ok_or fun _ => trivial) (fun message _ => .bind (.refuse_if fun _ => trivial) (fun _ _ => ?_))
  refine .bind (singleSigner_throws transaction message) (fun feePayer _ => ?_)
  refine .bind (.mapM fun _ _ => .ok_or fun _ => trivial) (fun programs _ => ?_)
  refine .bind (assertGrammar_throws programs) (fun _ _ => ?_)
  exact .bind (readGuardPayload_throws _ expected) (fun _ _ => .ok _)
end

/-! ### A pending trade -/

def trader : Address := address "GmaDrppBC7P5ARKV8g3djiwP89vz1jLK23V2GBjuAEGB" (by decide +kernel)
def KOX_MINT : String := "XsaBXg8dU5cPM6ehmVctMkVqoiRG2ZjMo1cyBJ3AykQ"
def armed : Int := 1790160566
/-- The guard of a pending trade: a multiplier of one that becomes two when the activation comes. -/
def pendingGuard : List UInt8 := [
  2, 7, 232, 155, 55, 248, 157, 66, 145, 228, 17, 116, 14, 137, 107, 95, 194, 95, 47, 242, 136, 86, 79, 249, 128,
  165, 180, 94, 229, 195, 125, 100, 93, 0, 0, 0, 0, 0, 0, 240, 63, 0, 0, 0, 0, 0, 0, 0, 64, 182, 174, 179, 106,
  0, 0, 0, 0, 0, 0, 0, 0, 0, 0, 0, 0, 0, 2, 0, 0, 0, 0, 0, 0, 0, 0, 0, 0, 0, 0, 0, 0, 0, 0, 0, 0, 0, 0, 0, 0, 0,
  0, 0, 0, 0, 0, 0, 0, 0, 0]
def pendingMessage : CompiledTransactionMessage where
  version := .numbered 0
  header := ⟨1, 0, 3⟩
  staticAccounts := [trader, EQUITY_GUARD_PROGRAM, COMPUTE_BUDGET_PROGRAM, JUPITER_PROGRAM]
  addressTableLookups := some []
  instructions := [⟨1, some [], some pendingGuard⟩, ⟨2, some [], some [2, 64, 13, 3, 0]⟩,
    ⟨2, some [], some [3, 232, 3, 0, 0, 0, 0, 0, 0]⟩, ⟨3, some [], some [187, 100, 250, 204, 49, 196, 175, 20]⟩]
/-- The message as it is signed: its header, its four accounts, a blockhash and the instructions. -/
def pendingBytes : List UInt8 := [
  128, 1, 0, 3, 4, 234, 74, 108, 99, 226, 156, 82, 10, 190, 245, 80, 123, 19, 46, 197, 249, 149, 71, 118, 174,
  190, 190, 123, 146, 66, 30, 234, 105, 20, 70, 210, 44, 202, 30, 115, 217, 223, 141, 176, 105, 95, 165, 216,
  185, 50, 32, 5, 216, 221, 48, 164, 26, 152, 90, 208, 220, 60, 249, 63, 57, 142, 35, 144, 86, 3, 6, 70, 111,
  229, 33, 23, 50, 255, 236, 173, 186, 114, 195, 155, 231, 188, 140, 229, 187, 197, 247, 18, 107, 44, 67, 155,
  58, 64, 0, 0, 0, 4, 121, 213, 91, 242, 49, 192, 110, 238, 116, 197, 110, 206, 104, 21, 7, 253, 177, 178, 222,
  163, 244, 142, 81, 2, 177, 205, 162, 86, 188, 19, 143, 9, 9, 9, 9, 9, 9, 9, 9, 9, 9, 9, 9, 9, 9, 9, 9, 9, 9, 9,
  9, 9, 9, 9, 9, 9, 9, 9, 9, 9, 9, 9, 9, 4, 1, 0, 99] ++
  pendingGuard ++ [
  2, 0, 5, 2, 64, 13, 3, 0, 2, 0, 9, 3, 232, 3, 0, 0, 0, 0, 0, 0, 3, 0, 8, 187, 100, 250, 204, 49, 196, 175, 20, 0]
def pendingSignature : List UInt8 := [
  178, 208, 24, 84, 147, 45, 171, 153, 214, 45, 123, 237, 158, 225, 105, 24, 178, 203, 105, 102, 179, 153, 98,
  254, 254, 8, 208, 184, 127, 211, 76, 208, 139, 174, 137, 146, 142, 251, 6, 177, 145, 246, 241, 174, 149, 116,
  119, 220, 29, 120, 188, 131, 30, 52, 158, 56, 190, 154, 102, 213, 197, 126, 40, 0]
def wireOf (signature : List UInt8) : List UInt8 := 1 :: (signature ++ pendingBytes)
def base64Of (signature : List UInt8) : Text := Base64.encode (wireOf signature)
def noSignature : List UInt8 := List.replicate 64 0
def pendingDigest : Text := "4be37b8e576e2677c3bdfb67bedc728be2314a90c9849f6a78c92c053418b8a2"
def unsignedDigest : Text := "9bf942d459be3950674ca4b1509edeedc4acea6b0c06362250440b398a46d6ff"
def signedDigest : Text := "bc85c8a74dd7791e7d355314722689bff85c535b4fe22c65a6f7a584075b591b"
def lettersFromBase64 (wire : Text) : List UInt8 := Base64.decode (String.ofList (wire.map (fun unit => Char.ofNat unit.toNat)))
/-- What the kit and Node answer about this trade. -/
def pendingPlatform : Platform where
  bufferFromBase64 := lettersFromBase64
  getTransactionDecoder wire := some ⟨wire.drop 65,
    [(trader, if (wire.drop 1).take 64 = noSignature then none else some ((wire.drop 1).take 64))]⟩
  getCompiledTransactionMessageDecoder bytes := if bytes = pendingBytes then some pendingMessage else none
  sha256 bytes :=
    if bytes = pendingBytes then pendingDigest
    else if bytes = wireOf noSignature then unsignedDigest
    else if bytes = wireOf pendingSignature then signedDigest
    else 120 :: toHex bytes
  verify key message signature := some (key = trader.key ∧ message = pendingBytes ∧ signature = pendingSignature)
/-- What is read of this trade, before and after it was signed. -/
def pendingWire (signature : Option (List UInt8)) : DecodedWire where
  messageBytes := pendingBytes
  messageSha256 := pendingDigest
  wireSha256 := if signature.isSome then signedDigest else unsignedDigest
  wireLength := 365
  feePayer := trader
  signature
  signatureBase58 := signature.map Base58.encode
  shape := ⟨0, 1, trader, KOX_MINT, JUPITER_BUY_USDC, .PENDING, armed,
    [EQUITY_GUARD_PROGRAM, COMPUTE_BUDGET_PROGRAM, COMPUTE_BUDGET_PROGRAM, JUPITER_PROGRAM]⟩

theorem lettersFromBase64_encode (bytes : List UInt8) : lettersFromBase64 (text (Base64.encode bytes)) = bytes := by
  unfold lettersFromBase64
  rw [units_ascii (Base64.encode_ascii bytes), String.ofList_toList, Base64.decode_encode]
theorem base64Of_read (signature : List UInt8) :
    pendingPlatform.bufferFromBase64 (base64Of signature) = wireOf signature := by
  have same : pendingPlatform.bufferFromBase64 = lettersFromBase64 := rfl
  rw [same]
  exact lettersFromBase64_encode (wireOf signature)
theorem ok_of_toOption {ε α : Type} {result : Except ε α} {value : α} (known : result.toOption = some value) :
    result = .ok value := by
  cases result with
  | error error => cases known
  | ok other => exact congrArg Except.ok (Option.some.inj known)
theorem unsigned_decodes :
    decodeProtectedTradeWire pendingPlatform (base64Of noSignature) ⟨KOX_MINT, armed⟩ = .ok (pendingWire none) := by
  apply ok_of_toOption
  unfold decodeProtectedTradeWire
  rw [base64Of_read]
  decide +kernel
theorem signed_decodes : decodeProtectedTradeWire pendingPlatform (base64Of pendingSignature) ⟨KOX_MINT, armed⟩ =
    .ok (pendingWire (some pendingSignature)) := by
  apply ok_of_toOption
  unfold decodeProtectedTradeWire
  rw [base64Of_read]
  decide +kernel
theorem pendingSignature_verifies : verifySignature pendingPlatform trader pendingBytes pendingSignature = true := by
  decide +kernel

end EquityGuard.AttestedWire
