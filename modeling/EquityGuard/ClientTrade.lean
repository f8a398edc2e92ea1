import EquityGuard.ClientJupiter
import EquityGuard.Kit

/-!
Building a guarded Jupiter trade: the guard instruction, the flags the runtime will
expose, the commitment to the suffix, and what an execution plan binds of the result.
-/
namespace EquityGuard.ClientTrade
open EquityGuard.Addresses EquityGuard.Binary64 EquityGuard.Bytes EquityGuard.Client EquityGuard.ClientAbi
open EquityGuard.ClientJupiter EquityGuard.Commitments EquityGuard.Errors EquityGuard.Kit EquityGuard.Transaction
open EquityGuard.Jupiter (Platform)

theorem isAddress_instructions : isAddress "Sysvar1nstructions1111111111111111111111111" = true := by decide +kernel
def SYSVAR_INSTRUCTIONS_ADDRESS : Address := address "Sysvar1nstructions1111111111111111111111111" isAddress_instructions

/-- The guard: its mint and the Instructions sysvar, both read-only. -/
def getAssertSafeExecutionV2Instruction (programAddress mint : Address) (expectation : AssertSafeExecutionRequest)
    (downstreamCommitment : List UInt8) (adapterKind : Number) : Js Kit.Instruction := do
  return {
    programAddress
    accounts := [⟨mint, .READONLY⟩, ⟨SYSVAR_INSTRUCTIONS_ADDRESS, .READONLY⟩]
    data := ← encodeAssertSafeExecutionV2 {
      toAssertSafeExecutionRequest := expectation, expectedMint := mint.text, adapterKind, downstreamCommitment } }

/-! ### Transaction-level flags -/

def isSignerRole (role : AccountRole) : Bool := role = .READONLY_SIGNER || role = .WRITABLE_SIGNER
def isWritableRole (role : AccountRole) : Bool := role = .WRITABLE || role = .WRITABLE_SIGNER

/-- Accounts the runtime never lets a transaction write. -/
def RESERVED_ACCOUNTS : List String := [
  "11111111111111111111111111111111",
  "AddressLookupTab1e1111111111111111111111111",
  "BPFLoader1111111111111111111111111111111111",
  "BPFLoader2111111111111111111111111111111111",
  "BPFLoaderUpgradeab1e11111111111111111111111",
  "ComputeBudget111111111111111111111111111111",
  "Config1111111111111111111111111111111111111",
  "Ed25519SigVerify111111111111111111111111111",
  "Feature111111111111111111111111111111111111",
  "KeccakSecp256k11111111111111111111111111111",
  "LoaderV411111111111111111111111111111111111",
  "NativeLoader1111111111111111111111111111111",
  "Secp256r1SigVerify1111111111111111111111111",
  "Stake11111111111111111111111111111111111111",
  "Vote111111111111111111111111111111111111111",
  "ZkE1Gama1Proof11111111111111111111111111111",
  "ZkTokenProof1111111111111111111111111111111"]

/-- The fee payer and every account some instruction gives such a role, as they are added. -/
def addressesWith (role : AccountRole → Bool) (instructions : List Kit.Instruction) (feePayer : Address) : List Address :=
  feePayer :: instructions.flatMap (fun instruction =>
    (instruction.accounts.filter (fun account => role account.role)).map Kit.AccountMeta.address)
/-- `instructions` as the Instructions sysvar exposes them in a transaction paid by `feePayer`. -/
def sysvarView (instructions : List Kit.Instruction) (feePayer : Address) : Js (List CommittedInstruction) :=
  let signers := addressesWith isSignerRole instructions feePayer
  let writable := addressesWith isWritableRole instructions feePayer
  let invoked := instructions.map Kit.Instruction.programAddress
  match writable.find? (fun key => invoked.contains key || RESERVED_ACCOUNTS.contains key.text ||
    "Sysvar".toList.isPrefixOf key.text.toList) with
  | some key => .error (.GuardClientError .InvalidDownstream
      [key, " is writable but the runtime would demote it; refusing to commit to flags it will not expose"] none)
  | none => .ok (instructions.map (fun instruction => {
      programAddress := instruction.programAddress
      accounts := instruction.accounts.map (fun account => {
        address := account.address
        isSigner := signers.contains account.address
        isWritable := writable.contains account.address })
      data := instruction.data }))

/-! ### Building -/

/-- Jupiter's minimum output from the two encoded fields. -/
def minimumOutFromQuote (quotedOutAmount slippageBps : Nat) : Js Nat := do
  refuse_if (slippageBps > MAX_SLIPPAGE_BPS)
    (.GuardClientError .UnsupportedJupiterTrade ["slippageBps ", slippageBps, " is outside [0, 10000]"] none)
  return (quotedOutAmount * (MAX_SLIPPAGE_BPS - slippageBps) + 9999) / 10000

structure GuardedJupiterTrade where
  instructions : List Kit.Instruction
  guard : Kit.Instruction
  adapterKind : JupiterAdapterKind
  committedSuffix : List CommittedInstruction
  commitment : List UInt8
  route : RouteV2Summary

/-- Builds `[guard, ...suffix]` for kind 2 or 3. -/
def buildGuardedJupiterTrade (platform : Platform) (programAddress feePayer protectedMint : Address)
    (adapterKind : JupiterAdapterKind) (expectation : AssertSafeExecutionRequest) (suffix : List Kit.Instruction) :
    Js GuardedJupiterTrade := do
  let guardFor (commitment : List UInt8) :=
    getAssertSafeExecutionV2Instruction programAddress protectedMint expectation commitment adapterKind.number
  let provisional ← sysvarView ((← guardFor (List.replicate 32 0)) :: suffix) feePayer
  let committedSuffix := provisional.drop 1
  match ← checkJupiterSuffix platform committedSuffix adapterKind protectedMint with
  | ⟨none, some route⟩ => do
    let commitment ← jupiterSuffixCommitment platform.sha256 committedSuffix
    let guard ← guardFor commitment
    let instructions := guard :: suffix
    let final ← sysvarView instructions feePayer
    match ← checkGuardedJupiterTransaction platform final 0 adapterKind protectedMint commitment with
    | none => return { instructions, guard, adapterKind, committedSuffix, commitment, route }
    | some recheck => .error (.GuardClientError .UnsupportedJupiterTrade
        ["the final transaction no longer verifies: ", recheck] (some recheck))
  | ⟨verdict, _⟩ => .error (.GuardClientError .UnsupportedJupiterTrade
      ["the program would reject this trade with ", (verdict.map Piece.guardError).getD "an unknown error"] verdict)

/-- Everything an execution plan binds about a guarded Jupiter trade. -/
structure JupiterTradeBinding where
  adapterKind : JupiterAdapterKind
  jupiterProgramId : Address
  routeDiscriminatorHex : String
  protectedMintRole : ProtectedMintRole
  protectedMint : Address
  counterMint : Address
  authority : Address
  sourceMint : Address
  destinationMint : Address
  sourceTokenAccount : Address
  destinationTokenAccount : Address
  inAmountRaw : Nat
  quotedOutRaw : Nat
  slippageBps : Nat
  minOutRaw : Nat
  suffixCommitmentHex : String
  suffixInstructionCount : Nat

def jupiterTradeBindingOf (trade : GuardedJupiterTrade) : Js JupiterTradeBinding := do
  let route := trade.route
  let role := protectedRoleOf trade.adapterKind
  return {
    adapterKind := trade.adapterKind
    jupiterProgramId := JUPITER_V6_PROGRAM_ADDRESS
    routeDiscriminatorHex := ROUTE_V2_DISCRIMINATOR_HEX
    protectedMintRole := role
    protectedMint := if role = .DESTINATION then route.destinationMint else route.sourceMint
    counterMint := if role = .DESTINATION then route.sourceMint else route.destinationMint
    authority := route.authority
    sourceMint := route.sourceMint
    destinationMint := route.destinationMint
    sourceTokenAccount := route.source
    destinationTokenAccount := route.destination
    inAmountRaw := route.start.inAmount
    quotedOutRaw := route.start.quotedOutAmount
    slippageBps := route.start.slippageBps
    minOutRaw := ← minimumOutFromQuote route.start.quotedOutAmount route.start.slippageBps
    suffixCommitmentHex := hexOf trade.commitment
    suffixInstructionCount := trade.committedSuffix.length }

/-! ### The guard that is built -/

/-- A kind as the program decodes it. -/
def adapterOf : JupiterAdapterKind → Instruction.DownstreamAdapter
  | .JUPITER_ROUTE_V2_BUY_USDC => .JupiterRouteV2BuyUsdc
  | .JUPITER_ROUTE_V2_SELL_USDC => .JupiterRouteV2SellUsdc
/-- The request the payload of a guard carries. -/
def guardRequest (mint : Address) (kind : JupiterAdapterKind) (execution : Instruction.AssertSafeExecution)
    (commitment : Chunk 32) : Instruction.AssertSafeExecutionV2 where
  expected_mint := mint.key
  execution := execution
  adapter := adapterOf kind
  downstream_commitment := commitment
def guardWith (programAddress mint : Address) (request : Instruction.AssertSafeExecutionV2) : Kit.Instruction where
  programAddress := programAddress
  accounts := [⟨mint, .READONLY⟩, ⟨SYSVAR_INSTRUCTIONS_ADDRESS, .READONLY⟩]
  data := request.pack

theorem ofRequest_guardRequest (mint : Address) (kind : JupiterAdapterKind) (execution : Instruction.AssertSafeExecution)
    (commitment : Chunk 32) : ofRequest (guardRequest mint kind execution commitment) =
      ⟨ofExecution execution, mint.text, kind.number, commitment.bytes⟩ := by
  have number : kind.number = .ofInt (adapterOf kind).as_u8.toNat := by cases kind <;> rfl
  rw [ofRequest, guardRequest, Address.ofKey_key, ← number]
theorem getAssertSafeExecutionV2Instruction_of (programAddress mint : Address) (execution : Instruction.AssertSafeExecution)
    (commitment : Chunk 32) (kind : JupiterAdapterKind) :
    getAssertSafeExecutionV2Instruction programAddress mint (ofExecution execution) commitment.bytes kind.number =
      .ok (guardWith programAddress mint (guardRequest mint kind execution commitment)) := by
  have encoded := encode_ofRequest (guardRequest mint kind execution commitment)
  rw [ofRequest_guardRequest] at encoded
  rw [getAssertSafeExecutionV2Instruction, encoded]
  rfl
/-- The commitment is a digest, or there is too much to commit to. -/
theorem jupiterSuffixCommitment_cases (sha256 : List UInt8 → Chunk 32) (suffix : List CommittedInstruction) :
    (∃ commitment : Chunk 32, jupiterSuffixCommitment sha256 suffix = .ok commitment.bytes) ∨
      jupiterSuffixCommitment sha256 suffix = .error lengthError := by
  rw [jupiterSuffixCommitment, jupiterSuffixCommitmentPreimage_eq]
  split
  · exact .inl ⟨_, rfl⟩
  · exact .inr rfl
theorem jupiterSuffixCommitment_throws (sha256 : List UInt8 → Chunk 32) (suffix : List CommittedInstruction) :
    Throws JsError.IsRefusal (jupiterSuffixCommitment sha256 suffix) := by
  rcases jupiterSuffixCommitment_cases sha256 suffix with ⟨commitment, hashed⟩ | refused
  · rw [hashed]
    exact .ok _
  · rw [refused]
    exact .error trivial
theorem checkJupiterSuffix_returns (platform : Platform) (suffix : List CommittedInstruction) (kind : JupiterAdapterKind)
    (protectedMint : Address) : ∃ check, checkJupiterSuffix platform suffix kind protectedMint = .ok check := by
  have reports := checkJupiterSuffix_correct platform suffix kind protectedMint
  cases program : Jupiter.check_suffix platform (suffix.map CommittedInstruction.toProgram) (roleOf kind)
      protectedMint.key with
  | ok validated =>
    rw [program] at reports
    obtain ⟨route, checked, _⟩ := reports
    exact ⟨_, checked⟩
  | error error =>
    rw [program] at reports
    exact ⟨_, reports⟩
theorem checkGuardedJupiterTransaction_throws (platform : Platform) (instructions : List CommittedInstruction)
    (guardIndex : Number) (kind : JupiterAdapterKind) (protectedMint : Address) (commitment : List UInt8) :
    Throws JsError.IsRefusal
      (checkGuardedJupiterTransaction platform instructions guardIndex kind protectedMint commitment) := by
  unfold checkGuardedJupiterTransaction
  split
  · exact .ok _
  obtain ⟨check, checked⟩ := checkJupiterSuffix_returns platform (instructions.drop 1) kind protectedMint
  dsimp only
  rw [checked, ok_bind]
  split
  · exact .ok _
  · refine .bind (jupiterSuffixCommitment_throws _ _) fun _ _ => ?_
    split <;> exact .ok _
theorem sysvarView_throws (instructions : List Kit.Instruction) (feePayer : Address) :
    Throws JsError.IsRefusal (sysvarView instructions feePayer) := by
  unfold sysvarView
  dsimp only
  split
  · exact .error trivial
  · exact .ok _
theorem minimumOutFromQuote_throws (quotedOutAmount slippageBps : Nat) :
    Throws JsError.IsRefusal (minimumOutFromQuote quotedOutAmount slippageBps) :=
  .bind (.refuse_if fun _ => trivial) fun _ _ => .ok _

/-- With an expectation the program has a value for, building ends in a trade or a refusal. -/
theorem buildGuardedJupiterTrade_throws (platform : Platform) (programAddress feePayer protectedMint : Address)
    (adapterKind : JupiterAdapterKind) (execution : Instruction.AssertSafeExecution) (suffix : List Kit.Instruction) :
    Throws JsError.IsRefusal
      (buildGuardedJupiterTrade platform programAddress feePayer protectedMint adapterKind (ofExecution execution) suffix) := by
  have guarded (commitment : Chunk 32) := getAssertSafeExecutionV2Instruction_of programAddress protectedMint execution
    commitment adapterKind
  unfold buildGuardedJupiterTrade
  dsimp only
  rw [guarded ⟨List.replicate 32 0, List.length_replicate⟩, ok_bind]
  refine .bind (sysvarView_throws _ _) fun provisional _ => ?_
  obtain ⟨check, checked⟩ := checkJupiterSuffix_returns platform (provisional.drop 1) adapterKind protectedMint
  rw [checked, ok_bind]
  split
  swap
  · exact .error trivial
  rcases jupiterSuffixCommitment_cases platform.sha256 (provisional.drop 1) with ⟨commitment, hashed⟩ | refused
  swap
  · rw [refused]
    exact .error trivial
  rw [hashed, ok_bind, guarded commitment, ok_bind]
  refine .bind (sysvarView_throws _ _) fun final _ => .bind (checkGuardedJupiterTransaction_throws _ _ _ _ _ _) fun recheck _ => ?_
  split
  · exact .ok _
  · exact .error trivial
/-- What a trade that was built is: the guard over exactly this suffix, and it verifies. -/
theorem buildGuardedJupiterTrade_eq_ok {platform : Platform} {programAddress feePayer protectedMint : Address}
    {adapterKind : JupiterAdapterKind} {execution : Instruction.AssertSafeExecution} {suffix : List Kit.Instruction}
    {trade : GuardedJupiterTrade}
    (built : buildGuardedJupiterTrade platform programAddress feePayer protectedMint adapterKind (ofExecution execution)
      suffix = .ok trade) :
    ∃ commitment : Chunk 32, ∃ final,
      trade.commitment = commitment.bytes ∧
      trade.instructions =
        guardWith programAddress protectedMint (guardRequest protectedMint adapterKind execution commitment) :: suffix ∧
      trade.adapterKind = adapterKind ∧
      sysvarView trade.instructions feePayer = .ok final ∧
      checkGuardedJupiterTransaction platform final 0 adapterKind protectedMint commitment.bytes = .ok none := by
  have guarded (commitment : Chunk 32) := getAssertSafeExecutionV2Instruction_of programAddress protectedMint execution
    commitment adapterKind
  unfold buildGuardedJupiterTrade at built
  dsimp only at built
  rw [guarded ⟨List.replicate 32 0, List.length_replicate⟩, ok_bind] at built
  obtain ⟨provisional, _, built⟩ := bind_eq_ok.mp built
  obtain ⟨check, checked⟩ := checkJupiterSuffix_returns platform (provisional.drop 1) adapterKind protectedMint
  rw [checked, ok_bind] at built
  split at built
  swap
  · cases built
  rcases jupiterSuffixCommitment_cases platform.sha256 (provisional.drop 1) with ⟨commitment, hashed⟩ | refused
  swap
  · rw [refused] at built
    cases built
  rw [hashed, ok_bind, guarded commitment, ok_bind] at built
  obtain ⟨final, viewed, built⟩ := bind_eq_ok.mp built
  obtain ⟨recheck, rechecked, built⟩ := bind_eq_ok.mp built
  cases recheck with
  | some error => cases built
  | none =>
    cases built
    exact ⟨commitment, final, rfl, rfl, rfl, viewed, rechecked⟩

end EquityGuard.ClientTrade
