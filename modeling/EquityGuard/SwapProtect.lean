import EquityGuard.ClientDeployment
import EquityGuard.ClientProtection
import EquityGuard.SwapCompose

/-!
The drop-in surface: a Jupiter build becomes an unsigned guarded transaction, or a typed
refusal. Protection must never be dropped silently.
-/
namespace EquityGuard.SwapProtect
open EquityGuard.Addresses EquityGuard.Binary64 EquityGuard.Bytes EquityGuard.Client EquityGuard.ClientAbi
open EquityGuard.ClientDeployment EquityGuard.ClientJupiter EquityGuard.ClientOffline EquityGuard.ClientProtection
open EquityGuard.ClientTrade EquityGuard.Errors EquityGuard.Kit EquityGuard.SwapBuild EquityGuard.SwapCompose
open EquityGuard.Transaction
open EquityGuard.Jupiter (Platform)

/-! ### Results -/

inductive EquityGuardFailureCode where
  | UNSUPPORTED_ROUTE_SHAPE
  | UNSUPPORTED_COUNTER_ASSET
  | TRANSACTION_TOO_LARGE
  | INVALID_JUPITER_BUILD
  | MALFORMED_TOKEN_STATE
  | UNSUPPORTED_TOKEN_STATE
  | MINT_STATE_UNAVAILABLE
  | ECONOMIC_STATE_CHANGED
  | INSIDE_TRANSITION_WINDOW
  | INVALID_GUARD_REQUEST
  | COMMITMENT_FAILURE
  | GUARD_DEPLOYMENT_UNAVAILABLE
  | GUARD_PROGRAM_NOT_EXECUTABLE
  | GUARD_BINARY_UNVERIFIED
  | UNSUPPORTED_CLUSTER
  | GUARD_DEPLOYMENT_CHANGED
  | NO_SUPPORTED_STATE_ADAPTER
  | UNSUPPORTED_STATE_MODEL
deriving DecidableEq
inductive NotApplicableReason where
  | NO_TOKEN_2022_MINT
  | NO_PROTECTED_STATE_MODEL
deriving DecidableEq
inductive SwapDirection where
  | BUY
  | SELL
deriving DecidableEq

structure ProtectedSwap where
  protectedMint : Address
  direction : SwapDirection
  adapterKind : JupiterAdapterKind
  programAddress : Address
  deploymentIdentity : GuardDeploymentIdentity
  deployment : GuardDeploymentAttestation
  cluster : SolanaCluster
  knownAsset : Option KnownProtectedAsset
  transaction : List UInt8
  transactionBase64 : String
  instructions : List Kit.Instruction
  lookupTables : LookupTables
  binding : JupiterTradeBinding
  metrics : TransactionMetrics
  snapshot : GuardSnapshot

inductive ProtectJupiterSwapResult where
  | PROTECTED (swap : ProtectedSwap)
  | NOT_APPLICABLE (reason : NotApplicableReason) (message : Template)
  | UNSUPPORTED_PROTECTED_ASSET (code : EquityGuardFailureCode) (message : Template) (protectedMint : Address)
      (knownAsset : KnownProtectedAsset)
  | UNSUPPORTED_PROTECTED_ROUTE (code : EquityGuardFailureCode) (message : Template) (protectedMint : Address)
      (guardError : Option EquityGuardError) (details : List Template)
  | ERROR (code : EquityGuardFailureCode) (message : Template) (protectedMint : Option Address)
      (guardError : Option EquityGuardError) (details : List Template)

/-- What `supportsJupiterSwap` answers. -/
inductive JupiterSwapSupport where
  | STRUCTURALLY_SUPPORTED (protectedMint : Address) (direction : SwapDirection) (adapterKind : JupiterAdapterKind)
      (knownAsset : Option KnownProtectedAsset)
  | NOT_APPLICABLE (code : NotApplicableReason) (message : Template)
  | UNSUPPORTED_PROTECTED_ASSET (code : EquityGuardFailureCode) (message : Template) (protectedMint : Address)
  | UNSUPPORTED_PROTECTED_ROUTE (code : EquityGuardFailureCode) (message : Template) (protectedMint : Address)
  | ERROR (code : EquityGuardFailureCode) (message : Template) (protectedMint : Option Address)

structure ProtectJupiterSwapInput where
  build : Json
  userPublicKey : Address
  protectionWindow : ProtectionWindow
  programAddress : Option Address
  computeUnitLimit : Option Number
  expectedState : Option ProtectedState
  expectedPhase : Option Number

/-- The caller's RPC. Each call may be answered differently, so `getMultipleAccounts` is told
    how many such calls came before; a failed call throws. -/
structure Rpc where
  getGenesisHash : Js String
  getMultipleAccounts : Nat → List Address → Js AccountsAnswer

/-! ### Classification -/

inductive Classification where
  | PROTECTED (protectedMint : Address) (direction : SwapDirection) (adapterKind : JupiterAdapterKind)
      (knownAsset : Option KnownProtectedAsset)
  | NOT_APPLICABLE (reason : NotApplicableReason) (message : Template)
  | UNSUPPORTED_ASSET (code : EquityGuardFailureCode) (message : Template) (protectedMint : Address)
      (knownAsset : KnownProtectedAsset)
  | UNSUPPORTED (code : EquityGuardFailureCode) (message : Template) (protectedMint : Address)
  | ERROR (code : EquityGuardFailureCode) (message : Template) (protectedMint : Option Address)
deriving DecidableEq

inductive MintVerdict where
  | protectedBy (knownAsset : Option KnownProtectedAsset)
  | unprotected (reason : NotApplicableReason)
  | refusal (classification : Classification)
deriving DecidableEq

/-- Classifies one mint account through the resolver. -/
def verdictFor (mint owner : Address) (data : List UInt8) : Js MintVerdict := do
  match ← resolveProtectionAdapter KNOWN_PROTECTED_ASSETS mint owner data with
  | .SUPPORTED _ knownAsset => return .protectedBy knownAsset
  | .NOT_PROTECTED reason =>
    return .unprotected (if reason = .NOT_TOKEN_2022 then .NO_TOKEN_2022_MINT else .NO_PROTECTED_STATE_MODEL)
  | .KNOWN_PROTECTED_UNSUPPORTED reason message knownAsset =>
    let code := if reason = .UNSUPPORTED_STATE_MODEL then EquityGuardFailureCode.UNSUPPORTED_STATE_MODEL
      else .NO_SUPPORTED_STATE_ADAPTER
    let refused := message ++ [.text "; EquityGuard refuses rather than trading a known tokenized equity unprotected"]
    return .refusal (.UNSUPPORTED_ASSET code refused mint knownAsset)
  | .INVALID_STATE errorCode message _ =>
    let code := if errorCode = .InvalidExtensionCombination then EquityGuardFailureCode.UNSUPPORTED_TOKEN_STATE
      else .MALFORMED_TOKEN_STATE
    let refused := ([mint, " is a Token-2022 mint whose state cannot be read ("] : Template) ++ message ++
      [.text "); EquityGuard refuses rather than trading it unprotected"]
    return .refusal (.ERROR code refused (some mint))

/-- `String(pubkey)`. -/
def pubkeyText (pubkey : Option Address) : Piece := (pubkey.map Address.text).getD "undefined"
/-- For a `route_v2` swap, why the mints the build reports are not the mints it moves. -/
def reportedMintMismatch (kit : Library) (build : BuildResponse) : Js (Option Template) :=
  let swap := build.swapInstruction
  if swap.programId ≠ JUPITER_V6_PROGRAM_ADDRESS then .ok none
  else do
    match ← decodeRouteV2Prefix (kit.bufferFromBase64 swap.data) with
    | none => return none
    | some _ =>
      let source := swap.accounts[ROUTE_V2_ACCOUNT.sourceMint]?.map ApiAccountMeta.pubkey
      let destination := swap.accounts[ROUTE_V2_ACCOUNT.destinationMint]?.map ApiAccountMeta.pubkey
      if source = some build.inputMint ∧ destination = some build.outputMint then return none
      else return some ["the build reports ", build.inputMint, " -> ", build.outputMint,
        ", but its route_v2 instruction trades ", pubkeyText source, " -> ", pubkeyText destination]

/-- What the loop over the candidate mints has found so far. -/
structure Tally where
  protectedMints : List (Address × Option KnownProtectedAsset)
  notApplicable : NotApplicableReason
/-- One turn of the loop, which may end it with a classification. -/
def visit (kit : Library) (answer : AccountsAnswer) (tally : Tally) (index : Nat) (mint : Address) :
    Js (Except Classification Tally) :=
  match answer.account index with
  | none =>
    let known := findKnownProtectedAsset mint KNOWN_PROTECTED_ASSETS
    .ok (.error (.ERROR .MINT_STATE_UNAVAILABLE (match known with
      | some asset => [asset.symbol, " (", mint, ") is a known tokenized equity, but the RPC returned no account for it; ",
          "EquityGuard cannot establish its economic state"]
      | none => ["mint ", mint, " was not returned by the RPC; EquityGuard cannot tell whether it is protected"])
      (known.map (fun _ => mint))))
  | some account => do
    match ← verdictFor mint account.owner (kit.bufferFromBase64 account.data) with
    | .refusal classification => return .error classification
    | .protectedBy knownAsset =>
      return .ok { tally with protectedMints := tally.protectedMints ++ [(mint, knownAsset)] }
    | .unprotected .NO_PROTECTED_STATE_MODEL => return .ok { tally with notApplicable := .NO_PROTECTED_STATE_MODEL }
    | .unprotected .NO_TOKEN_2022_MINT => return .ok tally
/-- The loop, from the given index on. -/
def visitFrom (kit : Library) (answer : AccountsAnswer) (tally : Tally) (index : Nat) :
    List Address → Js (Except Classification Tally)
  | [] => .ok (.ok tally)
  | mint :: rest => do
    match ← visit kit answer tally index mint with
    | .error classification => return .error classification
    | .ok tally => visitFrom kit answer tally (index + 1) rest

def NotApplicableReason.message : NotApplicableReason → Template
  | .NO_PROTECTED_STATE_MODEL => ["the Token-2022 mint in this swap is not a known tokenized equity and carries no ",
      "economic-state model EquityGuard protects"]
  | .NO_TOKEN_2022_MINT => ["neither side of the swap is a protected Token-2022 mint"]
/-- The classification once both mints are read. -/
def conclude (inputMint outputMint : Address) (tally : Tally) : Classification :=
  match tally.protectedMints with
  | [] => .NOT_APPLICABLE tally.notApplicable tally.notApplicable.message
  | (protectedMint, knownAsset) :: others =>
    match others with
    | (second, _) :: _ => .UNSUPPORTED .UNSUPPORTED_COUNTER_ASSET ["both ", protectedMint, " and ", second,
        " are protected; adapter kinds 2 and 3 trade one protected mint against canonical USDC"] protectedMint
    | [] =>
      let counterMint := if protectedMint = outputMint then inputMint else outputMint
      if counterMint ≠ USDC_MINT_ADDRESS then
        .UNSUPPORTED .UNSUPPORTED_COUNTER_ASSET [protectedMint, " is protected but is traded against ", counterMint,
          "; only canonical USDC is supported"] protectedMint
      else if protectedMint = outputMint then .PROTECTED protectedMint .BUY .JUPITER_ROUTE_V2_BUY_USDC knownAsset
      else .PROTECTED protectedMint .SELL .JUPITER_ROUTE_V2_SELL_USDC knownAsset

def candidatesOf (inputMint outputMint : Address) : List Address :=
  [inputMint, outputMint].filter (fun mint => decide (mint ≠ USDC_MINT_ADDRESS))
/-- Identifies the protected side of a build and the adapter kind that covers it. -/
def classify (kit : Library) (rpc : Rpc) (build : BuildResponse) : Js Classification := do
  match ← reportedMintMismatch kit build with
  | some mismatch => return .ERROR .INVALID_JUPITER_BUILD mismatch none
  | none =>
    if build.inputMint = build.outputMint then
      return .UNSUPPORTED .UNSUPPORTED_ROUTE_SHAPE ["the build trades a mint for itself"] build.inputMint
    else do
      let candidates := candidatesOf build.inputMint build.outputMint
      let answer ← rpc.getMultipleAccounts 0 candidates
      match ← visitFrom kit answer ⟨[], .NO_TOKEN_2022_MINT⟩ 0 candidates with
      | .error classification => return classification
      | .ok tally => return conclude build.inputMint build.outputMint tally

/-! ### The deployment -/

structure Deployment where
  programAddress : Address
  cluster : SolanaCluster
  identity : GuardDeploymentIdentity
  attestation : GuardDeploymentAttestation

def deploymentFailureCode : GuardFailureReason → EquityGuardFailureCode
  | .MISSING => .GUARD_DEPLOYMENT_UNAVAILABLE
  | .NOT_EXECUTABLE => .GUARD_PROGRAM_NOT_EXECUTABLE
  | _ => .GUARD_BINARY_UNVERIFIED
/-- The account at an index, as the loader checks read it. -/
def viewOf (kit : Library) (answer : AccountsAnswer) (index : Nat) : Option LoaderAccountView :=
  (answer.account index).map (fun account => ⟨account.executable, account.owner, kit.bufferFromBase64 account.data⟩)
/-- The attestation of an address from its accounts, reviewed or not. -/
def attest (kit : Library) (platform : Platform) (programAddress : Address) (answer : AccountsAnswer) :
    Except GuardFailure GuardDeploymentAttestation :=
  match findReviewedGuardDeployment programAddress with
  | some reviewed => verifyReviewedGuardDeployment platform.sha256 reviewed (viewOf kit answer 0) (viewOf kit answer 1)
  | none => do
    checkGuardProgramAccount programAddress (viewOf kit answer 0)
    return callerTrustedAttestation programAddress
/-- Binds protection to a deployment that can run on the cluster the RPC serves. -/
def resolveDeployment (kit : Library) (platform : Platform) (rpc : Rpc) (requested : Option Address) :
    Js (Except (EquityGuardFailureCode × Template) Deployment) := do
  let cluster := clusterFromGenesisHash (← rpc.getGenesisHash)
  match requested.or (deploymentForCluster cluster) with
  | none =>
    if cluster = .unknown then return .error (.UNSUPPORTED_CLUSTER,
      ["this RPC serves a cluster EquityGuard has no deployment knowledge for; ",
        "pass programAddress explicitly to build against a deployment you trust"])
    else return .error (.GUARD_DEPLOYMENT_UNAVAILABLE, ["EquityGuard is not deployed on ", cluster.text,
      "; the devnet deployment is never applied to another cluster"])
  | some programAddress => do
    let addresses := match findReviewedGuardDeployment programAddress with
      | some reviewed => [programAddress, reviewed.programDataAddress]
      | none => [programAddress]
    let answer ← rpc.getMultipleAccounts 1 addresses
    match attest kit platform programAddress answer with
    | .error failure => return .error (deploymentFailureCode failure.reason,
        failure.message ++ ([" (", cluster.text, ")"] : Template))
    | .ok attestation => return .ok { programAddress, cluster, identity := attestation.identity, attestation }

/-! ### Refusals -/

/-- Why the caller's guard parameters cannot be honoured. -/
def guardRequestIssue (input : ProtectJupiterSwapInput) : Option Template :=
  if ¬ isValidWindowSecs input.protectionWindow.beforeSecs ∨ ¬ isValidWindowSecs input.protectionWindow.afterSecs then
    some ["protectionWindow bounds must be whole seconds in [0, 4294967295]"]
  else match input.expectedPhase, input.expectedState with
  | some _, none => some ["expectedPhase was given without the expectedState it was observed with"]
  | some phase, some _ =>
    if ¬ Number.strictEq phase ActivationPhase.Pending ∧ ¬ Number.strictEq phase ActivationPhase.Activated then
      some ["expectedPhase ", phase, " is not an activation phase"]
    else none
  | none, some state =>
    if hasScheduledChange state then
      some ["expectedState carries a scheduled multiplier activation, so its economic meaning depends on the phase ",
        "it was quoted under; pass expectedPhase (the quoting snapshot's phase)"]
    else none
  | none, none => none

/-- Jupiter's own limit when it set one; otherwise its unsimulated maximum. -/
def defaultComputeUnitLimit (kit : Library) (build : BuildResponse) : Number :=
  match (build.computeBudgetInstructions.map (fun instruction => kit.bufferFromBase64 instruction.data)).find?
    (fun data => decide (data.length = SET_COMPUTE_UNIT_LIMIT.length ∧ data[0]? = some SET_COMPUTE_UNIT_LIMIT.tag)) with
  -- a `getUint32` of the four bytes after the tag
  | some data => .ofInt (leNat (data.drop 1))
  | none => UNSIMULATED_COMPUTE_UNIT_LIMIT

def guardVerdict (expectation : AssertSafeExecutionRequest) (snapshot : GuardSnapshot) : Js (Option EquityGuardError) :=
  checkGuardOffline expectation snapshot.state snapshot.clock.unixTimestamp
def economicFailure (verdict : EquityGuardError) (protectedMint : Address) : ProtectJupiterSwapResult :=
  if verdict = .InsideTransitionWindow then
    .ERROR .INSIDE_TRANSITION_WINDOW [protectedMint, " is inside its protection window around the scheduled activation; ",
      "the guard would reject this transaction"] (some protectedMint) (some verdict) []
  else
    .ERROR .ECONOMIC_STATE_CHANGED ["the protected state of ", protectedMint,
      " is no longer the state this swap was quoted against (", verdict, ")"] (some protectedMint) (some verdict) []
def stateFailureCode : GuardClientErrorCode → EquityGuardFailureCode
  | .InvalidExtensionCombination => .UNSUPPORTED_TOKEN_STATE
  | .AccountNotFound | .InvalidClockData => .MINT_STATE_UNAVAILABLE
  | .InvalidExpectedState | .InvalidProtectionWindow => .INVALID_GUARD_REQUEST
  | _ => .MALFORMED_TOKEN_STATE

def unreadableState (code : GuardClientErrorCode) (message : Template) (protectedMint : Address) :
    ProtectJupiterSwapResult :=
  .ERROR (stateFailureCode code)
    ((["the protected state of ", protectedMint, " could not be read: "] : Template) ++ messageOf code message)
    (some protectedMint) none [messageOf code message]
/-- Maps a composer refusal onto the public result; anything else is thrown on. -/
def compositionFailure (error : JsError) (protectedMint : Address) : Js ProtectJupiterSwapResult :=
  match error with
  | .UnsupportedJupiterBuildError reasons => .ok (.UNSUPPORTED_PROTECTED_ROUTE .UNSUPPORTED_ROUTE_SHAPE
      ("unsupported Jupiter build: " :: (reasons.intersperse [.text "; "]).flatten) protectedMint none reasons)
  | .GuardClientError code message guardError =>
    if code = .UnsupportedJupiterTrade ∨ code = .InvalidDownstream then
      .ok (.UNSUPPORTED_PROTECTED_ROUTE .UNSUPPORTED_ROUTE_SHAPE (messageOf code message) protectedMint guardError
        [messageOf code message])
    else .ok (.ERROR (stateFailureCode code) (messageOf code message) (some protectedMint) guardError
      [messageOf code message])
  | .CompositionError code message =>
    match code with
    | .TRANSACTION_TOO_LARGE =>
      .ok (.UNSUPPORTED_PROTECTED_ROUTE .TRANSACTION_TOO_LARGE message protectedMint none [message])
    | .MISSING_COMPUTE_UNIT_PRICE =>
      .ok (.UNSUPPORTED_PROTECTED_ROUTE .UNSUPPORTED_ROUTE_SHAPE message protectedMint none [message])
    | .INVALID_COMPUTE_UNIT_LIMIT => .ok (.ERROR .INVALID_GUARD_REQUEST message (some protectedMint) none [message])
    | _ => .ok (.ERROR .COMMITMENT_FAILURE message (some protectedMint) none [message])
  | error => .error error

/-! ### Entry points -/

def supportsJupiterSwap (kit : Library) (rpc : Rpc) (build : Json) : Js JupiterSwapSupport :=
  match parseBuildResponse build with
  | .error (.JupiterApiError message) => .ok (.ERROR .INVALID_JUPITER_BUILD message none)
  | .error error => .error error
  | .ok build => do
    match ← classify kit rpc build with
    | .PROTECTED protectedMint direction adapterKind knownAsset =>
      return .STRUCTURALLY_SUPPORTED protectedMint direction adapterKind knownAsset
    | .NOT_APPLICABLE reason message => return .NOT_APPLICABLE reason message
    | .UNSUPPORTED_ASSET code message protectedMint _ => return .UNSUPPORTED_PROTECTED_ASSET code message protectedMint
    | .UNSUPPORTED code message protectedMint => return .UNSUPPORTED_PROTECTED_ROUTE code message protectedMint
    | .ERROR code message protectedMint => return .ERROR code message protectedMint

/-- A swap found to be protected, and the side that is. -/
structure Protectable where
  build : BuildResponse
  protectedMint : Address
  direction : SwapDirection
  adapterKind : JupiterAdapterKind
  knownAsset : Option KnownProtectedAsset

/-- The last step: compose, or refuse with what the composer said. -/
def compose (kit : Library) (platform : Platform) (input : ProtectJupiterSwapInput) (swap : Protectable)
    (deployment : Deployment) (snapshot : GuardSnapshot) : Js ProtectJupiterSwapResult :=
  match composeGuardedJupiterTrade kit platform swap.build deployment.programAddress input.userPublicKey
      { adapterKind := swap.adapterKind, protectedMint := swap.protectedMint, taker := input.userPublicKey
        computeUnitLimit := input.computeUnitLimit.getD (defaultComputeUnitLimit kit swap.build) }
      (expectationFromSnapshot snapshot input.protectionWindow) with
  | .ok composed => .ok (.PROTECTED {
      protectedMint := swap.protectedMint
      direction := swap.direction
      adapterKind := swap.adapterKind
      programAddress := deployment.programAddress
      deploymentIdentity := deployment.identity
      deployment := deployment.attestation
      cluster := deployment.cluster
      knownAsset := swap.knownAsset
      transaction := composed.wireBytes
      transactionBase64 := kit.base64Text composed.wireBytes
      instructions := composed.trade.instructions
      lookupTables := swap.build.addressesByLookupTableAddress
      binding := composed.binding
      metrics := composed.metrics
      snapshot })
  | .error error => compositionFailure error swap.protectedMint
/-- What the caller quoted against, if anything, must still be what is on chain. -/
def quotedVerdict (input : ProtectJupiterSwapInput) (snapshot : GuardSnapshot) : Js (Option EquityGuardError) :=
  match input.expectedState with
  | none => .ok none
  | some expected => guardVerdict
      { expected, expectedPhase := input.expectedPhase.getD snapshot.phase, window := input.protectionWindow } snapshot
/-- Refuses now what the program would refuse at execution time, then composes. -/
def bindState (kit : Library) (platform : Platform) (input : ProtectJupiterSwapInput) (swap : Protectable)
    (deployment : Deployment) (snapshot : GuardSnapshot) : Js ProtectJupiterSwapResult := do
  match ← quotedVerdict input snapshot with
  | some moved => return economicFailure moved swap.protectedMint
  | none =>
    match ← guardVerdict (expectationFromSnapshot snapshot input.protectionWindow) snapshot with
    | some wouldFail => return economicFailure wouldFail swap.protectedMint
    | none => compose kit platform input swap deployment snapshot
/-- Reads the mint and the Clock at one slot. -/
def fetchGuardSnapshot (kit : Library) (rpc : Rpc) (mint : Address) : Js GuardSnapshot := do
  snapshotOf kit.bufferFromBase64 mint (← rpc.getMultipleAccounts 2 [mint, SYSVAR_CLOCK_ADDRESS])
/-- Everything after a protected mint was found. -/
def protect (kit : Library) (platform : Platform) (rpc : Rpc) (input : ProtectJupiterSwapInput) (swap : Protectable) :
    Js ProtectJupiterSwapResult :=
  match guardRequestIssue input with
  | some issue => .ok (.ERROR .INVALID_GUARD_REQUEST issue (some swap.protectedMint) none [])
  | none => do
    match ← resolveDeployment kit platform rpc input.programAddress with
    | .error (code, message) => return .ERROR code message (some swap.protectedMint) none []
    | .ok deployment =>
      match fetchGuardSnapshot kit rpc swap.protectedMint with
      | .error (.GuardClientError code message _) => return unreadableState code message swap.protectedMint
      | .error error => .error error
      | .ok snapshot => bindState kit platform input swap deployment snapshot

/-- Turns a Jupiter build into an unsigned guarded transaction, or says why it could not. -/
def protectJupiterSwap (kit : Library) (platform : Platform) (rpc : Rpc) (input : ProtectJupiterSwapInput) :
    Js ProtectJupiterSwapResult :=
  match parseBuildResponse input.build with
  | .error (.JupiterApiError message) => .ok (.ERROR .INVALID_JUPITER_BUILD message none none [])
  | .error error => .error error
  | .ok build => do
    match ← classify kit rpc build with
    | .NOT_APPLICABLE reason message => return .NOT_APPLICABLE reason message
    | .UNSUPPORTED_ASSET code message protectedMint knownAsset =>
      return .UNSUPPORTED_PROTECTED_ASSET code message protectedMint knownAsset
    | .UNSUPPORTED code message protectedMint => return .UNSUPPORTED_PROTECTED_ROUTE code message protectedMint none []
    | .ERROR code message protectedMint => return .ERROR code message protectedMint none []
    | .PROTECTED protectedMint direction adapterKind knownAsset =>
      protect kit platform rpc input { build, protectedMint, direction, adapterKind, knownAsset }

/-! ### A buy of an equity -/

theorem fives_size : (List.replicate 32 (5 : UInt8)).length = 32 := List.length_replicate
def guardProgram : Address := .ofKey ⟨List.replicate 32 5, fives_size⟩
def apiOf (instruction : CommittedInstruction) : ApiInstruction where
  programId := instruction.programAddress
  accounts := instruction.accounts.map (fun account => ⟨account.address, account.isSigner, account.isWritable⟩)
  data := Base64.encode instruction.data
def buyRoute : CommittedInstruction := buySuffix.getLast (List.cons_ne_nil _ _)
/-- Jupiter's answer for one USDC, without lookup tables. -/
def buyBuild (budget : List ApiInstruction) : BuildResponse where
  inputMint := USDC_MINT_ADDRESS
  outputMint := equityMint
  inAmount := ⟨"1000000", by decide +kernel⟩
  outAmount := ⟨"2000000", by decide +kernel⟩
  otherAmountThreshold := ⟨"1990000", by decide +kernel⟩
  swapMode := "ExactIn"
  slippageBps := 50
  routePlan := []
  computeBudgetInstructions := budget
  setupInstructions := []
  swapInstruction := apiOf buyRoute
  cleanupInstruction := none
  otherInstructions := []
  tipInstruction := none
  addressesByLookupTableAddress := []
  blockhashWithMetadata := ⟨⟨List.replicate 32 0, zeros_size⟩, 300⟩
def buyBudget : List ApiInstruction := [apiOf ⟨COMPUTE_BUDGET_PROGRAM_ADDRESS, [], [3, 0xe8, 3, 0, 0, 0, 0, 0, 0]⟩]
/-- The message of the buy. The compiler lists what is empty, the decoder leaves it out. -/
def buyCompiled (listed : Bool) : CompiledTransactionMessage where
  version := .numbered 0
  header := ⟨1, 0, 9⟩
  staticAccounts := [buyer, buyerUsdc, buyerEquity, equityMint, COMPUTE_BUDGET_PROGRAM_ADDRESS, JUPITER_EVENT_AUTHORITY,
    USDC_MINT_ADDRESS, JUPITER_V6_PROGRAM_ADDRESS, guardProgram, SYSVAR_INSTRUCTIONS_ADDRESS, LEGACY_TOKEN_PROGRAM_ADDRESS,
    ClientMintState.TOKEN_2022_PROGRAM_ADDRESS]
  addressTableLookups := if listed then some [] else none
  instructions := [⟨8, some [3, 9], some buyRequest.pack⟩,
    ⟨4, if listed then some [] else none, some [3, 0xe8, 3, 0, 0, 0, 0, 0, 0]⟩,
    ⟨4, if listed then some [] else none, some [2, 0xc0, 0x5c, 0x15, 0]⟩,
    ⟨7, some [0, 1, 2, 6, 3, 10, 11, 7, 5, 7], some buyRoute.data⟩]
@[irreducible] def buyMessage : List UInt8 :=
  [0x80, 1, 0, 9, 12] ++ (buyCompiled true).staticAccounts.flatMap (fun address => address.key.bytes) ++
    List.replicate 32 0 ++ [4] ++ ([8, 2, 3, 9, 99] ++ buyRequest.pack) ++ [4, 0, 9, 3, 0xe8, 3, 0, 0, 0, 0, 0, 0] ++
    [4, 0, 5, 2, 0xc0, 0x5c, 0x15, 0] ++
    ([7, 10, 0, 1, 2, 6, 3, 10, 11, 7, 5, 7, 34] ++ buyRoute.data) ++ [0]
/-- The kit as it behaves on the buy. -/
def buyKit : Library where
  base64Bytes text := if Base64.isValid text then some (Base64.decode text) else none
  base64Text := Base64.encode
  bufferFromBase64 := Base64.decode
  compileTransactionMessage _ := some (buyCompiled true)
  encodeMessage _ := some buyMessage
  encodeTransaction _ := some (1 :: (List.replicate 64 0 ++ buyMessage))
  decodeTransaction
    | [] => none
    | signatures :: rest => some (rest.drop (64 * signatures.toNat))
  decodeMessage bytes := if bytes = buyMessage then some (buyCompiled false) else none
theorem buyKit_reads (bytes : List UInt8) : buyKit.bufferFromBase64 (Base64.encode bytes) = bytes := by
  have buffer : buyKit.bufferFromBase64 = Base64.decode := rfl
  rw [buffer, Base64.decode_encode]
/-- A Clock at second 0. -/
def startOfTime : List UInt8 := List.replicate 40 0
def buyRpc (mintOwner : Address) : Rpc where
  getGenesisHash := .ok "a local validator"
  getMultipleAccounts call _ := .ok ⟨1, match call with
    | 0 => [some ⟨false, mintOwner, Base64.encode Guard.splitMint⟩]
    | 1 => [some ⟨true, BPF_LOADER_UPGRADEABLE_ADDRESS, ""⟩]
    | _ => [some ⟨false, mintOwner, Base64.encode Guard.splitMint⟩,
        some ⟨false, SYSVAR_CLOCK_ADDRESS, Base64.encode startOfTime⟩]⟩
def buyInput (build : BuildResponse) : ProtectJupiterSwapInput where
  build := build.toJson
  userPublicKey := buyer
  protectionWindow := ⟨10, 10⟩
  programAddress := some guardProgram
  computeUnitLimit := none
  expectedState := some (ofProtectedState Guard.twoForOneSplit)
  expectedPhase := some ActivationPhase.Pending

end EquityGuard.SwapProtect
