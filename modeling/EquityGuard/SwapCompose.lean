import EquityGuard.ClientTrade
import EquityGuard.SwapBuild

/-!
Composing the guard with a Jupiter build into one unsigned v0 transaction, and reading
such a transaction back the way the runtime loads it.
-/
namespace EquityGuard.SwapCompose
open EquityGuard.Addresses EquityGuard.Binary64 EquityGuard.Bytes EquityGuard.Client EquityGuard.ClientAbi
open EquityGuard.ClientJupiter EquityGuard.ClientTrade EquityGuard.Errors EquityGuard.Kit EquityGuard.SwapBuild
open EquityGuard.Transaction
open EquityGuard.Jupiter (Platform)

def MAX_TRANSACTION_BYTES : Nat := 1232
def UNSIMULATED_COMPUTE_UNIT_LIMIT : Number := .ofInt 1400000

/-- What the kit gives, or its own error. -/
def orSolanaError {α : Type} (result : Option α) : Js α := ok_or .SolanaError result

def roleOfFlags (isSigner isWritable : Bool) : AccountRole :=
  if isSigner then (if isWritable then .WRITABLE_SIGNER else .READONLY_SIGNER)
  else if isWritable then .WRITABLE else .READONLY
/-- Converts one `/build` instruction into a Kit instruction. -/
def toKitInstruction (kit : Library) (api : ApiInstruction) : Js Kit.Instruction := do
  return {
    programAddress := api.programId
    accounts := api.accounts.map (fun account => ⟨account.pubkey, roleOfFlags account.isSigner account.isWritable⟩)
    data := ← orSolanaError (kit.base64Bytes api.data) }

/-- An integer in `[0, 0xffffffff]`. -/
def isU32 (units : Number) : Bool := units.isInteger && Number.le 0 units && Number.le units U32_MAX
def getSetComputeUnitLimitInstruction (units : Number) : Js Kit.Instruction := do
  refuse_if (isU32 units = false)
    (.CompositionError .INVALID_COMPUTE_UNIT_LIMIT ["compute unit limit ", units, " is not a u32"])
  return {
    programAddress := COMPUTE_BUDGET_PROGRAM_ADDRESS
    accounts := []
    data := SET_COMPUTE_UNIT_LIMIT.tag :: leBytes 4 (toUint 32 units) }
def isShape (instruction : Kit.Instruction) (shape : Shape) : Bool :=
  decide (instruction.programAddress = COMPUTE_BUDGET_PROGRAM_ADDRESS) && decide (instruction.accounts.length = 0) &&
    decide (instruction.data.length = shape.length) && decide (instruction.data[0]? = some shape.tag)

structure JupiterTradeRequest where
  adapterKind : JupiterAdapterKind
  protectedMint : Address
  taker : Address
  computeUnitLimit : Number

/-! ### The supported builds -/

/-- A reason, if it applies. -/
def reason (applies : Prop) [Decidable applies] (text : Template) : List Template := if applies then [text] else []

def limitReasons (limit : Kit.Instruction) (request : JupiterTradeRequest) : Js (List Template) := do
  let units ← getUint32 limit.data 1
  return reason (¬ Number.strictEq (.ofInt units) request.computeUnitLimit)
    ["Jupiter's compute unit limit ", units, " differs from the requested ", request.computeUnitLimit]
def setupReasons (kit : Library) (setup : ApiInstruction) : Js (List Template) := do
  let data ← orSolanaError (kit.base64Bytes setup.data)
  return reason (setup.programId ≠ ASSOCIATED_TOKEN_PROGRAM_ADDRESS ∨ data.length ≠ 1 ∨ data[0]? ≠ some 1)
    ["unknown setup instruction on ", setup.programId]
/-- The quote Jupiter reports must be the trade its instruction encodes. -/
def quoteReasons (build : BuildResponse) (start : RouteV2Prefix) : Js (List Template) := do
  let threshold : List Template ←
    if ¬ Number.strictEq (.ofInt start.slippageBps) (.finite build.slippageBps) then
      pure [["slippageBps differs from the encoded trade"]]
    else do
      return reason ((← minimumOutFromQuote start.quotedOutAmount start.slippageBps) ≠ build.otherAmountThreshold.toNat)
        ["otherAmountThreshold is not the minimum the encoded trade enforces"]
  return reason (start.inAmount ≠ build.inAmount.toNat) ["inAmount differs from the encoded trade"] ++
    reason (start.quotedOutAmount ≠ build.outAmount.toNat) ["outAmount differs from the encoded trade"] ++ threshold

/-- Refuses a build outside the supported grammar, with every reason. -/
def assertSupportedJupiterBuild (kit : Library) (build : BuildResponse) (request : JupiterTradeRequest) : Js Unit := do
  let unsupported :=
    reason (build.cleanupInstruction.isSome) ["cleanupInstruction is unsupported"] ++
    reason (build.otherInstructions.length > 0)
      [build.otherInstructions.length, " otherInstructions are unsupported"] ++
    reason (build.tipInstruction.isSome) ["tipInstruction is unsupported"]
  let budget ← build.computeBudgetInstructions.mapM (toKitInstruction kit)
  let prices := (budget.filter (fun instruction => isShape instruction SET_COMPUTE_UNIT_PRICE)).length
  let limits := budget.filter (fun instruction => isShape instruction SET_COMPUTE_UNIT_LIMIT)
  let budgetReasons :=
    reason (prices ≠ 1) ["expected exactly one SetComputeUnitPrice, got ", prices] ++
    reason (budget.length ≠ prices + limits.length) ["unsupported ComputeBudget instruction"] ++
    reason (limits.length > 1) ["more than one SetComputeUnitLimit"] ++
    (← limits.mapM (fun limit => limitReasons limit request)).flatten
  let setups :=
    reason (build.setupInstructions.length > 1)
      [build.setupInstructions.length, " setup instructions; at most one is supported"] ++
    (← build.setupInstructions.mapM (setupReasons kit)).flatten
  let swap := build.swapInstruction
  let swapData ← orSolanaError (kit.base64Bytes swap.data)
  let start ← decodeRouteV2Prefix swapData
  let (expectedInput, expectedOutput, side) := match request.adapterKind with
    | .JUPITER_ROUTE_V2_BUY_USDC => (USDC_MINT_ADDRESS, request.protectedMint, "BUY")
    | .JUPITER_ROUTE_V2_SELL_USDC => (request.protectedMint, USDC_MINT_ADDRESS, "SELL")
  let trade :=
    reason (swap.programId ≠ JUPITER_V6_PROGRAM_ADDRESS) ["swap program ", swap.programId, " is not Jupiter v6"] ++
    reason (start.isNone) ["swap entrypoint ", hexOf (swapData.take 8), " is not route_v2 (", ROUTE_V2_DISCRIMINATOR_HEX,
      ")"] ++
    reason (build.swapMode ≠ "ExactIn") ["swapMode ", build.swapMode, " is unsupported"] ++
    reason (build.inputMint ≠ expectedInput ∨ build.outputMint ≠ expectedOutput) [side, " must be ", expectedInput,
      " -> ", expectedOutput, ", got ", build.inputMint, " -> ", build.outputMint] ++
    reason (swap.accounts[0]?.map ApiAccountMeta.pubkey ≠ some request.taker) ["the swap authority is not the taker"]
  let quote ← match start with
    | some start => quoteReasons build start
    | none => pure []
  let reasons := unsupported ++ budgetReasons ++ setups ++ trade ++ quote
  refuse_if (reasons.length > 0) (.UnsupportedJupiterBuildError reasons)

/-- `[price, limit, (setup), route_v2]` from a supported build. -/
def normalizedJupiterSuffix (kit : Library) (build : BuildResponse) (computeUnitLimit : Number) :
    Js (List Kit.Instruction) := do
  let budget ← build.computeBudgetInstructions.mapM (toKitInstruction kit)
  let price ← ok_or (.CompositionError .MISSING_COMPUTE_UNIT_PRICE ["no SetComputeUnitPrice"])
    (budget.find? (fun instruction => isShape instruction SET_COMPUTE_UNIT_PRICE))
  let limit ← getSetComputeUnitLimitInstruction computeUnitLimit
  let setups ← build.setupInstructions.mapM (toKitInstruction kit)
  let swap ← toKitInstruction kit build.swapInstruction
  return price :: limit :: (setups ++ [swap])

/-! ### The wire -/

structure TransactionMetrics where
  instructionCount : Nat
  staticAccountCount : Nat
  addressLookupTableCount : Nat
  lookedUpAddressCount : Nat
  compiledMessageBytes : Nat
  serializedTransactionBytes : Nat
  requiredSignatures : Nat
  fitsSizeLimit : Bool

/-- Compiles an unsigned v0 transaction using Jupiter's lookup tables and measures it. -/
def compileAndMeasure (kit : Library) (build : BuildResponse) (feePayer : Address) (instructions : List Kit.Instruction) :
    Js (List UInt8 × TransactionMetrics) := do
  let message : TransactionMessage := {
    feePayer
    blockhash := build.blockhashWithMetadata.blockhash
    lastValidBlockHeight := ← BigInt (.finite build.blockhashWithMetadata.lastValidBlockHeight)
    instructions
    lookupTables := build.addressesByLookupTableAddress }
  let compiled ← orSolanaError (kit.compileTransactionMessage message)
  let lookups := compiled.addressTableLookups.getD []
  let messageBytes ← orSolanaError (kit.encodeMessage compiled)
  let wireBytes ← orSolanaError (kit.encodeTransaction message)
  return (wireBytes, {
    instructionCount := compiled.instructions.length
    staticAccountCount := compiled.staticAccounts.length
    addressLookupTableCount := lookups.length
    lookedUpAddressCount :=
      (lookups.map (fun lookup => lookup.readonlyIndexes.length + lookup.writableIndexes.length)).sum
    compiledMessageBytes := messageBytes.length
    serializedTransactionBytes := wireBytes.length
    requiredSignatures := compiled.header.numSignerAccounts
    fitsSizeLimit := decide (wireBytes.length ≤ MAX_TRANSACTION_BYTES) })

def unresolvable (message : Template) : JsError := .CompositionError .UNRESOLVABLE_TRANSACTION message

/-- `lookupTables[table]?.[index]`. -/
def fromTable (lookupTables : LookupTables) (table : Address) (index : Nat) : Js Address :=
  ok_or (unresolvable ["lookup ", table, "#", index, " does not resolve"])
    ((lookupTables.find? (fun entry => decide (entry.1 = table))).bind (fun entry => entry.2[index]?))
/-- A static account with the flags its position in the message gives it. -/
def staticAccount (header : MessageHeader) (count index : Nat) (key : Address) : CommittedAccount where
  address := key
  isSigner := decide (index < header.numSignerAccounts)
  isWritable :=
    if index < header.numSignerAccounts then decide (index + header.numReadonlySignerAccounts < header.numSignerAccounts)
    else decide (index + header.numReadonlyNonSignerAccounts < count)
/-- The accounts a list of lookups loads from one of its two index lists. -/
def lookedUp (lookupTables : LookupTables) (lookups : List AddressTableLookup)
    (indexes : AddressTableLookup → List Nat) (isWritable : Bool) : Js (List CommittedAccount) := do
  let loaded ← lookups.mapM (fun lookup => (indexes lookup).mapM (fun index => do
    return CommittedAccount.mk (← fromTable lookupTables lookup.lookupTableAddress index) false isWritable))
  return loaded.flatten

/-- Decodes wire bytes and resolves every top-level instruction as the runtime loads a v0 message. -/
def resolveWireTransaction (kit : Library) (wireBytes : List UInt8) (lookupTables : LookupTables) :
    Js (List CommittedInstruction) := do
  let messageBytes ← orSolanaError (kit.decodeTransaction wireBytes)
  let message ← orSolanaError (kit.decodeMessage messageBytes)
  refuse_if (message.version ≠ .numbered 0) (unresolvable ["expected a v0 message, got ", message.version.piece])
  let statics := message.staticAccounts.mapIdx (staticAccount message.header message.staticAccounts.length)
  let lookups := message.addressTableLookups.getD []
  let writable ← lookedUp lookupTables lookups AddressTableLookup.writableIndexes true
  let readonly ← lookedUp lookupTables lookups AddressTableLookup.readonlyIndexes false
  let keys := statics ++ writable ++ readonly
  let key (index : Nat) : Js CommittedAccount :=
    ok_or (unresolvable ["account index ", index, " is out of range"]) keys[index]?
  message.instructions.mapM (fun instruction => do
    return {
      programAddress := (← key instruction.programAddressIndex).address
      accounts := ← (instruction.accountIndices.getD []).mapM key
      data := instruction.data.getD [] })

/-- Same program, data, accounts and transaction-level flags, in order. -/
def sameInstructions (a b : List CommittedInstruction) : Bool := decide (a = b)

structure GuardedJupiterComposition where
  trade : GuardedJupiterTrade
  binding : JupiterTradeBinding
  wireBytes : List UInt8
  metrics : TransactionMetrics

/-- Validates the build, guards it, compiles it, and proves that the compiled message resolves to
    what the commitment was computed over. -/
def composeGuardedJupiterTrade (kit : Library) (platform : Platform) (build : BuildResponse)
    (programAddress feePayer : Address) (request : JupiterTradeRequest) (expectation : AssertSafeExecutionRequest) :
    Js GuardedJupiterComposition := do
  assertSupportedJupiterBuild kit build request
  let suffix ← normalizedJupiterSuffix kit build request.computeUnitLimit
  let trade ← buildGuardedJupiterTrade platform programAddress feePayer request.protectedMint request.adapterKind
    expectation suffix
  let (wireBytes, metrics) ← compileAndMeasure kit build feePayer trade.instructions
  refuse_if (metrics.fitsSizeLimit = false) (.CompositionError .TRANSACTION_TOO_LARGE
    ["guarded transaction is ", metrics.serializedTransactionBytes, " bytes, over ", MAX_TRANSACTION_BYTES])
  let resolved ← resolveWireTransaction kit wireBytes build.addressesByLookupTableAddress
  let view ← sysvarView trade.instructions feePayer
  refuse_if (¬ sameInstructions resolved view ∨ ¬ sameInstructions (resolved.drop 1) trade.committedSuffix)
    (.CompositionError .COMMITMENT_MISMATCH
      ["the compiled transaction does not resolve to the committed instructions"])
  return { trade, binding := ← jupiterTradeBindingOf trade, wireBytes, metrics }

/-! ### What composition throws -/

/-- The data of every instruction the composer converts is base64. -/
structure Readable (build : BuildResponse) : Prop where
  budget : ∀ instruction ∈ build.computeBudgetInstructions, Base64.isValid instruction.data = true
  setup : ∀ instruction ∈ build.setupInstructions, Base64.isValid instruction.data = true
  swap : Base64.isValid build.swapInstruction.data = true

section
variable {kit : Library} (documented : kit.Documented)
include documented

theorem base64_of_valid {text : String} (valid : Base64.isValid text = true) :
    orSolanaError (kit.base64Bytes text) = .ok (kit.bufferFromBase64 text) := by
  rw [documented.base64_eq, if_pos valid]
  rfl
theorem base64_of_invalid {text : String} (invalid : ¬ Base64.isValid text = true) :
    orSolanaError (kit.base64Bytes text) = .error .SolanaError := by
  rw [documented.base64_eq, if_neg invalid]
  rfl
/-- An instruction of a build as the kit holds it. -/
def kitOf (kit : Library) (api : ApiInstruction) : Kit.Instruction where
  programAddress := api.programId
  accounts := api.accounts.map (fun account => ⟨account.pubkey, roleOfFlags account.isSigner account.isWritable⟩)
  data := kit.bufferFromBase64 api.data
theorem toKitInstruction_eq (api : ApiInstruction) :
    toKitInstruction kit api = if Base64.isValid api.data = true then .ok (kitOf kit api) else .error .SolanaError := by
  unfold toKitInstruction
  by_cases valid : Base64.isValid api.data = true
  · rw [base64_of_valid documented valid, if_pos valid]
    rfl
  · rw [base64_of_invalid documented valid, if_neg valid]
    rfl
theorem setupReasons_cases (setup : ApiInstruction) :
    (Base64.isValid setup.data = true ∧ ∃ reasons, setupReasons kit setup = .ok reasons) ∨
      (¬ Base64.isValid setup.data = true ∧ setupReasons kit setup = .error .SolanaError) := by
  unfold setupReasons
  by_cases valid : Base64.isValid setup.data = true
  · rw [base64_of_valid documented valid]
    exact .inl ⟨valid, _, rfl⟩
  · rw [base64_of_invalid documented valid]
    exact .inr ⟨valid, rfl⟩
/-- One instruction that cannot be converted stops the walk over the setup instructions. -/
theorem setups_unreadable {setups : List ApiInstruction}
    (unreadable : ¬ ∀ instruction ∈ setups, Base64.isValid instruction.data = true) :
    setups.mapM (setupReasons kit) = .error .SolanaError := by
  induction setups with
  | nil => exact absurd (by simp) unreadable
  | cons setup rest ih =>
    rw [List.mapM_cons]
    rcases setupReasons_cases documented setup with ⟨valid, reasons, read⟩ | ⟨_, failed⟩
    · rw [read, ok_bind, ih (fun all => unreadable (List.forall_mem_cons.mpr ⟨valid, all⟩))]
      rfl
    · rw [failed]
      rfl
end

theorem limitReasons_returns (request : JupiterTradeRequest) {limit : Kit.Instruction}
    (shaped : isShape limit SET_COMPUTE_UNIT_LIMIT = true) : ∃ reasons, limitReasons limit request = .ok reasons := by
  simp only [isShape, Bool.and_eq_true, decide_eq_true_eq] at shaped
  have size : limit.data.length = 5 := shaped.1.2
  rw [limitReasons, getUint32_of_le (by omega)]
  exact ⟨_, rfl⟩
theorem limits_return (request : JupiterTradeRequest) (budget : List Kit.Instruction) :
    ∃ reasons, (budget.filter (fun instruction => isShape instruction SET_COMPUTE_UNIT_LIMIT)).mapM
      (fun limit => limitReasons limit request) = .ok reasons :=
  mapM_returns fun _ member => limitReasons_returns request (List.mem_filter.mp member).2
theorem quoteReasons_throws (build : BuildResponse) (start : RouteV2Prefix) :
    Throws JsError.IsRefusal (quoteReasons build start) := by
  unfold quoteReasons
  split
  · exact .ok _
  · exact .bind (minimumOutFromQuote_throws _ _) fun _ _ => .ok _

section
variable {kit : Library} (documented : kit.Documented)
include documented

/-- A build that cannot be read makes the kit throw before anything is refused. -/
theorem assertSupportedJupiterBuild_unreadable {build : BuildResponse} (request : JupiterTradeRequest)
    (unreadable : ¬ Readable build) : assertSupportedJupiterBuild kit build request = .error .SolanaError := by
  unfold assertSupportedJupiterBuild
  dsimp only
  rw [mapM_checked (toKitInstruction_eq documented)]
  by_cases budget : ∀ instruction ∈ build.computeBudgetInstructions, Base64.isValid instruction.data = true
  swap
  · rw [if_neg budget]
    rfl
  obtain ⟨limits, limited⟩ := limits_return request (build.computeBudgetInstructions.map (kitOf kit))
  rw [if_pos budget, ok_bind, limited, ok_bind]
  by_cases setup : ∀ instruction ∈ build.setupInstructions, Base64.isValid instruction.data = true
  swap
  · rw [setups_unreadable documented setup]
    rfl
  obtain ⟨setups, read⟩ : ∃ reasons, build.setupInstructions.mapM (setupReasons kit) = .ok reasons := by
    refine mapM_returns fun instruction member => ?_
    rcases setupReasons_cases documented instruction with ⟨_, read⟩ | ⟨invalid, _⟩
    · exact read
    · exact absurd (setup instruction member) invalid
  have swap : ¬ Base64.isValid build.swapInstruction.data = true := fun swap => unreadable ⟨budget, setup, swap⟩
  rw [read, ok_bind, base64_of_invalid documented swap]
  rfl
theorem assertSupportedJupiterBuild_throws {build : BuildResponse} (request : JupiterTradeRequest)
    (readable : Readable build) : Throws JsError.IsRefusal (assertSupportedJupiterBuild kit build request) := by
  unfold assertSupportedJupiterBuild
  dsimp only
  obtain ⟨limits, limited⟩ := limits_return request (build.computeBudgetInstructions.map (kitOf kit))
  rw [mapM_checked (toKitInstruction_eq documented), if_pos readable.budget, ok_bind, limited, ok_bind]
  refine .bind (.mapM fun setup member => ?_) fun _ _ => ?_
  · rcases setupReasons_cases documented setup with ⟨_, reasons, read⟩ | ⟨invalid, _⟩
    · rw [read]
      exact .ok _
    · exact absurd (readable.setup setup member) invalid
  rw [base64_of_valid documented readable.swap, ok_bind, decodeRouteV2Prefix_eq, ok_bind]
  cases (Jupiter.RouteV2Prefix.decode (kit.bufferFromBase64 build.swapInstruction.data)).map ofPrefix with
  | some start => exact .bind (quoteReasons_throws build start) fun _ _ => .refuse_if fun _ => trivial
  | none => exact .refuse_if fun _ => trivial
theorem normalizedJupiterSuffix_throws {build : BuildResponse} (computeUnitLimit : Number) (readable : Readable build) :
    Throws JsError.IsRefusal (normalizedJupiterSuffix kit build computeUnitLimit) := by
  unfold normalizedJupiterSuffix
  rw [mapM_checked (toKitInstruction_eq documented), if_pos readable.budget, mapM_checked (toKitInstruction_eq documented),
    if_pos readable.setup, toKitInstruction_eq documented, if_pos readable.swap]
  exact .bind (.ok _) fun _ _ => .bind (.ok_or fun _ => trivial) fun _ _ =>
    .bind (.bind (.refuse_if fun _ => trivial) fun _ _ => .ok _) fun _ _ => .ok _
theorem resolveWireTransaction_throws {message : TransactionMessage} {wire : List UInt8}
    (encoded : kit.encodeTransaction message = some wire) (lookupTables : LookupTables) :
    Throws JsError.IsRefusal (resolveWireTransaction kit wire lookupTables) := by
  obtain ⟨bytes, compiled, wireRead, messageRead⟩ := documented.decodes message wire encoded
  unfold resolveWireTransaction
  rw [wireRead, orSolanaError, ok_or_some, ok_bind, messageRead, orSolanaError, ok_or_some, ok_bind]
  have lookup (lookups : List AddressTableLookup) (indexes : AddressTableLookup → List Nat) (isWritable : Bool) :
      Throws JsError.IsRefusal (lookedUp lookupTables lookups indexes isWritable) :=
    .bind (.mapM fun _ _ => .mapM fun _ _ => .bind (.ok_or fun _ => trivial) fun _ _ => .ok _) fun _ _ => .ok _
  exact .bind (.refuse_if fun _ => trivial) fun _ _ =>
    .bind (lookup _ _ _) fun _ _ => .bind (lookup _ _ _) fun _ _ => .mapM fun _ _ =>
    .bind (.ok_or fun _ => trivial) fun _ _ => .bind (.mapM fun _ _ => .ok_or fun _ => trivial) fun _ _ => .ok _
end

/-- The message that is compiled, for a whole block height. -/
def messageFor (build : BuildResponse) (feePayer : Address) (instructions : List Kit.Instruction) : TransactionMessage where
  feePayer := feePayer
  blockhash := build.blockhashWithMetadata.blockhash
  lastValidBlockHeight := build.blockhashWithMetadata.lastValidBlockHeight.num
  instructions := instructions
  lookupTables := build.addressesByLookupTableAddress
/-- The block height is whole, and the kit can compile and encode the message. -/
structure Compiles (kit : Library) (build : BuildResponse) (feePayer : Address) (instructions : List Kit.Instruction) :
    Prop where
  whole : build.blockhashWithMetadata.lastValidBlockHeight.den = 1
  compiled : ∃ compiled, kit.compileTransactionMessage (messageFor build feePayer instructions) = some compiled ∧
    (kit.encodeMessage compiled).isSome = true
  encoded : (kit.encodeTransaction (messageFor build feePayer instructions)).isSome = true

theorem compileAndMeasure_of {kit : Library} {build : BuildResponse} {feePayer : Address}
    {instructions : List Kit.Instruction} (compiles : Compiles kit build feePayer instructions) :
    ∃ wire metrics, compileAndMeasure kit build feePayer instructions = .ok (wire, metrics) ∧
      kit.encodeTransaction (messageFor build feePayer instructions) = some wire := by
  obtain ⟨whole, ⟨compiled, compileEq, encodes⟩, encoded⟩ := compiles
  obtain ⟨messageBytes, messageEq⟩ := Option.isSome_iff_exists.mp encodes
  obtain ⟨wire, wireEq⟩ := Option.isSome_iff_exists.mp encoded
  have height : BigInt (.finite build.blockhashWithMetadata.lastValidBlockHeight) =
      .ok build.blockhashWithMetadata.lastValidBlockHeight.num := if_pos whole
  unfold compileAndMeasure
  rw [height, ok_bind]
  dsimp only
  rw [← messageFor, compileEq, orSolanaError, ok_or_some, ok_bind, messageEq, orSolanaError, ok_or_some, ok_bind, wireEq]
  exact ⟨wire, _, rfl, rfl⟩
theorem compileAndMeasure_not {kit : Library} {build : BuildResponse} {feePayer : Address}
    {instructions : List Kit.Instruction} (fails : ¬ Compiles kit build feePayer instructions) :
    ∃ error, compileAndMeasure kit build feePayer instructions = .error error ∧ ¬ error.IsRefusal := by
  unfold compileAndMeasure
  by_cases whole : build.blockhashWithMetadata.lastValidBlockHeight.den = 1
  swap
  · have height : BigInt (.finite build.blockhashWithMetadata.lastValidBlockHeight) = .error .RangeError := if_neg whole
    rw [height]
    exact ⟨_, rfl, id⟩
  have height : BigInt (.finite build.blockhashWithMetadata.lastValidBlockHeight) =
      .ok build.blockhashWithMetadata.lastValidBlockHeight.num := if_pos whole
  rw [height, ok_bind]
  dsimp only
  rw [← messageFor]
  cases compileEq : kit.compileTransactionMessage (messageFor build feePayer instructions) with
  | none => exact ⟨_, rfl, id⟩
  | some compiled =>
    rw [orSolanaError, ok_or_some, ok_bind]
    cases messageEq : kit.encodeMessage compiled with
    | none => exact ⟨_, rfl, id⟩
    | some messageBytes =>
      rw [orSolanaError, ok_or_some, ok_bind]
      cases wireEq : kit.encodeTransaction (messageFor build feePayer instructions) with
      | none => exact ⟨_, rfl, id⟩
      | some wire => exact absurd ⟨whole, ⟨compiled, compileEq, by rw [messageEq]; rfl⟩, by rw [wireEq]; rfl⟩ fails

/-- Everything the composer converts can be converted: the data of the build, and, if it gets that
    far, the message. -/
structure Composable (kit : Library) (platform : Platform) (build : BuildResponse) (programAddress feePayer : Address)
    (request : JupiterTradeRequest) (expectation : AssertSafeExecutionRequest) : Prop where
  readable : Readable build
  compiles : ∀ suffix trade, assertSupportedJupiterBuild kit build request = .ok () →
    normalizedJupiterSuffix kit build request.computeUnitLimit = .ok suffix →
    buildGuardedJupiterTrade platform programAddress feePayer request.protectedMint request.adapterKind expectation
      suffix = .ok trade →
    Compiles kit build feePayer trade.instructions
/-- With an expectation the program has a value for, composing refuses rather than throws exactly on
    composable builds. -/
theorem composeGuardedJupiterTrade_throws_iff {kit : Library} (documented : kit.Documented) (platform : Platform)
    (build : BuildResponse) (programAddress feePayer : Address) (request : JupiterTradeRequest)
    (execution : Instruction.AssertSafeExecution) :
    Throws JsError.IsRefusal
        (composeGuardedJupiterTrade kit platform build programAddress feePayer request (ofExecution execution)) ↔
      Composable kit platform build programAddress feePayer request (ofExecution execution) := by
  unfold composeGuardedJupiterTrade
  constructor
  · intro refuses
    have readable : Readable build := by
      by_contra unreadable
      rw [assertSupportedJupiterBuild_unreadable documented request unreadable] at refuses
      exact refuses _ rfl
    refine ⟨readable, ?_⟩
    intro suffix trade supported normalized built
    by_contra fails
    obtain ⟨error, thrown, unexpected⟩ := compileAndMeasure_not fails
    rw [supported, ok_bind, normalized, ok_bind, built, ok_bind, thrown] at refuses
    exact unexpected (refuses error rfl)
  · rintro ⟨readable, compiles⟩
    refine .bind (assertSupportedJupiterBuild_throws documented request readable) fun done supported => ?_
    refine .bind (normalizedJupiterSuffix_throws documented _ readable) fun suffix normalized => ?_
    refine .bind (buildGuardedJupiterTrade_throws _ _ _ _ _ _ _) fun trade built => ?_
    obtain ⟨wire, metrics, measured, encoded⟩ := compileAndMeasure_of (compiles suffix trade supported normalized built)
    rw [measured, ok_bind]
    refine .bind (.refuse_if fun _ => trivial) fun _ _ => ?_
    refine .bind (resolveWireTransaction_throws documented encoded _) fun resolved _ => ?_
    refine .bind (sysvarView_throws _ _) fun view _ => .bind (.refuse_if fun _ => trivial) fun _ _ => ?_
    exact .bind (.bind (minimumOutFromQuote_throws _ _) fun _ _ => .ok _) fun _ _ => .ok _

/-! ### What a composition is -/

theorem compileAndMeasure_fits {kit : Library} {build : BuildResponse} {feePayer : Address}
    {instructions : List Kit.Instruction} {wire : List UInt8} {metrics : TransactionMetrics}
    (measured : compileAndMeasure kit build feePayer instructions = .ok (wire, metrics)) :
    metrics.fitsSizeLimit = decide (wire.length ≤ MAX_TRANSACTION_BYTES) := by
  unfold compileAndMeasure at measured
  obtain ⟨height, _, measured⟩ := bind_eq_ok.mp measured
  obtain ⟨compiled, _, measured⟩ := bind_eq_ok.mp measured
  obtain ⟨messageBytes, _, measured⟩ := bind_eq_ok.mp measured
  obtain ⟨wireBytes, _, measured⟩ := bind_eq_ok.mp measured
  cases measured
  rfl
/-- A composition is the guard over a suffix, on a wire that fits and resolves to what the client
    committed to. -/
theorem composeGuardedJupiterTrade_eq_ok {kit : Library} {platform : Platform} {build : BuildResponse}
    {programAddress feePayer : Address} {request : JupiterTradeRequest} {execution : Instruction.AssertSafeExecution}
    {composition : GuardedJupiterComposition}
    (composed : composeGuardedJupiterTrade kit platform build programAddress feePayer request (ofExecution execution) =
      .ok composition) :
    ∃ suffix view, ∃ commitment : Chunk 32,
      composition.trade.instructions = guardWith programAddress request.protectedMint
        (guardRequest request.protectedMint request.adapterKind execution commitment) :: suffix ∧
      composition.binding.suffixCommitmentHex = hexOf commitment.bytes ∧
      composition.wireBytes.length ≤ MAX_TRANSACTION_BYTES ∧
      resolveWireTransaction kit composition.wireBytes build.addressesByLookupTableAddress = .ok view ∧
      sysvarView composition.trade.instructions feePayer = .ok view ∧
      checkGuardedJupiterTransaction platform view 0 request.adapterKind request.protectedMint commitment.bytes =
        .ok none := by
  unfold composeGuardedJupiterTrade at composed
  obtain ⟨_, _, composed⟩ := bind_eq_ok.mp composed
  obtain ⟨suffix, _, composed⟩ := bind_eq_ok.mp composed
  obtain ⟨trade, built, composed⟩ := bind_eq_ok.mp composed
  obtain ⟨⟨wire, metrics⟩, measured, composed⟩ := bind_eq_ok.mp composed
  obtain ⟨_, sized, composed⟩ := bind_eq_ok.mp composed
  obtain ⟨resolved, resolves, composed⟩ := bind_eq_ok.mp composed
  obtain ⟨view, viewed, composed⟩ := bind_eq_ok.mp composed
  obtain ⟨_, matched, composed⟩ := bind_eq_ok.mp composed
  obtain ⟨binding, bound, composed⟩ := bind_eq_ok.mp composed
  cases composed
  obtain ⟨commitment, final, commitmentEq, instructionsEq, _, finalEq, accepted⟩ := buildGuardedJupiterTrade_eq_ok built
  have fits := refuse_if_eq_ok.mp sized
  have same := refuse_if_eq_ok.mp matched
  rw [compileAndMeasure_fits measured, decide_eq_false_iff_not, not_not] at fits
  rw [not_or, not_not, not_not, sameInstructions, decide_eq_true_eq] at same
  rw [viewed] at finalEq
  cases finalEq
  rw [same.1] at resolves
  refine ⟨suffix, view, commitment, instructionsEq, ?_, fits, resolves, viewed, accepted⟩
  obtain ⟨minimum, _, bound⟩ := bind_eq_ok.mp bound
  cases bound
  rw [← commitmentEq]
theorem resolveWireTransaction_size {kit : Library} (documented : kit.Documented) {wire : List UInt8}
    {lookupTables : LookupTables} {instructions : List CommittedInstruction}
    (resolved : resolveWireTransaction kit wire lookupTables = .ok instructions) :
    ((instructions.map CommittedInstruction.toProgram).map Sysvar.wire_size).sum ≤ wire.length := by
  unfold resolveWireTransaction at resolved
  obtain ⟨bytes, wireRead, resolved⟩ := bind_eq_ok.mp resolved
  obtain ⟨compiled, messageRead, resolved⟩ := bind_eq_ok.mp resolved
  obtain ⟨_, _, resolved⟩ := bind_eq_ok.mp resolved
  obtain ⟨writable, _, resolved⟩ := bind_eq_ok.mp resolved
  obtain ⟨readonly, _, resolved⟩ := bind_eq_ok.mp resolved
  have sizes : instructions.map (Sysvar.wire_size ∘ CommittedInstruction.toProgram) =
      compiled.instructions.map (fun instruction => 3 + instruction.size) := by
    refine mapM_map ?_ resolved
    intro instruction value converted
    obtain ⟨program, _, converted⟩ := bind_eq_ok.mp converted
    obtain ⟨accounts, read, converted⟩ := bind_eq_ok.mp converted
    cases converted
    simp [Sysvar.wire_size, CommittedInstruction.toProgram, CompiledInstruction.size, mapM_length read]
  rw [List.map_map, sizes]
  exact (documented.instructions_size bytes compiled (ok_or_eq_ok.mp messageRead)).trans
    (documented.message_size wire bytes (ok_or_eq_ok.mp wireRead))

end EquityGuard.SwapCompose
