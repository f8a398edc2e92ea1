import EquityGuard.Exposure
import EquityGuard.SwapClassification

/-!
What a call to `protectJupiterSwap` goes through, and when it throws: malformed input is to
be a typed refusal, and throwing is for an RPC that does not answer.
-/
namespace EquityGuard.SwapRefusals
open EquityGuard.Addresses EquityGuard.Binary64 EquityGuard.Bytes EquityGuard.Client EquityGuard.ClientAbi
open EquityGuard.ClientDeployment EquityGuard.ClientJupiter EquityGuard.ClientMintState EquityGuard.ClientProtection
open EquityGuard.ClientTrade EquityGuard.Errors EquityGuard.Kit EquityGuard.SwapBuild EquityGuard.SwapClassification
open EquityGuard.SwapCompose EquityGuard.SwapProtect
open EquityGuard.Transaction (CommittedAccount CommittedInstruction)
open EquityGuard.Jupiter (Platform)

/-! ### The stages of a call -/

/-- Every check before composition passes. -/
structure Reaches (kit : Library) (platform : Platform) (rpc : Rpc) (input : ProtectJupiterSwapInput) (swap : Protectable)
    (deployment : Deployment) (snapshot : GuardSnapshot) : Prop where
  parsed : parseBuildResponse input.build = .ok swap.build
  classified : classify kit rpc swap.build =
    .ok (.PROTECTED swap.protectedMint swap.direction swap.adapterKind swap.knownAsset)
  requested : guardRequestIssue input = none
  deployed : resolveDeployment kit platform rpc input.programAddress = .ok (.ok deployment)
  fetched : fetchGuardSnapshot kit rpc swap.protectedMint = .ok snapshot
  quoted : quotedVerdict input snapshot = .ok none
  accepted : guardVerdict (expectationFromSnapshot snapshot input.protectionWindow) snapshot = .ok none
/-- An RPC that answers every call. -/
structure Answers (rpc : Rpc) : Prop where
  genesis : ∃ hash, rpc.getGenesisHash = .ok hash
  accounts : ∀ call addresses, ∃ answer, rpc.getMultipleAccounts call addresses = .ok answer

/-- A request without an issue has a window the ABI can carry. -/
theorem window_of_request {input : ProtectJupiterSwapInput} (requested : guardRequestIssue input = none) :
    WindowBound input.protectionWindow.beforeSecs ∧ WindowBound input.protectionWindow.afterSecs := by
  unfold guardRequestIssue at requested
  by_cases invalid : ¬ isValidWindowSecs input.protectionWindow.beforeSecs ∨
      ¬ isValidWindowSecs input.protectionWindow.afterSecs
  · rw [if_pos invalid] at requested
    cases requested
  · rw [not_or, not_not, not_not] at invalid
    exact ⟨(isValidWindowSecs_iff _).mp invalid.1, (isValidWindowSecs_iff _).mp invalid.2⟩
/-- The expectation bound at composition is a value of the program. -/
theorem Reaches.expectation {kit : Library} {platform : Platform} {rpc : Rpc} {input : ProtectJupiterSwapInput}
    {swap : Protectable} {deployment : Deployment} {snapshot : GuardSnapshot}
    (reaches : Reaches kit platform rpc input swap deployment snapshot) :
    ∃ execution, ofExecution execution = expectationFromSnapshot snapshot input.protectionWindow := by
  obtain ⟨before, after⟩ := window_of_request reaches.requested
  obtain ⟨answer, _, taken⟩ := bind_eq_ok.mp reaches.fetched
  obtain ⟨_, _, state, now, _, _, _, _, _, _, stateEq, phaseEq⟩ := snapshotOf_correct Token2022.documented_correct taken
  refine (execution_representable_iff _).mp ⟨?_, ?_, before, after⟩
  · exact (valid_iff _).mpr ⟨state, stateEq.symm⟩
  · exact (phase_iff _).mpr ⟨_, phaseEq⟩
/-- A call that reaches the composer ends as it does. -/
theorem Reaches.run {kit : Library} {platform : Platform} {rpc : Rpc} {input : ProtectJupiterSwapInput}
    {swap : Protectable} {deployment : Deployment} {snapshot : GuardSnapshot}
    (reaches : Reaches kit platform rpc input swap deployment snapshot) :
    protectJupiterSwap kit platform rpc input = compose kit platform input swap deployment snapshot := by
  unfold protectJupiterSwap
  rw [reaches.parsed]
  dsimp only
  rw [reaches.classified, ok_bind]
  dsimp only
  unfold protect
  rw [reaches.requested]
  dsimp only
  rw [reaches.deployed, ok_bind]
  dsimp only
  rw [reaches.fetched]
  dsimp only
  unfold bindState
  rw [reaches.quoted, ok_bind]
  dsimp only
  rw [reaches.accepted]
  rfl
theorem economicFailure_ne_protected (verdict : EquityGuardError) (protectedMint : Address) (result : ProtectedSwap) :
    economicFailure verdict protectedMint ≠ .PROTECTED result := by
  unfold economicFailure
  split <;> exact nofun
/-- Only a call that reaches the composer can end protected. -/
theorem reaches_of_protected {kit : Library} {platform : Platform} {rpc : Rpc} {input : ProtectJupiterSwapInput}
    {result : ProtectedSwap} (run : protectJupiterSwap kit platform rpc input = .ok (.PROTECTED result)) :
    ∃ swap deployment snapshot, Reaches kit platform rpc input swap deployment snapshot := by
  unfold protectJupiterSwap at run
  cases parsed : parseBuildResponse input.build with
  | error error =>
    rw [parsed] at run
    cases error <;> cases run
  | ok build =>
    rw [parsed] at run
    obtain ⟨classification, classified, run⟩ := bind_eq_ok.mp run
    cases classification with
    | NOT_APPLICABLE reason message => cases run
    | UNSUPPORTED_ASSET code message protectedMint knownAsset => cases run
    | UNSUPPORTED code message protectedMint => cases run
    | ERROR code message protectedMint => cases run
    | PROTECTED protectedMint direction adapterKind knownAsset =>
      dsimp only at run
      unfold protect at run
      cases requested : guardRequestIssue input with
      | some issue =>
        rw [requested] at run
        cases run
      | none =>
        rw [requested] at run
        obtain ⟨outcome, deployed, run⟩ := bind_eq_ok.mp run
        cases outcome with
        | error failure => cases run
        | ok deployment =>
          dsimp only at run
          cases fetched : fetchGuardSnapshot kit rpc protectedMint with
          | error error =>
            rw [fetched] at run
            cases error <;> cases run
          | ok snapshot =>
            rw [fetched] at run
            obtain ⟨quoted, quotedEq, run⟩ := bind_eq_ok.mp run
            cases quoted with
            | some moved => exact absurd (Except.ok.inj run) (economicFailure_ne_protected moved _ result)
            | none =>
              obtain ⟨verdict, verdictEq, run⟩ := bind_eq_ok.mp run
              cases verdict with
              | some wouldFail => exact absurd (Except.ok.inj run) (economicFailure_ne_protected wouldFail _ result)
              | none => exact ⟨⟨build, protectedMint, direction, adapterKind, knownAsset⟩, deployment, snapshot, parsed,
                  classified, requested, deployed, fetched, quotedEq, verdictEq⟩

/-! ### Composition -/

/-- The request the composer is given. -/
def tradeRequest (kit : Library) (input : ProtectJupiterSwapInput) (swap : Protectable) : JupiterTradeRequest where
  adapterKind := swap.adapterKind
  protectedMint := swap.protectedMint
  taker := input.userPublicKey
  computeUnitLimit := input.computeUnitLimit.getD (defaultComputeUnitLimit kit swap.build)

theorem compositionFailure_returns_iff (error : JsError) (protectedMint : Address) :
    (∃ result, compositionFailure error protectedMint = .ok result) ↔ error.IsRefusal := by
  cases error with
  | UnsupportedJupiterBuildError reasons =>
    refine ⟨fun _ => trivial, fun _ => ?_⟩
    unfold compositionFailure
    exact ⟨_, rfl⟩
  | GuardClientError code message guardError =>
    refine ⟨fun _ => trivial, fun _ => ?_⟩
    dsimp only [compositionFailure]
    split <;> exact ⟨_, rfl⟩
  | CompositionError code message =>
    refine ⟨fun _ => trivial, fun _ => ?_⟩
    unfold compositionFailure
    cases code <;> exact ⟨_, rfl⟩
  | JupiterApiError message => simp [compositionFailure, JsError.IsRefusal]
  | SolanaError => simp [compositionFailure, JsError.IsRefusal]
  | RangeError => simp [compositionFailure, JsError.IsRefusal]
  | TypeError => simp [compositionFailure, JsError.IsRefusal]
theorem compositionFailure_ne_protected (error : JsError) (protectedMint : Address) (result : ProtectedSwap) :
    compositionFailure error protectedMint ≠ .ok (.PROTECTED result) := by
  cases error with
  | GuardClientError code message guardError =>
    dsimp only [compositionFailure]
    split <;> simp
  | CompositionError code message => cases code <;> simp [compositionFailure]
  | UnsupportedJupiterBuildError reasons => simp [compositionFailure]
  | JupiterApiError message => simp [compositionFailure]
  | SolanaError => simp [compositionFailure]
  | RangeError => simp [compositionFailure]
  | TypeError => simp [compositionFailure]
/-- The result of a composition. -/
def resultOf (kit : Library) (swap : Protectable) (deployment : Deployment) (snapshot : GuardSnapshot)
    (composition : GuardedJupiterComposition) : ProtectedSwap where
  protectedMint := swap.protectedMint
  direction := swap.direction
  adapterKind := swap.adapterKind
  programAddress := deployment.programAddress
  deploymentIdentity := deployment.identity
  deployment := deployment.attestation
  cluster := deployment.cluster
  knownAsset := swap.knownAsset
  transaction := composition.wireBytes
  transactionBase64 := kit.base64Text composition.wireBytes
  instructions := composition.trade.instructions
  lookupTables := swap.build.addressesByLookupTableAddress
  binding := composition.binding
  metrics := composition.metrics
  snapshot := snapshot
theorem composed_of_protected {kit : Library} {platform : Platform} {input : ProtectJupiterSwapInput} {swap : Protectable}
    {deployment : Deployment} {snapshot : GuardSnapshot} {result : ProtectedSwap}
    (run : compose kit platform input swap deployment snapshot = .ok (.PROTECTED result)) :
    ∃ composition, composeGuardedJupiterTrade kit platform swap.build deployment.programAddress input.userPublicKey
        (tradeRequest kit input swap) (expectationFromSnapshot snapshot input.protectionWindow) = .ok composition ∧
      result = resultOf kit swap deployment snapshot composition := by
  unfold compose at run
  rw [← tradeRequest] at run
  cases composed : composeGuardedJupiterTrade kit platform swap.build deployment.programAddress input.userPublicKey
      (tradeRequest kit input swap) (expectationFromSnapshot snapshot input.protectionWindow) with
  | error error =>
    rw [composed] at run
    exact absurd run (compositionFailure_ne_protected error _ result)
  | ok composition =>
    rw [composed] at run
    cases run
    exact ⟨composition, rfl, rfl⟩
theorem compose_of_composed {kit : Library} {platform : Platform} {input : ProtectJupiterSwapInput} {swap : Protectable}
    {deployment : Deployment} {snapshot : GuardSnapshot} {composition : GuardedJupiterComposition}
    (composed : composeGuardedJupiterTrade kit platform swap.build deployment.programAddress input.userPublicKey
      (tradeRequest kit input swap) (expectationFromSnapshot snapshot input.protectionWindow) = .ok composition) :
    compose kit platform input swap deployment snapshot = .ok (.PROTECTED (resultOf kit swap deployment snapshot composition)) := by
  unfold compose
  rw [← tradeRequest, composed]
  rfl
theorem compose_returns_iff (kit : Library) (platform : Platform) (input : ProtectJupiterSwapInput) (swap : Protectable)
    (deployment : Deployment) (snapshot : GuardSnapshot) :
    (∃ result, compose kit platform input swap deployment snapshot = .ok result) ↔
      Throws JsError.IsRefusal (composeGuardedJupiterTrade kit platform swap.build deployment.programAddress
        input.userPublicKey (tradeRequest kit input swap) (expectationFromSnapshot snapshot input.protectionWindow)) := by
  unfold compose
  rw [← tradeRequest]
  cases composed : composeGuardedJupiterTrade kit platform swap.build deployment.programAddress input.userPublicKey
      (tradeRequest kit input swap) (expectationFromSnapshot snapshot input.protectionWindow) with
  | ok composition => exact ⟨fun _ => .ok _, fun _ => ⟨_, rfl⟩⟩
  | error error =>
    refine (compositionFailure_returns_iff error swap.protectedMint).trans ⟨fun refusal => .error refusal, ?_⟩
    intro refuses
    exact refuses error rfl

/-! ### The whole call -/

theorem resolveDeployment_returns (kit : Library) (platform : Platform) {rpc : Rpc} (answers : Answers rpc)
    (requested : Option Address) : ∃ outcome, resolveDeployment kit platform rpc requested = .ok outcome := by
  obtain ⟨hash, genesis⟩ := answers.genesis
  unfold resolveDeployment
  rw [genesis, ok_bind]
  dsimp only
  split
  · split <;> exact ⟨_, rfl⟩
  · refine bind_returns (answers.accounts 1 _) fun answer => ?_
    split <;> exact ⟨_, rfl⟩

/-- A call that an answering RPC serves ends in a result, unless it reaches the composer. -/
theorem returns_or_reaches (kit : Library) (platform : Platform) {rpc : Rpc} (answers : Answers rpc)
    (input : ProtectJupiterSwapInput) :
    (∃ result, protectJupiterSwap kit platform rpc input = .ok result) ∨
      ∃ swap deployment snapshot, Reaches kit platform rpc input swap deployment snapshot := by
  unfold protectJupiterSwap
  cases parsed : parseBuildResponse input.build with
  | error error =>
    have known := parseBuildResponse_throws input.build error parsed
    cases error <;> first | exact .inl ⟨_, rfl⟩ | exact known.elim
  | ok build =>
    obtain ⟨answer, answered⟩ := answers.accounts 0 (candidatesOf build.inputMint build.outputMint)
    obtain ⟨classification, classified, _⟩ := @classify_correct kit _ _ _ answered
    dsimp only
    rw [classified, ok_bind]
    cases classification with
    | NOT_APPLICABLE reason message => exact .inl ⟨_, rfl⟩
    | UNSUPPORTED_ASSET code message protectedMint knownAsset => exact .inl ⟨_, rfl⟩
    | UNSUPPORTED code message protectedMint => exact .inl ⟨_, rfl⟩
    | ERROR code message protectedMint => exact .inl ⟨_, rfl⟩
    | PROTECTED protectedMint direction adapterKind knownAsset =>
      dsimp only
      unfold protect
      cases requested : guardRequestIssue input with
      | some issue => exact .inl ⟨_, rfl⟩
      | none =>
        obtain ⟨before, after⟩ := window_of_request requested
        obtain ⟨outcome, deployed⟩ := resolveDeployment_returns kit platform answers input.programAddress
        dsimp only
        rw [deployed, ok_bind]
        cases outcome with
        | error failure => exact .inl ⟨_, rfl⟩
        | ok deployment =>
          dsimp only
          cases fetched : fetchGuardSnapshot kit rpc protectedMint with
          | error error =>
            obtain ⟨accounts, read⟩ := answers.accounts 2 [protectedMint, SYSVAR_CLOCK_ADDRESS]
            rw [fetchGuardSnapshot, read, ok_bind] at fetched
            have known := snapshotOf_throws _ _ _ error fetched
            cases error <;> first | exact .inl ⟨_, rfl⟩ | exact known.elim
          | ok snapshot =>
            dsimp only
            unfold bindState
            obtain ⟨quoted, quotedEq⟩ : ∃ answer, quotedVerdict input snapshot = .ok answer := by
              unfold quotedVerdict
              split
              · exact ⟨_, rfl⟩
              · exact ClientOffline.checkGuardOffline_returns before after _ _
            obtain ⟨verdict, verdictEq⟩ : ∃ answer, guardVerdict
                (expectationFromSnapshot snapshot input.protectionWindow) snapshot = .ok answer :=
              ClientOffline.checkGuardOffline_returns before after _ _
            rw [quotedEq, ok_bind]
            cases quoted with
            | some moved => exact .inl ⟨_, rfl⟩
            | none =>
              dsimp only
              rw [verdictEq, ok_bind]
              cases verdict with
              | some wouldFail => exact .inl ⟨_, rfl⟩
              | none => exact .inr ⟨⟨build, protectedMint, direction, adapterKind, knownAsset⟩, deployment, snapshot, parsed,
                  classified, requested, deployed, fetched, quotedEq, verdictEq⟩
/-- A call throws exactly when it reaches the composer with something that cannot be converted. -/
theorem protectJupiterSwap_returns_iff {kit : Library} (documented : kit.Documented) (platform : Platform) {rpc : Rpc}
    (answers : Answers rpc) (input : ProtectJupiterSwapInput) :
    (∃ result, protectJupiterSwap kit platform rpc input = .ok result) ↔
      ∀ swap deployment snapshot, Reaches kit platform rpc input swap deployment snapshot →
        Composable kit platform swap.build deployment.programAddress input.userPublicKey (tradeRequest kit input swap)
          (expectationFromSnapshot snapshot input.protectionWindow) := by
  have composable_iff {swap : Protectable} {deployment : Deployment} {snapshot : GuardSnapshot}
      (reaches : Reaches kit platform rpc input swap deployment snapshot) :
      (∃ result, protectJupiterSwap kit platform rpc input = .ok result) ↔
        Composable kit platform swap.build deployment.programAddress input.userPublicKey (tradeRequest kit input swap)
          (expectationFromSnapshot snapshot input.protectionWindow) := by
    obtain ⟨execution, expectation⟩ := reaches.expectation
    rw [reaches.run, compose_returns_iff, ← expectation]
    exact composeGuardedJupiterTrade_throws_iff documented platform _ _ _ _ execution
  constructor
  · intro returns swap deployment snapshot reaches
    exact (composable_iff reaches).mp returns
  · intro composable
    rcases returns_or_reaches kit platform answers input with returns | ⟨swap, deployment, snapshot, reaches⟩
    · exact returns
    · exact (composable_iff reaches).mpr (composable swap deployment snapshot reaches)

/-! ### The buy of an equity, again -/

def buyLive : Rpc := buyRpc TOKEN_2022_PROGRAM_ADDRESS
theorem splitMint_decoded :
    decodeProtectedState TOKEN_2022_PROGRAM_ADDRESS.text (buyKit.bufferFromBase64 (Base64.encode Guard.splitMint)) =
      .ok (ofProtectedState Guard.twoForOneSplit) := by
  rw [buyKit_reads]
  decide +kernel
theorem buy_classified (budget : List ApiInstruction) :
    classify buyKit buyLive (buyBuild budget) = .ok (.PROTECTED equityMint .BUY .JUPITER_ROUTE_V2_BUY_USDC none) := by
  have candidates : candidatesOf USDC_MINT_ADDRESS equityMint = [equityMint] := by decide
  have unknown : findKnownProtectedAsset equityMint KNOWN_PROTECTED_ASSETS = none := by decide
  have differ : USDC_MINT_ADDRESS ≠ equityMint := by decide
  have verdict : verdictFor equityMint TOKEN_2022_PROGRAM_ADDRESS (buyKit.bufferFromBase64 (Base64.encode Guard.splitMint)) =
      .ok (.protectedBy none) := by
    rw [verdictFor, resolveProtectionAdapter, unknown, splitMint_decoded]
    rfl
  have visited : visit buyKit ⟨1, [some ⟨false, TOKEN_2022_PROGRAM_ADDRESS, Base64.encode Guard.splitMint⟩]⟩
      ⟨[], .NO_TOKEN_2022_MINT⟩ 0 equityMint = .ok (.ok ⟨[(equityMint, none)], .NO_TOKEN_2022_MINT⟩) := by
    simp only [visit, AccountsAnswer.account, List.getElem?_cons_zero, Option.join_some, verdict, ok_bind]
    rfl
  unfold SwapProtect.classify
  rcases reportedMintMismatch_cases buyKit (buyBuild budget) with ⟨_, agreed⟩ | ⟨misreported, _⟩
  swap
  · exact absurd (buy_reported budget) misreported
  have answered : buyLive.getMultipleAccounts 0 (candidatesOf (buyBuild budget).inputMint (buyBuild budget).outputMint) =
      .ok ⟨1, [some ⟨false, TOKEN_2022_PROGRAM_ADDRESS, Base64.encode Guard.splitMint⟩]⟩ := rfl
  rw [agreed, ok_bind]
  dsimp only
  rw [answered, ok_bind]
  simp only [buyBuild, differ, candidates, visitFrom, visited, ok_bind, ↓reduceIte]
  decide

theorem buy_fetched : fetchGuardSnapshot buyKit buyLive equityMint =
    .ok ⟨equityMint, 1, ⟨0, 0⟩, ofProtectedState Guard.twoForOneSplit, 0, true⟩ := by
  have clock : decodeClock (buyKit.bufferFromBase64 (Base64.encode startOfTime)) = .ok ⟨0, 0⟩ := by
    rw [buyKit_reads]
    rfl
  let answer : AccountsAnswer := ⟨1, [some ⟨false, TOKEN_2022_PROGRAM_ADDRESS, Base64.encode Guard.splitMint⟩,
    some ⟨false, SYSVAR_CLOCK_ADDRESS, Base64.encode startOfTime⟩]⟩
  have answered : buyLive.getMultipleAccounts 2 [equityMint, SYSVAR_CLOCK_ADDRESS] = .ok answer := rfl
  have first : answer.account 0 = some ⟨false, TOKEN_2022_PROGRAM_ADDRESS, Base64.encode Guard.splitMint⟩ := rfl
  have second : answer.account 1 = some ⟨false, SYSVAR_CLOCK_ADDRESS, Base64.encode startOfTime⟩ := rfl
  have phase : phaseAt (ofProtectedState Guard.twoForOneSplit) 0 = 0 := by decide
  have scheduled : hasScheduledChange (ofProtectedState Guard.twoForOneSplit) = true := by decide
  rw [fetchGuardSnapshot, answered, ok_bind, snapshotOf, first, ok_or_some, ok_bind, second, ok_or_some, ok_bind, clock, ok_bind,
    splitMint_decoded, ok_bind, phase, scheduled]
  rfl

def buyDeployment : Deployment where
  programAddress := guardProgram
  cluster := .unknown
  identity := .CALLER_TRUSTED
  attestation := callerTrustedAttestation guardProgram
def buySnapshot : GuardSnapshot := ⟨equityMint, 1, ⟨0, 0⟩, ofProtectedState Guard.twoForOneSplit, 0, true⟩
def buySwap (budget : List ApiInstruction) : Protectable :=
  ⟨buyBuild budget, equityMint, .BUY, .JUPITER_ROUTE_V2_BUY_USDC, none⟩
theorem buy_deployed : resolveDeployment buyKit buyPlatform buyLive (some guardProgram) = .ok (.ok buyDeployment) := by
  have cluster : clusterFromGenesisHash "a local validator" = .unknown := by decide
  have unreviewed : findReviewedGuardDeployment guardProgram = none := by decide
  have genesis : buyLive.getGenesisHash = .ok "a local validator" := rfl
  have answered : buyLive.getMultipleAccounts 1 [guardProgram] = .ok ⟨1, [some ⟨true, BPF_LOADER_UPGRADEABLE_ADDRESS, ""⟩]⟩ :=
    rfl
  rw [resolveDeployment, genesis, ok_bind]
  dsimp only
  rw [cluster, Option.some_or]
  dsimp only
  rw [unreviewed]
  dsimp only
  rw [answered, ok_bind, attest, unreviewed]
  rfl
/-- Whatever its compute budget says, the buy gets to the composer. -/
theorem buy_reaches (budget : List ApiInstruction) :
    Reaches buyKit buyPlatform buyLive (buyInput (buyBuild budget)) (buySwap budget) buyDeployment buySnapshot where
  parsed := parseBuildResponse_toJson _
  classified := buy_classified budget
  requested := by
    show guardRequestIssue (buyInput (buyBuild [])) = none
    decide
  deployed := buy_deployed
  fetched := buy_fetched
  quoted := by
    show quotedVerdict (buyInput (buyBuild [])) buySnapshot = .ok none
    decide
  accepted := by
    show guardVerdict (expectationFromSnapshot buySnapshot ⟨10, 10⟩) buySnapshot = .ok none
    decide
theorem buyMessage_length : buyMessage.length = 594 := by
  have keys := Framing.length_flatMap (fun address : Address => address.key.size_eq) (buyCompiled true).staticAccounts
  have guard := Instruction.AssertSafeExecutionV2.pack_length buyRequest
  have route : buyRoute.data.length = 34 := rfl
  unfold buyMessage
  simp only [List.length_append, keys, guard, route, List.length_replicate]
  rfl
/-- One signature before a message of this size stays under the limit. -/
theorem signed_fits {message : List UInt8} (size : message.length = 594) :
    (1 :: (List.replicate 64 0 ++ message)).length ≤ MAX_TRANSACTION_BYTES := by
  simp only [List.length_cons, List.length_append, List.length_replicate, size]
  decide
theorem buyKit_unwraps : buyKit.decodeTransaction (1 :: (List.replicate 64 0 ++ buyMessage)) = some buyMessage := by
  show some ((List.replicate 64 0 ++ buyMessage).drop 64) = some buyMessage
  rw [List.drop_left' List.length_replicate]
theorem buyKit_decodes : buyKit.decodeMessage buyMessage = some (buyCompiled false) := if_pos rfl
theorem buyKit_documented : buyKit.Documented where
  base64_eq _ := rfl
  decodes message wire encoded := by
    cases encoded
    exact ⟨buyMessage, buyCompiled false, buyKit_unwraps, buyKit_decodes⟩
  message_size wire bytes decoded := by
    cases wire with
    | nil => cases decoded
    | cons signatures rest =>
      cases decoded
      simp only [List.length_drop, List.length_cons]
      omega
  instructions_size bytes compiled decoded := by
    have known : bytes = buyMessage := by
      by_contra other
      rw [show buyKit.decodeMessage bytes = none from if_neg other] at decoded
      cases decoded
    subst known
    rw [buyKit_decodes] at decoded
    cases decoded
    rw [buyMessage_length]
    decide
theorem buyLive_answers : Answers buyLive := ⟨⟨_, rfl⟩, fun _ _ => ⟨_, rfl⟩⟩
def buyTrade : JupiterTradeRequest := tradeRequest buyKit (buyInput (buyBuild buyBudget)) (buySwap buyBudget)
def inKit (account : CommittedAccount) : Kit.AccountMeta :=
  ⟨account.address, roleOfFlags account.isSigner account.isWritable⟩
/-- The suffix of the buy as the kit holds it. -/
def buyKitSuffix : List Kit.Instruction := buySuffix.map (fun instruction => {
  programAddress := instruction.programAddress
  accounts := instruction.accounts.map inKit
  data := instruction.data })
theorem buy_readable : Readable (buyBuild buyBudget) where
  budget instruction member := by
    obtain rfl := List.mem_singleton.mp member
    exact Base64.isValid_encode _
  setup := nofun
  swap := Base64.isValid_encode _
theorem kitOf_apiOf (instruction : CommittedInstruction) :
    kitOf buyKit (apiOf instruction) = {
      programAddress := instruction.programAddress
      accounts := instruction.accounts.map inKit
      data := instruction.data } := by
  rw [kitOf, apiOf, buyKit_reads, List.map_map]
  rfl
theorem buy_budgeted : (buyBuild buyBudget).computeBudgetInstructions.map (kitOf buyKit) = buyKitSuffix.take 1 := by
  show [kitOf buyKit (apiOf _)] = _
  rw [kitOf_apiOf]
  rfl
theorem buy_supported : assertSupportedJupiterBuild buyKit (buyBuild buyBudget) buyTrade = .ok () := by
  have swap : orSolanaError (buyKit.base64Bytes (buyBuild buyBudget).swapInstruction.data) = .ok buyRoute.data := by
    rw [base64_of_valid buyKit_documented buy_readable.swap]
    show Except.ok (buyKit.bufferFromBase64 (Base64.encode buyRoute.data)) = _
    rw [buyKit_reads]
  unfold assertSupportedJupiterBuild
  rw [mapM_checked (toKitInstruction_eq buyKit_documented), if_pos buy_readable.budget, ok_bind, buy_budgeted]
  dsimp only
  rw [swap]
  decide

theorem buy_normalized : normalizedJupiterSuffix buyKit (buyBuild buyBudget) buyTrade.computeUnitLimit = .ok buyKitSuffix := by
  have swap : toKitInstruction buyKit (buyBuild buyBudget).swapInstruction = .ok (kitOf buyKit (apiOf buyRoute)) := by
    rw [toKitInstruction_eq buyKit_documented, if_pos buy_readable.swap]
    rfl
  unfold normalizedJupiterSuffix
  rw [mapM_checked (toKitInstruction_eq buyKit_documented), if_pos buy_readable.budget, ok_bind, buy_budgeted, swap,
    kitOf_apiOf]
  decide
def buyExpectation : AssertSafeExecutionRequest := expectationFromSnapshot buySnapshot ⟨10, 10⟩
theorem buy_resolved : resolveWireTransaction buyKit (1 :: (List.replicate 64 0 ++ buyMessage)) [] = .ok buyTransaction := by
  unfold resolveWireTransaction
  rw [buyKit_unwraps, orSolanaError, ok_or_some, ok_bind, buyKit_decodes, orSolanaError, ok_or_some, ok_bind]
  decide
theorem buy_viewed : sysvarView (guardWith guardProgram equityMint buyRequest :: buyKitSuffix) buyer = .ok buyTransaction := by
  decide
theorem buy_built : ∃ trade, buildGuardedJupiterTrade buyPlatform guardProgram buyer equityMint .JUPITER_ROUTE_V2_BUY_USDC
      buyExpectation buyKitSuffix = .ok trade ∧
    trade.instructions = guardWith guardProgram equityMint buyRequest :: buyKitSuffix ∧ trade.committedSuffix = buySuffix ∧
      trade.route.start.slippageBps = 50 := by
  obtain ⟨route, passes, slippage⟩ := buy_passes
  have expected : buyExpectation = ofExecution buyRequest.execution := by decide
  have guarded (commitment : Chunk 32) := getAssertSafeExecutionV2Instruction_of guardProgram equityMint
    buyRequest.execution commitment .JUPITER_ROUTE_V2_BUY_USDC
  have finished : guardRequest equityMint .JUPITER_ROUTE_V2_BUY_USDC buyRequest.execution buyRequest.downstream_commitment =
      buyRequest := rfl
  -- the flags behind the placeholder are those behind the finished guard
  obtain ⟨provisional, viewed, _, committed⟩ := @Exposure.sysvarView_payload (guardWith guardProgram equityMint buyRequest)
    (guardWith guardProgram equityMint (guardRequest equityMint .JUPITER_ROUTE_V2_BUY_USDC buyRequest.execution
      ⟨List.replicate 32 0, List.length_replicate⟩)) rfl rfl buyKitSuffix buyer _ buy_viewed
  have hashed : Commitments.jupiterSuffixCommitment buyPlatform.sha256 buySuffix =
      .ok buyRequest.downstream_commitment.bytes := by decide
  have recheck := @recheck_passes buyPlatform _ _ buyTransaction route _ passes hashed
  refine ⟨⟨guardWith guardProgram equityMint buyRequest :: buyKitSuffix, guardWith guardProgram equityMint buyRequest,
    .JUPITER_ROUTE_V2_BUY_USDC, buySuffix, buyRequest.downstream_commitment.bytes, route⟩, ?_, rfl, rfl, slippage⟩
  rw [expected]
  unfold buildGuardedJupiterTrade
  dsimp only
  rw [guarded ⟨List.replicate 32 0, List.length_replicate⟩, ok_bind, viewed, ok_bind, committed]
  show (checkJupiterSuffix buyPlatform buySuffix .JUPITER_ROUTE_V2_BUY_USDC equityMint >>= _) = _
  rw [passes, ok_bind]
  dsimp only
  rw [show List.drop 1 buyTransaction = buySuffix from rfl, hashed, ok_bind, guarded, ok_bind, finished, buy_viewed, ok_bind,
    recheck]
  rfl
/-- The buy gets through. -/
theorem buy_composed : ∃ composition, composeGuardedJupiterTrade buyKit buyPlatform (buyBuild buyBudget) guardProgram buyer
    buyTrade buyExpectation = .ok composition := by
  obtain ⟨trade, built, instructions, suffix, slippage⟩ := buy_built
  have compiles : Compiles buyKit (buyBuild buyBudget) buyer trade.instructions := ⟨rfl, ⟨_, rfl, rfl⟩, rfl⟩
  obtain ⟨wire, metrics, measured, encoded⟩ := compileAndMeasure_of compiles
  have small : metrics.fitsSizeLimit = true := by
    rw [compileAndMeasure_fits measured, decide_eq_true_eq, ← Option.some.inj encoded]
    exact signed_fits buyMessage_length
  have bound : ∃ binding, jupiterTradeBindingOf trade = .ok binding := by
    unfold jupiterTradeBindingOf
    dsimp only
    rw [slippage]
    exact ⟨_, rfl⟩
  obtain ⟨binding, bindingEq⟩ := bound
  unfold composeGuardedJupiterTrade
  rw [buy_supported, ok_bind, buy_normalized, ok_bind]
  show ∃ composition, (buildGuardedJupiterTrade buyPlatform guardProgram buyer equityMint .JUPITER_ROUTE_V2_BUY_USDC
      buyExpectation buyKitSuffix >>= _) = Except.ok composition
  rw [built, ok_bind, measured, ok_bind]
  dsimp only
  have resolved : resolveWireTransaction buyKit wire (buyBuild buyBudget).addressesByLookupTableAddress = .ok buyTransaction := by
    rw [← Option.some.inj encoded]
    exact buy_resolved
  have matched : ¬ (¬ sameInstructions buyTransaction buyTransaction ∨ ¬ sameInstructions (buyTransaction.drop 1) buySuffix) := by
    simp [sameInstructions, buyTransaction]
  rw [small, resolved, instructions, suffix, buy_viewed, bindingEq, refuse_if_bind, if_neg (by simp), ok_bind,
    ok_bind, refuse_if_bind, if_neg matched]
  exact ⟨_, rfl⟩
theorem buy_protected : ∃ result, protectJupiterSwap buyKit buyPlatform buyLive (buyInput (buyBuild buyBudget)) =
    .ok (.PROTECTED result) := by
  obtain ⟨composition, composed⟩ := buy_composed
  refine ⟨resultOf buyKit (buySwap buyBudget) buyDeployment buySnapshot composition, ?_⟩
  rw [(buy_reaches buyBudget).run]
  exact compose_of_composed composed
theorem protectJupiterSwap_returns_iff_buy : buyKit.Documented ∧ Answers buyLive ∧
    ∀ swap deployment snapshot,
      Reaches buyKit buyPlatform buyLive (buyInput (buyBuild buyBudget)) swap deployment snapshot →
        Composable buyKit buyPlatform swap.build deployment.programAddress buyer
          (tradeRequest buyKit (buyInput (buyBuild buyBudget)) swap) (expectationFromSnapshot snapshot ⟨10, 10⟩) := by
  obtain ⟨result, run⟩ := buy_protected
  exact ⟨buyKit_documented, buyLive_answers,
    (protectJupiterSwap_returns_iff buyKit_documented buyPlatform buyLive_answers _).mp ⟨_, run⟩⟩
/-- A ComputeBudget instruction whose data is written in the URL-safe alphabet. -/
def misspelt : List ApiInstruction := [⟨COMPUTE_BUDGET_PROGRAM_ADDRESS, [], "A-gDAAAAAAAA"⟩]
theorem protectJupiterSwap_throws_misspelt :
    buyKit.Documented ∧ Answers buyLive ∧
      ¬ ∃ result, protectJupiterSwap buyKit buyPlatform buyLive (buyInput (buyBuild misspelt)) = .ok result := by
  refine ⟨buyKit_documented, buyLive_answers, ?_⟩
  have unreadable : ¬ Readable (buySwap misspelt).build := by
    intro readable
    have valid := readable.budget _ (List.mem_singleton.mpr rfl)
    exact absurd valid (by decide)
  rw [(buy_reaches misspelt).run, compose_returns_iff]
  intro refuses
  refine refuses .SolanaError ?_
  unfold composeGuardedJupiterTrade
  rw [assertSupportedJupiterBuild_unreadable buyKit_documented _ unreadable]
  rfl

end EquityGuard.SwapRefusals
