import EquityGuard.SwapProtect

/-!
Protection is never dropped silently: a swap is passed on unguarded exactly when both
of its mints are known to be ordinary.
-/
namespace EquityGuard.SwapClassification
open EquityGuard.Addresses EquityGuard.Bytes EquityGuard.Client EquityGuard.ClientJupiter EquityGuard.ClientMintState
open EquityGuard.ClientProtection EquityGuard.Errors EquityGuard.Kit EquityGuard.SwapBuild EquityGuard.SwapProtect
open EquityGuard.Jupiter (Platform)

/-! ### Ordinary mints -/

/-- Decoding fails for one of the two reasons that say the account carries no protected state. -/
def Stateless (owner : Address) (data : List UInt8) : Prop :=
  Refuses .InvalidMintOwner (decodeProtectedState owner.text data) ∨
    Refuses .MissingScaledUiAmount (decodeProtectedState owner.text data)
/-- A mint outside the registry whose account is not Token-2022's, or is a well-formed mint
    without a ScaledUiAmount. -/
structure Ordinary (mint owner : Address) (data : List UInt8) : Prop where
  unknown : ∀ asset ∈ KNOWN_PROTECTED_ASSETS, asset.mint ≠ mint
  stateless : Stateless owner data
  structural : owner ≠ TOKEN_2022_PROGRAM_ADDRESS ∨ State.Unscaled data

theorem refuses_owner_iff (owner : Address) (data : List UInt8) :
    Refuses .InvalidMintOwner (decodeProtectedState owner.text data) ↔ owner ≠ TOKEN_2022_PROGRAM_ADDRESS := by
  rw [decodeProtectedState_refuses Token2022.documented_correct owner data .InvalidMintOwner rfl,
    State.decode_protected_state_owner Token2022.documented_correct, ne_eq, ne_eq, ← Address.key_inj]
  rfl
theorem refuses_missing_iff (owner : Address) (data : List UInt8) :
    Refuses .MissingScaledUiAmount (decodeProtectedState owner.text data) ↔
      owner = TOKEN_2022_PROGRAM_ADDRESS ∧ State.Unscaled data := by
  rw [decodeProtectedState_refuses Token2022.documented_correct owner data .MissingScaledUiAmount rfl,
    State.decode_protected_state_missing Token2022.documented_correct, ← Address.key_inj]
  rfl
theorem find_eq_none_iff (mint : Address) :
    findKnownProtectedAsset mint KNOWN_PROTECTED_ASSETS = none ↔ ∀ asset ∈ KNOWN_PROTECTED_ASSETS, asset.mint ≠ mint := by
  simp [findKnownProtectedAsset, List.find?_eq_none]
/-- What the two checks of the code establish is the whole of it. -/
theorem ordinary_iff (mint owner : Address) (data : List UInt8) :
    Ordinary mint owner data ↔ findKnownProtectedAsset mint KNOWN_PROTECTED_ASSETS = none ∧ Stateless owner data := by
  rw [find_eq_none_iff]
  refine ⟨fun ordinary => ⟨ordinary.unknown, ordinary.stateless⟩, ?_⟩
  rintro ⟨unknown, stateless⟩
  refine ⟨unknown, stateless, ?_⟩
  rcases stateless with foreign | missing
  · exact .inl ((refuses_owner_iff owner data).mp foreign)
  · exact .inr ((refuses_missing_iff owner data).mp missing).2

/-! ### One mint -/

/-- A classification that sends the caller down its unguarded path. -/
def IsNotApplicable : Classification → Prop
  | .NOT_APPLICABLE _ _ => True
  | _ => False

theorem implemented_of_known : ∀ asset ∈ KNOWN_PROTECTED_ASSETS, IMPLEMENTED_STATE_MODELS.contains asset.stateModel = true := by
  intro asset member
  simp only [KNOWN_PROTECTED_ASSETS, List.mem_cons, List.not_mem_nil, or_false] at member
  rcases member with rfl | rfl | rfl | rfl | rfl | rfl <;> rfl
/-- Every known asset has a state model this client implements, so the resolver goes on to decode. -/
theorem unimplemented_eq_none (mint : Address) :
    (findKnownProtectedAsset mint KNOWN_PROTECTED_ASSETS).filter
      (fun asset => !IMPLEMENTED_STATE_MODELS.contains asset.stateModel) = none := by
  rw [Option.filter_eq_none_iff]
  intro asset found
  rw [implemented_of_known asset (List.mem_of_find?_eq_some found)]
  simp

theorem stateless_iff_of_refused {owner : Address} {data : List UInt8} {code : GuardClientErrorCode}
    (refused : Refuses code (decodeProtectedState owner.text data)) :
    Stateless owner data ↔ code = .InvalidMintOwner ∨ code = .MissingScaledUiAmount := by
  obtain ⟨message, refused⟩ := refused
  unfold Stateless Refuses
  simp [refused, guardClientError]
/-- What the resolver makes of an account, by how decoding it ends. -/
theorem verdictFor_cases (mint owner : Address) (data : List UInt8) :
    (¬ Ordinary mint owner data ∧
      verdictFor mint owner data = .ok (.protectedBy (findKnownProtectedAsset mint KNOWN_PROTECTED_ASSETS))) ∨
    (Ordinary mint owner data ∧ ∃ reason, verdictFor mint owner data = .ok (.unprotected reason)) ∨
    (¬ Ordinary mint owner data ∧ ∃ classification, verdictFor mint owner data = .ok (.refusal classification) ∧
      ¬ IsNotApplicable classification) := by
  rw [verdictFor, resolveProtectionAdapter, unimplemented_eq_none, ordinary_iff]
  rcases decodeProtectedState_cases owner data with ⟨state, decoded⟩ | ⟨code, refused⟩
  · refine .inl ⟨?_, by rw [decoded]; rfl⟩
    rintro ⟨_, ⟨_, refused⟩ | ⟨_, refused⟩⟩ <;> (rw [decoded] at refused; cases refused)
  rw [stateless_iff_of_refused refused]
  obtain ⟨message, refused⟩ := refused
  rw [refused, guardClientError]
  by_cases absent : code = .InvalidMintOwner ∨ code = .MissingScaledUiAmount
  · cases known : findKnownProtectedAsset mint KNOWN_PROTECTED_ASSETS with
    | none => exact .inr (.inl ⟨⟨rfl, absent⟩, _, by simp only [absent, ↓reduceIte]; rfl⟩)
    | some asset => exact .inr (.inr ⟨nofun, _, by simp only [absent, ↓reduceIte]; rfl, id⟩)
  · exact .inr (.inr ⟨fun ordinary => absent ordinary.2, _, by simp only [absent, ↓reduceIte]; rfl, id⟩)

/-! ### The loop over the mints -/

/-- The account a mint is classified by was returned, and is ordinary. -/
def OrdinaryAt (kit : Library) (answer : AccountsAnswer) (index : Nat) (mint : Address) : Prop :=
  ∃ account, answer.account index = some account ∧ Ordinary mint account.owner (kit.bufferFromBase64 account.data)

/-- The same of every mint in a list, the first of them at the given index. -/
def OrdinaryFrom (kit : Library) (answer : AccountsAnswer) (index : Nat) : List Address → Prop
  | [] => True
  | mint :: rest => OrdinaryAt kit answer index mint ∧ OrdinaryFrom kit answer (index + 1) rest
/-- Where the loop stands: stopped by a refusal that is justified, or with nothing collected exactly
    when everything so far was ordinary. -/
def Settles (ordinary : Prop) : Except Classification Tally → Prop
  | .error classification => ¬ IsNotApplicable classification ∧ ¬ ordinary
  | .ok tally => tally.protectedMints = [] ↔ ordinary

/-- One turn. -/
theorem visit_settles (kit : Library) (answer : AccountsAnswer) (tally : Tally) (index : Nat) (mint : Address) :
    ∃ outcome, visit kit answer tally index mint = .ok outcome ∧
      Settles (tally.protectedMints = [] ∧ OrdinaryAt kit answer index mint) outcome := by
  unfold visit OrdinaryAt
  cases answer.account index with
  | none => exact ⟨_, rfl, id, by simp⟩
  | some account =>
    dsimp only
    rcases verdictFor_cases mint account.owner (kit.bufferFromBase64 account.data) with
      ⟨special, verdict⟩ | ⟨ordinary, reason, verdict⟩ | ⟨special, classification, verdict, applicable⟩
    · rw [verdict]
      exact ⟨_, rfl, by simp [Settles, special]⟩
    · rw [verdict]
      cases reason <;> exact ⟨_, rfl, by simp [Settles, ordinary]⟩
    · rw [verdict]
      exact ⟨_, rfl, applicable, by simp [special]⟩
/-- The whole loop, by induction on the mints still to visit. -/
theorem visitFrom_settles (kit : Library) (answer : AccountsAnswer) (mints : List Address) (tally : Tally) (index : Nat) :
    ∃ outcome, visitFrom kit answer tally index mints = .ok outcome ∧
      Settles (tally.protectedMints = [] ∧ OrdinaryFrom kit answer index mints) outcome := by
  induction mints generalizing tally index with
  | nil => exact ⟨_, rfl, by simp [Settles, OrdinaryFrom]⟩
  | cons mint rest ih =>
    obtain ⟨outcome, visited, settled⟩ := visit_settles kit answer tally index mint
    rw [visitFrom, visited, ok_bind, OrdinaryFrom, ← and_assoc]
    cases outcome with
    | error classification => exact ⟨_, rfl, settled.1, fun all => settled.2 all.1⟩
    | ok next =>
      obtain ⟨last, ran, correct⟩ := ih next (index + 1)
      rw [show _ ↔ _ from settled] at correct
      exact ⟨last, ran, correct⟩

theorem conclude_not_applicable (inputMint outputMint : Address) (tally : Tally) :
    IsNotApplicable (conclude inputMint outputMint tally) ↔ tally.protectedMints = [] := by
  unfold conclude
  cases tally.protectedMints with
  | nil => simp [IsNotApplicable]
  | cons first others =>
    refine iff_of_false ?_ (List.cons_ne_nil first others)
    cases others with
    | cons second _ => exact id
    | nil =>
      dsimp only
      split_ifs <;> exact id

/-! ### The whole swap -/

/-- The account returned for a mint: classification asks for the mints other than USDC, in order. -/
def returned (build : BuildResponse) (answer : AccountsAnswer) (mint : Address) : Option RpcAccount :=
  answer.account ((candidatesOf build.inputMint build.outputMint).idxOf mint)
/-- The accounts of a `route_v2` swap are the mints the build reports. -/
def TradesReported (kit : Library) (build : BuildResponse) : Prop :=
  build.swapInstruction.programId = JUPITER_V6_PROGRAM_ADDRESS → ∀ start,
    decodeRouteV2Prefix (kit.bufferFromBase64 build.swapInstruction.data) = .ok (some start) →
    build.swapInstruction.accounts[ROUTE_V2_ACCOUNT.sourceMint]?.map ApiAccountMeta.pubkey = some build.inputMint ∧
    build.swapInstruction.accounts[ROUTE_V2_ACCOUNT.destinationMint]?.map ApiAccountMeta.pubkey = some build.outputMint
/-- Both mints are known to be ordinary, and are the mints the swap moves. -/
structure Unprotected (kit : Library) (build : BuildResponse) (answer : AccountsAnswer) : Prop where
  differ : build.inputMint ≠ build.outputMint
  ordinary : ∀ mint ∈ [build.inputMint, build.outputMint], mint ≠ USDC_MINT_ADDRESS → ∃ account,
    returned build answer mint = some account ∧ Ordinary mint account.owner (kit.bufferFromBase64 account.data)
  reported : TradesReported kit build

theorem reportedMintMismatch_cases (kit : Library) (build : BuildResponse) :
    (TradesReported kit build ∧ reportedMintMismatch kit build = .ok none) ∨
      (¬ TradesReported kit build ∧ ∃ mismatch, reportedMintMismatch kit build = .ok (some mismatch)) := by
  unfold reportedMintMismatch TradesReported
  by_cases foreign : build.swapInstruction.programId ≠ JUPITER_V6_PROGRAM_ADDRESS
  · exact .inl ⟨fun same => absurd same foreign, if_pos foreign⟩
  rw [if_neg foreign, decodeRouteV2Prefix_eq, ok_bind]
  have ours := not_not.mp foreign
  cases (Jupiter.RouteV2Prefix.decode (kit.bufferFromBase64 build.swapInstruction.data)).map ofPrefix with
  | none => exact .inl ⟨nofun, rfl⟩
  | some start =>
    dsimp only
    split
    · rename_i same
      exact .inl ⟨fun _ _ _ => same, rfl⟩
    · rename_i other
      exact .inr ⟨fun reported => other (reported ours start rfl), _, rfl⟩
theorem candidates_ordinary_iff (kit : Library) (build : BuildResponse) (answer : AccountsAnswer)
    (differ : build.inputMint ≠ build.outputMint) :
    OrdinaryFrom kit answer 0 (candidatesOf build.inputMint build.outputMint) ↔
    ∀ mint ∈ [build.inputMint, build.outputMint], mint ≠ USDC_MINT_ADDRESS → ∃ account,
      returned build answer mint = some account ∧ Ordinary mint account.owner (kit.bufferFromBase64 account.data) := by
  unfold returned candidatesOf
  by_cases input : build.inputMint = USDC_MINT_ADDRESS
  · have output : build.outputMint ≠ USDC_MINT_ADDRESS := fun same => differ (input.trans same.symm)
    simp [input, output, OrdinaryFrom, OrdinaryAt]
  · by_cases output : build.outputMint = USDC_MINT_ADDRESS
    · simp [input, output, OrdinaryFrom, OrdinaryAt]
    · have other : (build.inputMint == build.outputMint) = false := beq_eq_false_iff_ne.mpr differ
      simp [input, output, OrdinaryFrom, OrdinaryAt, List.idxOf_cons, other]

/-- A build is classified whatever the RPC answers, and as not applicable only if it is unprotected. -/
theorem classify_correct {kit : Library} {rpc : Rpc} {build : BuildResponse} {answer : AccountsAnswer}
    (answered : rpc.getMultipleAccounts 0 (candidatesOf build.inputMint build.outputMint) = .ok answer) :
    ∃ classification, classify kit rpc build = .ok classification ∧
      (IsNotApplicable classification ↔ Unprotected kit build answer) := by
  unfold classify
  rcases reportedMintMismatch_cases kit build with ⟨reported, agreed⟩ | ⟨misreported, mismatch, found⟩
  swap
  · rw [found]
    exact ⟨_, rfl, iff_of_false id (fun unprotected => misreported unprotected.reported)⟩
  rw [agreed, ok_bind]
  dsimp only
  by_cases same : build.inputMint = build.outputMint
  · rw [if_pos same]
    exact ⟨_, rfl, iff_of_false id (fun unprotected => unprotected.differ same)⟩
  rw [if_neg same, answered, ok_bind]
  obtain ⟨outcome, ran, settled⟩ := visitFrom_settles kit answer (candidatesOf build.inputMint build.outputMint)
    ⟨[], .NO_TOKEN_2022_MINT⟩ 0
  have unprotected_iff : OrdinaryFrom kit answer 0 (candidatesOf build.inputMint build.outputMint) ↔
      Unprotected kit build answer := by
    rw [candidates_ordinary_iff kit build answer same]
    exact ⟨fun ordinary => ⟨same, ordinary, reported⟩, fun unprotected => unprotected.ordinary⟩
  simp only [unprotected_iff, true_and] at settled
  rw [ran, ok_bind]
  cases outcome with
  | error classification => exact ⟨classification, rfl, iff_of_false settled.1 settled.2⟩
  | ok last => exact ⟨_, rfl, (conclude_not_applicable _ _ last).trans settled⟩

/-- A result other than `NOT_APPLICABLE`. -/
def Applicable : ProtectJupiterSwapResult → Prop
  | .NOT_APPLICABLE _ _ => False
  | _ => True

theorem economicFailure_applicable (verdict : Errors.EquityGuardError) (protectedMint : Address) :
    Applicable (economicFailure verdict protectedMint) := by
  unfold economicFailure
  split <;> trivial
theorem compositionFailure_applicable (error : JsError) (protectedMint : Address) :
    Returns Applicable (compositionFailure error protectedMint) := by
  cases error with
  | UnsupportedJupiterBuildError reasons => exact .ok trivial
  | GuardClientError code message guardError =>
    dsimp only [compositionFailure]
    split <;> exact .ok trivial
  | CompositionError code message => cases code <;> exact .ok trivial
  | JupiterApiError message => exact .error _ _
  | SolanaError => exact .error _ _
  | RangeError => exact .error _ _
  | TypeError => exact .error _ _
theorem compose_applicable (kit : Library) (platform : Platform) (input : ProtectJupiterSwapInput) (swap : Protectable)
    (deployment : Deployment) (snapshot : GuardSnapshot) :
    Returns Applicable (compose kit platform input swap deployment snapshot) := by
  unfold compose
  split
  · exact .ok trivial
  · exact compositionFailure_applicable _ _
theorem bindState_applicable (kit : Library) (platform : Platform) (input : ProtectJupiterSwapInput) (swap : Protectable)
    (deployment : Deployment) (snapshot : GuardSnapshot) :
    Returns Applicable (bindState kit platform input swap deployment snapshot) := by
  refine .bind fun quoted => ?_
  cases quoted with
  | some moved => exact .ok (economicFailure_applicable moved _)
  | none =>
    refine .bind fun verdict => ?_
    cases verdict with
    | some wouldFail => exact .ok (economicFailure_applicable wouldFail _)
    | none => exact compose_applicable kit platform input swap deployment snapshot
/-- Once a protected mint is found there is no way back to the unguarded path. -/
theorem protect_applicable (kit : Library) (platform : Platform) (rpc : Rpc) (input : ProtectJupiterSwapInput)
    (swap : Protectable) : Returns Applicable (protect kit platform rpc input swap) := by
  unfold protect
  cases guardRequestIssue input with
  | some issue => exact .ok trivial
  | none =>
    refine .bind fun resolved => ?_
    rcases resolved with ⟨code, message⟩ | deployment
    · exact .ok trivial
    dsimp only
    split
    · exact .ok trivial
    · exact .error _ _
    · exact bindState_applicable _ _ _ _ _ _

/-- `NOT_APPLICABLE` is reported, by either entry point, exactly for the unprotected swaps. -/
theorem not_applicable_correct (kit : Library) (platform : Platform) (rpc : Rpc) (input : ProtectJupiterSwapInput)
    {build : BuildResponse} {answer : AccountsAnswer} (parsed : parseBuildResponse input.build = .ok build)
    (answered : rpc.getMultipleAccounts 0 (candidatesOf build.inputMint build.outputMint) = .ok answer) :
    ((∃ reason message, protectJupiterSwap kit platform rpc input = .ok (.NOT_APPLICABLE reason message)) ↔
      Unprotected kit build answer) ∧
    ((∃ reason message, supportsJupiterSwap kit rpc input.build = .ok (.NOT_APPLICABLE reason message)) ↔
      Unprotected kit build answer) := by
  obtain ⟨classification, classified, correct⟩ := classify_correct answered
  rw [← correct, protectJupiterSwap, supportsJupiterSwap, parsed]
  dsimp only
  rw [classified, ok_bind, ok_bind]
  cases classification with
  | NOT_APPLICABLE reason message => simp [IsNotApplicable, pure_eq_ok]
  | UNSUPPORTED_ASSET code message protectedMint knownAsset => simp [IsNotApplicable, pure_eq_ok]
  | UNSUPPORTED code message protectedMint => simp [IsNotApplicable, pure_eq_ok]
  | ERROR code message protectedMint => simp [IsNotApplicable, pure_eq_ok]
  | PROTECTED protectedMint direction adapterKind knownAsset =>
    refine ⟨iff_of_false ?_ id, by simp [IsNotApplicable, pure_eq_ok]⟩
    rintro ⟨reason, message, passed⟩
    exact protect_applicable kit platform rpc input _ _ passed

theorem buy_reported (budget : List ApiInstruction) : TradesReported buyKit (buyBuild budget) := by
  intro _ start _
  exact ⟨rfl, rfl⟩
/-- Were its output an ordinary SPL token, the buy would be passed on. -/
theorem not_applicable_correct_legacy :
    ∃ reason message, protectJupiterSwap buyKit buyPlatform (buyRpc LEGACY_TOKEN_PROGRAM_ADDRESS)
      (buyInput (buyBuild buyBudget)) = .ok (.NOT_APPLICABLE reason message) := by
  have unprotected : Unprotected buyKit (buyBuild buyBudget)
      ⟨1, [some ⟨false, LEGACY_TOKEN_PROGRAM_ADDRESS, Base64.encode Guard.splitMint⟩]⟩ := by
    refine ⟨by decide, ?_, buy_reported buyBudget⟩
    intro mint member other
    have equity : mint = equityMint := by
      rcases List.mem_cons.mp member with rfl | member
      · exact absurd rfl other
      · exact List.mem_singleton.mp member
    have foreign : LEGACY_TOKEN_PROGRAM_ADDRESS ≠ TOKEN_2022_PROGRAM_ADDRESS := by decide
    have position : (candidatesOf (buyBuild buyBudget).inputMint (buyBuild buyBudget).outputMint).idxOf equityMint = 0 := by
      decide
    rw [equity, returned, position]
    exact ⟨_, rfl, by decide, .inl ((refuses_owner_iff _ _).mpr foreign), .inl foreign⟩
  exact (not_applicable_correct buyKit buyPlatform _ _ (parseBuildResponse_toJson _) rfl).1.mpr unprotected

end EquityGuard.SwapClassification
