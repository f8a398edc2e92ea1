import EquityGuard.DeploymentReads
import EquityGuard.Hex
import EquityGuard.SwapRefusals

/-!
Whether a deployment is still the one that a transaction was built against: the digest of
an attestation, and what a second read of the accounts proves about both reads.
-/
namespace EquityGuard.Reverification
open EquityGuard.Addresses EquityGuard.Bytes EquityGuard.Client EquityGuard.ClientDeployment EquityGuard.ClientProtection
open EquityGuard.DeploymentReads EquityGuard.Errors EquityGuard.Kit EquityGuard.SwapProtect EquityGuard.SwapRefusals
open EquityGuard.ClientJupiter (hexOf)
open EquityGuard.Jupiter (Platform)

/-! ### The digest of an attestation -/

def mutabilityText : DeploymentMutability → String
  | .IMMUTABLE => "IMMUTABLE"
  | .NO_USABLE_AUTHORITY => "NO_USABLE_AUTHORITY"
  | .UPGRADEABLE => "UPGRADEABLE"
  | .UNKNOWN => "UNKNOWN"
def identityText : GuardDeploymentIdentity → String
  | .REVIEWED_BINARY => "REVIEWED_BINARY"
  | .CALLER_TRUSTED => "CALLER_TRUSTED"
def digestFields (attestation : GuardDeploymentAttestation) : List String := [
  attestation.programId.text,
  (attestation.programDataAddress.map Address.text).getD "-",
  attestation.reviewedElfSha256.getD "-",
  (attestation.upgradeAuthority.map Address.text).getD "-",
  mutabilityText attestation.mutability,
  identityText attestation.identity]
/-- The fields that must not change between building a guard and executing it. -/
def deploymentAttestationDigest (attestation : GuardDeploymentAttestation) : String :=
  "|".intercalate (digestFields attestation)
def sameGuardDeployment (a b : GuardDeploymentAttestation) : Bool :=
  deploymentAttestationDigest a = deploymentAttestationDigest b

/-- The attestations agree on everything but the slot. -/
structure SameDeployment (a b : GuardDeploymentAttestation) : Prop where
  programId : a.programId = b.programId
  programDataAddress : a.programDataAddress = b.programDataAddress
  reviewedElfSha256 : a.reviewedElfSha256 = b.reviewedElfSha256
  upgradeAuthority : a.upgradeAuthority = b.upgradeAuthority
  mutability : a.mutability = b.mutability
  identity : a.identity = b.identity
/-- The hash, if there is one, is written in lowercase hexadecimal. -/
def HexHash (attestation : GuardDeploymentAttestation) : Prop :=
  ∀ text, attestation.reviewedElfSha256 = some text → ∀ letter ∈ text.toList, letter ∈ "0123456789abcdef".toList

theorem not_mem_text (address : Address) {letter : Char} (other : Base58.digitOf letter = none) :
    letter ∉ address.text.toList := by
  have decoded := address.decode_text
  intro member
  obtain ⟨before, after, split⟩ := List.append_of_mem member
  rw [Base58.decode, split, List.mapM_append, List.mapM_cons, other] at decoded
  cases front : before.mapM Base58.digitOf <;> simp [front] at decoded
/-- No address reads as the placeholder. -/
theorem text_ne_placeholder (address : Address) : address.text ≠ "-" := by
  intro same
  have member : '-' ∈ address.text.toList := by
    rw [same]
    decide
  exact not_mem_text address (by decide) member
theorem addressField_injective {left right : Option Address}
    (same : (left.map Address.text).getD "-" = (right.map Address.text).getD "-") : left = right := by
  cases left with
  | none =>
    cases right with
    | none => rfl
    | some right => exact absurd same.symm (text_ne_placeholder right)
  | some left =>
    cases right with
    | none => exact absurd same (text_ne_placeholder left)
    | some right => exact congrArg some (Address.text_inj.mp same)
theorem hashField_injective {left right : GuardDeploymentAttestation} (leftHex : HexHash left) (rightHex : HexHash right)
    (same : left.reviewedElfSha256.getD "-" = right.reviewedElfSha256.getD "-") :
    left.reviewedElfSha256 = right.reviewedElfSha256 := by
  have hex {text : String} (letters : ∀ letter ∈ text.toList, letter ∈ "0123456789abcdef".toList) : text ≠ "-" := by
    rintro rfl
    exact absurd (letters '-' (by decide)) (by decide)
  cases first : left.reviewedElfSha256 with
  | none =>
    cases second : right.reviewedElfSha256 with
    | none => rfl
    | some text =>
      rw [first, second] at same
      exact absurd same.symm (hex (rightHex text second))
  | some text =>
    cases second : right.reviewedElfSha256 with
    | none =>
      rw [first, second] at same
      exact absurd same (hex (leftHex text first))
    | some other =>
      rw [first, second] at same
      exact congrArg some same
/-- No field holds the separator. -/
theorem separated {attestation : GuardDeploymentAttestation} (hex : HexHash attestation) :
    ∀ field ∈ (digestFields attestation).map String.toList, '|' ∉ field := by
  have addressField (address : Option Address) : '|' ∉ ((address.map Address.text).getD "-").toList := by
    cases address with
    | none => decide
    | some address => exact not_mem_text address (by decide)
  have hashField : '|' ∉ (attestation.reviewedElfSha256.getD "-").toList := by
    cases known : attestation.reviewedElfSha256 with
    | none => decide
    | some text =>
      intro member
      exact absurd (hex text known '|' member) (by decide)
  simp only [digestFields, List.map_cons, List.map_nil, List.forall_mem_cons, List.not_mem_nil, false_implies, implies_true,
    and_true]
  refine ⟨not_mem_text _ (by decide), addressField _, hashField, addressField _, ?_, ?_⟩
  · cases attestation.mutability <;> decide
  · cases attestation.identity <;> decide
theorem digest_eq_iff {a b : GuardDeploymentAttestation} (aHex : HexHash a) (bHex : HexHash b) :
    deploymentAttestationDigest a = deploymentAttestationDigest b ↔ SameDeployment a b := by
  constructor
  · intro same
    have letters := congrArg String.toList same
    rw [deploymentAttestationDigest, deploymentAttestationDigest, String.toList_intercalate, String.toList_intercalate]
      at letters
    have fields := congrArg (List.splitOn '|') letters
    have bar : "|".toList = ['|'] := by decide
    rw [bar, List.splitOn_intercalate '|' (separated aHex) (by simp [digestFields]),
      List.splitOn_intercalate '|' (separated bHex) (by simp [digestFields])] at fields
    have texts := List.map_injective_iff.mpr (fun _ _ => String.toList_inj.mp) fields
    simp only [digestFields, List.cons.injEq, and_true] at texts
    obtain ⟨program, programData, hash, authority, mutability, identity⟩ := texts
    refine ⟨Address.text_inj.mp program, addressField_injective programData, hashField_injective aHex bHex hash,
      addressField_injective authority, ?_, ?_⟩
    · revert mutability
      cases a.mutability <;> cases b.mutability <;> decide
    · revert identity
      cases a.identity <;> cases b.identity <;> decide
  · rintro ⟨program, programData, hash, authority, mutability, identity⟩
    simp only [deploymentAttestationDigest, digestFields, program, programData, hash, authority, mutability, identity]

/-! ### Reading the deployment again -/

structure ReverificationFailure where
  code : EquityGuardFailureCode
  message : Template
  expected : GuardDeploymentAttestation
  actual : Option GuardDeploymentAttestation
/-- Reads the deployment of a protected result again, on an RPC of its own. -/
def reverifyGuardDeployment (kit : Library) (platform : Platform) (result : ProtectedSwap) (rpc : Rpc) :
    Js (Except ReverificationFailure GuardDeploymentAttestation) := do
  match ← resolveDeployment kit platform rpc (some result.programAddress) with
  | .error (code, message) => return .error { code, message, expected := result.deployment, actual := none }
  | .ok current =>
    if ¬ sameGuardDeployment result.deployment current.attestation then
      return .error {
        code := .GUARD_DEPLOYMENT_CHANGED
        message := ["the EquityGuard deployment at ", result.programAddress,
          " is no longer the one this transaction was built against"]
        expected := result.deployment
        actual := some current.attestation }
    else return .ok current.attestation

/-- A result binds the deployment that a read of the RPC resolved. -/
def ResolvedBy (kit : Library) (platform : Platform) (rpc : Rpc) (result : ProtectedSwap) : Prop :=
  ∃ requested deployment, resolveDeployment kit platform rpc requested = .ok (.ok deployment) ∧
    result.programAddress = deployment.programAddress ∧ result.deployment = deployment.attestation ∧
    result.deploymentIdentity = deployment.identity
theorem resolvedBy_of_protected {kit : Library} {platform : Platform} {rpc : Rpc} {input : ProtectJupiterSwapInput}
    {result : ProtectedSwap} (run : protectJupiterSwap kit platform rpc input = .ok (.PROTECTED result)) :
    ResolvedBy kit platform rpc result := by
  obtain ⟨swap, deployment, snapshot, reaches⟩ := reaches_of_protected run
  obtain ⟨composition, _, rfl⟩ := composed_of_protected (reaches.run.symm.trans run)
  exact ⟨input.programAddress, deployment, reaches.deployed, rfl, rfl, rfl⟩

/-- The accounts that are read of an address. -/
def accountsOf (programAddress : Address) : List Address :=
  match findReviewedGuardDeployment programAddress with
  | some reviewed => [programAddress, reviewed.programDataAddress]
  | none => [programAddress]
theorem resolveDeployment_eq_ok {kit : Library} {platform : Platform} {rpc : Rpc} {requested : Option Address}
    {deployment : Deployment} (resolved : resolveDeployment kit platform rpc requested = .ok (.ok deployment)) :
    ∃ answer, rpc.getMultipleAccounts 1 (accountsOf deployment.programAddress) = .ok answer ∧
      attest kit platform deployment.programAddress answer = .ok deployment.attestation ∧
      deployment.identity = deployment.attestation.identity := by
  unfold resolveDeployment at resolved
  obtain ⟨hash, _, resolved⟩ := bind_eq_ok.mp resolved
  dsimp only at resolved
  split at resolved
  · split at resolved <;> cases resolved
  · rename_i programAddress _
    obtain ⟨answer, read, resolved⟩ := bind_eq_ok.mp resolved
    cases attested : attest kit platform programAddress answer with
    | error failure =>
      rw [attested] at resolved
      cases resolved
    | ok attestation =>
      rw [attested] at resolved
      cases resolved
      exact ⟨answer, read, attested, rfl⟩
theorem resolveDeployment_of_read {kit : Library} {platform : Platform} {rpc : Rpc} {programAddress : Address} {hash : String}
    {answer : AccountsAnswer} (genesis : rpc.getGenesisHash = .ok hash)
    (read : rpc.getMultipleAccounts 1 (accountsOf programAddress) = .ok answer) :
    resolveDeployment kit platform rpc (some programAddress) = .ok (match attest kit platform programAddress answer with
      | .error failure => .error (deploymentFailureCode failure.reason,
          failure.message ++ ([" (", (clusterFromGenesisHash hash).text, ")"] : Template))
      | .ok attestation =>
        .ok ⟨programAddress, clusterFromGenesisHash hash, attestation.identity, attestation⟩) := by
  unfold resolveDeployment
  rw [genesis, ok_bind]
  dsimp only
  rw [Option.some_or]
  show (rpc.getMultipleAccounts 1 (accountsOf programAddress) >>= _) = _
  rw [read, ok_bind]
  cases attest kit platform programAddress answer <;> rfl
/-- A second read is passed exactly when what it attests has the digest of the first. -/
theorem reverifyGuardDeployment_eq_ok {kit : Library} {platform : Platform} {rpc : Rpc} {result : ProtectedSwap}
    {hash : String} {answer : AccountsAnswer} (genesis : rpc.getGenesisHash = .ok hash)
    (read : rpc.getMultipleAccounts 1 (accountsOf result.programAddress) = .ok answer)
    {attestation : GuardDeploymentAttestation} :
    reverifyGuardDeployment kit platform result rpc = .ok (.ok attestation) ↔
      attest kit platform result.programAddress answer = .ok attestation ∧
        deploymentAttestationDigest result.deployment = deploymentAttestationDigest attestation := by
  rw [reverifyGuardDeployment, resolveDeployment_of_read genesis read, ok_bind]
  cases attest kit platform result.programAddress answer with
  | error failure => simp [pure_eq_ok]
  | ok current =>
    dsimp only
    by_cases same : deploymentAttestationDigest result.deployment = deploymentAttestationDigest current
    · have passes : ¬ ¬ sameGuardDeployment result.deployment current = true := by simpa [sameGuardDeployment] using same
      rw [if_neg passes, pure_eq_ok, Except.ok.injEq, Except.ok.injEq, Except.ok.injEq]
      constructor
      · rintro rfl
        exact ⟨rfl, same⟩
      · exact And.left
    · have fails : ¬ sameGuardDeployment result.deployment current = true := by simpa [sameGuardDeployment] using same
      rw [if_pos fails, pure_eq_ok, Except.ok.injEq, Except.ok.injEq]
      refine iff_of_false (fun failed => by cases failed) ?_
      rintro ⟨rfl, equal⟩
      exact same equal

/-! ### Two reads of a reviewed deployment -/

theorem reviewed_known {programAddress : Address} {reviewed : ReviewedGuardDeployment}
    (found : findReviewedGuardDeployment programAddress = some reviewed) :
    reviewed.programAddress = programAddress ∧
      ∀ letter ∈ reviewed.elfSha256.toList, letter ∈ "0123456789abcdef".toList := by
  refine ⟨of_decide_eq_true (@List.find?_some _ (fun deployment : ReviewedGuardDeployment =>
    decide (deployment.programAddress = programAddress)) _ _ found), ?_⟩
  have table : REVIEWED_GUARD_DEPLOYMENTS.all (fun reviewed => reviewed.elfSha256.toList.all (fun letter =>
      "0123456789abcdef".toList.contains letter)) = true := by decide
  have spelled := List.all_eq_true.mp table reviewed (List.mem_of_find?_eq_some found)
  exact fun letter member => List.contains_iff_mem.mp (List.all_eq_true.mp spelled letter member)
theorem hexHash_reviewed {programAddress : Address} {reviewed : ReviewedGuardDeployment}
    (found : findReviewedGuardDeployment programAddress = some reviewed) (header : ProgramDataHeader) :
    HexHash (reviewedAttestation reviewed header) := by
  intro text known
  cases known
  exact (reviewed_known found).2
/-- A reviewed result was read from the accounts of its reviewed deployment. -/
theorem reviewed_of_resolved {kit : Library} {platform : Platform} {rpc : Rpc} {result : ProtectedSwap}
    (resolved : ResolvedBy kit platform rpc result) (identity : result.deploymentIdentity = .REVIEWED_BINARY) :
    ∃ reviewed answer, findReviewedGuardDeployment result.programAddress = some reviewed ∧
      rpc.getMultipleAccounts 1 (accountsOf result.programAddress) = .ok answer ∧
      verifyReviewedGuardDeployment platform.sha256 reviewed (viewOf kit answer 0) (viewOf kit answer 1) =
        .ok result.deployment := by
  obtain ⟨requested, deployment, resolved, program, attestation, same⟩ := resolved
  obtain ⟨answer, read, attested, kind⟩ := resolveDeployment_eq_ok resolved
  rw [← program] at read attested
  rw [← attestation] at attested kind
  rw [same, kind] at identity
  cases found : findReviewedGuardDeployment result.programAddress with
  | none =>
    rw [attest, found, then_eq_ok, pure_eq_ok] at attested
    rw [← Except.ok.inj attested.2] at identity
    cases identity
  | some reviewed =>
    rw [attest, found] at attested
    exact ⟨reviewed, answer, rfl, read, attested⟩

/-- Two reads of the accounts hold one program: its place, its bytes and who may change it. -/
structure SameProgram (reviewed : ReviewedGuardDeployment) (program data program' data' : LoaderAccountView) : Prop where
  place : program.data.drop 4 = reviewed.programDataAddress.key.bytes ∧ program'.data.drop 4 = program.data.drop 4
  elf : (elfOf reviewed.elfLength data.data).length = reviewed.elfLength ∧
    elfOf reviewed.elfLength data'.data = elfOf reviewed.elfLength data.data
  padding : ∀ byte ∈ paddingOf reviewed.elfLength data.data ++ paddingOf reviewed.elfLength data'.data, byte = 0
  authority : ∃ header header', decodeProgramDataHeader data.data = some header ∧
    decodeProgramDataHeader data'.data = some header' ∧ header'.upgradeAuthority = header.upgradeAuthority

section
variable (kit : Library) (platform : Platform) (reviewed : ReviewedGuardDeployment)

/-- The accounts of an answer are the reviewed program, attested so. -/
def Passes (answer : AccountsAnswer) (attestation : GuardDeploymentAttestation) : Prop :=
  verifyReviewedGuardDeployment platform.sha256 reviewed (viewOf kit answer 0) (viewOf kit answer 1) = .ok attestation
/-- The ELFs of two answers have two digests, if they differ. -/
def CollisionFree (first second : AccountsAnswer) : Prop :=
  ∀ data data', viewOf kit first 1 = some data → viewOf kit second 1 = some data' →
    platform.sha256 (elfOf reviewed.elfLength data.data) = platform.sha256 (elfOf reviewed.elfLength data'.data) →
    elfOf reviewed.elfLength data.data = elfOf reviewed.elfLength data'.data
/-- The accounts of both answers hold one program. -/
def HoldSame (first second : AccountsAnswer) : Prop :=
  ∃ program data program' data', viewOf kit first 0 = some program ∧ viewOf kit first 1 = some data ∧
    viewOf kit second 0 = some program' ∧ viewOf kit second 1 = some data' ∧
    SameProgram reviewed program data program' data'

end

theorem sameDeployment_reviewed {reviewed : ReviewedGuardDeployment} {header header' : ProgramDataHeader} :
    SameDeployment (reviewedAttestation reviewed header) (reviewedAttestation reviewed header') ↔
      header.upgradeAuthority = header'.upgradeAuthority ∧ header.mutability = header'.mutability :=
  ⟨fun same => ⟨same.upgradeAuthority, same.mutability⟩, fun same => ⟨rfl, rfl, rfl, same.1, same.2, rfl⟩⟩
/-- A reviewed result is passed again exactly when the accounts are still the reviewed program, under the same authority. -/
theorem reverified_iff {kit : Library} {platform : Platform} {result : ProtectedSwap} {reviewed : ReviewedGuardDeployment}
    (found : findReviewedGuardDeployment result.programAddress = some reviewed) {first second : AccountsAnswer}
    (passed : Passes kit platform reviewed first result.deployment) {later : Rpc} {hash : String}
    (genesis : later.getGenesisHash = .ok hash)
    (read : later.getMultipleAccounts 1 (accountsOf result.programAddress) = .ok second)
    {attestation : GuardDeploymentAttestation} :
    reverifyGuardDeployment kit platform result later = .ok (.ok attestation) ↔
      Passes kit platform reviewed second attestation ∧
        attestation.upgradeAuthority = result.deployment.upgradeAuthority ∧
        attestation.mutability = result.deployment.mutability := by
  rw [reverifyGuardDeployment_eq_ok genesis read, attest, found]
  refine and_congr_right fun again => ?_
  obtain ⟨_, _, header, _, _, _, _, attested⟩ := verifyReviewedGuardDeployment_eq_ok.mp passed
  obtain ⟨_, _, header', _, _, _, _, rfl⟩ := verifyReviewedGuardDeployment_eq_ok.mp again
  rw [attested, digest_eq_iff (hexHash_reviewed found header) (hexHash_reviewed found header'), sameDeployment_reviewed]
  exact and_congr eq_comm eq_comm
theorem holdSame_of_passes {kit : Library} {platform : Platform} {reviewed : ReviewedGuardDeployment}
    {first second : AccountsAnswer} {left right : GuardDeploymentAttestation}
    (passed : Passes kit platform reviewed first left) (again : Passes kit platform reviewed second right)
    (authority : right.upgradeAuthority = left.upgradeAuthority)
    (distinct : CollisionFree kit platform reviewed first second) :
    HoldSame kit reviewed first second := by
  obtain ⟨program, data, header, programRead, dataRead, holds, decoded, rfl⟩ :=
    verifyReviewedGuardDeployment_eq_ok.mp passed
  obtain ⟨program', data', header', programRead', dataRead', holds', decoded', rfl⟩ :=
    verifyReviewedGuardDeployment_eq_ok.mp again
  refine ⟨program, data, program', data', programRead, dataRead, programRead', dataRead', ?_⟩
  have digests : platform.sha256 (elfOf reviewed.elfLength data.data) =
      platform.sha256 (elfOf reviewed.elfLength data'.data) :=
    Chunk.ext (Function.LeftInverse.injective Hex.bufferFromHex_hexOf (holds.elf.trans holds'.elf.symm))
  refine ⟨⟨holds.pointer, holds'.pointer.trans holds.pointer.symm⟩, ⟨?_, ?_⟩, ?_,
    ⟨header, header', decoded, decoded', authority⟩⟩
  · have size := holds.dataSize
    rw [elfOf, List.length_take, List.length_drop]
    omega
  · exact (distinct data data' dataRead dataRead' digests).symm
  · intro byte member
    rcases List.mem_append.mp member with before | after
    · exact holds.padding byte before
    · exact holds'.padding byte after

/-- A protected result of a reviewed program is verified again exactly when the accounts still are that program, under the
    authority they had. Then both reads hold one program; and the digest compared tells apart all that it names. -/
theorem reverification_means_same_program {kit : Library} {platform : Platform} {rpc : Rpc} {result : ProtectedSwap}
    (built : (∃ input, protectJupiterSwap kit platform rpc input = .ok (.PROTECTED result)) ∨
      ResolvedBy kit platform rpc result) (identity : result.deploymentIdentity = .REVIEWED_BINARY) :
    (∃ reviewed first, findReviewedGuardDeployment result.programAddress = some reviewed ∧
      rpc.getMultipleAccounts 1 (accountsOf result.programAddress) = .ok first ∧
      Passes kit platform reviewed first result.deployment ∧
      ∀ (later : Rpc) (hash : String) (second : AccountsAnswer), later.getGenesisHash = .ok hash →
        later.getMultipleAccounts 1 (accountsOf result.programAddress) = .ok second →
        ((∃ attestation, reverifyGuardDeployment kit platform result later = .ok (.ok attestation)) ↔
          ∃ attestation, Passes kit platform reviewed second attestation ∧
            attestation.upgradeAuthority = result.deployment.upgradeAuthority ∧
            attestation.mutability = result.deployment.mutability) ∧
        (CollisionFree kit platform reviewed first second →
          (∃ attestation, reverifyGuardDeployment kit platform result later = .ok (.ok attestation)) →
          HoldSame kit reviewed first second)) ∧
    ∀ a b, HexHash a → HexHash b →
      (deploymentAttestationDigest a = deploymentAttestationDigest b ↔ SameDeployment a b) := by
  have resolved : ResolvedBy kit platform rpc result := by
    rcases built with ⟨input, run⟩ | resolved
    · exact resolvedBy_of_protected run
    · exact resolved
  obtain ⟨reviewed, first, found, read, passed⟩ := reviewed_of_resolved resolved identity
  refine ⟨⟨reviewed, first, found, read, passed, ?_⟩, fun a b => digest_eq_iff⟩
  intro later hash second genesis again
  constructor
  · exact exists_congr fun attestation => reverified_iff found passed genesis again
  · rintro distinct ⟨attestation, verified⟩
    obtain ⟨passes, authority, _⟩ := (reverified_iff found passed genesis again).mp verified
    exact holdSame_of_passes passed passes authority distinct

/-! ### One deployment, read twice -/

def devnetPlatform : Platform := { ClientJupiter.buyPlatform with sha256 := deployedSha256 }
def devnetAnswer : AccountsAnswer := ⟨1, [programView, dataView 1].map (fun view =>
  some ⟨view.executable, view.owner, Base64.encode view.data⟩)⟩
/-- A devnet that always answers with these accounts. -/
def devnetRpc : Rpc where
  getGenesisHash := .ok "EtWTRABZaYq6iMfeYKouRu166VU2xqa1wcaWoxPkrZBG"
  getMultipleAccounts _ _ := .ok devnetAnswer
theorem sevens_size : (List.replicate 32 (7 : UInt8)).length = 32 := List.length_replicate
def devnetHeader : ProgramDataHeader := ⟨0, some (.ofKey ⟨List.replicate 32 7, sevens_size⟩), .UPGRADEABLE⟩
def devnetDeployment : Deployment where
  programAddress := EQUITY_GUARD_DEVNET_PROGRAM_ID
  cluster := .devnet
  identity := .REVIEWED_BINARY
  attestation := reviewedAttestation reviewedDevnet devnetHeader
theorem devnet_found : findReviewedGuardDeployment EQUITY_GUARD_DEVNET_PROGRAM_ID = some reviewedDevnet := by
  rw [findReviewedGuardDeployment, REVIEWED_GUARD_DEPLOYMENTS]
  exact List.find?_cons_of_pos (decide_eq_true rfl)
theorem devnet_views :
    viewOf buyKit devnetAnswer 0 = some programView ∧ viewOf buyKit devnetAnswer 1 = some (dataView 1) := by
  have decoded (view : LoaderAccountView) : some (LoaderAccountView.mk view.executable view.owner
      (buyKit.bufferFromBase64 (Base64.encode view.data))) = some view := by rw [buyKit_reads]
  exact ⟨decoded programView, decoded (dataView 1)⟩
theorem devnet_passes : Passes buyKit devnetPlatform reviewedDevnet devnetAnswer devnetDeployment.attestation := by
  rw [Passes, devnet_views.1, devnet_views.2]
  have size := (holds_deployed 1).dataSize
  have long : PROGRAMDATA_HEADER_LEN ≤ (dataView 1).data.length := by omega
  have authority : addressAt (dataView 1).data PROGRAMDATA_AUTHORITY_OFFSET long =
      .ofKey ⟨List.replicate 32 7, List.length_replicate⟩ := by
    refine (addressAt_eq_iff long _).mpr ?_
    rw [Address.key_ofKey]
    rfl
  refine verifyReviewedGuardDeployment_eq_ok.mpr
    ⟨programView, dataView 1, devnetHeader, rfl, rfl, holds_deployed 1, ?_, rfl⟩
  rw [decodeProgramDataHeader_eq_some long (holds_deployed 1).dataState, authority]
  have usable : Address.ofKey ⟨List.replicate 32 7, List.length_replicate⟩ ≠ ZERO_AUTHORITY := by decide
  have mutability : mutabilityOf (some (Address.ofKey ⟨List.replicate 32 7, List.length_replicate⟩)) = .UPGRADEABLE := by
    rw [mutabilityOf, if_neg usable]
  exact ⟨rfl, mutability.symm, .inr ⟨deployed_option 1, rfl⟩⟩
theorem devnet_attested :
    attest buyKit devnetPlatform EQUITY_GUARD_DEVNET_PROGRAM_ID devnetAnswer = .ok devnetDeployment.attestation := by
  rw [attest, devnet_found]
  exact devnet_passes
theorem devnet_resolved : resolveDeployment buyKit devnetPlatform devnetRpc (some EQUITY_GUARD_DEVNET_PROGRAM_ID) =
    .ok (.ok devnetDeployment) := by
  have cluster : clusterFromGenesisHash "EtWTRABZaYq6iMfeYKouRu166VU2xqa1wcaWoxPkrZBG" = .devnet := by decide
  rw [resolveDeployment_of_read rfl rfl, devnet_attested, cluster]
  rfl
/-- A second read of the same accounts is passed. -/
theorem reverification_means_same_program_devnet : ∃ result attestation,
    result.deploymentIdentity = .REVIEWED_BINARY ∧
    reverifyGuardDeployment buyKit devnetPlatform result devnetRpc = .ok (.ok attestation) ∧
    HoldSame buyKit reviewedDevnet devnetAnswer devnetAnswer := by
  obtain ⟨composition, _⟩ := buy_composed
  let result := resultOf buyKit (buySwap buyBudget) devnetDeployment buySnapshot composition
  obtain ⟨⟨reviewed, first, found, read, passed, again⟩, _⟩ := @reverification_means_same_program buyKit devnetPlatform
    devnetRpc result (.inr ⟨_, devnetDeployment, devnet_resolved, rfl, rfl, rfl⟩) rfl
  cases devnet_found.symm.trans found
  cases read
  obtain ⟨exactly, same⟩ := again devnetRpc _ devnetAnswer rfl rfl
  obtain ⟨attestation, verified⟩ := exactly.mpr ⟨_, devnet_passes, rfl, rfl⟩
  refine ⟨result, attestation, rfl, verified, same ?_ ⟨attestation, verified⟩⟩
  intro data data' left right _
  cases left.symm.trans right
  rfl

end EquityGuard.Reverification
