import EquityGuard.EndToEnd
import EquityGuard.Hex

/-!
Checking a protected transaction again, after whoever was to sign it has had it in hand.
-/
namespace EquityGuard.SwapVerify
open EquityGuard.Addresses EquityGuard.Bytes EquityGuard.Client EquityGuard.ClientJupiter EquityGuard.ClientTrade
open EquityGuard.Commitments EquityGuard.EndToEnd EquityGuard.Errors EquityGuard.Hex EquityGuard.Kit
open EquityGuard.SwapCompose EquityGuard.SwapProtect EquityGuard.SwapRefusals EquityGuard.Transaction
open EquityGuard.Jupiter (Platform)

inductive VerificationVerdict where
  | program (error : EquityGuardError)
  | UNRESOLVABLE_TRANSACTION
  | GUARD_INSTRUCTION_CHANGED
deriving DecidableEq

/-- The presented and the built transaction, read with the tables of the build. -/
def resolveBoth (kit : Library) (result : ProtectedSwap) (wireBytes : List UInt8) :
    Js (List CommittedInstruction × List CommittedInstruction) := do
  let instructions ← resolveWireTransaction kit wireBytes result.lookupTables
  let built ← resolveWireTransaction kit result.transaction result.lookupTables
  return (instructions, built)
/-- Why a transaction is no longer the one that was built, if it is not. -/
def verifyProtectedSwap (kit : Library) (platform : Platform) (result : ProtectedSwap) (wireBytes : List UInt8) :
    Js (Option VerificationVerdict) :=
  match resolveBoth kit result wireBytes with
  | .error (.CompositionError _ _) => .ok (some .UNRESOLVABLE_TRANSACTION)
  | .error error => .error error
  | .ok (instructions, built) =>
    if ¬ sameInstructions (instructions.take 1) (built.take 1) then .ok (some .GUARD_INSTRUCTION_CHANGED)
    else do
      let verdict ← checkGuardedJupiterTransaction platform instructions 0 result.adapterKind result.protectedMint
        (bufferFromHex result.binding.suffixCommitmentHex)
      return verdict.map .program

theorem verifyProtectedSwap_eq_ok {kit : Library} {platform : Platform} {result : ProtectedSwap}
    {wireBytes : List UInt8} :
    verifyProtectedSwap kit platform result wireBytes = .ok none ↔
      ∃ instructions built,
        resolveWireTransaction kit wireBytes result.lookupTables = .ok instructions ∧
        resolveWireTransaction kit result.transaction result.lookupTables = .ok built ∧
        instructions.take 1 = built.take 1 ∧
        checkGuardedJupiterTransaction platform instructions 0 result.adapterKind result.protectedMint
          (bufferFromHex result.binding.suffixCommitmentHex) = .ok none := by
  unfold verifyProtectedSwap resolveBoth
  cases presented : resolveWireTransaction kit wireBytes result.lookupTables with
  | error error => cases error <;> simp
  | ok instructions =>
    cases original : resolveWireTransaction kit result.transaction result.lookupTables with
    | error error => cases error <;> simp
    | ok built =>
      rw [ok_bind, ok_bind]
      dsimp only [pure_eq_ok]
      by_cases same : instructions.take 1 = built.take 1
      · have guarded : ¬ ¬ sameInstructions (instructions.take 1) (built.take 1) := by
          simpa [sameInstructions] using same
        rw [if_neg guarded]
        constructor
        · intro verified
          obtain ⟨verdict, checked, mapped⟩ := bind_eq_ok.mp verified
          have none_eq : verdict = none := by simpa using mapped
          exact ⟨instructions, built, rfl, rfl, same, none_eq ▸ checked⟩
        · rintro ⟨_, _, ⟨⟩, ⟨⟩, _, checked⟩
          rw [checked]
          rfl
      · have guarded : ¬ sameInstructions (instructions.take 1) (built.take 1) := by
          simpa [sameInstructions] using same
        rw [if_pos guarded]
        constructor
        · intro verified
          simp at verified
        · rintro ⟨_, _, ⟨⟩, ⟨⟩, still, _⟩
          exact absurd still same
/-- No two suffixes at hand that are encoded differently have one digest. -/
def CollisionFree (sha256 : List UInt8 → Chunk 32) (left right : List CommittedInstruction) : Prop :=
  ∀ leftBytes rightBytes, jupiterSuffixCommitmentPreimage left = .ok leftBytes →
    jupiterSuffixCommitmentPreimage right = .ok rightBytes → sha256 leftBytes = sha256 rightBytes →
    leftBytes = rightBytes
theorem suffix_eq_of_commitments {sha256 : List UInt8 → Chunk 32} {left right : List CommittedInstruction}
    {commitment : List UInt8} (collisionFree : CollisionFree sha256 left right)
    (leftHashed : jupiterSuffixCommitment sha256 left = .ok commitment)
    (rightHashed : jupiterSuffixCommitment sha256 right = .ok commitment) : left = right := by
  obtain ⟨leftBytes, leftEncoded, leftDigest⟩ := bind_eq_ok.mp leftHashed
  obtain ⟨rightBytes, rightEncoded, rightDigest⟩ := bind_eq_ok.mp rightHashed
  have digests : sha256 leftBytes = sha256 rightBytes :=
    Chunk.ext ((Except.ok.inj leftDigest).trans (Except.ok.inj rightDigest).symm)
  have bytes := collisionFree leftBytes rightBytes leftEncoded rightEncoded digests
  rw [← bytes] at rightEncoded
  have programs := jupiter_suffix_encoded_injective (jupiterSuffixCommitmentPreimage_eq_ok.mp leftEncoded)
    (jupiterSuffixCommitmentPreimage_eq_ok.mp rightEncoded)
  exact List.map_injective_iff.mpr CommittedInstruction.toProgram_injective programs

/-- The transaction of a protected result resolves, and passes the check its binding records. -/
theorem checked_of_protected {kit : Library} {platform : Platform} {rpc : Rpc} {input : ProtectJupiterSwapInput}
    {result : ProtectedSwap} (run : protectJupiterSwap kit platform rpc input = .ok (.PROTECTED result)) :
    ∃ built, resolveWireTransaction kit result.transaction result.lookupTables = .ok built ∧
      checkGuardedJupiterTransaction platform built 0 result.adapterKind result.protectedMint
        (bufferFromHex result.binding.suffixCommitmentHex) = .ok none := by
  obtain ⟨swap, deployment, snapshot, reaches⟩ := reaches_of_protected run
  obtain ⟨composition, composed, rfl⟩ := composed_of_protected (reaches.run.symm.trans run)
  obtain ⟨execution, expectation⟩ := reaches.expectation
  rw [← expectation] at composed
  obtain ⟨suffix, view, commitment, _, hex, _, resolved, _, checked⟩ := composeGuardedJupiterTrade_eq_ok composed
  refine ⟨view, resolved, ?_⟩
  show checkGuardedJupiterTransaction platform view 0 swap.adapterKind swap.protectedMint
    (bufferFromHex composition.binding.suffixCommitmentHex) = .ok none
  rw [hex, bufferFromHex_hexOf]
  exact checked
/-- What was built verifies, and only what resolves to the same instructions does. -/
theorem verifyProtectedSwap_correct {kit : Library} {platform : Platform} {rpc : Rpc} {input : ProtectJupiterSwapInput}
    {result : ProtectedSwap} (run : protectJupiterSwap kit platform rpc input = .ok (.PROTECTED result)) :
    verifyProtectedSwap kit platform result result.transaction = .ok none ∧
    ∀ wireBytes, verifyProtectedSwap kit platform result wireBytes = .ok none →
      (∀ instructions built, resolveWireTransaction kit wireBytes result.lookupTables = .ok instructions →
        resolveWireTransaction kit result.transaction result.lookupTables = .ok built →
        CollisionFree platform.sha256 (instructions.drop 1) (built.drop 1)) →
      ∃ instructions, resolveWireTransaction kit wireBytes result.lookupTables = .ok instructions ∧
        resolveWireTransaction kit result.transaction result.lookupTables = .ok instructions := by
  obtain ⟨built, original, builtChecked⟩ := checked_of_protected run
  constructor
  · exact verifyProtectedSwap_eq_ok.mpr ⟨built, built, original, original, rfl, builtChecked⟩
  · intro wireBytes verified collisionFree
    obtain ⟨instructions, again, presented, originally, guards, checked⟩ := verifyProtectedSwap_eq_ok.mp verified
    cases original.symm.trans originally
    have suffixes : instructions.drop 1 = built.drop 1 :=
      suffix_eq_of_commitments (collisionFree instructions built presented original)
        (suffixCommitment_of_checked checked) (suffixCommitment_of_checked builtChecked)
    have whole : instructions = built := by
      rw [← List.take_append_drop 1 instructions, guards, suffixes, List.take_append_drop]
    exact ⟨instructions, presented, whole ▸ original⟩
theorem verifyProtectedSwap_correct_buy : ∃ result,
    protectJupiterSwap buyKit buyPlatform buyLive (buyInput (buyBuild buyBudget)) = .ok (.PROTECTED result) ∧
    verifyProtectedSwap buyKit buyPlatform result result.transaction = .ok none ∧
    ∃ instructions, resolveWireTransaction buyKit result.transaction result.lookupTables = .ok instructions := by
  obtain ⟨result, run⟩ := buy_protected
  obtain ⟨verified, detects⟩ := verifyProtectedSwap_correct run
  refine ⟨result, run, verified, ?_⟩
  obtain ⟨instructions, resolved, _⟩ := detects result.transaction verified (by
    intro instructions built presented original left right leftEncoded rightEncoded _
    cases presented.symm.trans original
    exact Except.ok.inj (leftEncoded.symm.trans rightEncoded))
  exact ⟨instructions, resolved⟩

/-! ### A verdict on any bytes -/

/-- The kit reads every count of a message as a compact `u16`. -/
def CompactCounts (kit : Library) : Prop :=
  ∀ bytes compiled, kit.decodeMessage bytes = some compiled → compiled.instructions.length < 2 ^ 16 ∧
    ∀ instruction ∈ compiled.instructions,
      (instruction.accountIndices.getD []).length < 2 ^ 16 ∧ (instruction.data.getD []).length < 2 ^ 16
/-- The kit can decode the wire, and the message inside it. -/
def Decodes (kit : Library) (wireBytes : List UInt8) : Prop :=
  ∃ bytes compiled, kit.decodeTransaction wireBytes = some bytes ∧ kit.decodeMessage bytes = some compiled
instance (kit : Library) (wireBytes : List UInt8) : Decidable (Decodes kit wireBytes) :=
  decidable_of_iff (((kit.decodeTransaction wireBytes).bind kit.decodeMessage).isSome = true) (by
    simp only [Decodes, Option.isSome_iff_exists, Option.bind_eq_some_iff]
    tauto)
/-- The wire holds a v0 message all of whose accounts resolve. -/
def Resolves (kit : Library) (lookupTables : LookupTables) (wireBytes : List UInt8) : Prop :=
  ∃ instructions, resolveWireTransaction kit wireBytes lookupTables = .ok instructions
/-- Checking the wire ends in a verdict, which is that it cannot be resolved exactly when it cannot. -/
def GivesVerdict (kit : Library) (platform : Platform) (result : ProtectedSwap) (wireBytes : List UInt8) : Prop :=
  ∃ verdict, verifyProtectedSwap kit platform result wireBytes = .ok verdict ∧
    (verdict = some .UNRESOLVABLE_TRANSACTION ↔ ¬ Resolves kit result.lookupTables wireBytes)

/-- What the kit cannot decode, it throws on. -/
theorem resolveWireTransaction_undecoded {kit : Library} {wireBytes : List UInt8} (undecoded : ¬ Decodes kit wireBytes)
    (lookupTables : LookupTables) : resolveWireTransaction kit wireBytes lookupTables = .error .SolanaError := by
  unfold resolveWireTransaction
  cases wireRead : kit.decodeTransaction wireBytes with
  | none => rfl
  | some bytes =>
    rw [orSolanaError, ok_or_some, ok_bind]
    cases messageRead : kit.decodeMessage bytes with
    | none => rfl
    | some compiled => exact absurd ⟨bytes, compiled, wireRead, messageRead⟩ undecoded
/-- What the kit decodes resolves, or is refused as unresolvable. -/
theorem resolveWireTransaction_decoded {kit : Library} {wireBytes : List UInt8} (decoded : Decodes kit wireBytes)
    (lookupTables : LookupTables) :
    Throws (fun error => ∃ message, error = unresolvable message) (resolveWireTransaction kit wireBytes lookupTables) := by
  obtain ⟨bytes, compiled, wireRead, messageRead⟩ := decoded
  unfold resolveWireTransaction
  rw [wireRead, orSolanaError, ok_or_some, ok_bind, messageRead, orSolanaError, ok_or_some, ok_bind]
  have lookup (lookups : List AddressTableLookup) (indexes : AddressTableLookup → List Nat) (isWritable : Bool) :
      Throws (fun error => ∃ message, error = unresolvable message) (lookedUp lookupTables lookups indexes isWritable) :=
    .bind (.mapM fun _ _ => .mapM fun _ _ => .bind (.ok_or fun _ => ⟨_, rfl⟩) fun _ _ => .ok _) fun _ _ => .ok _
  exact .bind (.refuse_if fun _ => ⟨_, rfl⟩) fun _ _ =>
    .bind (lookup _ _ _) fun _ _ => .bind (lookup _ _ _) fun _ _ => .mapM fun _ _ =>
    .bind (.ok_or fun _ => ⟨_, rfl⟩) fun _ _ => .bind (.mapM fun _ _ => .ok_or fun _ => ⟨_, rfl⟩) fun _ _ => .ok _
/-- The instructions of a wire are small enough to commit to. -/
theorem encodable_of_resolved {kit : Library} (compact : CompactCounts kit) {wireBytes : List UInt8}
    {lookupTables : LookupTables} {instructions : List CommittedInstruction}
    (resolved : resolveWireTransaction kit wireBytes lookupTables = .ok instructions) :
    instructions.length < 2 ^ 32 ∧ ∀ instruction ∈ instructions, Encodable instruction.toProgram := by
  unfold resolveWireTransaction at resolved
  obtain ⟨bytes, _, resolved⟩ := bind_eq_ok.mp resolved
  obtain ⟨compiled, messageRead, resolved⟩ := bind_eq_ok.mp resolved
  obtain ⟨_, _, resolved⟩ := bind_eq_ok.mp resolved
  obtain ⟨writable, _, resolved⟩ := bind_eq_ok.mp resolved
  obtain ⟨readonly, _, resolved⟩ := bind_eq_ok.mp resolved
  have sizes : instructions.map (fun instruction => (instruction.accounts.length, instruction.data.length)) =
      compiled.instructions.map (fun instruction =>
        ((instruction.accountIndices.getD []).length, (instruction.data.getD []).length)) := by
    refine mapM_map ?_ resolved
    intro instruction value converted
    obtain ⟨program, _, converted⟩ := bind_eq_ok.mp converted
    obtain ⟨accounts, read, converted⟩ := bind_eq_ok.mp converted
    cases converted
    exact Prod.ext (mapM_length read) rfl
  obtain ⟨count, each⟩ := compact bytes compiled (ok_or_eq_ok.mp messageRead)
  refine ⟨by rw [mapM_length resolved]; omega, ?_⟩
  intro instruction member
  have sized := List.mem_map_of_mem
    (f := fun instruction : CommittedInstruction => (instruction.accounts.length, instruction.data.length)) member
  rw [sizes, List.mem_map] at sized
  obtain ⟨source, listed, same⟩ := sized
  obtain ⟨accounts, data⟩ := each source listed
  rw [Prod.mk.injEq] at same
  refine (encodable_toProgram instruction).mpr ⟨?_, ?_⟩
  · rw [← same.1]
    omega
  · rw [← same.2]
    omega

theorem checkGuardedJupiterTransaction_returns (platform : Platform) {instructions : List CommittedInstruction}
    (count : instructions.length < 2 ^ 32) (encodable : ∀ instruction ∈ instructions, Encodable instruction.toProgram)
    (guardIndex : Binary64.Number) (kind : JupiterAdapterKind) (protectedMint : Address) (commitment : List UInt8) :
    ∃ verdict, checkGuardedJupiterTransaction platform instructions guardIndex kind protectedMint commitment = .ok verdict := by
  have hashed : ∃ digest, jupiterSuffixCommitment platform.sha256 (instructions.drop 1) = .ok digest := by
    have fits : (instructions.drop 1).length < 2 ^ 32 ∧
        ∀ instruction ∈ instructions.drop 1, Encodable instruction.toProgram :=
      ⟨by rw [List.length_drop]; omega, fun instruction member => encodable instruction (List.mem_of_mem_drop member)⟩
    rw [jupiterSuffixCommitment, jupiterSuffixCommitmentPreimage_eq, if_pos fits]
    exact ⟨_, rfl⟩
  obtain ⟨digest, hashed⟩ := hashed
  obtain ⟨check, checked⟩ := checkJupiterSuffix_returns platform (instructions.drop 1) kind protectedMint
  unfold checkGuardedJupiterTransaction
  by_cases first : ¬ Binary64.Number.strictEq guardIndex 0
  · exact ⟨_, if_pos first⟩
  · rw [if_neg first]
    dsimp only
    rw [checked, ok_bind]
    cases check.verdict with
    | some verdict => exact ⟨_, rfl⟩
    | none =>
      dsimp only
      rw [hashed, ok_bind]
      split <;> exact ⟨_, rfl⟩
/-- A verdict comes back exactly when the kit can decode the wire. -/
theorem verdict_exactly_when_decoded {kit : Library} (compact : CompactCounts kit) {platform : Platform} {rpc : Rpc}
    {input : ProtectJupiterSwapInput} {result : ProtectedSwap}
    (run : protectJupiterSwap kit platform rpc input = .ok (.PROTECTED result)) (wireBytes : List UInt8) :
    GivesVerdict kit platform result wireBytes ↔ Decodes kit wireBytes := by
  obtain ⟨built, original, _⟩ := checked_of_protected run
  constructor
  · rintro ⟨verdict, verified, _⟩
    by_contra undecoded
    rw [verifyProtectedSwap, resolveBoth, resolveWireTransaction_undecoded undecoded] at verified
    cases verified
  · intro decoded
    cases presented : resolveWireTransaction kit wireBytes result.lookupTables with
    | error error =>
      obtain ⟨message, rfl⟩ := resolveWireTransaction_decoded decoded _ error presented
      refine ⟨some .UNRESOLVABLE_TRANSACTION, by rw [verifyProtectedSwap, resolveBoth, presented]; rfl, ?_⟩
      refine iff_of_true rfl ?_
      rintro ⟨instructions, resolved⟩
      rw [presented] at resolved
      cases resolved
    | ok instructions =>
      obtain ⟨count, encodable⟩ := encodable_of_resolved compact presented
      have resolves : Resolves kit result.lookupTables wireBytes := ⟨instructions, presented⟩
      rw [GivesVerdict, verifyProtectedSwap, resolveBoth, presented, ok_bind, original, ok_bind, pure_eq_ok]
      dsimp only
      by_cases changed : ¬ sameInstructions (instructions.take 1) (built.take 1)
      · refine ⟨some .GUARD_INSTRUCTION_CHANGED, if_pos changed, ?_⟩
        exact iff_of_false (by decide) (not_not.mpr resolves)
      · obtain ⟨verdict, checked⟩ := checkGuardedJupiterTransaction_returns platform count encodable 0 result.adapterKind
          result.protectedMint (bufferFromHex result.binding.suffixCommitmentHex)
        rw [if_neg changed, checked, ok_bind]
        refine ⟨_, rfl, iff_of_false ?_ (not_not.mpr resolves)⟩
        cases verdict <;> exact nofun

theorem buy_compact : CompactCounts buyKit := by
  intro bytes compiled decoded
  have known : bytes = buyMessage := by
    by_contra other
    rw [show buyKit.decodeMessage bytes = none from if_neg other] at decoded
    cases decoded
  rw [known, buyKit_decodes, Option.some.injEq] at decoded
  subst decoded
  decide
/-- The buy that was built, read by its own wallet. -/
theorem verdict_exactly_when_decoded_buy : ∃ result,
    protectJupiterSwap buyKit buyPlatform buyLive (buyInput (buyBuild buyBudget)) = .ok (.PROTECTED result) ∧
    GivesVerdict buyKit buyPlatform result (1 :: (List.replicate 64 0 ++ buyMessage)) := by
  obtain ⟨result, run⟩ := buy_protected
  exact ⟨result, run, (verdict_exactly_when_decoded buy_compact run _).mpr ⟨_, _, buyKit_unwraps, buyKit_decodes⟩⟩
/-- On no bytes at all the check throws what the kit throws. -/
theorem verify_throws_on_nothing : ∃ result,
    protectJupiterSwap buyKit buyPlatform buyLive (buyInput (buyBuild buyBudget)) = .ok (.PROTECTED result) ∧
    verifyProtectedSwap buyKit buyPlatform result [] = .error .SolanaError ∧
    ¬ GivesVerdict buyKit buyPlatform result [] := by
  obtain ⟨result, run⟩ := buy_protected
  have undecoded : ¬ Decodes buyKit [] := by
    rintro ⟨bytes, _, unwrapped, _⟩
    cases unwrapped
  have thrown : verifyProtectedSwap buyKit buyPlatform result [] = .error .SolanaError := by
    rw [verifyProtectedSwap, resolveBoth, resolveWireTransaction_undecoded undecoded]
    rfl
  refine ⟨result, run, thrown, ?_⟩
  rintro ⟨verdict, verified, _⟩
  rw [thrown] at verified
  cases verified

end EquityGuard.SwapVerify
