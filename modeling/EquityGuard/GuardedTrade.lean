import EquityGuard.Exposure
import EquityGuard.SwapRefusals

/-!
The guarded trades that the client builds. A guard stands in the transaction whose flags
it commits to; since its accounts never depend on its payload, putting the commitment in
leaves what was committed to.
-/
namespace EquityGuard.GuardedTrade
open EquityGuard.Addresses EquityGuard.Bytes EquityGuard.Client EquityGuard.ClientAbi EquityGuard.ClientJupiter
open EquityGuard.ClientTrade EquityGuard.Commitments EquityGuard.Errors EquityGuard.Exposure
open EquityGuard.GuardedTransfer (flagged flagged_congr getAssertSafeExecutionV2Instruction_eq_ok)
open EquityGuard.Kit EquityGuard.Transaction
open EquityGuard.Instruction (AssertSafeExecutionV2)
open EquityGuard.Jupiter (Platform)

/-! ### The guard's fixed point -/

/-- Everything a finished trade promises: the guard carries the commitment to the suffix that was checked, and the
    transaction with the finished guard exposes exactly that suffix and verifies. -/
structure Finished (platform : Platform) (feePayer protectedMint : Address) (kind : JupiterAdapterKind)
    (expectation : AssertSafeExecutionRequest) (suffix : List Kit.Instruction) (provisional : List CommittedInstruction)
    (digest : List UInt8) (trade : GuardedJupiterTrade) (final : List CommittedInstruction)
    (request : AssertSafeExecutionV2) : Prop where
  commitment : trade.commitment = digest
  instructions : trade.instructions = trade.guard :: suffix
  exposed : sysvarView trade.instructions feePayer = .ok final
  flags : final.map CommittedInstruction.accounts = provisional.map CommittedInstruction.accounts
  unchanged : final.drop 1 = provisional.drop 1
  committedSuffix : trade.committedSuffix = final.drop 1
  recheck : checkGuardedJupiterTransaction platform final 0 kind protectedMint digest = .ok none
  unpacked : AssertSafeExecutionV2.unpack trade.guard.data = .ok request
  carries : ofRequest request = ⟨expectation, protectedMint.text, kind.number, digest⟩
/-- Once the suffix has passed, putting its commitment in the place of the zeros changes no flag and no byte of the suffix:
    the trade is finished, or its suffix is too long for a commitment. -/
theorem guard_fixed_point (platform : Platform) (programAddress feePayer protectedMint : Address) (kind : JupiterAdapterKind)
    (expectation : AssertSafeExecutionRequest) (suffix : List Kit.Instruction) (placeholder : Kit.Instruction)
    (provisional : List CommittedInstruction) (route : RouteV2Summary)
    (placed : getAssertSafeExecutionV2Instruction programAddress protectedMint expectation (List.replicate 32 0) kind.number =
      .ok placeholder)
    (viewed : sysvarView (placeholder :: suffix) feePayer = .ok provisional)
    (passes : checkJupiterSuffix platform (provisional.drop 1) kind protectedMint = .ok ⟨none, some route⟩) :
    (∃ commitment trade final request,
      jupiterSuffixCommitment platform.sha256 (provisional.drop 1) = .ok commitment ∧
      buildGuardedJupiterTrade platform programAddress feePayer protectedMint kind expectation suffix = .ok trade ∧
      Finished platform feePayer protectedMint kind expectation suffix provisional commitment trade final request) ∨
    (jupiterSuffixCommitment platform.sha256 (provisional.drop 1) = .error lengthError ∧
      buildGuardedJupiterTrade platform programAddress feePayer protectedMint kind expectation suffix =
        .error lengthError) := by
  obtain ⟨_, _, encoded⟩ := getAssertSafeExecutionV2Instruction_eq_ok placed
  obtain ⟨execution, rfl⟩ := (execution_representable_iff expectation).mp (representable_of_encoded encoded).1
  have guarded (commitment : Chunk 32) := getAssertSafeExecutionV2Instruction_of programAddress protectedMint execution
    commitment kind
  unfold buildGuardedJupiterTrade
  dsimp only
  rw [placed, ok_bind, viewed, ok_bind, passes, ok_bind]
  dsimp only
  rcases jupiterSuffixCommitment_cases platform.sha256 (provisional.drop 1) with ⟨commitment, hashed⟩ | refused
  · have payload := (guarded ⟨List.replicate 32 0, List.length_replicate⟩).symm.trans placed
    obtain ⟨final, finalView, flags, unchanged⟩ := @sysvarView_payload placeholder
      (guardWith programAddress protectedMint (guardRequest protectedMint kind execution commitment))
      (by rw [← Except.ok.inj payload]; rfl) (by rw [← Except.ok.inj payload]; rfl) suffix feePayer provisional viewed
    rw [← unchanged] at passes
    have recheck := recheck_passes passes ((congrArg _ unchanged).trans hashed)
    let request := guardRequest protectedMint kind execution commitment
    let guard := guardWith programAddress protectedMint request
    refine .inl ⟨commitment.bytes, ⟨guard :: suffix, guard, kind, provisional.drop 1, commitment.bytes, route⟩, final, request,
      hashed, ?_, ?_⟩
    · rw [hashed, ok_bind, guarded commitment, ok_bind, finalView, ok_bind, recheck, ok_bind]
      rfl
    · exact {
        commitment := rfl
        instructions := rfl
        exposed := finalView
        flags
        unchanged
        committedSuffix := unchanged.symm
        recheck
        unpacked := AssertSafeExecutionV2.unpack_pack request
        carries := ofRequest_guardRequest protectedMint kind execution commitment }
  · exact .inr ⟨refused, by rw [refused]; rfl⟩

/-- What a trade that was returned went through. -/
theorem buildGuardedJupiterTrade_checked {platform : Platform} {programAddress feePayer protectedMint : Address}
    {kind : JupiterAdapterKind} {expectation : AssertSafeExecutionRequest} {suffix : List Kit.Instruction}
    {trade : GuardedJupiterTrade}
    (built : buildGuardedJupiterTrade platform programAddress feePayer protectedMint kind expectation suffix = .ok trade) :
    ∃ placeholder provisional,
      getAssertSafeExecutionV2Instruction programAddress protectedMint expectation (List.replicate 32 0) kind.number =
        .ok placeholder ∧
      sysvarView (placeholder :: suffix) feePayer = .ok provisional ∧
      checkJupiterSuffix platform (provisional.drop 1) kind protectedMint = .ok ⟨none, some trade.route⟩ ∧
      jupiterSuffixCommitment platform.sha256 (provisional.drop 1) = .ok trade.commitment ∧
      trade.committedSuffix = provisional.drop 1 ∧ trade.adapterKind = kind := by
  unfold buildGuardedJupiterTrade at built
  obtain ⟨placeholder, placed, built⟩ := bind_eq_ok.mp built
  obtain ⟨provisional, viewed, built⟩ := bind_eq_ok.mp built
  obtain ⟨check, checked, built⟩ := bind_eq_ok.mp built
  split at built
  · obtain ⟨commitment, hashed, built⟩ := bind_eq_ok.mp built
    obtain ⟨guard, _, built⟩ := bind_eq_ok.mp built
    obtain ⟨final, _, built⟩ := bind_eq_ok.mp built
    obtain ⟨recheck, _, built⟩ := bind_eq_ok.mp built
    split at built
    · cases built
      exact ⟨placeholder, provisional, placed, viewed, checked, hashed, rfl, rfl⟩
    · cases built
  · cases built
/-- The sample buy reaches its fixed point. -/
theorem guard_fixed_point_buy : ∃ provisional digest trade final request,
    buildGuardedJupiterTrade buyPlatform SwapProtect.guardProgram buyer equityMint .JUPITER_ROUTE_V2_BUY_USDC
      SwapRefusals.buyExpectation SwapRefusals.buyKitSuffix = .ok trade ∧
    Finished buyPlatform buyer equityMint .JUPITER_ROUTE_V2_BUY_USDC SwapRefusals.buyExpectation SwapRefusals.buyKitSuffix
      provisional digest trade final request := by
  obtain ⟨trade, built, _⟩ := SwapRefusals.buy_built
  obtain ⟨placeholder, provisional, placed, viewed, passes, _⟩ := buildGuardedJupiterTrade_checked built
  rcases guard_fixed_point buyPlatform SwapProtect.guardProgram buyer equityMint .JUPITER_ROUTE_V2_BUY_USDC
    SwapRefusals.buyExpectation SwapRefusals.buyKitSuffix placeholder provisional trade.route placed viewed passes with
    ⟨digest, finished, final, request, _, run, promises⟩ | ⟨_, failed⟩
  · exact ⟨provisional, digest, finished, final, request, run, promises⟩
  · cases built.symm.trans failed

end EquityGuard.GuardedTrade
