import EquityGuard.Processor
import EquityGuard.SwapRefusals

/-!
Client and program together: what `protectJupiterSwap` hands out as protected is a
transaction that the program lets settle at the snapshot it was built from.
-/
namespace EquityGuard.EndToEnd
open EquityGuard.Addresses EquityGuard.Binary64 EquityGuard.Bytes EquityGuard.Client EquityGuard.ClientAbi
open EquityGuard.ClientJupiter EquityGuard.ClientOffline EquityGuard.ClientProtection EquityGuard.ClientTrade
open EquityGuard.Commitments EquityGuard.Downstream EquityGuard.Errors EquityGuard.Kit EquityGuard.Processor
open EquityGuard.SwapCompose EquityGuard.SwapProtect EquityGuard.SwapRefusals EquityGuard.Transaction
open EquityGuard.Instruction (AssertSafeExecutionV2)
open EquityGuard.Jupiter (AccountInfo Platform)

/-! ### Steps of the client -/

/-- The guard stands first in the view of a transaction that starts with it. -/
theorem sysvarView_guard {programAddress mint feePayer : Address} {request : AssertSafeExecutionV2}
    {suffix : List Kit.Instruction} {view : List CommittedInstruction}
    (viewed : sysvarView (guardWith programAddress mint request :: suffix) feePayer = .ok view) :
    ∃ guard rest, view = guard :: rest ∧ guard.programAddress = programAddress ∧
      guard.accounts.map CommittedAccount.address = [mint, SYSVAR_INSTRUCTIONS_ADDRESS] ∧ guard.data = request.pack := by
  unfold sysvarView at viewed
  dsimp only at viewed
  split at viewed
  · cases viewed
  · cases viewed
    exact ⟨_, _, rfl, rfl, rfl, rfl⟩
/-- The verdict of the client is the program's, on the transaction it was reached for. -/
theorem verify_of_checked {platform : Platform} {instructions : List CommittedInstruction} {kind : JupiterAdapterKind}
    {protectedMint : Address} (request : AssertSafeExecutionV2) {instructions_sysvar : AccountInfo}
    (fits : Sysvar.Fits (instructions.map CommittedInstruction.toProgram))
    (exposed : Exposes instructions_sysvar (instructions.map CommittedInstruction.toProgram) 0)
    (checked : checkGuardedJupiterTransaction platform instructions 0 kind protectedMint
      request.downstream_commitment.bytes = .ok none) :
    Jupiter.verify_jupiter_suffix platform 0 (ClientJupiter.roleOf kind) request protectedMint.key instructions_sysvar = .ok () := by
  have agreed := checkGuardedJupiterTransaction_eq platform fits 0 kind protectedMint request.downstream_commitment
  have same := Except.ok.inj (agreed.symm.trans checked)
  rw [Jupiter.verify_jupiter_suffix_serialize platform 0 (ClientJupiter.roleOf kind) request protectedMint.key fits exposed.2]
  exact verdict_eq_none.mp same
theorem suffixCommitment_of_checked {platform : Platform} {instructions : List CommittedInstruction}
    {kind : JupiterAdapterKind} {protectedMint : Address} {commitment : List UInt8}
    (checked : checkGuardedJupiterTransaction platform instructions 0 kind protectedMint commitment = .ok none) :
    jupiterSuffixCommitment platform.sha256 (instructions.drop 1) = .ok commitment := by
  unfold checkGuardedJupiterTransaction at checked
  split at checked
  · cases checked
  obtain ⟨check, _, checked⟩ := bind_eq_ok.mp checked
  split at checked
  · cases checked
  obtain ⟨hashed, hashedEq, checked⟩ := bind_eq_ok.mp checked
  split at checked
  · rename_i same
    rw [hashedEq, of_decide_eq_true same]
  · cases checked

/-! ### What the caller asked for -/

/-- A quoted state that still holds is the snapshot's, in the phase the caller saw if that matters. -/
theorem quoted_eq {input : ProtectJupiterSwapInput} {snapshot : GuardSnapshot} {expected : ProtectedState}
    (requested : guardRequestIssue input = none) (quoted : quotedVerdict input snapshot = .ok none)
    (given : input.expectedState = some expected)
    (current : snapshot.phase = phaseAt snapshot.state snapshot.clock.unixTimestamp) :
    expected = snapshot.state ∧
      (ClientAbi.hasScheduledChange snapshot.state = true → input.expectedPhase = some snapshot.phase) := by
  unfold quotedVerdict at quoted
  rw [given] at quoted
  obtain ⟨same, phases⟩ := checkGuardOffline_accepts quoted
  refine ⟨same.symm, ?_⟩
  intro scheduled
  have seen := phases scheduled
  cases asked : input.expectedPhase with
  | some phase =>
    rw [asked, Option.getD_some, ← current] at seen
    rw [seen]
  | none =>
    -- a scheduled change without a phase is refused before the snapshot is read
    unfold guardRequestIssue at requested
    rw [asked, given] at requested
    rw [same] at scheduled
    split at requested
    · cases requested
    · dsimp only at requested
      rw [if_pos scheduled] at requested
      cases requested

/-! ### The whole path -/

/-- The payload of a guard binds the snapshot, the caller's window and everything after the guard. -/
structure Carries (platform : Platform) (input : ProtectJupiterSwapInput) (result : ProtectedSwap)
    (suffix : List CommittedInstruction) (request : AssertSafeExecutionV2) : Prop where
  state : ofProtectedState request.execution.expected = result.snapshot.state
  phase : .ofInt request.execution.expected_phase.as_u8.toNat =
    phaseAt result.snapshot.state result.snapshot.clock.unixTimestamp
  window : ofWindow request.execution.window = input.protectionWindow
  commitment : jupiterSuffixCommitment platform.sha256 suffix = .ok request.downstream_commitment.bytes
/-- The snapshot was read from the answer to the third call, at a time the program has a value for. -/
structure Snapshotted (kit : Library) (rpc : Rpc) (result : ProtectedSwap) (mintAccount : RpcAccount) (now : I64) :
    Prop where
  taken : ∃ answer, rpc.getMultipleAccounts 2 [result.protectedMint, SYSVAR_CLOCK_ADDRESS] = .ok answer ∧
    answer.account 0 = some mintAccount ∧ snapshotOf kit.bufferFromBase64 result.protectedMint answer = .ok result.snapshot
  clock : result.snapshot.clock.unixTimestamp = now.value
/-- The resolved transaction starts with the guard, and the program accepts it where the runtime
    shows it that transaction, the mint and the clock. -/
structure Settles (kit : Library) (linked : Linked) (rpc : Rpc) (input : ProtectJupiterSwapInput) (result : ProtectedSwap)
    (guard : CommittedInstruction) (suffix : List CommittedInstruction) (request : AssertSafeExecutionV2)
    (mintAccount : RpcAccount) (now : I64) : Prop where
  resolved : resolveWireTransaction kit result.transaction result.lookupTables = .ok (guard :: suffix)
  program : guard.programAddress = result.programAddress
  accounts : guard.accounts.map CommittedAccount.address = [result.protectedMint, SYSVAR_INSTRUCTIONS_ADDRESS]
  snapshotted : Snapshotted kit rpc result mintAccount now
  accepted : ∀ instructions_sysvar,
    Exposes instructions_sysvar ((guard :: suffix).map CommittedInstruction.toProgram) 0 →
    assert_safe_execution linked (some now) guard.programAddress.key
      [⟨result.protectedMint.key, mintAccount.owner.key, some (kit.bufferFromBase64 mintAccount.data)⟩,
        instructions_sysvar] guard.data = .ok ()
  unpacked : AssertSafeExecutionV2.unpack guard.data = .ok request
  carries : Carries linked.platform input result suffix request
  quoted : ∀ expected, input.expectedState = some expected → expected = result.snapshot.state ∧
    (ClientAbi.hasScheduledChange result.snapshot.state = true → input.expectedPhase = some result.snapshot.phase)

/-- Whatever is handed out as protected settles at its snapshot. -/
theorem protected_settles {kit : Library} (kitDocumented : kit.Documented) {linked : Linked}
    (linkedDocumented : linked.Documented) {rpc : Rpc} {input : ProtectJupiterSwapInput} {result : ProtectedSwap}
    (run : protectJupiterSwap kit linked.platform rpc input = .ok (.PROTECTED result)) :
    ∃ guard suffix request mintAccount now,
      Settles kit linked rpc input result guard suffix request mintAccount now := by
  obtain ⟨swap, deployment, snapshot, reaches⟩ := reaches_of_protected run
  obtain ⟨composition, composed, rfl⟩ := composed_of_protected (reaches.run.symm.trans run)
  obtain ⟨before, after⟩ := window_of_request reaches.requested
  obtain ⟨lead, leadEq⟩ := (windowBound_iff _).mp before
  obtain ⟨lag, lagEq⟩ := (windowBound_iff _).mp after
  obtain ⟨answer, answered, taken⟩ := bind_eq_ok.mp reaches.fetched
  obtain ⟨mintAccount, clockAccount, state, now, mintFound, _, decoded, _, clock, _, stateEq, phaseEq⟩ :=
    snapshotOf_correct linkedDocumented.token taken
  have window : ofWindow ⟨lead, lag⟩ = input.protectionWindow := by
    rw [ofWindow, ← leadEq, ← lagEq]
  have expectation : ofExecution ⟨state, state.phase_at now, ⟨lead, lag⟩⟩ =
      expectationFromSnapshot snapshot input.protectionWindow := by
    rw [ofExecution, expectationFromSnapshot, ← stateEq, ← phaseEq, window]
  rw [← expectation] at composed
  obtain ⟨suffix, view, commitment, instructionsEq, _, small, resolved, viewed, checked⟩ :=
    composeGuardedJupiterTrade_eq_ok composed
  rw [instructionsEq] at viewed
  obtain ⟨guard, rest, rfl, program, accounts, data⟩ := sysvarView_guard viewed
  have fits : Sysvar.Fits ((guard :: rest).map CommittedInstruction.toProgram) :=
    Sysvar.fits_of_size ((resolveWireTransaction_size kitDocumented resolved).trans small)
  have phase : snapshot.phase = phaseAt snapshot.state snapshot.clock.unixTimestamp := by
    rw [phaseEq, stateEq, clock, phaseAt_of]
  have safe : Guard.check ⟨state, state.phase_at now, ⟨lead, lag⟩⟩ state now = .ok () := by
    have verdict := reaches.accepted
    rw [guardVerdict, ← expectation, stateEq, clock, checkGuardOffline_of] at verdict
    exact verdict_eq_none.mp (Except.ok.inj verdict)
  let request := guardRequest swap.protectedMint swap.adapterKind ⟨state, state.phase_at now, ⟨lead, lag⟩⟩ commitment
  have unpacked : AssertSafeExecutionV2.unpack guard.data = .ok request := by
    rw [data]
    exact AssertSafeExecutionV2.unpack_pack request
  refine ⟨guard, rest, request, mintAccount, now, resolved, program, accounts,
    ⟨⟨answer, answered, mintFound, taken⟩, clock⟩, ?_, unpacked,
    ⟨stateEq.symm, phaseEq.symm.trans phase, window, suffixCommitment_of_checked checked⟩, ?_⟩
  · intro instructions_sysvar exposed
    have verified := verify_of_checked request fits exposed checked
    refine assert_safe_execution_of unpacked rfl exposed.1 rfl decoded ?_ safe
    refine (verify_downstream_eq_ok linkedDocumented.crates fits exposed).mpr ⟨⟨_, rfl, rfl, rfl⟩, ?_⟩
    have bound := (verify_jupiter_suffix_eq_ok fits exposed).mp verified
    show Bound linked.platform _ 0 request _
    have role : Downstream.roleOf request.adapter = some (ClientJupiter.roleOf swap.adapterKind) := by
      show Downstream.roleOf (adapterOf swap.adapterKind) = _
      cases swap.adapterKind <;> rfl
    unfold Bound
    rw [role]
    exact bound
  · intro expected given
    exact quoted_eq reaches.requested reaches.quoted given phase

def buyLinked : Linked := ⟨Token2022.documented, Downstream.documented, buyPlatform⟩
theorem protected_settles_buy : ∃ result,
    protectJupiterSwap buyKit buyLinked.platform buyLive (buyInput (buyBuild buyBudget)) = .ok (.PROTECTED result) ∧
    ∃ guard suffix request mintAccount now,
      Settles buyKit buyLinked buyLive (buyInput (buyBuild buyBudget)) result guard suffix request mintAccount now := by
  obtain ⟨result, run⟩ := buy_protected
  have linkedDocumented : buyLinked.Documented := ⟨Token2022.documented_correct, Downstream.documented_correct⟩
  have settled := @protected_settles buyKit buyKit_documented buyLinked linkedDocumented buyLive
    (buyInput (buyBuild buyBudget)) result run
  exact ⟨result, run, settled⟩

end EquityGuard.EndToEnd
