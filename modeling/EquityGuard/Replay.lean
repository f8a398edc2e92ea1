import EquityGuard.ClientJupiter
import EquityGuard.Processor

/-!
A payload is for one kind, one side and one mint: what follows the guard determines them,
and commitments of one instruction never pass for commitments of a suffix.
-/
namespace EquityGuard.Replay
open EquityGuard.Addresses EquityGuard.Bytes EquityGuard.Commitments EquityGuard.Downstream EquityGuard.Errors
open EquityGuard.Jupiter EquityGuard.Transaction
open EquityGuard.Instruction (AssertSafeExecutionV2 DownstreamAdapter)
open EquityGuard.Sysvar (InstructionRef instruction_at instruction_count)
open SuffixInstruction

section
variable {I : Type} [SuffixInstruction I]

/-- The key of an account of a trade. -/
def key_at (trade : I) (index : Nat) : Option Key := (account trade index).map AccountMeta.pubkey
def protected_mint_at : ProtectedRole → Nat
  | .Destination => route_account.DESTINATION_MINT
  | .Source => route_account.SOURCE_MINT
def protected_program_at : ProtectedRole → Nat
  | .Destination => route_account.DESTINATION_TOKEN_PROGRAM
  | .Source => route_account.SOURCE_TOKEN_PROGRAM
def counter_program_at : ProtectedRole → Nat
  | .Destination => route_account.SOURCE_TOKEN_PROGRAM
  | .Source => route_account.DESTINATION_TOKEN_PROGRAM

theorem check_route_sides {trade : I} {role : ProtectedRole} {protected_mint : Key} {route : Route}
    (checked : check_route trade role protected_mint = .ok route) :
    key_at trade (protected_mint_at role) = some protected_mint ∧
      key_at trade (protected_program_at role) = some TOKEN_2022_PROGRAM_ID ∧
      key_at trade (counter_program_at role) = some LEGACY_TOKEN_PROGRAM_ID := by
  unfold check_route at checked
  simp only [bind_eq_ok, refuse_if_eq_ok, ok_or_eq_ok, pure_eq_ok, Except.ok.injEq] at checked
  -- in the order of the source: the checks before the route, the keys of the route, the checks of its sides
  obtain ⟨_, _, _, _, _, _, _, _, _, _, _, _, _, _, _, _, _, _, _, _, _, _, source_mint, source_mint_read, destination_mint,
    destination_mint_read, source_program, source_program_read, destination_program, destination_program_read, _, mint, _, _,
    _, programs, _⟩ := checked
  have read {index : Nat} {key : Key} (found : ∃ value, account trade index = some value ∧ value.pubkey = key) :
      key_at trade index = some key := Option.map_eq_some_iff.mpr found
  rw [not_or, not_not, not_not] at programs
  rw [not_not] at mint
  cases role with
  | Destination =>
    exact ⟨mint ▸ read destination_mint_read, programs.1 ▸ read destination_program_read,
      programs.2 ▸ read source_program_read⟩
  | Source =>
    exact ⟨mint ▸ read source_mint_read, programs.1 ▸ read source_program_read,
      programs.2 ▸ read destination_program_read⟩
/-- A trade is on one side of one mint: the token programs of the two sides differ. -/
theorem check_route_unique {trade : I} {role other : ProtectedRole} {protected_mint other_mint : Key} {route other_route : Route}
    (checked : check_route trade role protected_mint = .ok route)
    (other_checked : check_route trade other other_mint = .ok other_route) : role = other ∧ protected_mint = other_mint := by
  obtain ⟨mint, program, counter⟩ := check_route_sides checked
  obtain ⟨otherMint, otherProgram, otherCounter⟩ := check_route_sides other_checked
  have programs : some TOKEN_2022_PROGRAM_ID ≠ some LEGACY_TOKEN_PROGRAM_ID := by decide
  cases role with
  | Destination =>
    cases other with
    | Destination => exact ⟨rfl, Option.some.inj (mint.symm.trans otherMint)⟩
    | Source => exact absurd (program.symm.trans otherCounter) programs
  | Source =>
    cases other with
    | Destination => exact absurd (program.symm.trans otherCounter) programs
    | Source => exact ⟨rfl, Option.some.inj (mint.symm.trans otherMint)⟩
theorem check_positions_route {platform : Platform} {price limit trade : I} {setup : Option I} {role : ProtectedRole}
    {protected_mint : Key} (checked : check_positions platform price limit setup trade role protected_mint = .ok ()) :
    ∃ route, check_route trade role protected_mint = .ok route := by
  unfold check_positions at checked
  obtain ⟨_, checked⟩ := then_eq_ok.mp checked
  obtain ⟨_, checked⟩ := then_eq_ok.mp checked
  obtain ⟨_, checked⟩ := then_eq_ok.mp checked
  obtain ⟨_, checked⟩ := then_eq_ok.mp checked
  obtain ⟨route, routed, _⟩ := bind_eq_ok.mp checked
  exact ⟨route, routed⟩
/-- The trade stands last. -/
theorem check_suffix_route {platform : Platform} {suffix : List I} {role : ProtectedRole} {protected_mint : Key}
    (checked : check_suffix platform suffix role protected_mint = .ok ()) :
    ∃ trade route, suffix.getLast? = some trade ∧ check_route trade role protected_mint = .ok route := by
  unfold check_suffix at checked
  split at checked
  · obtain ⟨route, routed⟩ := check_positions_route checked
    exact ⟨_, route, rfl, routed⟩
  · obtain ⟨route, routed⟩ := check_positions_route checked
    exact ⟨_, route, rfl, routed⟩
  · cases checked
theorem check_suffix_unique {platform : Platform} {suffix : List I} {role other : ProtectedRole}
    {protected_mint other_mint : Key} (checked : check_suffix platform suffix role protected_mint = .ok ())
    (other_checked : check_suffix platform suffix other other_mint = .ok ()) : role = other ∧ protected_mint = other_mint := by
  obtain ⟨trade, route, last, routed⟩ := check_suffix_route checked
  obtain ⟨_, otherRoute, otherLast, otherRouted⟩ := check_suffix_route other_checked
  cases last.symm.trans otherLast
  exact check_route_unique routed otherRouted

theorem jupiter_suffix_encoded_domain {suffix : List I} {encoded : List UInt8}
    (made : jupiter_suffix_encoded suffix = .ok encoded) : ∃ rest, encoded = JUPITER_SUFFIX_COMMITMENT_DOMAIN ++ rest := by
  unfold jupiter_suffix_encoded at made
  obtain ⟨count, _, made⟩ := bind_eq_ok.mp made
  obtain ⟨items, _, made⟩ := bind_eq_ok.mp made
  cases made
  exact ⟨_, rfl⟩
end
theorem downstream_encoded_domain {program_id : Key} {accounts : List AccountMeta} {data encoded : List UInt8}
    (made : downstream_encoded program_id accounts data = .ok encoded) :
    ∃ rest, encoded = DOWNSTREAM_COMMITMENT_DOMAIN ++ rest := by
  unfold downstream_encoded at made
  obtain ⟨account_count, _, made⟩ := bind_eq_ok.mp made
  obtain ⟨data_len, _, made⟩ := bind_eq_ok.mp made
  cases made
  exact ⟨_, rfl⟩

/-! ### Two guards, two transactions -/

/-- The instructions after the guard, as the program reads them from the sysvar. -/
def suffix_read (instructions_sysvar : AccountInfo) : Option (List InstructionRef) := do
  let data ← instructions_sysvar.data
  let count ← instruction_count data
  (List.range' 1 (count - 1)).mapM (fun index => instruction_at data index)
/-- What a kind 1 guard hashes of the instruction after it. -/
def NextPreimage (crates : Crates) (instructions_sysvar : AccountInfo) (encoded : List UInt8) : Prop :=
  ∃ current next, crates.load_current_index_checked instructions_sysvar = .ok current ∧
    crates.load_instruction_at_checked (current.toNat + 1) instructions_sysvar = .ok next ∧
    downstream_encoded next.program_id next.accounts next.data = .ok encoded
/-- What a kind 2 or 3 guard hashes. -/
def SuffixPreimage (instructions_sysvar : AccountInfo) (encoded : List UInt8) : Prop :=
  ∃ suffix, suffix_read instructions_sysvar = some suffix ∧ jupiter_suffix_encoded suffix = .ok encoded
/-- No two preimages that the two guards compare have one digest. -/
def CollisionFree (crates : Crates) (platform : Platform) (single several : AccountInfo) : Prop :=
  ∀ first second, NextPreimage crates single first → SuffixPreimage several second →
    platform.sha256 first = platform.sha256 second → first = second

section
variable {crates : Crates} {platform : Platform} {program_id : Key} {guard_data : List UInt8} {request : AssertSafeExecutionV2}
  {mint_key : Key} {instructions_sysvar : AccountInfo}

theorem verify_jupiter_suffix_read {current : UInt16} {role : ProtectedRole}
    (verified : verify_jupiter_suffix platform current role request mint_key instructions_sysvar = .ok ()) :
    ∃ suffix, suffix_read instructions_sysvar = some suffix ∧ check_suffix platform suffix role mint_key = .ok () ∧
      jupiter_suffix_commitment platform.sha256 suffix = .ok request.downstream_commitment := by
  unfold verify_jupiter_suffix at verified
  obtain ⟨_, verified⟩ := then_eq_ok.mp verified
  obtain ⟨data, loaded, verified⟩ := bind_eq_ok.mp verified
  obtain ⟨count, counted, verified⟩ := bind_eq_ok.mp verified
  obtain ⟨_, verified⟩ := then_eq_ok.mp verified
  obtain ⟨suffix, read, verified⟩ := bind_eq_ok.mp verified
  obtain ⟨checked, verified⟩ := then_eq_ok.mp verified
  obtain ⟨commitment, committed, verified⟩ := bind_eq_ok.mp verified
  rw [refuse_if_eq_ok, not_not] at verified
  rw [ok_or_eq_ok] at loaded counted read
  refine ⟨suffix, ?_, checked, verified ▸ committed⟩
  simp only [suffix_read, loaded, counted, Option.bind_eq_bind, Option.bind_some]
  exact read
/-- A guard of kind 2 or 3 that verifies is for a role, a mint and a suffix. -/
theorem verify_downstream_several {role : ProtectedRole} (kind : roleOf request.adapter = some role)
    (verified : verify_downstream crates platform program_id guard_data request mint_key instructions_sysvar = .ok ()) :
    ∃ suffix, suffix_read instructions_sysvar = some suffix ∧ check_suffix platform suffix role mint_key = .ok () ∧
      jupiter_suffix_commitment platform.sha256 suffix = .ok request.downstream_commitment := by
  unfold verify_downstream at verified
  obtain ⟨_, verified⟩ := then_eq_ok.mp verified
  obtain ⟨current, _, verified⟩ := bind_eq_ok.mp verified
  obtain ⟨current_instruction, _, verified⟩ := bind_eq_ok.mp verified
  obtain ⟨_, verified⟩ := then_eq_ok.mp verified
  cases adapter : request.adapter with
  | Token2022TransferChecked =>
    rw [adapter] at kind
    cases kind
  | JupiterRouteV2BuyUsdc =>
    rw [adapter] at kind verified
    cases kind
    exact verify_jupiter_suffix_read verified
  | JupiterRouteV2SellUsdc =>
    rw [adapter] at kind verified
    cases kind
    exact verify_jupiter_suffix_read verified
/-- A guard of kind 1 that verifies is for one instruction. -/
theorem verify_downstream_single (kind : request.adapter = .Token2022TransferChecked)
    (verified : verify_downstream crates platform program_id guard_data request mint_key instructions_sysvar = .ok ()) :
    ∃ encoded, NextPreimage crates instructions_sysvar encoded ∧ platform.sha256 encoded = request.downstream_commitment := by
  unfold verify_downstream at verified
  obtain ⟨_, verified⟩ := then_eq_ok.mp verified
  obtain ⟨current, loaded, verified⟩ := bind_eq_ok.mp verified
  obtain ⟨current_instruction, _, verified⟩ := bind_eq_ok.mp verified
  obtain ⟨_, verified⟩ := then_eq_ok.mp verified
  rw [kind] at verified
  unfold verify_transfer_checked at verified
  obtain ⟨next_index, added, verified⟩ := bind_eq_ok.mp verified
  obtain ⟨next, read, verified⟩ := bind_eq_ok.mp verified
  obtain ⟨_, verified⟩ := then_eq_ok.mp verified
  obtain ⟨_, verified⟩ := then_eq_ok.mp verified
  obtain ⟨mint, _, verified⟩ := bind_eq_ok.mp verified
  obtain ⟨_, verified⟩ := then_eq_ok.mp verified
  obtain ⟨actual, committed, verified⟩ := bind_eq_ok.mp verified
  obtain ⟨encoded, made, hashed⟩ := bind_eq_ok.mp committed
  cases hashed
  have same := not_not.mp (refuse_if_eq_ok.mp verified)
  have index : next_index = current.toNat + 1 := by
    rw [ok_or_eq_ok, usize_checked_add] at added
    split at added
    · exact (Option.some.inj added).symm
    · cases added
  subst index
  exact ⟨encoded, ⟨current, next, map_err_eq_ok.mp loaded, map_err_eq_ok.mp read, made⟩, same⟩
end

theorem roleOf_injective {left right : DownstreamAdapter} {role : ProtectedRole} (leftKind : roleOf left = some role)
    (rightKind : roleOf right = some role) : left = right := by
  have same := leftKind.trans rightKind.symm
  cases left <;> cases right <;> first | rfl | cases same
/-- No payload can be replayed: a suffix is for one role and one mint, so that one kind and one mint verify before it; and
    a commitment to one instruction verifies under no other kind. -/
theorem suffix_determines_guard (crates : Crates) (platform : Platform) :
    (∀ (I : Type) [SuffixInstruction I] (suffix : List I) (role other : ProtectedRole) (protected_mint other_mint : Key),
      check_suffix platform suffix role protected_mint = .ok () → check_suffix platform suffix other other_mint = .ok () →
      role = other ∧ protected_mint = other_mint) ∧
    (∀ (program_id other_program : Key) (guard_data other_data : List UInt8) (request other : AssertSafeExecutionV2)
      (mint_key other_mint : Key) (left right : AccountInfo), suffix_read left = suffix_read right →
      roleOf request.adapter ≠ none → roleOf other.adapter ≠ none →
      verify_downstream crates platform program_id guard_data request mint_key left = .ok () →
      verify_downstream crates platform other_program other_data other other_mint right = .ok () →
      request.adapter = other.adapter ∧ mint_key = other_mint) ∧
    ∀ (program_id other_program : Key) (guard_data other_data : List UInt8) (request other : AssertSafeExecutionV2)
      (mint_key other_mint : Key) (single several : AccountInfo), CollisionFree crates platform single several →
      roleOf request.adapter = none → roleOf other.adapter ≠ none →
      request.downstream_commitment = other.downstream_commitment →
      verify_downstream crates platform program_id guard_data request mint_key single = .ok () →
      verify_downstream crates platform other_program other_data other other_mint several ≠ .ok () := by
  refine ⟨fun _ _ _ _ _ _ _ => check_suffix_unique, ?_, ?_⟩
  · intro program_id other_program guard_data other_data request other mint_key other_mint left right same kind otherKind
      verified otherVerified
    obtain ⟨role, kind⟩ := Option.ne_none_iff_exists'.mp kind
    obtain ⟨otherRole, otherKind⟩ := Option.ne_none_iff_exists'.mp otherKind
    obtain ⟨suffix, read, checked, _⟩ := verify_downstream_several kind verified
    obtain ⟨otherSuffix, otherRead, otherChecked, _⟩ := verify_downstream_several otherKind otherVerified
    rw [same, otherRead] at read
    cases read
    obtain ⟨rfl, mints⟩ := check_suffix_unique checked otherChecked
    exact ⟨roleOf_injective kind otherKind, mints⟩
  · intro program_id other_program guard_data other_data request other mint_key other_mint single several collisionFree kind
      otherKind same verified otherVerified
    obtain ⟨role, otherKind⟩ := Option.ne_none_iff_exists'.mp otherKind
    have transfer : request.adapter = .Token2022TransferChecked := by
      cases adapter : request.adapter <;> simp_all [roleOf]
    obtain ⟨first, hashedFirst, firstDigest⟩ := verify_downstream_single transfer verified
    obtain ⟨suffix, read, _, committed⟩ := verify_downstream_several otherKind otherVerified
    obtain ⟨second, made, secondDigest⟩ := bind_eq_ok.mp committed
    have digests : platform.sha256 first = platform.sha256 second :=
      (firstDigest.trans same).trans (Except.ok.inj secondDigest).symm
    have preimages := collisionFree first second hashedFirst ⟨suffix, read, made⟩ digests
    obtain ⟨_, _, _, _, firstMade⟩ := hashedFirst
    obtain ⟨firstRest, firstDomain⟩ := downstream_encoded_domain firstMade
    obtain ⟨secondRest, secondDomain⟩ := jupiter_suffix_encoded_domain made
    exact domains_differ firstRest secondRest (firstDomain.symm.trans (preimages.trans secondDomain))

/-- The digests of the sample transfer and of the sample trade. -/
def samplePlatform : Platform where
  sha256 bytes := if bytes.take 25 = DOWNSTREAM_COMMITMENT_DOMAIN then Processor.transferLinked.platform.sha256 bytes
    else ClientJupiter.buyPlatform.sha256 bytes
  find_program_address := ClientJupiter.buyPlatform.find_program_address
def transferSysvar : AccountInfo :=
  ⟨INSTRUCTIONS_SYSVAR_ID, Processor.repeated 0, some (Sysvar.serialize Processor.guardedTransfer 0)⟩
def buySysvar : AccountInfo := ⟨INSTRUCTIONS_SYSVAR_ID, INSTRUCTIONS_SYSVAR_ID,
  some (Sysvar.serialize (ClientJupiter.buyTransaction.map CommittedInstruction.toProgram) 0)⟩
theorem sample_collisionFree (single several : AccountInfo) : CollisionFree documented samplePlatform single several := by
  rintro first second ⟨_, _, _, _, firstMade⟩ ⟨_, _, secondMade⟩ digests
  obtain ⟨firstRest, rfl⟩ := downstream_encoded_domain firstMade
  obtain ⟨secondRest, rfl⟩ := jupiter_suffix_encoded_domain secondMade
  have length : DOWNSTREAM_COMMITMENT_DOMAIN.length = 25 := by decide
  have other : (JUPITER_SUFFIX_COMMITMENT_DOMAIN ++ secondRest).take 25 ≠ DOWNSTREAM_COMMITMENT_DOMAIN := by
    rw [List.take_append_of_le_length (by decide)]
    decide
  simp only [samplePlatform, List.take_left' length, if_true, if_neg other] at digests
  exact absurd digests (by simp [Processor.transferLinked, ClientJupiter.buyPlatform])
theorem transfer_verified : verify_downstream documented samplePlatform (Processor.repeated 5) Processor.transferRequest.pack
    Processor.transferRequest (Processor.repeated 9) transferSysvar = .ok () := by
  have exposed : Exposes transferSysvar Processor.guardedTransfer 0 := ⟨rfl, rfl⟩
  refine (verify_downstream_eq_ok documented_correct Processor.guardedTransfer_fits exposed).mpr ⟨⟨_, rfl, rfl, rfl⟩, Processor.transfer, rfl, ?_, ?_⟩
  · exact ⟨rfl, rfl, rfl, by decide, rfl⟩
  · decide
theorem buy_verified : verify_jupiter_suffix samplePlatform 0 .Destination ClientJupiter.buyRequest
    ClientJupiter.equityMint.key buySysvar = .ok () := by
  have hashed : jupiterSuffixCommitment samplePlatform.sha256 ClientJupiter.buySuffix =
      .ok ClientJupiter.buyRequest.downstream_commitment.bytes := by decide
  have accepted := ClientJupiter.buy_accepted samplePlatform.sha256 ClientJupiter.buyRequest.downstream_commitment hashed
  have agrees := ClientJupiter.suffix_checks_agree samplePlatform ClientJupiter.buyTransaction 0 .JUPITER_ROUTE_V2_BUY_USDC
    ClientJupiter.equityMint ClientJupiter.buyRequest buySysvar ClientJupiter.buyTransaction_fits rfl
  exact ClientOffline.verdict_eq_none.mp (Except.ok.inj (agrees.symm.trans accepted))
/-- Behind the sample trade no other role or mint verifies, and the commitment of the sample transfer never does. -/
theorem suffix_determines_guard_samples :
    (∀ role protected_mint suffix, suffix_read buySysvar = some suffix →
      check_suffix samplePlatform suffix role protected_mint = .ok () →
      ProtectedRole.Destination = role ∧ ClientJupiter.equityMint.key = protected_mint) ∧
    ∀ (other : AssertSafeExecutionV2) (other_mint : Key), roleOf other.adapter ≠ none →
      Processor.transferRequest.downstream_commitment = other.downstream_commitment →
      verify_downstream documented samplePlatform (Processor.repeated 5) other.pack other other_mint buySysvar ≠ .ok () := by
  refine ⟨?_, ?_⟩
  · intro role protected_mint suffix read checked
    obtain ⟨_, buyRead, buyChecked, _⟩ := verify_jupiter_suffix_read buy_verified
    cases read.symm.trans buyRead
    exact (suffix_determines_guard documented samplePlatform).1 _ suffix _ _ _ _ buyChecked checked
  · intro other other_mint kind same
    exact (suffix_determines_guard documented samplePlatform).2.2 _ _ _ other.pack _ other _ _ transferSysvar buySysvar
      (sample_collisionFree _ _) rfl kind same transfer_verified

end EquityGuard.Replay
