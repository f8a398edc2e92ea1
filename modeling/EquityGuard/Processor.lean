import EquityGuard.Downstream
import EquityGuard.Guard

/-!
The program's entrypoint: payload, accounts, mint, downstream action, then economic state
and clock. It writes nothing, so what it does to a transaction is to let it settle or not.
-/
namespace EquityGuard.Processor
open EquityGuard.Addresses EquityGuard.Bytes EquityGuard.Downstream EquityGuard.Errors EquityGuard.Transaction
open EquityGuard.Instruction (AssertSafeExecutionV2)
open EquityGuard.Jupiter (AccountInfo Platform)
open EquityGuard.State (decode_protected_state)

/-- The code the program is linked with. -/
structure Linked where
  token : Token2022.Interface
  crates : Crates
  platform : Platform
structure Linked.Documented (linked : Linked) : Prop where
  token : linked.token.Documented
  crates : linked.crates.Documented

/-- `clock` is what `Clock::get` reads. -/
def assert_safe_execution (linked : Linked) (clock : Option I64) (program_id : Key) (accounts : List AccountInfo)
    (instruction_data : List UInt8) : Checked Unit := do
  let request ← AssertSafeExecutionV2.unpack instruction_data
  match accounts with
  | [mint, instructions_sysvar] => do
    refuse_if (mint.key ≠ request.expected_mint) .MintKeyMismatch
    refuse_if (instructions_sysvar.key ≠ INSTRUCTIONS_SYSVAR_ID) .InvalidInstructionsSysvar
    let data ← ok_or .InvalidMintData mint.data
    let actual ← decode_protected_state linked.token mint.owner data
    verify_downstream linked.crates linked.platform program_id instruction_data request mint.key instructions_sysvar
    let now ← ok_or .ClockUnavailable clock
    Guard.check request.execution actual now
  | _ => .error .InvalidAccountCount

/-- The checks in their order: all of them passing is acceptance. -/
theorem assert_safe_execution_of {linked : Linked} {program_id : Key} {mint instructions_sysvar : AccountInfo}
    {instruction_data data : List UInt8} {request : AssertSafeExecutionV2} {actual : State.ProtectedState} {now : I64}
    (unpacked : AssertSafeExecutionV2.unpack instruction_data = .ok request) (mintKey : mint.key = request.expected_mint)
    (sysvar : instructions_sysvar.key = INSTRUCTIONS_SYSVAR_ID) (read : mint.data = some data)
    (decoded : decode_protected_state linked.token mint.owner data = .ok actual)
    (bound : verify_downstream linked.crates linked.platform program_id instruction_data request mint.key
      instructions_sysvar = .ok ())
    (safe : Guard.check request.execution actual now = .ok ()) :
    assert_safe_execution linked (some now) program_id [mint, instructions_sysvar] instruction_data = .ok () := by
  rw [assert_safe_execution, unpacked, ok_bind]
  simp only [bind_eq_ok, ok_or_eq_ok, refuse_if_eq_ok, ne_eq, not_not]
  exact ⟨(), mintKey, (), sysvar, data, read, actual, decoded, (), bound, now, rfl, safe⟩

/-- What a successful guard means for the whole transaction. -/
theorem assert_safe_execution_eq_ok {linked : Linked} (documented : linked.crates.Documented) (clock : Option I64)
    (program_id : Key) (accounts : List AccountInfo) (instruction_data : List UInt8) {instructions : List Instruction}
    (current : UInt16) (fits : Sysvar.Fits instructions)
    (exposed : ∀ account ∈ accounts, account.key = INSTRUCTIONS_SYSVAR_ID → Exposes account instructions current) :
    assert_safe_execution linked clock program_id accounts instruction_data = .ok () ↔
      ∃ request mint instructions_sysvar data actual now,
        (AssertSafeExecutionV2.unpack instruction_data = .ok request ∧ instruction_data.length = 99) ∧
        (accounts = [mint, instructions_sysvar] ∧ mint.key = request.expected_mint ∧ mint.data = some data ∧
          decode_protected_state linked.token mint.owner data = .ok actual ∧
          instructions_sysvar.key = INSTRUCTIONS_SYSVAR_ID) ∧
        (∃ guard, instructions[current.toNat]? = some guard ∧ guard.program_id = program_id ∧
          guard.data = instruction_data) ∧
        Bound linked.platform instructions current request mint.key ∧
        clock = some now ∧ Guard.check request.execution actual now = .ok () := by
  rw [assert_safe_execution, bind_eq_ok]
  constructor
  · rintro ⟨request, unpacked, accepted⟩
    match accounts, accepted with
    | [mint, instructions_sysvar], accepted =>
      simp only [bind_eq_ok, ok_or_eq_ok, refuse_if_eq_ok, ne_eq, not_not] at accepted
      obtain ⟨_, mintKey, _, sysvar, data, read, actual, decoded, _, bound, now, clocked, safe⟩ := accepted
      have exposes := exposed instructions_sysvar (by simp) sysvar
      obtain ⟨topLevel, action⟩ := (verify_downstream_eq_ok documented fits exposes).mp bound
      have length : instruction_data.length = 99 := by
        rw [← AssertSafeExecutionV2.pack_of_unpack unpacked]
        exact AssertSafeExecutionV2.pack_length request
      exact ⟨request, mint, instructions_sysvar, data, actual, now, ⟨unpacked, length⟩,
        ⟨rfl, mintKey, read, decoded, sysvar⟩, topLevel, action, clocked, safe⟩
  · rintro ⟨request, mint, instructions_sysvar, data, actual, now, ⟨unpacked, _⟩, ⟨rfl, mintKey, read, decoded, sysvar⟩,
      topLevel, action, clocked, safe⟩
    have exposes := exposed instructions_sysvar (by simp) sysvar
    have bound := (verify_downstream_eq_ok documented fits exposes).mpr ⟨topLevel, action⟩
    rw [clocked]
    exact bind_eq_ok.mp (assert_safe_execution_of unpacked mintKey sysvar read decoded bound safe)

/-! ### A guarded transfer -/

def repeated (byte : UInt8) : Key := ⟨List.replicate 32 byte, by simp⟩
def transfer : Instruction where
  program_id := TOKEN_2022_PROGRAM_ID
  accounts := [⟨repeated 1, false, true⟩, ⟨repeated 9, false, false⟩, ⟨repeated 2, false, true⟩, ⟨repeated 7, true, false⟩]
  data := [12, 0xf4, 1, 0, 0, 0, 0, 0, 0, 6]
/-- The digest of the transfer. -/
def transferLinked : Linked where
  token := Token2022.documented
  crates := documented
  platform := {
    sha256 := fun _ => ⟨[0xc3, 0x82, 0xa3, 0x36, 0xcf, 0x85, 0x48, 0xb2, 0xd9, 0x40, 0x89, 0x7e, 0x9b, 0x84, 0x92, 0xb5,
      0xdb, 0x09, 0x00, 0x22, 0x4d, 0x63, 0x8c, 0xc3, 0x11, 0xc5, 0x93, 0x7f, 0x15, 0x29, 0x42, 0x8d], rfl⟩
    find_program_address := fun _ program => program }
def transferRequest : AssertSafeExecutionV2 where
  expected_mint := repeated 9
  execution := ⟨Guard.twoForOneSplit, .Pending, ⟨10, 10⟩⟩
  adapter := .Token2022TransferChecked
  downstream_commitment := transferLinked.platform.sha256 []
def guardedTransfer : List Instruction :=
  [⟨repeated 5, [⟨repeated 9, false, false⟩, ⟨INSTRUCTIONS_SYSVAR_ID, false, false⟩], transferRequest.pack⟩, transfer]
def transferAccounts : List AccountInfo :=
  [⟨repeated 9, TOKEN_2022_PROGRAM_ID, some Guard.splitMint⟩,
    ⟨INSTRUCTIONS_SYSVAR_ID, repeated 0, some (Sysvar.serialize guardedTransfer 0)⟩]
theorem guardedTransfer_fits : Sysvar.Fits guardedTransfer := by
  refine Sysvar.fits_of_size ?_
  have guard : transferRequest.pack.length = 99 := AssertSafeExecutionV2.pack_length transferRequest
  simp [guardedTransfer, transfer, Sysvar.wire_size, guard]
/-- Before the split, the transfer settles. -/
theorem assert_safe_execution_eq_ok_transfer :
    assert_safe_execution transferLinked (some (I64.ofU32 0)) (repeated 5) transferAccounts transferRequest.pack =
      .ok () := by
  have exposed : ∀ account ∈ transferAccounts, account.key = INSTRUCTIONS_SYSVAR_ID →
      Exposes account guardedTransfer 0 := by
    intro account member sysvar
    rcases List.mem_cons.mp member with rfl | member
    · exact absurd sysvar (by decide)
    · obtain rfl := List.mem_singleton.mp member
      exact ⟨rfl, rfl⟩
  refine (assert_safe_execution_eq_ok documented_correct _ _ _ _ 0 guardedTransfer_fits exposed).mpr ?_
  refine ⟨transferRequest, _, _, Guard.splitMint, Guard.twoForOneSplit, I64.ofU32 0,
    ⟨AssertSafeExecutionV2.unpack_pack _, AssertSafeExecutionV2.pack_length _⟩,
    ⟨rfl, rfl, rfl, by decide +kernel, rfl⟩, ⟨_, rfl, rfl, rfl⟩, ⟨transfer, rfl, ?_, rfl⟩, rfl, by decide +kernel⟩
  exact ⟨rfl, rfl, rfl, by decide, rfl⟩

end EquityGuard.Processor
