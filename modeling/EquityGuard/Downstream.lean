import EquityGuard.Jupiter

/-!
Binding the guard to the action it protects. Every adapter kind first proves that the
guard executes as the current top-level instruction, then that what follows it is the
supported action and exactly the committed one.
-/
namespace EquityGuard.Downstream
open EquityGuard.Addresses EquityGuard.Bytes EquityGuard.Commitments EquityGuard.Errors EquityGuard.Jupiter
open EquityGuard.Transaction
open EquityGuard.Instruction (AssertSafeExecutionV2 DownstreamAdapter)
open EquityGuard.Sysvar (Fits serialize)

/-! ### The crates -/

/-- The errors of the sysvar crate that the program tells apart. -/
inductive ProgramError where
  | InvalidArgument
  | Other
deriving DecidableEq
/-- The token instructions that the program tells apart. -/
inductive TokenInstruction where
  | TransferChecked (amount : UInt64) (decimals : UInt8)
  | Other
deriving DecidableEq

/-- What is used of `solana-instructions-sysvar` and `spl-token-2022-interface`. Neither is
    part of the repository. -/
structure Crates where
  load_current_index_checked : AccountInfo → Except ProgramError UInt16
  load_instruction_at_checked : Nat → AccountInfo → Except ProgramError Instruction
  unpack : List UInt8 → Option TokenInstruction

/-- The account is the Instructions sysvar of these instructions while `current` executes. -/
def Exposes (account : AccountInfo) (instructions : List Instruction) (current : UInt16) : Prop :=
  account.key = INSTRUCTIONS_SYSVAR_ID ∧ account.data = some (serialize instructions current.toNat)
/-- Tag of `TransferChecked` among the token instructions. -/
def TRANSFER_CHECKED_TAG : UInt8 := 12
/-- What the crates' documentation promises of these functions. -/
structure Crates.Documented (crates : Crates) : Prop where
  current_index : ∀ account instructions current, Fits instructions → Exposes account instructions current →
    crates.load_current_index_checked account = .ok current
  instruction_at : ∀ account instructions current, Fits instructions → Exposes account instructions current →
    ∀ index, crates.load_instruction_at_checked index account = ok_or .InvalidArgument instructions[index]?
  transfer_checked : ∀ data : List UInt8, data.length = 10 →
    ((∃ amount decimals, crates.unpack data = some (.TransferChecked amount decimals)) ↔
      data.head? = some TRANSFER_CHECKED_TAG)

/-- The documented functions themselves, over the sysvar's layout. -/
def documented : Crates where
  load_current_index_checked account := do
    refuse_if (account.key ≠ INSTRUCTIONS_SYSVAR_ID) .Other
    let data ← ok_or .Other account.data
    let index ← ok_or .Other (first_chunk 2 (data.drop (data.length - 2)))
    return u16_from_le_bytes index
  load_instruction_at_checked index account := do
    refuse_if (account.key ≠ INSTRUCTIONS_SYSVAR_ID) .Other
    let data ← ok_or .Other account.data
    let instruction ← ok_or .InvalidArgument (Sysvar.instruction_at data index)
    return { program_id := instruction.program_id, accounts := instruction.accounts, data := instruction.data }
  unpack data :=
    match data with
    | [] => none
    | tag :: rest =>
      if tag = TRANSFER_CHECKED_TAG then do
        let (amount, rest) ← split_first_chunk 8 rest
        let decimals ← rest.head?
        return .TransferChecked (u64_from_le_bytes amount) decimals
      else some .Other

theorem documented_correct : documented.Documented where
  current_index account instructions current fits exposed := by
    have size : (u16_to_le_bytes current).bytes.length = 2 := (u16_to_le_bytes current).size_eq
    have tail : (serialize instructions current.toNat).drop ((serialize instructions current.toNat).length - 2) =
        (u16_to_le_bytes current).bytes := by
      have shape : serialize instructions current.toNat = (leBytes 2 instructions.length ++
          ((Sysvar.offsets (2 + 2 * instructions.length) instructions).flatMap (leBytes 2) ++
            instructions.flatMap Sysvar.body)) ++ (u16_to_le_bytes current).bytes := by
        simp only [serialize, List.append_assoc]
        rfl
      rw [shape, List.length_append, size, Nat.add_sub_cancel, List.drop_left]
    have last := first_chunk_append (u16_to_le_bytes current) []
    rw [List.append_nil] at last
    simp only [documented, refuse_if_bind, exposed.1, exposed.2, ne_eq, not_true_eq_false, ↓reduceIte, ok_or_some, ok_bind,
      tail, last, u16_from_to_le_bytes]
    rfl
  instruction_at account instructions current fits exposed index := by
    simp only [documented, refuse_if_bind, exposed.1, exposed.2, ne_eq, not_true_eq_false, ↓reduceIte, ok_or_some, ok_bind,
      Sysvar.instruction_at_serialize fits]
    cases instructions[index]? with
    | none => rfl
    | some instruction =>
      have owned : (Sysvar.borrow instruction).accounts = instruction.accounts := Sysvar.borrow_accounts instruction
      simp only [Option.map_some, ok_or_some, ok_bind, owned]
      rfl
  transfer_checked data length := by
    cases data with
    | nil => cases length
    | cons tag rest =>
      obtain ⟨amount, last, rfl, left⟩ := exists_chunk (by simp at length; omega : 8 ≤ rest.length)
      cases last with
      | nil => simp at length left
      | cons decimals last =>
        by_cases transfer : tag = TRANSFER_CHECKED_TAG
        · simp [documented, transfer, split_first_chunk_append]
        · simp [documented, transfer]

/-! ### The program -/

def TRANSFER_CHECKED_DATA_LEN : Nat := 10
def TRANSFER_CHECKED_MINT_INDEX : Nat := 1
def TRANSFER_CHECKED_MIN_ACCOUNTS : Nat := 4

/-- `usize::checked_add`. -/
def usize_checked_add (left right : Nat) : Option Nat := if left + right < 2 ^ 64 then some (left + right) else none
/-- `matches!(unpacked, Ok(TokenInstruction::TransferChecked { .. }))`. -/
def matches_transfer_checked : Option TokenInstruction → Bool
  | some (.TransferChecked _ _) => true
  | _ => false
/-- `result.map_err(convert)`. -/
def map_err {ε δ α : Type} (convert : ε → δ) : Except ε α → Except δ α
  | .ok value => .ok value
  | .error error => .error (convert error)

/-- Kind 1: the instruction after the guard is the committed `TransferChecked` of the mint. -/
def verify_transfer_checked (crates : Crates) (platform : Platform) (current : UInt16) (request : AssertSafeExecutionV2)
    (mint_key : Key) (instructions_sysvar : AccountInfo) : Checked Unit := do
  let next_index ← ok_or .ArithmeticOverflow (usize_checked_add current.toNat 1)
  let next ← map_err (fun
    | .InvalidArgument => EquityGuardError.MissingDownstreamInstruction
    | .Other => .InvalidInstructionsSysvar) (crates.load_instruction_at_checked next_index instructions_sysvar)
  refuse_if (next.program_id ≠ TOKEN_2022_PROGRAM_ID) .UnsupportedDownstreamProgram
  let is_transfer_checked := decide (next.data.length = TRANSFER_CHECKED_DATA_LEN) &&
    matches_transfer_checked (crates.unpack next.data) && decide (next.accounts.length ≥ TRANSFER_CHECKED_MIN_ACCOUNTS)
  refuse_if (is_transfer_checked = false) .UnsupportedDownstreamInstruction
  let mint ← ok_or .UnsupportedDownstreamInstruction next.accounts[TRANSFER_CHECKED_MINT_INDEX]?
  refuse_if (mint.pubkey ≠ mint_key) .DownstreamMintMismatch
  let actual ← downstream_commitment platform.sha256 next.program_id next.accounts next.data
  refuse_if (actual ≠ request.downstream_commitment) .DownstreamCommitmentMismatch

def verify_downstream (crates : Crates) (platform : Platform) (program_id : Key) (guard_data : List UInt8)
    (request : AssertSafeExecutionV2) (mint_key : Key) (instructions_sysvar : AccountInfo) : Checked Unit := do
  refuse_if (instructions_sysvar.key ≠ INSTRUCTIONS_SYSVAR_ID) .InvalidInstructionsSysvar
  let current ← map_err (fun _ => EquityGuardError.InvalidInstructionsSysvar)
    (crates.load_current_index_checked instructions_sysvar)
  let current_instruction ← map_err (fun _ => EquityGuardError.GuardNotTopLevel)
    (crates.load_instruction_at_checked current.toNat instructions_sysvar)
  refuse_if (current_instruction.program_id ≠ program_id ∨ current_instruction.data ≠ guard_data) .GuardNotTopLevel
  match request.adapter with
  | .Token2022TransferChecked => verify_transfer_checked crates platform current request mint_key instructions_sysvar
  | .JupiterRouteV2BuyUsdc =>
    verify_jupiter_suffix platform current .Destination request mint_key instructions_sysvar
  | .JupiterRouteV2SellUsdc =>
    verify_jupiter_suffix platform current .Source request mint_key instructions_sysvar

/-! ### What is bound -/

/-- A `TransferChecked` of the mint. -/
def IsTransferChecked (instruction : Instruction) (mint_key : Key) : Prop :=
  instruction.program_id = TOKEN_2022_PROGRAM_ID ∧ instruction.data.length = 10 ∧
  instruction.data.head? = some TRANSFER_CHECKED_TAG ∧ 4 ≤ instruction.accounts.length ∧
  instruction.accounts[1]?.map AccountMeta.pubkey = some mint_key
/-- The side of the trade an adapter kind protects; none for a transfer. -/
def roleOf : DownstreamAdapter → Option ProtectedRole
  | .Token2022TransferChecked => none
  | .JupiterRouteV2BuyUsdc => some .Destination
  | .JupiterRouteV2SellUsdc => some .Source
/-- The action a request's adapter kind names stands in the transaction, as committed. -/
def Bound (platform : Platform) (instructions : List Instruction) (current : UInt16) (request : AssertSafeExecutionV2)
    (mint_key : Key) : Prop :=
  match roleOf request.adapter with
  | none => ∃ next, instructions[current.toNat + 1]? = some next ∧ IsTransferChecked next mint_key ∧
      platform.sha256 (DOWNSTREAM_COMMITMENT_DOMAIN ++ instruction_bytes next) = request.downstream_commitment
  | some role => current = 0 ∧ SupportedSuffix platform (instructions.drop 1) role mint_key ∧
      platform.sha256 (JUPITER_SUFFIX_COMMITMENT_DOMAIN ++ (leBytes 4 (instructions.drop 1).length ++
        (instructions.drop 1).flatMap instruction_bytes)) = request.downstream_commitment

section
variable {crates : Crates} (documented : crates.Documented) {platform : Platform} {current : UInt16}
  {request : AssertSafeExecutionV2} {mint_key : Key} {instructions_sysvar : AccountInfo} {instructions : List Instruction}
  (fits : Fits instructions) (exposed : Exposes instructions_sysvar instructions current)

theorem matches_transfer_checked_iff (unpacked : Option TokenInstruction) :
    matches_transfer_checked unpacked = true ↔ ∃ amount decimals, unpacked = some (.TransferChecked amount decimals) := by
  match unpacked with
  | none | some .Other => simp [matches_transfer_checked]
  | some (.TransferChecked amount decimals) => simp [matches_transfer_checked]
theorem map_err_eq_ok {ε δ α : Type} {convert : ε → δ} {result : Except ε α} {value : α} :
    map_err convert result = .ok value ↔ result = .ok value := by
  cases result <;> simp [map_err]

include fits exposed

theorem verify_jupiter_suffix_eq_ok {role : ProtectedRole} :
    verify_jupiter_suffix platform current role request mint_key instructions_sysvar = .ok () ↔
      current = 0 ∧ SupportedSuffix platform (instructions.drop 1) role mint_key ∧
        platform.sha256 (JUPITER_SUFFIX_COMMITMENT_DOMAIN ++ (leBytes 4 (instructions.drop 1).length ++
          (instructions.drop 1).flatMap instruction_bytes)) = request.downstream_commitment := by
  rw [verify_jupiter_suffix_serialize platform current role request mint_key fits exposed.2,
    jupiter_suffix_commitment_eq platform.sha256 fits]
  simp only [then_eq_ok, ok_bind, refuse_if_eq_ok, ne_eq, not_not, check_suffix_eq_ok]

include documented

/-- Before a transfer of the mint only the commitment is left to compare. -/
theorem verify_transfer_checked_of {next : Instruction} (read : instructions[current.toNat + 1]? = some next)
    (transfer : IsTransferChecked next mint_key) :
    verify_transfer_checked crates platform current request mint_key instructions_sysvar =
      refuse_if (platform.sha256 (DOWNSTREAM_COMMITMENT_DOMAIN ++ instruction_bytes next) ≠ request.downstream_commitment)
        .DownstreamCommitmentMismatch := by
  obtain ⟨program, length, tag, enough, mintKey⟩ := transfer
  obtain ⟨mint, mintRead, key⟩ := Option.map_eq_some_iff.mp mintKey
  have small := current.toNat_lt
  have next_index : usize_checked_add current.toNat 1 = some (current.toNat + 1) := if_pos (by omega)
  have unpacked := (matches_transfer_checked_iff _).mpr ((documented.transfer_checked next.data length).mpr tag)
  have shape : (decide (next.data.length = TRANSFER_CHECKED_DATA_LEN) && matches_transfer_checked (crates.unpack next.data) &&
      decide (next.accounts.length ≥ TRANSFER_CHECKED_MIN_ACCOUNTS)) = true := by
    rw [unpacked, Bool.and_true, Bool.and_eq_true, decide_eq_true_eq, decide_eq_true_eq]
    exact ⟨length, enough⟩
  rw [verify_transfer_checked, next_index, ok_or_some, ok_bind,
    documented.instruction_at instructions_sysvar instructions current fits exposed, read, ok_or_some, map_err, ok_bind,
    refuse_if_bind, if_neg (not_not.mpr program), shape, refuse_if_bind, if_neg Bool.true_eq_false.mp,
    show next.accounts[TRANSFER_CHECKED_MINT_INDEX]? = some mint from mintRead, ok_or_some, ok_bind, refuse_if_bind,
    if_neg (not_not.mpr key), downstream_commitment, downstream_encoded_eq,
    if_pos (encodable_of_fits fits next (List.mem_of_getElem? read))]
  rfl
theorem verify_transfer_checked_eq_ok :
    verify_transfer_checked crates platform current request mint_key instructions_sysvar = .ok () ↔
      ∃ next, instructions[current.toNat + 1]? = some next ∧ IsTransferChecked next mint_key ∧
        platform.sha256 (DOWNSTREAM_COMMITMENT_DOMAIN ++ instruction_bytes next) = request.downstream_commitment := by
  constructor
  · intro verified
    have settled := verified
    have small := current.toNat_lt
    have next_index : usize_checked_add current.toNat 1 = some (current.toNat + 1) := if_pos (by omega)
    rw [verify_transfer_checked, next_index, ok_or_some, ok_bind,
      documented.instruction_at instructions_sysvar instructions current fits exposed] at verified
    simp only [bind_eq_ok, map_err_eq_ok, ok_or_eq_ok, refuse_if_eq_ok, ne_eq, not_not, Bool.not_eq_false,
      Bool.and_eq_true, decide_eq_true_eq, matches_transfer_checked_iff] at verified
    obtain ⟨next, read, _, token, _, ⟨⟨length, unpacked⟩, enough⟩, mint, mintRead, _, mintKey, _⟩ := verified
    have tag := (documented.transfer_checked next.data length).mp unpacked
    have transfer : IsTransferChecked next mint_key := by
      refine ⟨token, length, tag, enough, ?_⟩
      rw [← mintKey]
      exact congrArg (Option.map AccountMeta.pubkey) mintRead
    rw [verify_transfer_checked_of documented fits exposed read transfer, refuse_if_eq_ok, not_not] at settled
    exact ⟨next, read, transfer, settled⟩
  · rintro ⟨next, read, transfer, same⟩
    rw [verify_transfer_checked_of documented fits exposed read transfer, refuse_if_eq_ok, not_not]
    exact same
/-- Behind a guard of kind 1 only the commitment is left to compare. -/
theorem verify_downstream_of {program_id : Key} {guard next : Instruction}
    (guardRead : instructions[current.toNat]? = some guard) (program : guard.program_id = program_id)
    (kind : roleOf request.adapter = none) (read : instructions[current.toNat + 1]? = some next)
    (transfer : IsTransferChecked next mint_key) :
    verify_downstream crates platform program_id guard.data request mint_key instructions_sysvar =
      refuse_if (platform.sha256 (DOWNSTREAM_COMMITMENT_DOMAIN ++ instruction_bytes next) ≠ request.downstream_commitment)
        .DownstreamCommitmentMismatch := by
  have adapter : request.adapter = .Token2022TransferChecked := by
    cases adapter : request.adapter with
    | Token2022TransferChecked => rfl
    | JupiterRouteV2BuyUsdc | JupiterRouteV2SellUsdc =>
      rw [adapter] at kind
      cases kind
  have same : ¬ (guard.program_id ≠ program_id ∨ guard.data ≠ guard.data) := by simp [program]
  rw [verify_downstream, refuse_if_bind, if_neg (not_not.mpr exposed.1),
    documented.current_index instructions_sysvar instructions current fits exposed,
    map_err, ok_bind, documented.instruction_at instructions_sysvar instructions current fits exposed, guardRead, ok_or_some,
    map_err, ok_bind, refuse_if_bind, if_neg same, adapter]
  exact verify_transfer_checked_of documented fits exposed read transfer
theorem verify_downstream_eq_ok {program_id : Key} {guard_data : List UInt8} :
    verify_downstream crates platform program_id guard_data request mint_key instructions_sysvar = .ok () ↔
      (∃ guard, instructions[current.toNat]? = some guard ∧ guard.program_id = program_id ∧ guard.data = guard_data) ∧
        Bound platform instructions current request mint_key := by
  rw [verify_downstream, refuse_if_bind, if_neg (not_not.mpr exposed.1),
    documented.current_index instructions_sysvar instructions current fits exposed,
    map_err, ok_bind, documented.instruction_at instructions_sysvar instructions current fits exposed]
  have bound : (match request.adapter with
      | .Token2022TransferChecked => verify_transfer_checked crates platform current request mint_key instructions_sysvar
      | .JupiterRouteV2BuyUsdc =>
        verify_jupiter_suffix platform current .Destination request mint_key instructions_sysvar
      | .JupiterRouteV2SellUsdc =>
        verify_jupiter_suffix platform current .Source request mint_key instructions_sysvar) = .ok () ↔
      Bound platform instructions current request mint_key := by
    unfold Bound
    cases request.adapter with
    | Token2022TransferChecked => exact verify_transfer_checked_eq_ok documented fits exposed
    | JupiterRouteV2BuyUsdc => exact verify_jupiter_suffix_eq_ok fits exposed
    | JupiterRouteV2SellUsdc => exact verify_jupiter_suffix_eq_ok fits exposed
  simp only [bind_eq_ok, map_err_eq_ok, ok_or_eq_ok, refuse_if_eq_ok, not_or, ne_eq, not_not, bound]
  constructor
  · rintro ⟨guard, read, _, ⟨program, data⟩, action⟩
    exact ⟨⟨guard, read, program, data⟩, action⟩
  · rintro ⟨⟨guard, read, program, data⟩, action⟩
    exact ⟨guard, read, (), ⟨program, data⟩, action⟩

end

end EquityGuard.Downstream
