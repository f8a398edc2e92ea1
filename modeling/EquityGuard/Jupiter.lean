import EquityGuard.Commitments
import EquityGuard.Instruction
import EquityGuard.Sysvar

/-!
Adapter kinds 2 and 3 in the program: a guarded Jupiter `route_v2` trade between
canonical USDC and the protected mint. The guard is instruction 0 and the whole
rest of the transaction has to be the trade.
-/
namespace EquityGuard.Jupiter
open EquityGuard.Addresses EquityGuard.Bytes EquityGuard.Commitments EquityGuard.Errors EquityGuard.Transaction
open EquityGuard.Instruction (AssertSafeExecutionV2)
open EquityGuard.Sysvar (InstructionRef instruction_at instruction_count borrow)
open SuffixInstruction

def JUPITER_PROGRAM_ID : Key := from_str_const "JUP6LkbZbjS1jKKwapdHNy74zcZ3tLUZoi5QNyVTaV4" (by decide +kernel)
def JUPITER_EVENT_AUTHORITY : Key := from_str_const "D8cy77BBepLMngZx6ZukaTff5hCt1HrWyKk3Hnd9oitf" (by decide +kernel)
def ROUTE_V2_DISCRIMINATOR : Chunk 8 := ⟨[0xbb, 0x64, 0xfa, 0xcc, 0x31, 0xc4, 0xaf, 0x14], rfl⟩
def USDC_MINT : Key := from_str_const "EPjFWdd5AufqSSqeM2qN1xzybapC8G4wEGGkZwyTDt1v" (by decide +kernel)
def LEGACY_TOKEN_PROGRAM_ID : Key := from_str_const "TokenkegQfeZyiNwAJbNbGKPFXCWuBvf9Ss623VQ5DA" (by decide +kernel)
def ASSOCIATED_TOKEN_PROGRAM_ID : Key :=
  from_str_const "ATokenGPvbdGVxr1b2hvZbsiqW5xWH25efTNsLJA8knL" (by decide +kernel)
def COMPUTE_BUDGET_PROGRAM_ID : Key :=
  from_str_const "ComputeBudget111111111111111111111111111111" (by decide +kernel)
def SYSTEM_PROGRAM_ID : Key := from_str_const "11111111111111111111111111111111" (by decide +kernel)

def SET_COMPUTE_UNIT_LIMIT_TAG : UInt8 := 2
def SET_COMPUTE_UNIT_LIMIT_LEN : Nat := 5
def SET_COMPUTE_UNIT_PRICE_TAG : UInt8 := 3
def SET_COMPUTE_UNIT_PRICE_LEN : Nat := 9
def CREATE_IDEMPOTENT_DATA : List UInt8 := [1]
def CREATE_IDEMPOTENT_ACCOUNTS : Nat := 6
def SUFFIX_WITHOUT_SETUP : Nat := 3
def SUFFIX_WITH_SETUP : Nat := 4
def ROUTE_V2_PREFIX_LEN : Nat := 34
def MAX_SLIPPAGE_BPS : UInt16 := 10000

namespace ata_account
def PAYER : Nat := 0
def ATA : Nat := 1
def OWNER : Nat := 2
def MINT : Nat := 3
def SYSTEM_PROGRAM : Nat := 4
def TOKEN_PROGRAM : Nat := 5
end ata_account

namespace route_account
def AUTHORITY : Nat := 0
def SOURCE : Nat := 1
def DESTINATION : Nat := 2
def SOURCE_MINT : Nat := 3
def DESTINATION_MINT : Nat := 4
def SOURCE_TOKEN_PROGRAM : Nat := 5
def DESTINATION_TOKEN_PROGRAM : Nat := 6
def DESTINATION_OVERRIDE : Nat := 7
def EVENT_AUTHORITY : Nat := 8
def PROGRAM : Nat := 9
def FIXED : Nat := 10
end route_account

/-- What the runtime computes for the program, and the kit for the client. -/
structure Platform where
  sha256 : List UInt8 → Chunk 32
  find_program_address : List (List UInt8) → Key → Key

/-- Which side of the trade the protected mint is on. -/
inductive ProtectedRole where
  | Destination
  | Source
deriving DecidableEq

structure RouteV2Prefix where
  in_amount : UInt64
  quoted_out_amount : UInt64
  slippage_bps : UInt16
  platform_fee_bps : UInt16
  positive_slippage_bps : UInt16
  route_plan_len : UInt32
deriving DecidableEq

def RouteV2Prefix.decode (data : List UInt8) : Option RouteV2Prefix := do
  let start ← first_chunk ROUTE_V2_PREFIX_LEN data
  let (discriminator, rest) ← split_first_chunk 8 start.bytes
  if discriminator ≠ ROUTE_V2_DISCRIMINATOR then none
  else do
    let (in_amount, rest) ← split_first_chunk 8 rest
    let (quoted_out_amount, rest) ← split_first_chunk 8 rest
    let (slippage_bps, rest) ← split_first_chunk 2 rest
    let (platform_fee_bps, rest) ← split_first_chunk 2 rest
    let (positive_slippage_bps, rest) ← split_first_chunk 2 rest
    let route_plan_len ← first_chunk 4 rest
    return {
      in_amount := u64_from_le_bytes in_amount
      quoted_out_amount := u64_from_le_bytes quoted_out_amount
      slippage_bps := u16_from_le_bytes slippage_bps
      platform_fee_bps := u16_from_le_bytes platform_fee_bps
      positive_slippage_bps := u16_from_le_bytes positive_slippage_bps
      route_plan_len := u32_from_le_bytes route_plan_len }

/-- The fixed accounts of a validated `route_v2`. -/
structure Route where
  authority : Key
  source : Key
  destination : Key
  source_mint : Key
  destination_mint : Key
  source_token_program : Key
  destination_token_program : Key
deriving DecidableEq

instance : SuffixInstruction InstructionRef where
  program_id := InstructionRef.program_id
  account_count := InstructionRef.account_count
  account := InstructionRef.account
  accounts := InstructionRef.accounts
  data := InstructionRef.data

/-- `first && second && ...` where a later operand is only evaluated if the earlier ones hold. -/
def all_hold : List (Checked Bool) → Checked Bool
  | [] => .ok true
  | first :: rest => do if ← first then all_hold rest else return false

section
variable {I : Type} [SuffixInstruction I]

def check_compute_budget (instruction : I) (tag : UInt8) (len : Nat) : Checked Unit :=
  if account_count instruction = 0 ∧ (data instruction).length = len ∧ (data instruction).head? = some tag then .ok ()
  else .error .InvalidComputeBudgetInstruction

def check_route (trade : I) (role : ProtectedRole) (protected_mint : Key) : Checked Route := do
  refuse_if (account_count trade < route_account.FIXED) .InvalidJupiterInstruction
  let start ← ok_or .InvalidJupiterInstruction (RouteV2Prefix.decode (data trade))
  let account (index : Nat) : Checked AccountMeta := ok_or .InvalidJupiterInstruction (account trade index)
  let key (index : Nat) : Checked Key := do return (← account index).pubkey
  refuse_if ((← key route_account.PROGRAM) ≠ JUPITER_PROGRAM_ID) .InvalidJupiterProgram
  let structurally_valid ← all_hold [
    do return decide ((← key route_account.EVENT_AUTHORITY) = JUPITER_EVENT_AUTHORITY),
    do return (← account route_account.AUTHORITY).is_signer,
    .ok (decide (start.in_amount > 0)), .ok (decide (start.quoted_out_amount > 0)),
    .ok (decide (start.slippage_bps ≤ MAX_SLIPPAGE_BPS)), .ok (decide (start.route_plan_len > 0))]
  refuse_if (structurally_valid = false) .InvalidJupiterInstruction
  refuse_if ((← key route_account.DESTINATION_OVERRIDE) ≠ JUPITER_PROGRAM_ID) .DestinationOverrideUnsupported
  let route : Route := {
    authority := ← key route_account.AUTHORITY
    source := ← key route_account.SOURCE
    destination := ← key route_account.DESTINATION
    source_mint := ← key route_account.SOURCE_MINT
    destination_mint := ← key route_account.DESTINATION_MINT
    source_token_program := ← key route_account.SOURCE_TOKEN_PROGRAM
    destination_token_program := ← key route_account.DESTINATION_TOKEN_PROGRAM }
  let (protected_side, protected_program, counter, counter_program) := match role with
    | .Destination =>
      (route.destination_mint, route.destination_token_program, route.source_mint, route.source_token_program)
    | .Source =>
      (route.source_mint, route.source_token_program, route.destination_mint, route.destination_token_program)
  refuse_if (protected_side ≠ protected_mint) .InvalidJupiterDirection
  refuse_if (counter ≠ USDC_MINT) .InvalidCounterMint
  refuse_if (protected_program ≠ TOKEN_2022_PROGRAM_ID ∨ counter_program ≠ LEGACY_TOKEN_PROGRAM_ID) .InvalidTokenProgram
  refuse_if (start.platform_fee_bps ≠ 0 ∨ start.positive_slippage_bps ≠ 0) .UnsupportedJupiterFee
  return route

def check_setup (setup : I) (route : Route) : Checked Unit := do
  let account (index : Nat) : Checked AccountMeta := ok_or .InvalidAtaSetup (account setup index)
  refuse_if (account_count setup ≠ CREATE_IDEMPOTENT_ACCOUNTS ∨ data setup ≠ CREATE_IDEMPOTENT_DATA) .InvalidAtaSetup
  let for_this_trade ← all_hold [
    do return (← account ata_account.PAYER).is_signer,
    do return decide ((← account ata_account.ATA).pubkey = route.destination),
    do return decide ((← account ata_account.OWNER).pubkey = route.authority),
    do return decide ((← account ata_account.MINT).pubkey = route.destination_mint),
    do return decide ((← account ata_account.SYSTEM_PROGRAM).pubkey = SYSTEM_PROGRAM_ID),
    do return decide ((← account ata_account.TOKEN_PROGRAM).pubkey = route.destination_token_program)]
  refuse_if (for_this_trade = false) .InvalidAtaSetup

def canonical_ata (platform : Platform) (owner mint token_program : Key) : Key :=
  platform.find_program_address [owner.bytes, token_program.bytes, mint.bytes] ASSOCIATED_TOKEN_PROGRAM_ID

/-- The checks over the four positions of an admissible suffix. -/
def check_positions (platform : Platform) (price limit : I) (setup : Option I) (trade : I) (role : ProtectedRole)
    (protected_mint : Key) : Checked Unit := do
  let setup_position_ok := setup.all (fun setup => decide (program_id setup = ASSOCIATED_TOKEN_PROGRAM_ID))
  refuse_if (program_id price ≠ COMPUTE_BUDGET_PROGRAM_ID ∨ program_id limit ≠ COMPUTE_BUDGET_PROGRAM_ID ∨
    setup_position_ok = false) .UnsupportedTransactionGrammar
  refuse_if (program_id trade ≠ JUPITER_PROGRAM_ID) .InvalidJupiterProgram
  check_compute_budget price SET_COMPUTE_UNIT_PRICE_TAG SET_COMPUTE_UNIT_PRICE_LEN
  check_compute_budget limit SET_COMPUTE_UNIT_LIMIT_TAG SET_COMPUTE_UNIT_LIMIT_LEN
  let route ← check_route trade role protected_mint
  match setup with
  | some setup => check_setup setup route
  | none => .ok ()
  refuse_if (canonical_ata platform route.authority route.source_mint route.source_token_program ≠ route.source)
    .NonCanonicalSourceAccount
  refuse_if (canonical_ata platform route.authority route.destination_mint route.destination_token_program ≠
    route.destination) .NonCanonicalDestinationAccount
/-- The grammar and semantic checks over the instructions after the guard. -/
def check_suffix (platform : Platform) (suffix : List I) (role : ProtectedRole) (protected_mint : Key) : Checked Unit :=
  match suffix with
  | [price, limit, trade] => check_positions platform price limit none trade role protected_mint
  | [price, limit, setup, trade] => check_positions platform price limit (some setup) trade role protected_mint
  | _ => .error .UnsupportedTransactionGrammar

end

/-- An account handed to the program; `data` is what `try_borrow_data` gives. -/
structure AccountInfo where
  key : Key
  owner : Key
  data : Option (List UInt8)

/-- Verifies a kind 2/3 guard at its own top-level index. -/
def verify_jupiter_suffix (platform : Platform) (current : UInt16) (role : ProtectedRole)
    (request : AssertSafeExecutionV2) (mint_key : Key) (instructions_sysvar : AccountInfo) : Checked Unit := do
  refuse_if (current ≠ 0) .GuardNotFirst
  let data ← ok_or .InvalidInstructionsSysvar instructions_sysvar.data
  let count ← ok_or .InvalidInstructionsSysvar (instruction_count data)
  let suffix_len := count - 1
  refuse_if (suffix_len ≠ SUFFIX_WITHOUT_SETUP ∧ suffix_len ≠ SUFFIX_WITH_SETUP) .UnsupportedTransactionGrammar
  let suffix ← ok_or .InvalidInstructionsSysvar ((List.range' 1 (count - 1)).mapM (fun index => instruction_at data index))
  check_suffix platform suffix role mint_key
  let commitment ← jupiter_suffix_commitment platform.sha256 suffix
  refuse_if (commitment ≠ request.downstream_commitment) .DownstreamCommitmentMismatch

/-! ### The argument prefix field by field -/

/-- The parts of a long enough `route_v2` payload. -/
structure RouteFields where
  discriminator : Chunk 8
  in_amount : Chunk 8
  quoted_out_amount : Chunk 8
  slippage_bps : Chunk 2
  platform_fee_bps : Chunk 2
  positive_slippage_bps : Chunk 2
  route_plan_len : Chunk 4
  route_plan : List UInt8
def RouteFields.bytes (fields : RouteFields) : List UInt8 :=
  fields.discriminator.bytes ++ (fields.in_amount.bytes ++ (fields.quoted_out_amount.bytes ++
    (fields.slippage_bps.bytes ++ (fields.platform_fee_bps.bytes ++ (fields.positive_slippage_bps.bytes ++
      (fields.route_plan_len.bytes ++ fields.route_plan))))))
theorem exists_fields {data : List UInt8} (long : ROUTE_V2_PREFIX_LEN ≤ data.length) :
    ∃ fields : RouteFields, data = fields.bytes := by
  simp only [ROUTE_V2_PREFIX_LEN] at long
  obtain ⟨discriminator, rest, rfl, left⟩ := exists_chunk (by omega : 8 ≤ data.length)
  obtain ⟨in_amount, rest, rfl, left⟩ := exists_chunk (by omega : 8 ≤ rest.length)
  obtain ⟨quoted_out_amount, rest, rfl, left⟩ := exists_chunk (by omega : 8 ≤ rest.length)
  obtain ⟨slippage_bps, rest, rfl, left⟩ := exists_chunk (by omega : 2 ≤ rest.length)
  obtain ⟨platform_fee_bps, rest, rfl, left⟩ := exists_chunk (by omega : 2 ≤ rest.length)
  obtain ⟨positive_slippage_bps, rest, rfl, left⟩ := exists_chunk (by omega : 2 ≤ rest.length)
  obtain ⟨route_plan_len, rest, rfl, left⟩ := exists_chunk (by omega : 4 ≤ rest.length)
  exact ⟨⟨discriminator, in_amount, quoted_out_amount, slippage_bps, platform_fee_bps, positive_slippage_bps,
    route_plan_len, rest⟩, rfl⟩
theorem RouteV2Prefix.decode_fields (fields : RouteFields) :
    RouteV2Prefix.decode fields.bytes =
      if fields.discriminator = ROUTE_V2_DISCRIMINATOR then
        some {
          in_amount := u64_from_le_bytes fields.in_amount
          quoted_out_amount := u64_from_le_bytes fields.quoted_out_amount
          slippage_bps := u16_from_le_bytes fields.slippage_bps
          platform_fee_bps := u16_from_le_bytes fields.platform_fee_bps
          positive_slippage_bps := u16_from_le_bytes fields.positive_slippage_bps
          route_plan_len := u32_from_le_bytes fields.route_plan_len }
      else none := by
  have start := first_chunk_append (⟨fields.discriminator.bytes ++ (fields.in_amount.bytes ++
    (fields.quoted_out_amount.bytes ++ (fields.slippage_bps.bytes ++ (fields.platform_fee_bps.bytes ++
      (fields.positive_slippage_bps.bytes ++ fields.route_plan_len.bytes))))), by simp [ROUTE_V2_PREFIX_LEN]⟩ :
        Chunk ROUTE_V2_PREFIX_LEN) fields.route_plan
  have last := first_chunk_append fields.route_plan_len []
  simp only [List.append_assoc] at start
  rw [List.append_nil] at last
  rw [RouteV2Prefix.decode, RouteFields.bytes, start]
  simp only [Option.bind_eq_bind, Option.bind_some, split_first_chunk_append, last, ne_eq, ite_not]
  rfl
theorem RouteV2Prefix.decode_short {data : List UInt8} (short : data.length < ROUTE_V2_PREFIX_LEN) :
    RouteV2Prefix.decode data = none := by
  have missing : first_chunk ROUTE_V2_PREFIX_LEN data = none := dif_neg (Nat.not_le_of_lt short)
  rw [RouteV2Prefix.decode, missing]
  rfl

/-! ### The trade by its accounts -/

theorem all_hold_ok (values : List Bool) : all_hold (values.map .ok) = .ok (values.all id) := by
  induction values with
  | nil => rfl
  | cons value rest ih => cases value <;> simp [all_hold, ih, pure, Except.pure]

/-- The ten accounts every `route_v2` starts with, and the venue accounts after them. -/
@[ext] structure RouteAccounts where
  authority : AccountMeta
  source : AccountMeta
  destination : AccountMeta
  source_mint : AccountMeta
  destination_mint : AccountMeta
  source_token_program : AccountMeta
  destination_token_program : AccountMeta
  destination_override : AccountMeta
  event_authority : AccountMeta
  program : AccountMeta
  venue : List AccountMeta
def RouteAccounts.list (fixed : RouteAccounts) : List AccountMeta :=
  fixed.authority :: fixed.source :: fixed.destination :: fixed.source_mint :: fixed.destination_mint ::
    fixed.source_token_program :: fixed.destination_token_program :: fixed.destination_override ::
    fixed.event_authority :: fixed.program :: fixed.venue
def RouteAccounts.route (fixed : RouteAccounts) : Route where
  authority := fixed.authority.pubkey
  source := fixed.source.pubkey
  destination := fixed.destination.pubkey
  source_mint := fixed.source_mint.pubkey
  destination_mint := fixed.destination_mint.pubkey
  source_token_program := fixed.source_token_program.pubkey
  destination_token_program := fixed.destination_token_program.pubkey

theorem exists_ten {α : Type} {items : List α} (enough : route_account.FIXED ≤ items.length) :
    ∃ a b c d e f g h i j rest, items = a :: b :: c :: d :: e :: f :: g :: h :: i :: j :: rest := by
  match items with
  | a :: b :: c :: d :: e :: f :: g :: h :: i :: j :: rest => exact ⟨a, b, c, d, e, f, g, h, i, j, rest, rfl⟩
  | [] | [_] | [_, _] | [_, _, _] | [_, _, _, _] | [_, _, _, _, _] | [_, _, _, _, _, _] | [_, _, _, _, _, _, _]
  | [_, _, _, _, _, _, _, _] | [_, _, _, _, _, _, _, _, _] => simp [route_account.FIXED] at enough
theorem exists_accounts {accounts : List AccountMeta} (enough : route_account.FIXED ≤ accounts.length) :
    ∃ fixed : RouteAccounts, accounts = fixed.list := by
  obtain ⟨a, b, c, d, e, f, g, h, i, j, rest, rfl⟩ := exists_ten enough
  exact ⟨⟨a, b, c, d, e, f, g, h, i, j, rest⟩, rfl⟩

/-- The structural conditions on a `route_v2` instruction. -/
def Structured (fixed : RouteAccounts) (start : RouteV2Prefix) : Prop :=
  fixed.event_authority.pubkey = JUPITER_EVENT_AUTHORITY ∧ fixed.authority.is_signer = true ∧ start.in_amount > 0 ∧
  start.quoted_out_amount > 0 ∧ start.slippage_bps ≤ MAX_SLIPPAGE_BPS ∧ start.route_plan_len > 0
instance (fixed : RouteAccounts) (start : RouteV2Prefix) : Decidable (Structured fixed start) := by
  delta Structured; infer_instance

/-- The two sides of a trade: protected mint, its program, counter mint, its program. -/
def Route.sides (route : Route) : ProtectedRole → Key × Key × Key × Key
  | .Destination => (route.destination_mint, route.destination_token_program, route.source_mint, route.source_token_program)
  | .Source => (route.source_mint, route.source_token_program, route.destination_mint, route.destination_token_program)

theorem check_route_few {trade : Instruction} (few : trade.accounts.length < route_account.FIXED) (role : ProtectedRole)
    (protected_mint : Key) : check_route trade role protected_mint = .error .InvalidJupiterInstruction := by
  have counted : account_count trade < route_account.FIXED := few
  rw [check_route, refuse_if_bind, if_pos counted]
theorem check_route_undecoded {trade : Instruction} (undecoded : RouteV2Prefix.decode trade.data = none)
    (role : ProtectedRole) (protected_mint : Key) :
    check_route trade role protected_mint = .error .InvalidJupiterInstruction := by
  have unread : RouteV2Prefix.decode (data trade) = none := undecoded
  rw [check_route, refuse_if_bind, unread, ok_or_none, error_bind]
  exact ite_self _
theorem check_route_fixed {trade : Instruction} {fixed : RouteAccounts} {start : RouteV2Prefix}
    (accounts : trade.accounts = fixed.list) (decoded : RouteV2Prefix.decode trade.data = some start)
    (role : ProtectedRole) (protected_mint : Key) :
    check_route trade role protected_mint = (do
      refuse_if (fixed.program.pubkey ≠ JUPITER_PROGRAM_ID) .InvalidJupiterProgram
      refuse_if (¬ Structured fixed start) .InvalidJupiterInstruction
      refuse_if (fixed.destination_override.pubkey ≠ JUPITER_PROGRAM_ID) .DestinationOverrideUnsupported
      refuse_if ((fixed.route.sides role).1 ≠ protected_mint) .InvalidJupiterDirection
      refuse_if ((fixed.route.sides role).2.2.1 ≠ USDC_MINT) .InvalidCounterMint
      refuse_if ((fixed.route.sides role).2.1 ≠ TOKEN_2022_PROGRAM_ID ∨
        (fixed.route.sides role).2.2.2 ≠ LEGACY_TOKEN_PROGRAM_ID) .InvalidTokenProgram
      refuse_if (start.platform_fee_bps ≠ 0 ∨ start.positive_slippage_bps ≠ 0) .UnsupportedJupiterFee
      return fixed.route) := by
  have count : ¬ account_count trade < route_account.FIXED := by
    show ¬ trade.accounts.length < 10
    rw [accounts]
    simp [RouteAccounts.list]
  have read : ∀ index, account trade index = fixed.list[index]? := by
    intro index
    show trade.accounts[index]? = _
    rw [accounts]
  have structured : all_hold [.ok (decide (fixed.event_authority.pubkey = JUPITER_EVENT_AUTHORITY)),
      .ok fixed.authority.is_signer, .ok (decide (start.in_amount > 0)), .ok (decide (start.quoted_out_amount > 0)),
      .ok (decide (start.slippage_bps ≤ MAX_SLIPPAGE_BPS)), .ok (decide (start.route_plan_len > 0))] =
      .ok (decide (Structured fixed start)) := by
    refine (all_hold_ok [decide (fixed.event_authority.pubkey = JUPITER_EVENT_AUTHORITY), fixed.authority.is_signer,
      decide (start.in_amount > 0), decide (start.quoted_out_amount > 0),
      decide (start.slippage_bps ≤ MAX_SLIPPAGE_BPS), decide (start.route_plan_len > 0)]).trans ?_
    rw [Except.ok.injEq, Bool.eq_iff_iff]
    simp [Structured]
  rw [check_route, refuse_if_bind, if_neg count]
  have decoded' : RouteV2Prefix.decode (data trade) = some start := decoded
  rw [decoded', ok_or_some, ok_bind]
  have authority : account trade route_account.AUTHORITY = some fixed.authority := read _
  have source : account trade route_account.SOURCE = some fixed.source := read _
  have destination : account trade route_account.DESTINATION = some fixed.destination := read _
  have source_mint : account trade route_account.SOURCE_MINT = some fixed.source_mint := read _
  have destination_mint : account trade route_account.DESTINATION_MINT = some fixed.destination_mint := read _
  have source_token_program : account trade route_account.SOURCE_TOKEN_PROGRAM = some fixed.source_token_program := read _
  have destination_token_program :
      account trade route_account.DESTINATION_TOKEN_PROGRAM = some fixed.destination_token_program := read _
  have destination_override : account trade route_account.DESTINATION_OVERRIDE = some fixed.destination_override := read _
  have event_authority : account trade route_account.EVENT_AUTHORITY = some fixed.event_authority := read _
  have program : account trade route_account.PROGRAM = some fixed.program := read _
  simp only [authority, source, destination, source_mint, destination_mint, source_token_program,
    destination_token_program, destination_override, event_authority, program, ok_or_some, ok_bind, pure_eq_ok, structured,
    decide_eq_false_iff_not]
  cases role with
  | Destination => rfl
  | Source => rfl

/-! ### Borrowed and owned instructions pass the same checks -/

@[simp] theorem program_id_borrow (instruction : Instruction) :
    program_id (borrow instruction) = program_id instruction := rfl
@[simp] theorem account_count_borrow (instruction : Instruction) :
    account_count (borrow instruction) = account_count instruction := Sysvar.borrow_account_count instruction
@[simp] theorem account_borrow (instruction : Instruction) (index : Nat) :
    account (borrow instruction) index = account instruction index := Sysvar.borrow_account instruction index
@[simp] theorem accounts_borrow (instruction : Instruction) :
    accounts (borrow instruction) = accounts instruction := Sysvar.borrow_accounts instruction
@[simp] theorem data_borrow (instruction : Instruction) : data (borrow instruction) = data instruction := rfl

theorem check_route_borrow (trade : Instruction) (role : ProtectedRole) (protected_mint : Key) :
    check_route (borrow trade) role protected_mint = check_route trade role protected_mint := by
  simp only [check_route, account_count_borrow, account_borrow, data_borrow]
theorem check_setup_borrow (setup : Instruction) (route : Route) :
    check_setup (borrow setup) route = check_setup setup route := by
  simp only [check_setup, account_count_borrow, account_borrow, data_borrow]
theorem check_compute_budget_borrow (instruction : Instruction) (tag : UInt8) (len : Nat) :
    check_compute_budget (borrow instruction) tag len = check_compute_budget instruction tag len := by
  simp only [check_compute_budget, account_count_borrow, data_borrow]
theorem check_positions_borrow (platform : Platform) (price limit : Instruction) (setup : Option Instruction)
    (trade : Instruction) (role : ProtectedRole) (protected_mint : Key) :
    check_positions platform (borrow price) (borrow limit) (setup.map borrow) (borrow trade) role protected_mint =
      check_positions platform price limit setup trade role protected_mint := by
  cases setup with
  | none =>
    simp only [check_positions, Option.map_none, Option.all_none, program_id_borrow, check_compute_budget_borrow,
      check_route_borrow]
    rfl
  | some setup =>
    simp only [check_positions, Option.map_some, Option.all_some, program_id_borrow, check_compute_budget_borrow,
      check_route_borrow, check_setup_borrow]
    rfl
theorem check_suffix_borrow (platform : Platform) (suffix : List Instruction) (role : ProtectedRole)
    (protected_mint : Key) :
    check_suffix platform (suffix.map borrow) role protected_mint =
      check_suffix platform suffix role protected_mint := by
  match suffix with
  | [price, limit, trade] => exact check_positions_borrow platform price limit none trade role protected_mint
  | [price, limit, setup, trade] =>
    exact check_positions_borrow platform price limit (some setup) trade role protected_mint
  | [] | [_] | [_, _] | _ :: _ :: _ :: _ :: _ :: _ => rfl
theorem instruction_encoded_borrow (instruction : Instruction) :
    instruction_encoded (borrow instruction) = instruction_encoded instruction := by
  simp only [instruction_encoded, program_id_borrow, account_count_borrow, accounts_borrow, data_borrow]
theorem jupiter_suffix_commitment_borrow (sha256 : List UInt8 → Chunk 32) (suffix : List Instruction) :
    jupiter_suffix_commitment sha256 (suffix.map borrow) = jupiter_suffix_commitment sha256 suffix := by
  have encoded : (suffix.map borrow).mapM instruction_encoded = suffix.mapM instruction_encoded := by
    rw [List.mapM_map]
    congr 1
    funext instruction
    exact instruction_encoded_borrow instruction
  rw [jupiter_suffix_commitment, jupiter_suffix_commitment, jupiter_suffix_encoded, jupiter_suffix_encoded, encoded,
    List.length_map]

/-! ### The suffix read from the sysvar -/

theorem mapM_range' {α : Type} (items : List α) (start count : Nat) (finish : start + count = items.length) :
    (List.range' start count).mapM (fun index => items[index]?) = some (items.drop start) := by
  induction count generalizing start with
  | zero => rw [List.drop_eq_nil_of_le (by omega)]; rfl
  | succ count ih =>
    have inside : start < items.length := by omega
    rw [List.range'_succ, List.mapM_cons, List.getElem?_eq_getElem inside, ih (start + 1) (by omega),
      List.drop_eq_getElem_cons inside]
    rfl
theorem suffix_serialize {instructions : List Instruction} (fits : Sysvar.Fits instructions) (current : Nat)
    (nonempty : 0 < instructions.length) :
    (List.range' 1 (instructions.length - 1)).mapM
      (fun index => instruction_at (Sysvar.serialize instructions current) index) =
        some ((instructions.drop 1).map borrow) := by
  have reads : (fun index => instruction_at (Sysvar.serialize instructions current) index) =
      fun index => (instructions.map borrow)[index]? := by
    funext index
    rw [Sysvar.instruction_at_serialize fits, List.getElem?_map]
  rw [reads, mapM_range' _ 1 (instructions.length - 1) (by rw [List.length_map]; omega), List.map_drop]
theorem encodable_of_fits {instructions : List Instruction} (fits : Sysvar.Fits instructions) :
    ∀ instruction ∈ instructions, Encodable instruction := by
  intro instruction member
  obtain ⟨accounts, data⟩ := fits.2.1 instruction member
  exact ⟨Nat.lt_trans accounts (by decide), Nat.lt_trans data (by decide)⟩

/-! ### The reader and its two account paths -/

/-- On this input the reader returns these instructions and no others. -/
structure ReadsExactly (instructions : List Instruction) (input : List UInt8) : Prop where
  count : instruction_count input = some instructions.length
  each : ∀ (index : Nat) (instruction : Instruction), instructions[index]? = some instruction →
    ∃ borrowed, instruction_at input index = some borrowed ∧ Sysvar.Shows borrowed instruction
  past : ∀ index, instructions.length ≤ index → instruction_at input index = none
/-- What is read lies inside the input, and the indexed accounts are those of the iterator. -/
structure ReadsInside (input : List UInt8) (index : Nat) (borrowed : InstructionRef) : Prop where
  inside : ∃ offset account_count data_len table before after,
    Sysvar.ReadFrom input index borrowed offset account_count data_len table before after
  count : borrowed.account_count = borrowed.accounts.length
  account : ∀ position, borrowed.account position = borrowed.accounts[position]?

theorem reads_exactly {instructions : List Instruction} (fits : Sysvar.Fits instructions) (current : Nat) :
    ReadsExactly instructions (Sysvar.serialize instructions current) where
  count := Sysvar.instruction_count_serialize fits current
  each := by
    intro index instruction found
    refine ⟨borrow instruction, ?_, Sysvar.borrow_shows instruction⟩
    rw [Sysvar.instruction_at_serialize fits, found, Option.map_some]
  past := by
    intro index beyond
    rw [Sysvar.instruction_at_serialize fits, List.getElem?_eq_none beyond, Option.map_none]
theorem reads_inside {input : List UInt8} {index : Nat} {borrowed : InstructionRef}
    (read : instruction_at input index = some borrowed) : ReadsInside input index borrowed where
  inside := Sysvar.instruction_at_read read
  count := (InstructionRef.accounts_length (Sysvar.whole_of_read read)).symm
  account := InstructionRef.account_eq_getElem? (Sysvar.whole_of_read read)
/-- Instructions whose two account paths agree in number are hashed, or are too long. -/
theorem jupiter_suffix_commitment_throws (sha256 : List UInt8 → Chunk 32) {suffix : List InstructionRef}
    (counted : ∀ borrowed ∈ suffix, borrowed.account_count = borrowed.accounts.length) :
    Throws (fun error => error = .ArithmeticOverflow) (jupiter_suffix_commitment sha256 suffix) := by
  have fits (length : Nat) : Throws (fun error => error = .ArithmeticOverflow) (u32_try_from length) := by
    unfold u32_try_from
    split
    · exact .ok _
    · exact .error rfl
  have encoded : ∀ borrowed ∈ suffix, Throws (fun error => error = .ArithmeticOverflow) (instruction_encoded borrowed) := by
    intro borrowed member
    refine .bind (fits _) (fun _ _ => .bind (fits _) (fun _ _ => .bind (.refuse_if ?_) (fun _ _ => .ok _)))
    intro differs
    exact absurd (counted borrowed member).symm differs
  exact .bind (.bind (fits _) (fun _ _ => .bind (.mapM encoded) (fun _ _ => .ok _))) (fun _ _ => .ok _)
/-- The in-place reader is exact on every serialized transaction and bounded on any bytes, so that the two account
    paths never differ and the commitment never refuses what was read. -/
theorem sysvar_reader_exact :
    (∀ instructions current, Sysvar.Fits instructions → ReadsExactly instructions (Sysvar.serialize instructions current)) ∧
    (∀ input index borrowed, instruction_at input index = some borrowed → ReadsInside input index borrowed) ∧
    ∀ sha256 (suffix : List InstructionRef), (∀ borrowed ∈ suffix, ∃ input index, instruction_at input index = some borrowed) →
      jupiter_suffix_commitment sha256 suffix ≠ .error .InvalidInstructionsSysvar := by
  refine ⟨fun _ current fits => reads_exactly fits current, fun _ _ _ read => reads_inside read, ?_⟩
  intro sha256 suffix read refused
  have counted : ∀ borrowed ∈ suffix, borrowed.account_count = borrowed.accounts.length := by
    intro borrowed member
    obtain ⟨input, index, found⟩ := read borrowed member
    exact (reads_inside found).count
  cases jupiter_suffix_commitment_throws sha256 counted _ refused
/-- An instruction with no accounts, and one with a signer. -/
theorem sysvar_reader_exact_two :
    let instructions : List Instruction :=
      [⟨COMPUTE_BUDGET_PROGRAM_ID, [], [2, 0]⟩, ⟨JUPITER_PROGRAM_ID, [⟨USDC_MINT, true, false⟩], []⟩]
    ReadsExactly instructions (Sysvar.serialize instructions 0) ∧
      ReadsInside (Sysvar.serialize instructions 0) 1 (borrow ⟨JUPITER_PROGRAM_ID, [⟨USDC_MINT, true, false⟩], []⟩) ∧
      ∀ sha256, jupiter_suffix_commitment sha256 [borrow ⟨JUPITER_PROGRAM_ID, [⟨USDC_MINT, true, false⟩], []⟩] ≠
        .error .InvalidInstructionsSysvar := by
  intro instructions
  have fits : Sysvar.Fits instructions := by decide
  have read : instruction_at (Sysvar.serialize instructions 0) 1 =
      some (borrow ⟨JUPITER_PROGRAM_ID, [⟨USDC_MINT, true, false⟩], []⟩) := Sysvar.instruction_at_serialize fits 0 1
  refine ⟨sysvar_reader_exact.1 _ 0 fits, sysvar_reader_exact.2.1 _ _ _ read, ?_⟩
  intro sha256
  refine sysvar_reader_exact.2.2 sha256 _ ?_
  simp only [List.mem_singleton, forall_eq]
  exact ⟨_, _, read⟩

/-- What follows the guard is hashed without fail. -/
theorem jupiter_suffix_commitment_eq (sha256 : List UInt8 → Chunk 32) {instructions : List Instruction}
    (fits : Sysvar.Fits instructions) :
    jupiter_suffix_commitment sha256 (instructions.drop 1) =
      .ok (sha256 (JUPITER_SUFFIX_COMMITMENT_DOMAIN ++ (leBytes 4 (instructions.drop 1).length ++
        (instructions.drop 1).flatMap instruction_bytes))) := by
  have count : (instructions.drop 1).length < 2 ^ 32 := by
    have small := fits.1
    rw [List.length_drop]
    omega
  have encodable : ∀ instruction ∈ instructions.drop 1, Encodable instruction :=
    fun instruction member => encodable_of_fits fits instruction (List.mem_of_mem_drop member)
  rw [jupiter_suffix_commitment, jupiter_suffix_encoded_eq, if_pos ⟨count, encodable⟩]
  rfl
/-- On a serialized transaction, the program checks the list itself. -/
theorem verify_jupiter_suffix_serialize (platform : Platform) (current : UInt16) (role : ProtectedRole)
    (request : AssertSafeExecutionV2) (mint_key : Key) {instructions_sysvar : AccountInfo}
    {instructions : List Instruction} {index : Nat} (fits : Sysvar.Fits instructions)
    (loaded : instructions_sysvar.data = some (Sysvar.serialize instructions index)) :
    verify_jupiter_suffix platform current role request mint_key instructions_sysvar = (do
      refuse_if (current ≠ 0) .GuardNotFirst
      check_suffix platform (instructions.drop 1) role mint_key
      let commitment ← jupiter_suffix_commitment platform.sha256 (instructions.drop 1)
      refuse_if (commitment ≠ request.downstream_commitment) .DownstreamCommitmentMismatch) := by
  rw [verify_jupiter_suffix, loaded, ok_or_some, ok_bind, Sysvar.instruction_count_serialize fits, ok_or_some, ok_bind]
  simp only [refuse_if_bind]
  by_cases first : current ≠ 0
  · rw [if_pos first, if_pos first]
  rw [if_neg first, if_neg first]
  by_cases admissible : instructions.length - 1 ≠ SUFFIX_WITHOUT_SETUP ∧ instructions.length - 1 ≠ SUFFIX_WITH_SETUP
  · have length : (instructions.drop 1).length ≠ 3 ∧ (instructions.drop 1).length ≠ 4 := by
      rw [List.length_drop]
      exact admissible
    have refused : check_suffix platform (instructions.drop 1) role mint_key = .error .UnsupportedTransactionGrammar := by
      generalize instructions.drop 1 = suffix at length
      match suffix with
      | [] | [_] | [_, _] | _ :: _ :: _ :: _ :: _ :: _ => rfl
      | [_, _, _] => exact absurd rfl length.1
      | [_, _, _, _] => exact absurd rfl length.2
    rw [if_pos admissible, refused, error_bind]
  · have nonempty : 0 < instructions.length := by
      simp only [SUFFIX_WITHOUT_SETUP, SUFFIX_WITH_SETUP] at admissible
      omega
    rw [if_neg admissible, suffix_serialize fits index nonempty, ok_or_some, ok_bind, check_suffix_borrow,
      jupiter_suffix_commitment_borrow]

/-! ### What an accepted suffix is -/

def IsComputeBudget (instruction : Instruction) (tag : UInt8) (len : Nat) : Prop :=
  instruction.program_id = COMPUTE_BUDGET_PROGRAM_ID ∧ instruction.accounts = [] ∧ instruction.data.length = len ∧
  instruction.data.head? = some tag
/-- `CreateIdempotent` of this trade's destination account. -/
def CreatesDestination (setup : Instruction) (route : Route) : Prop :=
  setup.program_id = ASSOCIATED_TOKEN_PROGRAM_ID ∧ setup.data = CREATE_IDEMPOTENT_DATA ∧
  ∃ payer ata owner mint system_program token_program,
    setup.accounts = [payer, ata, owner, mint, system_program, token_program] ∧ payer.is_signer = true ∧
    ata.pubkey = route.destination ∧ owner.pubkey = route.authority ∧ mint.pubkey = route.destination_mint ∧
    system_program.pubkey = SYSTEM_PROGRAM_ID ∧ token_program.pubkey = route.destination_token_program
/-- A fee-free `route_v2` between the protected mint and USDC, on the side the role says. -/
def IsRouteV2 (trade : Instruction) (role : ProtectedRole) (protected_mint : Key) (route : Route) : Prop :=
  trade.program_id = JUPITER_PROGRAM_ID ∧
  ∃ (fixed : RouteAccounts) (start : RouteV2Prefix),
    trade.accounts = fixed.list ∧ RouteV2Prefix.decode trade.data = some start ∧ fixed.route = route ∧
    fixed.program.pubkey = JUPITER_PROGRAM_ID ∧ Structured fixed start ∧
    fixed.destination_override.pubkey = JUPITER_PROGRAM_ID ∧
    route.sides role = (protected_mint, TOKEN_2022_PROGRAM_ID, USDC_MINT, LEGACY_TOKEN_PROGRAM_ID) ∧
    start.platform_fee_bps = 0 ∧ start.positive_slippage_bps = 0
/-- Compute-unit price, compute-unit limit, at most one setup, the trade, and nothing else. -/
def SupportedSuffix (platform : Platform) (suffix : List Instruction) (role : ProtectedRole) (protected_mint : Key) :
    Prop :=
  ∃ (price limit : Instruction) (setup : Option Instruction) (trade : Instruction) (route : Route),
    suffix = price :: limit :: (setup.toList ++ [trade]) ∧
    IsComputeBudget price SET_COMPUTE_UNIT_PRICE_TAG SET_COMPUTE_UNIT_PRICE_LEN ∧
    IsComputeBudget limit SET_COMPUTE_UNIT_LIMIT_TAG SET_COMPUTE_UNIT_LIMIT_LEN ∧
    IsRouteV2 trade role protected_mint route ∧ (∀ created ∈ setup, CreatesDestination created route) ∧
    canonical_ata platform route.authority route.source_mint route.source_token_program = route.source ∧
    canonical_ata platform route.authority route.destination_mint route.destination_token_program = route.destination

theorem check_compute_budget_eq_ok {instruction : Instruction} {tag : UInt8} {len : Nat} {done : Unit} :
    check_compute_budget instruction tag len = .ok done ↔
      instruction.accounts = [] ∧ instruction.data.length = len ∧ instruction.data.head? = some tag := by
  have counted : account_count instruction = 0 ↔ instruction.accounts = [] := List.length_eq_zero_iff
  unfold check_compute_budget
  split
  · rename_i holds
    exact ⟨fun _ => ⟨counted.mp holds.1, holds.2⟩, fun _ => rfl⟩
  · rename_i fails
    constructor
    · intro accepted
      cases accepted
    · rintro ⟨empty, rest⟩
      exact absurd ⟨counted.mpr empty, rest⟩ fails
theorem check_route_eq_ok {trade : Instruction} {role : ProtectedRole} {protected_mint : Key} {route : Route}
    (jupiter : trade.program_id = JUPITER_PROGRAM_ID) :
    check_route trade role protected_mint = .ok route ↔ IsRouteV2 trade role protected_mint route := by
  by_cases enough : route_account.FIXED ≤ trade.accounts.length
  swap
  · rw [check_route_few (Nat.lt_of_not_le enough)]
    constructor
    · intro accepted
      cases accepted
    · rintro ⟨_, fixed, _, accounts, _⟩
      rw [accounts] at enough
      exact absurd (by simp [RouteAccounts.list, route_account.FIXED]) enough
  obtain ⟨fixed, accounts⟩ := exists_accounts enough
  cases decoded : RouteV2Prefix.decode trade.data with
  | none =>
    rw [check_route_undecoded decoded]
    constructor
    · intro accepted
      cases accepted
    · rintro ⟨_, _, _, _, known, _⟩
      rw [decoded] at known
      cases known
  | some start =>
    rw [check_route_fixed accounts decoded]
    simp only [bind_eq_ok, refuse_if_eq_ok, exists_const, not_not, not_or, ne_eq, pure_eq_ok, Except.ok.injEq]
    constructor
    · rintro ⟨program, structured, override, mint, usdc, ⟨token2022, legacy⟩, ⟨platformFee, slippageFee⟩, rfl⟩
      exact ⟨jupiter, fixed, start, accounts, decoded, rfl, program, structured, override,
        Prod.ext mint (Prod.ext token2022 (Prod.ext usdc legacy)), platformFee, slippageFee⟩
    · rintro ⟨_, other, otherStart, otherAccounts, otherDecoded, rfl, program, structured, override, sides, fees⟩
      obtain rfl := Option.some.inj (decoded.symm.trans otherDecoded)
      obtain rfl : fixed = other := by
        have lists := accounts.symm.trans otherAccounts
        simp only [RouteAccounts.list, List.cons.injEq] at lists
        exact RouteAccounts.ext_iff.mpr lists
      rw [sides]
      exact ⟨program, structured, override, rfl, rfl, ⟨rfl, rfl⟩, fees, rfl⟩

theorem check_setup_accounts {setup : Instruction} {payer ata owner mint system_program token_program : AccountMeta}
    (accounts : setup.accounts = [payer, ata, owner, mint, system_program, token_program]) (route : Route) :
    check_setup setup route = if setup.data = CREATE_IDEMPOTENT_DATA ∧ payer.is_signer = true ∧
      ata.pubkey = route.destination ∧ owner.pubkey = route.authority ∧ mint.pubkey = route.destination_mint ∧
      system_program.pubkey = SYSTEM_PROGRAM_ID ∧ token_program.pubkey = route.destination_token_program
    then .ok () else .error .InvalidAtaSetup := by
  have count : account_count setup = CREATE_IDEMPOTENT_ACCOUNTS := by
    show setup.accounts.length = 6
    rw [accounts]
    rfl
  have read : ∀ index, account setup index = [payer, ata, owner, mint, system_program, token_program][index]? := by
    intro index
    show setup.accounts[index]? = _
    rw [accounts]
  have payerRead : account setup ata_account.PAYER = some payer := read _
  have ataRead : account setup ata_account.ATA = some ata := read _
  have ownerRead : account setup ata_account.OWNER = some owner := read _
  have mintRead : account setup ata_account.MINT = some mint := read _
  have systemRead : account setup ata_account.SYSTEM_PROGRAM = some system_program := read _
  have tokenRead : account setup ata_account.TOKEN_PROGRAM = some token_program := read _
  have held := all_hold_ok [payer.is_signer, decide (ata.pubkey = route.destination),
    decide (owner.pubkey = route.authority), decide (mint.pubkey = route.destination_mint),
    decide (system_program.pubkey = SYSTEM_PROGRAM_ID),
    decide (token_program.pubkey = route.destination_token_program)]
  simp only [List.map_cons, List.map_nil] at held
  simp only [check_setup, payerRead, ataRead, ownerRead, mintRead, systemRead, tokenRead, ok_or_some, ok_bind, pure_eq_ok,
    held, refuse_if, count, ne_eq, not_true_eq_false, false_or]
  by_cases idempotent : setup.data = CREATE_IDEMPOTENT_DATA
  · have same : data setup = CREATE_IDEMPOTENT_DATA := idempotent
    split <;> split <;> simp_all
  · have differs : ¬ data setup = CREATE_IDEMPOTENT_DATA := idempotent
    simp [idempotent, differs]
theorem check_setup_other {setup : Instruction} (other : setup.accounts.length ≠ CREATE_IDEMPOTENT_ACCOUNTS)
    (route : Route) : check_setup setup route = .error .InvalidAtaSetup := by
  have count : account_count setup ≠ CREATE_IDEMPOTENT_ACCOUNTS := other
  rw [check_setup, refuse_if_bind, if_pos (.inl count)]
theorem exists_six {α : Type} {items : List α} (six : items.length = CREATE_IDEMPOTENT_ACCOUNTS) :
    ∃ a b c d e f, items = [a, b, c, d, e, f] := by
  match items with
  | [a, b, c, d, e, f] => exact ⟨a, b, c, d, e, f, rfl⟩
  | [] | [_] | [_, _] | [_, _, _] | [_, _, _, _] | [_, _, _, _, _] | _ :: _ :: _ :: _ :: _ :: _ :: _ :: _ =>
    simp [CREATE_IDEMPOTENT_ACCOUNTS] at six
theorem check_setup_eq_ok {setup : Instruction} {route : Route} {done : Unit}
    (program : setup.program_id = ASSOCIATED_TOKEN_PROGRAM_ID) :
    check_setup setup route = .ok done ↔ CreatesDestination setup route := by
  by_cases six : setup.accounts.length = CREATE_IDEMPOTENT_ACCOUNTS
  · obtain ⟨payer, ata, owner, mint, system_program, token_program, accounts⟩ := exists_six six
    rw [check_setup_accounts accounts]
    constructor
    · intro accepted
      split at accepted
      · rename_i holds
        exact ⟨program, holds.1, payer, ata, owner, mint, system_program, token_program, accounts, holds.2⟩
      · cases accepted
    · rintro ⟨_, idempotent, payer', ata', owner', mint', system_program', token_program', accounts', holds⟩
      have same := accounts.symm.trans accounts'
      simp only [List.cons.injEq, and_true] at same
      obtain ⟨rfl, rfl, rfl, rfl, rfl, rfl⟩ := same
      rw [if_pos ⟨idempotent, holds⟩]
  · rw [check_setup_other six]
    constructor
    · intro accepted
      cases accepted
    · rintro ⟨_, _, _, _, _, _, _, _, accounts, _⟩
      rw [accounts] at six
      exact absurd rfl six

/-- The checks over the positions accept exactly the supported trades. -/
theorem check_positions_eq_ok {platform : Platform} {price limit : Instruction} {setup : Option Instruction}
    {trade : Instruction} {role : ProtectedRole} {protected_mint : Key} :
    check_positions platform price limit setup trade role protected_mint = .ok () ↔
      ∃ route,
        IsComputeBudget price SET_COMPUTE_UNIT_PRICE_TAG SET_COMPUTE_UNIT_PRICE_LEN ∧
        IsComputeBudget limit SET_COMPUTE_UNIT_LIMIT_TAG SET_COMPUTE_UNIT_LIMIT_LEN ∧
        IsRouteV2 trade role protected_mint route ∧ (∀ created ∈ setup, CreatesDestination created route) ∧
        canonical_ata platform route.authority route.source_mint route.source_token_program = route.source ∧
        canonical_ata platform route.authority route.destination_mint route.destination_token_program =
          route.destination := by
  cases setup with
  | none =>
    simp only [check_positions, Option.all_none, then_eq_ok, refuse_if_eq_ok, check_compute_budget_eq_ok]
    simp only [bind_eq_ok, refuse_if_eq_ok, not_or, ne_eq, not_not, Option.not_mem_none]
    constructor
    · rintro ⟨⟨priceProgram, limitProgram, _⟩, jupiter, price, limit, route, checked, _, _, _, source, destination⟩
      exact ⟨route, ⟨priceProgram, price⟩, ⟨limitProgram, limit⟩, (check_route_eq_ok jupiter).mp checked,
        fun _ absent => absent.elim, source, destination⟩
    · rintro ⟨route, price, limit, trade, _, source, destination⟩
      exact ⟨⟨price.1, limit.1, Bool.noConfusion⟩, trade.1, price.2, limit.2, route,
        (check_route_eq_ok trade.1).mpr trade, (), trivial, (), source, destination⟩
  | some setup =>
    simp only [check_positions, Option.all_some, then_eq_ok, refuse_if_eq_ok, check_compute_budget_eq_ok]
    simp only [bind_eq_ok, refuse_if_eq_ok, not_or, ne_eq, not_not, Option.mem_some_iff, forall_eq',
      decide_eq_false_iff_not]
    constructor
    · rintro ⟨⟨priceProgram, limitProgram, ata⟩, jupiter, price, limit, route, checked, _, created, _, source, destination⟩
      exact ⟨route, ⟨priceProgram, price⟩, ⟨limitProgram, limit⟩, (check_route_eq_ok jupiter).mp checked,
        (check_setup_eq_ok ata).mp created, source, destination⟩
    · rintro ⟨route, price, limit, trade, created, source, destination⟩
      exact ⟨⟨price.1, limit.1, created.1⟩, trade.1, price.2, limit.2, route, (check_route_eq_ok trade.1).mpr trade, (),
        (check_setup_eq_ok created.1).mpr created, (), source, destination⟩
/-- The suffix checks accept exactly the supported suffixes. -/
theorem check_suffix_eq_ok {platform : Platform} {suffix : List Instruction} {role : ProtectedRole}
    {protected_mint : Key} :
    check_suffix platform suffix role protected_mint = .ok () ↔ SupportedSuffix platform suffix role protected_mint := by
  constructor
  · intro accepted
    match suffix, accepted with
    | [price, limit, trade], accepted =>
      obtain ⟨route, supported⟩ := check_positions_eq_ok.mp accepted
      exact ⟨price, limit, none, trade, route, rfl, supported⟩
    | [price, limit, setup, trade], accepted =>
      obtain ⟨route, supported⟩ := check_positions_eq_ok.mp accepted
      exact ⟨price, limit, some setup, trade, route, rfl, supported⟩
  · rintro ⟨price, limit, setup, trade, route, rfl, supported⟩
    have accepted := check_positions_eq_ok.mpr ⟨route, supported⟩
    cases setup with
    | none => exact accepted
    | some setup => exact accepted

end EquityGuard.Jupiter
