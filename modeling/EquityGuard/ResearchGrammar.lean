import EquityGuard.ClientJupiter
import EquityGuard.ResearchSuffix

/-!
The research model of the transaction grammar, which reports every failure that it finds,
and how the program's grammar narrows it.
-/
namespace EquityGuard.ResearchGrammar
open EquityGuard.Addresses EquityGuard.Bytes EquityGuard.Errors EquityGuard.Hex EquityGuard.Transaction
open EquityGuard.ClientJupiter (hexOf)
open EquityGuard.Jupiter (CreatesDestination IsComputeBudget IsRouteV2 Platform ProtectedRole Route RouteAccounts RouteFields
  RouteV2Prefix Structured SupportedSuffix)
open EquityGuard.ResearchSuffix (AccountMetaLike InstructionLike)

/-! ### The trade instruction -/

def JUPITER_V6_PROGRAM_ID : String := "JUP6LkbZbjS1jKKwapdHNy74zcZ3tLUZoi5QNyVTaV4"
def ROUTE_V2_DISCRIMINATOR : String := "bb64facc31c4af14"
def OTHER_V6_DISCRIMINATORS : List (String × String) := [
  ("e517cb977ae3ad2a", "route"),
  ("96564774a75d0e68", "route_with_token_ledger"),
  ("c1209b3341d69c81", "shared_accounts_route"),
  ("e6798f50779f6aaa", "shared_accounts_route_with_token_ledger"),
  ("d033ef977b2bed5c", "exact_out_route"),
  ("b0d169a89a7d453e", "shared_accounts_exact_out_route"),
  ("9d8ab85215f4f324", "exact_out_route_v2"),
  ("d19853937cfed8e9", "shared_accounts_route_v2"),
  ("3560e5cad8bbfa18", "shared_accounts_exact_out_route_v2")]
namespace ROUTE_V2_ACCOUNTS
def userTransferAuthority : Nat := 0
def userSourceTokenAccount : Nat := 1
def userDestinationTokenAccount : Nat := 2
def sourceMint : Nat := 3
def destinationMint : Nat := 4
def sourceTokenProgram : Nat := 5
def destinationTokenProgram : Nat := 6
def destinationTokenAccountOverride : Nat := 7
end ROUTE_V2_ACCOUNTS
def ROUTE_V2_FIXED_ACCOUNTS : Nat := 10
def ROUTE_V2_PREFIX_LEN : Nat := 34

structure RouteV2 where
  userTransferAuthority : String
  userSourceTokenAccount : String
  userDestinationTokenAccount : String
  sourceMint : String
  destinationMint : String
  sourceTokenProgram : String
  destinationTokenProgram : String
  destinationTokenAccountOverride : Option String
  inAmount : Nat
  quotedOutAmount : Nat
  slippageBps : Nat
  platformFeeBps : Nat
  positiveSlippageBps : Nat
  routePlanSteps : Nat
  routePlanTailHex : String
  venueAccountCount : Nat
inductive DecodeCode where
  | WRONG_PROGRAM
  | TRUNCATED
  | WRONG_INSTRUCTION
  | TOO_FEW_ACCOUNTS
deriving DecidableEq
structure RouteV2DecodeError where
  code : DecodeCode
  message : String

/-- A little-endian integer of a buffer that is long enough for it. -/
def readUIntLE (size : Nat) (data : List UInt8) (offset : Nat) : Nat := leNat ((data.drop offset).take size)
def decodeRouteV2 (instruction : InstructionLike) : Except RouteV2DecodeError RouteV2 := do
  refuse_if (instruction.programId ≠ JUPITER_V6_PROGRAM_ID)
    ⟨.WRONG_PROGRAM, "expected " ++ JUPITER_V6_PROGRAM_ID ++ ", got " ++ instruction.programId⟩
  let data := bufferFromHex instruction.dataHex
  refuse_if (data.length < ROUTE_V2_PREFIX_LEN)
    ⟨.TRUNCATED, toString data.length ++ " bytes is shorter than the 34-byte prefix"⟩
  let discriminator := hexOf (data.take 8)
  refuse_if (discriminator ≠ ROUTE_V2_DISCRIMINATOR)
    ⟨.WRONG_INSTRUCTION, match OTHER_V6_DISCRIMINATORS.lookup discriminator with
      | some known => known ++ " has a different account order"
      | none => "unknown discriminator " ++ discriminator⟩
  refuse_if (instruction.accounts.length < ROUTE_V2_FIXED_ACCOUNTS)
    ⟨.TOO_FEW_ACCOUNTS, toString instruction.accounts.length ++ " accounts, 10 fixed ones required"⟩
  let at_ (index : Nat) : String := ((instruction.accounts[index]?).map AccountMetaLike.pubkey).getD ""
  let override := at_ ROUTE_V2_ACCOUNTS.destinationTokenAccountOverride
  return {
    userTransferAuthority := at_ ROUTE_V2_ACCOUNTS.userTransferAuthority
    userSourceTokenAccount := at_ ROUTE_V2_ACCOUNTS.userSourceTokenAccount
    userDestinationTokenAccount := at_ ROUTE_V2_ACCOUNTS.userDestinationTokenAccount
    sourceMint := at_ ROUTE_V2_ACCOUNTS.sourceMint
    destinationMint := at_ ROUTE_V2_ACCOUNTS.destinationMint
    sourceTokenProgram := at_ ROUTE_V2_ACCOUNTS.sourceTokenProgram
    destinationTokenProgram := at_ ROUTE_V2_ACCOUNTS.destinationTokenProgram
    destinationTokenAccountOverride := if override = JUPITER_V6_PROGRAM_ID then none else some override
    inAmount := readUIntLE 8 data 8
    quotedOutAmount := readUIntLE 8 data 16
    slippageBps := readUIntLE 2 data 24
    platformFeeBps := readUIntLE 2 data 26
    positiveSlippageBps := readUIntLE 2 data 28
    routePlanSteps := readUIntLE 4 data 30
    routePlanTailHex := hexOf (data.drop ROUTE_V2_PREFIX_LEN)
    venueAccountCount := instruction.accounts.length - ROUTE_V2_FIXED_ACCOUNTS
  }

inductive TradeDirection where
  | BUY
  | SELL
deriving DecidableEq
structure ProtectedTrade where
  protectedMint : String
  direction : TradeDirection
  counterMint : String
  userAuthority : String
  userDestinationTokenAccount : String
  inAmount : Nat
  quotedOutAmount : Nat
  slippageBps : Nat

/-- The failures of the trade, `SemanticFailure`, and of the grammar around it. -/
inductive GrammarFailure where
  | EMPTY_SUFFIX
  | GUARD_NOT_AT_INDEX_ZERO
  | TRADE_NOT_LAST
  | UNSUPPORTED_PROGRAM
  | UNSUPPORTED_COMPUTE_BUDGET_INSTRUCTION
  | DUPLICATE_COMPUTE_UNIT_PRICE
  | DUPLICATE_COMPUTE_UNIT_LIMIT
  | UNSUPPORTED_ASSOCIATED_TOKEN_INSTRUCTION
  | DUPLICATE_SETUP
  | SETUP_NOT_FOR_THE_TRADE
  | SETUP_PAYER_NOT_SIGNER
  | SECOND_JUPITER_INSTRUCTION
  | SOURCE_NOT_CANONICAL_ATA
  | DESTINATION_NOT_CANONICAL_ATA
  | PROGRAM_NOT_JUPITER
  | UNSUPPORTED_JUPITER_INSTRUCTION
  | PROTECTED_MINT_NOT_IN_EXPECTED_ROLE
  | COUNTER_MINT_MISMATCH
  | AUTHORITY_MISMATCH
  | AUTHORITY_NOT_SIGNER
  | DESTINATION_MISMATCH
  | DESTINATION_OVERRIDDEN
  | IN_AMOUNT_MISMATCH
  | QUOTED_OUT_MISMATCH
  | SLIPPAGE_MISMATCH
  | PLATFORM_FEE_PRESENT
deriving DecidableEq

/-- The mints on the protected and on the other side. -/
def sidesOf (route : RouteV2) : TradeDirection → String × String
  | .BUY => (route.destinationMint, route.sourceMint)
  | .SELL => (route.sourceMint, route.destinationMint)
def checkSemanticBinding (instruction : InstructionLike) (expected : ProtectedTrade) : List GrammarFailure :=
  match decodeRouteV2 instruction with
  | .error error => [if error.code = .WRONG_PROGRAM then .PROGRAM_NOT_JUPITER else .UNSUPPORTED_JUPITER_INSTRUCTION]
  | .ok route =>
    let (protectedSide, counterSide) := sidesOf route expected.direction
    pushed [
      (protectedSide ≠ expected.protectedMint, .PROTECTED_MINT_NOT_IN_EXPECTED_ROLE),
      (counterSide ≠ expected.counterMint, .COUNTER_MINT_MISMATCH),
      (route.userTransferAuthority ≠ expected.userAuthority, .AUTHORITY_MISMATCH),
      (!(instruction.accounts[ROUTE_V2_ACCOUNTS.userTransferAuthority]?).any AccountMetaLike.isSigner, .AUTHORITY_NOT_SIGNER),
      (route.userDestinationTokenAccount ≠ expected.userDestinationTokenAccount, .DESTINATION_MISMATCH),
      (route.destinationTokenAccountOverride.isSome, .DESTINATION_OVERRIDDEN),
      (route.inAmount ≠ expected.inAmount, .IN_AMOUNT_MISMATCH),
      (route.quotedOutAmount ≠ expected.quotedOutAmount, .QUOTED_OUT_MISMATCH),
      (route.slippageBps ≠ expected.slippageBps, .SLIPPAGE_MISMATCH),
      (route.platformFeeBps ≠ 0, .PLATFORM_FEE_PRESENT)]

/-! ### The grammar -/

def COMPUTE_BUDGET_PROGRAM_ID : String := "ComputeBudget111111111111111111111111111111"
def ASSOCIATED_TOKEN_PROGRAM_ID : String := "ATokenGPvbdGVxr1b2hvZbsiqW5xWH25efTNsLJA8knL"
def SYSTEM_PROGRAM_ID : String := "11111111111111111111111111111111"
namespace SET_COMPUTE_UNIT_LIMIT
def tag : UInt8 := 2
def len : Nat := 5
end SET_COMPUTE_UNIT_LIMIT
namespace SET_COMPUTE_UNIT_PRICE
def tag : UInt8 := 3
def len : Nat := 9
end SET_COMPUTE_UNIT_PRICE
namespace CREATE_IDEMPOTENT
def data : String := "01"
def accounts : Nat := 6
end CREATE_IDEMPOTENT

/-- `address` throws on a text that is none. -/
def canonicalAta (platform : Platform) (owner mint tokenProgram : String) : Option String :=
  if valid : isAddress owner = true ∧ isAddress mint = true ∧ isAddress tokenProgram = true then
    some (ClientJupiter.canonicalAta platform ⟨owner, valid.1⟩ ⟨mint, valid.2.1⟩ ⟨tokenProgram, valid.2.2⟩).text
  else none
def checkSetup (instruction : InstructionLike) (route : RouteV2) : List GrammarFailure :=
  if instruction.dataHex ≠ CREATE_IDEMPOTENT.data ∨ instruction.accounts.length ≠ CREATE_IDEMPOTENT.accounts then
    [.UNSUPPORTED_ASSOCIATED_TOKEN_INSTRUCTION]
  else
    let account (index : Nat) : Option String := (instruction.accounts[index]?).map AccountMetaLike.pubkey
    let matching := account 1 = some route.userDestinationTokenAccount ∧ account 2 = some route.userTransferAuthority ∧
      account 3 = some route.destinationMint ∧ account 4 = some SYSTEM_PROGRAM_ID ∧
      account 5 = some route.destinationTokenProgram
    pushed [
      (!(instruction.accounts[0]?).any AccountMetaLike.isSigner, .SETUP_PAYER_NOT_SIGNER),
      (!matching, .SETUP_NOT_FOR_THE_TRADE)]

structure Tally where
  prices : Nat
  limits : Nat
  setups : Nat
  failures : List GrammarFailure
/-- One turn of the loop over what stands before the trade. -/
def Tally.count (route : RouteV2) (tally : Tally) (instruction : InstructionLike) : Tally :=
  let report (failures : List GrammarFailure) : Tally := { tally with failures := tally.failures ++ failures }
  if instruction.programId = COMPUTE_BUDGET_PROGRAM_ID then
    let data := bufferFromHex instruction.dataHex
    if data.head? = some SET_COMPUTE_UNIT_PRICE.tag ∧ data.length = SET_COMPUTE_UNIT_PRICE.len then
      { report (if tally.prices + 1 > 1 then [.DUPLICATE_COMPUTE_UNIT_PRICE] else []) with prices := tally.prices + 1 }
    else if data.head? = some SET_COMPUTE_UNIT_LIMIT.tag ∧ data.length = SET_COMPUTE_UNIT_LIMIT.len then
      { report (if tally.limits + 1 > 1 then [.DUPLICATE_COMPUTE_UNIT_LIMIT] else []) with limits := tally.limits + 1 }
    else report [.UNSUPPORTED_COMPUTE_BUDGET_INSTRUCTION]
  else if instruction.programId = ASSOCIATED_TOKEN_PROGRAM_ID then
    { report ((if tally.setups + 1 > 1 then [.DUPLICATE_SETUP] else []) ++ checkSetup instruction route) with
      setups := tally.setups + 1 }
  else if instruction.programId = JUPITER_V6_PROGRAM_ID then report [.SECOND_JUPITER_INSTRUCTION]
  else report [.UNSUPPORTED_PROGRAM]

structure GrammarResult where
  failures : List GrammarFailure
  route : Option RouteV2
/-- No result where `canonicalAta` throws. -/
def checkTransactionGrammar (platform : Platform) (instructions : List InstructionLike) (guardProgramId : String)
    (expected : ProtectedTrade) : Option GrammarResult :=
  let failures := if (instructions[0]?).map InstructionLike.programId ≠ some guardProgramId then [.GUARD_NOT_AT_INDEX_ZERO] else []
  let suffix := instructions.drop 1
  match suffix.getLast? with
  | none => some ⟨failures ++ [.EMPTY_SUFFIX], none⟩
  | some last =>
    if last.programId ≠ JUPITER_V6_PROGRAM_ID then
      some ⟨failures ++ [if suffix.any (fun instruction => instruction.programId = JUPITER_V6_PROGRAM_ID) then .TRADE_NOT_LAST
        else .PROGRAM_NOT_JUPITER], none⟩
    else
      match decodeRouteV2 last with
      | .error _ => some ⟨failures ++ [.UNSUPPORTED_JUPITER_INSTRUCTION], none⟩
      | .ok route => do
        let tally := suffix.dropLast.foldl (Tally.count route) ⟨0, 0, 0, failures ++ checkSemanticBinding last expected⟩
        let source ← canonicalAta platform route.userTransferAuthority route.sourceMint route.sourceTokenProgram
        let destination ← canonicalAta platform route.userTransferAuthority route.destinationMint route.destinationTokenProgram
        return ⟨tally.failures ++ pushed [
          (route.userSourceTokenAccount ≠ source, .SOURCE_NOT_CANONICAL_ATA),
          (route.userDestinationTokenAccount ≠ destination, .DESTINATION_NOT_CANONICAL_ATA)], some route⟩

/-! ### The program's instructions, as they are shown to the grammar -/

def showKey (key : Key) : String := (Address.ofKey key).text
def showAccount (account : AccountMeta) : AccountMetaLike := ⟨showKey account.pubkey, account.is_signer, account.is_writable⟩
def showInstruction (instruction : Instruction) : InstructionLike :=
  ⟨showKey instruction.program_id, instruction.accounts.map showAccount, hexOf instruction.data⟩

@[simp] theorem showKey_inj {left right : Key} : showKey left = showKey right ↔ left = right := by
  rw [showKey, showKey, Address.text_inj, ← Address.key_inj, Address.key_ofKey, Address.key_ofKey]
theorem showKey_const (text : String) (valid : isAddress text = true) : showKey (from_str_const text valid) = text := by
  rw [showKey, from_str_const, Address.ofKey_key]
  rfl
theorem showKey_jupiter : showKey Jupiter.JUPITER_PROGRAM_ID = JUPITER_V6_PROGRAM_ID := showKey_const _ _
theorem showKey_computeBudget : showKey Jupiter.COMPUTE_BUDGET_PROGRAM_ID = COMPUTE_BUDGET_PROGRAM_ID := showKey_const _ _
theorem showKey_associatedToken : showKey Jupiter.ASSOCIATED_TOKEN_PROGRAM_ID = ASSOCIATED_TOKEN_PROGRAM_ID := showKey_const _ _
theorem showKey_system : showKey Jupiter.SYSTEM_PROGRAM_ID = SYSTEM_PROGRAM_ID := showKey_const _ _
theorem canonicalAta_show (platform : Platform) (owner mint tokenProgram : Key) :
    canonicalAta platform (showKey owner) (showKey mint) (showKey tokenProgram) =
      some (showKey (Jupiter.canonical_ata platform owner mint tokenProgram)) := by
  rw [canonicalAta, dif_pos ⟨(Address.ofKey owner).valid, (Address.ofKey mint).valid, (Address.ofKey tokenProgram).valid⟩]
  refine congrArg some (congrArg Address.text ?_)
  refine (ClientJupiter.canonicalAta_eq_iff platform _ _ _ _).mpr ?_
  rw [Address.key_ofKey]
  show Jupiter.canonical_ata platform (Address.ofKey owner).key (Address.ofKey mint).key (Address.ofKey tokenProgram).key = _
  rw [Address.key_ofKey, Address.key_ofKey, Address.key_ofKey]
theorem hexOf_injective : Function.Injective hexOf := fun left right same => by
  rw [← bufferFromHex_hexOf left, ← bufferFromHex_hexOf right, same]

/-- What the decoder reads of a trade's accounts and data. -/
def shownRoute (fixed : RouteAccounts) (fields : RouteFields) : RouteV2 where
  userTransferAuthority := showKey fixed.authority.pubkey
  userSourceTokenAccount := showKey fixed.source.pubkey
  userDestinationTokenAccount := showKey fixed.destination.pubkey
  sourceMint := showKey fixed.source_mint.pubkey
  destinationMint := showKey fixed.destination_mint.pubkey
  sourceTokenProgram := showKey fixed.source_token_program.pubkey
  destinationTokenProgram := showKey fixed.destination_token_program.pubkey
  destinationTokenAccountOverride :=
    if fixed.destination_override.pubkey = Jupiter.JUPITER_PROGRAM_ID then none else some (showKey fixed.destination_override.pubkey)
  inAmount := leNat fields.in_amount.bytes
  quotedOutAmount := leNat fields.quoted_out_amount.bytes
  slippageBps := leNat fields.slippage_bps.bytes
  platformFeeBps := leNat fields.platform_fee_bps.bytes
  positiveSlippageBps := leNat fields.positive_slippage_bps.bytes
  routePlanSteps := leNat fields.route_plan_len.bytes
  routePlanTailHex := hexOf fields.route_plan
  venueAccountCount := fixed.venue.length

theorem readUIntLE_first {size : Nat} (head : Chunk size) (rest : List UInt8) :
    readUIntLE size (head.bytes ++ rest) 0 = leNat head.bytes := by
  rw [readUIntLE, List.drop_zero, List.take_left' head.size_eq]
theorem readUIntLE_skip {size skipped offset : Nat} (head : Chunk skipped) (rest : List UInt8) :
    readUIntLE size (head.bytes ++ rest) (skipped + offset) = readUIntLE size rest offset := by
  rw [readUIntLE, ← List.drop_drop, List.drop_left' head.size_eq, readUIntLE]
theorem discriminator_iff (fields : RouteFields) :
    hexOf (fields.bytes.take 8) = ROUTE_V2_DISCRIMINATOR ↔ fields.discriminator = Jupiter.ROUTE_V2_DISCRIMINATOR := by
  have taken : fields.bytes.take 8 = fields.discriminator.bytes := by
    rw [RouteFields.bytes, List.take_append_of_le_length (by simp), List.take_of_length_le (by simp)]
  have known : hexOf Jupiter.ROUTE_V2_DISCRIMINATOR.bytes = ROUTE_V2_DISCRIMINATOR := by decide
  rw [taken, ← known, hexOf_injective.eq_iff, Chunk.ext_iff]
theorem decodeRouteV2_fields {trade : Instruction} {fixed : RouteAccounts} {fields : RouteFields}
    (jupiter : trade.program_id = Jupiter.JUPITER_PROGRAM_ID) (accounts : trade.accounts = fixed.list)
    (data : trade.data = fields.bytes) (discriminator : fields.discriminator = Jupiter.ROUTE_V2_DISCRIMINATOR) :
    decodeRouteV2 (showInstruction trade) = .ok (shownRoute fixed fields) := by
  have enough : ¬ (showInstruction trade).accounts.length < ROUTE_V2_FIXED_ACCOUNTS := by
    simp [showInstruction, accounts, RouteAccounts.list, ROUTE_V2_FIXED_ACCOUNTS]
  have long : ¬ fields.bytes.length < ROUTE_V2_PREFIX_LEN := by
    simp [RouteFields.bytes, ROUTE_V2_PREFIX_LEN]
    omega
  have program : (showInstruction trade).programId = JUPITER_V6_PROGRAM_ID := by
    rw [showInstruction, jupiter, showKey_jupiter]
  have read : bufferFromHex (showInstruction trade).dataHex = fields.bytes := by
    rw [showInstruction, bufferFromHex_hexOf, data]
  simp only [decodeRouteV2, refuse_if_bind, read, program, ne_eq, not_true, if_false, if_neg long,
    (discriminator_iff fields).mpr discriminator, if_neg enough]
  refine congrArg Except.ok ?_
  have inAmount : readUIntLE 8 fields.bytes 8 = leNat fields.in_amount.bytes :=
    (readUIntLE_skip fields.discriminator _).trans (readUIntLE_first _ _)
  have quotedOutAmount : readUIntLE 8 fields.bytes 16 = leNat fields.quoted_out_amount.bytes :=
    (readUIntLE_skip fields.discriminator _).trans ((readUIntLE_skip fields.in_amount _).trans (readUIntLE_first _ _))
  have slippageBps : readUIntLE 2 fields.bytes 24 = leNat fields.slippage_bps.bytes :=
    (readUIntLE_skip fields.discriminator _).trans ((readUIntLE_skip fields.in_amount _).trans
      ((readUIntLE_skip fields.quoted_out_amount _).trans (readUIntLE_first _ _)))
  have platformFeeBps : readUIntLE 2 fields.bytes 26 = leNat fields.platform_fee_bps.bytes :=
    (readUIntLE_skip fields.discriminator _).trans ((readUIntLE_skip fields.in_amount _).trans
      ((readUIntLE_skip fields.quoted_out_amount _).trans ((readUIntLE_skip fields.slippage_bps _).trans (readUIntLE_first _ _))))
  have positiveSlippageBps : readUIntLE 2 fields.bytes 28 = leNat fields.positive_slippage_bps.bytes :=
    (readUIntLE_skip fields.discriminator _).trans ((readUIntLE_skip fields.in_amount _).trans
      ((readUIntLE_skip fields.quoted_out_amount _).trans ((readUIntLE_skip fields.slippage_bps _).trans
        ((readUIntLE_skip fields.platform_fee_bps _).trans (readUIntLE_first _ _)))))
  have routePlanSteps : readUIntLE 4 fields.bytes 30 = leNat fields.route_plan_len.bytes :=
    (readUIntLE_skip fields.discriminator _).trans ((readUIntLE_skip fields.in_amount _).trans
      ((readUIntLE_skip fields.quoted_out_amount _).trans ((readUIntLE_skip fields.slippage_bps _).trans
        ((readUIntLE_skip fields.platform_fee_bps _).trans ((readUIntLE_skip fields.positive_slippage_bps _).trans
          (readUIntLE_first _ _))))))
  have tail : fields.bytes.drop ROUTE_V2_PREFIX_LEN = fields.route_plan := by
    have whole : fields.bytes = (fields.discriminator.bytes ++ (fields.in_amount.bytes ++ (fields.quoted_out_amount.bytes ++
        (fields.slippage_bps.bytes ++ (fields.platform_fee_bps.bytes ++ (fields.positive_slippage_bps.bytes ++
          fields.route_plan_len.bytes)))))) ++ fields.route_plan := by
      simp only [RouteFields.bytes, List.append_assoc]
    rw [whole]
    exact List.drop_left' (by simp [ROUTE_V2_PREFIX_LEN])
  have override : showKey fixed.destination_override.pubkey = JUPITER_V6_PROGRAM_ID ↔
      fixed.destination_override.pubkey = Jupiter.JUPITER_PROGRAM_ID := by rw [← showKey_jupiter, showKey_inj]
  have metas : (showInstruction trade).accounts = fixed.list.map showAccount := congrArg (List.map showAccount) accounts
  have venue : (fixed.list.map showAccount).length - ROUTE_V2_FIXED_ACCOUNTS = fixed.venue.length := by
    simp [RouteAccounts.list, ROUTE_V2_FIXED_ACCOUNTS]
  rw [metas, shownRoute, RouteV2.mk.injEq]
  exact ⟨rfl, rfl, rfl, rfl, rfl, rfl, rfl, if_congr override rfl rfl, inAmount, quotedOutAmount, slippageBps, platformFeeBps,
    positiveSlippageBps, routePlanSteps, congrArg hexOf tail, venue⟩
theorem decodeRouteV2_eq_ok {trade : Instruction} {route : RouteV2}
    (decoded : decodeRouteV2 (showInstruction trade) = .ok route) :
    ∃ fixed fields, trade.accounts = fixed.list ∧ trade.data = RouteFields.bytes fields ∧
      fields.discriminator = Jupiter.ROUTE_V2_DISCRIMINATOR ∧ route = shownRoute fixed fields := by
  have whole := decoded
  simp only [decodeRouteV2, then_eq_ok, refuse_if_eq_ok, not_not, not_lt] at decoded
  obtain ⟨program, long, discriminator, enough, _⟩ := decoded
  have read : bufferFromHex (showInstruction trade).dataHex = trade.data := bufferFromHex_hexOf _
  rw [read] at long discriminator
  have metas : (showInstruction trade).accounts.length = trade.accounts.length := List.length_map _
  rw [metas] at enough
  obtain ⟨fixed, accounts⟩ := Jupiter.exists_accounts enough
  obtain ⟨fields, data⟩ := Jupiter.exists_fields long
  rw [data] at discriminator
  have known := (discriminator_iff fields).mp discriminator
  have jupiter : trade.program_id = Jupiter.JUPITER_PROGRAM_ID := by
    rw [← showKey_jupiter] at program
    exact showKey_inj.mp program
  exact ⟨fixed, fields, accounts, data, known, Except.ok.inj (whole.symm.trans (decodeRouteV2_fields jupiter accounts data known))⟩

/-! ### The failures of a program's suffix -/

def directionOf : ProtectedRole → TradeDirection
  | .Destination => .BUY
  | .Source => .SELL

theorem count_price {instruction : Instruction} {route : RouteV2} {tally : Tally} (first : tally.prices = 0)
    (price : IsComputeBudget instruction Jupiter.SET_COMPUTE_UNIT_PRICE_TAG Jupiter.SET_COMPUTE_UNIT_PRICE_LEN) :
    tally.count route (showInstruction instruction) = { tally with prices := 1 } := by
  obtain ⟨program, _, length, head⟩ := price
  have read : bufferFromHex (showInstruction instruction).dataHex = instruction.data := bufferFromHex_hexOf _
  have budget : (showInstruction instruction).programId = COMPUTE_BUDGET_PROGRAM_ID := by
    rw [showInstruction, program, showKey_computeBudget]
  rw [Tally.count, if_pos budget, read, if_pos ⟨head, length⟩, first, if_neg (by decide)]
  simp only [List.append_nil, Nat.zero_add]
theorem count_limit {instruction : Instruction} {route : RouteV2} {tally : Tally} (first : tally.limits = 0)
    (limit : IsComputeBudget instruction Jupiter.SET_COMPUTE_UNIT_LIMIT_TAG Jupiter.SET_COMPUTE_UNIT_LIMIT_LEN) :
    tally.count route (showInstruction instruction) = { tally with limits := 1 } := by
  obtain ⟨program, _, length, head⟩ := limit
  have read : bufferFromHex (showInstruction instruction).dataHex = instruction.data := bufferFromHex_hexOf _
  have budget : (showInstruction instruction).programId = COMPUTE_BUDGET_PROGRAM_ID := by
    rw [showInstruction, program, showKey_computeBudget]
  have other : ¬ (instruction.data.head? = some SET_COMPUTE_UNIT_PRICE.tag ∧ instruction.data.length = SET_COMPUTE_UNIT_PRICE.len) := by
    rw [length]
    exact fun both => absurd both.2 (by decide)
  rw [Tally.count, if_pos budget, read, if_neg other, if_pos ⟨head, length⟩, first, if_neg (by decide)]
  simp only [List.append_nil, Nat.zero_add]
theorem count_setup {instruction : Instruction} {route : RouteV2} {tally : Tally} (first : tally.setups = 0)
    (program : instruction.program_id = Jupiter.ASSOCIATED_TOKEN_PROGRAM_ID) :
    tally.count route (showInstruction instruction) =
      { tally with failures := tally.failures ++ checkSetup (showInstruction instruction) route, setups := 1 } := by
  have token : (showInstruction instruction).programId = ASSOCIATED_TOKEN_PROGRAM_ID := by
    rw [showInstruction, program, showKey_associatedToken]
  have budget : (showInstruction instruction).programId ≠ COMPUTE_BUDGET_PROGRAM_ID := by
    rw [token]
    decide
  rw [Tally.count, if_neg budget, if_pos token, first, if_neg (by decide), List.nil_append]

/-- What is reported of a suffix in the program's order: of the trade, of the setup, and of the two token accounts. -/
theorem checkTransactionGrammar_eq {platform : Platform} {guard price limit trade : Instruction} {setup : Option Instruction}
    {expected : ProtectedTrade} {fixed : RouteAccounts} {fields : RouteFields}
    (priced : IsComputeBudget price Jupiter.SET_COMPUTE_UNIT_PRICE_TAG Jupiter.SET_COMPUTE_UNIT_PRICE_LEN)
    (limited : IsComputeBudget limit Jupiter.SET_COMPUTE_UNIT_LIMIT_TAG Jupiter.SET_COMPUTE_UNIT_LIMIT_LEN)
    (creates : ∀ created ∈ setup, created.program_id = Jupiter.ASSOCIATED_TOKEN_PROGRAM_ID)
    (jupiter : trade.program_id = Jupiter.JUPITER_PROGRAM_ID)
    (decoded : decodeRouteV2 (showInstruction trade) = .ok (shownRoute fixed fields)) :
    checkTransactionGrammar platform ((guard :: price :: limit :: (setup.toList ++ [trade])).map showInstruction)
        (showKey guard.program_id) expected =
      some ⟨checkSemanticBinding (showInstruction trade) expected ++
        (setup.toList.flatMap (fun created => checkSetup (showInstruction created) (shownRoute fixed fields)) ++
        pushed [
          (fixed.source.pubkey ≠ Jupiter.canonical_ata platform fixed.authority.pubkey fixed.source_mint.pubkey
            fixed.source_token_program.pubkey, .SOURCE_NOT_CANONICAL_ATA),
          (fixed.destination.pubkey ≠ Jupiter.canonical_ata platform fixed.authority.pubkey fixed.destination_mint.pubkey
            fixed.destination_token_program.pubkey, .DESTINATION_NOT_CANONICAL_ATA)]),
        some (shownRoute fixed fields)⟩ := by
  have program : (showInstruction trade).programId = JUPITER_V6_PROGRAM_ID := by
    rw [showInstruction, jupiter, showKey_jupiter]
  have source : canonicalAta platform (shownRoute fixed fields).userTransferAuthority (shownRoute fixed fields).sourceMint
      (shownRoute fixed fields).sourceTokenProgram = _ := canonicalAta_show _ _ _ _
  have destination : canonicalAta platform (shownRoute fixed fields).userTransferAuthority
      (shownRoute fixed fields).destinationMint (shownRoute fixed fields).destinationTokenProgram = _ := canonicalAta_show _ _ _ _
  have tallied : (([price, limit] ++ setup.toList).map showInstruction).foldl (Tally.count (shownRoute fixed fields))
      ⟨0, 0, 0, checkSemanticBinding (showInstruction trade) expected⟩ =
      ⟨1, 1, setup.toList.length, checkSemanticBinding (showInstruction trade) expected ++
        setup.toList.flatMap (fun created => checkSetup (showInstruction created) (shownRoute fixed fields))⟩ := by
    simp only [List.map_append, List.map_cons, List.map_nil, List.foldl_append, List.foldl_cons, List.foldl_nil]
    rw [count_price rfl priced, count_limit rfl limited]
    cases setup with
    | none => simp
    | some created =>
      have program := creates created rfl
      simp only [Option.toList_some, List.map_cons, List.map_nil, List.foldl_cons, List.foldl_nil, List.flatMap_cons,
        List.flatMap_nil, List.append_nil, List.length_singleton]
      exact count_setup rfl program
  have suffix : ((guard :: price :: limit :: (setup.toList ++ [trade])).map showInstruction).drop 1 =
      ([price, limit] ++ setup.toList).map showInstruction ++ [showInstruction trade] := by
    simp
  have first : (((guard :: price :: limit :: (setup.toList ++ [trade])).map showInstruction)[0]?).map InstructionLike.programId =
      some (showKey guard.program_id) := rfl
  unfold checkTransactionGrammar
  simp only [suffix, first, List.getLast?_concat, List.dropLast_concat, program, decoded, source, destination, ne_eq, not_true,
    if_false, List.nil_append, tallied]
  simp only [Option.bind_eq_bind, Option.bind_some, shownRoute, showKey_inj, List.append_assoc]
  rfl

theorem checkSemanticBinding_nil {trade : Instruction} {expected : ProtectedTrade} {fixed : RouteAccounts} {fields : RouteFields}
    (accounts : trade.accounts = fixed.list)
    (decoded : decodeRouteV2 (showInstruction trade) = .ok (shownRoute fixed fields)) :
    checkSemanticBinding (showInstruction trade) expected = [] ↔
      sidesOf (shownRoute fixed fields) expected.direction = (expected.protectedMint, expected.counterMint) ∧
      showKey fixed.authority.pubkey = expected.userAuthority ∧ fixed.authority.is_signer = true ∧
      showKey fixed.destination.pubkey = expected.userDestinationTokenAccount ∧
      fixed.destination_override.pubkey = Jupiter.JUPITER_PROGRAM_ID ∧ leNat fields.in_amount.bytes = expected.inAmount ∧
      leNat fields.quoted_out_amount.bytes = expected.quotedOutAmount ∧ leNat fields.slippage_bps.bytes = expected.slippageBps ∧
      leNat fields.platform_fee_bps.bytes = 0 := by
  have signer : ((showInstruction trade).accounts[ROUTE_V2_ACCOUNTS.userTransferAuthority]?).any AccountMetaLike.isSigner =
      fixed.authority.is_signer := by
    rw [showInstruction, accounts]
    rfl
  have override : (shownRoute fixed fields).destinationTokenAccountOverride.isSome = false ↔
      fixed.destination_override.pubkey = Jupiter.JUPITER_PROGRAM_ID := by
    rw [shownRoute]
    split <;> simp_all
  unfold checkSemanticBinding
  simp only [decoded, pushed_eq_nil, List.forall_mem_cons, signer, override, Prod.ext_iff, decide_eq_false_iff_not, ne_eq, not_not,
    Bool.not_eq_false']
  simp [shownRoute, and_assoc]
theorem checkSetup_nil {created : Instruction} {fixed : RouteAccounts} {fields : RouteFields}
    (program : created.program_id = Jupiter.ASSOCIATED_TOKEN_PROGRAM_ID) :
    checkSetup (showInstruction created) (shownRoute fixed fields) = [] ↔ CreatesDestination created fixed.route := by
  have idempotent : (showInstruction created).dataHex = CREATE_IDEMPOTENT.data ↔ created.data = Jupiter.CREATE_IDEMPOTENT_DATA := by
    have known : hexOf Jupiter.CREATE_IDEMPOTENT_DATA = CREATE_IDEMPOTENT.data := by decide
    rw [← known]
    exact hexOf_injective.eq_iff
  have length : (showInstruction created).accounts.length = created.accounts.length := List.length_map _
  unfold checkSetup
  split
  · rename_i other
    refine ⟨nofun, ?_⟩
    rintro ⟨_, data, payer, ata, owner, mint, system_program, token_program, accounts, _⟩
    rw [length, accounts] at other
    rcases other with other | other
    · exact absurd (idempotent.mpr data) other
    · exact absurd rfl other
  · rename_i same
    rw [not_or, not_not, not_not, length] at same
    obtain ⟨payer, ata, owner, mint, system_program, token_program, accounts⟩ := Jupiter.exists_six same.2
    have metas : (showInstruction created).accounts = [payer, ata, owner, mint, system_program, token_program].map showAccount :=
      congrArg (List.map showAccount) accounts
    have reported : pushed [
        (!(([payer, ata, owner, mint, system_program, token_program].map showAccount)[0]?).any AccountMetaLike.isSigner,
          GrammarFailure.SETUP_PAYER_NOT_SIGNER),
        (!decide (some (showKey ata.pubkey) = some (shownRoute fixed fields).userDestinationTokenAccount ∧
          some (showKey owner.pubkey) = some (shownRoute fixed fields).userTransferAuthority ∧
          some (showKey mint.pubkey) = some (shownRoute fixed fields).destinationMint ∧
          some (showKey system_program.pubkey) = some SYSTEM_PROGRAM_ID ∧
          some (showKey token_program.pubkey) = some (shownRoute fixed fields).destinationTokenProgram),
          GrammarFailure.SETUP_NOT_FOR_THE_TRADE)] = [] ↔
        payer.is_signer = true ∧ ata.pubkey = fixed.route.destination ∧ owner.pubkey = fixed.route.authority ∧
          mint.pubkey = fixed.route.destination_mint ∧ system_program.pubkey = Jupiter.SYSTEM_PROGRAM_ID ∧
          token_program.pubkey = fixed.route.destination_token_program := by
      rw [← showKey_system]
      simp [pushed_eq_nil, showAccount, shownRoute, RouteAccounts.route]
    rw [metas]
    refine Iff.trans reported ⟨fun holds => ?_, ?_⟩
    · exact ⟨program, idempotent.mp same.1, payer, ata, owner, mint, system_program, token_program, accounts, holds⟩
    · rintro ⟨_, _, _, _, _, _, _, _, others, holds⟩
      rw [accounts] at others
      simp only [List.cons.injEq, and_true] at others
      obtain ⟨rfl, rfl, rfl, rfl, rfl, rfl⟩ := others
      exact holds

/-- What the program's grammar asks of a suffix beyond the research grammar: its order, the instructions that carry no
    account, and of the trade its event authority and program account, amounts and a route that are not zero, a possible
    slippage, the two token programs and no fee on positive slippage. -/
def Narrow (suffix : List Instruction) (role : ProtectedRole) : Prop :=
  ∃ (price limit : Instruction) (setup : Option Instruction) (trade : Instruction),
    suffix = price :: limit :: (setup.toList ++ [trade]) ∧
    IsComputeBudget price Jupiter.SET_COMPUTE_UNIT_PRICE_TAG Jupiter.SET_COMPUTE_UNIT_PRICE_LEN ∧
    IsComputeBudget limit Jupiter.SET_COMPUTE_UNIT_LIMIT_TAG Jupiter.SET_COMPUTE_UNIT_LIMIT_LEN ∧
    (∀ created ∈ setup, created.program_id = Jupiter.ASSOCIATED_TOKEN_PROGRAM_ID) ∧
    trade.program_id = Jupiter.JUPITER_PROGRAM_ID ∧
    ∃ (fixed : RouteAccounts) (start : RouteV2Prefix),
      trade.accounts = fixed.list ∧ RouteV2Prefix.decode trade.data = some start ∧
      fixed.event_authority.pubkey = Jupiter.JUPITER_EVENT_AUTHORITY ∧ fixed.program.pubkey = Jupiter.JUPITER_PROGRAM_ID ∧
      start.in_amount > 0 ∧ start.quoted_out_amount > 0 ∧ start.slippage_bps ≤ Jupiter.MAX_SLIPPAGE_BPS ∧ start.route_plan_len > 0 ∧
      ((fixed.route.sides role).2.1, (fixed.route.sides role).2.2.2) = (TOKEN_2022_PROGRAM_ID, Jupiter.LEGACY_TOKEN_PROGRAM_ID) ∧
      start.positive_slippage_bps = 0

/-- The program's reading of a trade's data, and the grammar's. -/
theorem exists_read {data : List UInt8} {start : RouteV2Prefix} (decoded : RouteV2Prefix.decode data = some start) :
    ∃ fields : RouteFields, data = fields.bytes ∧ fields.discriminator = Jupiter.ROUTE_V2_DISCRIMINATOR ∧
      start.platform_fee_bps = u16_from_le_bytes fields.platform_fee_bps := by
  have long : Jupiter.ROUTE_V2_PREFIX_LEN ≤ data.length := by
    by_contra short
    rw [RouteV2Prefix.decode_short (Nat.lt_of_not_le short)] at decoded
    cases decoded
  obtain ⟨fields, rfl⟩ := Jupiter.exists_fields long
  rw [RouteV2Prefix.decode_fields] at decoded
  split at decoded
  · rename_i known
    cases Option.some.inj decoded
    exact ⟨fields, rfl, known, rfl⟩
  · cases decoded
theorem fee_zero {start : RouteV2Prefix} {fee : Chunk 2} (read : start.platform_fee_bps = u16_from_le_bytes fee) :
    start.platform_fee_bps = 0 ↔ leNat fee.bytes = 0 := by
  rw [read, ← UInt16.toNat_inj, u16_from_le_bytes_toNat]
  rfl
theorem sidesOf_show (fixed : RouteAccounts) (fields : RouteFields) (role : ProtectedRole) :
    sidesOf (shownRoute fixed fields) (directionOf role) =
      (showKey (fixed.route.sides role).1, showKey (fixed.route.sides role).2.2.1) := by
  cases role <;> rfl

/-- The program's grammar is the research grammar, for trades of the protected mint against USDC, narrowed. -/
theorem check_suffix_narrows (platform : Platform) (guard : Instruction) (suffix : List Instruction) (role : ProtectedRole)
    (protected_mint : Key) :
    Jupiter.check_suffix platform suffix role protected_mint = .ok () ↔
      Narrow suffix role ∧ ∃ (expected : ProtectedTrade) (route : RouteV2),
        expected.direction = directionOf role ∧ expected.protectedMint = showKey protected_mint ∧
        expected.counterMint = showKey Jupiter.USDC_MINT ∧
        checkTransactionGrammar platform ((guard :: suffix).map showInstruction) (showKey guard.program_id) expected =
          some ⟨[], some route⟩ := by
  rw [Jupiter.check_suffix_eq_ok]
  constructor
  · rintro ⟨price, limit, setup, trade, _, rfl, priced, limited, traded, creates, source, destination⟩
    obtain ⟨jupiter, fixed, start, accounts, decoded, rfl, program, structured, override, sides, fee, positive⟩ := traded
    obtain ⟨event, signer, inAmount, quoted, slippage, steps⟩ := structured
    obtain ⟨fields, data, discriminator, read⟩ := exists_read decoded
    have shown := decodeRouteV2_fields jupiter accounts data discriminator
    let expected : ProtectedTrade := {
      protectedMint := showKey protected_mint
      direction := directionOf role
      counterMint := showKey Jupiter.USDC_MINT
      userAuthority := showKey fixed.authority.pubkey
      userDestinationTokenAccount := showKey fixed.destination.pubkey
      inAmount := leNat fields.in_amount.bytes
      quotedOutAmount := leNat fields.quoted_out_amount.bytes
      slippageBps := leNat fields.slippage_bps.bytes }
    have bound : checkSemanticBinding (showInstruction trade) expected = [] := by
      refine (checkSemanticBinding_nil accounts shown).mpr ⟨?_, rfl, signer, rfl, override, rfl, rfl, rfl, (fee_zero read).mp fee⟩
      rw [sidesOf_show, sides]
    have created : setup.toList.flatMap (fun created => checkSetup (showInstruction created) (shownRoute fixed fields)) = [] := by
      rw [List.flatMap_eq_nil_iff]
      intro created member
      have creates := creates created (Option.mem_toList.mp member)
      exact (checkSetup_nil creates.1).mpr creates
    refine ⟨⟨price, limit, setup, trade, rfl, priced, limited, fun created member => (creates created member).1, jupiter, fixed,
      start, accounts, decoded, event, program, inAmount, quoted, slippage, steps, ?_, positive⟩,
      expected, shownRoute fixed fields, rfl, rfl, rfl, ?_⟩
    · rw [sides]
    · have sourceKept : fixed.source.pubkey = _ := source.symm
      have destinationKept : fixed.destination.pubkey = _ := destination.symm
      rw [checkTransactionGrammar_eq priced limited (fun created member => (creates created member).1) jupiter shown, bound, created]
      refine congrArg (fun failures => some (GrammarResult.mk failures _)) ?_
      rw [List.nil_append, List.nil_append, pushed_eq_nil]
      simp only [List.forall_mem_cons, decide_eq_false_iff_not, ne_eq, not_not]
      exact ⟨sourceKept, destinationKept, fun _ absent => absurd absent List.not_mem_nil⟩
  · rintro ⟨⟨price, limit, setup, trade, rfl, priced, limited, creates, jupiter, fixed, start, accounts, decoded, event, program,
      inAmount, quoted, slippage, steps, programs, positive⟩, expected, route, direction, mint, counter, clean⟩
    obtain ⟨fields, data, discriminator, read⟩ := exists_read decoded
    have shown := decodeRouteV2_fields jupiter accounts data discriminator
    rw [checkTransactionGrammar_eq priced limited creates jupiter shown] at clean
    have failures := congrArg GrammarResult.failures (Option.some.inj clean)
    simp only [List.append_eq_nil_iff, checkSemanticBinding_nil accounts shown, pushed_eq_nil, List.forall_mem_cons,
      decide_eq_false_iff_not, ne_eq, not_not, List.flatMap_eq_nil_iff, direction, sidesOf_show, mint, counter, Prod.mk.injEq,
      showKey_inj] at failures
    obtain ⟨⟨⟨protectedSide, counterSide⟩, _, signer, _, override, _, _, _, fee⟩, setups, source, destination, _⟩ := failures
    simp only [Prod.mk.injEq] at programs
    refine ⟨price, limit, setup, trade, fixed.route, rfl, priced, limited, ?_, ?_, source.symm, destination.symm⟩
    · refine ⟨jupiter, fixed, start, accounts, decoded, rfl, program, ⟨event, signer, inAmount, quoted, slippage, steps⟩, override,
        ?_, (fee_zero read).mpr fee, positive⟩
      exact Prod.ext protectedSide (Prod.ext programs.1 (Prod.ext counterSide programs.2))
    · intro created member
      exact (checkSetup_nil (creates created member)).mp (setups created (Option.mem_toList.mpr member))

end EquityGuard.ResearchGrammar
