import EquityGuard.ClientAbi
import EquityGuard.ClientMintState
import EquityGuard.ClientOffline
import EquityGuard.Jupiter

/-!
The client's copy of the Jupiter suffix rules, at the program's error granularity
and in its order, and the proof that it is the program's.
-/
namespace EquityGuard.ClientJupiter
open EquityGuard.Addresses EquityGuard.Binary64 EquityGuard.Bytes EquityGuard.Client EquityGuard.Commitments
open EquityGuard.Errors EquityGuard.Transaction
open EquityGuard.ClientAbi (bytesEqual)
open EquityGuard.ClientMintState (TOKEN_2022_PROGRAM_ADDRESS)
open EquityGuard.ClientOffline (verdict)
open EquityGuard.Jupiter (Platform)

theorem isAddress_jupiter : isAddress "JUP6LkbZbjS1jKKwapdHNy74zcZ3tLUZoi5QNyVTaV4" = true := by decide +kernel
theorem isAddress_eventAuthority : isAddress "D8cy77BBepLMngZx6ZukaTff5hCt1HrWyKk3Hnd9oitf" = true := by decide +kernel
theorem isAddress_usdc : isAddress "EPjFWdd5AufqSSqeM2qN1xzybapC8G4wEGGkZwyTDt1v" = true := by decide +kernel
theorem isAddress_legacyToken : isAddress "TokenkegQfeZyiNwAJbNbGKPFXCWuBvf9Ss623VQ5DA" = true := by decide +kernel
theorem isAddress_associatedToken : isAddress "ATokenGPvbdGVxr1b2hvZbsiqW5xWH25efTNsLJA8knL" = true := by decide +kernel
theorem isAddress_computeBudget : isAddress "ComputeBudget111111111111111111111111111111" = true := by decide +kernel
theorem isAddress_system : isAddress "11111111111111111111111111111111" = true := by decide +kernel

def JUPITER_V6_PROGRAM_ADDRESS : Address := address "JUP6LkbZbjS1jKKwapdHNy74zcZ3tLUZoi5QNyVTaV4" isAddress_jupiter
def JUPITER_EVENT_AUTHORITY : Address := address "D8cy77BBepLMngZx6ZukaTff5hCt1HrWyKk3Hnd9oitf" isAddress_eventAuthority
def ROUTE_V2_DISCRIMINATOR_HEX : String := "bb64facc31c4af14"
def USDC_MINT_ADDRESS : Address := address "EPjFWdd5AufqSSqeM2qN1xzybapC8G4wEGGkZwyTDt1v" isAddress_usdc
def LEGACY_TOKEN_PROGRAM_ADDRESS : Address := address "TokenkegQfeZyiNwAJbNbGKPFXCWuBvf9Ss623VQ5DA" isAddress_legacyToken
def ASSOCIATED_TOKEN_PROGRAM_ADDRESS : Address :=
  address "ATokenGPvbdGVxr1b2hvZbsiqW5xWH25efTNsLJA8knL" isAddress_associatedToken
def COMPUTE_BUDGET_PROGRAM_ADDRESS : Address :=
  address "ComputeBudget111111111111111111111111111111" isAddress_computeBudget
def SYSTEM_PROGRAM_ADDRESS : Address := address "11111111111111111111111111111111" isAddress_system

/-- The tag and length of a ComputeBudget instruction. -/
structure Shape where
  tag : UInt8
  length : Nat
def SET_COMPUTE_UNIT_LIMIT : Shape := ⟨2, 5⟩
def SET_COMPUTE_UNIT_PRICE : Shape := ⟨3, 9⟩
def CREATE_IDEMPOTENT_TAG : UInt8 := 1
def CREATE_IDEMPOTENT_ACCOUNTS : Nat := 6
def ROUTE_V2_PREFIX_LENGTH : Nat := 34
def ROUTE_V2_FIXED_ACCOUNTS : Nat := 10
def MAX_SLIPPAGE_BPS : Nat := 10000

namespace ROUTE_V2_ACCOUNT
def authority : Nat := 0
def source : Nat := 1
def destination : Nat := 2
def sourceMint : Nat := 3
def destinationMint : Nat := 4
def sourceTokenProgram : Nat := 5
def destinationTokenProgram : Nat := 6
def destinationOverride : Nat := 7
def eventAuthority : Nat := 8
def program : Nat := 9
end ROUTE_V2_ACCOUNT

inductive JupiterAdapterKind where
  | JUPITER_ROUTE_V2_BUY_USDC
  | JUPITER_ROUTE_V2_SELL_USDC
deriving DecidableEq
inductive ProtectedMintRole where
  | SOURCE
  | DESTINATION
deriving DecidableEq

/-- The ABI byte of a kind. -/
def JupiterAdapterKind.number : JupiterAdapterKind → Number
  | .JUPITER_ROUTE_V2_BUY_USDC => ClientAbi.DownstreamAdapterKind.JUPITER_ROUTE_V2_BUY_USDC
  | .JUPITER_ROUTE_V2_SELL_USDC => ClientAbi.DownstreamAdapterKind.JUPITER_ROUTE_V2_SELL_USDC
def protectedRoleOf : JupiterAdapterKind → ProtectedMintRole
  | .JUPITER_ROUTE_V2_BUY_USDC => .DESTINATION
  | .JUPITER_ROUTE_V2_SELL_USDC => .SOURCE

/-! ### `route_v2` data -/

structure RouteV2Prefix where
  inAmount : Nat
  quotedOutAmount : Nat
  slippageBps : Nat
  platformFeeBps : Nat
  positiveSlippageBps : Nat
  routePlanSteps : Nat
deriving DecidableEq

def hexDigit (value : Nat) : Char := "0123456789abcdef".toList.getD value '0'
def hexOf (bytes : List UInt8) : String :=
  String.ofList (bytes.flatMap (fun byte => [hexDigit (byte.toNat / 16), hexDigit (byte.toNat % 16)]))
/-- The fixed argument prefix, if the data is `route_v2`. -/
def decodeRouteV2Prefix (data : List UInt8) : Js (Option RouteV2Prefix) :=
  if data.length < ROUTE_V2_PREFIX_LENGTH ∨ hexOf (data.take 8) ≠ ROUTE_V2_DISCRIMINATOR_HEX then .ok none
  else do
    return some {
      inAmount := ← getBigUint64 data 8
      quotedOutAmount := ← getBigUint64 data 16
      slippageBps := ← getUint16 data 24
      platformFeeBps := ← getUint16 data 26
      positiveSlippageBps := ← getUint16 data 28
      routePlanSteps := ← getUint32 data 30 }

/-! ### Semantics -/

def canonicalAta (platform : Platform) (owner mint tokenProgram : Address) : Address :=
  .ofKey (platform.find_program_address [owner.key.bytes, tokenProgram.key.bytes, mint.key.bytes]
    ASSOCIATED_TOKEN_PROGRAM_ADDRESS.key)

def computeBudgetVerdict (instruction : CommittedInstruction) (shape : Shape) : Option EquityGuardError :=
  if instruction.accounts.length = 0 ∧ instruction.data.length = shape.length ∧
    instruction.data[0]? = some shape.tag then none
  else some .InvalidComputeBudgetInstruction

structure RouteV2Summary where
  authority : Address
  source : Address
  destination : Address
  sourceMint : Address
  destinationMint : Address
  sourceTokenProgram : Address
  destinationTokenProgram : Address
  start : RouteV2Prefix
deriving DecidableEq

/-- The error the program would return, or the validated trade. -/
structure SuffixCheck where
  verdict : Option EquityGuardError
  route : Option RouteV2Summary
deriving DecidableEq

def fail (verdict : EquityGuardError) : SuffixCheck := ⟨some verdict, none⟩

def routeVerdict (trade : CommittedInstruction) (kind : JupiterAdapterKind) (protectedMint : Address) : Js SuffixCheck :=
  if trade.accounts.length < ROUTE_V2_FIXED_ACCOUNTS then .ok (fail .InvalidJupiterInstruction)
  else do
    match ← decodeRouteV2Prefix trade.data with
    | none => return fail .InvalidJupiterInstruction
    | some start =>
      let account (index : Nat) : Js CommittedAccount := ok_or .TypeError trade.accounts[index]?
      let key (index : Nat) : Js Address := do return (← account index).address
      if (← key ROUTE_V2_ACCOUNT.program) ≠ JUPITER_V6_PROGRAM_ADDRESS then return fail .InvalidJupiterProgram
      else if ¬ ((← key ROUTE_V2_ACCOUNT.eventAuthority) = JUPITER_EVENT_AUTHORITY ∧
          (← account ROUTE_V2_ACCOUNT.authority).isSigner ∧ start.inAmount > 0 ∧ start.quotedOutAmount > 0 ∧
          start.slippageBps ≤ MAX_SLIPPAGE_BPS ∧ start.routePlanSteps > 0) then
        return fail .InvalidJupiterInstruction
      else if (← key ROUTE_V2_ACCOUNT.destinationOverride) ≠ JUPITER_V6_PROGRAM_ADDRESS then
        return fail .DestinationOverrideUnsupported
      else do
        let route : RouteV2Summary := {
          authority := ← key ROUTE_V2_ACCOUNT.authority
          source := ← key ROUTE_V2_ACCOUNT.source
          destination := ← key ROUTE_V2_ACCOUNT.destination
          sourceMint := ← key ROUTE_V2_ACCOUNT.sourceMint
          destinationMint := ← key ROUTE_V2_ACCOUNT.destinationMint
          sourceTokenProgram := ← key ROUTE_V2_ACCOUNT.sourceTokenProgram
          destinationTokenProgram := ← key ROUTE_V2_ACCOUNT.destinationTokenProgram
          start }
        let (protectedSide, protectedProgram, counter, counterProgram) :=
          if protectedRoleOf kind = .DESTINATION then
            (route.destinationMint, route.destinationTokenProgram, route.sourceMint, route.sourceTokenProgram)
          else (route.sourceMint, route.sourceTokenProgram, route.destinationMint, route.destinationTokenProgram)
        if protectedSide ≠ protectedMint then return fail .InvalidJupiterDirection
        else if counter ≠ USDC_MINT_ADDRESS then return fail .InvalidCounterMint
        else if protectedProgram ≠ TOKEN_2022_PROGRAM_ADDRESS ∨ counterProgram ≠ LEGACY_TOKEN_PROGRAM_ADDRESS then
          return fail .InvalidTokenProgram
        else if start.platformFeeBps ≠ 0 ∨ start.positiveSlippageBps ≠ 0 then return fail .UnsupportedJupiterFee
        else return { verdict := none, route := some route }

def setupVerdict (setup : CommittedInstruction) (route : RouteV2Summary) : Option EquityGuardError :=
  if setup.accounts.length ≠ CREATE_IDEMPOTENT_ACCOUNTS ∨ setup.data.length ≠ 1 ∨
      setup.data[0]? ≠ some CREATE_IDEMPOTENT_TAG then some .InvalidAtaSetup
  else
    let account (index : Nat) : Option CommittedAccount := setup.accounts[index]?
    if (account 0).map CommittedAccount.isSigner = some true ∧
        (account 1).map CommittedAccount.address = some route.destination ∧
        (account 2).map CommittedAccount.address = some route.authority ∧
        (account 3).map CommittedAccount.address = some route.destinationMint ∧
        (account 4).map CommittedAccount.address = some SYSTEM_PROGRAM_ADDRESS ∧
        (account 5).map CommittedAccount.address = some route.destinationTokenProgram then none
    else some .InvalidAtaSetup

/-- `checkJupiterSuffix` on the four positions of a suffix of admissible length. -/
def checkPositions (platform : Platform) (price limit : CommittedInstruction) (setup : Option CommittedInstruction)
    (trade : CommittedInstruction) (kind : JupiterAdapterKind) (protectedMint : Address) : Js SuffixCheck :=
  if price.programAddress ≠ COMPUTE_BUDGET_PROGRAM_ADDRESS ∨ limit.programAddress ≠ COMPUTE_BUDGET_PROGRAM_ADDRESS ∨
      setup.any (fun setup => decide (setup.programAddress ≠ ASSOCIATED_TOKEN_PROGRAM_ADDRESS)) = true then
    .ok (fail .UnsupportedTransactionGrammar)
  else if trade.programAddress ≠ JUPITER_V6_PROGRAM_ADDRESS then .ok (fail .InvalidJupiterProgram)
  else match (computeBudgetVerdict price SET_COMPUTE_UNIT_PRICE).or (computeBudgetVerdict limit SET_COMPUTE_UNIT_LIMIT) with
  | some budget => .ok (fail budget)
  | none => do
    match ← routeVerdict trade kind protectedMint with
    | ⟨some verdict, _⟩ => return fail verdict
    | ⟨none, none⟩ => return fail .InvalidJupiterInstruction
    | ⟨none, some route⟩ =>
      match setup.bind (fun setup => setupVerdict setup route) with
      | some setupFailure => return fail setupFailure
      | none =>
        if canonicalAta platform route.authority route.sourceMint route.sourceTokenProgram ≠ route.source then
          return fail .NonCanonicalSourceAccount
        else if canonicalAta platform route.authority route.destinationMint route.destinationTokenProgram ≠
            route.destination then
          return fail .NonCanonicalDestinationAccount
        else return { verdict := none, route := some route }
def checkJupiterSuffix (platform : Platform) (suffix : List CommittedInstruction) (kind : JupiterAdapterKind)
    (protectedMint : Address) : Js SuffixCheck :=
  match suffix with
  | [price, limit, trade] => checkPositions platform price limit none trade kind protectedMint
  | [price, limit, setup, trade] => checkPositions platform price limit (some setup) trade kind protectedMint
  | _ => .ok (fail .UnsupportedTransactionGrammar)

/-- The program's whole kind 2/3 verdict for a transaction in its sysvar view. -/
def checkGuardedJupiterTransaction (platform : Platform) (instructions : List CommittedInstruction) (guardIndex : Number)
    (adapterKind : JupiterAdapterKind) (protectedMint : Address) (commitment : List UInt8) :
    Js (Option EquityGuardError) :=
  if ¬ Number.strictEq guardIndex 0 then .ok (some .GuardNotFirst)
  else do
    let suffix := instructions.drop 1
    match (← checkJupiterSuffix platform suffix adapterKind protectedMint).verdict with
    | some verdict => return some verdict
    | none =>
      if bytesEqual (← jupiterSuffixCommitment platform.sha256 suffix) commitment then return none
      else return some .DownstreamCommitmentMismatch

/-! ### The prefix -/

theorem hexDigit_injective {left right : Nat} (leftSmall : left < 16) (rightSmall : right < 16)
    (same : hexDigit left = hexDigit right) : left = right := by
  have table : ∀ left < 16, ∀ right < 16, hexDigit left = hexDigit right → left = right := by decide
  exact table left leftSmall right rightSmall same
theorem hexOf_injective {left right : List UInt8} (length : left.length = right.length)
    (same : hexOf left = hexOf right) : left = right := by
  have digits : Framing.Delimited (fun byte : UInt8 => [hexDigit (byte.toNat / 16), hexDigit (byte.toNat % 16)])
      (fun _ => True) := by
    refine Framing.delimited_of_length 2 (fun _ => rfl) ?_
    intro one two _ _ sameDigits
    have oneSmall := one.toNat_lt
    have twoSmall := two.toNat_lt
    simp only [List.cons.injEq, and_true] at sameDigits
    have high := hexDigit_injective (by omega) (by omega) sameDigits.1
    have low := hexDigit_injective (by omega) (by omega) sameDigits.2
    exact UInt8.toNat_inj.mp (by omega)
  have sameText := String.ofList_injective same
  exact (digits.flatMap left right [] [] length (fun _ _ => trivial) (fun _ _ => trivial) (by rw [sameText])).1

/-- The program's prefix as the client reads it. -/
def ofPrefix (start : Jupiter.RouteV2Prefix) : RouteV2Prefix where
  inAmount := start.in_amount.toNat
  quotedOutAmount := start.quoted_out_amount.toNat
  slippageBps := start.slippage_bps.toNat
  platformFeeBps := start.platform_fee_bps.toNat
  positiveSlippageBps := start.positive_slippage_bps.toNat
  routePlanSteps := start.route_plan_len.toNat

theorem decodeRouteV2Prefix_eq (data : List UInt8) :
    decodeRouteV2Prefix data = .ok ((Jupiter.RouteV2Prefix.decode data).map ofPrefix) := by
  by_cases short : data.length < ROUTE_V2_PREFIX_LENGTH
  · rw [decodeRouteV2Prefix, if_pos (.inl short), Jupiter.RouteV2Prefix.decode_short short]
    rfl
  obtain ⟨fields, rfl⟩ := Jupiter.exists_fields (Nat.le_of_not_lt short)
  have hex : hexOf (fields.bytes.take 8) = ROUTE_V2_DISCRIMINATOR_HEX ↔
      fields.discriminator = Jupiter.ROUTE_V2_DISCRIMINATOR := by
    have text : ROUTE_V2_DISCRIMINATOR_HEX = hexOf Jupiter.ROUTE_V2_DISCRIMINATOR.bytes := by decide
    have taken : fields.bytes.take 8 = fields.discriminator.bytes := List.take_left' fields.discriminator.size_eq
    rw [text, taken, Chunk.ext_iff]
    exact ⟨hexOf_injective (by simp), congrArg hexOf⟩
  rw [Jupiter.RouteV2Prefix.decode_fields, decodeRouteV2Prefix]
  by_cases known : fields.discriminator = Jupiter.ROUTE_V2_DISCRIMINATOR
  swap
  · rw [if_pos (.inr (mt hex.mp known)), if_neg known]
    rfl
  have inAmount : read 8 fields.bytes 8 = .ok fields.in_amount := (read_skip _ _).trans (read_first _ _)
  have quotedOutAmount : read 8 fields.bytes 16 = .ok fields.quoted_out_amount :=
    (read_skip _ _).trans ((read_skip _ _).trans (read_first _ _))
  have slippageBps : read 2 fields.bytes 24 = .ok fields.slippage_bps :=
    (read_skip _ _).trans ((read_skip _ _).trans ((read_skip _ _).trans (read_first _ _)))
  have platformFeeBps : read 2 fields.bytes 26 = .ok fields.platform_fee_bps :=
    (read_skip _ _).trans ((read_skip _ _).trans ((read_skip _ _).trans ((read_skip _ _).trans (read_first _ _))))
  have positiveSlippageBps : read 2 fields.bytes 28 = .ok fields.positive_slippage_bps :=
    (read_skip _ _).trans ((read_skip _ _).trans ((read_skip _ _).trans ((read_skip _ _).trans
      ((read_skip _ _).trans (read_first _ _)))))
  have routePlanSteps : read 4 fields.bytes 30 = .ok fields.route_plan_len :=
    (read_skip _ _).trans ((read_skip _ _).trans ((read_skip _ _).trans ((read_skip _ _).trans
      ((read_skip _ _).trans ((read_skip _ _).trans (read_first _ _))))))
  rw [if_neg (not_or.mpr ⟨short, not_not.mpr (hex.mpr known)⟩), if_pos known]
  simp only [getBigUint64, getUint16, getUint32, inAmount, quotedOutAmount, slippageBps, platformFeeBps,
    positiveSlippageBps, routePlanSteps, ok_bind, pure, Except.pure, Option.map_some, ofPrefix, u64_from_le_bytes_toNat,
    u16_from_le_bytes_toNat, u32_from_le_bytes_toNat]

/-! ### The program's verdicts -/

/-- The side of the protected mint, in the program's terms. -/
def roleOf : JupiterAdapterKind → Jupiter.ProtectedRole
  | .JUPITER_ROUTE_V2_BUY_USDC => .Destination
  | .JUPITER_ROUTE_V2_SELL_USDC => .Source
def RouteV2Summary.toProgram (route : RouteV2Summary) : Jupiter.Route where
  authority := route.authority.key
  source := route.source.key
  destination := route.destination.key
  source_mint := route.sourceMint.key
  destination_mint := route.destinationMint.key
  source_token_program := route.sourceTokenProgram.key
  destination_token_program := route.destinationTokenProgram.key

/-- The client reports the program's error, or a route where the program succeeds. -/
def Reports {α : Type} (valid : RouteV2Summary → α → Prop) (client : Js SuffixCheck) : Checked α → Prop
  | .ok validated => ∃ route, client = .ok ⟨none, some route⟩ ∧ valid route validated
  | .error error => client = .ok (fail error)

/-- Both sides make the same check first. -/
theorem Reports.refuse {α : Type} {valid : RouteV2Summary → α → Prop} {refused expected : Prop} [Decidable refused]
    [Decidable expected] {error : EquityGuardError} {client : Js SuffixCheck} {program : Checked α}
    (same : refused ↔ expected) (rest : Reports valid client program) :
    Reports valid (if refused then .ok (fail error) else client) (do refuse_if expected error; program) := by
  rw [refuse_if_bind]
  by_cases refuses : expected
  · rw [if_pos refuses, if_pos (same.mpr refuses)]
    rfl
  · rw [if_neg refuses, if_neg (mt same.mp refuses)]
    exact rest
theorem Reports.finish {refused expected : Prop} [Decidable refused] [Decidable expected] {error : EquityGuardError}
    {route : RouteV2Summary} (same : refused ↔ expected) :
    Reports (fun _ _ => True) (if refused then .ok (fail error) else .ok ⟨none, some route⟩)
      (refuse_if expected error) := by
  rw [refuse_if]
  by_cases refuses : expected
  · rw [if_pos refuses, if_pos (same.mpr refuses)]
    rfl
  · rw [if_neg refuses, if_neg (mt same.mp refuses)]
    exact ⟨route, rfl, trivial⟩

theorem uint16_eq_zero {value : UInt16} : value.toNat = 0 ↔ value = 0 := by rw [← UInt16.toNat_inj]; rfl

theorem routeVerdict_correct (trade : CommittedInstruction) (kind : JupiterAdapterKind) (protectedMint : Address) :
    Reports (fun route validated => route.toProgram = validated) (routeVerdict trade kind protectedMint)
      (Jupiter.check_route trade.toProgram (roleOf kind) protectedMint.key) := by
  have length : trade.toProgram.accounts.length = trade.accounts.length := List.length_map _
  by_cases few : trade.accounts.length < ROUTE_V2_FIXED_ACCOUNTS
  · rw [Jupiter.check_route_few (length.trans_lt few), routeVerdict, if_pos few]
    rfl
  obtain ⟨authority, source, destination, sourceMint, destinationMint, sourceTokenProgram, destinationTokenProgram,
    destinationOverride, eventAuthority, program, venue, accounts⟩ := Jupiter.exists_ten (Nat.le_of_not_lt few)
  rw [routeVerdict, if_neg few, decodeRouteV2Prefix_eq, ok_bind]
  cases decoded : Jupiter.RouteV2Prefix.decode trade.data with
  | none =>
    rw [Jupiter.check_route_undecoded decoded]
    rfl
  | some start =>
    have fixed : trade.toProgram.accounts = Jupiter.RouteAccounts.list ⟨authority.toProgram, source.toProgram,
        destination.toProgram, sourceMint.toProgram, destinationMint.toProgram, sourceTokenProgram.toProgram,
        destinationTokenProgram.toProgram, destinationOverride.toProgram, eventAuthority.toProgram, program.toProgram,
        venue.map CommittedAccount.toProgram⟩ := by
      show trade.accounts.map CommittedAccount.toProgram = _
      rw [accounts]
      rfl
    rw [Jupiter.check_route_fixed fixed decoded]
    have authorityRead : trade.accounts[ROUTE_V2_ACCOUNT.authority]? = some authority := by rw [accounts]; rfl
    have sourceRead : trade.accounts[ROUTE_V2_ACCOUNT.source]? = some source := by rw [accounts]; rfl
    have destinationRead : trade.accounts[ROUTE_V2_ACCOUNT.destination]? = some destination := by rw [accounts]; rfl
    have sourceMintRead : trade.accounts[ROUTE_V2_ACCOUNT.sourceMint]? = some sourceMint := by rw [accounts]; rfl
    have destinationMintRead : trade.accounts[ROUTE_V2_ACCOUNT.destinationMint]? = some destinationMint := by
      rw [accounts]; rfl
    have sourceProgramRead : trade.accounts[ROUTE_V2_ACCOUNT.sourceTokenProgram]? = some sourceTokenProgram := by
      rw [accounts]; rfl
    have destinationProgramRead :
        trade.accounts[ROUTE_V2_ACCOUNT.destinationTokenProgram]? = some destinationTokenProgram := by rw [accounts]; rfl
    have overrideRead : trade.accounts[ROUTE_V2_ACCOUNT.destinationOverride]? = some destinationOverride := by
      rw [accounts]; rfl
    have eventAuthorityRead : trade.accounts[ROUTE_V2_ACCOUNT.eventAuthority]? = some eventAuthority := by
      rw [accounts]; rfl
    have programRead : trade.accounts[ROUTE_V2_ACCOUNT.program]? = some program := by rw [accounts]; rfl
    simp only [authorityRead, sourceRead, destinationRead, sourceMintRead, destinationMintRead, sourceProgramRead,
      destinationProgramRead, overrideRead, eventAuthorityRead, programRead, ok_or_some, ok_bind, pure_eq_ok,
      Option.map_some]
    refine Reports.refuse (not_congr Address.key_inj.symm) ?_
    refine Reports.refuse (not_congr (and_congr Address.key_inj.symm Iff.rfl)) ?_
    refine Reports.refuse (not_congr Address.key_inj.symm) ?_
    cases kind with
    | JUPITER_ROUTE_V2_BUY_USDC =>
      refine Reports.refuse (not_congr Address.key_inj.symm) ?_
      refine Reports.refuse (not_congr Address.key_inj.symm) ?_
      refine Reports.refuse (or_congr (not_congr Address.key_inj.symm) (not_congr Address.key_inj.symm)) ?_
      refine Reports.refuse (or_congr (not_congr uint16_eq_zero) (not_congr uint16_eq_zero)) ?_
      exact ⟨_, rfl, rfl⟩
    | JUPITER_ROUTE_V2_SELL_USDC =>
      refine Reports.refuse (not_congr Address.key_inj.symm) ?_
      refine Reports.refuse (not_congr Address.key_inj.symm) ?_
      refine Reports.refuse (or_congr (not_congr Address.key_inj.symm) (not_congr Address.key_inj.symm)) ?_
      refine Reports.refuse (or_congr (not_congr uint16_eq_zero) (not_congr uint16_eq_zero)) ?_
      exact ⟨_, rfl, rfl⟩

theorem data_eq_tag {data : List UInt8} :
    data.length ≠ 1 ∨ data[0]? ≠ some CREATE_IDEMPOTENT_TAG ↔ data ≠ Jupiter.CREATE_IDEMPOTENT_DATA := by
  match data with
  | [] => simp [Jupiter.CREATE_IDEMPOTENT_DATA]
  | [byte] => simp [Jupiter.CREATE_IDEMPOTENT_DATA, CREATE_IDEMPOTENT_TAG]
  | _ :: _ :: _ => simp [Jupiter.CREATE_IDEMPOTENT_DATA]
theorem setupVerdict_correct (setup : CommittedInstruction) (route : RouteV2Summary) :
    setupVerdict setup route = verdict (Jupiter.check_setup setup.toProgram route.toProgram) := by
  have length : setup.toProgram.accounts.length = setup.accounts.length := List.length_map _
  by_cases six : setup.accounts.length = CREATE_IDEMPOTENT_ACCOUNTS
  swap
  · rw [Jupiter.check_setup_other (length.trans_ne six), setupVerdict, if_pos (.inl six)]
    rfl
  obtain ⟨payer, ata, owner, mint, systemProgram, tokenProgram, accounts⟩ := Jupiter.exists_six six
  have six' : setup.toProgram.accounts = [payer.toProgram, ata.toProgram, owner.toProgram, mint.toProgram,
      systemProgram.toProgram, tokenProgram.toProgram] := by
    show setup.accounts.map CommittedAccount.toProgram = _
    rw [accounts]
    rfl
  rw [Jupiter.check_setup_accounts six', setupVerdict]
  by_cases idempotent : setup.data = Jupiter.CREATE_IDEMPOTENT_DATA
  swap
  · rw [if_pos (.inr (data_eq_tag.mpr idempotent)), if_neg (fun holds => idempotent holds.1)]
    rfl
  rw [if_neg (not_or.mpr ⟨not_not.mpr six, mt data_eq_tag.mp (not_not.mpr idempotent)⟩)]
  have conditions : (setup.toProgram.data = Jupiter.CREATE_IDEMPOTENT_DATA ∧ payer.toProgram.is_signer = true ∧
      ata.toProgram.pubkey = route.toProgram.destination ∧ owner.toProgram.pubkey = route.toProgram.authority ∧
      mint.toProgram.pubkey = route.toProgram.destination_mint ∧
      systemProgram.toProgram.pubkey = Jupiter.SYSTEM_PROGRAM_ID ∧
      tokenProgram.toProgram.pubkey = route.toProgram.destination_token_program) ↔
      payer.isSigner = true ∧ ata.address = route.destination ∧ owner.address = route.authority ∧
      mint.address = route.destinationMint ∧ systemProgram.address = SYSTEM_PROGRAM_ADDRESS ∧
      tokenProgram.address = route.destinationTokenProgram :=
    (and_iff_right idempotent).trans (and_congr Iff.rfl (and_congr Address.key_inj (and_congr Address.key_inj
      (and_congr Address.key_inj (and_congr Address.key_inj Address.key_inj)))))
  simp only [accounts, List.getElem?_cons_zero, List.getElem?_cons_succ, Option.map_some, Option.some.injEq]
  by_cases holds : payer.isSigner = true ∧ ata.address = route.destination ∧ owner.address = route.authority ∧
      mint.address = route.destinationMint ∧ systemProgram.address = SYSTEM_PROGRAM_ADDRESS ∧
      tokenProgram.address = route.destinationTokenProgram
  · rw [if_pos holds, if_pos (conditions.mpr holds)]
    rfl
  · rw [if_neg holds, if_neg (mt conditions.mp holds)]
    rfl
theorem computeBudgetVerdict_correct (instruction : CommittedInstruction) (shape : Shape) :
    computeBudgetVerdict instruction shape =
      verdict (Jupiter.check_compute_budget instruction.toProgram shape.tag shape.length) := by
  have length : SuffixInstruction.account_count instruction.toProgram = instruction.accounts.length := List.length_map _
  have head : (SuffixInstruction.data instruction.toProgram).head? = instruction.data[0]? := List.head?_eq_getElem?
  have data : SuffixInstruction.data instruction.toProgram = instruction.data := rfl
  unfold computeBudgetVerdict Jupiter.check_compute_budget
  rw [length, head, data]
  split <;> rfl

theorem canonicalAta_eq_iff (platform : Platform) (owner mint tokenProgram ata : Address) :
    canonicalAta platform owner mint tokenProgram = ata ↔
      Jupiter.canonical_ata platform owner.key mint.key tokenProgram.key = ata.key := by
  rw [← Address.key_inj, canonicalAta, Address.key_ofKey]
  rfl

theorem checkPositions_correct (platform : Platform) (price limit : CommittedInstruction)
    (setup : Option CommittedInstruction) (trade : CommittedInstruction) (kind : JupiterAdapterKind)
    (protectedMint : Address) :
    Reports (fun _ _ => True) (checkPositions platform price limit setup trade kind protectedMint)
      (Jupiter.check_positions platform price.toProgram limit.toProgram (setup.map CommittedInstruction.toProgram)
        trade.toProgram (roleOf kind) protectedMint.key) := by
  have grammar : setup.any (fun setup => decide (setup.programAddress ≠ ASSOCIATED_TOKEN_PROGRAM_ADDRESS)) = true ↔
      (setup.map CommittedInstruction.toProgram).all (fun setup =>
        decide (SuffixInstruction.program_id setup = Jupiter.ASSOCIATED_TOKEN_PROGRAM_ID)) = false := by
    cases setup with
    | none => simp
    | some setup =>
      simp only [Option.any_some, Option.map_some, Option.all_some, decide_eq_true_eq, decide_eq_false_iff_not]
      exact not_congr Address.key_inj.symm
  have tail : ∀ route : RouteV2Summary, Reports (fun _ _ => True)
      (if canonicalAta platform route.authority route.sourceMint route.sourceTokenProgram ≠ route.source then
        .ok (fail .NonCanonicalSourceAccount)
      else if canonicalAta platform route.authority route.destinationMint route.destinationTokenProgram ≠
          route.destination then .ok (fail .NonCanonicalDestinationAccount)
      else .ok { verdict := none, route := some route })
      (do
        refuse_if (Jupiter.canonical_ata platform route.toProgram.authority route.toProgram.source_mint
          route.toProgram.source_token_program ≠ route.toProgram.source) .NonCanonicalSourceAccount
        refuse_if (Jupiter.canonical_ata platform route.toProgram.authority route.toProgram.destination_mint
          route.toProgram.destination_token_program ≠ route.toProgram.destination) .NonCanonicalDestinationAccount) := by
    intro route
    refine Reports.refuse (not_congr (canonicalAta_eq_iff platform ..)) ?_
    exact Reports.finish (not_congr (canonicalAta_eq_iff platform ..))
  rw [checkPositions, Jupiter.check_positions]
  refine Reports.refuse (or_congr (not_congr Address.key_inj.symm) (or_congr (not_congr Address.key_inj.symm) grammar)) ?_
  refine Reports.refuse (not_congr Address.key_inj.symm) ?_
  rw [computeBudgetVerdict_correct, computeBudgetVerdict_correct]
  show Reports _ _ (do
    Jupiter.check_compute_budget price.toProgram SET_COMPUTE_UNIT_PRICE.tag SET_COMPUTE_UNIT_PRICE.length
    Jupiter.check_compute_budget limit.toProgram SET_COMPUTE_UNIT_LIMIT.tag SET_COMPUTE_UNIT_LIMIT.length
    _)
  cases Jupiter.check_compute_budget price.toProgram SET_COMPUTE_UNIT_PRICE.tag SET_COMPUTE_UNIT_PRICE.length with
  | error _ => rfl
  | ok _ =>
    cases Jupiter.check_compute_budget limit.toProgram SET_COMPUTE_UNIT_LIMIT.tag SET_COMPUTE_UNIT_LIMIT.length with
    | error _ => rfl
    | ok _ =>
      have traded := routeVerdict_correct trade kind protectedMint
      simp only [verdict, Option.none_or, ok_bind]
      cases validated : Jupiter.check_route trade.toProgram (roleOf kind) protectedMint.key with
      | error error =>
        rw [validated] at traded
        have failed : routeVerdict trade kind protectedMint = .ok (fail error) := traded
        rw [failed]
        rfl
      | ok route =>
        rw [validated] at traded
        obtain ⟨summary, accepted, rfl⟩ := traded
        rw [accepted, ok_bind, ok_bind]
        cases setup with
        | none => exact tail summary
        | some setup =>
          simp only [Option.bind_some, Option.map_some, setupVerdict_correct]
          cases Jupiter.check_setup setup.toProgram summary.toProgram with
          | error _ => rfl
          | ok _ => exact tail summary

theorem checkJupiterSuffix_correct (platform : Platform) (suffix : List CommittedInstruction) (kind : JupiterAdapterKind)
    (protectedMint : Address) :
    Reports (fun _ _ => True) (checkJupiterSuffix platform suffix kind protectedMint)
      (Jupiter.check_suffix platform (suffix.map CommittedInstruction.toProgram) (roleOf kind) protectedMint.key) := by
  match suffix with
  | [price, limit, trade] => exact checkPositions_correct platform price limit none trade kind protectedMint
  | [price, limit, setup, trade] => exact checkPositions_correct platform price limit (some setup) trade kind protectedMint
  | [] | [_] | [_, _] | _ :: _ :: _ :: _ :: _ :: _ => rfl

theorem jupiterSuffixCommitment_of {sha256 : List UInt8 → Chunk 32} {suffix : List CommittedInstruction}
    {commitment : Chunk 32}
    (hashed : jupiter_suffix_commitment sha256 (suffix.map CommittedInstruction.toProgram) = .ok commitment) :
    jupiterSuffixCommitment sha256 suffix = .ok commitment.bytes := by
  rw [jupiter_suffix_commitment, jupiter_suffix_encoded_eq, List.length_map] at hashed
  rw [jupiterSuffixCommitment, jupiterSuffixCommitmentPreimage_eq]
  by_cases small : suffix.length < 2 ^ 32 ∧ ∀ instruction ∈ suffix, Encodable instruction.toProgram
  · have encodable : suffix.length < 2 ^ 32 ∧
        ∀ instruction ∈ suffix.map CommittedInstruction.toProgram, Encodable instruction :=
      ⟨small.1, List.forall_mem_map.mpr small.2⟩
    rw [if_pos encodable] at hashed
    rw [if_pos small, ← Except.ok.inj hashed]
    rfl
  · have large : ¬ (suffix.length < 2 ^ 32 ∧
        ∀ instruction ∈ suffix.map CommittedInstruction.toProgram, Encodable instruction) :=
      fun encodable => small ⟨encodable.1, List.forall_mem_map.mp encodable.2⟩
    rw [if_neg large] at hashed
    cases hashed
/-- The client's verdict on a transaction is the program's on the list itself. -/
theorem checkGuardedJupiterTransaction_eq (platform : Platform) {instructions : List CommittedInstruction}
    (fits : Sysvar.Fits (instructions.map CommittedInstruction.toProgram)) (current : UInt16)
    (kind : JupiterAdapterKind) (protectedMint : Address) (commitment : Chunk 32) :
    checkGuardedJupiterTransaction platform instructions (.ofInt current.toNat) kind protectedMint commitment.bytes =
      .ok (verdict (do
        refuse_if (current ≠ 0) .GuardNotFirst
        Jupiter.check_suffix platform ((instructions.map CommittedInstruction.toProgram).drop 1) (roleOf kind)
          protectedMint.key
        let expected ← jupiter_suffix_commitment platform.sha256
          ((instructions.map CommittedInstruction.toProgram).drop 1)
        refuse_if (expected ≠ commitment) .DownstreamCommitmentMismatch)) := by
  have index : Number.strictEq (.ofInt current.toNat) 0 = true ↔ current = 0 := by
    rw [Number.strictEq_iff, ← UInt16.toNat_inj]
    constructor
    · rintro ⟨same, _⟩
      exact_mod_cast Number.ofInt_injective same
    · intro zero
      rw [zero]
      exact ⟨rfl, Number.noConfusion⟩
  rw [checkGuardedJupiterTransaction, refuse_if_bind]
  by_cases first : current = 0
  swap
  · rw [if_pos (mt index.mp first), if_pos first]
    rfl
  rw [if_neg (not_not.mpr (index.mpr first)), if_neg (not_not.mpr first)]
  have checked := checkJupiterSuffix_correct platform (instructions.drop 1) kind protectedMint
  rw [List.map_drop] at checked
  cases supported : Jupiter.check_suffix platform ((instructions.map CommittedInstruction.toProgram).drop 1) (roleOf kind)
      protectedMint.key with
  | error error =>
    rw [supported] at checked
    have failed : checkJupiterSuffix platform (instructions.drop 1) kind protectedMint = .ok (fail error) := checked
    simp only [failed, ok_bind]
    rfl
  | ok _ =>
    rw [supported] at checked
    obtain ⟨route, accepted, _⟩ := checked
    have hashed := Jupiter.jupiter_suffix_commitment_eq platform.sha256 fits
    generalize platform.sha256 (JUPITER_SUFFIX_COMMITMENT_DOMAIN ++ _) = expected at hashed
    have hashed' := hashed
    rw [← List.map_drop] at hashed'
    simp only [accepted, ok_bind, hashed, jupiterSuffixCommitment_of hashed', bytesEqual, decide_eq_true_eq,
      ← Chunk.ext_iff, refuse_if]
    by_cases same : expected = commitment
    · rw [if_pos same, if_neg (not_not.mpr same)]
      rfl
    · rw [if_neg same, if_pos same]
      rfl

/-- What was checked and hashed before verifies afterwards. -/
theorem recheck_passes {platform : Platform} {kind : JupiterAdapterKind} {protectedMint : Address}
    {final : List CommittedInstruction} {route : RouteV2Summary} {commitment : List UInt8}
    (passes : checkJupiterSuffix platform (final.drop 1) kind protectedMint = .ok ⟨none, some route⟩)
    (hashed : jupiterSuffixCommitment platform.sha256 (final.drop 1) = .ok commitment) :
    checkGuardedJupiterTransaction platform final 0 kind protectedMint commitment = .ok none := by
  have first : ¬ ¬ Number.strictEq 0 0 = true := by decide
  have same : bytesEqual commitment commitment = true := decide_eq_true rfl
  rw [checkGuardedJupiterTransaction, if_neg first]
  dsimp only
  rw [passes, ok_bind]
  dsimp only
  rw [hashed, ok_bind, same, if_pos rfl]
  rfl
/-- The client's copy of the suffix rules is the program's, down to the first failing check. -/
theorem suffix_checks_agree (platform : Platform) (instructions : List CommittedInstruction) (current : UInt16)
    (kind : JupiterAdapterKind) (protectedMint : Address) (request : Instruction.AssertSafeExecutionV2)
    (instructions_sysvar : Jupiter.AccountInfo) (fits : Sysvar.Fits (instructions.map CommittedInstruction.toProgram))
    (loaded : instructions_sysvar.data =
      some (Sysvar.serialize (instructions.map CommittedInstruction.toProgram) current.toNat)) :
    checkGuardedJupiterTransaction platform instructions (.ofInt current.toNat) kind protectedMint
        request.downstream_commitment.bytes =
      .ok (verdict (Jupiter.verify_jupiter_suffix platform current (roleOf kind) request protectedMint.key
        instructions_sysvar)) := by
  rw [Jupiter.verify_jupiter_suffix_serialize platform current (roleOf kind) request protectedMint.key fits loaded]
  exact checkGuardedJupiterTransaction_eq platform fits current kind protectedMint request.downstream_commitment

/-! ### A buy of an equity -/

def buyer : Address := .ofKey ⟨List.replicate 32 7, by simp⟩
def equityMint : Address := .ofKey ⟨List.replicate 32 9, by simp⟩
def buyerUsdc : Address :=
  address "7EJSueeCjseYzghxU2XhcGEUn7RJDh43Z2dL6dvGy9mw" (by decide +kernel)
def buyerEquity : Address :=
  address "GkszU3JvM7uPsFGpazjSHDDAgbKdDeUdBNkZB94k3FCX" (by decide +kernel)
/-- The digest of the trade below, and the two token accounts of the buyer. -/
def buyPlatform : Platform where
  sha256 := fun _ => ⟨[0xdc, 0xcc, 0xf6, 0x78, 0x28, 0x92, 0xc6, 0xd2, 0x8d, 0xbc, 0x85, 0xcb, 0x81, 0x72, 0xd6, 0x9b,
    0xad, 0x29, 0xb1, 0x96, 0x3e, 0xbf, 0xc8, 0xe3, 0x8c, 0x2a, 0x93, 0x72, 0x55, 0xd2, 0x24, 0x84], rfl⟩
  find_program_address := fun seeds _ =>
    if seeds = [buyer.key.bytes, LEGACY_TOKEN_PROGRAM_ADDRESS.key.bytes, USDC_MINT_ADDRESS.key.bytes] then buyerUsdc.key
    else buyerEquity.key
def buySuffix : List CommittedInstruction := [
  ⟨COMPUTE_BUDGET_PROGRAM_ADDRESS, [], [3, 0xe8, 3, 0, 0, 0, 0, 0, 0]⟩,
  ⟨COMPUTE_BUDGET_PROGRAM_ADDRESS, [], [2, 0xc0, 0x5c, 0x15, 0]⟩,
  ⟨JUPITER_V6_PROGRAM_ADDRESS,
    [⟨buyer, true, true⟩, ⟨buyerUsdc, false, true⟩, ⟨buyerEquity, false, true⟩, ⟨USDC_MINT_ADDRESS, false, false⟩,
      ⟨equityMint, false, false⟩, ⟨LEGACY_TOKEN_PROGRAM_ADDRESS, false, false⟩,
      ⟨TOKEN_2022_PROGRAM_ADDRESS, false, false⟩, ⟨JUPITER_V6_PROGRAM_ADDRESS, false, false⟩,
      ⟨JUPITER_EVENT_AUTHORITY, false, false⟩, ⟨JUPITER_V6_PROGRAM_ADDRESS, false, false⟩],
    [0xbb, 0x64, 0xfa, 0xcc, 0x31, 0xc4, 0xaf, 0x14, 0x40, 0x42, 0x0f, 0, 0, 0, 0, 0, 0x80, 0x84, 0x1e, 0, 0, 0, 0, 0,
      50, 0, 0, 0, 0, 0, 1, 0, 0, 0]⟩]
def buyRequest : Instruction.AssertSafeExecutionV2 where
  expected_mint := equityMint.key
  execution := ⟨Guard.twoForOneSplit, .Pending, ⟨10, 10⟩⟩
  adapter := .JupiterRouteV2BuyUsdc
  downstream_commitment := buyPlatform.sha256 []
/-- The buy behind its guard, as the sysvar shows it. -/
def buyTransaction : List CommittedInstruction :=
  ⟨.ofKey ⟨List.replicate 32 5, by simp⟩, [⟨equityMint, false, false⟩, ⟨.ofKey INSTRUCTIONS_SYSVAR_ID, false, false⟩],
    buyRequest.pack⟩ :: buySuffix
theorem buyTransaction_fits : Sysvar.Fits (buyTransaction.map CommittedInstruction.toProgram) := by
  refine Sysvar.fits_of_size ?_
  have guard : buyRequest.pack.length = 99 := Instruction.AssertSafeExecutionV2.pack_length buyRequest
  simp [buyTransaction, buySuffix, Sysvar.wire_size, CommittedInstruction.toProgram, guard]
theorem buy_source : canonicalAta buyPlatform buyer USDC_MINT_ADDRESS LEGACY_TOKEN_PROGRAM_ADDRESS = buyerUsdc := by
  unfold canonicalAta buyPlatform
  dsimp only
  rw [if_pos rfl, Address.ofKey_key]
theorem buy_destination : canonicalAta buyPlatform buyer equityMint TOKEN_2022_PROGRAM_ADDRESS = buyerEquity := by
  have other : TOKEN_2022_PROGRAM_ADDRESS ≠ LEGACY_TOKEN_PROGRAM_ADDRESS := by decide
  unfold canonicalAta buyPlatform
  dsimp only
  rw [if_neg, Address.ofKey_key]
  intro same
  rw [List.cons.injEq, List.cons.injEq, ← Chunk.ext_iff, ← Chunk.ext_iff, Address.key_inj, Address.key_inj] at same
  exact other same.2.1
theorem buy_routed : routeVerdict buySuffix[2] .JUPITER_ROUTE_V2_BUY_USDC equityMint = .ok ⟨none, some ⟨buyer, buyerUsdc,
    buyerEquity, USDC_MINT_ADDRESS, equityMint, LEGACY_TOKEN_PROGRAM_ADDRESS, TOKEN_2022_PROGRAM_ADDRESS,
    ⟨1000000, 2000000, 50, 0, 0, 1⟩⟩⟩ := by
  have decoded : decodeRouteV2Prefix buySuffix[2].data = .ok (some ⟨1000000, 2000000, 50, 0, 0, 1⟩) := by decide
  have accounts : ¬ buySuffix[2].accounts.length < ROUTE_V2_FIXED_ACCOUNTS := by decide
  unfold routeVerdict
  rw [if_neg accounts, decoded, ok_bind]
  simp [buySuffix, protectedRoleOf, pure_eq_ok, MAX_SLIPPAGE_BPS, ROUTE_V2_ACCOUNT.authority, ROUTE_V2_ACCOUNT.source,
    ROUTE_V2_ACCOUNT.destination, ROUTE_V2_ACCOUNT.sourceMint, ROUTE_V2_ACCOUNT.destinationMint,
    ROUTE_V2_ACCOUNT.sourceTokenProgram, ROUTE_V2_ACCOUNT.destinationTokenProgram, ROUTE_V2_ACCOUNT.destinationOverride,
    ROUTE_V2_ACCOUNT.eventAuthority, ROUTE_V2_ACCOUNT.program]
/-- The suffix of the buy passes every check. -/
theorem buy_passes : ∃ route, checkJupiterSuffix buyPlatform buySuffix .JUPITER_ROUTE_V2_BUY_USDC equityMint =
    .ok ⟨none, some route⟩ ∧ route.start.slippageBps = 50 := by
  have grammar : ¬ (buySuffix[0].programAddress ≠ COMPUTE_BUDGET_PROGRAM_ADDRESS ∨
      buySuffix[1].programAddress ≠ COMPUTE_BUDGET_PROGRAM_ADDRESS ∨ (none : Option CommittedInstruction).any (fun setup =>
        decide (setup.programAddress ≠ ASSOCIATED_TOKEN_PROGRAM_ADDRESS)) = true) := by simp [buySuffix]
  have program : ¬ buySuffix[2].programAddress ≠ JUPITER_V6_PROGRAM_ADDRESS := not_not.mpr rfl
  have price : computeBudgetVerdict buySuffix[0] SET_COMPUTE_UNIT_PRICE = none := rfl
  have limit : computeBudgetVerdict buySuffix[1] SET_COMPUTE_UNIT_LIMIT = none := rfl
  refine ⟨⟨buyer, buyerUsdc, buyerEquity, USDC_MINT_ADDRESS, equityMint, LEGACY_TOKEN_PROGRAM_ADDRESS,
    TOKEN_2022_PROGRAM_ADDRESS, ⟨1000000, 2000000, 50, 0, 0, 1⟩⟩, ?_, rfl⟩
  show checkPositions buyPlatform buySuffix[0] buySuffix[1] none buySuffix[2] _ _ = _
  rw [checkPositions, if_neg grammar, if_neg program, price, limit, Option.or_none]
  dsimp only
  rw [buy_routed, ok_bind]
  dsimp only [Option.bind_none]
  rw [buy_source, buy_destination, if_neg (not_not.mpr rfl), if_neg (not_not.mpr rfl)]
  rfl
theorem buy_accepted (sha256 : List UInt8 → Chunk 32) (commitment : Chunk 32)
    (hashed : jupiterSuffixCommitment sha256 buySuffix = .ok commitment.bytes) :
    checkGuardedJupiterTransaction { buyPlatform with sha256 } buyTransaction 0 .JUPITER_ROUTE_V2_BUY_USDC equityMint
      commitment.bytes = .ok none := by
  obtain ⟨route, passes, _⟩ := buy_passes
  have same : checkJupiterSuffix { buyPlatform with sha256 } buySuffix = checkJupiterSuffix buyPlatform buySuffix := rfl
  rw [← same] at passes
  exact @recheck_passes { buyPlatform with sha256 } _ _ buyTransaction route _ passes hashed
theorem suffix_checks_agree_buy :
    Sysvar.Fits (buyTransaction.map CommittedInstruction.toProgram) ∧
    verdict (Jupiter.verify_jupiter_suffix buyPlatform 0 .Destination buyRequest equityMint.key
      ⟨INSTRUCTIONS_SYSVAR_ID, INSTRUCTIONS_SYSVAR_ID,
        some (Sysvar.serialize (buyTransaction.map CommittedInstruction.toProgram) 0)⟩) = none := by
  have accepted := buy_accepted buyPlatform.sha256 buyRequest.downstream_commitment rfl
  refine ⟨buyTransaction_fits, Except.ok.inj (Eq.trans ?_ accepted)⟩
  exact (suffix_checks_agree buyPlatform buyTransaction 0 .JUPITER_ROUTE_V2_BUY_USDC equityMint buyRequest _ buyTransaction_fits
    rfl).symm

end EquityGuard.ClientJupiter
