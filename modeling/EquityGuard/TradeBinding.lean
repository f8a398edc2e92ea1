import EquityGuard.GuardedTrade
import EquityGuard.PlanVerification

/-!
What a plan binds of a guarded trade. The client that builds trades and the package that
plans them each have their own rules for the binding; every trade that was built passes.
-/
namespace EquityGuard.TradeBinding
open EquityGuard.Addresses EquityGuard.Bytes EquityGuard.Client EquityGuard.ClientAbi EquityGuard.ClientJupiter
open EquityGuard.ClientTrade EquityGuard.Canonical EquityGuard.Errors EquityGuard.Failures EquityGuard.JsonText
open EquityGuard.JsValue EquityGuard.PlanContents EquityGuard.PlanVerification EquityGuard.Plans EquityGuard.Records
open EquityGuard.Transaction
open EquityGuard.Jupiter (Platform)

/-! ### The trade that was checked -/

/-- What both sides of a trade are, and what it may spend, get and slip. -/
structure Plannable (kind : JupiterAdapterKind) (protectedMint : Address) (route : RouteV2Summary) : Prop where
  sides : (if protectedRoleOf kind = .DESTINATION then (route.destinationMint, route.sourceMint)
    else (route.sourceMint, route.destinationMint)) = (protectedMint, USDC_MINT_ADDRESS)
  inAmount : 0 < route.start.inAmount ∧ route.start.inAmount < 2 ^ 64
  quotedOutAmount : 0 < route.start.quotedOutAmount ∧ route.start.quotedOutAmount < 2 ^ 64
  slippageBps : route.start.slippageBps ≤ MAX_SLIPPAGE_BPS

theorem decodeRouteV2Prefix_bounds {data : List UInt8} {start : RouteV2Prefix}
    (decoded : decodeRouteV2Prefix data = .ok (some start)) : start.inAmount < 2 ^ 64 ∧ start.quotedOutAmount < 2 ^ 64 := by
  rw [decodeRouteV2Prefix_eq] at decoded
  obtain ⟨known, _, rfl⟩ := Option.map_eq_some_iff.mp (Except.ok.inj decoded)
  exact ⟨known.in_amount.toNat_lt, known.quoted_out_amount.toNat_lt⟩
theorem routeVerdict_checked {trade : CommittedInstruction} {kind : JupiterAdapterKind} {protectedMint : Address}
    {route : RouteV2Summary} (passes : routeVerdict trade kind protectedMint = .ok ⟨none, some route⟩) :
    Plannable kind protectedMint route := by
  unfold routeVerdict at passes
  split at passes
  · cases passes
  obtain ⟨decoded, read, passes⟩ := bind_eq_ok.mp passes
  split at passes
  · cases passes
  rename_i start
  obtain ⟨inSmall, outSmall⟩ := decodeRouteV2Prefix_bounds read
  obtain ⟨_, _, passes⟩ := bind_eq_ok.mp passes
  split at passes
  · cases passes
  obtain ⟨_, _, passes⟩ := bind_eq_ok.mp passes
  obtain ⟨_, _, passes⟩ := bind_eq_ok.mp passes
  split at passes
  · cases passes
  rename_i structured
  obtain ⟨_, _, inAmount, quotedOut, slippage, _⟩ := not_not.mp structured
  obtain ⟨_, _, passes⟩ := bind_eq_ok.mp passes
  split at passes
  · cases passes
  obtain ⟨_, _, passes⟩ := bind_eq_ok.mp passes
  obtain ⟨_, _, passes⟩ := bind_eq_ok.mp passes
  obtain ⟨_, _, passes⟩ := bind_eq_ok.mp passes
  obtain ⟨_, _, passes⟩ := bind_eq_ok.mp passes
  obtain ⟨_, _, passes⟩ := bind_eq_ok.mp passes
  obtain ⟨_, _, passes⟩ := bind_eq_ok.mp passes
  obtain ⟨_, _, passes⟩ := bind_eq_ok.mp passes
  -- which side is protected depends on the kind
  have finished : ∀ {refused : Prop} [Decidable refused] {error : EquityGuardError} {rest : Js SuffixCheck},
      (if refused then pure (fail error) else rest) = .ok ⟨none, some route⟩ → ¬ refused ∧ rest = .ok ⟨none, some route⟩ := by
    intro refused _ error rest passes
    split at passes
    · cases passes
    · exact ⟨‹_›, passes⟩
  cases kind with
  | JUPITER_ROUTE_V2_BUY_USDC =>
    obtain ⟨protectedSide, passes⟩ := finished passes
    obtain ⟨counter, passes⟩ := finished passes
    obtain ⟨_, passes⟩ := finished passes
    obtain ⟨_, passes⟩ := finished passes
    cases passes
    exact ⟨Prod.ext (not_not.mp protectedSide) (not_not.mp counter), ⟨inAmount, inSmall⟩, ⟨quotedOut, outSmall⟩, slippage⟩
  | JUPITER_ROUTE_V2_SELL_USDC =>
    obtain ⟨protectedSide, passes⟩ := finished passes
    obtain ⟨counter, passes⟩ := finished passes
    obtain ⟨_, passes⟩ := finished passes
    obtain ⟨_, passes⟩ := finished passes
    cases passes
    exact ⟨Prod.ext (not_not.mp protectedSide) (not_not.mp counter), ⟨inAmount, inSmall⟩, ⟨quotedOut, outSmall⟩, slippage⟩
theorem checkPositions_route {platform : Platform} {price limit trade : CommittedInstruction}
    {setup : Option CommittedInstruction} {kind : JupiterAdapterKind} {protectedMint : Address} {route : RouteV2Summary}
    (passes : checkPositions platform price limit setup trade kind protectedMint = .ok ⟨none, some route⟩) :
    Plannable kind protectedMint route := by
  unfold checkPositions at passes
  split at passes
  · cases passes
  split at passes
  · cases passes
  split at passes
  · cases passes
  obtain ⟨judged, checked, passes⟩ := bind_eq_ok.mp passes
  split at passes
  · cases passes
  · cases passes
  rename_i found
  split at passes
  · cases passes
  split at passes
  · cases passes
  split at passes
  · cases passes
  cases passes
  exact routeVerdict_checked checked
/-- A suffix that passes is a trade that can be planned, behind two limits and at most one setup. -/
theorem checkJupiterSuffix_route {platform : Platform} {suffix : List CommittedInstruction} {kind : JupiterAdapterKind}
    {protectedMint : Address} {route : RouteV2Summary}
    (passes : checkJupiterSuffix platform suffix kind protectedMint = .ok ⟨none, some route⟩) :
    Plannable kind protectedMint route ∧ (suffix.length = 3 ∨ suffix.length = 4) := by
  unfold checkJupiterSuffix at passes
  split at passes
  · exact ⟨checkPositions_route passes, .inl rfl⟩
  · exact ⟨checkPositions_route passes, .inr rfl⟩
  · cases passes

/-! ### Texts -/

theorem address_ascii (address : Address) : ∀ letter ∈ address.text.toList, letter.toNat < 128 := by
  obtain ⟨digits, decoded, _⟩ := Option.map_eq_some_iff.mp address.decode_text
  obtain ⟨small, letters⟩ := Base58.letters_of_mapM decoded
  have table : ∀ digit < 58, (Base58.letterOf digit).toNat < 128 := by decide
  rw [← letters]
  intro letter member
  obtain ⟨digit, known, rfl⟩ := List.mem_map.mp member
  exact table digit (small digit known)
theorem units_small {string : String} (ascii : ∀ letter ∈ string.toList, letter.toNat < 128) :
    ∀ unit ∈ text string, unit < 128 := by
  intro unit member
  obtain ⟨letter, known, shown⟩ := List.mem_flatMap.mp member
  have small := ascii letter known
  rw [unitsOf, if_pos (by omega), List.mem_singleton] at shown
  rw [shown, UInt16.lt_iff_toNat_lt, UInt16.toNat_ofNat']
  show letter.toNat % 2 ^ 16 < 128
  omega
theorem text_injective {left right : String} (leftAscii : ∀ letter ∈ left.toList, letter.toNat < 128)
    (rightAscii : ∀ letter ∈ right.toList, letter.toNat < 128) (same : text left = text right) : left = right := by
  have letters := congrArg (List.map (fun unit => Char.ofNat unit.toNat)) same
  rw [units_ascii leftAscii, units_ascii rightAscii] at letters
  exact String.toList_inj.mp letters
theorem address_same {left right : Address} (same : text left.text = text right.text) : left = right :=
  Address.text_inj.mp (text_injective (address_ascii left) (address_ascii right) same)
theorem isAddressString_address (address : Address) : isAddressString (text address.text) = true := by
  have small : (text address.text).all (· < 128) = true :=
    List.all_eq_true.mpr fun unit member => decide_eq_true (units_small (address_ascii address) unit member)
  rw [isAddressString, small, units_ascii (address_ascii address), String.ofList_toList]
  exact address.valid
theorem isCommitmentHex_hexOf (commitment : Chunk 32) : isCommitmentHex (text (hexOf commitment.bytes)) = true := by
  have digit : ∀ value < 16, ∃ unit, unitsOf (hexDigit value) = [unit] ∧ (48 ≤ unit ∧ unit ≤ 57 ∨ 97 ≤ unit ∧ unit ≤ 102) := by
    have table : ∀ value < 16, ((unitsOf (hexDigit value)).length = 1 ∧ (unitsOf (hexDigit value)).all (fun unit =>
        decide (48 ≤ unit ∧ unit ≤ 57 ∨ 97 ≤ unit ∧ unit ≤ 102)) = true) := by decide
    intro value small
    obtain ⟨length, all⟩ := table value small
    obtain ⟨unit, single⟩ := List.length_eq_one_iff.mp length
    rw [single] at all
    exact ⟨unit, single, by simpa using all⟩
  have lower (bytes : List UInt8) : Quotes.isLowerHex (2 * bytes.length) (text (hexOf bytes)) = true := by
    rw [text, hexOf, String.toList_ofList]
    induction bytes with
    | nil => rfl
    | cons byte rest ih =>
      have small := byte.toNat_lt
      obtain ⟨high, highUnit, highRange⟩ := digit (byte.toNat / 16) (by omega)
      obtain ⟨low, lowUnit, lowRange⟩ := digit (byte.toNat % 16) (by omega)
      simp only [Quotes.isLowerHex, Bool.and_eq_true, beq_iff_eq] at ih
      simp only [Quotes.isLowerHex, List.flatMap_cons, List.cons_append, List.nil_append, highUnit, lowUnit, List.length_cons,
        List.all_cons, ih.2, highRange, lowRange, decide_true, Bool.and_true, beq_iff_eq]
      omega
  rw [isCommitmentHex, ← lower commitment.bytes, commitment.size_eq]

/-! ### The binding -/

def kindName : JupiterAdapterKind → Text
  | .JUPITER_ROUTE_V2_BUY_USDC => BUY
  | .JUPITER_ROUTE_V2_SELL_USDC => SELL
def roleName : ProtectedMintRole → Text
  | .SOURCE => "SOURCE"
  | .DESTINATION => "DESTINATION"
/-- The fields of a binding, as the plan reads them. -/
def fields (binding : JupiterTradeBinding) : List (String × Value) := [
  ("adapterKind", .string (kindName binding.adapterKind)),
  ("jupiterProgramId", text binding.jupiterProgramId.text),
  ("routeDiscriminatorHex", text binding.routeDiscriminatorHex),
  ("protectedMintRole", .string (roleName binding.protectedMintRole)),
  ("protectedMint", text binding.protectedMint.text),
  ("counterMint", text binding.counterMint.text),
  ("authority", text binding.authority.text),
  ("sourceMint", text binding.sourceMint.text),
  ("destinationMint", text binding.destinationMint.text),
  ("sourceTokenAccount", text binding.sourceTokenAccount.text),
  ("destinationTokenAccount", text binding.destinationTokenAccount.text),
  ("inAmountRaw", .bigint binding.inAmountRaw),
  ("quotedOutRaw", .bigint binding.quotedOutRaw),
  ("slippageBps", .number (.ofInt binding.slippageBps)),
  ("minOutRaw", .bigint binding.minOutRaw),
  ("suffixCommitmentHex", text binding.suffixCommitmentHex),
  ("suffixInstructionCount", .number (.ofInt binding.suffixInstructionCount))]
def toValue (binding : JupiterTradeBinding) : Value := record (fields binding)

theorem bindingFields_distinct : (bindingFields.map text).Nodup := by decide
theorem toValue_at {binding : JupiterTradeBinding} (position : Nat) {name : String} {value : Value}
    (found : (fields binding)[position]? = some (name, value)) : (toValue binding).get name = value :=
  @record_get_of_mem bindingFields _ rfl bindingFields_distinct _ _ (List.mem_of_getElem? found)
theorem toValue_jupiter (binding : JupiterTradeBinding) :
    isString ((toValue binding).get "adapterKind") TRANSFER_CHECKED = false := by
  rw [toValue_at 0 rfl]
  cases binding.adapterKind <;> decide
theorem canonicalDownstream_toValue (binding : JupiterTradeBinding) : canonicalDownstream (toValue binding) = toValue binding := by
  rw [canonicalDownstream, if_neg (by simp [toValue_jupiter])]
  exact record_of_get rfl bindingFields_distinct

/-- The binding of a trade whose slippage is in range. -/
def bindingOf (trade : GuardedJupiterTrade) (minOutRaw : Nat) : JupiterTradeBinding where
  adapterKind := trade.adapterKind
  jupiterProgramId := JUPITER_V6_PROGRAM_ADDRESS
  routeDiscriminatorHex := ROUTE_V2_DISCRIMINATOR_HEX
  protectedMintRole := protectedRoleOf trade.adapterKind
  protectedMint := if protectedRoleOf trade.adapterKind = .DESTINATION then trade.route.destinationMint else trade.route.sourceMint
  counterMint := if protectedRoleOf trade.adapterKind = .DESTINATION then trade.route.sourceMint else trade.route.destinationMint
  authority := trade.route.authority
  sourceMint := trade.route.sourceMint
  destinationMint := trade.route.destinationMint
  sourceTokenAccount := trade.route.source
  destinationTokenAccount := trade.route.destination
  inAmountRaw := trade.route.start.inAmount
  quotedOutRaw := trade.route.start.quotedOutAmount
  slippageBps := trade.route.start.slippageBps
  minOutRaw
  suffixCommitmentHex := hexOf trade.commitment
  suffixInstructionCount := trade.committedSuffix.length
/-- Jupiter's minimum: the quoted output less the slippage, rounded up. -/
def minimumOut (quotedOut slippageBps : Nat) : Nat := (quotedOut * (MAX_SLIPPAGE_BPS - slippageBps) + 9999) / 10000
theorem minimumOutFromQuote_eq {quotedOut slippageBps : Nat} (inside : slippageBps ≤ MAX_SLIPPAGE_BPS) :
    minimumOutFromQuote quotedOut slippageBps = .ok (minimumOut quotedOut slippageBps) := by
  rw [minimumOutFromQuote, refuse_if_bind, if_neg (by omega)]
  rfl
theorem minimumOut_le {quotedOut slippageBps : Nat} : minimumOut quotedOut slippageBps ≤ quotedOut := by
  have reduced : quotedOut * (MAX_SLIPPAGE_BPS - slippageBps) ≤ quotedOut * 10000 :=
    Nat.mul_le_mul_left quotedOut (Nat.sub_le _ _)
  rw [minimumOut]
  omega
theorem minimumOut_ceil (quotedOut slippageBps : Nat) (inside : slippageBps ≤ MAX_SLIPPAGE_BPS) :
    (minimumOut quotedOut slippageBps : ℤ) = ⌈(quotedOut : ℚ) * (10000 - slippageBps) / 10000⌉ := by
  obtain ⟨kept, keptEq⟩ : ∃ kept, kept = quotedOut * (MAX_SLIPPAGE_BPS - slippageBps) := ⟨_, rfl⟩
  have upper : kept ≤ (kept + 9999) / 10000 * 10000 := by omega
  have lower : (kept + 9999) / 10000 * 10000 < kept + 10000 := by omega
  have exact_kept : (kept : ℚ) = quotedOut * (10000 - slippageBps) := by
    rw [keptEq, Nat.cast_mul, Nat.cast_sub inside]
    norm_num [MAX_SLIPPAGE_BPS]
  have upper : (kept : ℚ) ≤ ((kept + 9999) / 10000 : ℕ) * 10000 := by exact_mod_cast upper
  have lower : (((kept + 9999) / 10000 : ℕ) : ℚ) * 10000 < kept + 10000 := by exact_mod_cast lower
  rw [minimumOut, ← keptEq, ← exact_kept, eq_comm, Int.ceil_eq_iff, Int.cast_natCast]
  constructor <;> linarith
/-- What was built is plannable, with a digest for a commitment. -/
theorem plannable_of_built {platform : Platform} {programAddress feePayer protectedMint : Address} {kind : JupiterAdapterKind}
    {expectation : AssertSafeExecutionRequest} {suffix : List Kit.Instruction} {trade : GuardedJupiterTrade}
    (built : buildGuardedJupiterTrade platform programAddress feePayer protectedMint kind expectation suffix = .ok trade) :
    ∃ commitment : Chunk 32, Plannable trade.adapterKind protectedMint trade.route ∧ trade.commitment = commitment.bytes ∧
      (trade.committedSuffix.length = 3 ∨ trade.committedSuffix.length = 4) := by
  obtain ⟨_, provisional, _, _, passes, hashed, suffixEq, rfl⟩ := GuardedTrade.buildGuardedJupiterTrade_checked built
  obtain ⟨plannable, length⟩ := checkJupiterSuffix_route passes
  rcases jupiterSuffixCommitment_cases platform.sha256 (provisional.drop 1) with ⟨commitment, found⟩ | refused
  · exact ⟨commitment, plannable, Except.ok.inj (hashed.symm.trans found), suffixEq ▸ length⟩
  · cases hashed.symm.trans refused
theorem jupiterTradeBindingOf_eq {trade : GuardedJupiterTrade} (inside : trade.route.start.slippageBps ≤ MAX_SLIPPAGE_BPS) :
    jupiterTradeBindingOf trade =
      .ok (bindingOf trade (minimumOut trade.route.start.quotedOutAmount trade.route.start.slippageBps)) := by
  unfold jupiterTradeBindingOf
  dsimp only
  rw [minimumOutFromQuote_eq inside]
  rfl

theorem integerUpTo_natCast {value bound : Nat} (small : value ≤ bound) :
    (Numeric.number (.ofInt value)).isIntegerUpTo (.ofInt bound) = true := by
  have low : (0 : ℚ) ≤ ((value : ℤ) : ℚ) := by positivity
  have high : ((value : ℤ) : ℚ) ≤ ((bound : ℤ) : ℚ) := by exact_mod_cast small
  rw [Numeric.isIntegerUpTo, Numeric.value, Binary64.Number.isInteger_ofInt, Bool.true_and, Bool.and_eq_true]
  exact ⟨decide_eq_true low, decide_eq_true high⟩
theorem slippage_fine {binding : JupiterTradeBinding} (inside : binding.slippageBps ≤ MAX_SLIPPAGE_BPS)
    (minimum : binding.minOutRaw = minimumOut binding.quotedOutRaw binding.slippageBps) :
    slippageProblems (toValue binding) = [] := by
  have range : (Numeric.number (.ofInt binding.slippageBps)).isIntegerUpTo (.ofInt 10000) = true := integerUpTo_natCast inside
  have whole : (Normalize.bigIntOf (.number (.ofInt binding.slippageBps))).toNat = binding.slippageBps := by
    rw [Normalize.bigIntOf, Numeric.value, Binary64.Number.ofInt]
    dsimp only
    rw [Rat.num_intCast, Int.toNat_natCast]
  unfold slippageProblems
  rw [toValue_at 13 rfl, toValue_at 12 rfl, toValue_at 14 rfl]
  simp only [numericOf, range, if_true, problemIf_eq_nil, isMinimumOut, whole, Int.toNat_natCast,
    minimumOutFromQuote_eq inside]
  simp [isBigint, minimum]
/-- A binding that the plan has nothing to say about. -/
structure WellFormed (binding : JupiterTradeBinding) : Prop where
  program : binding.jupiterProgramId = JUPITER_V6_PROGRAM_ADDRESS
  discriminator : binding.routeDiscriminatorHex = ROUTE_V2_DISCRIMINATOR_HEX
  role : binding.protectedMintRole = protectedRoleOf binding.adapterKind
  counterMint : binding.counterMint = USDC_MINT_ADDRESS
  sides : (if protectedRoleOf binding.adapterKind = .DESTINATION then (binding.destinationMint, binding.sourceMint)
    else (binding.sourceMint, binding.destinationMint)) = (binding.protectedMint, binding.counterMint)
  inAmount : 0 < binding.inAmountRaw ∧ binding.inAmountRaw < 2 ^ 64
  quotedOut : 0 < binding.quotedOutRaw ∧ binding.quotedOutRaw < 2 ^ 64
  slippage : binding.slippageBps ≤ MAX_SLIPPAGE_BPS
  minimum : binding.minOutRaw = minimumOut binding.quotedOutRaw binding.slippageBps
  commitment : ∃ commitment : Chunk 32, binding.suffixCommitmentHex = hexOf commitment.bytes
  length : binding.suffixInstructionCount = 3 ∨ binding.suffixInstructionCount = 4
theorem wellFormed_of_plannable {trade : GuardedJupiterTrade} {protectedMint : Address} {commitment : Chunk 32}
    (plannable : Plannable trade.adapterKind protectedMint trade.route) (digest : trade.commitment = commitment.bytes)
    (length : trade.committedSuffix.length = 3 ∨ trade.committedSuffix.length = 4) :
    WellFormed (bindingOf trade (minimumOut trade.route.start.quotedOutAmount trade.route.start.slippageBps)) := by
  obtain ⟨sides, inAmount, quotedOut, slippage⟩ := plannable
  refine ⟨rfl, rfl, rfl, ?_, ?_, inAmount, quotedOut, slippage, rfl, ⟨commitment, congrArg hexOf digest⟩, length⟩
  · unfold bindingOf
    dsimp only
    split at sides <;> rename_i destination
    · rw [if_pos destination]
      exact congrArg Prod.snd sides
    · rw [if_neg destination]
      exact congrArg Prod.snd sides
  · unfold bindingOf
    dsimp only
    split <;> rfl
theorem isString_self (expected : Text) : isString (.string expected) expected = true := by simp [isString]
theorem isPositive_natCast {value : Nat} (bounds : 0 < value ∧ value < 2 ^ 64) : isPositive (.bigint value) = true := by
  rw [isPositive, Bool.and_eq_true, decide_eq_true_eq, decide_eq_true_eq]
  omega
theorem jupiterProblems_wellFormed (realm : Realm) {binding : JupiterTradeBinding} (wellFormed : WellFormed binding)
    {role : Role} (known : role = if protectedRoleOf binding.adapterKind = .DESTINATION then .DESTINATION else .SOURCE) :
    jupiterProblems realm role (toValue binding) = [] := by
  have problems := slippage_fine wellFormed.slippage wellFormed.minimum
  have addresses : addressFields.flatMap (fun field => problemIf (¬ isAddressString ((toValue binding).get field))
      [field, " must be an address"]) = [] := by
    rw [List.flatMap_eq_nil_iff]
    simp only [addressFields, List.forall_mem_cons, problemIf_eq_nil, not_not]
    rw [toValue_at 4 rfl, toValue_at 5 rfl, toValue_at 6 rfl, toValue_at 7 rfl, toValue_at 8 rfl, toValue_at 9 rfl,
      toValue_at 10 rfl]
    simp [isAddressString_address]
  have program : isString ((toValue binding).get "jupiterProgramId") (text JUPITER_V6_PROGRAM_ADDRESS.text) = true := by
    rw [toValue_at 1 rfl, wellFormed.program]
    exact isString_self _
  have discriminator : isString ((toValue binding).get "routeDiscriminatorHex") (text ROUTE_V2_DISCRIMINATOR_HEX) = true := by
    rw [toValue_at 2 rfl, wellFormed.discriminator]
    exact isString_self _
  have protects : isRole realm ((toValue binding).get "protectedMintRole") role = true := by
    rw [toValue_at 3 rfl, wellFormed.role, known]
    cases binding.adapterKind with
    | JUPITER_ROUTE_V2_BUY_USDC => exact isString_self Role.DESTINATION.text
    | JUPITER_ROUTE_V2_SELL_USDC => exact isString_self Role.SOURCE.text
  have counter : isString ((toValue binding).get "counterMint") (text USDC_MINT_ADDRESS.text) = true := by
    rw [toValue_at 5 rfl, wellFormed.counterMint]
    exact isString_self _
  have commitment : isCommitmentHex ((toValue binding).get "suffixCommitmentHex") = true := by
    obtain ⟨digest, hex⟩ := wellFormed.commitment
    rw [toValue_at 15 rfl, hex]
    exact isCommitmentHex_hexOf digest
  have count : ((numericOf ((toValue binding).get "suffixInstructionCount")).any (Numeric.strictEq 3) ||
      (numericOf ((toValue binding).get "suffixInstructionCount")).any (Numeric.strictEq 4)) = true := by
    rw [toValue_at 16 rfl]
    rcases wellFormed.length with length | length <;> rw [length] <;> decide
  have amounts := And.intro (isPositive_natCast wellFormed.inAmount) (isPositive_natCast wellFormed.quotedOut)
  have sides : let sides := if role = .DESTINATION then
        ((toValue binding).get "destinationMint", (toValue binding).get "sourceMint")
      else ((toValue binding).get "sourceMint", (toValue binding).get "destinationMint")
      strictEquals realm sides.1 ((toValue binding).get "protectedMint") = true ∧
        strictEquals realm sides.2 ((toValue binding).get "counterMint") = true := by
    have same := wellFormed.sides
    rw [toValue_at 4 rfl, toValue_at 5 rfl, toValue_at 7 rfl, toValue_at 8 rfl, known]
    cases kind : binding.adapterKind with
    | JUPITER_ROUTE_V2_BUY_USDC =>
      rw [kind] at same
      obtain ⟨destination, source⟩ := Prod.mk.inj same
      exact ⟨decide_eq_true (by rw [destination]), decide_eq_true (by rw [source])⟩
    | JUPITER_ROUTE_V2_SELL_USDC =>
      rw [kind] at same
      obtain ⟨source, destination⟩ := Prod.mk.inj same
      exact ⟨decide_eq_true (by rw [source]), decide_eq_true (by rw [destination])⟩
  unfold jupiterProblems
  dsimp only at sides ⊢
  simp only [List.append_eq_nil_iff, problemIf_eq_nil, not_or, not_not, addresses, problems, program, discriminator, protects,
    counter, commitment, count, sides, and_true, true_and]
  rw [toValue_at 11 rfl, toValue_at 12 rfl]
  exact amounts
theorem downstreamProblems_wellFormed (realm : Realm) {binding : JupiterTradeBinding} (wellFormed : WellFormed binding) :
    downstreamProblems realm (toValue binding) = .ok [] := by
  have kind : jupiterKind realm ((toValue binding).get "adapterKind") =
      .ok (some (if protectedRoleOf binding.adapterKind = .DESTINATION then .DESTINATION else .SOURCE)) := by
    rw [toValue_at 0 rfl]
    cases binding.adapterKind <;> rfl
  have present : (toValue binding).isObject = true := rfl
  unfold downstreamProblems
  rw [if_neg (not_not.mpr present), if_neg (by simp [toValue_jupiter]), kind, ok_bind]
  dsimp only
  rw [jupiterProblems_wellFormed realm wellFormed rfl]
  rfl

/-! ### The binding of a plan -/

theorem toValue_plain {binding : JupiterTradeBinding} (wellFormed : WellFormed binding) : Plain (toValue binding) := by
  have slippage : Plain (.number (.ofInt binding.slippageBps)) :=
    Numeric.toValue_plain (by simp) (integerUpTo_natCast wellFormed.slippage) (by decide)
  have count : Plain (.number (.ofInt binding.suffixInstructionCount)) := by
    have small : binding.suffixInstructionCount ≤ 4 := by
      have length := wellFormed.length
      omega
    exact Numeric.toValue_plain (by simp) (integerUpTo_natCast small) (by decide)
  refine record_plain bindingFields rfl bindingFields_distinct ?_
  simp only [fields, List.map_cons, List.map_nil, List.forall_mem_cons]
  exact ⟨.string _, .string _, .string _, .string _, .string _, .string _, .string _, .string _, .string _, .string _, .string _,
    .bigint _, .bigint _, slippage, .bigint _, .string _, count, by simp⟩
/-- Every field of two bindings that their kind does not determine. -/
structure Agree (left right : JupiterTradeBinding) : Prop where
  adapterKind : left.adapterKind = right.adapterKind
  protectedMint : left.protectedMint = right.protectedMint
  counterMint : left.counterMint = right.counterMint
  sourceMint : left.sourceMint = right.sourceMint
  destinationMint : left.destinationMint = right.destinationMint
  sourceTokenAccount : left.sourceTokenAccount = right.sourceTokenAccount
  destinationTokenAccount : left.destinationTokenAccount = right.destinationTokenAccount
  authority : left.authority = right.authority
  inAmountRaw : left.inAmountRaw = right.inAmountRaw
  quotedOutRaw : left.quotedOutRaw = right.quotedOutRaw
  minOutRaw : left.minOutRaw = right.minOutRaw
  slippageBps : left.slippageBps = right.slippageBps
  suffixCommitmentHex : left.suffixCommitmentHex = right.suffixCommitmentHex
  suffixInstructionCount : left.suffixInstructionCount = right.suffixInstructionCount
theorem agree_iff {left right : JupiterTradeBinding} (leftFormed : WellFormed left) (rightFormed : WellFormed right) :
    Agree left right ↔ left = right := by
  constructor
  · intro agree
    have program := leftFormed.program.trans rightFormed.program.symm
    have discriminator := leftFormed.discriminator.trans rightFormed.discriminator.symm
    have role : left.protectedMintRole = right.protectedMintRole := by
      rw [leftFormed.role, rightFormed.role, agree.adapterKind]
    obtain ⟨kind, protectedMint, counterMint, sourceMint, destinationMint, sourceAccount, destinationAccount, authority,
      inAmount, quotedOut, minOut, slippage, commitment, count⟩ := agree
    cases left
    cases right
    rw [JupiterTradeBinding.mk.injEq]
    exact ⟨kind, program, discriminator, role, protectedMint, counterMint, authority, sourceMint, destinationMint,
      sourceAccount, destinationAccount, inAmount, quotedOut, slippage, minOut, commitment, count⟩
  · rintro rfl
    exact ⟨rfl, rfl, rfl, rfl, rfl, rfl, rfl, rfl, rfl, rfl, rfl, rfl, rfl, rfl⟩
/-- The values of two bindings are the same only if the bindings are. -/
theorem toValue_same {left right : JupiterTradeBinding} (leftFormed : WellFormed left) (rightFormed : WellFormed right)
    (same : Same (toValue left) (toValue right)) : left = right := by
  have pairs := record_same bindingFields rfl rfl bindingFields_distinct same
  simp only [fields, List.map_cons, List.map_nil, List.forall₂_cons, same_string, same_bigint] at pairs
  obtain ⟨kind, _, _, _, protectedMint, counterMint, authority, sourceMint, destinationMint, sourceAccount, destinationAccount,
    inAmount, quotedOut, slippage, minOut, commitment, count, _⟩ := pairs
  have numbers {left right : Nat} (same : Same (.number (.ofInt left)) (.number (.ofInt right))) : left = right := by
    have numeric := @Numeric.same_toValue (.number (.ofInt left)) (.number (.ofInt right)) same
    exact Int.ofNat.inj (Binary64.Number.ofInt_injective (Numeric.number.inj numeric))
  have kinds : left.adapterKind = right.adapterKind := by
    revert kind
    cases left.adapterKind <;> cases right.adapterKind <;> decide
  have hex : left.suffixCommitmentHex = right.suffixCommitmentHex := by
    obtain ⟨leftDigest, leftHex⟩ := leftFormed.commitment
    obtain ⟨rightDigest, rightHex⟩ := rightFormed.commitment
    rw [leftHex, rightHex] at commitment ⊢
    rw [Hex.toHex_injective commitment]
  exact (agree_iff leftFormed rightFormed).mp ⟨kinds, address_same protectedMint, address_same counterMint,
    address_same sourceMint, address_same destinationMint, address_same sourceAccount, address_same destinationAccount,
    address_same authority, Int.ofNat.inj inAmount, Int.ofNat.inj quotedOut, Int.ofNat.inj minOut, numbers slippage, hex,
    numbers count⟩
/-- A plan for one binding lets exactly that binding pass. -/
theorem assertPlanDownstream_toValue (realm : Realm) {plan : ExecutionPlan} {left right : JupiterTradeBinding}
    (leftFormed : WellFormed left) (rightFormed : WellFormed right)
    (planned : plan.downstream = canonicalDownstream (toValue left)) :
    assertPlanDownstream realm plan (toValue right) = .ok () ↔ Agree left right := by
  obtain ⟨leftKey, leftKeyed⟩ := keyOf_returns (toValue_plain leftFormed)
  obtain ⟨rightKey, rightKeyed⟩ := keyOf_returns (toValue_plain rightFormed)
  unfold assertPlanDownstream isDownstreamBinding
  rw [downstreamProblems_wellFormed realm rightFormed, planned, canonicalDownstream_toValue, canonicalDownstream_toValue,
    rightKeyed, leftKeyed, agree_iff leftFormed rightFormed]
  simp only [ok_bind, pure_eq_ok, decide_true, not_true_eq_false, refuse_if_bind, if_false, refuse_if_eq_ok, ne_eq, not_not]
  constructor
  · rintro rfl
    exact toValue_same leftFormed rightFormed (same_of_keyOf leftKeyed rightKeyed)
  · rintro rfl
    exact Except.ok.inj (rightKeyed.symm.trans leftKeyed)

/-- A trade that the client returned. -/
def Built (platform : Platform) (trade : GuardedJupiterTrade) : Prop :=
  ∃ programAddress feePayer protectedMint kind expectation suffix,
    buildGuardedJupiterTrade platform programAddress feePayer protectedMint kind expectation suffix = .ok trade
theorem binding_of_built {platform : Platform} {trade : GuardedJupiterTrade} (built : Built platform trade) :
    trade.route.start.slippageBps ≤ MAX_SLIPPAGE_BPS ∧
      jupiterTradeBindingOf trade =
        .ok (bindingOf trade (minimumOut trade.route.start.quotedOutAmount trade.route.start.slippageBps)) ∧
      WellFormed (bindingOf trade (minimumOut trade.route.start.quotedOutAmount trade.route.start.slippageBps)) := by
  obtain ⟨_, _, _, _, _, _, made⟩ := built
  obtain ⟨commitment, plannable, digest, length⟩ := plannable_of_built made
  exact ⟨plannable.slippageBps, jupiterTradeBindingOf_eq plannable.slippageBps,
    wellFormed_of_plannable plannable digest length⟩
/-- Every trade that was built can be planned, at Jupiter's minimum, and its plan lets pass exactly the trades that agree
    with it. -/
theorem trade_bindings_pin (realm : Realm) :
    (∀ (platform : Platform) (trade : GuardedJupiterTrade), Built platform trade →
      ∃ binding, jupiterTradeBindingOf trade = .ok binding ∧ downstreamProblems realm (toValue binding) = .ok [] ∧
        (binding.minOutRaw : ℤ) = ⌈(binding.quotedOutRaw : ℚ) * (10000 - binding.slippageBps) / 10000⌉ ∧
        binding.minOutRaw ≤ binding.quotedOutRaw) ∧
    ∀ (platform other : Platform) (first second : GuardedJupiterTrade) (left right : JupiterTradeBinding) (plan : ExecutionPlan),
      Built platform first → Built other second → jupiterTradeBindingOf first = .ok left →
      jupiterTradeBindingOf second = .ok right → plan.downstream = canonicalDownstream (toValue left) →
      (assertPlanDownstream realm plan (toValue right) = .ok () ↔ Agree left right) := by
  refine ⟨?_, ?_⟩
  · intro platform trade built
    obtain ⟨inside, bound, wellFormed⟩ := binding_of_built built
    exact ⟨_, bound, downstreamProblems_wellFormed realm wellFormed, minimumOut_ceil _ _ inside, minimumOut_le⟩
  · intro platform other first second left right plan firstBuilt secondBuilt firstBound secondBound planned
    obtain ⟨_, leftBound, leftFormed⟩ := binding_of_built firstBuilt
    obtain ⟨_, rightBound, rightFormed⟩ := binding_of_built secondBuilt
    cases firstBound.symm.trans leftBound
    cases secondBound.symm.trans rightBound
    exact assertPlanDownstream_toValue realm leftFormed rightFormed planned
/-- The sample buy is planned, and its plan lets it pass. -/
theorem trade_bindings_pin_buy : ∃ trade binding plan, Built buyPlatform trade ∧ jupiterTradeBindingOf trade = .ok binding ∧
    downstreamProblems PlanAtomicity.strings (toValue binding) = .ok [] ∧
    plan.downstream = canonicalDownstream (toValue binding) ∧
    assertPlanDownstream PlanAtomicity.strings plan (toValue binding) = .ok () := by
  obtain ⟨trade, made, _⟩ := SwapRefusals.buy_built
  have built : Built buyPlatform trade := ⟨_, _, _, _, _, _, made⟩
  obtain ⟨plannable, pinned⟩ := trade_bindings_pin PlanAtomicity.strings
  obtain ⟨binding, bound, fine, _⟩ := plannable buyPlatform trade built
  have wellFormed : WellFormed binding := by
    obtain ⟨_, known, wellFormed⟩ := binding_of_built built
    rw [Except.ok.inj (bound.symm.trans known)]
    exact wellFormed
  obtain ⟨key, _, disclosure, record, decision, _⟩ := Execution.reroutedTrade id
  obtain ⟨quoteKey, keyed⟩ := Execution.quoteFor_key Execution.onMint
  obtain ⟨plan, planned⟩ := @planOf_returns id ⟨[record], [0]⟩ decision
    (PlanAtomicity.reroutedRequest key disclosure (toValue binding)) quoteKey keyed
    ((canonicalDownstream_toValue binding).symm ▸ toValue_plain wellFormed)
  obtain ⟨_, _, content, _⟩ := planOf_eq_ok planned
  have downstream : plan.downstream = canonicalDownstream (toValue binding) := by
    rw [content]
    rfl
  refine ⟨trade, binding, plan, built, bound, fine, downstream, ?_⟩
  exact (pinned buyPlatform buyPlatform trade trade binding binding plan built built bound bound downstream).mpr
    ((agree_iff wellFormed wellFormed).mpr rfl)

end EquityGuard.TradeBinding
