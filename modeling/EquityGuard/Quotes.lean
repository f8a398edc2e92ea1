import EquityGuard.Failures
import EquityGuard.Representations

/-!
Quote identities: the exact quote that a comparison, a disclosure and a plan are built
from, its canonical key, and the report of what differs between two of them.
-/
namespace EquityGuard.Quotes
open EquityGuard.Binary64 EquityGuard.Canonical EquityGuard.Errors EquityGuard.Failures EquityGuard.JsonText
open EquityGuard.JsValue EquityGuard.Records EquityGuard.Representations

/-! ### Types -/

structure RouteLeg where
  venue : Text
  poolId : Option Text
  inputMint : Option Text
  outputMint : Option Text
  percent : Numeric
deriving DecidableEq
structure RouteIdentity where
  source : Text
  routeId : Text
  legs : List RouteLeg
deriving DecidableEq
structure QuoteIdentity where
  underlying : Text
  inputMint : Text
  mint : Text
  inputRaw : Int
  outputRaw : Int
  minOutputRaw : Option Int
  route : RouteIdentity
  quotedAt : Option Text
  contextSlot : Option Int
  state : EconomicState
deriving DecidableEq

def stateValue (state : EconomicState) : Value := record [
  ("mint", .string state.mint),
  ("decimals", state.decimals.toValue),
  ("multiplierHex", .string state.multiplierHex),
  ("newMultiplierHex", .string state.newMultiplierHex),
  ("effectiveTimestamp", .bigint state.effectiveTimestamp),
  ("phase", state.phase.toValue),
  ("paused", orNull .boolean state.paused)]
def RouteLeg.toValue (leg : RouteLeg) : Value := record [
  ("venue", .string leg.venue),
  ("poolId", orNull .string leg.poolId),
  ("inputMint", orNull .string leg.inputMint),
  ("outputMint", orNull .string leg.outputMint),
  ("percent", leg.percent.toValue)]
def RouteIdentity.toValue (route : RouteIdentity) : Value := record [
  ("source", .string route.source),
  ("routeId", .string route.routeId),
  ("legs", .array (route.legs.map RouteLeg.toValue))]
def QuoteIdentity.toValue (quote : QuoteIdentity) : Value := record [
  ("underlying", .string quote.underlying),
  ("inputMint", .string quote.inputMint),
  ("mint", .string quote.mint),
  ("inputRaw", .bigint quote.inputRaw),
  ("outputRaw", .bigint quote.outputRaw),
  ("minOutputRaw", orNull .bigint quote.minOutputRaw),
  ("route", quote.route.toValue),
  ("quotedAt", orNull .string quote.quotedAt),
  ("contextSlot", orNull .bigint quote.contextSlot),
  ("state", stateValue quote.state)]

/-! ### Checks and keys -/

/-- `/^[0-9a-f]{length}$/`. -/
def isLowerHex (length : Nat) (hex : Text) : Bool :=
  hex.length == length && hex.all (fun unit => decide ((48 ≤ unit ∧ unit ≤ 57) ∨ (97 ≤ unit ∧ unit ≤ 102)))
def isPhase (phase : Numeric) : Bool := Numeric.strictEq phase 0 || Numeric.strictEq phase 1
def isPercent (percent : Numeric) : Bool := percent.isIntegerUpTo (.ofInt 100)
/-- The problems that fields of the declared types can still have. -/
def quoteProblems (quote : QuoteIdentity) : List Message :=
  problemIf (¬ quote.state.decimals.isIntegerUpTo (.ofInt 255)) ["state.decimals must be an integer in [0, 255]"] ++
  problemIf (¬ isLowerHex 16 quote.state.multiplierHex ∨ ¬ isLowerHex 16 quote.state.newMultiplierHex)
    ["state multipliers must be 16 lowercase hex digits"] ++
  problemIf (¬ isPhase quote.state.phase) ["state.phase must be 0 or 1"] ++
  quote.route.legs.flatMap
    (fun leg => problemIf (¬ isPercent leg.percent) ["route leg percent must be an integer in [0, 100]"])
def assertQuoteIdentityTypes (quote : QuoteIdentity) : Attempt Unit :=
  refuse_if (quoteProblems quote ≠ [])
    (.QuoteIdentityError ("malformed quote identity: " :: joined (quoteProblems quote)))
/-- Projects a quote onto its identity fields. -/
def quoteIdentityOf (quote : QuoteIdentity) : Attempt QuoteIdentity := do
  assertQuoteIdentityTypes quote
  return quote
def quoteKey (quote : QuoteIdentity) : Attempt Text := do keyOf (← quoteIdentityOf quote).toValue

/-! ### Differences -/

def EconomicField.name : EconomicField → String
  | .mint => "mint"
  | .decimals => "decimals"
  | .multiplierHex => "multiplierHex"
  | .newMultiplierHex => "newMultiplierHex"
  | .effectiveTimestamp => "effectiveTimestamp"
  | .phase => "phase"
  | .paused => "paused"
/-- A report of two values with different keys. -/
def diff (code : QuoteMismatchCode) (expected actual : Value) : Attempt (List QuoteMismatch) := do
  let expectedKey ← keyOf expected
  let actualKey ← keyOf actual
  return pushIf (expectedKey ≠ actualKey) ⟨code, [expectedKey, " != ", actualKey]⟩
def venuesOf (route : RouteIdentity) : Value :=
  .array (route.legs.map (fun leg => .array [.string leg.venue, orNull .string leg.poolId]))
def stateDiff (expected actual : EconomicState) : List QuoteMismatch :=
  let state := economicStateMismatches expected actual
  pushIf (state ≠ []) ⟨if state.all (· == .phase) then .PHASE_CHANGED else .ECONOMIC_STATE_CHANGED,
    state.map (fun field => .string (text (EconomicField.name field)))⟩
/-- Precise differences between an expected quote and the one presented. -/
def quoteMismatches (expected actual : QuoteIdentity) : Attempt (List QuoteMismatch) := do
  assertQuoteIdentityTypes expected
  assertQuoteIdentityTypes actual
  let underlying ← diff .UNDERLYING_CHANGED (.string expected.underlying) (.string actual.underlying)
  let inputMint ← diff .INPUT_MINT_CHANGED (.string expected.inputMint) (.string actual.inputMint)
  let outputMint ← diff .OUTPUT_MINT_CHANGED (.string expected.mint) (.string actual.mint)
  let inputAmount ← diff .INPUT_AMOUNT_CHANGED (.bigint expected.inputRaw) (.bigint actual.inputRaw)
  let outputAmount ← diff .OUTPUT_AMOUNT_CHANGED (.bigint expected.outputRaw) (.bigint actual.outputRaw)
  let minOutput ← diff .MIN_OUTPUT_CHANGED (orNull .bigint expected.minOutputRaw) (orNull .bigint actual.minOutputRaw)
  let venue ← diff .VENUE_CHANGED (venuesOf expected.route) (venuesOf actual.route)
  let route ← diff .ROUTE_CHANGED expected.route.toValue actual.route.toValue
  let context ← diff .QUOTE_CONTEXT_CHANGED
    (.array [orNull .string expected.quotedAt, orNull .bigint expected.contextSlot])
    (.array [orNull .string actual.quotedAt, orNull .bigint actual.contextSlot])
  return underlying ++ inputMint ++ outputMint ++ inputAmount ++ outputAmount ++ minOutput ++ venue ++ route ++ context ++
    stateDiff expected.state actual.state

/-! ### A key determines the quote -/

theorem stateValue_same {left right : EconomicState} (same : Same (stateValue left) (stateValue right)) : left = right := by
  have fields := record_same ["mint", "decimals", "multiplierHex", "newMultiplierHex", "effectiveTimestamp", "phase", "paused"]
    rfl rfl (by decide) same
  simp only [List.map_cons, List.map_nil, List.forall₂_cons, same_string, same_bigint] at fields
  obtain ⟨mint, decimals, multiplier, newMultiplier, timestamp, phase, paused, _⟩ := fields
  cases left
  cases right
  rw [EconomicState.mk.injEq]
  exact ⟨mint, Numeric.same_toValue decimals, multiplier, newMultiplier, timestamp, Numeric.same_toValue phase,
    same_orNull_boolean paused⟩
theorem RouteLeg.toValue_same (left right : RouteLeg) (same : Same left.toValue right.toValue) : left = right := by
  have fields := record_same ["venue", "poolId", "inputMint", "outputMint", "percent"] rfl rfl (by decide) same
  simp only [List.map_cons, List.map_nil, List.forall₂_cons, same_string] at fields
  obtain ⟨venue, poolId, inputMint, outputMint, percent, _⟩ := fields
  cases left
  cases right
  rw [RouteLeg.mk.injEq]
  exact ⟨venue, same_orNull_string poolId, same_orNull_string inputMint, same_orNull_string outputMint,
    Numeric.same_toValue percent⟩
theorem RouteIdentity.toValue_same {left right : RouteIdentity} (same : Same left.toValue right.toValue) :
    left = right := by
  have fields := record_same ["source", "routeId", "legs"] rfl rfl (by decide) same
  simp only [List.map_cons, List.map_nil, List.forall₂_cons, same_string] at fields
  obtain ⟨source, routeId, legs, _⟩ := fields
  cases left
  cases right
  rw [RouteIdentity.mk.injEq]
  exact ⟨source, routeId, same_array RouteLeg.toValue_same legs⟩
theorem QuoteIdentity.toValue_same {left right : QuoteIdentity} (same : Same left.toValue right.toValue) :
    left = right := by
  have fields := record_same ["underlying", "inputMint", "mint", "inputRaw", "outputRaw", "minOutputRaw", "route", "quotedAt",
    "contextSlot", "state"] rfl rfl (by decide) same
  simp only [List.map_cons, List.map_nil, List.forall₂_cons, same_string, same_bigint] at fields
  obtain ⟨underlying, inputMint, mint, inputRaw, outputRaw, minOutputRaw, route, quotedAt, contextSlot, state, _⟩ := fields
  cases left
  cases right
  rw [QuoteIdentity.mk.injEq]
  exact ⟨underlying, inputMint, mint, inputRaw, outputRaw, same_orNull_bigint minOutputRaw, RouteIdentity.toValue_same route,
    same_orNull_string quotedAt, same_orNull_bigint contextSlot, stateValue_same state⟩

/-! ### Quotes that have a key -/

theorem stateValue_plain_of_keyed {state : EconomicState} (keyed : Keyed (stateValue state)) : Plain (stateValue state) := by
  refine record_plain_of_keyed ["mint", "decimals", "multiplierHex", "newMultiplierHex", "effectiveTimestamp", "phase",
    "paused"] rfl (by decide) ?_ keyed
  simp only [List.map_cons, List.map_nil, List.forall_mem_cons]
  exact ⟨fun _ => .string _, Numeric.plain_of_keyed, fun _ => .string _, fun _ => .string _, fun _ => .bigint _,
    Numeric.plain_of_keyed, fun _ => orNull_plain .boolean _, by simp⟩
theorem RouteLeg.plain_of_keyed {leg : RouteLeg} (keyed : Keyed leg.toValue) : Plain leg.toValue := by
  refine record_plain_of_keyed ["venue", "poolId", "inputMint", "outputMint", "percent"] rfl (by decide) ?_ keyed
  simp only [List.map_cons, List.map_nil, List.forall_mem_cons]
  exact ⟨fun _ => .string _, fun _ => orNull_plain .string _, fun _ => orNull_plain .string _,
    fun _ => orNull_plain .string _, Numeric.plain_of_keyed, by simp⟩
theorem RouteIdentity.plain_of_keyed {route : RouteIdentity} (keyed : Keyed route.toValue) : Plain route.toValue := by
  refine record_plain_of_keyed ["source", "routeId", "legs"] rfl (by decide) ?_ keyed
  simp only [List.map_cons, List.map_nil, List.forall_mem_cons]
  exact ⟨fun _ => .string _, fun _ => .string _, array_plain_of_keyed fun _ _ => RouteLeg.plain_of_keyed, by simp⟩
theorem QuoteIdentity.plain_of_keyed {quote : QuoteIdentity} (keyed : Keyed quote.toValue) : Plain quote.toValue := by
  refine record_plain_of_keyed ["underlying", "inputMint", "mint", "inputRaw", "outputRaw", "minOutputRaw", "route",
    "quotedAt", "contextSlot", "state"] rfl (by decide) ?_ keyed
  simp only [List.map_cons, List.map_nil, List.forall_mem_cons]
  exact ⟨fun _ => .string _, fun _ => .string _, fun _ => .string _, fun _ => .bigint _, fun _ => .bigint _,
    fun _ => orNull_plain .bigint _, RouteIdentity.plain_of_keyed, fun _ => orNull_plain .string _,
    fun _ => orNull_plain .bigint _, stateValue_plain_of_keyed, by simp⟩
theorem quoteProblems_eq_nil {quote : QuoteIdentity} : quoteProblems quote = [] ↔
    quote.state.decimals.isIntegerUpTo (.ofInt 255) = true ∧
      (isLowerHex 16 quote.state.multiplierHex = true ∧ isLowerHex 16 quote.state.newMultiplierHex = true) ∧
      isPhase quote.state.phase = true ∧ ∀ leg ∈ quote.route.legs, isPercent leg.percent = true := by
  simp [quoteProblems, List.flatMap_eq_nil_iff, and_assoc]
theorem assertQuoteIdentityTypes_eq_ok {quote : QuoteIdentity} :
    assertQuoteIdentityTypes quote = .ok () ↔ quoteProblems quote = [] := by
  rw [assertQuoteIdentityTypes, refuse_if_eq_ok, not_not]
theorem quoteIdentityOf_eq_ok {quote identity : QuoteIdentity} :
    quoteIdentityOf quote = .ok identity ↔ quoteProblems quote = [] ∧ identity = quote := by
  rw [quoteIdentityOf, then_eq_ok, assertQuoteIdentityTypes_eq_ok, pure_eq_ok, Except.ok.injEq, @eq_comm _ quote]
theorem quoteKey_eq_ok {quote : QuoteIdentity} {key : Text} :
    quoteKey quote = .ok key ↔ quoteProblems quote = [] ∧ keyOf quote.toValue = .ok key := by
  rw [quoteKey, bind_eq_ok]
  simp only [quoteIdentityOf_eq_ok]
  constructor
  · rintro ⟨_, ⟨valid, rfl⟩, found⟩
    exact ⟨valid, found⟩
  · rintro ⟨valid, found⟩
    exact ⟨quote, ⟨valid, rfl⟩, found⟩
/-- A quote with a key is plain data, and so are its route and its state. -/
theorem plain_of_quoteKey {quote : QuoteIdentity} {key : Text} (keyed : quoteKey quote = .ok key) :
    Plain quote.toValue ∧ Plain quote.route.toValue ∧ Plain (stateValue quote.state) := by
  obtain ⟨_, found⟩ := quoteKey_eq_ok.mp keyed
  have plain := QuoteIdentity.plain_of_keyed (keyed_of_key (keyOf_eq_ok.mp found))
  have route : Plain quote.route.toValue := field_plain plain "route" (by simp)
  have state : Plain (stateValue quote.state) := field_plain plain "state" (by simp)
  exact ⟨plain, route, state⟩
/-- One key, one quote. -/
theorem quoteKey_injective {left right : QuoteIdentity} {key : Text} (leftKey : quoteKey left = .ok key)
    (rightKey : quoteKey right = .ok key) : left = right :=
  QuoteIdentity.toValue_same (same_of_keyOf (quoteKey_eq_ok.mp leftKey).2 (quoteKey_eq_ok.mp rightKey).2)

/-! ### Projections that are compared -/

def venueOf (leg : RouteLeg) : Text × Option Text := (leg.venue, leg.poolId)
def venuesValue (venues : List (Text × Option Text)) : Value :=
  .array (venues.map (fun venue => .array [.string venue.1, orNull .string venue.2]))
theorem venuesOf_eq (route : RouteIdentity) : venuesOf route = venuesValue (route.legs.map venueOf) := by
  rw [venuesOf, venuesValue, List.map_map]
  rfl
theorem venuesValue_same (left right : List (Text × Option Text)) (same : Same (venuesValue left) (venuesValue right)) :
    left = right := by
  refine same_array ?_ same
  intro left right same
  cases same with
  | array pair =>
    rw [List.forall₂_cons, List.forall₂_cons] at pair
    exact Prod.ext (same_string.mp pair.1) (same_orNull_string pair.2.1)
theorem venuesValue_plain (venues : List (Text × Option Text)) : Plain (venuesValue venues) := by
  refine .array ?_
  intro value member
  obtain ⟨venue, _, rfl⟩ := List.mem_map.mp member
  refine .array ?_
  simp only [List.forall_mem_cons]
  exact ⟨.string _, orNull_plain .string _, by simp⟩
def contextValue (context : Option Text × Option Int) : Value :=
  .array [orNull .string context.1, orNull .bigint context.2]
theorem contextValue_same (left right : Option Text × Option Int) (same : Same (contextValue left) (contextValue right)) :
    left = right := by
  cases same with
  | array pair =>
    rw [List.forall₂_cons, List.forall₂_cons] at pair
    exact Prod.ext (same_orNull_string pair.1) (same_orNull_bigint pair.2.1)
theorem contextValue_plain (context : Option Text × Option Int) : Plain (contextValue context) := by
  refine .array ?_
  simp only [List.forall_mem_cons]
  exact ⟨orNull_plain .string _, orNull_plain .bigint _, by simp⟩

/-! ### An empty report -/

/-- Equal in every field a report covers: numbers of the state by value, all else exactly. -/
structure QuoteIdentity.Matches (expected actual : QuoteIdentity) : Prop where
  underlying : expected.underlying = actual.underlying
  inputMint : expected.inputMint = actual.inputMint
  mint : expected.mint = actual.mint
  inputRaw : expected.inputRaw = actual.inputRaw
  outputRaw : expected.outputRaw = actual.outputRaw
  minOutputRaw : expected.minOutputRaw = actual.minOutputRaw
  route : expected.route = actual.route
  quotedAt : expected.quotedAt = actual.quotedAt
  contextSlot : expected.contextSlot = actual.contextSlot
  state : expected.state.Agrees actual.state

theorem diff_eq_nil {code : QuoteMismatchCode} {expected actual : Value} (equal : diff code expected actual = .ok []) :
    Same expected actual := by
  obtain ⟨expectedKey, expectedFound, equal⟩ := bind_eq_ok.mp equal
  obtain ⟨actualKey, actualFound, equal⟩ := bind_eq_ok.mp equal
  have keys : expectedKey = actualKey := by simpa [pure_eq_ok] using equal
  exact same_of_keyOf expectedFound (keys ▸ actualFound)
theorem stateDiff_eq_nil {expected actual : EconomicState} : stateDiff expected actual = [] ↔ expected.Agrees actual := by
  rw [stateDiff, pushIf_eq_nil, not_not, economicStateMismatches_eq_nil]
theorem matches_of_quoteMismatches {expected actual : QuoteIdentity} (equal : quoteMismatches expected actual = .ok []) :
    expected.Matches actual := by
  unfold quoteMismatches at equal
  obtain ⟨_, equal⟩ := then_eq_ok.mp equal
  obtain ⟨_, equal⟩ := then_eq_ok.mp equal
  obtain ⟨_, underlying, equal⟩ := bind_eq_ok.mp equal
  obtain ⟨_, inputMint, equal⟩ := bind_eq_ok.mp equal
  obtain ⟨_, outputMint, equal⟩ := bind_eq_ok.mp equal
  obtain ⟨_, inputAmount, equal⟩ := bind_eq_ok.mp equal
  obtain ⟨_, outputAmount, equal⟩ := bind_eq_ok.mp equal
  obtain ⟨_, minOutput, equal⟩ := bind_eq_ok.mp equal
  obtain ⟨_, venue, equal⟩ := bind_eq_ok.mp equal
  obtain ⟨_, route, equal⟩ := bind_eq_ok.mp equal
  obtain ⟨_, context, equal⟩ := bind_eq_ok.mp equal
  simp only [pure_eq_ok, Except.ok.injEq, List.append_eq_nil_iff, and_assoc] at equal
  obtain ⟨rfl, rfl, rfl, rfl, rfl, rfl, rfl, rfl, rfl, state⟩ := equal
  have context := contextValue_same (expected.quotedAt, expected.contextSlot) (actual.quotedAt, actual.contextSlot)
    (diff_eq_nil context)
  exact {
    underlying := same_string.mp (diff_eq_nil underlying)
    inputMint := same_string.mp (diff_eq_nil inputMint)
    mint := same_string.mp (diff_eq_nil outputMint)
    inputRaw := same_bigint.mp (diff_eq_nil inputAmount)
    outputRaw := same_bigint.mp (diff_eq_nil outputAmount)
    minOutputRaw := same_orNull_bigint (diff_eq_nil minOutput)
    route := RouteIdentity.toValue_same (diff_eq_nil route)
    quotedAt := congrArg Prod.fst context
    contextSlot := congrArg Prod.snd context
    state := stateDiff_eq_nil.mp state }

/-! ### A quote with a key matches itself -/

theorem diff_self (code : QuoteMismatchCode) {value : Value} (plain : Plain value) : diff code value value = .ok [] := by
  obtain ⟨key, found⟩ := keyOf_returns plain
  rw [diff, found]
  simp [pushIf, pure_eq_ok]
theorem venuesOf_plain (route : RouteIdentity) : Plain (venuesOf route) := by
  rw [venuesOf_eq]
  exact venuesValue_plain _
theorem Numeric.strictEq_self {numeric : Numeric} (number : numeric.value ≠ .nan) : Numeric.strictEq numeric numeric = true :=
  (Number.strictEq_iff _ _).mpr ⟨rfl, number⟩
/-- What matches a valid quote is valid: the checks see the numbers of a state by value. -/
theorem QuoteIdentity.Matches.valid {expected actual : QuoteIdentity} (same : expected.Matches actual) :
    quoteProblems expected = [] ↔ quoteProblems actual = [] := by
  obtain ⟨decimals, _⟩ := (Number.strictEq_iff _ _).mp same.state.decimals
  obtain ⟨phase, _⟩ := (Number.strictEq_iff _ _).mp same.state.phase
  rw [quoteProblems_eq_nil, quoteProblems_eq_nil, same.route, same.state.multiplierHex, same.state.newMultiplierHex]
  simp only [Numeric.isIntegerUpTo, isPhase, Numeric.strictEq, decimals, phase]
theorem quoteMismatches_of_matches {expected actual : QuoteIdentity} (same : expected.Matches actual)
    (valid : quoteProblems expected = []) (route : Plain expected.route.toValue) :
    quoteMismatches expected actual = .ok [] := by
  have context : Plain (.array [orNull .string expected.quotedAt, orNull .bigint expected.contextSlot]) :=
    contextValue_plain (expected.quotedAt, expected.contextSlot)
  unfold quoteMismatches
  rw [assertQuoteIdentityTypes_eq_ok.mpr valid, ok_bind, assertQuoteIdentityTypes_eq_ok.mpr (same.valid.mp valid), ok_bind,
    ← same.underlying, ← same.inputMint, ← same.mint, ← same.inputRaw, ← same.outputRaw, ← same.minOutputRaw, ← same.route,
    ← same.quotedAt, ← same.contextSlot, diff_self _ (.string _), ok_bind, diff_self _ (.string _),
    ok_bind, diff_self _ (.string _), ok_bind, diff_self _ (.bigint _), ok_bind, diff_self _ (.bigint _), ok_bind,
    diff_self _ (orNull_plain .bigint _), ok_bind, diff_self _ (venuesOf_plain _), ok_bind, diff_self _ route, ok_bind,
    diff_self _ context, ok_bind, stateDiff_eq_nil.mpr same.state]
  rfl
/-- Against a quote that has a key, on either side, an empty report says that the two match. -/
theorem quoteMismatches_eq_nil {expected actual : QuoteIdentity} {key : Text}
    (keyed : quoteKey expected = .ok key ∨ quoteKey actual = .ok key) :
    quoteMismatches expected actual = .ok [] ↔ expected.Matches actual := by
  refine ⟨matches_of_quoteMismatches, ?_⟩
  intro same
  rcases keyed with keyed | keyed
  · exact quoteMismatches_of_matches same (quoteKey_eq_ok.mp keyed).1 (plain_of_quoteKey keyed).2.1
  · refine quoteMismatches_of_matches same (same.valid.mpr (quoteKey_eq_ok.mp keyed).1) ?_
    rw [same.route]
    exact (plain_of_quoteKey keyed).2.1
theorem QuoteIdentity.matches_self {quote : QuoteIdentity} (valid : quoteProblems quote = []) : quote.Matches quote := by
  obtain ⟨decimals, _, phase, _⟩ := quoteProblems_eq_nil.mp valid
  have decimals : quote.state.decimals.value ≠ .nan := by
    intro nan
    simp [Numeric.isIntegerUpTo, nan, Number.isInteger] at decimals
  have phase : quote.state.phase.value ≠ .nan := by
    intro nan
    simp [isPhase, Numeric.strictEq, nan] at phase
  exact ⟨rfl, rfl, rfl, rfl, rfl, rfl, rfl, rfl, rfl,
    ⟨rfl, Numeric.strictEq_self decimals, rfl, rfl, rfl, Numeric.strictEq_self phase, rfl⟩⟩
theorem quoteMismatches_self {quote : QuoteIdentity} {key : Text} (keyed : quoteKey quote = .ok key) :
    quoteMismatches quote quote = .ok [] :=
  (quoteMismatches_eq_nil (.inl keyed)).mpr (QuoteIdentity.matches_self (quoteKey_eq_ok.mp keyed).1)

/-! ### What a report says -/

/-- The states differ in their phase and in nothing else. -/
def OnlyPhase (expected actual : EconomicState) : Prop :=
  expected.phase ≠ actual.phase ∧ expected = { actual with phase := expected.phase }
/-- The group of identity fields that a code stands for differs. -/
def QuoteIdentity.Differs (expected actual : QuoteIdentity) : QuoteMismatchCode → Prop
  | .UNDERLYING_CHANGED => expected.underlying ≠ actual.underlying
  | .INPUT_MINT_CHANGED => expected.inputMint ≠ actual.inputMint
  | .OUTPUT_MINT_CHANGED => expected.mint ≠ actual.mint
  | .INPUT_AMOUNT_CHANGED => expected.inputRaw ≠ actual.inputRaw
  | .OUTPUT_AMOUNT_CHANGED => expected.outputRaw ≠ actual.outputRaw
  | .MIN_OUTPUT_CHANGED => expected.minOutputRaw ≠ actual.minOutputRaw
  | .VENUE_CHANGED => expected.route.legs.map venueOf ≠ actual.route.legs.map venueOf
  | .ROUTE_CHANGED => expected.route ≠ actual.route
  | .QUOTE_CONTEXT_CHANGED => (expected.quotedAt, expected.contextSlot) ≠ (actual.quotedAt, actual.contextSlot)
  | .ECONOMIC_STATE_CHANGED => expected.state ≠ actual.state ∧ ¬ OnlyPhase expected.state actual.state
  | .PHASE_CHANGED => OnlyPhase expected.state actual.state

theorem diff_codes {α : Type} {convert : α → Value} (code : QuoteMismatchCode)
    (injective : ∀ left right, Same (convert left) (convert right) → left = right) {left right : α}
    (leftPlain : Plain (convert left)) (rightPlain : Plain (convert right)) :
    ∃ report, diff code (convert left) (convert right) = .ok report ∧
      ∀ other, other ∈ report.map QuoteMismatch.code ↔ other = code ∧ left ≠ right := by
  obtain ⟨leftKey, leftFound⟩ := keyOf_returns leftPlain
  obtain ⟨rightKey, rightFound⟩ := keyOf_returns rightPlain
  refine ⟨pushIf (leftKey ≠ rightKey) ⟨code, [leftKey, " != ", rightKey]⟩, ?_, ?_⟩
  · rw [diff, leftFound, rightFound]
    rfl
  · have keys : leftKey = rightKey ↔ left = right := by
      constructor
      · rintro rfl
        exact injective _ _ (same_of_keyOf leftFound rightFound)
      · rintro rfl
        exact Except.ok.inj (leftFound.symm.trans rightFound)
    intro other
    by_cases same : left = right
    · simp [pushIf, keys.mpr same, same]
    · simp [pushIf, mt keys.mp same, same]
theorem Numeric.strictEq_plain {left right : Numeric} (leftPlain : Plain left.toValue) (rightPlain : Plain right.toValue) :
    Numeric.strictEq left right = true ↔ left = right := by
  cases left with
  | negativeZero => cases leftPlain
  | number left =>
    cases right with
    | negativeZero => cases rightPlain
    | number right =>
      rw [Numeric.strictEq, Number.strictEq_iff, Numeric.number.injEq]
      refine ⟨And.left, fun same => ⟨same, ?_⟩⟩
      rintro ⟨⟩
      cases leftPlain with
      | integer safe => cases safe
theorem stateValue_decimals {expected actual : EconomicState} (expectedPlain : Plain (stateValue expected))
    (actualPlain : Plain (stateValue actual)) :
    Numeric.strictEq expected.decimals actual.decimals = true ↔ expected.decimals = actual.decimals :=
  @Numeric.strictEq_plain expected.decimals actual.decimals (field_plain expectedPlain "decimals" (by simp))
    (field_plain actualPlain "decimals" (by simp))
theorem stateValue_phase {expected actual : EconomicState} (expectedPlain : Plain (stateValue expected))
    (actualPlain : Plain (stateValue actual)) :
    Numeric.strictEq expected.phase actual.phase = true ↔ expected.phase = actual.phase :=
  @Numeric.strictEq_plain expected.phase actual.phase (field_plain expectedPlain "phase" (by simp))
    (field_plain actualPlain "phase" (by simp))
theorem agrees_iff_eq {expected actual : EconomicState} (expectedPlain : Plain (stateValue expected))
    (actualPlain : Plain (stateValue actual)) : expected.Agrees actual ↔ expected = actual := by
  rw [EconomicState.agrees_iff, stateValue_decimals expectedPlain actualPlain, stateValue_phase expectedPlain actualPlain]
  cases expected
  cases actual
  rw [EconomicState.mk.injEq]
/-- The string-prefix test of the source: every difference that is reported is one of the phase. -/
theorem all_phase_iff {expected actual : EconomicState} (expectedPlain : Plain (stateValue expected))
    (actualPlain : Plain (stateValue actual)) : (economicStateMismatches expected actual).all (· == .phase) = true ↔
      expected = { actual with phase := expected.phase } := by
  have decimals := stateValue_decimals expectedPlain actualPlain
  rw [economicStateMismatches, List.all_eq_true]
  simp only [List.mem_filter, and_imp, beq_iff_eq]
  cases expected
  cases actual
  simp only [EconomicState.mk.injEq] at decimals ⊢
  simp [EconomicState.differs, decimals]
theorem onlyPhase_iff {expected actual : EconomicState} (expectedPlain : Plain (stateValue expected))
    (actualPlain : Plain (stateValue actual)) :
    OnlyPhase expected actual ↔ expected ≠ actual ∧ (economicStateMismatches expected actual).all (· == .phase) = true := by
  rw [all_phase_iff expectedPlain actualPlain, OnlyPhase]
  constructor
  · rintro ⟨phase, same⟩
    exact ⟨fun equal => phase (congrArg EconomicState.phase equal), same⟩
  · rintro ⟨differs, same⟩
    refine ⟨fun phase => differs ?_, same⟩
    rw [same, phase]
theorem stateDiff_codes {expected actual : EconomicState} (expectedPlain : Plain (stateValue expected))
    (actualPlain : Plain (stateValue actual)) (code : QuoteMismatchCode) :
    code ∈ (stateDiff expected actual).map QuoteMismatch.code ↔ (code = .PHASE_CHANGED ∧ OnlyPhase expected actual) ∨
      (code = .ECONOMIC_STATE_CHANGED ∧ expected ≠ actual ∧ ¬ OnlyPhase expected actual) := by
  have nothing : economicStateMismatches expected actual = [] ↔ expected = actual :=
    economicStateMismatches_eq_nil.trans (agrees_iff_eq expectedPlain actualPlain)
  rw [onlyPhase_iff expectedPlain actualPlain]
  unfold stateDiff pushIf
  by_cases same : expected = actual
  · rw [if_neg (not_not.mpr (nothing.mpr same))]
    simp [same]
  · rw [if_pos (mt nothing.mp same)]
    by_cases phase : (economicStateMismatches expected actual).all (· == .phase) = true
    · simp [phase, same]
    · simp [phase, same]

/-- A report lists exactly the groups that differ. -/
theorem quoteMismatches_codes {expected actual : QuoteIdentity} {expectedKey actualKey : Text}
    (expectedKeyed : quoteKey expected = .ok expectedKey) (actualKeyed : quoteKey actual = .ok actualKey) :
    ∃ report, quoteMismatches expected actual = .ok report ∧
      ∀ code, code ∈ report.map QuoteMismatch.code ↔ expected.Differs actual code := by
  obtain ⟨_, expectedRoute, expectedState⟩ := plain_of_quoteKey expectedKeyed
  obtain ⟨_, actualRoute, actualState⟩ := plain_of_quoteKey actualKeyed
  have texts : ∀ left right : Text, Same (.string left) (.string right) → left = right := fun _ _ => same_string.mp
  have amounts : ∀ left right : Int, Same (.bigint left) (.bigint right) → left = right := fun _ _ => same_bigint.mp
  obtain ⟨underlying, underlyingEq, underlyingCodes⟩ :=
    diff_codes .UNDERLYING_CHANGED texts (.string expected.underlying) (.string actual.underlying)
  obtain ⟨inputMint, inputMintEq, inputMintCodes⟩ :=
    diff_codes .INPUT_MINT_CHANGED texts (.string expected.inputMint) (.string actual.inputMint)
  obtain ⟨outputMint, outputMintEq, outputMintCodes⟩ :=
    diff_codes .OUTPUT_MINT_CHANGED texts (.string expected.mint) (.string actual.mint)
  obtain ⟨inputAmount, inputAmountEq, inputAmountCodes⟩ :=
    diff_codes .INPUT_AMOUNT_CHANGED amounts (.bigint expected.inputRaw) (.bigint actual.inputRaw)
  obtain ⟨outputAmount, outputAmountEq, outputAmountCodes⟩ :=
    diff_codes .OUTPUT_AMOUNT_CHANGED amounts (.bigint expected.outputRaw) (.bigint actual.outputRaw)
  obtain ⟨minOutput, minOutputEq, minOutputCodes⟩ := @diff_codes _ (orNull .bigint) .MIN_OUTPUT_CHANGED
    (fun _ _ => same_orNull_bigint) expected.minOutputRaw actual.minOutputRaw (orNull_plain .bigint _) (orNull_plain .bigint _)
  obtain ⟨venue, venueEq, venueCodes⟩ := @diff_codes _ venuesValue .VENUE_CHANGED venuesValue_same
    (expected.route.legs.map venueOf) (actual.route.legs.map venueOf) (venuesValue_plain _) (venuesValue_plain _)
  obtain ⟨route, routeEq, routeCodes⟩ :=
    diff_codes .ROUTE_CHANGED (fun _ _ => RouteIdentity.toValue_same) expectedRoute actualRoute
  obtain ⟨context, contextEq, contextCodes⟩ := @diff_codes _ contextValue .QUOTE_CONTEXT_CHANGED contextValue_same
    (expected.quotedAt, expected.contextSlot) (actual.quotedAt, actual.contextSlot) (contextValue_plain _) (contextValue_plain _)
  refine ⟨underlying ++ inputMint ++ outputMint ++ inputAmount ++ outputAmount ++ minOutput ++ venue ++ route ++ context ++
    stateDiff expected.state actual.state, ?_, ?_⟩
  · unfold quoteMismatches
    rw [assertQuoteIdentityTypes_eq_ok.mpr (quoteKey_eq_ok.mp expectedKeyed).1, ok_bind,
      assertQuoteIdentityTypes_eq_ok.mpr (quoteKey_eq_ok.mp actualKeyed).1, ok_bind, underlyingEq, ok_bind, inputMintEq,
      ok_bind, outputMintEq, ok_bind, inputAmountEq, ok_bind, outputAmountEq, ok_bind, minOutputEq, ok_bind, venuesOf_eq,
      venuesOf_eq, venueEq, ok_bind, routeEq, ok_bind]
    have contexts := contextEq
    simp only [contextValue] at contexts
    rw [contexts]
    rfl
  · intro code
    simp only [List.map_append, List.mem_append, underlyingCodes, inputMintCodes, outputMintCodes, inputAmountCodes,
      outputAmountCodes, minOutputCodes, venueCodes, routeCodes, contextCodes, stateDiff_codes expectedState actualState]
    cases code <;> simp [QuoteIdentity.Differs]
/-- Quotes that have keys match exactly if they are equal: no zero of them has a sign. -/
theorem matches_iff_eq {expected actual : QuoteIdentity} {expectedKey actualKey : Text}
    (expectedKeyed : quoteKey expected = .ok expectedKey) (actualKeyed : quoteKey actual = .ok actualKey) :
    expected.Matches actual ↔ expected = actual := by
  constructor
  · rintro ⟨underlying, inputMint, mint, inputRaw, outputRaw, minOutputRaw, route, quotedAt, contextSlot, state⟩
    rw [agrees_iff_eq (plain_of_quoteKey expectedKeyed).2.2 (plain_of_quoteKey actualKeyed).2.2] at state
    cases expected
    cases actual
    rw [QuoteIdentity.mk.injEq]
    exact ⟨underlying, inputMint, mint, inputRaw, outputRaw, minOutputRaw, route, quotedAt, contextSlot, state⟩
  · rintro rfl
    exact QuoteIdentity.matches_self (quoteKey_eq_ok.mp expectedKeyed).1
/-- The report and the key are of one identity: nothing is reported exactly if the keys are the same, and what is
    reported is exactly what differs. -/
theorem quoteMismatches_refines_key {expected actual : QuoteIdentity} {expectedKey actualKey : Text}
    (expectedKeyed : quoteKey expected = .ok expectedKey) (actualKeyed : quoteKey actual = .ok actualKey) :
    ∃ report, quoteMismatches expected actual = .ok report ∧ (report = [] ↔ expectedKey = actualKey) ∧
      (∀ code, code ∈ report.map QuoteMismatch.code ↔ expected.Differs actual code) ∧
      (.VENUE_CHANGED ∈ report.map QuoteMismatch.code → .ROUTE_CHANGED ∈ report.map QuoteMismatch.code) := by
  obtain ⟨report, reported, codes⟩ := quoteMismatches_codes expectedKeyed actualKeyed
  refine ⟨report, reported, ?_, codes, ?_⟩
  · have empty := @quoteMismatches_eq_nil expected actual expectedKey (.inl expectedKeyed)
    rw [reported, Except.ok.injEq, matches_iff_eq expectedKeyed actualKeyed] at empty
    rw [empty]
    constructor
    · rintro rfl
      exact Except.ok.inj (expectedKeyed.symm.trans actualKeyed)
    · rintro rfl
      exact quoteKey_injective expectedKeyed actualKeyed
  · rw [codes, codes]
    exact mt (congrArg (fun route : RouteIdentity => route.legs.map venueOf))

/-- A quote with one leg, at a phase. -/
def quoteAt (phase : Nat) : QuoteIdentity where
  underlying := "AAPL"
  inputMint := "USDC"
  mint := "AAPLx"
  inputRaw := 100
  outputRaw := 50
  minOutputRaw := some 49
  route := ⟨"jupiter", "one", [⟨"venue", some "pool", none, none, 100⟩]⟩
  quotedAt := none
  contextSlot := some 7
  state := ⟨"AAPLx", 8, "000000000000f03f", "000000000000f03f", 0, .number (.ofInt phase), some false⟩
theorem quoteAt_key {phase : Nat} (known : phase = 0 ∨ phase = 1) : ∃ key, quoteKey (quoteAt phase) = .ok key := by
  have small {value : Nat} (range : Numeric.isIntegerUpTo (.ofInt 255) (.number (.ofInt value)) = true) :
      Plain (Numeric.toValue (.number (.ofInt value))) := Numeric.toValue_plain (by simp) range (by decide)
  have state : Plain (stateValue (quoteAt phase).state) := by
    refine record_plain ["mint", "decimals", "multiplierHex", "newMultiplierHex", "effectiveTimestamp", "phase", "paused"] rfl
      (by decide) ?_
    simp only [List.map_cons, List.map_nil, List.forall_mem_cons]
    refine ⟨.string _, small (by decide), .string _, .string _, .bigint _, small ?_, .boolean _, by simp⟩
    rcases known with rfl | rfl <;> decide
  have route : Plain (quoteAt phase).route.toValue := by
    have leg : Plain (RouteLeg.toValue ⟨"venue", some "pool", none, none, 100⟩) := by
      refine record_plain ["venue", "poolId", "inputMint", "outputMint", "percent"] rfl (by decide) ?_
      simp only [List.map_cons, List.map_nil, List.forall_mem_cons]
      exact ⟨.string _, .string _, .null, .null, small (by decide), by simp⟩
    refine record_plain ["source", "routeId", "legs"] rfl (by decide) ?_
    simp only [List.map_cons, List.map_nil, List.forall_mem_cons]
    refine ⟨.string _, .string _, .array ?_, by simp⟩
    simpa [quoteAt] using leg
  have quote : Plain (quoteAt phase).toValue := by
    refine record_plain ["underlying", "inputMint", "mint", "inputRaw", "outputRaw", "minOutputRaw", "route", "quotedAt",
      "contextSlot", "state"] rfl (by decide) ?_
    simp only [List.map_cons, List.map_nil, List.forall_mem_cons]
    exact ⟨.string _, .string _, .string _, .bigint _, .bigint _, .bigint _, route, .null, .bigint _, state, by simp⟩
  have valid : quoteProblems (quoteAt phase) = [] := by
    rw [quoteProblems_eq_nil]
    rcases known with rfl | rfl <;> decide
  obtain ⟨key, keyed⟩ := keyOf_returns quote
  exact ⟨key, quoteKey_eq_ok.mpr ⟨valid, keyed⟩⟩
theorem quoteMismatches_refines_key_phase : ∃ expectedKey actualKey report,
    quoteKey (quoteAt 0) = .ok expectedKey ∧ quoteKey (quoteAt 1) = .ok actualKey ∧
    quoteMismatches (quoteAt 0) (quoteAt 1) = .ok report ∧ (report = [] ↔ expectedKey = actualKey) ∧
    (∀ code, code ∈ report.map QuoteMismatch.code ↔ (quoteAt 0).Differs (quoteAt 1) code) ∧
    (.VENUE_CHANGED ∈ report.map QuoteMismatch.code → .ROUTE_CHANGED ∈ report.map QuoteMismatch.code) := by
  obtain ⟨expectedKey, expectedKeyed⟩ := quoteAt_key (.inl rfl)
  obtain ⟨actualKey, actualKeyed⟩ := quoteAt_key (.inr rfl)
  obtain ⟨report, refines⟩ := quoteMismatches_refines_key expectedKeyed actualKeyed
  exact ⟨expectedKey, actualKey, report, expectedKeyed, actualKeyed, refines⟩

end EquityGuard.Quotes
