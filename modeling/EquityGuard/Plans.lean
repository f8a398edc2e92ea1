import EquityGuard.ClientTrade
import EquityGuard.Execution

/-!
Execution plans: issued from executable decisions alone, known by identity, and
consumed at most once.
-/
namespace EquityGuard.Plans
open EquityGuard.Addresses EquityGuard.Binary64 EquityGuard.Canonical EquityGuard.ClientJupiter EquityGuard.Compare
open EquityGuard.Consent EquityGuard.Decisions EquityGuard.Errors EquityGuard.Execution EquityGuard.Failures
open EquityGuard.JsonText EquityGuard.JsValue EquityGuard.Quotes EquityGuard.Records EquityGuard.Representations

/-! ### Values of any shape -/

/-- What the language does with values beyond what they show: conversions that may run code of the value
    and throw, the identity of objects, and the members that every object inherits. -/
structure Realm where
  /-- A value in a template literal. -/
  toText : Value → Attempt Text
  /-- The property that a value other than a string names, if it is not named by a symbol. -/
  propertyKey : Value → Attempt (Option Text)
  identical : Value → Value → Bool
  /-- Whether a value is the inherited member of this name. -/
  isMember : Text → Value → Bool

def PROTOTYPE_MEMBERS : List String := ["constructor", "__defineGetter__", "__defineSetter__", "hasOwnProperty",
  "__lookupGetter__", "__lookupSetter__", "isPrototypeOf", "propertyIsEnumerable", "toString", "valueOf", "__proto__",
  "toLocaleString"]

def numericOf : Value → Option Numeric
  | .number value => some (.number value)
  | .negativeZero => some .negativeZero
  | _ => none
/-- Values that are compared by identity. -/
def isReference : Value → Bool
  | .symbol | .array _ | .object _ | .classInstance _ | .function _ => true
  | _ => false
/-- `===`. -/
def strictEquals (realm : Realm) : Value → Value → Bool
  | .undefined, .undefined | .null, .null => true
  | .boolean left, .boolean right => left = right
  | .bigint left, .bigint right => left = right
  | .string left, .string right => left = right
  | left, right =>
    match numericOf left, numericOf right with
    | some left, some right => Numeric.strictEq left right
    | none, none => isReference left && isReference right && realm.identical left right
    | _, _ => false
def isString (value : Value) (expected : Text) : Bool :=
  match value with
  | .string actual => actual = expected
  | _ => false
def isBigint (value : Value) (expected : Option Int) : Bool :=
  match value, expected with
  | .bigint actual, some expected => actual = expected
  | .null, none => true
  | _, _ => false
def isCommitmentHex : Value → Bool
  | .string hex => isLowerHex 64 hex
  | _ => false
/-- Base58 is written in ASCII: a text with any other code unit is no address. -/
def isAddressString : Value → Bool
  | .string address => address.all (· < 128) && isAddress (String.ofList (address.map (fun unit => Char.ofNat unit.toNat)))
  | _ => false
def isPositive : Value → Bool
  | .bigint value => 0 < value && value < 2 ^ 64
  | _ => false

/-! ### Downstream bindings -/

def TRANSFER_CHECKED : Text := "TOKEN_2022_TRANSFER_CHECKED"
def BUY : Text := "JUPITER_ROUTE_V2_BUY_USDC"
def SELL : Text := "JUPITER_ROUTE_V2_SELL_USDC"
/-- `JUPITER_KINDS[kind]`: a role, or what an object literal inherits under that name. -/
inductive Role where
  | DESTINATION
  | SOURCE
  | inherited (name : Text)
deriving DecidableEq
def Role.text : Role → Text
  | DESTINATION => "DESTINATION"
  | SOURCE => "SOURCE"
  | inherited name => name
def jupiterKind (realm : Realm) (kind : Value) : Attempt (Option Role) := do
  let key ← match kind with
    | .string name => pure (some name)
    | other => realm.propertyKey other
  match key with
  | none => return none
  | some name =>
    return if name = BUY then some .DESTINATION else if name = SELL then some .SOURCE
      else if name ∈ PROTOTYPE_MEMBERS.map JsonText.text then some (.inherited name) else none
def isRole (realm : Realm) (value : Value) : Role → Bool
  | .inherited name => realm.isMember name value
  | role => isString value role.text
def addressFields : List String := ["protectedMint", "counterMint", "authority", "sourceMint", "destinationMint",
  "sourceTokenAccount", "destinationTokenAccount"]
/-- `b.minOutRaw` is the minimum of a quoted output and a slippage. -/
def isMinimumOut (value : Value) (quotedOut : Int) (slippage : Numeric) : Bool :=
  match ClientTrade.minimumOutFromQuote quotedOut.toNat (Normalize.bigIntOf slippage).toNat with
  | .ok minimum => isBigint value (some minimum)
  | .error _ => false
def slippageProblems (b : Value) : List Message :=
  match numericOf (b.get "slippageBps") with
  | none => [["slippageBps must be an integer in [0, 10000]"]]
  | some slippage =>
    if slippage.isIntegerUpTo (.ofInt 10000) then
      match b.get "quotedOutRaw" with
      | .bigint quotedOut =>
        problemIf (isPositive (.bigint quotedOut) = true ∧ isMinimumOut (b.get "minOutRaw") quotedOut slippage = false)
          ["minOutRaw is not the minimum Jupiter derives from quotedOutRaw and slippageBps"]
      | _ => []
    else [["slippageBps must be an integer in [0, 10000]"]]
def jupiterProblems (realm : Realm) (role : Role) (b : Value) : List Message :=
  let sides := if role = .DESTINATION then (b.get "destinationMint", b.get "sourceMint")
    else (b.get "sourceMint", b.get "destinationMint")
  let count := numericOf (b.get "suffixInstructionCount")
  problemIf (¬ isString (b.get "jupiterProgramId") (text JUPITER_V6_PROGRAM_ADDRESS.text))
    ["jupiterProgramId is not the pinned Jupiter program"] ++
  problemIf (¬ isString (b.get "routeDiscriminatorHex") (text ROUTE_V2_DISCRIMINATOR_HEX))
    ["routeDiscriminatorHex is not route_v2"] ++
  problemIf (¬ isRole realm (b.get "protectedMintRole") role) [b.get "adapterKind", " protects the ", role.text, " mint"] ++
  addressFields.flatMap (fun field => problemIf (¬ isAddressString (b.get field)) [field, " must be an address"]) ++
  problemIf (¬ isString (b.get "counterMint") (text USDC_MINT_ADDRESS.text)) ["the counter mint must be canonical USDC"] ++
  problemIf (¬ strictEquals realm sides.1 (b.get "protectedMint") ∨ ¬ strictEquals realm sides.2 (b.get "counterMint"))
    ["source and destination mints do not match the role"] ++
  problemIf (¬ isPositive (b.get "inAmountRaw") ∨ ¬ isPositive (b.get "quotedOutRaw"))
    ["inAmountRaw and quotedOutRaw must be positive u64 bigints"] ++
  slippageProblems b ++
  problemIf (¬ isCommitmentHex (b.get "suffixCommitmentHex")) ["suffixCommitmentHex must be 64 lowercase hex digits"] ++
  problemIf (¬ (count.any (Numeric.strictEq 3) || count.any (Numeric.strictEq 4))) ["suffixInstructionCount must be 3 or 4"]
/-- Why a value is not a well-formed binding. -/
def downstreamProblems (realm : Realm) (value : Value) : Attempt (List Message) := do
  if ¬ value.isObject then return [["a downstream binding is required"]]
  else if isString (value.get "adapterKind") TRANSFER_CHECKED then
    return problemIf (¬ isCommitmentHex (value.get "commitmentHex")) ["commitmentHex must be 64 lowercase hex digits"]
  else
    match ← jupiterKind realm (value.get "adapterKind") with
    | none => return [["unknown adapter kind ", value.get "adapterKind"]]
    | some role => return jupiterProblems realm role value
def bindingFields : List String := ["adapterKind", "jupiterProgramId", "routeDiscriminatorHex", "protectedMintRole",
  "protectedMint", "counterMint", "authority", "sourceMint", "destinationMint", "sourceTokenAccount",
  "destinationTokenAccount", "inAmountRaw", "quotedOutRaw", "slippageBps", "minOutRaw", "suffixCommitmentHex",
  "suffixInstructionCount"]
/-- A detached copy holding exactly the binding's own fields. -/
def canonicalDownstream (value : Value) : Value :=
  if isString (value.get "adapterKind") TRANSFER_CHECKED then
    record (["adapterKind", "commitmentHex"].map (fun field => (field, value.get field)))
  else record (bindingFields.map (fun field => (field, value.get field)))
/-- How a Jupiter binding fails to be the trade of a quote. -/
def jupiterQuoteMismatches (binding : Value) (quote : QuoteIdentity) (representationMint : Text) : List Message :=
  if isString (binding.get "adapterKind") TRANSFER_CHECKED then []
  else
    problemIf (¬ isString (binding.get "adapterKind") BUY)
      ["plans acquire the selected representation; only a BUY can execute one"] ++
    problemIf (¬ isString (binding.get "protectedMint") representationMint ∨
        ¬ isString (binding.get "destinationMint") quote.mint)
      ["the trade does not acquire the planned representation"] ++
    problemIf (¬ isString (binding.get "sourceMint") quote.inputMint) ["the trade does not spend the planned input mint"] ++
    problemIf (¬ isBigint (binding.get "inAmountRaw") (some quote.inputRaw)) ["inAmountRaw differs from the planned input"] ++
    problemIf (¬ isBigint (binding.get "quotedOutRaw") (some quote.outputRaw))
      ["quotedOutRaw differs from the planned output"] ++
    problemIf (¬ isBigint (binding.get "minOutRaw") quote.minOutputRaw) ["minOutRaw differs from the planned minimum output"]

/-! ### Plans -/

structure ExecutionPlanContent where
  selectedRepresentation : RepresentationSummary
  quote : QuoteIdentity
  quoteKey : Text
  economicState : EconomicState
  policy : TransitionPolicy
  inputRaw : Int
  expectedOutputRaw : Int
  minOutputRaw : Option Int
  route : RouteIdentity
  decision : Decision
  reasonCode : DecisionReasonCode
  comparisonKey : Option Text
  disclosure : Option RerouteDisclosure
  consentId : Option Text
  createdAtSlot : Int
  expiresAtSlot : Int
  downstream : Value
structure ExecutionPlan extends ExecutionPlanContent where
  planDigest : Text
/-- `environment` and `executionEligibility` have one value each. -/
def ExecutionPlanContent.toValue (content : ExecutionPlanContent) : Value := record [
  ("environment", "DEVNET_EXECUTION"),
  ("selectedRepresentation", content.selectedRepresentation.toValue),
  ("quote", content.quote.toValue),
  ("quoteKey", .string content.quoteKey),
  ("economicState", stateValue content.economicState),
  ("policy", policyValue content.policy),
  ("inputRaw", .bigint content.inputRaw),
  ("expectedOutputRaw", .bigint content.expectedOutputRaw),
  ("minOutputRaw", orNull .bigint content.minOutputRaw),
  ("route", content.route.toValue),
  ("decision", .string content.decision.name),
  ("reasonCode", .string content.reasonCode.name),
  ("executionEligibility", "EXECUTABLE"),
  ("comparisonKey", orNull .string content.comparisonKey),
  ("disclosure", orNull RerouteDisclosure.toValue content.disclosure),
  ("consentId", orNull .string content.consentId),
  ("createdAtSlot", .bigint content.createdAtSlot),
  ("expiresAtSlot", .bigint content.expiresAtSlot),
  ("downstream", content.downstream)]
def planDigestOf (sha256Hex : Text → Text) (content : ExecutionPlanContent) : Attempt Text := do
  return sha256Hex (← keyOf content.toValue)

/-- The sets of the two modules. Plan number `i` is the object that was issued `i`-th, deeply frozen. -/
structure Registry where
  consents : Consents
  issuedPlans : List ExecutionPlan
  consumedPlans : List Nat
def Registry.empty : Registry := ⟨.empty, [], []⟩

def planError (code : ExecutionPlanErrorCode) (message : Message) : Failure := .ExecutionPlanError code message []
/-- What a reroute plan is made from. -/
structure Reroute where
  comparison : QuoteComparison
  disclosure : RerouteDisclosure
  consent : Nat
/-- What has been checked before a consent is consumed. -/
structure PlanRequest where
  selected : RepresentationSummary
  quote : QuoteIdentity
  policy : TransitionPolicy
  currentSlot : Int
  validForSlots : Int
  downstream : Value
  reroute : Option Reroute

section
variable (realm : Realm) (sha256Hex : Text → Text)

def assertEnvironment (environment : Value) : Attempt Unit := do
  if isString environment "DEVNET_EXECUTION" then return ()
  else
    let shown ← realm.toText environment
    throw (planError .OBSERVATION_ONLY_ENVIRONMENT [shown, " results cannot produce a submit-capable execution plan"])
/-- The slots of `options`, both positive bigints or refused. -/
def freshnessOf (options : Value) : Attempt (Int × Int) := do
  refuse_if (options.isNullish = true) (.TypeError ["Cannot read properties of ", options])
  let refused := planError .INVALID_FRESHNESS ["an explicit positive bigint validForSlots and currentSlot are required"]
  match (options.get "freshness").get "validForSlots", options.get "currentSlot" with
  | .bigint validForSlots, .bigint currentSlot => do
    refuse_if (validForSlots ≤ 0) refused
    return (validForSlots, currentSlot)
  | _, _ => throw refused
/-- An eligibility error becomes a plan error. -/
def assertPlannable (decision : ExecutionDecision) : Attempt (RepresentationSummary × QuoteIdentity) :=
  match assertExecutable decision with
  | .error (.ExecutionEligibilityError _ message) => .error (planError .NOT_EXECUTABLE message)
  | outcome => outcome
/-- The disclosed comparison of a consented reroute. -/
def disclosedComparison (decision : ExecutionDecision) : Attempt (Option (QuoteComparison × RerouteDisclosure)) :=
  if decision.stateDecision.decision = .USE_ALTERNATIVE then
    let refused := planError .DISCLOSURE_NOT_FOR_COMPARISON
      ["a consented reroute needs the disclosure of the exact comparison"]
    match decision.comparison, decision.stateDecision.disclosure with
    | some comparison, some disclosure => do
      refuse_if (disclosure.comparisonKey ≠ comparison.comparisonKey) refused
      return some (comparison, disclosure)
    | _, _ => throw refused
  else return none
/-- The consent record that a reroute needs. -/
def consentedReroute (decision : ExecutionDecision) :
    Option (QuoteComparison × RerouteDisclosure) → Attempt (Option Reroute)
  | none => .ok none
  | some (comparison, disclosure) => do
    let consent ← ok_or (planError .CONSENT_REJECTED ["a reroute plan requires a consent record"]) decision.consent
    return some ⟨comparison, disclosure, consent⟩
def planRequest (decision : ExecutionDecision) (environment options : Value) : Attempt PlanRequest := do
  assertEnvironment realm environment
  let (validForSlots, currentSlot) ← freshnessOf options
  let downstream := options.get "downstream"
  let issues ← downstreamProblems realm downstream
  refuse_if (issues ≠ [])
    (planError .INVALID_DOWNSTREAM ("a well-formed downstream binding is required: " :: joined issues))
  let (selected, executable) ← assertPlannable decision
  let disclosed ← disclosedComparison decision
  let quote ← quoteIdentityOf executable
  let notForQuote := jupiterQuoteMismatches downstream quote selected.mint
  refuse_if (notForQuote ≠ [])
    (planError .DOWNSTREAM_NOT_FOR_QUOTE ("the Jupiter trade is not the planned quote: " :: joined notForQuote))
  let policy ← ok_or (planError .POLICY_MISMATCH
    ["an executable decision must carry the transition policy its state was classified under"]) decision.transitionPolicy
  let reroute ← consentedReroute decision disclosed
  return { selected, quote, policy, currentSlot, validForSlots, downstream, reroute }
/-- The form of a decision that its consent was given to. -/
def consentContext (decision : ExecutionDecision) (comparison : QuoteComparison) (currentSlot : Int) : ConsentContext where
  decision := { decision.stateDecision with decision := .REQUIRES_CONSENT, reasonCode := .CONSENT_REQUIRED }
  comparison
  reroutePolicy := decision.reroutePolicy
  currentSlot
def issueMessage (issue : ConsentIssue) : Message :=
  let opened : Message := issue.code.name :: " (" :: issue.detail
  opened.concat ")"
/-- The message of a `ConsentError`. -/
def issuesMessage (issues : List ConsentIssue) : Message := "consent rejected: " :: joined (issues.map issueMessage)
/-- Consumes the consent of a reroute. -/
def consumeFor (consents : Consents) (decision : ExecutionDecision) (request : PlanRequest) : Attempt Consents :=
  match request.reroute with
  | none => .ok consents
  | some reroute =>
    match consumeConsent sha256Hex consents reroute.consent
        (consentContext decision reroute.comparison request.currentSlot) with
    | .error (.ConsentError issues) => .error (planError .CONSENT_REJECTED (issuesMessage issues))
    | outcome => outcome
/-- The content of a plan. Its data is strings, bigints and integers all through, so that `structuredClone`
    and freezing leave it as it is. -/
def planContent (consents : Consents) (decision : ExecutionDecision) (request : PlanRequest) (key : Text) :
    ExecutionPlanContent where
  selectedRepresentation := request.selected
  quote := request.quote
  quoteKey := key
  economicState := request.quote.state
  policy := request.policy
  inputRaw := request.quote.inputRaw
  expectedOutputRaw := request.quote.outputRaw
  minOutputRaw := request.quote.minOutputRaw
  route := request.quote.route
  decision := decision.stateDecision.decision
  reasonCode := decision.stateDecision.reasonCode
  comparisonKey := request.reroute.map (fun reroute => reroute.comparison.comparisonKey)
  disclosure := request.reroute.map Reroute.disclosure
  consentId := request.reroute.bind (fun reroute => (consents.issued[reroute.consent]?).map ConsentRecord.consentId)
  createdAtSlot := request.currentSlot
  expiresAtSlot := request.currentSlot + request.validForSlots
  downstream := canonicalDownstream request.downstream
def planOf (consents : Consents) (decision : ExecutionDecision) (request : PlanRequest) : Attempt ExecutionPlan := do
  let content := planContent consents decision request (← quoteKey request.quote)
  return { content with planDigest := ← planDigestOf sha256Hex content }
/-- Creates and registers the plan. What is thrown after the consent was consumed does not bring it back. -/
def createExecutionPlan (registry : Registry) (decision : ExecutionDecision) (environment options : Value) :
    Attempt Nat × Registry :=
  match planRequest realm decision environment options with
  | .error failure => (.error failure, registry)
  | .ok request =>
    match consumeFor sha256Hex registry.consents decision request with
    | .error failure => (.error failure, registry)
    | .ok consents =>
      match planOf sha256Hex consents decision request with
      | .error failure => (.error failure, { registry with consents })
      | .ok plan => (.ok registry.issuedPlans.length,
          { registry with consents, issuedPlans := registry.issuedPlans ++ [plan] })

/-! ### Verifying and consuming plans -/

structure Presented where
  quote : QuoteIdentity
  comparison : Option QuoteComparison
def isDownstreamBinding (value : Value) : Attempt Bool := do return decide ((← downstreamProblems realm value) = [])
/-- Whether a plan's fields say what its quote does; the conditions are asked in this order. -/
def planConsistent (plan : ExecutionPlan) : Attempt Bool := do
  if plan.quoteKey ≠ (← quoteKey plan.quote) then return false
  else if (← keyOf (stateValue plan.economicState)) ≠ (← keyOf (stateValue plan.quote.state)) then return false
  else if plan.inputRaw ≠ plan.quote.inputRaw ∨ plan.expectedOutputRaw ≠ plan.quote.outputRaw ∨
      plan.minOutputRaw ≠ plan.quote.minOutputRaw then return false
  else if (← keyOf plan.route.toValue) ≠ (← keyOf plan.quote.route.toValue) then return false
  else if plan.selectedRepresentation.mint ≠ plan.quote.mint then return false
  else if ¬ (← isDownstreamBinding realm plan.downstream) then return false
  else return decide (jupiterQuoteMismatches plan.downstream plan.quote plan.selectedRepresentation.mint = [])
def verifyComparison (plan : ExecutionPlan) (presented : Presented) : Attempt Unit :=
  match plan.comparisonKey with
  | none => .ok ()
  | some key =>
    let refused := planError .COMPARISON_NOT_FOR_PLAN ["presented comparison is not the one consent was given to"]
    match presented.comparison with
    | none => .error refused
    | some comparison => do
      refuse_if (comparison.comparisonKey ≠ key) refused
      refuse_if (plan.disclosure.map (fun disclosure => disclosure.comparisonKey) ≠ some key)
        (planError .DISCLOSURE_NOT_FOR_COMPARISON ["plan disclosure does not describe the planned comparison"])
      let alternative ← Quotes.quoteMismatches comparison.alternativeQuote plan.quote
      refuse_if (alternative ≠ []) (.ExecutionPlanError .COMPARISON_NOT_FOR_PLAN
        ["comparison's alternative quote is not the planned quote"] alternative)
def verifyExecutionPlan (registry : Registry) (plan : Nat) (presented : Presented) : Attempt Unit :=
  match registry.issuedPlans[plan]? with
  | none => .error (planError .PLAN_NOT_ISSUED ["execution plans can only come from createExecutionPlan"])
  | some issued => do
    refuse_if (plan ∈ registry.consumedPlans)
      (planError .PLAN_CONSUMED ["plan ", .string (issued.planDigest.take 16), "… was already executed"])
    let digest ← planDigestOf sha256Hex issued.toExecutionPlanContent
    refuse_if (digest ≠ issued.planDigest) (planError .PLAN_TAMPERED ["plan content does not match its digest"])
    let consistent ← planConsistent realm issued
    refuse_if (¬ consistent) (planError .PLAN_TAMPERED ["plan fields are inconsistent with the planned quote"])
    let substituted ← Quotes.quoteMismatches issued.quote presented.quote
    refuse_if (substituted ≠ []) (.ExecutionPlanError .QUOTE_SUBSTITUTED ("presented quote is not the planned quote: " ::
      listed (substituted.map (fun mismatch => mismatch.code.name))) substituted)
    verifyComparison issued presented
/-- Verifies and marks the plan consumed: the sets after it, or a refusal that leaves them. -/
def consumeExecutionPlan (registry : Registry) (plan : Nat) (presented : Presented) : Attempt Registry := do
  verifyExecutionPlan realm sha256Hex registry plan presented
  return { registry with consumedPlans := plan :: registry.consumedPlans }
/-- Refuses unless the action about to be submitted is the planned one, field for field. -/
def assertPlanDownstream (plan : ExecutionPlan) (actual : Value) : Attempt Unit := do
  let mismatch := planError .DOWNSTREAM_COMMITMENT_MISMATCH ["the action being submitted is not the planned action"]
  let wellFormed ← isDownstreamBinding realm actual
  refuse_if (¬ wellFormed) mismatch
  let actualKey ← keyOf (canonicalDownstream actual)
  let plannedKey ← keyOf plan.downstream
  refuse_if (actualKey ≠ plannedKey) mismatch
/-- Refuses unless the executor's policy is the plan's. -/
def assertPlanPolicy (plan : ExecutionPlan) (executorPolicy : TransitionPolicy) : Attempt Unit := do
  let planned ← keyOf (policyValue plan.policy)
  let configured ← keyOf (policyValue executorPolicy)
  refuse_if (planned ≠ configured) (planError .POLICY_MISMATCH
    ["plan was decided under ", plan.policy.basis, " (", plan.policy.beforeSecs, "/", plan.policy.afterSecs,
      "s); executor is configured for ", executorPolicy.basis, " (", executorPolicy.beforeSecs, "/",
      executorPolicy.afterSecs, "s)"])
/-- Refuses a slot past the plan's freshness window. -/
def assertPlanFresh (plan : ExecutionPlan) (currentSlot : Int) : Attempt Unit :=
  refuse_if (currentSlot > plan.expiresAtSlot)
    (planError .PLAN_EXPIRED ["slot ", currentSlot, " > expiresAtSlot ", plan.expiresAtSlot])
end

/-! ### What a request has passed -/

/-- The consented reroute of a decision, or that it is none. -/
def RerouteOf (decision : ExecutionDecision) : Option Reroute → Prop
  | none => decision.stateDecision.decision ≠ .USE_ALTERNATIVE
  | some reroute => decision.stateDecision.decision = .USE_ALTERNATIVE ∧ decision.comparison = some reroute.comparison ∧
      decision.stateDecision.disclosure = some reroute.disclosure ∧
      reroute.disclosure.comparisonKey = reroute.comparison.comparisonKey ∧ decision.consent = some reroute.consent
@[mk_iff] structure Requested (realm : Realm) (decision : ExecutionDecision) (environment options : Value)
    (request : PlanRequest) : Prop where
  environment : isString environment "DEVNET_EXECUTION" = true
  validForSlots : (options.get "freshness").get "validForSlots" = .bigint request.validForSlots
  positive : 0 < request.validForSlots
  currentSlot : options.get "currentSlot" = .bigint request.currentSlot
  downstream : request.downstream = options.get "downstream"
  wellFormed : downstreamProblems realm (options.get "downstream") = .ok []
  executable : assertExecutable decision = .ok (request.selected, request.quote)
  valid : quoteProblems request.quote = []
  forQuote : jupiterQuoteMismatches (options.get "downstream") request.quote request.selected.mint = []
  policy : decision.transitionPolicy = some request.policy
  reroute : RerouteOf decision request.reroute

section
variable {realm : Realm} {sha256Hex : Text → Text} {decision : ExecutionDecision} {environment options : Value}
  {request : PlanRequest} {consents : Consents} {registry : Registry}

theorem assertEnvironment_eq_ok : assertEnvironment realm environment = .ok () ↔
    isString environment "DEVNET_EXECUTION" = true := by
  unfold assertEnvironment
  split
  · simp_all [pure_eq_ok]
  · rename_i other
    refine iff_of_false ?_ other
    intro accepted
    obtain ⟨_, _, thrown⟩ := bind_eq_ok.mp accepted
    cases thrown
theorem freshnessOf_eq_ok {validForSlots currentSlot : Int} : freshnessOf options = .ok (validForSlots, currentSlot) ↔
    (options.get "freshness").get "validForSlots" = .bigint validForSlots ∧ 0 < validForSlots ∧
      options.get "currentSlot" = .bigint currentSlot := by
  unfold freshnessOf
  constructor
  · intro fresh
    obtain ⟨_, fresh⟩ := then_eq_ok.mp fresh
    dsimp only at fresh
    split at fresh
    · rename_i valid slot validEq slotEq
      obtain ⟨positive, fresh⟩ := then_eq_ok.mp fresh
      cases fresh
      exact ⟨validEq, by simpa using refuse_if_eq_ok.mp positive, slotEq⟩
    · cases fresh
  · rintro ⟨validEq, positive, slotEq⟩
    have present : options.isNullish ≠ true := by
      cases options <;> simp_all [Value.isNullish, Value.get, Value.fields]
    rw [refuse_if_bind, if_neg present]
    simp [validEq, slotEq, positive, pure_eq_ok]
theorem assertPlannable_eq_ok {selected : RepresentationSummary × QuoteIdentity} :
    assertPlannable decision = .ok selected ↔ assertExecutable decision = .ok selected := by
  unfold assertPlannable
  split
  · rename_i eligibility message refused
    simp [refused]
  · rfl
theorem disclosedComparison_eq_ok {disclosed : Option (QuoteComparison × RerouteDisclosure)} :
    disclosedComparison decision = .ok disclosed ↔
      match disclosed with
      | none => decision.stateDecision.decision ≠ .USE_ALTERNATIVE
      | some (comparison, disclosure) => decision.stateDecision.decision = .USE_ALTERNATIVE ∧
          decision.comparison = some comparison ∧ decision.stateDecision.disclosure = some disclosure ∧
          disclosure.comparisonKey = comparison.comparisonKey := by
  unfold disclosedComparison
  by_cases rerouted : decision.stateDecision.decision = .USE_ALTERNATIVE
  · rw [if_pos rerouted]
    dsimp only
    split
    · rename_i comparison disclosure compared disclosedEq
      rw [refuse_if_bind]
      split
      · rename_i differs
        cases disclosed with
        | none => simp [rerouted]
        | some pair =>
          simp only [compared, disclosedEq, Option.some.injEq, reduceCtorEq, false_iff]
          rintro ⟨_, rfl, rfl, same⟩
          exact differs same
      · rename_i same
        rw [not_not] at same
        cases disclosed with
        | none => simp [rerouted, pure_eq_ok]
        | some pair =>
          obtain ⟨left, right⟩ := pair
          simp only [pure_eq_ok, Except.ok.injEq, Option.some.injEq, Prod.mk.injEq, compared, disclosedEq, rerouted, true_and]
          constructor
          · rintro ⟨rfl, rfl⟩
            exact ⟨rfl, rfl, same⟩
          · rintro ⟨rfl, rfl, _⟩
            exact ⟨rfl, rfl⟩
    · rename_i missing
      cases disclosed with
      | none => simp [rerouted]
      | some pair =>
        simp only [reduceCtorEq, false_iff]
        rintro ⟨_, compared, disclosedEq, _⟩
        exact missing _ _ compared disclosedEq
  · rw [if_neg rerouted]
    cases disclosed with
    | none => simp [rerouted, pure_eq_ok]
    | some pair => simp [rerouted, pure_eq_ok]
/-- A request is made exactly if every check before the consent passed. -/
theorem planRequest_eq_ok : planRequest realm decision environment options = .ok request ↔
    Requested realm decision environment options request := by
  unfold planRequest
  constructor
  · intro made
    obtain ⟨inEnvironment, made⟩ := then_eq_ok.mp made
    obtain ⟨⟨validForSlots, currentSlot⟩, fresh, made⟩ := bind_eq_ok.mp made
    obtain ⟨issues, judged, made⟩ := bind_eq_ok.mp made
    obtain ⟨wellFormed, made⟩ := then_eq_ok.mp made
    obtain ⟨⟨selected, executable⟩, plannable, made⟩ := bind_eq_ok.mp made
    obtain ⟨disclosed, disclosure, made⟩ := bind_eq_ok.mp made
    obtain ⟨quote, checked, made⟩ := bind_eq_ok.mp made
    obtain ⟨forQuote, made⟩ := then_eq_ok.mp made
    obtain ⟨policy, classified, made⟩ := bind_eq_ok.mp made
    obtain ⟨reroute, consented, made⟩ := bind_eq_ok.mp made
    cases made
    obtain ⟨valid, rfl⟩ := quoteIdentityOf_eq_ok.mp checked
    obtain ⟨validEq, positive, slotEq⟩ := freshnessOf_eq_ok.mp fresh
    rw [refuse_if_eq_ok, not_not] at wellFormed forQuote
    subst wellFormed
    have rerouteOf : RerouteOf decision reroute := by
      have cases := disclosedComparison_eq_ok.mp disclosure
      cases disclosed with
      | none =>
        cases consented
        exact cases
      | some pair =>
        obtain ⟨comparison, disclosure⟩ := pair
        obtain ⟨rerouted, compared, disclosedEq, key⟩ := cases
        obtain ⟨consent, found, consented⟩ := bind_eq_ok.mp consented
        cases consented
        exact ⟨rerouted, compared, disclosedEq, key, ok_or_eq_ok.mp found⟩
    exact {
      environment := assertEnvironment_eq_ok.mp inEnvironment
      validForSlots := validEq
      positive
      currentSlot := slotEq
      downstream := rfl
      wellFormed := judged
      executable := assertPlannable_eq_ok.mp plannable
      valid
      forQuote
      policy := ok_or_eq_ok.mp classified
      reroute := rerouteOf }
  · obtain ⟨selected, quote, requestPolicy, currentSlot, validForSlots, requestDownstream, reroute⟩ := request
    rintro ⟨inEnvironment, validEq, positive, slotEq, downstream, wellFormed, executable, valid, forQuote, policy, rerouteOf⟩
    dsimp only at validEq positive slotEq downstream executable valid forQuote policy rerouteOf
    rw [assertEnvironment_eq_ok.mpr inEnvironment, ok_bind, freshnessOf_eq_ok.mpr ⟨validEq, positive, slotEq⟩, ok_bind]
    dsimp only
    rw [wellFormed, ok_bind, refuse_if_bind, if_neg (by simp), assertPlannable_eq_ok.mpr executable, ok_bind]
    dsimp only
    have checked : quoteIdentityOf quote = .ok quote := quoteIdentityOf_eq_ok.mpr ⟨valid, rfl⟩
    cases reroute with
    | none =>
      have disclosed : disclosedComparison decision = .ok none := disclosedComparison_eq_ok.mpr rerouteOf
      rw [disclosed, ok_bind, checked, ok_bind, refuse_if_bind, if_neg (by simpa using forQuote), policy, downstream]
      rfl
    | some reroute =>
      obtain ⟨rerouted, compared, disclosedEq, key, consented⟩ := rerouteOf
      have disclosed : disclosedComparison decision = .ok (some (reroute.comparison, reroute.disclosure)) :=
        disclosedComparison_eq_ok.mpr ⟨rerouted, compared, disclosedEq, key⟩
      rw [disclosed, ok_bind, checked, ok_bind, refuse_if_bind, if_neg (by simpa using forQuote), policy, downstream,
        consentedReroute, consented]
      rfl
theorem consumeFor_eq_ok {after : Consents} (consumed : consumeFor sha256Hex consents decision request = .ok after) :
    (request.reroute = none ∧ after = consents) ∨
      ∃ reroute, request.reroute = some reroute ∧ Consent.consentIssues sha256Hex consents reroute.consent
          (consentContext decision reroute.comparison request.currentSlot) = .ok [] ∧
        after = { consents with consumed := reroute.consent :: consents.consumed } := by
  unfold consumeFor at consumed
  split at consumed
  · rename_i kept
    cases consumed
    exact .inl ⟨kept, rfl⟩
  · rename_i reroute rerouted
    split at consumed
    · cases consumed
    · obtain ⟨clean, rfl⟩ := consumeConsent_eq_ok consumed
      exact .inr ⟨reroute, rerouted, clean, rfl⟩
theorem planOf_eq_ok {plan : ExecutionPlan} (made : planOf sha256Hex consents decision request = .ok plan) :
    ∃ key, quoteKey request.quote = .ok key ∧ plan.toExecutionPlanContent = planContent consents decision request key ∧
      planDigestOf sha256Hex plan.toExecutionPlanContent = .ok plan.planDigest := by
  unfold planOf at made
  obtain ⟨key, keyed, made⟩ := bind_eq_ok.mp made
  obtain ⟨digest, digested, made⟩ := bind_eq_ok.mp made
  cases made
  exact ⟨key, keyed, rfl, digested⟩
theorem createExecutionPlan_failed {failure : Failure} {after : Consents}
    (requested : Requested realm decision environment options request)
    (consumed : consumeFor sha256Hex registry.consents decision request = .ok after)
    (failed : planOf sha256Hex after decision request = .error failure) :
    createExecutionPlan realm sha256Hex registry decision environment options =
      (.error failure, { registry with consents := after }) := by
  unfold createExecutionPlan
  rw [planRequest_eq_ok.mpr requested]
  dsimp only
  rw [consumed]
  dsimp only
  rw [failed]
theorem createExecutionPlan_made {plan : ExecutionPlan} {after : Consents}
    (requested : Requested realm decision environment options request)
    (consumed : consumeFor sha256Hex registry.consents decision request = .ok after)
    (made : planOf sha256Hex after decision request = .ok plan) :
    createExecutionPlan realm sha256Hex registry decision environment options = (.ok registry.issuedPlans.length,
      { registry with consents := after, issuedPlans := registry.issuedPlans ++ [plan] }) := by
  unfold createExecutionPlan
  rw [planRequest_eq_ok.mpr requested]
  dsimp only
  rw [consumed]
  dsimp only
  rw [made]
/-- A call returns a plan it registered, with its consent consumed, or throws and registers nothing. -/
theorem createExecutionPlan_cases (realm : Realm) (sha256Hex : Text → Text) (registry : Registry)
    (decision : ExecutionDecision) (environment options : Value) :
    (∃ failure consents, createExecutionPlan realm sha256Hex registry decision environment options =
        (.error failure, { registry with consents }) ∧
      (consents = registry.consents ∨ ∃ consent, consents = { registry.consents with
        consumed := consent :: registry.consents.consumed })) ∨
    ∃ request consents plan, Requested realm decision environment options request ∧
      consumeFor sha256Hex registry.consents decision request = .ok consents ∧
      planOf sha256Hex consents decision request = .ok plan ∧
      createExecutionPlan realm sha256Hex registry decision environment options = (.ok registry.issuedPlans.length,
        { registry with consents, issuedPlans := registry.issuedPlans ++ [plan] }) := by
  unfold createExecutionPlan
  cases requested : planRequest realm decision environment options with
  | error failure => exact .inl ⟨failure, registry.consents, rfl, .inl rfl⟩
  | ok request =>
    dsimp only
    cases consumed : consumeFor sha256Hex registry.consents decision request with
    | error failure => exact .inl ⟨failure, registry.consents, rfl, .inl rfl⟩
    | ok consents =>
      dsimp only
      cases made : planOf sha256Hex consents decision request with
      | error failure =>
        refine .inl ⟨failure, consents, rfl, ?_⟩
        obtain ⟨_, kept⟩ | ⟨reroute, _, _, used⟩ := consumeFor_eq_ok consumed
        · exact .inl kept
        · exact .inr ⟨reroute.consent, used⟩
      | ok plan => exact .inr ⟨request, consents, plan, planRequest_eq_ok.mp requested, consumed, made, rfl⟩
end

end EquityGuard.Plans
