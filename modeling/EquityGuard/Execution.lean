import EquityGuard.Consent

/-!
Execution eligibility: whether a transaction can be built now, from the state decision,
the routes and a presented consent.
-/
namespace EquityGuard.Execution
open EquityGuard.Canonical EquityGuard.Compare EquityGuard.Consent EquityGuard.Decisions EquityGuard.Errors
open EquityGuard.Failures EquityGuard.Hex EquityGuard.JsonText EquityGuard.JsValue EquityGuard.Quotes EquityGuard.Records
open EquityGuard.Representations

inductive RouteStatus where
  | AVAILABLE
  | UNAVAILABLE
deriving DecidableEq
structure RouteObservation where
  mint : Text
  status : RouteStatus
  quote : Option QuoteIdentity
  detail : Option Text
structure ExecutionInput extends DecisionInput where
  preferredRoute : Option RouteObservation
  alternativeRoute : Option RouteObservation
  consent : Option Nat
  currentSlot : Int
structure ExecutionDecision where
  stateDecision : DecisionResult
  comparison : Option QuoteComparison
  executionEligibility : ExecutionEligibility
  executionReason : Message
  selectedRepresentation : Option RepresentationSummary
  selectedRouteAvailable : Option Bool
  quoteAvailable : Bool
  consentRequired : Bool
  executableQuote : Option QuoteIdentity
  quoteMismatches : List QuoteMismatch
  consent : Option Nat
  consentIssues : List ConsentIssue
  reroutePolicy : ReroutePolicy
  currentSlot : Int
  transitionPolicy : Option TransitionPolicy
def ExecutionEligibility.name : ExecutionEligibility → Text
  | .EXECUTABLE => "EXECUTABLE"
  | .ROUTE_UNAVAILABLE => "ROUTE_UNAVAILABLE"
  | .QUOTE_UNAVAILABLE => "QUOTE_UNAVAILABLE"
  | .STATE_UNSAFE => "STATE_UNSAFE"
  | .STATE_UNKNOWN => "STATE_UNKNOWN"
  | .CONSENT_REQUIRED => "CONSENT_REQUIRED"
  | .CONSENT_INVALID => "CONSENT_INVALID"
  | .POLICY_MISMATCH => "POLICY_MISMATCH"
  | .ALTERNATIVE_OUTSIDE_TOLERANCE => "ALTERNATIVE_OUTSIDE_TOLERANCE"
  | .STALE_COMPARISON => "STALE_COMPARISON"
  | .QUOTE_MISMATCH => "QUOTE_MISMATCH"

def policyValue (policy : TransitionPolicy) : Value := record [
  ("beforeSecs", .bigint policy.beforeSecs),
  ("afterSecs", .bigint policy.afterSecs),
  ("calibration", .string policy.calibration.name),
  ("basis", .string policy.basis)]
/-- The observation of a route, if it is for this representation. -/
def routeFor (route : Option RouteObservation) (representation : Option ResolvedRepresentationState) :
    Option RouteObservation :=
  match route, representation with
  | some route, some representation => if route.mint = representation.mint then some route else none
  | _, _ => none

section
variable (sha256Hex : Text → Text) (consents : Consents)

structure Applied where
  stateDecision : DecisionResult
  consent : Option Nat
  issues : List ConsentIssue
/-- The reason of a decision that a consent was applied to. -/
def consentedReason (base : DecisionResult) (consent : Nat) : Message :=
  match consents.issued[consent]? with
  | some record =>
    let suffix : Message := ["; consent ", .string (record.consentId.take 12), "… accepts this exact disclosure (",
      record.additionalCostBps, " bps, max ", record.maxAdditionalCostBps, " bps, until slot ", record.expiresAtSlot, ")"]
    base.reason ++ suffix
  | none => base.reason
/-- Applies a presented consent to a decision that requires one. -/
def applyConsent (base : DecisionResult) (input : ExecutionInput) : Attempt Applied := do
  match base.decision, input.consent, input.comparison with
  | .REQUIRES_CONSENT, some consent, some comparison =>
    let issues ← Consent.consentIssues sha256Hex consents consent ⟨base, comparison, input.reroutePolicy, input.currentSlot⟩
    if issues ≠ [] then return ⟨base, none, issues⟩
    else return ⟨{ base with
      decision := .USE_ALTERNATIVE
      reasonCode := .CONSENT_GIVEN
      reason := consentedReason consents base consent }, some consent, []⟩
  | _, _, _ => return ⟨base, none, []⟩

/-- The fields every result has, before anything is selected. -/
def baseResult (input : ExecutionInput) (applied : Applied) (executionEligibility : ExecutionEligibility)
    (executionReason : Message) : ExecutionDecision where
  stateDecision := applied.stateDecision
  comparison := input.comparison
  executionEligibility
  executionReason
  selectedRepresentation := none
  selectedRouteAvailable := none
  quoteAvailable := false
  consentRequired := applied.stateDecision.decision = .REQUIRES_CONSENT
  executableQuote := none
  quoteMismatches := []
  consent := applied.consent
  consentIssues := applied.issues
  reroutePolicy := input.reroutePolicy
  currentSlot := input.currentSlot
  transitionPolicy := none
/-- `: ${detail}`, if there is a detail that is not empty. -/
def detailOf : Option Text → Message
  | some (unit :: rest) => [": ", .string (unit :: rest)]
  | _ => []
/-- The branch of a SAFE preferred representation. -/
def executePreferred (input : ExecutionInput) (applied : Applied) : Attempt ExecutionDecision :=
  let preferred := applied.stateDecision.preferred
  let result := baseResult input applied
  let selectedRepresentation := some (summary preferred)
  match economicStateOf preferred.chainObservation with
  | none => return { result .STATE_UNKNOWN [preferred.symbol, " has no authoritative live chain state (state source ",
      orNull (fun source => .string source.name) preferred.stateSource, ")"] with selectedRepresentation }
  | some current =>
    match routeFor input.preferredRoute (some preferred) with
    | none => return { result .ROUTE_UNAVAILABLE [preferred.symbol, " is SAFE but has no available route"] with
        selectedRepresentation, selectedRouteAvailable := some false }
    | some route =>
      if route.status ≠ .AVAILABLE then
        return { result .ROUTE_UNAVAILABLE
            (preferred.symbol :: " is SAFE but has no available route" :: detailOf route.detail) with
          selectedRepresentation, selectedRouteAvailable := some false }
      else
        match route.quote with
        | none => return { result .QUOTE_UNAVAILABLE
            [preferred.symbol, " is SAFE and routable but no usable quote exists"] with
            selectedRepresentation, selectedRouteAvailable := some true }
        | some quote =>
          let fields (eligibility : ExecutionEligibility) (reason : Message) : ExecutionDecision :=
            { result eligibility reason with selectedRepresentation, selectedRouteAvailable := some true, quoteAvailable := true }
          if quote.mint ≠ preferred.mint ∨ quote.underlying ≠ preferred.underlying ∨ quote.inputRaw ≠ input.inputRaw then
            return fields .QUOTE_MISMATCH [preferred.symbol, " quote does not belong to this trade"]
          else if economicStateMismatches quote.state current ≠ [] then
            return fields .STALE_COMPARISON (preferred.symbol :: " quote was built against a different economic state: " ::
              listed ((economicStateMismatches quote.state current).map (fun field => text (EconomicField.name field))))
          else
            match preferred.transitionPolicy with
            | none =>
              return fields .POLICY_MISMATCH [preferred.symbol, " has no transition policy bound to its classification"]
            | some policy => do
              let executableQuote ← quoteIdentityOf quote
              return { fields .EXECUTABLE [preferred.symbol, " is SAFE, routable, and quoted against its current state"] with
                executableQuote := some executableQuote, transitionPolicy := some policy }
/-- `cost above the accepted maximum`, of the record that was applied. -/
def aboveAccepted (comparison : QuoteComparison) (consent : Option Nat) : Option Message :=
  match consent.bind (fun consent => consents.issued[consent]?) with
  | some record =>
    if comparison.additionalCostBps > record.maxAdditionalCostBps then some ["cost above the accepted maximum"] else none
  | none => none
/-- The branch of a consented reroute. -/
def executeAlternative (input : ExecutionInput) (applied : Applied) (chosen : ResolvedRepresentationState)
    (comparison : QuoteComparison) : Attempt ExecutionDecision :=
  let preferred := applied.stateDecision.preferred
  let result := baseResult input applied
  let selectedRepresentation := some (summary chosen)
  if economicStateOf chosen.chainObservation = none ∨ economicStateOf preferred.chainObservation = none then
    return { result .STATE_UNKNOWN ["a reroute needs authoritative live chain state for both representations"] with
      selectedRepresentation }
  else
    match routeFor input.alternativeRoute (some chosen) with
    | none => return { result .ROUTE_UNAVAILABLE [chosen.symbol, " has no available route"] with
        selectedRepresentation, selectedRouteAvailable := some false, quoteAvailable := true }
    | some route =>
      if route.status ≠ .AVAILABLE then
        return { result .ROUTE_UNAVAILABLE [chosen.symbol, " has no available route"] with
          selectedRepresentation, selectedRouteAvailable := some false, quoteAvailable := true }
      else
        match route.quote with
        | none => return { result .QUOTE_UNAVAILABLE
            [chosen.symbol, " is routable but the route carries no quote to execute"] with
            selectedRepresentation, selectedRouteAvailable := some true }
        | some quote =>
          match (exceedsCostLimit comparison input.reroutePolicy).or (aboveAccepted consents comparison applied.consent) with
          | some outside => return { result .ALTERNATIVE_OUTSIDE_TOLERANCE (chosen.symbol :: ": " :: outside) with
              selectedRepresentation, quoteAvailable := true }
          | none => do
            let substituted ← Quotes.quoteMismatches comparison.alternativeQuote quote
            let fields (eligibility : ExecutionEligibility) (reason : Message) : ExecutionDecision :=
              { result eligibility reason with
                selectedRepresentation, selectedRouteAvailable := some true, quoteAvailable := true }
            if substituted ≠ [] then
              return { fields .QUOTE_MISMATCH (chosen.symbol :: " route quote is not the compared quote: " ::
                  listed (substituted.map (fun mismatch => mismatch.code.name))) with
                quoteMismatches := substituted }
            else
              match chosen.transitionPolicy, preferred.transitionPolicy with
              | some policy, some other => do
                if (← keyOf (policyValue policy)) ≠ (← keyOf (policyValue other)) then
                  return fields .POLICY_MISMATCH [preferred.symbol, " and ", chosen.symbol,
                    " were not classified under the same transition policy"]
                else
                  return { fields .EXECUTABLE ["consented reroute to ", chosen.symbol,
                      ": SAFE, routable, and the route quote is the compared quote"] with
                    executableQuote := some comparison.alternativeQuote, transitionPolicy := some policy }
              | _, _ =>
                return fields .POLICY_MISMATCH [preferred.symbol, " and ", chosen.symbol,
                  " were not classified under the same transition policy"]
/-- The branch of an unknown state, by the reason for it. -/
def executeUnknown (input : ExecutionInput) (applied : Applied) : ExecutionDecision :=
  let result := baseResult input applied
  let label : Value := match applied.stateDecision.alternative with
    | some alternative => alternative.symbol
    | none => .undefined
  match applied.stateDecision.reasonCode with
  | .ALTERNATIVE_QUOTE_UNAVAILABLE =>
    match routeFor input.alternativeRoute applied.stateDecision.alternative with
    | some ⟨_, .AVAILABLE, _, _⟩ => result .QUOTE_UNAVAILABLE [label, " is routable but no normalized comparison exists"]
    | _ => result .ROUTE_UNAVAILABLE [label, " has no available route; no normalized comparison exists"]
  | .QUOTE_COMPARISON_MISMATCH =>
    { result .QUOTE_MISMATCH applied.stateDecision.reason with quoteAvailable := true }
  | .QUOTE_COMPARISON_STALE_STATE =>
    { result .STALE_COMPARISON applied.stateDecision.reason with quoteAvailable := true }
  | _ => result .STATE_UNKNOWN applied.stateDecision.reason
def decideExecution (input : ExecutionInput) : Attempt ExecutionDecision := do
  let base ← Decisions.decide sha256Hex input.toDecisionInput
  let applied ← applyConsent sha256Hex consents base input
  let result := baseResult input applied
  match applied.stateDecision.decision with
  | .USE_PREFERRED => executePreferred input applied
  | .USE_ALTERNATIVE =>
    -- `decide` offers a reroute only with both of these at hand; the source casts.
    match applied.stateDecision.alternative, input.comparison with
    | some chosen, some comparison => executeAlternative consents input applied chosen comparison
    | _, _ => throw (.TypeError ["Cannot read properties of null"])
  | .REQUIRES_CONSENT =>
    if applied.issues ≠ [] then
      return { result .CONSENT_INVALID ("presented consent does not authorize this reroute: " ::
          listed (applied.issues.map (fun issue => issue.code.name))) with
        quoteAvailable := true }
    else
      return { result .CONSENT_REQUIRED
        ["a disclosed cross-issuer reroute needs consent to this exact disclosure before anything can be built"] with
        quoteAvailable := true }
  | .NO_ACCEPTABLE_ROUTE =>
    return { result .ALTERNATIVE_OUTSIDE_TOLERANCE applied.stateDecision.reason with quoteAvailable := true }
  | .NO_SAFE_ROUTE => return result .STATE_UNSAFE applied.stateDecision.reason
  | .UNKNOWN_STATE => return executeUnknown input applied
end

/-- Runtime execution gate. -/
def assertExecutable (decision : ExecutionDecision) : Attempt (RepresentationSummary × QuoteIdentity) :=
  match decision.executionEligibility, decision.selectedRepresentation, decision.executableQuote with
  | .EXECUTABLE, some selected, some quote => do
    refuse_if (quote.mint ≠ selected.mint ∨ quote.state.mint ≠ selected.mint)
      (.ExecutionEligibilityError decision.executionEligibility
        ["refusing to execute: executable quote is for a different mint"])
    return (selected, quote)
  | eligibility, _, _ =>
    let reason : Message := "refusing to execute: " :: ExecutionEligibility.name eligibility :: " (" :: decision.executionReason
    throw (.ExecutionEligibilityError eligibility (reason.concat ")"))

/-! ### What an executable decision says -/

/-- What holds of the representation that a transaction may be built for, and of its quote. -/
structure Ready (input : ExecutionInput) (decision : ExecutionDecision) (representation : ResolvedRepresentationState)
    (route : RouteObservation) (routeQuote quote : QuoteIdentity) (current : EconomicState) (policy : TransitionPolicy) :
    Prop where
  selected : decision.selectedRepresentation = some (summary representation)
  safe : representation.state = some .SAFE
  source : representation.stateSource ≠ some .CONFLICT
  decoded : ∃ observation phase, representation.chainObservation = some (.decoded observation) ∧
    observation.phase = some phase
  evidence : economicStateOf representation.chainObservation = some current
  route_mint : route.mint = representation.mint
  available : route.status = .AVAILABLE
  quoted : route.quote = some routeQuote
  executable : decision.executableQuote = some quote
  mint : quote.mint = representation.mint
  underlying : quote.underlying = representation.underlying
  inputRaw : quote.inputRaw = input.inputRaw
  state : quote.state.Agrees current
  bound : decision.transitionPolicy = some policy
  classified : representation.transitionPolicy = some policy

/-- What a reroute rests on beyond that: the state of the preferred representation, the comparison, and a consent
    to it that has no issues. -/
structure Rerouted (sha256Hex : Text → Text) (consents : Consents) (input : ExecutionInput)
    (representation : ResolvedRepresentationState) (routeQuote quote : QuoteIdentity) (base : DecisionResult)
    (comparison : QuoteComparison) (consent : Nat) (record : ConsentRecord) : Prop where
  present : input.alternative = some representation
  preferredKnown : unusable input.preferred = none
  preferredUnsafe : input.preferred.state ≠ some .SAFE
  underlying : representation.underlying = input.preferred.underlying
  mint : representation.mint ≠ input.preferred.mint
  policy : input.preferred.transitionPolicy = representation.transitionPolicy
  compared : input.comparison = some comparison
  executed : quote = comparison.alternativeQuote
  routed : quote.Matches routeQuote
  decided : Decisions.decide sha256Hex input.toDecisionInput = .ok base
  presented : input.consent = some consent
  issued : consents.issued[consent]? = some record
  authorized : Consent.consentIssues sha256Hex consents consent
    ⟨base, comparison, input.reroutePolicy, input.currentSlot⟩ = .ok []
  delivers : 0 < quote.outputRaw
  /-- The exact cost is within the maximum of the policy. -/
  affordable : (10000 - input.reroutePolicy.maxAdditionalCostBps) * comparison.preferredSharesEquivalent.value ≤
    10000 * comparison.alternativeSharesEquivalent.value
  /-- And within the maximum that was accepted. -/
  accepted : (10000 - record.maxAdditionalCostBps) * comparison.preferredSharesEquivalent.value ≤
    10000 * comparison.alternativeSharesEquivalent.value

section
variable {sha256Hex : Text → Text} {consents : Consents} {input : ExecutionInput} {applied : Applied}
  {decision : ExecutionDecision}

theorem routeFor_eq_some {route : Option RouteObservation} {representation : ResolvedRepresentationState}
    {found : RouteObservation} (known : routeFor route (some representation) = some found) :
    route = some found ∧ found.mint = representation.mint := by
  unfold routeFor at known
  split at known
  · rename_i observed other same
    cases same
    split at known
    · rename_i mint
      cases known
      exact ⟨rfl, mint⟩
    · cases known
  · cases known
theorem unusable_eq_none {state : ResolvedRepresentationState} (known : unusable state = none) :
    state.stateSource ≠ some .CONFLICT := by
  intro conflict
  simp [unusable, conflict] at known
theorem policyValue_same {left right : TransitionPolicy} (same : Same (policyValue left) (policyValue right)) :
    left = right := by
  have fields := record_same ["beforeSecs", "afterSecs", "calibration", "basis"] rfl rfl (by decide) same
  simp only [List.map_cons, List.map_nil, List.forall₂_cons, same_string, same_bigint] at fields
  obtain ⟨before, after, calibration, basis, _⟩ := fields
  cases left
  cases right
  rw [TransitionPolicy.mk.injEq]
  exact ⟨before, after, Calibration.name_injective calibration, basis⟩

theorem executePreferred_executable (decided : executePreferred input applied = .ok decision)
    (executable : decision.executionEligibility = .EXECUTABLE) (safe : applied.stateDecision.preferred.state = some .SAFE)
    (known : unusable applied.stateDecision.preferred = none) :
    ∃ route quote current policy, input.preferredRoute = some route ∧ decision.stateDecision = applied.stateDecision ∧
      Ready input decision applied.stateDecision.preferred route quote quote current policy := by
  unfold executePreferred at decided
  dsimp only at decided
  split at decided
  · cases decided
    cases executable
  · rename_i current evidence
    split at decided
    · cases decided
      cases executable
    · rename_i route routed
      obtain ⟨supplied, mint⟩ := routeFor_eq_some routed
      split at decided
      · cases decided
        cases executable
      · rename_i available
        split at decided
        · cases decided
          cases executable
        · rename_i quote quoted
          split at decided
          · cases decided
            cases executable
          · rename_i trade
            split at decided
            · cases decided
              cases executable
            · rename_i agrees
              split at decided
              · cases decided
                cases executable
              · rename_i policy classified
                obtain ⟨identity, checked, made⟩ := bind_eq_ok.mp decided
                obtain ⟨_, rfl⟩ := quoteIdentityOf_eq_ok.mp checked
                cases made
                simp only [not_or, not_not] at trade
                refine ⟨route, identity, current, policy, supplied, rfl, ?_⟩
                exact {
                  selected := rfl
                  safe
                  source := unusable_eq_none known
                  decoded := decoded_of_economicStateOf evidence
                  evidence
                  route_mint := mint
                  available := not_not.mp available
                  quoted
                  executable := rfl
                  mint := trade.1
                  underlying := trade.2.1
                  inputRaw := trade.2.2
                  state := economicStateMismatches_eq_nil.mp (not_not.mp agrees)
                  bound := rfl
                  classified }
theorem comparisonBindingMismatch_eq_nil {comparison : QuoteComparison} {preferred alternative : ResolvedRepresentationState}
    {inputRaw : Int} : comparisonBindingMismatch comparison preferred alternative inputRaw = [] ↔
      comparison.underlying = preferred.underlying ∧ comparison.preferredMint = preferred.mint ∧
        comparison.alternativeMint = alternative.mint ∧ comparison.inputRaw = inputRaw := by
  simp [comparisonBindingMismatch]
theorem staleSide_eq_nil {role : String} {bound : EconomicState} {state : ResolvedRepresentationState} :
    staleSide role bound state = [] ↔ ∃ current, economicStateOf state.chainObservation = some current ∧ bound.Agrees current := by
  unfold staleSide
  cases economicStateOf state.chainObservation with
  | none => simp
  | some current => simp [economicStateMismatches_eq_nil]
theorem exceedsCostLimit_eq_none {comparison : QuoteComparison} {policy : ReroutePolicy} :
    exceedsCostLimit comparison policy = none ↔
      0 < comparison.alternativeQuote.outputRaw ∧ comparison.additionalCostBps ≤ policy.maxAdditionalCostBps := by
  unfold exceedsCostLimit
  split
  · simp_all
  · split <;> simp_all
/-- A consent is applied only to a decision that requires one, and only without issues. -/
theorem applyConsent_cases {base : DecisionResult} (made : applyConsent sha256Hex consents base input = .ok applied) :
    (applied.stateDecision = base ∧ applied.consent = none) ∨
      ∃ consent comparison, base.decision = .REQUIRES_CONSENT ∧ input.consent = some consent ∧
        input.comparison = some comparison ∧ Consent.consentIssues sha256Hex consents consent
          ⟨base, comparison, input.reroutePolicy, input.currentSlot⟩ = .ok [] ∧
        applied = ⟨{ base with decision := .USE_ALTERNATIVE, reasonCode := .CONSENT_GIVEN, reason := consentedReason consents base consent },
          some consent, []⟩ := by
  unfold applyConsent at made
  split at made
  · rename_i consent comparison required presented compared
    obtain ⟨issues, judged, made⟩ := bind_eq_ok.mp made
    split at made
    · cases made
      exact .inl ⟨rfl, rfl⟩
    · rename_i clean
      cases made
      rw [not_not] at clean
      subst clean
      exact .inr ⟨consent, comparison, required, presented, compared, judged, rfl⟩
  · cases made
    exact .inl ⟨rfl, rfl⟩
theorem executeAlternative_executable {chosen : ResolvedRepresentationState} {comparison : QuoteComparison}
    (decided : executeAlternative consents input applied chosen comparison = .ok decision)
    (executable : decision.executionEligibility = .EXECUTABLE) :
    ∃ route quote policy, input.alternativeRoute = some route ∧ route.mint = chosen.mint ∧ route.status = .AVAILABLE ∧
      route.quote = some quote ∧ comparison.alternativeQuote.Matches quote ∧ chosen.transitionPolicy = some policy ∧
      applied.stateDecision.preferred.transitionPolicy = some policy ∧
      decision = { baseResult input applied .EXECUTABLE decision.executionReason with
        selectedRepresentation := some (summary chosen)
        selectedRouteAvailable := some true
        quoteAvailable := true
        executableQuote := some comparison.alternativeQuote
        transitionPolicy := some policy } := by
  unfold executeAlternative at decided
  dsimp only at decided
  split at decided
  · cases decided
    cases executable
  · split at decided
    · cases decided
      cases executable
    · rename_i route routed
      obtain ⟨supplied, mint⟩ := routeFor_eq_some routed
      split at decided
      · cases decided
        cases executable
      · rename_i available
        split at decided
        · cases decided
          cases executable
        · rename_i quote quoted
          split at decided
          · cases decided
            cases executable
          · obtain ⟨substituted, compared, made⟩ := bind_eq_ok.mp decided
            split at made
            · cases made
              cases executable
            · rename_i same
              rw [not_not] at same
              subst same
              split at made
              · rename_i policy other classified preferredClassified
                obtain ⟨policyKey, keyed, made⟩ := bind_eq_ok.mp made
                obtain ⟨otherKey, otherKeyed, made⟩ := bind_eq_ok.mp made
                split at made
                · cases made
                  cases executable
                · rename_i sameKey
                  cases made
                  rw [not_not] at sameKey
                  subst sameKey
                  have policies := policyValue_same (same_of_keyOf keyed otherKeyed)
                  subst policies
                  exact ⟨route, quote, policy, supplied, mint, not_not.mp available, quoted,
                    matches_of_quoteMismatches compared, classified, preferredClassified, rfl⟩
              · cases made
                cases executable
/-- The two ways to an executable decision: the preferred representation, or a consent applied to an offer. -/
theorem decideExecution_executable (decided : decideExecution sha256Hex consents input = .ok decision)
    (executable : decision.executionEligibility = .EXECUTABLE) :
    ∃ base applied, Decisions.decide sha256Hex input.toDecisionInput = .ok base ∧
      applied.stateDecision.preferred = input.preferred ∧
      ((applied.stateDecision.decision = .USE_PREFERRED ∧ unusable input.preferred = none ∧
          input.preferred.state = some .SAFE ∧ executePreferred input applied = .ok decision) ∨
        ∃ comparison disclosure consent chosen, applied.stateDecision.decision = .USE_ALTERNATIVE ∧
          Offered input.toDecisionInput chosen comparison ∧ applied.stateDecision.disclosure = some disclosure ∧
          disclosure.Describes comparison input.inputRaw ∧ input.consent = some consent ∧
          Consent.consentIssues sha256Hex consents consent
            ⟨base, comparison, input.reroutePolicy, input.currentSlot⟩ = .ok [] ∧
          executeAlternative consents input applied chosen comparison = .ok decision) := by
  unfold decideExecution at decided
  obtain ⟨base, based, decided⟩ := bind_eq_ok.mp decided
  obtain ⟨applied, consented, decided⟩ := bind_eq_ok.mp decided
  obtain ⟨preferredSame, alternativeSame, outcome⟩ := decide_cases based
  refine ⟨base, applied, based, ?_⟩
  dsimp only at decided
  obtain ⟨unchanged, _⟩ | ⟨consent, comparison, required, presented, present, clean, rfl⟩ := applyConsent_cases consented
  · rw [unchanged] at decided
    rw [unchanged]
    refine ⟨preferredSame, ?_⟩
    -- Without a consent nothing but a SAFE preferred representation can be executed.
    cases outcome with
    | preferred decision known safe =>
      rw [decision] at decided
      exact .inl ⟨decision, known, safe, decided⟩
    | offered decision =>
      rw [decision] at decided
      dsimp only at decided
      split at decided <;>
      · cases decided
        cases executable
    | nothing decision =>
      rcases decision with decision | decision | decision <;> rw [decision] at decided
      · cases decided
        cases executable
      · cases decided
        cases executable
      · cases decided
        unfold executeUnknown at executable
        dsimp only at executable
        split at executable
        · split at executable <;> cases executable
        · cases executable
        · cases executable
        · cases executable
  · refine ⟨preferredSame, .inr ?_⟩
    cases outcome with
    | @offered chosen _ disclosure _ decision reasonCode offer disclosed built =>
      have sameComparison := Option.some.inj (present.symm.trans offer.compared)
      subst sameComparison
      have alternative : base.alternative = some chosen := alternativeSame.trans offer.present
      dsimp only at decided
      rw [alternative, present] at decided
      refine ⟨comparison, disclosure, consent, chosen, rfl, offer, disclosed, disclosureFor_describes built, presented,
        clean, ?_⟩
      rw [alternative]
      exact decided
    | preferred decision =>
      rw [required] at decision
      cases decision
    | nothing decision =>
      rw [required] at decision
      simp at decision
/-- The quote of a reroute is the one that was compared, and its disclosure describes that comparison. -/
theorem reroute_quote (decided : decideExecution sha256Hex consents input = .ok decision)
    (executable : decision.executionEligibility = .EXECUTABLE)
    (rerouted : decision.stateDecision.decision = .USE_ALTERNATIVE) :
    ∃ comparison disclosure, decision.comparison = some comparison ∧ decision.stateDecision.disclosure = some disclosure ∧
      disclosure.Describes comparison comparison.inputRaw ∧ decision.executableQuote = some comparison.alternativeQuote := by
  obtain ⟨base, applied, _, preferred, ⟨chosen, known, safe, ran⟩ |
      ⟨comparison, disclosure, _, _, _, offer, disclosed, describes, _, _, ran⟩⟩ :=
    decideExecution_executable decided executable
  · rw [← preferred] at known safe
    obtain ⟨_, _, _, _, _, same, _⟩ := executePreferred_executable ran executable safe known
    rw [same, chosen] at rerouted
    cases rerouted
  · obtain ⟨_, _, _, _, _, _, _, _, _, _, shape⟩ := executeAlternative_executable ran executable
    obtain ⟨_, _, _, inputBound⟩ := comparisonBindingMismatch_eq_nil.mp offer.bound
    rw [← inputBound] at describes
    refine ⟨comparison, disclosure, ?_, ?_, describes, ?_⟩
    · rw [shape]
      exact offer.compared
    · rw [shape]
      exact disclosed
    · rw [shape]
/-- What a consented reroute that is executable rests on. -/
theorem consented_executable {base : DecisionResult} {comparison : QuoteComparison} {consent : Nat}
    {chosen : ResolvedRepresentationState} (returned : comparison.Returned)
    (based : Decisions.decide sha256Hex input.toDecisionInput = .ok base)
    (offer : Offered input.toDecisionInput chosen comparison) (presented : input.consent = some consent)
    (clean : Consent.consentIssues sha256Hex consents consent
      ⟨base, comparison, input.reroutePolicy, input.currentSlot⟩ = .ok [])
    (preferred : applied.stateDecision.preferred = input.preferred)
    (decided : executeAlternative consents input applied chosen comparison = .ok decision)
    (executable : decision.executionEligibility = .EXECUTABLE) :
    ∃ route routeQuote quote current policy, Ready input decision chosen route routeQuote quote current policy ∧
      input.alternativeRoute = some route ∧ ∃ record,
        Rerouted sha256Hex consents input chosen routeQuote quote base comparison consent record := by
  have faithful := returned.faithful
  obtain ⟨route, routeQuote, policy, supplied, mint, available, quoted, same, classified, preferredClassified, shape⟩ :=
    executeAlternative_executable decided executable
  obtain ⟨underlyingBound, _, alternativeBound, inputBound⟩ := comparisonBindingMismatch_eq_nil.mp offer.bound
  obtain ⟨_, alternativeCurrent⟩ := List.append_eq_nil_iff.mp offer.current
  obtain ⟨current, evidence, agrees⟩ := staleSide_eq_nil.mp alternativeCurrent
  obtain ⟨record, disclosure, issued, _, authorizes⟩ := consentIssues_eq_nil clean
  obtain ⟨delivers, affordable⟩ := exceedsCostLimit_eq_none.mp offer.affordable
  rw [preferred] at preferredClassified
  refine ⟨route, routeQuote, comparison.alternativeQuote, current, policy, ?_, supplied, record, ?_⟩
  · exact {
      selected := by rw [shape]
      safe := offer.alternativeSafe
      source := unusable_eq_none offer.alternativeKnown
      decoded := decoded_of_economicStateOf evidence
      evidence
      route_mint := mint
      available
      quoted
      executable := by rw [shape]
      mint := faithful.alternativeMint.trans alternativeBound
      underlying := (faithful.underlying.2.trans underlyingBound).trans offer.underlying.symm
      inputRaw := faithful.inputRaw.2.trans inputBound
      state := agrees
      bound := by rw [shape]
      classified }
  · exact {
      present := offer.present
      preferredKnown := offer.preferredKnown
      preferredUnsafe := offer.preferredUnsafe
      underlying := offer.underlying
      mint := offer.mint
      policy := preferredClassified.trans classified.symm
      compared := offer.compared
      executed := rfl
      routed := same
      decided := based
      presented
      issued
      authorized := clean
      delivers
      affordable := (faithful.cost _).mp affordable
      accepted := (faithful.cost _).mp authorizes.accepted }


/-! ### A reroute is executed -/

theorem policyValue_plain (policy : TransitionPolicy) : Plain (policyValue policy) := by
  refine record_plain ["beforeSecs", "afterSecs", "calibration", "basis"] rfl (by decide) ?_
  simp only [List.map_cons, List.map_nil, List.forall_mem_cons]
  exact ⟨.bigint _, .bigint _, .string _, .string _, by simp⟩
/-- A consented reroute whose evidence, route and policies are in order is executable. -/
theorem decideExecution_reroutes {base : DecisionResult} {comparison : QuoteComparison} {consent : Nat}
    {chosen : ResolvedRepresentationState} {route : RouteObservation} {policy : TransitionPolicy} {key : Text}
    (based : Decisions.decide sha256Hex input.toDecisionInput = .ok base) (required : base.decision = .REQUIRES_CONSENT)
    (preferred : base.preferred = input.preferred) (alternative : base.alternative = some chosen)
    (compared : input.comparison = some comparison) (presented : input.consent = some consent)
    (clean : Consent.consentIssues sha256Hex consents consent
      ⟨base, comparison, input.reroutePolicy, input.currentSlot⟩ = .ok [])
    (evidence : economicStateOf chosen.chainObservation ≠ none ∧ economicStateOf input.preferred.chainObservation ≠ none)
    (routed : input.alternativeRoute = some route) (mint : route.mint = chosen.mint) (available : route.status = .AVAILABLE)
    (quoted : route.quote = some comparison.alternativeQuote) (keyed : quoteKey comparison.alternativeQuote = .ok key)
    (classified : chosen.transitionPolicy = some policy) (preferredClassified : input.preferred.transitionPolicy = some policy) :
    ∃ decision, decideExecution sha256Hex consents input = .ok decision ∧
      decision.executionEligibility = .EXECUTABLE ∧ decision.selectedRepresentation = some (summary chosen) ∧
      decision.executableQuote = some comparison.alternativeQuote ∧ decision.transitionPolicy = some policy ∧
      decision.stateDecision.decision = .USE_ALTERNATIVE ∧ decision.stateDecision.disclosure = base.disclosure ∧
      decision.comparison = some comparison ∧ decision.consent = some consent ∧
      decision.reroutePolicy = input.reroutePolicy := by
  obtain ⟨record, disclosure, issued, _, authorizes⟩ := consentIssues_eq_nil clean
  obtain ⟨policyKey, policyKeyed⟩ := keyOf_returns (policyValue_plain policy)
  have applied : applyConsent sha256Hex consents base input = .ok ⟨{ base with
      decision := .USE_ALTERNATIVE
      reasonCode := .CONSENT_GIVEN
      reason := consentedReason consents base consent }, some consent, []⟩ := by
    unfold applyConsent
    rw [required, presented, compared]
    dsimp only
    rw [clean]
    simp [pure_eq_ok]
  have affordable : (exceedsCostLimit comparison input.reroutePolicy).or (aboveAccepted consents comparison (some consent)) = none := by
    have accepted : comparison.additionalCostBps ≤ record.maxAdditionalCostBps := authorizes.accepted
    have limit : exceedsCostLimit comparison input.reroutePolicy = none := authorizes.affordable
    simp [limit, aboveAccepted, issued, accepted]
  unfold decideExecution
  rw [based, ok_bind, applied, ok_bind]
  dsimp only
  rw [alternative, compared]
  dsimp only [executeAlternative]
  rw [preferred, if_neg (not_or.mpr evidence), routed]
  dsimp only [routeFor]
  rw [if_pos mint]
  dsimp only
  rw [if_neg (not_not.mpr available), quoted]
  dsimp only
  rw [affordable]
  dsimp only
  rw [quoteMismatches_self keyed, ok_bind, if_neg (by simp), classified, preferredClassified]
  dsimp only
  rw [policyKeyed, ok_bind, ok_bind, if_neg (by simp)]
  exact ⟨_, rfl, rfl, rfl, rfl, rfl, rfl, rfl, compared, rfl, rfl⟩
end

def xMint : Text := "XsbEhLAtcf6HdfpFZ5xEMdqW8nfAvcsP5bdudRLJzJp"
def onMint : Text := "11111111111111111111111111111111"
def observedPolicy : TransitionPolicy := ⟨10, 10, .CALIBRATED, "observed"⟩
/-- A representation with a multiplier of one. -/
def observed (issuer : Issuer) (mint : Text) (state : RepresentationState) : ResolvedRepresentationState where
  underlying := "AAPL"
  issuer
  symbol := "AAPL"
  mint
  state := some state
  stateSource := some .CHAIN
  reason := "observed"
  chainObservation := some (.decoded {
    mint
    slot := none
    blockTime := none
    observedAt := none
    chainUnixTimestamp := some 0
    decimals := 0
    paused := none
    protectedState := ⟨[0, 0, 0, 0, 0, 0, 0xF0, 0x3F], [0, 0, 0, 0, 0, 0, 0xF0, 0x3F], 0⟩
    hasScheduledChange := false
    phase := some 1 })
  transitionPolicy := some observedPolicy
def quoteFor (mint : Text) : QuoteIdentity where
  underlying := "AAPL"
  inputMint := text ClientJupiter.USDC_MINT_ADDRESS.text
  mint
  inputRaw := 100
  outputRaw := 50
  minOutputRaw := some 50
  route := ⟨"fixture", "direct", []⟩
  quotedAt := none
  contextSlot := none
  state := ⟨mint, 0, "000000000000f03f", "000000000000f03f", 0, 1, none⟩
/-- Both quotes deliver fifty shares. -/
def equalComparison (key : Text) : QuoteComparison := comparisonOf (quoteFor xMint) (quoteFor onMint) ⟨50, 1⟩ ⟨50, 1⟩ key
def reroutedInput (key : Text) : ExecutionInput where
  preferred := observed .xStocks xMint .TRANSITION
  alternative := some (observed .Ondo onMint .SAFE)
  reroutePolicy := ⟨50⟩
  inputRaw := 100
  comparison := some (equalComparison key)
  preferredRoute := none
  alternativeRoute := some ⟨onMint, .AVAILABLE, some (quoteFor onMint), none⟩
  consent := some 0
  currentSlot := 1
def reroutedGrant (key : Text) (base : DecisionResult) : GrantContext := ⟨⟨base, equalComparison key, ⟨50⟩, 1⟩, 50, 100⟩

theorem quoteFor_plain (mint : Text) : Plain (quoteFor mint).toValue := by
  have zero : Plain (Numeric.toValue 0) := @Numeric.toValue_plain _ (by decide) 1 (by decide) (by decide)
  have one : Plain (Numeric.toValue 1) := @Numeric.toValue_plain _ (by decide) 1 (by decide) (by decide)
  have state : Plain (stateValue (quoteFor mint).state) := by
    refine record_plain ["mint", "decimals", "multiplierHex", "newMultiplierHex", "effectiveTimestamp", "phase", "paused"] rfl
      (by decide) ?_
    simp only [List.map_cons, List.map_nil, List.forall_mem_cons]
    exact ⟨.string _, zero, .string _, .string _, .bigint _, one, .null, by simp⟩
  have route : Plain (quoteFor mint).route.toValue := by
    refine record_plain ["source", "routeId", "legs"] rfl (by decide) ?_
    simp only [List.map_cons, List.map_nil, List.forall_mem_cons]
    exact ⟨.string _, .string _, .array (by simp [quoteFor]), by simp⟩
  refine record_plain ["underlying", "inputMint", "mint", "inputRaw", "outputRaw", "minOutputRaw", "route", "quotedAt",
    "contextSlot", "state"] rfl (by decide) ?_
  simp only [List.map_cons, List.map_nil, List.forall_mem_cons]
  exact ⟨.string _, .string _, .string _, .bigint _, .bigint _, .bigint _, route, .null, .null, state, by simp⟩
theorem quoteFor_problems (mint : Text) : quoteProblems (quoteFor mint) = [] := by
  rw [quoteProblems_eq_nil]
  simp only [quoteFor]
  decide
theorem quoteFor_key (mint : Text) : ∃ key, quoteKey (quoteFor mint) = .ok key := by
  obtain ⟨key, keyed⟩ := keyOf_returns (quoteFor_plain mint)
  exact ⟨key, quoteKey_eq_ok.mpr ⟨quoteFor_problems mint, keyed⟩⟩
theorem quoteFor_shares (mint : Text) : shares (quoteFor mint) = .ok ⟨50, 1⟩ := by
  have effective : effectiveMultiplierBytes (quoteFor mint).state = fromHex "000000000000f03f" := by
    unfold effectiveMultiplierBytes
    split <;> rfl
  have computed : (Normalize.sharesEquivalent 50 0 (fromHex "000000000000f03f")).toOption = some ⟨50, 1⟩ := by decide +kernel
  rw [shares, effective]
  simp only [quoteFor]
  cases sharesEq : Normalize.sharesEquivalent 50 0 (fromHex "000000000000f03f") with
  | error failure =>
    rw [sharesEq] at computed
    cases computed
  | ok shares =>
    rw [sharesEq] at computed
    rw [Option.some.inj computed]
theorem compareQuotes_equal : ∃ key, compareQuotes (quoteFor xMint) (quoteFor onMint) = .ok (equalComparison key) := by
  have plain : Plain (record [("preferred", (quoteFor xMint).toValue), ("alternative", (quoteFor onMint).toValue)]) := by
    refine record_plain ["preferred", "alternative"] rfl (by decide) ?_
    simp only [List.map_cons, List.map_nil, List.forall_mem_cons]
    exact ⟨quoteFor_plain xMint, quoteFor_plain onMint, by simp⟩
  obtain ⟨key, keyed⟩ := keyOf_returns plain
  refine ⟨key, compareQuotes_eq_ok.mpr ⟨⟨50, 1⟩, ⟨50, 1⟩, key, ?_, rfl⟩⟩
  exact {
    underlying := by simp only [quoteFor]
    inputMint := by simp only [quoteFor]
    inputRaw := by simp only [quoteFor]
    preferredState := rfl
    alternativeState := rfl
    preferredShares := quoteFor_shares xMint
    alternativeShares := quoteFor_shares onMint
    delivers := by decide
    preferredValid := quoteFor_problems xMint
    alternativeValid := quoteFor_problems onMint
    key := keyed }
theorem observed_current (issuer : Issuer) (mint : Text) (state : RepresentationState) :
    economicStateOf (observed issuer mint state).chainObservation = some (quoteFor mint).state := by
  have hex : toHex [0, 0, 0, 0, 0, 0, 0xF0, 0x3F] = text "000000000000f03f" := by decide
  simp only [economicStateOf, observed, quoteFor, Option.map_some, hex]
theorem quoteFor_agrees (mint : Text) : (quoteFor mint).state.Agrees (quoteFor mint).state := by
  have decimals : Numeric.value (quoteFor mint).state.decimals ≠ .nan := by
    simp only [quoteFor]
    decide
  have phase : Numeric.value (quoteFor mint).state.phase ≠ .nan := by
    simp only [quoteFor]
    decide
  exact ⟨rfl, Numeric.strictEq_self decimals, rfl, rfl, rfl, Numeric.strictEq_self phase, rfl⟩
theorem rerouted_offered (key : Text) :
    Offered (reroutedInput key).toDecisionInput (observed .Ondo onMint .SAFE) (equalComparison key) where
  preferredKnown := rfl
  preferredUnsafe := by simp [reroutedInput, observed]
  present := rfl
  compared := rfl
  underlying := rfl
  mint := by
    simp only [reroutedInput, observed]
    decide
  alternativeKnown := rfl
  alternativeSafe := rfl
  bound := by simp [comparisonBindingMismatch, equalComparison, comparisonOf, reroutedInput, quoteFor, observed]
  current := by
    simp only [comparisonStateMismatch, List.append_eq_nil_iff, staleSide_eq_nil]
    exact ⟨⟨_, observed_current _ _ _, quoteFor_agrees _⟩, ⟨_, observed_current _ _ _, quoteFor_agrees _⟩⟩
  affordable := by
    simp only [exceedsCostLimit, equalComparison, comparisonOf, quoteFor, reroutedInput]
    decide
/-- The calls that lead to the reroute, and what they returned. -/
structure ReroutedTrade (sha256Hex : Text → Text) (key : Text) (base : DecisionResult) (disclosure : RerouteDisclosure)
    (record : ConsentRecord) (decision : ExecutionDecision) : Prop where
  compared : compareQuotes (quoteFor xMint) (quoteFor onMint) = .ok (equalComparison key)
  granted : grantConsent sha256Hex .empty "nonce" (reroutedGrant key base) = (.ok 0, ⟨[record], []⟩)
  authorizes : Authorizes sha256Hex record disclosure (reroutedGrant key base).toConsentContext
  decided : decideExecution sha256Hex ⟨[record], []⟩ (reroutedInput key) = .ok decision
  executable : decision.executionEligibility = .EXECUTABLE
  selected : decision.selectedRepresentation = some (summary (observed .Ondo onMint .SAFE))
  quote : decision.executableQuote = some (quoteFor onMint)
  policy : decision.transitionPolicy = some observedPolicy
  rerouted : decision.stateDecision.decision = .USE_ALTERNATIVE
  disclosed : decision.stateDecision.disclosure = some disclosure
  comparison : decision.comparison = some (equalComparison key)
  consent : decision.consent = some 0
  reroutePolicy : decision.reroutePolicy = ⟨50⟩
theorem reroutedTrade (sha256Hex : Text → Text) :
    ∃ key base disclosure record decision, ReroutedTrade sha256Hex key base disclosure record decision := by
  obtain ⟨key, compared⟩ := compareQuotes_equal
  obtain ⟨preferredKey, preferred⟩ := quoteFor_key xMint
  obtain ⟨alternativeKey, alternative⟩ := quoteFor_key onMint
  obtain ⟨base, disclosure, based, offered, preferredSame, alternativeSame, disclosed, disclosedKey, digested⟩ :=
    decide_offers sha256Hex (rerouted_offered key) (show (0 : Int) ≤ 50 by decide) one_ne_zero one_ne_zero
  obtain ⟨record, authorizes, _, granted⟩ := @grantConsent_returns sha256Hex .empty "nonce" (reroutedGrant key base) disclosure
    preferredKey alternativeKey (show (0 : Int) ≤ 50 by decide) (show (0 : Int) < 100 by decide) offered disclosed disclosedKey digested preferred alternative
    ((exceedsCostLimit_eq_none.mp (rerouted_offered key).affordable).2) (rerouted_offered key).affordable (by simp [Consents.empty])
  have clean := @consentIssues_of_authorizes sha256Hex ⟨[record], []⟩ 0 _ record disclosure rfl (by simp) authorizes
  have evidence (issuer mint state) : economicStateOf (observed issuer mint state).chainObservation ≠ none := by
    rw [observed_current]
    exact Option.some_ne_none _
  obtain ⟨decision, decided, executable, selected, quote, policy, rerouted, sameDisclosure, comparison, consent,
    reroutePolicy⟩ := decideExecution_reroutes based offered preferredSame alternativeSame rfl rfl clean
      ⟨evidence _ _ _, evidence _ _ _⟩ rfl rfl rfl rfl alternative rfl rfl
  exact ⟨key, base, disclosure, record, decision, compared, granted, authorizes, decided, executable, selected, quote, policy,
    rerouted, sameDisclosure.trans disclosed, comparison, consent, reroutePolicy⟩

section
variable {sha256Hex : Text → Text} {consents : Consents} {input : ExecutionInput} {decision : ExecutionDecision}

/-- An executable decision passed every check that binds it. -/
theorem executable_sound (compared : ∀ comparison, input.comparison = some comparison → comparison.Returned)
    (decided : decideExecution sha256Hex consents input = .ok decision)
    (executable : decision.executionEligibility = .EXECUTABLE) :
    ∃ representation route routeQuote quote current policy,
      Ready input decision representation route routeQuote quote current policy ∧
      ((representation = input.preferred ∧ input.preferredRoute = some route ∧ quote = routeQuote) ∨
        (input.alternativeRoute = some route ∧ ∃ base comparison consent record,
          Rerouted sha256Hex consents input representation routeQuote quote base comparison consent record)) := by
  obtain ⟨base, applied, based, preferred, ⟨_, known, safe, ran⟩ |
      ⟨comparison, _, consent, chosen, _, offer, _, _, presented, clean, ran⟩⟩ :=
    decideExecution_executable decided executable
  · rw [← preferred] at known safe
    obtain ⟨route, quote, current, policy, supplied, _, ready⟩ := executePreferred_executable ran executable safe known
    rw [preferred] at ready
    exact ⟨_, route, quote, quote, current, policy, ready, .inl ⟨rfl, supplied, rfl⟩⟩
  · obtain ⟨route, routeQuote, quote, current, policy, ready, supplied, record, rerouted⟩ :=
      consented_executable (compared comparison offer.compared) based offer presented clean preferred ran executable
    exact ⟨_, route, routeQuote, quote, current, policy, ready, .inr ⟨supplied, base, comparison, consent, record, rerouted⟩⟩
end
theorem executable_sound_reroute : ∃ key record decision, (equalComparison key).Returned ∧
    decideExecution id ⟨[record], []⟩ (reroutedInput key) = .ok decision ∧ decision.executionEligibility = .EXECUTABLE ∧
    ∃ representation route routeQuote quote current policy,
      Ready (reroutedInput key) decision representation route routeQuote quote current policy ∧
      ((representation = (reroutedInput key).preferred ∧ (reroutedInput key).preferredRoute = some route ∧ quote = routeQuote) ∨
        ((reroutedInput key).alternativeRoute = some route ∧ ∃ base comparison consent record',
          Rerouted id ⟨[record], []⟩ (reroutedInput key) representation routeQuote quote base comparison consent record')) := by
  obtain ⟨key, _, _, record, decision, trade⟩ := reroutedTrade id
  have returned : (equalComparison key).Returned := ⟨_, _, trade.compared⟩
  refine ⟨key, record, decision, returned, trade.decided, trade.executable, ?_⟩
  refine executable_sound ?_ trade.decided trade.executable
  intro comparison compared
  cases compared
  exact returned

end EquityGuard.Execution
