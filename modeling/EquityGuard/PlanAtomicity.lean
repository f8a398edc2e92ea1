import EquityGuard.PlanContents

/-!
Whether `createExecutionPlan` leaves the sets as they were when it throws: it consumes
a consent before the content of the plan is shown to have a digest.
-/
namespace EquityGuard.PlanAtomicity
open EquityGuard.Canonical EquityGuard.Compare EquityGuard.Consent EquityGuard.Decisions EquityGuard.Errors EquityGuard.Execution
open EquityGuard.Failures EquityGuard.JsonText EquityGuard.JsValue EquityGuard.PlanContents EquityGuard.Plans
open EquityGuard.Quotes EquityGuard.Records

/-- The consents that a returned plan consumed: the one of its reroute, or none. -/
def ConsumedExactly (decision : ExecutionDecision) (before after : Consents) : Prop :=
  if decision.stateDecision.decision = .USE_ALTERNATIVE then
    ∃ consent, decision.consent = some consent ∧ consent ∉ before.consumed ∧
      after = { before with consumed := consent :: before.consumed }
  else after = before
/-- Nothing changed if it threw; if it returned, exactly one plan was added and exactly its consent consumed. -/
def Atomic (registry : Registry) (decision : ExecutionDecision) : Attempt Nat × Registry → Prop
  | (.error _, after) => after = registry
  | (.ok plan, after) => plan = registry.issuedPlans.length ∧ after.consumedPlans = registry.consumedPlans ∧
      (∃ issued, after.issuedPlans = registry.issuedPlans ++ [issued]) ∧
      ConsumedExactly decision registry.consents after.consents
/-- A reroute that passes every check, with a consent that authorizes it now, and a Jupiter binding whose
    slippage is the zero with a sign. -/
def SignedReroute (realm : Realm) (sha256Hex : Text → Text) (registry : Registry) (decision : ExecutionDecision)
    (environment options : Value) : Prop :=
  ∃ request reroute, Requested realm decision environment options request ∧ request.reroute = some reroute ∧
    Consent.consentIssues sha256Hex registry.consents reroute.consent
      (consentContext decision reroute.comparison request.currentSlot) = .ok [] ∧
    SignedSlippage (options.get "downstream")

section
variable {realm : Realm} {sha256Hex : Text → Text} {registry : Registry} {consents : Consents} {input : ExecutionInput}
  {decision : ExecutionDecision} {environment options : Value} {request : PlanRequest}

theorem assertExecutable_eq_ok {selected : RepresentationSummary} {quote : QuoteIdentity}
    (executable : assertExecutable decision = .ok (selected, quote)) : decision.executionEligibility = .EXECUTABLE ∧
      decision.selectedRepresentation = some selected ∧ decision.executableQuote = some quote ∧ quote.mint = selected.mint := by
  unfold assertExecutable at executable
  split at executable
  · rename_i eligibility selectedEq quoteEq
    obtain ⟨sameMint, executable⟩ := then_eq_ok.mp executable
    cases executable
    rw [refuse_if_eq_ok] at sameMint
    exact ⟨eligibility, selectedEq, quoteEq, not_not.mp (not_or.mp sameMint).1⟩
  · cases executable
/-- In a reroute that gets past its consent, the quote has a key: the consent was compared with it. -/
theorem reroute_quoteKey {reroute : Reroute} (decided : decideExecution sha256Hex consents input = .ok decision)
    (requested : Requested realm decision environment options request) (rerouted : request.reroute = some reroute)
    (clean : Consent.consentIssues sha256Hex registry.consents reroute.consent
      (consentContext decision reroute.comparison request.currentSlot) = .ok []) :
    ∃ key, quoteKey request.quote = .ok key := by
  have rerouteOf := requested.reroute
  rw [rerouted] at rerouteOf
  obtain ⟨eligibility, _, quoteEq, _⟩ := assertExecutable_eq_ok requested.executable
  obtain ⟨comparison, _, compared, _, _, executed⟩ := reroute_quote decided eligibility rerouteOf.1
  obtain ⟨record, disclosure, _, _, authorizes⟩ := consentIssues_eq_nil clean
  have same := Option.some.inj (compared.symm.trans rerouteOf.2.1)
  have quote := Option.some.inj (quoteEq.symm.trans executed)
  refine ⟨record.alternativeQuoteKey, ?_⟩
  rw [quote, same]
  exact authorizes.alternativeQuoteKey
/-- A plan that is returned consumed exactly what it says. -/
theorem consumedExactly {after : Consents} (requested : Requested realm decision environment options request)
    (consumed : consumeFor sha256Hex registry.consents decision request = .ok after) :
    ConsumedExactly decision registry.consents after := by
  have rerouteOf := requested.reroute
  unfold ConsumedExactly
  obtain ⟨kept, rfl⟩ | ⟨reroute, rerouted, clean, rfl⟩ := consumeFor_eq_ok consumed
  · rw [kept] at rerouteOf
    rw [if_neg rerouteOf]
  · rw [rerouted] at rerouteOf
    rw [if_pos rerouteOf.1]
    obtain ⟨_, _, _, unused, _⟩ := consentIssues_eq_nil clean
    exact ⟨reroute.consent, rerouteOf.2.2.2.2, unused, rfl⟩
end

/-! ### A reroute through Jupiter -/

def strings : Realm where
  toText
    | .string shown => .ok shown
    | _ => .ok "[object Object]"
  propertyKey _ := .ok none
  identical _ _ := false
  isMember _ _ := false
/-- The purchase that the sample quote is for, at a slippage. -/
def buyBinding (slippageBps : Value) : Value := record [
  ("adapterKind", .string BUY),
  ("jupiterProgramId", text ClientJupiter.JUPITER_V6_PROGRAM_ADDRESS.text),
  ("routeDiscriminatorHex", text ClientJupiter.ROUTE_V2_DISCRIMINATOR_HEX),
  ("protectedMintRole", "DESTINATION"),
  ("protectedMint", .string onMint),
  ("counterMint", text ClientJupiter.USDC_MINT_ADDRESS.text),
  ("authority", .string onMint),
  ("sourceMint", text ClientJupiter.USDC_MINT_ADDRESS.text),
  ("destinationMint", .string onMint),
  ("sourceTokenAccount", .string onMint),
  ("destinationTokenAccount", .string onMint),
  ("inAmountRaw", .bigint 100),
  ("quotedOutRaw", .bigint 50),
  ("slippageBps", slippageBps),
  ("minOutRaw", .bigint 50),
  ("suffixCommitmentHex", .string (List.replicate 64 48)),
  ("suffixInstructionCount", .number 3)]
def planOptions (downstream : Value) : Value := record [
  ("currentSlot", .bigint 1),
  ("freshness", record [("validForSlots", .bigint 10)]),
  ("downstream", downstream)]
theorem planOptions_downstream (downstream : Value) : (planOptions downstream).get "downstream" = downstream := by
  have currentSlot : (text "downstream" == text "currentSlot") = false := by decide
  have freshness : (text "downstream" == text "freshness") = false := by decide
  simp [planOptions, record, Value.get, Value.fields, List.lookup_cons, currentSlot, freshness]
def reroutedRequest (key : Text) (disclosure : RerouteDisclosure) (downstream : Value) : PlanRequest where
  selected := summary (observed .Ondo onMint .SAFE)
  quote := quoteFor onMint
  policy := observedPolicy
  currentSlot := 1
  validForSlots := 10
  downstream
  reroute := some ⟨equalComparison key, disclosure, 0⟩
def signedBinding : Value := buyBinding .negativeZero

theorem signedBinding_wellFormed : downstreamProblems strings signedBinding = .ok [] := by
  have evaluated : (downstreamProblems strings signedBinding).toOption.any List.isEmpty = true := by decide
  cases judged : downstreamProblems strings signedBinding with
  | error failure =>
    rw [judged] at evaluated
    cases evaluated
  | ok problems =>
    rw [judged] at evaluated
    rw [List.isEmpty_iff.mp evaluated]
theorem signedBinding_forQuote : jupiterQuoteMismatches signedBinding (quoteFor onMint) onMint = [] :=
  List.isEmpty_iff.mp (by decide)
theorem signedBinding_signed : SignedSlippage signedBinding := ⟨by decide, rfl⟩

section
variable {sha256Hex : Text → Text} {key : Text} {base : DecisionResult} {disclosure : RerouteDisclosure}
  {record : ConsentRecord} {decision : ExecutionDecision}

theorem rerouted_requested {downstream : Value} (trade : ReroutedTrade sha256Hex key base disclosure record decision)
    (wellFormed : downstreamProblems strings downstream = .ok [])
    (forQuote : jupiterQuoteMismatches downstream (quoteFor onMint) onMint = []) :
    Requested strings decision "DEVNET_EXECUTION" (planOptions downstream) (reroutedRequest key disclosure downstream) where
  environment := by decide
  validForSlots := rfl
  positive := show (0 : Int) < 10 by decide
  currentSlot := rfl
  downstream := (planOptions_downstream downstream).symm
  wellFormed := by
    rw [planOptions_downstream]
    exact wellFormed
  executable := by
    unfold assertExecutable
    rw [trade.executable, trade.selected, trade.quote]
    rfl
  valid := quoteFor_problems onMint
  forQuote := by
    rw [planOptions_downstream]
    exact forQuote
  policy := trade.policy
  reroute := ⟨trade.rerouted, trade.comparison, trade.disclosed, trade.authorizes.comparisonKey.2, trade.consent⟩
theorem rerouted_authorized (trade : ReroutedTrade sha256Hex key base disclosure record decision) :
    Consent.consentIssues sha256Hex ⟨[record], []⟩ 0 (consentContext decision (equalComparison key) 1) = .ok [] := by
  have authorizes := trade.authorizes
  refine @consentIssues_of_authorizes sha256Hex ⟨[record], []⟩ 0 _ record disclosure rfl (by simp) ?_
  have affordable : exceedsCostLimit (equalComparison key) decision.reroutePolicy = none := by
    rw [trade.reroutePolicy]
    exact authorizes.affordable
  exact ⟨authorizes.fresh, rfl, trade.disclosed, authorizes.comparisonKey, authorizes.disclosureDigest, authorizes.underlying,
    authorizes.preferredMint, authorizes.alternativeMint, authorizes.inputRaw, authorizes.preferredQuoteKey,
    authorizes.alternativeQuoteKey, authorizes.additionalCostBps, authorizes.accepted, affordable⟩
theorem rerouted_consumed (trade : ReroutedTrade sha256Hex key base disclosure record decision) (downstream : Value) :
    consumeFor sha256Hex ⟨[record], []⟩ decision (reroutedRequest key disclosure downstream) = .ok ⟨[record], [0]⟩ := by
  simp [consumeFor, reroutedRequest, consumeConsent, rerouted_authorized trade, pure_eq_ok]
end

section
variable {realm : Realm} {sha256Hex : Text → Text} {registry : Registry} {consents : Consents} {input : ExecutionInput}
  {decision : ExecutionDecision} {environment options : Value}

/-- `createExecutionPlan` is atomic on every decision of `decideExecution`, except where a reroute with a signed zero
    for a slippage has its consent consumed and then gets no plan. -/
theorem createExecutionPlan_atomic_iff (decided : decideExecution sha256Hex consents input = .ok decision) :
    Atomic registry decision (createExecutionPlan realm sha256Hex registry decision environment options) ↔
      ¬ SignedReroute realm sha256Hex registry decision environment options := by
  unfold createExecutionPlan
  cases requestedEq : planRequest realm decision environment options with
  | error failure =>
    refine iff_of_true rfl ?_
    rintro ⟨request, reroute, requested, _⟩
    rw [planRequest_eq_ok.mpr requested] at requestedEq
    cases requestedEq
  | ok request =>
    have requested := planRequest_eq_ok.mp requestedEq
    dsimp only
    cases consumedEq : consumeFor sha256Hex registry.consents decision request with
    | error failure =>
      refine iff_of_true rfl ?_
      rintro ⟨other, reroute, otherRequested, rerouted, clean, _⟩
      cases (planRequest_eq_ok.mpr otherRequested).symm.trans requestedEq
      rw [consumeFor, rerouted] at consumedEq
      simp [consumeConsent, clean, pure_eq_ok] at consumedEq
    | ok after =>
      dsimp only
      cases planEq : planOf sha256Hex after decision request with
      | ok plan =>
        refine iff_of_true ⟨rfl, rfl, ⟨plan, rfl⟩, consumedExactly requested consumedEq⟩ ?_
        rintro ⟨other, reroute, otherRequested, rerouted, clean, signed⟩
        cases (planRequest_eq_ok.mpr otherRequested).symm.trans requestedEq
        rw [← requested.downstream] at signed
        obtain ⟨failure, failed⟩ := @planOf_signed sha256Hex after decision request signed
        rw [failed] at planEq
        cases planEq
      | error failure =>
        -- A plan failed after its consent was consumed, if it has one.
        obtain ⟨kept, rfl⟩ | ⟨reroute, rerouted, clean, rfl⟩ := consumeFor_eq_ok consumedEq
        · refine iff_of_true rfl ?_
          rintro ⟨other, reroute, otherRequested, rerouted, _⟩
          cases (planRequest_eq_ok.mpr otherRequested).symm.trans requestedEq
          rw [kept] at rerouted
          cases rerouted
        · refine iff_of_false ?_ ?_
          · intro unchanged
            have lengths := congrArg (fun registry : Registry => registry.consents.consumed.length) unchanged
            simp at lengths
          · intro unsigned
            obtain ⟨key, keyed⟩ := reroute_quoteKey decided requested rerouted clean
            have plain : Plain (canonicalDownstream request.downstream) := by
              rw [requested.downstream]
              refine canonicalDownstream_plain requested.wellFormed requested.forQuote ?_
              exact fun signed => unsigned ⟨request, reroute, requested, rerouted, clean, signed⟩
            obtain ⟨plan, made⟩ := @planOf_returns sha256Hex
              { registry.consents with consumed := reroute.consent :: registry.consents.consumed } decision request key keyed plain
            rw [made] at planEq
            cases planEq
end
theorem createExecutionPlan_atomic_iff_unsigned : ∃ key record decision,
    decideExecution id ⟨[record], []⟩ (reroutedInput key) = .ok decision ∧
    Atomic ⟨⟨[record], []⟩, [], []⟩ decision (createExecutionPlan strings id ⟨⟨[record], []⟩, [], []⟩ decision
      "DEVNET_EXECUTION" (planOptions (buyBinding (.number 0)))) := by
  obtain ⟨key, _, _, record, decision, trade⟩ := reroutedTrade id
  have atomic := @createExecutionPlan_atomic_iff strings id ⟨⟨[record], []⟩, [], []⟩ _ _ decision "DEVNET_EXECUTION"
    (planOptions (buyBinding (.number 0))) trade.decided
  refine ⟨key, record, decision, trade.decided, ?_⟩
  rw [atomic]
  rintro ⟨_, _, _, _, _, _, signed⟩
  have unsigned : (buyBinding (.number 0)).get "slippageBps" = .number 0 := rfl
  rw [planOptions_downstream, unsigned] at signed
  cases signed
/-- The consent of a reroute is consumed, and no plan is made. -/
theorem createExecutionPlan_loses_consent : ∃ key record decision failure,
    (equalComparison key).Returned ∧ decideExecution id ⟨[record], []⟩ (reroutedInput key) = .ok decision ∧
    createExecutionPlan strings id ⟨⟨[record], []⟩, [], []⟩ decision "DEVNET_EXECUTION" (planOptions signedBinding) =
      (.error failure, ⟨⟨[record], [0]⟩, [], []⟩) ∧
    ¬ Atomic ⟨⟨[record], []⟩, [], []⟩ decision
      (createExecutionPlan strings id ⟨⟨[record], []⟩, [], []⟩ decision "DEVNET_EXECUTION" (planOptions signedBinding)) := by
  obtain ⟨key, _, disclosure, record, decision, trade⟩ := reroutedTrade id
  have requested := rerouted_requested trade signedBinding_wellFormed signedBinding_forQuote
  obtain ⟨failure, failed⟩ := @planOf_signed id ⟨[record], [0]⟩ decision (reroutedRequest key disclosure signedBinding)
    signedBinding_signed
  have ran := @createExecutionPlan_failed strings id _ _ _ _ ⟨⟨[record], []⟩, [], []⟩ _ _ requested
    (rerouted_consumed trade signedBinding) failed
  refine ⟨key, record, decision, failure, ⟨_, _, trade.compared⟩, trade.decided, ran, ?_⟩
  rw [ran]
  intro unchanged
  have lengths := congrArg (fun registry : Registry => registry.consents.consumed.length) unchanged
  simp at lengths

end EquityGuard.PlanAtomicity
