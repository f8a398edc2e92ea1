import EquityGuard.PlanAtomicity
import EquityGuard.Runs

/-!
Whole runs of the consent and plan protocol: calls in any order, with any arguments, on
objects that were issued, copied or made by hand.
-/
namespace EquityGuard.PlanRuns
open EquityGuard.Canonical EquityGuard.Compare EquityGuard.Consent EquityGuard.Decisions EquityGuard.Errors EquityGuard.Execution
open EquityGuard.Failures EquityGuard.JsonText EquityGuard.JsValue EquityGuard.PlanAtomicity EquityGuard.PlanContents
open EquityGuard.Plans EquityGuard.Quotes EquityGuard.Records EquityGuard.Runs

/-- A call with its arguments. A run issues finitely many objects, so that there are always numbers left
    for copies and for what was made by hand; the nonce of a grant is what the generator returned. -/
inductive Call where
  | grantConsent (nonce : Text) (context : GrantContext)
  | consumeConsent (consent : Nat) (context : ConsentContext)
  | decideExecution (input : ExecutionInput)
  | createExecutionPlan (decision : ExecutionDecision) (environment options : Value)
  | verifyExecutionPlan (plan : Nat) (presented : Presented)
  | consumeExecutionPlan (plan : Nat) (presented : Presented)
inductive Outcome where
  | threw (failure : Failure)
  | done
  | consent (consent : Nat)
  | decision (decision : ExecutionDecision)
  | plan (plan : Nat)
structure Event where
  call : Call
  outcome : Outcome
/-- The sets of the modules, and the decisions that were returned. -/
structure World where
  registry : Registry
  decisions : List ExecutionDecision

def World.withConsents (world : World) (consents : Consents) : World :=
  { world with registry := { world.registry with consents } }
def outcomeOf {α : Type} (returned : α → Outcome) : Attempt α → Outcome
  | .ok value => returned value
  | .error failure => .threw failure

section
variable (realm : Realm) (sha256Hex : Text → Text)

def perform (world : World) : Call → Outcome × World
  | .grantConsent nonce context =>
    let (granted, consents) := Consent.grantConsent sha256Hex world.registry.consents nonce context
    (outcomeOf .consent granted, world.withConsents consents)
  | .consumeConsent consent context =>
    match Consent.consumeConsent sha256Hex world.registry.consents consent context with
    | .error failure => (.threw failure, world)
    | .ok consents => (.done, world.withConsents consents)
  | .decideExecution input =>
    match Execution.decideExecution sha256Hex world.registry.consents input with
    | .error failure => (.threw failure, world)
    | .ok decision => (.decision decision, { world with decisions := decision :: world.decisions })
  | .createExecutionPlan decision environment options =>
    let (created, registry) := Plans.createExecutionPlan realm sha256Hex world.registry decision environment options
    (outcomeOf .plan created, { world with registry })
  | .verifyExecutionPlan plan presented =>
    (outcomeOf (fun _ => .done) (Plans.verifyExecutionPlan realm sha256Hex world.registry plan presented), world)
  | .consumeExecutionPlan plan presented =>
    match Plans.consumeExecutionPlan realm sha256Hex world.registry plan presented with
    | .error failure => (.threw failure, world)
    | .ok registry => (.done, { world with registry })
/-- Plans are asked for on decisions that were returned; nothing else is asked of a call. -/
def Allowed (world : World) : Call → Prop
  | .createExecutionPlan decision _ _ => decision ∈ world.decisions
  | _ => True
def Initial (world : World) : Prop := world = ⟨.empty, []⟩
def Step (world : World) (event : Event) (after : World) : Prop :=
  Allowed world event.call ∧ perform realm sha256Hex world event.call = (event.outcome, after)
end

/-- The consent that a returned plan was made with. -/
def Event.backs : Event → Option Nat
  | ⟨.createExecutionPlan decision _ _, .plan _⟩ =>
    if decision.stateDecision.decision = .USE_ALTERNATIVE then decision.consent else none
  | _ => none
/-- The plan that was returned. -/
def Event.issues : Event → Option Nat
  | ⟨.createExecutionPlan _ _ _, .plan plan⟩ => some plan
  | _ => none
/-- The plan that was consumed. -/
def Event.consumes : Event → Option Nat
  | ⟨.consumeExecutionPlan plan _, .done⟩ => some plan
  | _ => none

/-! ### What a call can do -/

/-- Every way a call changes the sets, and that it otherwise leaves them. -/
inductive Took (realm : Realm) (sha256Hex : Text → Text) (world : World) : Event → World → Prop where
  | granted {nonce : Text} {context : GrantContext} {record : ConsentRecord} (made : recordFor nonce context = .ok record) :
    Took realm sha256Hex world ⟨.grantConsent nonce context, .consent world.registry.consents.issued.length⟩
      (world.withConsents { world.registry.consents with issued := world.registry.consents.issued ++ [record] })
  | refused {nonce : Text} {context : GrantContext} (record : ConsentRecord) (failure : Failure) :
    Took realm sha256Hex world ⟨.grantConsent nonce context, .threw failure⟩ (world.withConsents {
      issued := world.registry.consents.issued ++ [record]
      consumed := world.registry.consents.issued.length :: world.registry.consents.consumed })
  | usedConsent {consent : Nat} {context : ConsentContext} : Took realm sha256Hex world ⟨.consumeConsent consent context, .done⟩
      (world.withConsents { world.registry.consents with consumed := consent :: world.registry.consents.consumed })
  | decided {input : ExecutionInput} {decision : ExecutionDecision}
      (returned : Execution.decideExecution sha256Hex world.registry.consents input = .ok decision) :
    Took realm sha256Hex world ⟨.decideExecution input, .decision decision⟩
      { world with decisions := decision :: world.decisions }
  | planned {decision : ExecutionDecision} {environment options : Value} {request : PlanRequest} {consents : Consents}
      {plan : ExecutionPlan} (requested : Requested realm decision environment options request)
      (consumed : consumeFor sha256Hex world.registry.consents decision request = .ok consents)
      (made : planOf sha256Hex consents decision request = .ok plan) :
    Took realm sha256Hex world
      ⟨.createExecutionPlan decision environment options, .plan world.registry.issuedPlans.length⟩
      { world with registry := { world.registry with consents, issuedPlans := world.registry.issuedPlans ++ [plan] } }
  | lost {decision : ExecutionDecision} {environment options : Value} (failure : Failure) (consent : Nat) :
    Took realm sha256Hex world ⟨.createExecutionPlan decision environment options, .threw failure⟩
      (world.withConsents { world.registry.consents with consumed := consent :: world.registry.consents.consumed })
  | usedPlan {plan : Nat} {presented : Presented} {issued : ExecutionPlan}
      (found : world.registry.issuedPlans[plan]? = some issued) (unused : plan ∉ world.registry.consumedPlans) :
    Took realm sha256Hex world ⟨.consumeExecutionPlan plan presented, .done⟩
      { world with registry := { world.registry with consumedPlans := plan :: world.registry.consumedPlans } }
  | verified {plan : Nat} {presented : Presented} : Took realm sha256Hex world ⟨.verifyExecutionPlan plan presented, .done⟩ world
  | threw (call : Call) (failure : Failure) : Took realm sha256Hex world ⟨call, .threw failure⟩ world

section
variable {realm : Realm} {sha256Hex : Text → Text} {world after : World} {event : Event} {events : List Event}

theorem consumeExecutionPlan_eq_ok {registry after : Registry} {plan : Nat} {presented : Presented}
    (consumed : Plans.consumeExecutionPlan realm sha256Hex registry plan presented = .ok after) :
    ∃ issued, registry.issuedPlans[plan]? = some issued ∧ plan ∉ registry.consumedPlans ∧
      after = { registry with consumedPlans := plan :: registry.consumedPlans } := by
  unfold Plans.consumeExecutionPlan Plans.verifyExecutionPlan at consumed
  obtain ⟨verified, consumed⟩ := then_eq_ok.mp consumed
  cases consumed
  split at verified
  · cases verified
  · rename_i issued found
    obtain ⟨unused, _⟩ := then_eq_ok.mp verified
    exact ⟨issued, found, refuse_if_eq_ok.mp unused, rfl⟩
theorem Step.took (step : Step realm sha256Hex world event after) : Took realm sha256Hex world event after := by
  obtain ⟨call, outcome⟩ := event
  obtain ⟨_, performed⟩ := step
  dsimp only at performed
  cases call with
  | grantConsent nonce context =>
    rw [perform] at performed
    obtain ⟨failure, granted⟩ | ⟨record, made, granted⟩ | ⟨record, failure, granted⟩ :=
      grantConsent_cases sha256Hex world.registry.consents nonce context
    all_goals
      rw [granted] at performed
      cases performed
    · exact .threw _ failure
    · exact .granted made
    · exact .refused record failure
  | consumeConsent consent context =>
    rw [perform] at performed
    split at performed
    · cases performed
      exact .threw _ _
    · rename_i consents consumed
      cases performed
      obtain ⟨_, rfl⟩ := consumeConsent_eq_ok consumed
      exact .usedConsent
  | decideExecution input =>
    rw [perform] at performed
    split at performed
    · cases performed
      exact .threw _ _
    · rename_i decision returned
      cases performed
      exact .decided returned
  | createExecutionPlan decision environment options =>
    rw [perform] at performed
    obtain ⟨failure, consents, created, kept | ⟨consent, used⟩⟩ | ⟨request, consents, plan, requested, consumed, made, created⟩ :=
      createExecutionPlan_cases realm sha256Hex world.registry decision environment options
    all_goals
      rw [created] at performed
      cases performed
    · subst kept
      exact .threw _ failure
    · subst used
      exact .lost failure consent
    · exact .planned requested consumed made
  | verifyExecutionPlan plan presented =>
    rw [perform] at performed
    cases verified : Plans.verifyExecutionPlan realm sha256Hex world.registry plan presented with
    | error failure =>
      rw [verified] at performed
      cases performed
      exact .threw _ failure
    | ok =>
      rw [verified] at performed
      cases performed
      exact .verified
  | consumeExecutionPlan plan presented =>
    rw [perform] at performed
    split at performed
    · cases performed
      exact .threw _ _
    · rename_i registry consumed
      cases performed
      obtain ⟨issued, found, unused, rfl⟩ := consumeExecutionPlan_eq_ok consumed
      exact .usedPlan found unused

/-! ### What a run keeps -/

/-- Sets after a plan was asked for: nothing is issued, and at most one consent more is consumed. -/
theorem consumeFor_sets {consents before : Consents} {decision : ExecutionDecision} {request : PlanRequest}
    (consumed : consumeFor sha256Hex before decision request = .ok consents) :
    consents.issued = before.issued ∧ ∀ consent ∈ before.consumed, consent ∈ consents.consumed := by
  obtain ⟨_, rfl⟩ | ⟨reroute, _, _, rfl⟩ := consumeFor_eq_ok consumed
  · exact ⟨rfl, fun _ used => used⟩
  · exact ⟨rfl, fun _ used => List.mem_cons_of_mem _ used⟩
/-- A reroute that was planned had a consent that authorizes it at that slot, and consumed it. -/
theorem reroute_consented {consents before : Consents} {decision : ExecutionDecision} {environment options : Value}
    {request : PlanRequest} (requested : Requested realm decision environment options request)
    (consumed : consumeFor sha256Hex before decision request = .ok consents)
    (rerouted : decision.stateDecision.decision = .USE_ALTERNATIVE) :
    ∃ reroute record, request.reroute = some reroute ∧ RerouteOf decision (some reroute) ∧
      before.issued[reroute.consent]? = some record ∧ reroute.consent ∉ before.consumed ∧
      Authorizes sha256Hex record reroute.disclosure (consentContext decision reroute.comparison request.currentSlot) ∧
      consents = { before with consumed := reroute.consent :: before.consumed } := by
  have rerouteOf := requested.reroute
  obtain ⟨kept, _⟩ | ⟨reroute, isReroute, clean, used⟩ := consumeFor_eq_ok consumed
  · rw [kept] at rerouteOf
    exact absurd rerouted rerouteOf
  · rw [isReroute] at rerouteOf
    obtain ⟨record, disclosure, issued, unused, authorizes⟩ := consentIssues_eq_nil clean
    have same : some disclosure = some reroute.disclosure := authorizes.disclosed.symm.trans rerouteOf.2.2.1
    cases same
    exact ⟨reroute, record, isReroute, rerouteOf, issued, unused, authorizes, used⟩

theorem backs_oneShot : OneShot (Step realm sha256Hex) (fun event consent => event.backs = some consent)
    (fun world consent => consent ∈ world.registry.consents.consumed) where
  fresh := by
    intro before event after consent step backs
    cases step.took with
    | @planned decision environment options request consents plan requested consumed made =>
      simp only [Event.backs, Option.ite_none_right_eq_some] at backs
      obtain ⟨rerouted, consented⟩ := backs
      obtain ⟨reroute, record, _, rerouteOf, _, unused, _⟩ := reroute_consented requested consumed rerouted
      cases consented.symm.trans rerouteOf.2.2.2.2
      exact unused
    | _ => simp [Event.backs] at backs
  marked := by
    intro before event after consent step backs
    cases step.took with
    | @planned decision environment options request consents plan requested consumed made =>
      simp only [Event.backs, Option.ite_none_right_eq_some] at backs
      obtain ⟨rerouted, consented⟩ := backs
      obtain ⟨reroute, record, _, rerouteOf, _, _, _, rfl⟩ := reroute_consented requested consumed rerouted
      cases consented.symm.trans rerouteOf.2.2.2.2
      simp
    | _ => simp [Event.backs] at backs
  kept := by
    intro before event after consent step used
    cases step.took with
    | planned requested consumed made => exact (consumeFor_sets consumed).2 consent used
    | _ => simp [World.withConsents, used]
theorem consumes_oneShot : OneShot (Step realm sha256Hex) (fun event plan => event.consumes = some plan)
    (fun world plan => plan ∈ world.registry.consumedPlans) where
  fresh := by
    intro before event after plan step consumes
    cases step.took with
    | usedPlan found unused =>
      cases consumes
      exact unused
    | _ => simp [Event.consumes] at consumes
  marked := by
    intro before event after plan step consumes
    cases step.took with
    | usedPlan found unused =>
      cases consumes
      simp
    | _ => simp [Event.consumes] at consumes
  kept := by
    intro before event after plan step used
    cases step.took with
    | _ => simp [World.withConsents, used]

/-- The consents and the plans of a state come from the events before it. -/
structure Known (events : List Event) (world : World) : Prop where
  granted : ∀ consent record, world.registry.consents.issued[consent]? = some record →
    consent ∉ world.registry.consents.consumed → ∃ nonce context,
      ⟨.grantConsent nonce context, .consent consent⟩ ∈ events ∧ recordFor nonce context = .ok record
  planned : ∀ plan issued, world.registry.issuedPlans[plan]? = some issued → ∃ created ∈ events, created.issues = some plan
theorem Known.later (known : Known events world) (issued : after.registry.consents.issued = world.registry.consents.issued)
    (consumed : ∀ consent ∈ world.registry.consents.consumed, consent ∈ after.registry.consents.consumed)
    (plans : after.registry.issuedPlans = world.registry.issuedPlans) : Known (event :: events) after where
  granted := by
    intro consent record found unused
    rw [issued] at found
    obtain ⟨nonce, context, happened, made⟩ := known.granted consent record found (fun used => unused (consumed consent used))
    exact ⟨nonce, context, List.mem_cons_of_mem _ happened, made⟩
  planned := by
    intro plan planned found
    rw [plans] at found
    obtain ⟨created, happened, issues⟩ := known.planned plan planned found
    exact ⟨created, List.mem_cons_of_mem _ happened, issues⟩
theorem Known.step (known : Known events world) (step : Step realm sha256Hex world event after) :
    Known (event :: events) after := by
  have other {call : Call} {outcome : Outcome} : Known (⟨call, outcome⟩ :: events) world :=
    known.later rfl (fun _ used => used) rfl
  cases step.took with
  | @granted nonce context record made =>
    refine ⟨?_, other.planned⟩
    intro consent found lookup unused
    obtain earlier | ⟨rfl, rfl⟩ := found_append lookup
    · exact other.granted consent found earlier unused
    · exact ⟨nonce, context, List.mem_cons_self, made⟩
  | refused record failure =>
    refine ⟨?_, other.planned⟩
    intro consent found lookup unused
    obtain ⟨notRefused, unused⟩ := not_or.mp (mt List.mem_cons.mpr unused)
    obtain earlier | ⟨refused, _⟩ := found_append lookup
    · exact other.granted consent found earlier unused
    · exact absurd refused notRefused
  | @planned decision environment options request consents plan requested consumed made =>
    obtain ⟨issued, used⟩ := consumeFor_sets consumed
    have kept (event : Event) : Known (event :: events) { world with registry := { world.registry with consents } } :=
      known.later issued used rfl
    refine ⟨(kept _).granted, ?_⟩
    intro number found lookup
    obtain earlier | ⟨rfl, rfl⟩ := found_append lookup
    · exact (kept _).planned number found earlier
    · exact ⟨_, List.mem_cons_self, rfl⟩
  | usedConsent => exact known.later rfl (fun _ used => List.mem_cons_of_mem _ used) rfl
  | lost failure consent => exact known.later rfl (fun _ used => List.mem_cons_of_mem _ used) rfl
  | decided returned => exact known.later rfl (fun _ used => used) rfl
  | usedPlan found unused => exact known.later rfl (fun _ used => used) rfl
  | verified => exact other
  | threw call failure => exact other
theorem known_of_run (run : Run Initial (Step realm sha256Hex) events world) : Known events world := by
  refine run.history ?_ ?_
  · rintro state rfl
    exact ⟨by simp [Registry.empty, Consents.empty], by simp [Registry.empty]⟩
  · intro events event before after _ known step
    exact known.step step
/-- Every decision of a state was returned. -/
def Returned (sha256Hex : Text → Text) (world : World) : Prop :=
  ∀ decision ∈ world.decisions, ∃ consents input, Execution.decideExecution sha256Hex consents input = .ok decision
theorem returned_of_run (run : Run Initial (Step realm sha256Hex) events world) : Returned sha256Hex world := by
  refine run.invariant ?_ ?_
  · rintro state rfl
    simp [Returned]
  · intro event before after known step decision member
    cases step.took with
    | decided returned =>
      obtain rfl | member := List.mem_cons.mp member
      · exact ⟨_, _, returned⟩
      · exact known decision member
    | _ => exact known decision member
/-- A plan stays what it was when it was issued. -/
theorem issued_kept {plan : Nat} {issued : ExecutionPlan} (found : world.registry.issuedPlans[plan]? = some issued)
    (step : Step realm sha256Hex world event after) : after.registry.issuedPlans[plan]? = some issued := by
  cases step.took with
  | planned requested consumed made =>
    obtain ⟨bound, _⟩ := List.getElem?_eq_some_iff.mp found
    dsimp only
    rw [List.getElem?_append_left bound]
    exact found
  | _ => exact found

/-! ### The protocol -/

/-- What a reroute plan rests on: a consent that an earlier call returned, that was not consumed before, and that
    covers exactly what the decision compared and disclosed. -/
structure Backed (earlier : List Event) (before : World) (decision : ExecutionDecision) (options : Value)
    (plan : ExecutionPlan) (consent : Nat) (record : ConsentRecord) (comparison : QuoteComparison)
    (disclosure : RerouteDisclosure) : Prop where
  consented : decision.consent = some consent
  consentId : plan.consentId = some record.consentId
  granted : ∃ nonce context, ⟨.grantConsent nonce context, .consent consent⟩ ∈ earlier ∧ recordFor nonce context = .ok record
  issued : before.registry.consents.issued[consent]? = some record
  unused : consent ∉ before.registry.consents.consumed
  fresh : ∃ currentSlot, options.get "currentSlot" = .bigint currentSlot ∧ currentSlot ≤ record.expiresAtSlot
  compared : decision.comparison = some comparison
  disclosed : decision.stateDecision.disclosure = some disclosure
  describes : disclosure.Describes comparison comparison.inputRaw
  comparisonKey : record.comparisonKey = comparison.comparisonKey
  disclosureDigest : record.disclosureDigest = disclosure.disclosureDigest
  preferredQuoteKey : quoteKey comparison.preferredQuote = .ok record.preferredQuoteKey
  alternativeQuoteKey : quoteKey comparison.alternativeQuote = .ok record.alternativeQuoteKey
  preferredMint : record.preferredMint = comparison.preferredMint
  alternativeMint : record.alternativeMint = comparison.alternativeMint
  inputRaw : record.inputRaw = comparison.inputRaw
  additionalCostBps : record.additionalCostBps = comparison.additionalCostBps
  accepted : comparison.additionalCostBps ≤ record.maxAdditionalCostBps
  affordable : comparison.additionalCostBps ≤ decision.reroutePolicy.maxAdditionalCostBps
/-- What holds of a run: later events stand first. -/
structure Safe (realm : Realm) (sha256Hex : Text → Text) (events : List Event) (world : World) : Prop where
  backs_once : events.Pairwise (fun later earlier => ∀ consent, later.backs = some consent → earlier.backs ≠ some consent)
  consumes_once : events.Pairwise (fun later earlier => ∀ plan, later.consumes = some plan → earlier.consumes ≠ some plan)
  consumes_issued : ∀ later event earlier plan, events = later ++ event :: earlier → event.consumes = some plan →
    ∃ created ∈ earlier, created.issues = some plan
  planned : ∀ later earlier decision environment options plan,
    events = later ++ ⟨.createExecutionPlan decision environment options, .plan plan⟩ :: earlier →
    ∃ before issued, Run Initial (Step realm sha256Hex) earlier before ∧ world.registry.issuedPlans[plan]? = some issued ∧
      issued.decision = decision.stateDecision.decision ∧
      (issued.decision = .USE_ALTERNATIVE → ∃ consent record comparison disclosure,
        Backed earlier before decision options issued consent record comparison disclosure)

theorem consumed_issued {plan : Nat} (run : Run Initial (Step realm sha256Hex) events world)
    (step : Step realm sha256Hex world event after) (consumes : event.consumes = some plan) :
    ∃ created ∈ events, created.issues = some plan := by
  cases step.took with
  | usedPlan found unused =>
    cases consumes
    exact (known_of_run run).planned _ _ found
  | _ => simp [Event.consumes] at consumes
/-- A reroute that is planned is backed. -/
theorem planned_backed {decision : ExecutionDecision} {environment options : Value} {request : PlanRequest}
    {consents : Consents} {plan : ExecutionPlan} (run : Run Initial (Step realm sha256Hex) events world)
    (returned : decision ∈ world.decisions) (requested : Requested realm decision environment options request)
    (consumed : consumeFor sha256Hex world.registry.consents decision request = .ok consents)
    (made : planOf sha256Hex consents decision request = .ok plan)
    (rerouted : decision.stateDecision.decision = .USE_ALTERNATIVE) :
    ∃ consent record comparison disclosure,
      Backed events world decision options plan consent record comparison disclosure := by
  obtain ⟨reroute, record, isReroute, rerouteOf, issued, unused, authorizes, rfl⟩ :=
    reroute_consented requested consumed rerouted
  obtain ⟨_, _, content, _⟩ := planOf_eq_ok made
  obtain ⟨_, compared, disclosed, _, consented⟩ := rerouteOf
  obtain ⟨_, input, decided⟩ := returned_of_run run decision returned
  obtain ⟨eligibility, _⟩ := assertExecutable_eq_ok requested.executable
  obtain ⟨comparison, disclosure, comparisonSame, disclosureSame, describes, _⟩ := reroute_quote decided eligibility rerouted
  cases comparisonSame.symm.trans compared
  cases disclosureSame.symm.trans disclosed
  refine ⟨reroute.consent, record, reroute.comparison, reroute.disclosure, ?_⟩
  exact {
    consented
    consentId := by
      rw [content, planContent, isReroute]
      simp [issued]
    granted := (known_of_run run).granted _ _ issued unused
    issued
    unused
    fresh := ⟨request.currentSlot, requested.currentSlot, authorizes.fresh⟩
    compared
    disclosed
    describes
    comparisonKey := authorizes.comparisonKey.1
    disclosureDigest := authorizes.disclosureDigest.1
    preferredQuoteKey := authorizes.preferredQuoteKey
    alternativeQuoteKey := authorizes.alternativeQuoteKey
    preferredMint := authorizes.preferredMint
    alternativeMint := authorizes.alternativeMint
    inputRaw := authorizes.inputRaw
    additionalCostBps := authorizes.additionalCostBps
    accepted := authorizes.accepted
    affordable := (exceedsCostLimit_eq_none.mp authorizes.affordable).2 }
end

/-! ### A reroute, from its consent to its execution -/

def transferBinding : Value := record [
  ("adapterKind", .string TRANSFER_CHECKED),
  ("commitmentHex", "95a9278c9886148f090bfce18bf6d4e83d898dc438aa6ca8f3a77866bc34a727")]
def reroutedPresented (key : Text) : Presented := ⟨quoteFor onMint, some (equalComparison key)⟩

theorem transferBinding_adapter : isString (transferBinding.get "adapterKind") TRANSFER_CHECKED = true := by decide
theorem transferBinding_canonical : canonicalDownstream transferBinding = transferBinding := by
  rw [canonicalDownstream, if_pos transferBinding_adapter]
  rfl
theorem transferBinding_wellFormed (realm : Realm) : downstreamProblems realm transferBinding = .ok [] := by
  have commitment : isCommitmentHex (transferBinding.get "commitmentHex") = true := by decide
  unfold downstreamProblems
  rw [if_neg (by decide), if_pos transferBinding_adapter]
  simp [problemIf, pushIf, commitment, pure_eq_ok]
theorem transferBinding_forQuote (quote : QuoteIdentity) (mint : Text) :
    jupiterQuoteMismatches transferBinding quote mint = [] := if_pos transferBinding_adapter
theorem transferBinding_plain : Plain transferBinding := by
  refine record_plain ["adapterKind", "commitmentHex"] rfl (by decide) ?_
  simp only [List.map_cons, List.map_nil, List.forall_mem_cons]
  exact ⟨.string _, .string _, by simp⟩

section
variable {sha256Hex : Text → Text} {key : Text} {base : DecisionResult} {disclosure : RerouteDisclosure}
  {record : ConsentRecord} {decision : ExecutionDecision}

/-- The plan of the reroute is issued, and can be consumed. -/
theorem rerouted_planned (trade : ReroutedTrade sha256Hex key base disclosure record decision) :
    ∃ plan, planOf sha256Hex ⟨[record], [0]⟩ decision (reroutedRequest key disclosure transferBinding) = .ok plan ∧
      Plans.createExecutionPlan strings sha256Hex ⟨⟨[record], []⟩, [], []⟩ decision "DEVNET_EXECUTION"
        (planOptions transferBinding) = (.ok 0, ⟨⟨[record], [0]⟩, [plan], []⟩) ∧
      Plans.consumeExecutionPlan strings sha256Hex ⟨⟨[record], [0]⟩, [plan], []⟩ 0 (reroutedPresented key) =
        .ok ⟨⟨[record], [0]⟩, [plan], [0]⟩ := by
  obtain ⟨quoteKey, keyed⟩ := quoteFor_key onMint
  have canonical := transferBinding_canonical
  obtain ⟨plan, made⟩ := @planOf_returns sha256Hex ⟨[record], [0]⟩ decision (reroutedRequest key disclosure transferBinding)
    quoteKey keyed (canonical.symm ▸ transferBinding_plain)
  have requested := rerouted_requested trade (transferBinding_wellFormed strings) (transferBinding_forQuote _ _)
  have created := @createExecutionPlan_made strings sha256Hex _ _ _ _ ⟨⟨[record], []⟩, [], []⟩ _ _ requested
    (rerouted_consumed trade transferBinding) made
  have consistent : planConsistent strings plan = .ok true := planConsistent_made made rfl
    (canonical.symm ▸ transferBinding_wellFormed strings) (canonical.symm ▸ transferBinding_forQuote _ _)
  have verified : Plans.verifyExecutionPlan strings sha256Hex ⟨⟨[record], [0]⟩, [plan], []⟩ 0 (reroutedPresented key) = .ok () := by
    refine verifyExecutionPlan_made made rfl (by simp) consistent rfl ?_
    rintro reroute ⟨⟩
    exact ⟨rfl, trade.authorizes.comparisonKey.2, rfl⟩
  refine ⟨plan, made, created, ?_⟩
  rw [Plans.consumeExecutionPlan, verified]
  rfl
end

section
variable {realm : Realm} {sha256Hex : Text → Text} {world : World} {events : List Event}

theorem step_created {decision : ExecutionDecision} {environment options : Value} {plan : Nat} {registry : Registry}
    (returned : decision ∈ world.decisions)
    (created : Plans.createExecutionPlan realm sha256Hex world.registry decision environment options = (.ok plan, registry)) :
    Step realm sha256Hex world ⟨.createExecutionPlan decision environment options, .plan plan⟩ { world with registry } := by
  refine ⟨returned, ?_⟩
  dsimp only [perform]
  rw [created]
  rfl
theorem step_consumed {plan : Nat} {presented : Presented} {registry : Registry}
    (consumed : Plans.consumeExecutionPlan realm sha256Hex world.registry plan presented = .ok registry) :
    Step realm sha256Hex world ⟨.consumeExecutionPlan plan presented, .done⟩ { world with registry } := by
  refine ⟨trivial, ?_⟩
  dsimp only [perform]
  rw [consumed]
/-- The consent of the reroute is granted, the reroute is decided, and its plan is created. -/
theorem rerouted_run {key : Text} {base : DecisionResult} {disclosure : RerouteDisclosure} {record : ConsentRecord}
    {decision : ExecutionDecision} {plan : ExecutionPlan} (trade : ReroutedTrade sha256Hex key base disclosure record decision)
    (created : Plans.createExecutionPlan strings sha256Hex ⟨⟨[record], []⟩, [], []⟩ decision "DEVNET_EXECUTION"
      (planOptions transferBinding) = (.ok 0, ⟨⟨[record], [0]⟩, [plan], []⟩)) :
    Run Initial (Step strings sha256Hex) [
      ⟨.createExecutionPlan decision "DEVNET_EXECUTION" (planOptions transferBinding), .plan 0⟩,
      ⟨.decideExecution (reroutedInput key), .decision decision⟩,
      ⟨.grantConsent "nonce" (reroutedGrant key base), .consent 0⟩] ⟨⟨⟨[record], [0]⟩, [plan], []⟩, [decision]⟩ := by
  have granting : Step strings sha256Hex ⟨.empty, []⟩ ⟨.grantConsent "nonce" (reroutedGrant key base), .consent 0⟩
      ⟨⟨⟨[record], []⟩, [], []⟩, []⟩ := by
    refine ⟨trivial, ?_⟩
    dsimp only [perform, Registry.empty]
    rw [trade.granted]
    rfl
  have deciding : Step strings sha256Hex ⟨⟨⟨[record], []⟩, [], []⟩, []⟩
      ⟨.decideExecution (reroutedInput key), .decision decision⟩ ⟨⟨⟨[record], []⟩, [], []⟩, [decision]⟩ := by
    refine ⟨trivial, ?_⟩
    dsimp only [perform]
    rw [trade.decided]
  have creating : Step strings sha256Hex ⟨⟨⟨[record], []⟩, [], []⟩, [decision]⟩
      ⟨.createExecutionPlan decision "DEVNET_EXECUTION" (planOptions transferBinding), .plan 0⟩
      ⟨⟨⟨[record], [0]⟩, [plan], []⟩, [decision]⟩ := step_created (List.mem_singleton_self _) created
  have begun : Run Initial (Step strings sha256Hex) [] ⟨.empty, []⟩ := .start rfl
  exact ((begun.next granting).next deciding).next creating
/-- The protocol over whole runs: a consent backs one plan at most, a plan is consumed once at most and only after
    it was issued, and every reroute plan rests on a consent for exactly it. -/
theorem protocol_safe (run : Run Initial (Step realm sha256Hex) events world) : Safe realm sha256Hex events world where
  backs_once := backs_oneShot.once run
  consumes_once := consumes_oneShot.once run
  consumes_issued := by
    rintro later event earlier plan rfl consumes
    obtain ⟨before, after, first, step, _⟩ := run.taken
    exact consumed_issued first step consumes
  planned := by
    rintro later earlier decision environment options plan rfl
    obtain ⟨before, after, first, step, continues⟩ := run.taken
    have returned : decision ∈ before.decisions := step.1
    cases step.took with
    | @planned _ _ _ request consents issued requested consumed made =>
      have found := continues (fun world => world.registry.issuedPlans[before.registry.issuedPlans.length]? = some issued)
        (fun _ _ _ found step => issued_kept found step) (by simp)
      obtain ⟨_, _, content, _⟩ := planOf_eq_ok made
      have same : issued.decision = decision.stateDecision.decision := by rw [content, planContent]
      refine ⟨before, issued, first, found, same, ?_⟩
      intro rerouted
      rw [same] at rerouted
      exact planned_backed first returned requested consumed made rerouted
end
theorem protocol_safe_reroute : ∃ key base decision world,
    Run Initial (Step strings id) [⟨.consumeExecutionPlan 0 (reroutedPresented key), .done⟩,
      ⟨.createExecutionPlan decision "DEVNET_EXECUTION" (planOptions transferBinding), .plan 0⟩,
      ⟨.decideExecution (reroutedInput key), .decision decision⟩,
      ⟨.grantConsent "nonce" (reroutedGrant key base), .consent 0⟩] world ∧
    decision.stateDecision.decision = .USE_ALTERNATIVE ∧
    Safe strings id [⟨.consumeExecutionPlan 0 (reroutedPresented key), .done⟩,
      ⟨.createExecutionPlan decision "DEVNET_EXECUTION" (planOptions transferBinding), .plan 0⟩,
      ⟨.decideExecution (reroutedInput key), .decision decision⟩,
      ⟨.grantConsent "nonce" (reroutedGrant key base), .consent 0⟩] world := by
  obtain ⟨key, base, disclosure, record, decision, trade⟩ := reroutedTrade id
  obtain ⟨plan, _, created, consumed⟩ := rerouted_planned trade
  have run := (rerouted_run trade created).next (step_consumed consumed)
  exact ⟨key, base, decision, _, run, trade.rerouted, protocol_safe run⟩

end EquityGuard.PlanRuns
