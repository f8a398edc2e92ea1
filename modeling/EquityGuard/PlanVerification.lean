import EquityGuard.PlanRuns

/-!
What an issued plan is verified with: its own quote and the comparison that was
consented to. Every check of the plan against itself follows from how it was made.
-/
namespace EquityGuard.PlanVerification
open EquityGuard.Canonical EquityGuard.Compare EquityGuard.Consent EquityGuard.Decisions EquityGuard.Errors EquityGuard.Execution
open EquityGuard.Failures EquityGuard.JsonText EquityGuard.JsValue EquityGuard.PlanAtomicity EquityGuard.PlanContents
open EquityGuard.PlanRuns EquityGuard.Plans EquityGuard.Quotes EquityGuard.Records EquityGuard.Runs

/-- What is presented is what the plan was made from: the quote in every identity field, and for a reroute the
    comparison by its key and its alternative quote. -/
structure Presents (plan : ExecutionPlan) (presented : Presented) : Prop where
  quote : plan.quote.Matches presented.quote
  comparison : plan.decision = .USE_ALTERNATIVE → ∃ comparison, presented.comparison = some comparison ∧
    plan.comparisonKey = some comparison.comparisonKey ∧ comparison.alternativeQuote.Matches plan.quote
/-- A refusal that blames the plan itself. -/
def BlamesPlan : Failure → Prop
  | .ExecutionPlanError code _ _ => code = .PLAN_NOT_ISSUED ∨ code = .PLAN_TAMPERED ∨ code = .DISCLOSURE_NOT_FOR_COMPARISON
  | _ => False
/-- A Jupiter binding is the trade of the planned quote. -/
structure BoundTo (binding : Value) (quote : QuoteIdentity) : Prop where
  destinationMint : binding.get "destinationMint" = .string quote.mint
  sourceMint : binding.get "sourceMint" = .string quote.inputMint
  inAmountRaw : binding.get "inAmountRaw" = .bigint quote.inputRaw
  quotedOutRaw : binding.get "quotedOutRaw" = .bigint quote.outputRaw
  minOutRaw : binding.get "minOutRaw" = orNull .bigint quote.minOutputRaw
/-- How a plan comes to be registered. -/
def Genuine (realm : Realm) (sha256Hex : Text → Text) (plan : ExecutionPlan) : Prop :=
  ∃ earlier input decision environment options request consents,
    Execution.decideExecution sha256Hex earlier input = .ok decision ∧
    Requested realm decision environment options request ∧ planOf sha256Hex consents decision request = .ok plan

/-! ### The copy of a binding -/

theorem jupiterProblems_congr (realm : Realm) (role : Role) {left right : Value}
    (same : ∀ field ∈ bindingFields, left.get field = right.get field) :
    jupiterProblems realm role left = jupiterProblems realm role right := by
  have addresses : addressFields.flatMap (fun field => problemIf (¬ isAddressString (left.get field)) [field, " must be an address"]) =
      addressFields.flatMap (fun field => problemIf (¬ isAddressString (right.get field)) [field, " must be an address"]) := by
    refine List.flatMap_congr ?_
    intro field known
    have listed : ∀ field ∈ addressFields, field ∈ bindingFields := by decide
    rw [same field (listed field known)]
  have slippage : slippageProblems left = slippageProblems right := by
    unfold slippageProblems
    rw [same "slippageBps" (by decide), same "quotedOutRaw" (by decide), same "minOutRaw" (by decide)]
  unfold jupiterProblems
  rw [addresses, slippage, same "adapterKind" (by decide), same "jupiterProgramId" (by decide),
    same "routeDiscriminatorHex" (by decide), same "protectedMintRole" (by decide), same "protectedMint" (by decide),
    same "counterMint" (by decide), same "sourceMint" (by decide), same "destinationMint" (by decide),
    same "inAmountRaw" (by decide), same "quotedOutRaw" (by decide), same "suffixCommitmentHex" (by decide),
    same "suffixInstructionCount" (by decide)]
/-- The copy shows what the binding shows. -/
theorem canonicalDownstream_get {downstream : Value} {field : String} (known : field ∈ bindingFields)
    (jupiter : isString (downstream.get "adapterKind") TRANSFER_CHECKED = false) :
    (canonicalDownstream downstream).get field = downstream.get field := by
  rw [canonicalDownstream, if_neg (by simp [jupiter])]
  exact record_get (by decide) known
theorem canonicalDownstream_transfer {downstream : Value} {field : String} (known : field ∈ ["adapterKind", "commitmentHex"])
    (transfer : isString (downstream.get "adapterKind") TRANSFER_CHECKED = true) :
    (canonicalDownstream downstream).get field = downstream.get field := by
  rw [canonicalDownstream, if_pos transfer]
  exact record_get (by decide) known
theorem canonicalDownstream_isObject (downstream : Value) : (canonicalDownstream downstream).isObject = true := by
  unfold canonicalDownstream
  split <;> rfl
/-- And it has the problems that the binding has. -/
theorem canonicalDownstream_problems (realm : Realm) {downstream : Value} (present : downstream.isObject = true) :
    downstreamProblems realm (canonicalDownstream downstream) = downstreamProblems realm downstream := by
  unfold downstreamProblems
  rw [if_neg (not_not.mpr (canonicalDownstream_isObject downstream)), if_neg (not_not.mpr present)]
  by_cases transfer : isString (downstream.get "adapterKind") TRANSFER_CHECKED = true
  · rw [canonicalDownstream_transfer (by decide) transfer, canonicalDownstream_transfer (by decide) transfer]
    simp only [transfer, if_true]
  · have jupiter : isString (downstream.get "adapterKind") TRANSFER_CHECKED = false := by simpa using transfer
    have same (role : Role) := jupiterProblems_congr realm role (fun field known => canonicalDownstream_get known jupiter)
    rw [canonicalDownstream_get (by decide) jupiter, if_neg transfer, if_neg transfer]
    simp only [same]
theorem canonicalDownstream_forQuote (downstream : Value) (quote : QuoteIdentity) (mint : Text) :
    jupiterQuoteMismatches (canonicalDownstream downstream) quote mint = jupiterQuoteMismatches downstream quote mint := by
  unfold jupiterQuoteMismatches
  by_cases transfer : isString (downstream.get "adapterKind") TRANSFER_CHECKED = true
  · rw [canonicalDownstream_transfer (by decide) transfer, if_pos transfer, if_pos transfer]
  · have jupiter : isString (downstream.get "adapterKind") TRANSFER_CHECKED = false := by simpa using transfer
    have same (field : String) (known : field ∈ bindingFields) := canonicalDownstream_get known jupiter
    rw [same "adapterKind" (by decide), same "protectedMint" (by decide), same "destinationMint" (by decide),
      same "sourceMint" (by decide), same "inAmountRaw" (by decide), same "quotedOutRaw" (by decide),
      same "minOutRaw" (by decide)]

/-! ### A binding for a quote -/

theorem isString_eq_true {value : Value} {expected : Text} (found : isString value expected = true) :
    value = .string expected := by
  unfold isString at found
  split at found
  · rw [of_decide_eq_true found]
  · cases found
theorem isBigint_eq_true {value : Value} {expected : Option Int} (found : isBigint value expected = true) :
    value = orNull .bigint expected := by
  unfold isBigint at found
  split at found
  · rw [of_decide_eq_true found]
    rfl
  · rfl
  · cases found
theorem boundTo_of_forQuote {binding : Value} {quote : QuoteIdentity} {mint : Text}
    (forQuote : jupiterQuoteMismatches binding quote mint = [])
    (jupiter : isString (binding.get "adapterKind") TRANSFER_CHECKED = false) : BoundTo binding quote := by
  unfold jupiterQuoteMismatches at forQuote
  rw [if_neg (by simp [jupiter])] at forQuote
  simp only [List.append_eq_nil_iff, problemIf_eq_nil, not_or, not_not, and_assoc] at forQuote
  obtain ⟨_, _, destination, source, inAmount, quotedOut, minimum⟩ := forQuote
  exact ⟨isString_eq_true destination, isString_eq_true source, isBigint_eq_true inAmount, isBigint_eq_true quotedOut,
    isBigint_eq_true minimum⟩

/-! ### Plans that were issued -/

section
variable {realm : Realm} {sha256Hex : Text → Text} {world : World} {events : List Event} {plan : ExecutionPlan}
  {registry : Registry} {number : Nat} {presented : Presented}

def AllGenuine (realm : Realm) (sha256Hex : Text → Text) (_ : List Event) (world : World) : Prop :=
  ∀ (number : Nat) (plan : ExecutionPlan), world.registry.issuedPlans[number]? = some plan → Genuine realm sha256Hex plan
theorem allGenuine_of_run (run : Run Initial (Step realm sha256Hex) events world) : AllGenuine realm sha256Hex events world := by
  refine run.history ?_ ?_
  · rintro state rfl number plan found
    simp [Registry.empty] at found
  · intro events event before after earlier known step number plan found
    have allowed := step.1
    cases step.took with
    | @planned decision environment options request consents issued requested consumed made =>
      obtain older | ⟨_, rfl⟩ := found_append found
      · exact known number plan older
      · obtain ⟨granted, input, decided⟩ := returned_of_run earlier decision allowed
        exact ⟨granted, input, decision, environment, options, request, consents, decided, requested, made⟩
    | _ => exact known number plan found

theorem Genuine.keyed (genuine : Genuine realm sha256Hex plan) : ∃ key, quoteKey plan.quote = .ok key := by
  obtain ⟨_, _, _, _, _, _, _, _, _, made⟩ := genuine
  obtain ⟨key, keyed, content, _⟩ := planOf_eq_ok made
  refine ⟨key, ?_⟩
  rw [content]
  exact keyed
theorem Genuine.digested (genuine : Genuine realm sha256Hex plan) :
    planDigestOf sha256Hex plan.toExecutionPlanContent = .ok plan.planDigest := by
  obtain ⟨_, _, _, _, _, _, _, _, _, made⟩ := genuine
  obtain ⟨_, _, _, digested⟩ := planOf_eq_ok made
  exact digested
theorem Genuine.consistent (genuine : Genuine realm sha256Hex plan) : planConsistent realm plan = .ok true := by
  obtain ⟨_, _, _, _, options, request, _, _, requested, made⟩ := genuine
  obtain ⟨_, _, _, mint⟩ := assertExecutable_eq_ok requested.executable
  have present : request.downstream.isObject = true := by
    rw [requested.downstream]
    have wellFormed := requested.wellFormed
    unfold downstreamProblems at wellFormed
    split at wellFormed
    · cases wellFormed
    · rename_i present
      exact not_not.mp present
  refine planConsistent_made made mint.symm ?_ ?_
  · rw [canonicalDownstream_problems realm present, requested.downstream]
    exact requested.wellFormed
  · rw [canonicalDownstream_forQuote, requested.downstream]
    exact requested.forQuote
/-- A reroute plan has the key of its comparison, and its disclosure has the same; other plans have none. -/
theorem Genuine.rerouted (genuine : Genuine realm sha256Hex plan) :
    (plan.decision ≠ .USE_ALTERNATIVE ∧ plan.comparisonKey = none) ∨
      ∃ key, plan.decision = .USE_ALTERNATIVE ∧ plan.comparisonKey = some key ∧
        plan.disclosure.map (fun disclosure => disclosure.comparisonKey) = some key := by
  obtain ⟨_, _, decision, _, _, request, _, _, requested, made⟩ := genuine
  obtain ⟨_, _, content, _⟩ := planOf_eq_ok made
  have rerouteOf := requested.reroute
  rw [content]
  cases rerouted : request.reroute with
  | none =>
    rw [rerouted] at rerouteOf
    exact .inl ⟨rerouteOf, by simp [planContent, rerouted]⟩
  | some reroute =>
    rw [rerouted] at rerouteOf
    obtain ⟨decided, _, _, disclosed, _⟩ := rerouteOf
    refine .inr ⟨reroute.comparison.comparisonKey, decided, ?_, ?_⟩
    · simp [planContent, rerouted]
    · simp [planContent, rerouted, disclosed]
theorem Genuine.boundTo (genuine : Genuine realm sha256Hex plan)
    (jupiter : isString (plan.downstream.get "adapterKind") TRANSFER_CHECKED = false) : BoundTo plan.downstream plan.quote := by
  obtain ⟨_, _, _, _, _, request, _, _, requested, made⟩ := genuine
  obtain ⟨_, _, content, _⟩ := planOf_eq_ok made
  have forQuote := requested.forQuote
  rw [← requested.downstream, ← canonicalDownstream_forQuote] at forQuote
  rw [content] at jupiter ⊢
  exact boundTo_of_forQuote forQuote jupiter

/-! ### Verification -/

/-- The checks of a plan against itself pass, so that only the presented values are left to be compared. -/
theorem Genuine.verify (genuine : Genuine realm sha256Hex plan) (found : registry.issuedPlans[number]? = some plan)
    (unused : number ∉ registry.consumedPlans) :
    Plans.verifyExecutionPlan realm sha256Hex registry number presented = (do
      let substituted ← Quotes.quoteMismatches plan.quote presented.quote
      refuse_if (substituted ≠ []) (.ExecutionPlanError .QUOTE_SUBSTITUTED ("presented quote is not the planned quote: " ::
        listed (substituted.map (fun mismatch => mismatch.code.name))) substituted)
      verifyComparison plan presented) := by
  unfold Plans.verifyExecutionPlan
  rw [found]
  dsimp only
  rw [refuse_if_bind, if_neg unused, genuine.digested, ok_bind, refuse_if_bind, if_neg (not_not.mpr rfl), genuine.consistent,
    ok_bind, refuse_if_bind, if_neg (not_not.mpr rfl)]
theorem Genuine.verifyComparison (genuine : Genuine realm sha256Hex plan) :
    Plans.verifyComparison plan presented = .ok () ↔ (plan.decision = .USE_ALTERNATIVE →
      ∃ comparison, presented.comparison = some comparison ∧ plan.comparisonKey = some comparison.comparisonKey ∧
        comparison.alternativeQuote.Matches plan.quote) := by
  obtain ⟨quoteKey, keyed⟩ := genuine.keyed
  unfold Plans.verifyComparison
  obtain ⟨kept, none⟩ | ⟨key, rerouted, some, disclosed⟩ := genuine.rerouted
  · rw [none]
    simp [kept]
  · rw [some]
    cases presented.comparison with
    | none => simp [rerouted]
    | some comparison =>
      dsimp only
      rw [refuse_if_bind, disclosed, refuse_if_bind, if_neg (not_not.mpr rfl)]
      by_cases same : comparison.comparisonKey = key
      · rw [if_neg (not_not.mpr same), bind_eq_ok]
        simp only [refuse_if_eq_ok, not_not]
        constructor
        · rintro ⟨_, compared, rfl⟩ _
          exact ⟨comparison, rfl, congrArg Option.some same.symm, matches_of_quoteMismatches compared⟩
        · intro shown
          obtain ⟨_, ⟨⟩, _, matching⟩ := shown rerouted
          exact ⟨[], (quoteMismatches_eq_nil (.inr keyed)).mpr matching, rfl⟩
      · rw [if_pos same]
        simp only [reduceCtorEq, false_iff]
        intro shown
        obtain ⟨_, ⟨⟩, key, _⟩ := shown rerouted
        exact same (Option.some.inj key).symm

theorem keyOf_throws (value : Value) : Throws (fun failure => ¬ BlamesPlan failure) (keyOf value) := by
  unfold keyOf
  split
  · exact .ok _
  · exact .error id
theorem diff_throws (code : QuoteMismatchCode) (expected actual : Value) :
    Throws (fun failure => ¬ BlamesPlan failure) (diff code expected actual) :=
  .bind (keyOf_throws expected) (fun _ _ => .bind (keyOf_throws actual) (fun _ _ => .ok _))
theorem quoteMismatches_throws (expected actual : QuoteIdentity) :
    Throws (fun failure => ¬ BlamesPlan failure) (Quotes.quoteMismatches expected actual) := by
  have checked (quote : QuoteIdentity) : Throws (fun failure => ¬ BlamesPlan failure) (assertQuoteIdentityTypes quote) :=
    .refuse_if (fun _ => id)
  unfold Quotes.quoteMismatches
  refine .bind (checked expected) (fun _ _ => .bind (checked actual) (fun _ _ => ?_))
  repeat refine .bind (diff_throws _ _ _) (fun _ _ => ?_)
  exact .ok _
theorem Genuine.verifyComparison_throws (genuine : Genuine realm sha256Hex plan) :
    Throws (fun failure => ¬ BlamesPlan failure) (Plans.verifyComparison plan presented) := by
  have notForPlan (message : Message) (mismatches : List QuoteMismatch) :
      ¬ BlamesPlan (.ExecutionPlanError .COMPARISON_NOT_FOR_PLAN message mismatches) := by simp [BlamesPlan]
  unfold Plans.verifyComparison
  obtain ⟨_, none⟩ | ⟨key, _, some, disclosed⟩ := genuine.rerouted
  · rw [none]
    exact .ok ()
  · rw [some]
    cases presented.comparison with
    | none => exact .error (notForPlan _ _)
    | some comparison =>
      refine .bind (.refuse_if (fun _ => notForPlan _ _)) (fun _ _ => ?_)
      refine .bind (.refuse_if (fun differs => absurd disclosed differs)) (fun _ _ => ?_)
      exact .bind (quoteMismatches_throws _ _) (fun _ _ => .refuse_if (fun _ => notForPlan _ _))

/-- What holds of the verification of an issued plan: the plan itself is never blamed, exactly what it was made from is
    accepted, and its Jupiter binding is the trade of its quote. -/
structure VerifiedExactly (realm : Realm) (sha256Hex : Text → Text) (registry : Registry) (number : Nat) (plan : ExecutionPlan) :
    Prop where
  unblamed : ∀ presented failure, Plans.verifyExecutionPlan realm sha256Hex registry number presented = .error failure →
    ¬ BlamesPlan failure
  accepted : ∀ presented, Plans.verifyExecutionPlan realm sha256Hex registry number presented = .ok () ↔
    Presents plan presented
  bound : isString (plan.downstream.get "adapterKind") TRANSFER_CHECKED = false → BoundTo plan.downstream plan.quote
theorem verifyExecutionPlan_exact (run : Run Initial (Step realm sha256Hex) events world)
    (found : world.registry.issuedPlans[number]? = some plan) (unused : number ∉ world.registry.consumedPlans) :
    VerifiedExactly realm sha256Hex world.registry number plan := by
  have genuine := allGenuine_of_run run number plan found
  refine ⟨?_, ?_, genuine.boundTo⟩
  · intro presented
    rw [genuine.verify found unused]
    refine Throws.bind (quoteMismatches_throws _ _) (fun substituted _ => .bind (.refuse_if ?_) ?_)
    · intro _ blamed
      simp [BlamesPlan] at blamed
    · exact fun _ _ => genuine.verifyComparison_throws
  · intro presented
    obtain ⟨key, keyed⟩ := genuine.keyed
    rw [genuine.verify found unused, bind_eq_ok]
    simp only [then_eq_ok, refuse_if_eq_ok, not_not]
    constructor
    · rintro ⟨_, compared, rfl, shown⟩
      exact ⟨matches_of_quoteMismatches compared, genuine.verifyComparison.mp shown⟩
    · rintro ⟨quote, comparison⟩
      exact ⟨[], (quoteMismatches_eq_nil (.inl keyed)).mpr quote, rfl, genuine.verifyComparison.mpr comparison⟩
end
/-- The plan of a consented reroute, after it was created. -/
theorem verifyExecutionPlan_exact_reroute : ∃ key base decision plan world,
    Run Initial (Step strings id) [
      ⟨.createExecutionPlan decision "DEVNET_EXECUTION" (planOptions transferBinding), .plan 0⟩,
      ⟨.decideExecution (reroutedInput key), .decision decision⟩,
      ⟨.grantConsent "nonce" (reroutedGrant key base), .consent 0⟩] world ∧
    decision.stateDecision.decision = .USE_ALTERNATIVE ∧ world.registry.issuedPlans[0]? = some plan ∧
    VerifiedExactly strings id world.registry 0 plan := by
  obtain ⟨key, base, _, _, decision, trade⟩ := reroutedTrade id
  obtain ⟨plan, _, created, _⟩ := rerouted_planned trade
  have run := rerouted_run trade created
  exact ⟨key, base, decision, plan, _, run, trade.rerouted, rfl, verifyExecutionPlan_exact run rfl (by simp)⟩

end EquityGuard.PlanVerification
