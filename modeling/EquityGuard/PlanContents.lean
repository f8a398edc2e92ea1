import EquityGuard.Plans

/-!
What plans and disclosures hold, as canonical data: when it has a key, and that equal
keys, which digests are computed from, mean equal contents.
-/
namespace EquityGuard.PlanContents
open EquityGuard.Binary64 EquityGuard.Canonical EquityGuard.Compare EquityGuard.Decisions EquityGuard.Errors EquityGuard.Execution
open EquityGuard.Failures EquityGuard.JsonText EquityGuard.JsValue EquityGuard.Plans EquityGuard.Quotes
open EquityGuard.Records EquityGuard.Representations

/-! ### One key, one disclosure -/

theorem orNull_name_same {α : Type} {name : α → Text} (injective : Function.Injective name) {left right : Option α}
    (same : Same (orNull (fun value => .string (name value)) left) (orNull (fun value => .string (name value)) right)) :
    left = right :=
  same_orNull (fun _ _ same => injective (same_string.mp same)) (by simp) same
theorem summary_same {left right : RepresentationSummary} (same : Same left.toValue right.toValue) : left = right := by
  have fields := record_same ["issuer", "symbol", "mint", "state", "stateSource"] rfl rfl (by decide) same
  simp only [List.map_cons, List.map_nil, List.forall₂_cons, same_string] at fields
  obtain ⟨issuer, symbol, mint, state, stateSource, _⟩ := fields
  cases left
  cases right
  rw [RepresentationSummary.mk.injEq]
  exact ⟨issuer, symbol, mint, orNull_name_same RepresentationState.name_injective state,
    orNull_name_same StateSource.name_injective stateSource⟩
def EconomicEffect.kind : EconomicEffect → String
  | .ADDITIONAL_COST _ => "ADDITIONAL_COST"
  | .ECONOMICALLY_EQUAL => "ECONOMICALLY_EQUAL"
  | .BETTER_VALUE _ => "BETTER_VALUE"
def EconomicEffect.bps : EconomicEffect → Int
  | .ADDITIONAL_COST bps => bps
  | .ECONOMICALLY_EQUAL => 0
  | .BETTER_VALUE bps => bps
theorem effect_toValue (effect : EconomicEffect) :
    effect.toValue = record [("kind", .string (text (EconomicEffect.kind effect))), ("bps", .bigint (EconomicEffect.bps effect))] := by
  cases effect <;> rfl
theorem effect_same {left right : EconomicEffect} (same : Same left.toValue right.toValue) : left = right := by
  rw [effect_toValue, effect_toValue] at same
  have fields := record_same ["kind", "bps"] rfl rfl (by decide) same
  simp only [List.map_cons, List.map_nil, List.forall₂_cons, same_string, same_bigint] at fields
  obtain ⟨kind, bps, _⟩ := fields
  have kinds : ∀ left right : String, left ∈ ["ADDITIONAL_COST", "ECONOMICALLY_EQUAL", "BETTER_VALUE"] →
      right ∈ ["ADDITIONAL_COST", "ECONOMICALLY_EQUAL", "BETTER_VALUE"] → text left = text right → left = right := by
    simp only [List.mem_cons, List.not_mem_nil, or_false]
    rintro left right (rfl | rfl | rfl) (rfl | rfl | rfl) same <;> first | rfl | exact absurd same (by decide)
  have kind := kinds _ _ (by cases left <;> simp [EconomicEffect.kind]) (by cases right <;> simp [EconomicEffect.kind]) kind
  cases left <;> cases right <;> simp_all [EconomicEffect.kind, EconomicEffect.bps]
theorem fields_same {left right : DisclosureContent}
    (same : List.Forall₂ Same (left.fields.map Prod.snd) (right.fields.map Prod.snd)) : left = right := by
  simp only [DisclosureContent.fields, List.map_cons, List.map_nil, List.forall₂_cons, same_string, same_bigint] at same
  obtain ⟨underlying, original, alternative, reason, cost, preferredShares, alternativeShares, effect, notice, key, inputRaw,
    maximum, _⟩ := same
  cases left
  cases right
  rw [DisclosureContent.mk.injEq]
  exact ⟨underlying, summary_same original, summary_same alternative, reason, cost, preferredShares, alternativeShares,
    effect_same effect, notice, key, inputRaw, maximum⟩
theorem disclosureContent_same {left right : DisclosureContent} (same : Same left.toValue right.toValue) : left = right :=
  fields_same (record_same disclosureNames rfl rfl (by decide) same)
theorem disclosure_same (left right : RerouteDisclosure) (same : Same left.toValue right.toValue) : left = right := by
  have fields := record_same (disclosureNames ++ ["disclosureDigest"]) rfl rfl (by decide) same
  -- The digest stands last: compare the reversed lists of fields.
  rw [← List.forall₂_reverse_iff, List.map_append, List.map_append, List.reverse_append, List.reverse_append] at fields
  obtain ⟨digest, content⟩ := List.forall₂_cons.mp fields
  cases left
  cases right
  rw [RerouteDisclosure.mk.injEq]
  exact ⟨fields_same (List.forall₂_reverse_iff.mp content), same_string.mp digest⟩

/-! ### One key, one plan -/

theorem decision_name_injective : Function.Injective Decision.name := by
  intro left right
  cases left <;> cases right <;> decide
def reasonCodes : List DecisionReasonCode := [.PREFERRED_SAFE, .PREFERRED_STATE_UNKNOWN, .PREFERRED_STATE_CONFLICT,
  .NO_ALTERNATIVE, .ALTERNATIVE_STATE_UNKNOWN, .ALTERNATIVE_STATE_CONFLICT, .ALTERNATIVE_NOT_SAFE,
  .ALTERNATIVE_NOT_SAME_UNDERLYING, .ALTERNATIVE_QUOTE_UNAVAILABLE, .QUOTE_COMPARISON_MISMATCH,
  .QUOTE_COMPARISON_STALE_STATE, .ALTERNATIVE_OUTSIDE_TOLERANCE, .CONSENT_REQUIRED, .CONSENT_GIVEN]
theorem reasonCode_name_injective : Function.Injective DecisionReasonCode.name := by
  have named (code : DecisionReasonCode) : reasonCodes.find? (fun known => known.name = code.name) = some code := by
    cases code <;> decide
  intro left right same
  exact Option.some.inj ((named left).symm.trans ((congrArg (fun name => reasonCodes.find? (fun known => known.name = name))
    same).trans (named right)))
def contentNames : List String := ["environment", "selectedRepresentation", "quote", "quoteKey", "economicState", "policy",
  "inputRaw", "expectedOutputRaw", "minOutputRaw", "route", "decision", "reasonCode", "executionEligibility",
  "comparisonKey", "disclosure", "consentId", "createdAtSlot", "expiresAtSlot", "downstream"]
/-- Plans with one key have equal contents; of the downstream binding, up to the order of its fields. -/
theorem content_same {left right : ExecutionPlanContent} (same : Same left.toValue right.toValue) :
    right = { left with downstream := right.downstream } ∧ Same left.downstream right.downstream := by
  have fields := record_same contentNames rfl rfl (by decide) same
  simp only [List.map_cons, List.map_nil, List.forall₂_cons, same_string, same_bigint] at fields
  obtain ⟨_, selected, quote, quoteKey, state, policy, inputRaw, output, minimum, route, decision, reasonCode, _, key,
    disclosure, consentId, created, expires, downstream, _⟩ := fields
  have disclosures := same_orNull disclosure_same (by simp [RerouteDisclosure.toValue, record]) disclosure
  refine ⟨?_, downstream⟩
  cases left
  cases right
  rw [ExecutionPlanContent.mk.injEq]
  exact ⟨(summary_same selected).symm, (QuoteIdentity.toValue_same quote).symm, quoteKey.symm, (stateValue_same state).symm,
    (policyValue_same policy).symm, inputRaw.symm, output.symm, (same_orNull_bigint minimum).symm,
    (RouteIdentity.toValue_same route).symm, (decision_name_injective decision).symm,
    (reasonCode_name_injective reasonCode).symm, (same_orNull_string key).symm, disclosures.symm,
    (same_orNull_string consentId).symm, created.symm, expires.symm, rfl⟩

/-! ### Keys stand for what they are made from -/

theorem tagOf_same {left right : Value} (same : Same left right) : tagOf left = tagOf right := by
  cases same <;> rfl
theorem missing_not_null {key : Text} {fields : List (Text × Value)} :
    ¬ Same (.object fields) (.object ((key, .null) :: fields)) := by
  intro same
  cases same with
  | object perm keys _ =>
    have length := congrArg List.length keys
    simp only [List.length_map, List.length_cons, ← perm.length_eq] at length
    omega
/-- On plain data a key is the same exactly for the same data: values of different kinds never share one, a missing
    field is told apart from `null`, and the preimages of digests determine disclosures and plans. -/
theorem canonicalKey_injective :
    (∀ left right : Value, Plain left → Plain right → (canonicalKey left = canonicalKey right ↔ Same left right)) ∧
    (∀ left right : Value, Plain left → Plain right → tagOf left ≠ tagOf right → canonicalKey left ≠ canonicalKey right) ∧
    (∀ (key : Text) (fields : List (Text × Value)), Plain (.object fields) →
      canonicalKey (.object fields) ≠ canonicalKey (.object ((key, .null) :: fields))) ∧
    (∀ left right : DisclosureContent, canonicalKey left.toValue = canonicalKey right.toValue → left = right) ∧
    ∀ (left right : ExecutionPlanContent) (key : Text), canonicalKey left.toValue = .ok key →
      canonicalKey right.toValue = .ok key →
      right = { left with downstream := right.downstream } ∧ Same left.downstream right.downstream := by
  refine ⟨?_, ?_, ?_, ?_, ?_⟩
  · intro left right plain _
    exact canonicalKey_eq_iff plain
  · intro left right plain _ kinds keys
    exact kinds (tagOf_same ((canonicalKey_eq_iff plain).mp keys))
  · intro key fields plain keys
    exact missing_not_null ((canonicalKey_eq_iff plain).mp keys)
  · intro left right keys
    exact disclosureContent_same ((canonicalKey_eq_iff left.plain).mp keys)
  · intro left right key leftKey rightKey
    exact content_same (same_of_key leftKey rightKey)
/-- A bigint, a string and `null`, and two objects with their keys in either order. -/
theorem canonicalKey_injective_samples :
    canonicalKey (.bigint 5) ≠ canonicalKey (.string (text "5")) ∧ canonicalKey .null ≠ canonicalKey (.bigint 0) ∧
      canonicalKey (.object [(text "a", .null), (text "b", .bigint 1)]) =
        canonicalKey (.object [(text "b", .bigint 1), (text "a", .null)]) := by
  have plain : ∀ field ∈ [(text "a", Value.null), (text "b", .bigint 1)], Plain field.2 := by
    simp only [List.forall_mem_cons]
    exact ⟨.null, .bigint 1, by simp⟩
  have swapped : ∀ field ∈ [(text "b", .bigint 1), (text "a", Value.null)], Plain field.2 := by
    simp only [List.forall_mem_cons]
    exact ⟨.bigint 1, .null, by simp⟩
  refine ⟨canonicalKey_injective.2.1 _ _ (.bigint 5) (.string _) (by simp [tagOf]),
    canonicalKey_injective.2.1 _ _ .null (.bigint 0) (by simp [tagOf]), ?_⟩
  refine (canonicalKey_injective.1 _ _ (.object (by decide) plain) (.object (by decide) swapped)).mpr ?_
  exact .object (List.Perm.swap _ _ _) rfl (.cons (.bigint 1) (.cons .null .nil))

/-! ### Plans that have a key -/

/-- A Jupiter binding whose slippage is the zero with a sign: an integer in range, but no plain data. -/
def SignedSlippage (downstream : Value) : Prop :=
  isString (downstream.get "adapterKind") TRANSFER_CHECKED = false ∧ downstream.get "slippageBps" = .negativeZero

theorem plain_of_isString {value : Value} {expected : Text} (found : isString value expected = true) : Plain value := by
  unfold isString at found
  split at found
  · exact .string _
  · cases found
theorem plain_of_isCommitmentHex {value : Value} (found : isCommitmentHex value = true) : Plain value := by
  unfold isCommitmentHex at found
  split at found
  · exact .string _
  · cases found
theorem plain_of_isAddressString {value : Value} (found : isAddressString value = true) : Plain value := by
  unfold isAddressString at found
  split at found
  · exact .string _
  · cases found
theorem plain_of_isBigint {value : Value} {expected : Option Int} (found : isBigint value expected = true) : Plain value := by
  unfold isBigint at found
  split at found
  · exact .bigint _
  · exact .null
  · cases found
theorem numericOf_eq_some {value : Value} {numeric : Numeric} (found : numericOf value = some numeric) :
    value = numeric.toValue := by
  unfold numericOf at found
  split at found <;> cases found <;> rfl
/-- A slippage that is accepted is plain, the signed zero apart. -/
theorem plain_of_slippageProblems {b : Value} (accepted : slippageProblems b = []) (unsigned : b.get "slippageBps" ≠ .negativeZero) :
    Plain (b.get "slippageBps") := by
  unfold slippageProblems at accepted
  split at accepted
  · cases accepted
  · rename_i slippage found
    split at accepted
    · rename_i range
      rw [numericOf_eq_some found] at unsigned ⊢
      exact Numeric.toValue_plain (fun zero => unsigned (by rw [zero]; rfl)) range (by decide)
    · cases accepted
theorem plain_of_count {value : Value}
    (found : ((numericOf value).any (Numeric.strictEq 3) || (numericOf value).any (Numeric.strictEq 4)) = true) : Plain value := by
  cases known : numericOf value with
  | none => simp [known] at found
  | some count =>
    rw [numericOf_eq_some known]
    simp only [known, Option.any_some, Bool.or_eq_true, Numeric.strictEq, Number.strictEq_iff] at found
    cases count with
    | negativeZero =>
      rcases found with ⟨same, _⟩ | ⟨same, _⟩ <;> exact absurd same (by decide)
    | number count =>
      rcases found with ⟨rfl, _⟩ | ⟨rfl, _⟩
      · exact .integer (show safeInteger (Numeric.value 3) = some 3 by decide)
      · exact .integer (show safeInteger (Numeric.value 4) = some 4 by decide)
/-- What passes as the binding of a planned quote is plain data, unless its slippage is the signed zero. -/
theorem canonicalDownstream_plain {realm : Realm} {downstream : Value} {quote : QuoteIdentity} {mint : Text}
    (wellFormed : downstreamProblems realm downstream = .ok [])
    (forQuote : jupiterQuoteMismatches downstream quote mint = []) (unsigned : ¬ SignedSlippage downstream) :
    Plain (canonicalDownstream downstream) := by
  unfold downstreamProblems at wellFormed
  unfold jupiterQuoteMismatches at forQuote
  unfold canonicalDownstream
  split at wellFormed
  · cases wellFormed
  · by_cases transfer : isString (downstream.get "adapterKind") TRANSFER_CHECKED = true
    · rw [if_pos transfer] at wellFormed ⊢
      have commitment : isCommitmentHex (downstream.get "commitmentHex") = true := by simpa [pure_eq_ok] using wellFormed
      refine record_plain ["adapterKind", "commitmentHex"] rfl (by decide) ?_
      simp only [List.map_cons, List.map_nil, List.forall_mem_cons]
      exact ⟨plain_of_isString transfer, plain_of_isCommitmentHex commitment, by simp⟩
    · rw [if_neg transfer] at wellFormed forQuote ⊢
      have slippage : downstream.get "slippageBps" ≠ .negativeZero :=
        fun zero => unsigned ⟨by simpa using transfer, zero⟩
      simp only [List.append_eq_nil_iff, problemIf_eq_nil, not_or, not_not, and_assoc] at forQuote
      obtain ⟨buy, _, _, _, inAmount, quotedOut, minimum⟩ := forQuote
      -- Only a BUY is for a quote, so that the role that was looked up is DESTINATION.
      have role : jupiterKind realm (downstream.get "adapterKind") = .ok (some .DESTINATION) := by
        unfold isString at buy
        split at buy
        · rename_i name found
          simp only [decide_eq_true_eq] at buy
          subst buy
          rw [found]
          rfl
        · cases buy
      rw [role, ok_bind] at wellFormed
      simp only [pure_eq_ok, Except.ok.injEq, jupiterProblems, List.append_eq_nil_iff, problemIf_eq_nil, not_or, not_not,
        and_assoc, List.flatMap_eq_nil_iff] at wellFormed
      obtain ⟨program, discriminator, protectedRole, addresses, _, _, _, _, _, slippageFine, suffix, count⟩ := wellFormed
      have address (field : String) (known : field ∈ addressFields) : Plain (downstream.get field) :=
        plain_of_isAddressString (addresses field known)
      refine record_plain bindingFields (by rfl) (by decide) ?_
      simp only [bindingFields, List.map_cons, List.map_nil, List.forall_mem_cons]
      exact ⟨plain_of_isString buy, plain_of_isString program, plain_of_isString discriminator, plain_of_isString protectedRole,
        address _ (by decide), address _ (by decide), address _ (by decide), address _ (by decide), address _ (by decide),
        address _ (by decide), address _ (by decide), plain_of_isBigint inAmount, plain_of_isBigint quotedOut,
        plain_of_slippageProblems slippageFine slippage, plain_of_isBigint minimum, plain_of_isCommitmentHex suffix,
        plain_of_count count, by simp⟩
theorem content_plain {content : ExecutionPlanContent} (quote : Plain content.quote.toValue)
    (state : Plain (stateValue content.economicState)) (route : Plain content.route.toValue)
    (downstream : Plain content.downstream) : Plain content.toValue := by
  refine record_plain contentNames rfl (by decide) ?_
  simp only [List.map_cons, List.map_nil, List.forall_mem_cons]
  exact ⟨.string _, content.selectedRepresentation.plain, quote, .string _, state, policyValue_plain _, .bigint _, .bigint _,
    orNull_plain .bigint _, route, .string _, .string _, .string _, orNull_plain .string _,
    orNull_plain RerouteDisclosure.plain _, orNull_plain .string _, .bigint _, .bigint _, downstream, by simp⟩

section
variable {sha256Hex : Text → Text} {consents : Consent.Consents} {decision : ExecutionDecision} {request : PlanRequest}

/-- A request whose quote and binding have keys gets its plan. -/
theorem planOf_returns {key : Text} (keyed : quoteKey request.quote = .ok key)
    (downstream : Plain (canonicalDownstream request.downstream)) :
    ∃ plan, planOf sha256Hex consents decision request = .ok plan := by
  obtain ⟨quote, route, state⟩ := plain_of_quoteKey keyed
  obtain ⟨contentKey, found⟩ := keyOf_returns
    (@content_plain (planContent consents decision request key) quote state route downstream)
  unfold planOf planDigestOf
  rw [keyed, ok_bind]
  dsimp only
  rw [found]
  exact ⟨_, rfl⟩
/-- The fields of a plan that was made are consistent, if its own copy of the binding is in order. -/
theorem planConsistent_made {realm : Realm} {plan : ExecutionPlan} (made : planOf sha256Hex consents decision request = .ok plan)
    (mint : request.selected.mint = request.quote.mint)
    (wellFormed : downstreamProblems realm (canonicalDownstream request.downstream) = .ok [])
    (forQuote : jupiterQuoteMismatches (canonicalDownstream request.downstream) request.quote request.selected.mint = []) :
    planConsistent realm plan = .ok true := by
  obtain ⟨key, keyed, content, _⟩ := planOf_eq_ok made
  obtain ⟨_, route, state⟩ := plain_of_quoteKey keyed
  obtain ⟨routeKey, routeKeyed⟩ := keyOf_returns route
  obtain ⟨stateKey, stateKeyed⟩ := keyOf_returns state
  unfold planConsistent isDownstreamBinding
  rw [content]
  simp [planContent, keyed, routeKeyed, stateKeyed, mint, wellFormed, pure_eq_ok]
  exact mint ▸ forQuote
/-- And it is verified, until it is consumed, with what it was made from. -/
theorem verifyExecutionPlan_made {realm : Realm} {registry : Registry} {number : Nat} {plan : ExecutionPlan}
    {presented : Presented} (made : planOf sha256Hex consents decision request = .ok plan)
    (found : registry.issuedPlans[number]? = some plan) (unused : number ∉ registry.consumedPlans)
    (consistent : planConsistent realm plan = .ok true) (quoted : presented.quote = request.quote)
    (compared : ∀ reroute, request.reroute = some reroute → presented.comparison = some reroute.comparison ∧
      reroute.disclosure.comparisonKey = reroute.comparison.comparisonKey ∧
      reroute.comparison.alternativeQuote = request.quote) :
    verifyExecutionPlan realm sha256Hex registry number presented = .ok () := by
  obtain ⟨key, keyed, content, digested⟩ := planOf_eq_ok made
  have same := quoteMismatches_self keyed
  have comparison : verifyComparison plan presented = .ok () := by
    unfold verifyComparison
    rw [content]
    cases rerouted : request.reroute with
    | none => simp [planContent, rerouted]
    | some reroute =>
      obtain ⟨shown, disclosed, executed⟩ := compared reroute rerouted
      simp [planContent, rerouted, shown, disclosed, executed, same, refuse_if_eq_ok]
  unfold verifyExecutionPlan
  rw [found]
  dsimp only
  rw [refuse_if_bind, if_neg unused, digested, ok_bind, refuse_if_bind, if_neg (not_not.mpr rfl), consistent, ok_bind,
    refuse_if_bind, if_neg (not_not.mpr rfl), content, planContent, quoted]
  dsimp only
  rw [same, ok_bind, refuse_if_bind, if_neg (not_not.mpr rfl)]
  exact comparison
theorem negativeZero_not_keyed : ¬ Keyed .negativeZero := by
  rintro ⟨json, encoded⟩
  rw [encode] at encoded
  cases encoded
/-- The signed zero passed as a slippage, but a plan that holds it has no digest. -/
theorem planOf_signed (signed : SignedSlippage request.downstream) :
    ∃ failure, planOf sha256Hex consents decision request = .error failure := by
  cases made : planOf sha256Hex consents decision request with
  | error failure => exact ⟨failure, rfl⟩
  | ok plan =>
    obtain ⟨key, _, contentEq, digested⟩ := planOf_eq_ok made
    rw [contentEq] at digested
    obtain ⟨contentKey, found, _⟩ := bind_eq_ok.mp digested
    have content := keyed_of_key (keyOf_eq_ok.mp found)
    have downstream : Keyed (canonicalDownstream request.downstream) :=
      content.field (List.mem_map_of_mem (show ("downstream", canonicalDownstream request.downstream) ∈ _ by simp [planContent]))
    rw [canonicalDownstream, if_neg (by simp [signed.1])] at downstream
    have slippage := downstream.field (List.mem_map_of_mem
      (List.mem_map_of_mem (show "slippageBps" ∈ bindingFields by decide)))
    dsimp only at slippage
    rw [signed.2] at slippage
    exact absurd slippage negativeZero_not_keyed
end

end EquityGuard.PlanContents
