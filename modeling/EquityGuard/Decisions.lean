import EquityGuard.Compare

/-!
The decision between two representations, from their states and a comparison alone.
The most it offers is a disclosed reroute that still needs consent.
-/
namespace EquityGuard.Decisions
open EquityGuard.Canonical EquityGuard.Compare EquityGuard.Errors EquityGuard.Failures EquityGuard.JsonText
open EquityGuard.JsValue EquityGuard.Normalize EquityGuard.Records EquityGuard.Representations

/-! ### Types -/

inductive Decision where
  | USE_PREFERRED
  | REQUIRES_CONSENT
  | USE_ALTERNATIVE
  | NO_SAFE_ROUTE
  | NO_ACCEPTABLE_ROUTE
  | UNKNOWN_STATE
deriving DecidableEq
inductive DecisionReasonCode where
  | PREFERRED_SAFE
  | PREFERRED_STATE_UNKNOWN
  | PREFERRED_STATE_CONFLICT
  | NO_ALTERNATIVE
  | ALTERNATIVE_STATE_UNKNOWN
  | ALTERNATIVE_STATE_CONFLICT
  | ALTERNATIVE_NOT_SAFE
  | ALTERNATIVE_NOT_SAME_UNDERLYING
  | ALTERNATIVE_QUOTE_UNAVAILABLE
  | QUOTE_COMPARISON_MISMATCH
  | QUOTE_COMPARISON_STALE_STATE
  | ALTERNATIVE_OUTSIDE_TOLERANCE
  | CONSENT_REQUIRED
  | CONSENT_GIVEN
deriving DecidableEq
def Decision.name : Decision → Text
  | USE_PREFERRED => "USE_PREFERRED"
  | REQUIRES_CONSENT => "REQUIRES_CONSENT"
  | USE_ALTERNATIVE => "USE_ALTERNATIVE"
  | NO_SAFE_ROUTE => "NO_SAFE_ROUTE"
  | NO_ACCEPTABLE_ROUTE => "NO_ACCEPTABLE_ROUTE"
  | UNKNOWN_STATE => "UNKNOWN_STATE"
def DecisionReasonCode.name : DecisionReasonCode → Text
  | PREFERRED_SAFE => "PREFERRED_SAFE"
  | PREFERRED_STATE_UNKNOWN => "PREFERRED_STATE_UNKNOWN"
  | PREFERRED_STATE_CONFLICT => "PREFERRED_STATE_CONFLICT"
  | NO_ALTERNATIVE => "NO_ALTERNATIVE"
  | ALTERNATIVE_STATE_UNKNOWN => "ALTERNATIVE_STATE_UNKNOWN"
  | ALTERNATIVE_STATE_CONFLICT => "ALTERNATIVE_STATE_CONFLICT"
  | ALTERNATIVE_NOT_SAFE => "ALTERNATIVE_NOT_SAFE"
  | ALTERNATIVE_NOT_SAME_UNDERLYING => "ALTERNATIVE_NOT_SAME_UNDERLYING"
  | ALTERNATIVE_QUOTE_UNAVAILABLE => "ALTERNATIVE_QUOTE_UNAVAILABLE"
  | QUOTE_COMPARISON_MISMATCH => "QUOTE_COMPARISON_MISMATCH"
  | QUOTE_COMPARISON_STALE_STATE => "QUOTE_COMPARISON_STALE_STATE"
  | ALTERNATIVE_OUTSIDE_TOLERANCE => "ALTERNATIVE_OUTSIDE_TOLERANCE"
  | CONSENT_REQUIRED => "CONSENT_REQUIRED"
  | CONSENT_GIVEN => "CONSENT_GIVEN"

structure ReroutePolicy where
  maxAdditionalCostBps : Int
structure RepresentationSummary where
  issuer : Text
  symbol : Text
  mint : Text
  state : Option RepresentationState
  stateSource : Option StateSource
deriving DecidableEq
/-- What a user is shown, and what the digest of a disclosure covers. -/
structure DisclosureContent where
  underlying : Text
  original : RepresentationSummary
  alternative : RepresentationSummary
  reason : Text
  additionalCostBps : Int
  preferredSharesEquivalent : Text
  alternativeSharesEquivalent : Text
  economicEffect : EconomicEffect
  notice : Text
  comparisonKey : Text
  inputRaw : Int
  policyMaxAdditionalCostBps : Int
deriving DecidableEq
structure RerouteDisclosure extends DisclosureContent where
  disclosureDigest : Text
deriving DecidableEq
structure DecisionResult where
  decision : Decision
  reasonCode : DecisionReasonCode
  reason : Message
  preferred : ResolvedRepresentationState
  alternative : Option ResolvedRepresentationState
  disclosure : Option RerouteDisclosure
structure DecisionInput where
  preferred : ResolvedRepresentationState
  alternative : Option ResolvedRepresentationState
  reroutePolicy : ReroutePolicy
  inputRaw : Int
  comparison : Option QuoteComparison

def RepresentationSummary.toValue (summary : RepresentationSummary) : Value := record [
  ("issuer", .string summary.issuer),
  ("symbol", .string summary.symbol),
  ("mint", .string summary.mint),
  ("state", orNull (fun state => .string state.name) summary.state),
  ("stateSource", orNull (fun source => .string source.name) summary.stateSource)]
def DisclosureContent.fields (content : DisclosureContent) : List (String × Value) := [
  ("underlying", .string content.underlying),
  ("original", content.original.toValue),
  ("alternative", content.alternative.toValue),
  ("reason", .string content.reason),
  ("additionalCostBps", .bigint content.additionalCostBps),
  ("preferredSharesEquivalent", .string content.preferredSharesEquivalent),
  ("alternativeSharesEquivalent", .string content.alternativeSharesEquivalent),
  ("economicEffect", content.economicEffect.toValue),
  ("notice", .string content.notice),
  ("comparisonKey", .string content.comparisonKey),
  ("inputRaw", .bigint content.inputRaw),
  ("policyMaxAdditionalCostBps", .bigint content.policyMaxAdditionalCostBps)]
def DisclosureContent.toValue (content : DisclosureContent) : Value := record content.fields
def RerouteDisclosure.toValue (disclosure : RerouteDisclosure) : Value :=
  record (disclosure.fields ++ [("disclosureDigest", .string disclosure.disclosureDigest)])

/-! ### Checks -/

def summary (state : ResolvedRepresentationState) : RepresentationSummary :=
  ⟨state.issuer.name, state.symbol, state.mint, state.state, state.stateSource⟩
/-- Why a comparison does not belong to this decision. -/
def comparisonBindingMismatch (comparison : QuoteComparison) (preferred alternative : ResolvedRepresentationState)
    (inputRaw : Int) : List Message :=
  problemIf (comparison.underlying ≠ preferred.underlying)
    ["underlying ", comparison.underlying, " != ", preferred.underlying] ++
  problemIf (comparison.preferredMint ≠ preferred.mint)
    ["preferredMint ", comparison.preferredMint, " != ", preferred.mint] ++
  problemIf (comparison.alternativeMint ≠ alternative.mint)
    ["alternativeMint ", comparison.alternativeMint, " != ", alternative.mint] ++
  problemIf (comparison.inputRaw ≠ inputRaw) ["inputRaw ", comparison.inputRaw, " != ", inputRaw]
def staleSide (role : String) (bound : EconomicState) (state : ResolvedRepresentationState) : List Message :=
  match economicStateOf state.chainObservation with
  | none => [[role, " ", state.symbol, ": no decoded chain state to bind"]]
  | some current => (economicStateMismatches bound current).map (fun field =>
      [role, " ", state.symbol, ": ", .string (text (Quotes.EconomicField.name field))])
/-- Why a comparison was built against another economic state. -/
def comparisonStateMismatch (comparison : QuoteComparison) (preferred alternative : ResolvedRepresentationState) :
    List Message :=
  staleSide "preferred" comparison.preferredQuote.state preferred ++
    staleSide "alternative" comparison.alternativeQuote.state alternative

inductive Unusable where
  | conflict
  | unknown
def unusable (state : ResolvedRepresentationState) : Option Unusable :=
  if state.stateSource = some .CONFLICT then some .conflict
  else if state.state = none ∨ state.state = some .UNKNOWN then some .unknown
  else none
/-- Why a comparison is economically unacceptable. -/
def exceedsCostLimit (comparison : QuoteComparison) (policy : ReroutePolicy) : Option Message :=
  if comparison.alternativeQuote.outputRaw ≤ 0 then some ["the alternative quote delivers nothing"]
  else if comparison.additionalCostBps > policy.maxAdditionalCostBps then
    some ["switching costs ", comparison.additionalCostBps, " bps more, above the ", policy.maxAdditionalCostBps,
      " bps maximum additional cost"]
  else none

/-! ### Deciding -/

def DISCLOSURE_SHARE_DECIMALS : Nat := 12
def NOT_IDENTICAL_NOTICE : Text :=
  "Representations from different issuers are associated with the same underlying equity but are not legally or economically identical."
def stateName (state : Option RepresentationState) : Text :=
  match state with
  | some state => state.name
  | none => "null"

section
variable (sha256Hex : Text → Text)

/-- SHA-256 of a disclosure's canonical content. -/
def disclosureDigestOf (content : DisclosureContent) : Attempt Text := do return sha256Hex (← keyOf content.toValue)
def disclosureFor (preferred alternative : ResolvedRepresentationState) (reason : Text) (comparison : QuoteComparison)
    (inputRaw : Int) (policy : ReroutePolicy) : Attempt RerouteDisclosure := do
  let content : DisclosureContent := {
    underlying := preferred.underlying
    original := summary preferred
    alternative := summary alternative
    reason
    additionalCostBps := comparison.additionalCostBps
    preferredSharesEquivalent := ← formatRationalFloor comparison.preferredSharesEquivalent DISCLOSURE_SHARE_DECIMALS
    alternativeSharesEquivalent := ← formatRationalFloor comparison.alternativeSharesEquivalent DISCLOSURE_SHARE_DECIMALS
    economicEffect := comparison.economicEffect
    notice := NOT_IDENTICAL_NOTICE
    comparisonKey := comparison.comparisonKey
    inputRaw
    policyMaxAdditionalCostBps := policy.maxAdditionalCostBps }
  return { content with disclosureDigest := ← disclosureDigestOf sha256Hex content }
/-- `decide` once a SAFE alternative and a comparison are at hand. -/
def decideReroute (input : DecisionInput) (alternative : ResolvedRepresentationState) (comparison : QuoteComparison)
    (unsafeReason : Text) : Attempt DecisionResult :=
  let result (decision : Decision) (reasonCode : DecisionReasonCode) (reason : Message)
      (disclosure : Option RerouteDisclosure) : DecisionResult :=
    ⟨decision, reasonCode, reason, input.preferred, input.alternative, disclosure⟩
  let mismatch := comparisonBindingMismatch comparison input.preferred alternative input.inputRaw
  let stale := comparisonStateMismatch comparison input.preferred alternative
  if mismatch ≠ [] then
    return result .UNKNOWN_STATE .QUOTE_COMPARISON_MISMATCH
      (unsafeReason :: "; quote comparison does not match this decision: " :: joined mismatch) none
  else if stale ≠ [] then
    return result .UNKNOWN_STATE .QUOTE_COMPARISON_STALE_STATE
      (unsafeReason :: "; quote comparison was built against a different economic state and must be recomputed: " ::
        joined stale) none
  else
    match exceedsCostLimit comparison input.reroutePolicy with
    | some outside =>
      return result .NO_ACCEPTABLE_ROUTE .ALTERNATIVE_OUTSIDE_TOLERANCE
        (unsafeReason :: "; " :: alternative.symbol :: " is SAFE but " :: outside) none
    | none => do
      let disclosure ← disclosureFor sha256Hex input.preferred alternative unsafeReason comparison input.inputRaw
        input.reroutePolicy
      return result .REQUIRES_CONSENT .CONSENT_REQUIRED
        [unsafeReason, "; ", alternative.symbol, " (", alternative.issuer.name, ") is SAFE"] (some disclosure)
protected def decide (input : DecisionInput) : Attempt DecisionResult := do
  refuse_if (input.reroutePolicy.maxAdditionalCostBps < 0)
    (.RangeError ["reroute policy maxAdditionalCostBps must be a non-negative bigint"])
  let preferred := input.preferred
  let result (decision : Decision) (reasonCode : DecisionReasonCode) (reason : Message) : DecisionResult :=
    ⟨decision, reasonCode, reason, preferred, input.alternative, none⟩
  match unusable preferred with
  | some .conflict => return result .UNKNOWN_STATE .PREFERRED_STATE_CONFLICT [preferred.symbol, ": ", preferred.reason]
  | some .unknown => return result .UNKNOWN_STATE .PREFERRED_STATE_UNKNOWN [preferred.symbol, ": ", preferred.reason]
  | none =>
    if preferred.state = some .SAFE then
      return result .USE_PREFERRED .PREFERRED_SAFE [preferred.symbol, " is SAFE"]
    else
      let unsafeReason : Text := preferred.symbol ++ text " is " ++ stateName preferred.state ++ text ": " ++ preferred.reason
      match input.alternative with
      | none => return result .NO_SAFE_ROUTE .NO_ALTERNATIVE [unsafeReason, "; no alternative representation"]
      | some alternative =>
        if alternative.underlying ≠ preferred.underlying ∨ alternative.mint = preferred.mint then
          return result .NO_SAFE_ROUTE .ALTERNATIVE_NOT_SAME_UNDERLYING
            [alternative.symbol, " is not an alternative representation of ", preferred.underlying]
        else
          match unusable alternative with
          | some .conflict =>
            return result .UNKNOWN_STATE .ALTERNATIVE_STATE_CONFLICT
              [unsafeReason, "; ", alternative.symbol, ": ", alternative.reason]
          | some .unknown =>
            return result .UNKNOWN_STATE .ALTERNATIVE_STATE_UNKNOWN
              [unsafeReason, "; ", alternative.symbol, ": ", alternative.reason]
          | none =>
            if alternative.state ≠ some .SAFE then
              return result .NO_SAFE_ROUTE .ALTERNATIVE_NOT_SAFE
                [unsafeReason, "; ", alternative.symbol, " is ", stateName alternative.state]
            else
              match input.comparison with
              | none =>
                return result .UNKNOWN_STATE .ALTERNATIVE_QUOTE_UNAVAILABLE
                  [unsafeReason, "; ", alternative.symbol, " is SAFE but no normalized quote comparison is available"]
              | some comparison => decideReroute sha256Hex input alternative comparison unsafeReason
end

/-! ### What a decision says -/

/-- Everything a reroute is offered for: two representations of one equity, only the other one SAFE, and a
    comparison bound to both of them. -/
structure Offered (input : DecisionInput) (alternative : ResolvedRepresentationState) (comparison : QuoteComparison) :
    Prop where
  preferredKnown : unusable input.preferred = none
  preferredUnsafe : input.preferred.state ≠ some .SAFE
  present : input.alternative = some alternative
  compared : input.comparison = some comparison
  underlying : alternative.underlying = input.preferred.underlying
  mint : alternative.mint ≠ input.preferred.mint
  alternativeKnown : unusable alternative = none
  alternativeSafe : alternative.state = some .SAFE
  bound : comparisonBindingMismatch comparison input.preferred alternative input.inputRaw = []
  current : comparisonStateMismatch comparison input.preferred alternative = []
  affordable : exceedsCostLimit comparison input.reroutePolicy = none

/-- The three outcomes `decide` can have: the preferred one, an offer, or neither. -/
inductive Decided (sha256Hex : Text → Text) (input : DecisionInput) (result : DecisionResult) : Prop where
  | preferred (decision : result.decision = .USE_PREFERRED) (known : unusable input.preferred = none)
      (safe : input.preferred.state = some .SAFE)
  | offered {alternative : ResolvedRepresentationState} {comparison : QuoteComparison} {disclosure : RerouteDisclosure}
      {unsafeReason : Text} (decision : result.decision = .REQUIRES_CONSENT) (reasonCode : result.reasonCode = .CONSENT_REQUIRED)
      (offer : Offered input alternative comparison) (disclosed : result.disclosure = some disclosure)
      (built : disclosureFor sha256Hex input.preferred alternative unsafeReason comparison input.inputRaw
        input.reroutePolicy = .ok disclosure)
  | nothing (decision : result.decision = .NO_SAFE_ROUTE ∨ result.decision = .NO_ACCEPTABLE_ROUTE ∨
      result.decision = .UNKNOWN_STATE)

section
variable {sha256Hex : Text → Text} {input : DecisionInput} {result : DecisionResult}

theorem decideReroute_cases {alternative : ResolvedRepresentationState} {comparison : QuoteComparison} {unsafeReason : Text}
    (decided : decideReroute sha256Hex input alternative comparison unsafeReason = .ok result) :
    result.preferred = input.preferred ∧ result.alternative = input.alternative ∧
      ((result.decision = .NO_ACCEPTABLE_ROUTE ∨ result.decision = .UNKNOWN_STATE) ∨
        (result.decision = .REQUIRES_CONSENT ∧ result.reasonCode = .CONSENT_REQUIRED ∧
          comparisonBindingMismatch comparison input.preferred alternative input.inputRaw = [] ∧
          comparisonStateMismatch comparison input.preferred alternative = [] ∧
          exceedsCostLimit comparison input.reroutePolicy = none ∧
          ∃ disclosure, result.disclosure = some disclosure ∧ disclosureFor sha256Hex input.preferred alternative
            unsafeReason comparison input.inputRaw input.reroutePolicy = .ok disclosure)) := by
  unfold decideReroute at decided
  dsimp only at decided
  split at decided
  · cases decided
    simp
  · rename_i bound
    split at decided
    · cases decided
      simp
    · rename_i current
      split at decided
      · cases decided
        simp
      · rename_i affordable
        obtain ⟨disclosure, built, decided⟩ := bind_eq_ok.mp decided
        cases decided
        refine ⟨rfl, rfl, .inr ⟨rfl, rfl, not_not.mp bound, not_not.mp current, affordable, disclosure, rfl, built⟩⟩
theorem decide_cases (decided : Decisions.decide sha256Hex input = .ok result) :
    result.preferred = input.preferred ∧ result.alternative = input.alternative ∧ Decided sha256Hex input result := by
  unfold Decisions.decide at decided
  obtain ⟨_, decided⟩ := then_eq_ok.mp decided
  dsimp only at decided
  split at decided
  · cases decided
    exact ⟨rfl, rfl, .nothing (by simp)⟩
  · cases decided
    exact ⟨rfl, rfl, .nothing (by simp)⟩
  · rename_i preferredKnown
    split at decided
    · rename_i safe
      cases decided
      exact ⟨rfl, rfl, .preferred rfl preferredKnown safe⟩
    · rename_i preferredUnsafe
      split at decided
      · cases decided
        exact ⟨rfl, rfl, .nothing (by simp)⟩
      · rename_i alternative present
        split at decided
        · cases decided
          exact ⟨rfl, rfl, .nothing (by simp)⟩
        · rename_i representation
          split at decided
          · cases decided
            exact ⟨rfl, rfl, .nothing (by simp)⟩
          · cases decided
            exact ⟨rfl, rfl, .nothing (by simp)⟩
          · rename_i alternativeKnown
            split at decided
            · cases decided
              exact ⟨rfl, rfl, .nothing (by simp)⟩
            · rename_i alternativeSafe
              split at decided
              · cases decided
                exact ⟨rfl, rfl, .nothing (by simp)⟩
              · rename_i comparison compared
                obtain ⟨preferredSame, alternativeSame, refused | offered⟩ := decideReroute_cases decided
                · exact ⟨preferredSame, alternativeSame, .nothing (by tauto)⟩
                · obtain ⟨decision, reasonCode, bound, current, affordable, disclosure, disclosed, built⟩ := offered
                  obtain ⟨underlying, mint⟩ := not_or.mp representation
                  refine ⟨preferredSame, alternativeSame, .offered decision reasonCode ?_ disclosed built⟩
                  exact ⟨preferredKnown, preferredUnsafe, present, compared, not_not.mp underlying, mint, alternativeKnown,
                    not_not.mp alternativeSafe, bound, current, affordable⟩
end

/-! ### Disclosures have keys -/

theorem RepresentationSummary.plain (summary : RepresentationSummary) : Plain summary.toValue := by
  refine record_plain ["issuer", "symbol", "mint", "state", "stateSource"] rfl (by decide) ?_
  simp only [List.map_cons, List.map_nil, List.forall_mem_cons]
  exact ⟨.string _, .string _, .string _, orNull_plain (fun _ => .string _) _, orNull_plain (fun _ => .string _) _, by simp⟩
theorem effect_plain (effect : EconomicEffect) : Plain effect.toValue := by
  cases effect <;>
  · refine record_plain ["kind", "bps"] rfl (by decide) ?_
    simp only [List.map_cons, List.map_nil, List.forall_mem_cons]
    exact ⟨.string _, .bigint _, by simp⟩
theorem DisclosureContent.fields_plain (content : DisclosureContent) : ∀ value ∈ content.fields.map Prod.snd, Plain value := by
  simp only [fields, List.map_cons, List.map_nil, List.forall_mem_cons]
  exact ⟨.string _, content.original.plain, content.alternative.plain, .string _, .bigint _, .string _, .string _,
    effect_plain _, .string _, .string _, .bigint _, .bigint _, by simp⟩
def disclosureNames : List String := ["underlying", "original", "alternative", "reason", "additionalCostBps",
  "preferredSharesEquivalent", "alternativeSharesEquivalent", "economicEffect", "notice", "comparisonKey", "inputRaw",
  "policyMaxAdditionalCostBps"]
theorem DisclosureContent.plain (content : DisclosureContent) : Plain content.toValue :=
  record_plain disclosureNames rfl (by decide) content.fields_plain
theorem RerouteDisclosure.plain (disclosure : RerouteDisclosure) : Plain disclosure.toValue := by
  refine record_plain (disclosureNames ++ ["disclosureDigest"]) rfl (by decide) ?_
  rw [List.map_append, List.forall_mem_append]
  exact ⟨disclosure.toDisclosureContent.fields_plain, by simpa using .string _⟩
theorem disclosureDigestOf_returns (sha256Hex : Text → Text) (content : DisclosureContent) :
    ∃ digest, disclosureDigestOf sha256Hex content = .ok digest := by
  obtain ⟨key, keyed⟩ := keyOf_returns content.plain
  exact ⟨sha256Hex key, by rw [disclosureDigestOf, keyed]; rfl⟩

/-! ### An offer is made -/

theorem formatRationalFloor_returns {value : Rational} (places : Nat) (divisible : value.den ≠ 0) :
    ∃ shown, formatRationalFloor value places = .ok shown := by
  unfold formatRationalFloor
  rw [refuse_if_bind, if_neg divisible]
  exact ⟨_, rfl⟩
theorem disclosureFor_returns (sha256Hex : Text → Text) (preferred alternative : ResolvedRepresentationState) (reason : Text)
    {comparison : QuoteComparison} (inputRaw : Int) (policy : ReroutePolicy)
    (preferredShares : comparison.preferredSharesEquivalent.den ≠ 0)
    (alternativeShares : comparison.alternativeSharesEquivalent.den ≠ 0) :
    ∃ disclosure, disclosureFor sha256Hex preferred alternative reason comparison inputRaw policy = .ok disclosure ∧
      disclosure.comparisonKey = comparison.comparisonKey ∧
      disclosureDigestOf sha256Hex disclosure.toDisclosureContent = .ok disclosure.disclosureDigest := by
  obtain ⟨preferredShown, preferredFormat⟩ := formatRationalFloor_returns DISCLOSURE_SHARE_DECIMALS preferredShares
  obtain ⟨alternativeShown, alternativeFormat⟩ := formatRationalFloor_returns DISCLOSURE_SHARE_DECIMALS alternativeShares
  unfold disclosureFor
  rw [preferredFormat, ok_bind, alternativeFormat, ok_bind]
  dsimp only
  obtain ⟨digest, digested⟩ := disclosureDigestOf_returns sha256Hex {
    underlying := preferred.underlying
    original := summary preferred
    alternative := summary alternative
    reason
    additionalCostBps := comparison.additionalCostBps
    preferredSharesEquivalent := preferredShown
    alternativeSharesEquivalent := alternativeShown
    economicEffect := comparison.economicEffect
    notice := NOT_IDENTICAL_NOTICE
    comparisonKey := comparison.comparisonKey
    inputRaw
    policyMaxAdditionalCostBps := policy.maxAdditionalCostBps }
  rw [digested]
  exact ⟨_, rfl, rfl, digested⟩
/-- A disclosure says what its comparison does. -/
structure DisclosureContent.Describes (content : DisclosureContent) (comparison : QuoteComparison) (inputRaw : Int) : Prop where
  comparisonKey : content.comparisonKey = comparison.comparisonKey
  additionalCostBps : content.additionalCostBps = comparison.additionalCostBps
  inputRaw : content.inputRaw = inputRaw
theorem disclosureFor_describes {sha256Hex : Text → Text} {preferred alternative : ResolvedRepresentationState} {reason : Text}
    {comparison : QuoteComparison} {inputRaw : Int} {policy : ReroutePolicy} {disclosure : RerouteDisclosure}
    (built : disclosureFor sha256Hex preferred alternative reason comparison inputRaw policy = .ok disclosure) :
    disclosure.Describes comparison inputRaw := by
  unfold disclosureFor at built
  obtain ⟨_, _, built⟩ := bind_eq_ok.mp built
  obtain ⟨_, _, built⟩ := bind_eq_ok.mp built
  obtain ⟨_, _, built⟩ := bind_eq_ok.mp built
  cases built
  exact ⟨rfl, rfl, rfl⟩
/-- What can be offered is offered, with the disclosure of its comparison. -/
theorem decide_offers (sha256Hex : Text → Text) {input : DecisionInput} {alternative : ResolvedRepresentationState}
    {comparison : QuoteComparison} (offer : Offered input alternative comparison)
    (policy : 0 ≤ input.reroutePolicy.maxAdditionalCostBps) (preferredShares : comparison.preferredSharesEquivalent.den ≠ 0)
    (alternativeShares : comparison.alternativeSharesEquivalent.den ≠ 0) :
    ∃ result disclosure, Decisions.decide sha256Hex input = .ok result ∧ result.decision = .REQUIRES_CONSENT ∧
      result.preferred = input.preferred ∧ result.alternative = some alternative ∧ result.disclosure = some disclosure ∧
      disclosure.comparisonKey = comparison.comparisonKey ∧
      disclosureDigestOf sha256Hex disclosure.toDisclosureContent = .ok disclosure.disclosureDigest := by
  obtain ⟨disclosure, built, key, digested⟩ := disclosureFor_returns sha256Hex input.preferred alternative
    (input.preferred.symbol ++ text " is " ++ stateName input.preferred.state ++ text ": " ++ input.preferred.reason)
    input.inputRaw input.reroutePolicy preferredShares alternativeShares
  have representation : ¬ (alternative.underlying ≠ input.preferred.underlying ∨ alternative.mint = input.preferred.mint) :=
    not_or.mpr ⟨not_not.mpr offer.underlying, offer.mint⟩
  unfold Decisions.decide
  rw [refuse_if_bind, if_neg (not_lt.mpr policy)]
  dsimp only
  rw [offer.preferredKnown]
  dsimp only
  rw [if_neg offer.preferredUnsafe, offer.present]
  dsimp only
  rw [if_neg representation, offer.alternativeKnown]
  dsimp only
  rw [if_neg (not_not.mpr offer.alternativeSafe), offer.compared]
  dsimp only [decideReroute]
  rw [if_neg (not_not.mpr offer.bound), if_neg (not_not.mpr offer.current), offer.affordable]
  dsimp only
  rw [built]
  exact ⟨_, disclosure, rfl, rfl, rfl, offer.present, rfl, key, digested⟩

end EquityGuard.Decisions
