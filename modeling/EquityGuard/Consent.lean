import EquityGuard.Decisions

/-!
Consent to one exact disclosure, as a capability: records that only `grantConsent`
issues, each consumed at most once.
-/
namespace EquityGuard.Consent
open EquityGuard.Canonical EquityGuard.Compare EquityGuard.Decisions EquityGuard.Errors EquityGuard.Failures
open EquityGuard.JsonText EquityGuard.JsValue EquityGuard.Quotes

structure ConsentRecord where
  consentId : Text
  comparisonKey : Text
  disclosureDigest : Text
  underlying : Text
  preferredMint : Text
  alternativeMint : Text
  inputRaw : Int
  preferredQuoteKey : Text
  alternativeQuoteKey : Text
  additionalCostBps : Int
  maxAdditionalCostBps : Int
  issuedAtSlot : Int
  expiresAtSlot : Int
structure ConsentContext where
  decision : DecisionResult
  comparison : QuoteComparison
  reroutePolicy : ReroutePolicy
  currentSlot : Int
structure GrantContext extends ConsentContext where
  maxAdditionalCostBps : Int
  validForSlots : Int

/-- The two sets of the module. Objects are known by identity alone: number `i` is the record that was
    issued `i`-th, frozen as it was made, and every other number is an object that was made elsewhere. -/
structure Consents where
  issued : List ConsentRecord
  consumed : List Nat
def Consents.empty : Consents := ⟨[], []⟩

section
variable (sha256Hex : Text → Text)

def issueIf (condition : Prop) [Decidable condition] (code : ConsentErrorCode) (detail : Message) : List ConsentIssue :=
  pushIf condition ⟨code, detail⟩
/-- `a !== quoteKey(x) || b !== quoteKey(y)`: the second key is asked for only if the first agrees. -/
def quotesDiffer (record : ConsentRecord) (comparison : QuoteComparison) : Attempt Bool := do
  if record.preferredQuoteKey ≠ (← quoteKey comparison.preferredQuote) then return true
  else return decide (record.alternativeQuoteKey ≠ (← quoteKey comparison.alternativeQuote))
/-- The issues of a record with a decision that offers a reroute. -/
def offerIssues (record : ConsentRecord) (disclosure : RerouteDisclosure) (context : ConsentContext) :
    Attempt (List ConsentIssue) := do
  let comparison := context.comparison
  let digest ← disclosureDigestOf sha256Hex disclosure.toDisclosureContent
  let quotes ← quotesDiffer record comparison
  return issueIf (record.comparisonKey ≠ comparison.comparisonKey ∨ disclosure.comparisonKey ≠ comparison.comparisonKey)
      .COMPARISON_MISMATCH ["consent was given to a different comparison"] ++
    issueIf (record.disclosureDigest ≠ disclosure.disclosureDigest ∨ digest ≠ disclosure.disclosureDigest)
      .DISCLOSURE_MISMATCH ["consent was given to a different disclosure"] ++
    issueIf (record.underlying ≠ comparison.underlying ∨ record.preferredMint ≠ comparison.preferredMint ∨
        record.alternativeMint ≠ comparison.alternativeMint ∨ record.inputRaw ≠ comparison.inputRaw)
      .TRADE_MISMATCH ["underlying, representations or input amount differ"] ++
    issueIf (quotes = true) .QUOTE_MISMATCH ["quotes, routes or economic states differ from the consented ones"] ++
    issueIf (record.additionalCostBps ≠ comparison.additionalCostBps)
      .COST_MISMATCH [record.additionalCostBps, " != ", comparison.additionalCostBps, " bps"] ++
    issueIf (comparison.additionalCostBps > record.maxAdditionalCostBps) .COST_ABOVE_ACCEPTED_MAX
      [comparison.additionalCostBps, " bps > accepted ", record.maxAdditionalCostBps, " bps"] ++
    ((exceedsCostLimit comparison context.reroutePolicy).map (ConsentIssue.mk .OUTSIDE_POLICY_COST_LIMIT)).toList
def recordIssues (record : ConsentRecord) (used : Bool) (context : ConsentContext) : Attempt (List ConsentIssue) := do
  let early := issueIf (used = true) .CONSUMED ["consent ", record.consentId, " was already used"] ++
    issueIf (context.currentSlot > record.expiresAtSlot) .EXPIRED
      ["slot ", context.currentSlot, " > expiresAtSlot ", record.expiresAtSlot]
  match context.decision.decision, context.decision.disclosure with
  | .REQUIRES_CONSENT, some disclosure => return early ++ (← offerIssues sha256Hex record disclosure context)
  | decision, _ => return early ++ [⟨.NOT_A_CONSENT_DECISION, ["decision is ", decision.name]⟩]
/-- Every reason a consent does not authorize a reroute. -/
def consentIssues (consents : Consents) (consent : Nat) (context : ConsentContext) : Attempt (List ConsentIssue) :=
  match consents.issued[consent]? with
  | none => return [⟨.NOT_ISSUED, ["consent records can only come from grantConsent"]⟩]
  | some record => recordIssues sha256Hex record (consents.consumed.contains consent) context

/-- The record of a grant, before it is issued. -/
def recordFor (nonce : Text) (context : GrantContext) : Attempt ConsentRecord := do
  refuse_if (context.maxAdditionalCostBps < 0 ∨ context.validForSlots ≤ 0)
    (.ConsentError [⟨.INVALID_GRANT, ["maxAdditionalCostBps must be >= 0 and validForSlots > 0"]⟩])
  match context.decision.decision, context.decision.disclosure with
  | .REQUIRES_CONSENT, some disclosure =>
    return {
      consentId := nonce
      comparisonKey := disclosure.comparisonKey
      disclosureDigest := disclosure.disclosureDigest
      underlying := context.comparison.underlying
      preferredMint := context.comparison.preferredMint
      alternativeMint := context.comparison.alternativeMint
      inputRaw := context.comparison.inputRaw
      preferredQuoteKey := ← quoteKey context.comparison.preferredQuote
      alternativeQuoteKey := ← quoteKey context.comparison.alternativeQuote
      additionalCostBps := context.comparison.additionalCostBps
      maxAdditionalCostBps := context.maxAdditionalCostBps
      issuedAtSlot := context.currentSlot
      expiresAtSlot := context.currentSlot + context.validForSlots }
  | decision, _ => throw (.ConsentError [⟨.NOT_A_CONSENT_DECISION, ["decision is ", decision.name]⟩])
/-- The record is issued before it is judged, and consumed if it would not authorize its own decision. -/
def grantConsent (consents : Consents) (nonce : Text) (context : GrantContext) : Attempt Nat × Consents :=
  match recordFor nonce context with
  | .error failure => (.error failure, consents)
  | .ok record =>
    let consent := consents.issued.length
    let issued : Consents := { consents with issued := consents.issued ++ [record] }
    match consentIssues sha256Hex issued consent context.toConsentContext with
    | .error failure => (.error failure, issued)
    | .ok [] => (.ok consent, issued)
    | .ok issues => (.error (.ConsentError issues), { issued with consumed := consent :: issued.consumed })
/-- Verifies and consumes in one step: the sets after it, or a refusal that leaves them. -/
def consumeConsent (consents : Consents) (consent : Nat) (context : ConsentContext) : Attempt Consents := do
  let issues ← consentIssues sha256Hex consents consent context
  refuse_if (issues ≠ []) (.ConsentError issues)
  return { consents with consumed := consent :: consents.consumed }
end

/-! ### What a consent without issues says -/

/-- A record authorizes the offer of a context, and covers exactly it. -/
structure Authorizes (sha256Hex : Text → Text) (record : ConsentRecord) (disclosure : RerouteDisclosure)
    (context : ConsentContext) : Prop where
  fresh : context.currentSlot ≤ record.expiresAtSlot
  offered : context.decision.decision = .REQUIRES_CONSENT
  disclosed : context.decision.disclosure = some disclosure
  comparisonKey : record.comparisonKey = context.comparison.comparisonKey ∧
    disclosure.comparisonKey = context.comparison.comparisonKey
  disclosureDigest : record.disclosureDigest = disclosure.disclosureDigest ∧
    disclosureDigestOf sha256Hex disclosure.toDisclosureContent = .ok disclosure.disclosureDigest
  underlying : record.underlying = context.comparison.underlying
  preferredMint : record.preferredMint = context.comparison.preferredMint
  alternativeMint : record.alternativeMint = context.comparison.alternativeMint
  inputRaw : record.inputRaw = context.comparison.inputRaw
  preferredQuoteKey : quoteKey context.comparison.preferredQuote = .ok record.preferredQuoteKey
  alternativeQuoteKey : quoteKey context.comparison.alternativeQuote = .ok record.alternativeQuoteKey
  additionalCostBps : record.additionalCostBps = context.comparison.additionalCostBps
  accepted : context.comparison.additionalCostBps ≤ record.maxAdditionalCostBps
  affordable : exceedsCostLimit context.comparison context.reroutePolicy = none

section
variable {sha256Hex : Text → Text} {consents : Consents} {consent : Nat} {context : ConsentContext} {record : ConsentRecord}

@[simp] theorem issueIf_eq_nil {condition : Prop} [Decidable condition] {code : ConsentErrorCode} {detail : Message} :
    issueIf condition code detail = [] ↔ ¬ condition := pushIf_eq_nil
theorem quotesDiffer_eq_false {comparison : QuoteComparison} : quotesDiffer record comparison = .ok false ↔
    quoteKey comparison.preferredQuote = .ok record.preferredQuoteKey ∧
      quoteKey comparison.alternativeQuote = .ok record.alternativeQuoteKey := by
  unfold quotesDiffer
  constructor
  · intro agreed
    obtain ⟨preferredKey, preferred, agreed⟩ := bind_eq_ok.mp agreed
    split at agreed
    · cases agreed
    · rename_i preferredSame
      obtain ⟨alternativeKey, alternative, agreed⟩ := bind_eq_ok.mp agreed
      have alternativeSame : record.alternativeQuoteKey = alternativeKey := by simpa [pure_eq_ok] using agreed
      rw [not_not.mp preferredSame, alternativeSame]
      exact ⟨preferred, alternative⟩
  · rintro ⟨preferred, alternative⟩
    simp [preferred, alternative, pure_eq_ok]
theorem offerIssues_eq_nil {disclosure : RerouteDisclosure} (clean : offerIssues sha256Hex record disclosure context = .ok [])
    (fresh : context.currentSlot ≤ record.expiresAtSlot) (offered : context.decision.decision = .REQUIRES_CONSENT)
    (disclosed : context.decision.disclosure = some disclosure) : Authorizes sha256Hex record disclosure context := by
  unfold offerIssues at clean
  obtain ⟨digest, digested, clean⟩ := bind_eq_ok.mp clean
  obtain ⟨quotes, compared, clean⟩ := bind_eq_ok.mp clean
  simp only [pure_eq_ok, Except.ok.injEq, List.append_eq_nil_iff, issueIf_eq_nil, not_or, not_not, and_assoc,
    Option.toList_eq_nil_iff, Option.map_eq_none_iff, not_lt, gt_iff_lt, Bool.not_eq_true] at clean
  obtain ⟨recordKey, disclosureKey, recordDigest, sameDigest, underlying, preferredMint, alternativeMint, inputRaw, agreed,
    cost, accepted, affordable⟩ := clean
  subst agreed sameDigest
  obtain ⟨preferred, alternative⟩ := quotesDiffer_eq_false.mp compared
  exact {
    fresh
    offered
    disclosed
    comparisonKey := ⟨recordKey, disclosureKey⟩
    disclosureDigest := ⟨recordDigest, digested⟩
    underlying
    preferredMint
    alternativeMint
    inputRaw
    preferredQuoteKey := preferred
    alternativeQuoteKey := alternative
    additionalCostBps := cost
    accepted
    affordable }
/-- A consent without issues was issued, was not consumed, and authorizes exactly this reroute now. -/
theorem consentIssues_eq_nil (clean : consentIssues sha256Hex consents consent context = .ok []) :
    ∃ record disclosure, consents.issued[consent]? = some record ∧ consent ∉ consents.consumed ∧
      Authorizes sha256Hex record disclosure context := by
  unfold consentIssues at clean
  split at clean
  · cases clean
  · rename_i record found
    unfold recordIssues at clean
    dsimp only at clean
    split at clean
    · rename_i disclosure offered disclosed
      obtain ⟨issues, offer, clean⟩ := bind_eq_ok.mp clean
      simp only [pure_eq_ok, Except.ok.injEq, List.append_eq_nil_iff, issueIf_eq_nil, List.contains_iff_mem, not_lt,
        gt_iff_lt] at clean
      obtain ⟨⟨unused, fresh⟩, rfl⟩ := clean
      exact ⟨record, disclosure, found, unused, offerIssues_eq_nil offer fresh offered disclosed⟩
    · simp [pure_eq_ok] at clean

/-! ### The sets after each operation -/

theorem consumeConsent_eq_ok {after : Consents} (consumed : consumeConsent sha256Hex consents consent context = .ok after) :
    consentIssues sha256Hex consents consent context = .ok [] ∧
      after = { consents with consumed := consent :: consents.consumed } := by
  unfold consumeConsent at consumed
  obtain ⟨issues, judged, consumed⟩ := bind_eq_ok.mp consumed
  obtain ⟨clean, consumed⟩ := then_eq_ok.mp consumed
  cases consumed
  rw [refuse_if_eq_ok, not_not] at clean
  subst clean
  exact ⟨judged, rfl⟩
theorem recordFor_eq_ok {nonce : Text} {grant : GrantContext} (made : recordFor nonce grant = .ok record) :
    (∃ disclosure, grant.decision.decision = .REQUIRES_CONSENT ∧ grant.decision.disclosure = some disclosure) ∧
      quoteKey grant.comparison.preferredQuote = .ok record.preferredQuoteKey ∧
      quoteKey grant.comparison.alternativeQuote = .ok record.alternativeQuoteKey := by
  unfold recordFor at made
  obtain ⟨_, made⟩ := then_eq_ok.mp made
  split at made
  · rename_i disclosure offered disclosed
    obtain ⟨preferredKey, preferred, made⟩ := bind_eq_ok.mp made
    obtain ⟨alternativeKey, alternative, made⟩ := bind_eq_ok.mp made
    cases made
    exact ⟨⟨disclosure, offered, disclosed⟩, preferred, alternative⟩
  · cases made
/-- Once its record is made, a grant is judged without another exception. -/
theorem consentIssues_returns {nonce : Text} {grant : GrantContext} (made : recordFor nonce grant = .ok record)
    (found : consents.issued[consent]? = some record) :
    ∃ issues, consentIssues sha256Hex consents consent grant.toConsentContext = .ok issues := by
  obtain ⟨⟨disclosure, offered, disclosed⟩, preferred, alternative⟩ := recordFor_eq_ok made
  obtain ⟨digest, digested⟩ := disclosureDigestOf_returns sha256Hex disclosure.toDisclosureContent
  unfold consentIssues
  rw [found]
  unfold recordIssues offerIssues
  rw [offered, disclosed]
  simp only [digested, quotesDiffer_eq_false.mpr ⟨preferred, alternative⟩, ok_bind, pure_eq_ok]
  exact ⟨_, rfl⟩
/-- A grant returns a record that it issued, or throws; a record that it issued and did not return is consumed. -/
theorem grantConsent_cases (sha256Hex : Text → Text) (consents : Consents) (nonce : Text) (grant : GrantContext) :
    (∃ failure, grantConsent sha256Hex consents nonce grant = (.error failure, consents)) ∨
    (∃ record, recordFor nonce grant = .ok record ∧ grantConsent sha256Hex consents nonce grant =
      (.ok consents.issued.length, { consents with issued := consents.issued ++ [record] })) ∨
    ∃ record failure, grantConsent sha256Hex consents nonce grant = (.error failure,
      { issued := consents.issued ++ [record], consumed := consents.issued.length :: consents.consumed }) := by
  unfold grantConsent
  cases made : recordFor nonce grant with
  | error failure => exact .inl ⟨failure, rfl⟩
  | ok record =>
    dsimp only
    obtain ⟨issues, judged⟩ := @consentIssues_returns sha256Hex { consents with issued := consents.issued ++ [record] }
      consents.issued.length record nonce grant made (by simp)
    rw [judged]
    cases issues with
    | nil => exact .inr (.inl ⟨record, rfl, rfl⟩)
    | cons issue rest => exact .inr (.inr ⟨record, _, rfl⟩)
/-- A record that authorizes an offer, and was not consumed, has no issue with it. -/
theorem consentIssues_of_authorizes {disclosure : RerouteDisclosure} (found : consents.issued[consent]? = some record)
    (unused : consent ∉ consents.consumed) (authorizes : Authorizes sha256Hex record disclosure context) :
    consentIssues sha256Hex consents consent context = .ok [] := by
  have fresh : ¬ context.currentSlot > record.expiresAtSlot := not_lt.mpr authorizes.fresh
  have accepted : ¬ context.comparison.additionalCostBps > record.maxAdditionalCostBps := not_lt.mpr authorizes.accepted
  unfold consentIssues
  rw [found]
  unfold recordIssues offerIssues
  rw [authorizes.offered, authorizes.disclosed]
  simp only [authorizes.disclosureDigest.2, ok_bind,
    quotesDiffer_eq_false.mpr ⟨authorizes.preferredQuoteKey, authorizes.alternativeQuoteKey⟩, pure_eq_ok, Except.ok.injEq,
    List.append_eq_nil_iff, issueIf_eq_nil, List.contains_iff_mem, unused, fresh, accepted, authorizes.comparisonKey.1,
    authorizes.comparisonKey.2, authorizes.disclosureDigest.1, authorizes.underlying, authorizes.preferredMint,
    authorizes.alternativeMint, authorizes.inputRaw, authorizes.additionalCostBps, authorizes.affordable]
  simp
/-- Consent to an offer within its policy is granted, and authorizes it. -/
theorem grantConsent_returns {nonce : Text} {grant : GrantContext} {disclosure : RerouteDisclosure}
    {preferredKey alternativeKey : Text} (maximum : 0 ≤ grant.maxAdditionalCostBps) (valid : 0 < grant.validForSlots)
    (offered : grant.decision.decision = .REQUIRES_CONSENT) (disclosed : grant.decision.disclosure = some disclosure)
    (key : disclosure.comparisonKey = grant.comparison.comparisonKey)
    (digested : disclosureDigestOf sha256Hex disclosure.toDisclosureContent = .ok disclosure.disclosureDigest)
    (preferred : quoteKey grant.comparison.preferredQuote = .ok preferredKey)
    (alternative : quoteKey grant.comparison.alternativeQuote = .ok alternativeKey)
    (accepted : grant.comparison.additionalCostBps ≤ grant.maxAdditionalCostBps)
    (affordable : exceedsCostLimit grant.comparison grant.reroutePolicy = none)
    (unused : consents.issued.length ∉ consents.consumed) :
    ∃ record, Authorizes sha256Hex record disclosure grant.toConsentContext ∧
      record.expiresAtSlot = grant.currentSlot + grant.validForSlots ∧ grantConsent sha256Hex consents nonce grant =
        (.ok consents.issued.length, { consents with issued := consents.issued ++ [record] }) := by
  have bounds : ¬ (grant.maxAdditionalCostBps < 0 ∨ grant.validForSlots ≤ 0) := by omega
  have made : ∃ record, recordFor nonce grant = .ok record ∧ Authorizes sha256Hex record disclosure grant.toConsentContext ∧
      record.expiresAtSlot = grant.currentSlot + grant.validForSlots := by
    unfold recordFor
    rw [refuse_if_bind, if_neg bounds, offered, disclosed]
    dsimp only
    rw [preferred, ok_bind, alternative]
    refine ⟨_, rfl, ?_, rfl⟩
    have slots : grant.currentSlot ≤ grant.currentSlot + grant.validForSlots := by omega
    exact ⟨slots, offered, disclosed, ⟨key, key⟩, ⟨rfl, digested⟩, rfl, rfl, rfl, rfl, preferred, alternative, rfl, accepted,
      affordable⟩
  obtain ⟨record, made, authorizes, expires⟩ := made
  refine ⟨record, authorizes, expires, ?_⟩
  have clean := @consentIssues_of_authorizes sha256Hex { consents with issued := consents.issued ++ [record] }
    consents.issued.length grant.toConsentContext record disclosure (by simp) unused authorizes
  unfold grantConsent
  rw [made]
  dsimp only
  rw [clean]
end

end EquityGuard.Consent
