import EquityGuard.ChainObservation
import EquityGuard.Execution

/-!
The state of an Ondo representation, from chain evidence and an observation of the
issuer's API. The sources that count are reconciled only where they agree, and a state
that they leave open or that the API alone vouches for is never traded on.
-/
namespace EquityGuard.OndoAdapter
open EquityGuard.ChainObservation EquityGuard.Consent EquityGuard.Decisions EquityGuard.Errors EquityGuard.Execution
open EquityGuard.Failures EquityGuard.JsonText EquityGuard.JsValue EquityGuard.Quotes EquityGuard.Representations

/-! ### Types -/

inductive ApiStatus where
  | active
  | paused
  | transition
  | unknown
deriving DecidableEq
/-- The last one is what the code still guards against: anything that is neither of the two. -/
inductive ApiSourceClass where
  | LIVE_API_STATE
  | HISTORICAL_API_STATE
  | unrecognized
deriving DecidableEq
def ApiStatus.name : ApiStatus → Text
  | active => "active"
  | paused => "paused"
  | transition => "transition"
  | unknown => "unknown"
structure ApiObservation where
  issuer : Issuer
  symbol : Text
  observedAt : Text
  status : ApiStatus
  detail : Option Text
  calibration : Calibration
  sourceClass : ApiSourceClass
  validUntil : Option Text
structure Representation where
  underlying : Text
  issuer : Issuer
  symbol : Text
  mint : Text
structure ResolvedOndoState extends ResolvedRepresentationState where
  chainState : Option RepresentationState
  apiState : Option RepresentationState
  slot : Option Int
  blockTime : Option Int
  observedAt : Option Text
  apiObservation : Option ApiObservation
inductive OndoError where
  | RegistryError (message : Message)
  | TransitionPolicyError (error : ChainObservation.TransitionPolicyError)

def ChainEvidence.context : ChainEvidence → Context
  | .decoded observation => observation.toContext
  | .decodeError context _ _ => context
/-- A template literal with strings and bigints in it, as the text it is. -/
def templateText (message : Message) : Text := message.flatMap (fun part =>
  match part with
  | .string string => string
  | .bigint number => decimal number
  | _ => [])

/-! ### Resolving -/

def API_STATUS_TO_STATE : ApiStatus → RepresentationState
  | .active => .SAFE
  | .paused => .PAUSED
  | .transition => .TRANSITION
  | .unknown => .UNKNOWN
structure ApiUse where
  state : Option RepresentationState
  reason : Text

section
-- `Date.parse`, with no value for `NaN`.
variable (dateParse : Text → Option Int)

/-- How an observation may be used at a time: its state, or nothing where it must be ignored. -/
def apiEvidenceUse (api : ApiObservation) (evaluatedAt : Option Text) : ApiUse :=
  match api.sourceClass with
  | .HISTORICAL_API_STATE =>
    ⟨none, templateText ["historical API evidence (", api.observedAt, ") ignored: never live state"]⟩
  | .unrecognized => ⟨some .UNKNOWN, "API evidence without a known source class"⟩
  | .LIVE_API_STATE =>
    match api.validUntil.bind dateParse, evaluatedAt.bind dateParse with
    | some bound, some now =>
      if now > bound then ⟨some .UNKNOWN, templateText ["live API evidence expired at ", api.validUntil.getD "null"]⟩
      else ⟨some (API_STATUS_TO_STATE api.status),
        templateText ["status ", api.status.name, " (live until ", api.validUntil.getD "null", ")"]⟩
    | _, _ => ⟨some .UNKNOWN, "live API evidence without a freshness bound or evaluation time"⟩
def assertChainFor (representation : Representation) : Option ChainEvidence → Except OndoError Unit
  | some chain => refuse_if ((ChainEvidence.context chain).mint ≠ representation.mint)
      (.RegistryError ["chain evidence mint ", (ChainEvidence.context chain).mint, " does not match ", representation.symbol])
  | none => return ()
def assertApiFor (representation : Representation) : Option ApiObservation → Except OndoError Unit
  | some api => refuse_if (api.symbol ≠ representation.symbol ∨ api.issuer ≠ .Ondo)
      (.RegistryError ["API evidence ", api.issuer.name, ":", api.symbol, " does not match ", representation.symbol])
  | none => return ()
def chainClassOf (policy : TransitionPolicy) : Option ChainEvidence → Except OndoError (Option Classification)
  | some chain => do return some (← (classifyChainEvidence chain policy).mapError .TransitionPolicyError)
  | none => return none
def resolveOndoState (representation : Representation) (chain : Option ChainEvidence) (api : Option ApiObservation)
    (evaluatedAt : Option Text) (policy : TransitionPolicy) : Except OndoError ResolvedOndoState := do
  refuse_if (representation.issuer ≠ .Ondo) (.RegistryError [representation.symbol, " is not an Ondo representation"])
  assertChainFor representation chain
  assertApiFor representation api
  let chainClass ← chainClassOf policy chain
  let apiUse := api.map (fun api => apiEvidenceUse dateParse api evaluatedAt)
  let chainReason := (chainClass.map (fun chain => templateText chain.reason)).getD (text "")
  let apiReason := (apiUse.map ApiUse.reason).getD (text "undefined")
  let common (state : Option RepresentationState) (stateSource : Option StateSource) (reason : Message) : ResolvedOndoState := {
    underlying := representation.underlying
    issuer := representation.issuer
    symbol := representation.symbol
    mint := representation.mint
    state
    stateSource
    reason := templateText reason
    chainObservation := chain
    transitionPolicy := if chain.isSome then some policy else none
    chainState := chainClass.map Classification.state
    apiState := apiUse.bind ApiUse.state
    slot := chain.bind (fun chain => (ChainEvidence.context chain).slot)
    blockTime := chain.bind (fun chain => (ChainEvidence.context chain).blockTime)
    observedAt := (chain.bind (fun chain => (ChainEvidence.context chain).observedAt)).or (api.map ApiObservation.observedAt)
    apiObservation := api }
  match chainClass.map Classification.state, apiUse.bind ApiUse.state with
  | none, none =>
    if apiUse.isSome then return common (some .UNKNOWN) none ["no chain evidence; ", apiReason]
    else return common (some .UNKNOWN) none ["no chain or API evidence"]
  | some chainState, none =>
    if apiUse.isSome then return common (some chainState) (some .CHAIN) [chainReason, "; ", apiReason]
    else return common (some chainState) (some .CHAIN) [chainReason]
  | none, some apiState => return common (some apiState) (some .API) ["API ", apiReason]
  | some chainState, some apiState =>
    if chainState = apiState then
      return common (some chainState) (some .BOTH_AGREE) ["chain and API agree: ", chainReason]
    else
      return common none (some .CONFLICT)
        ["chain says ", chainState.name, " (", chainReason, "); API says ", apiState.name, " (", apiReason, ")"]
end

/-! ### What the sources say -/

/-- What the chain says under a policy. -/
def ChainSays (evidence : ChainEvidence) (policy : TransitionPolicy) (state : RepresentationState) : Prop :=
  ∃ reason, classifyChainEvidence evidence policy = .ok ⟨state, reason⟩
/-- Only an observation that is not historical counts. -/
def ApiObservation.Counts (api : ApiObservation) : Prop := api.sourceClass ≠ .HISTORICAL_API_STATE
/-- Live, with a bound and an evaluation time that both parse, and not past the bound. -/
def ApiObservation.Fresh (dateParse : Text → Option Int) (evaluatedAt : Option Text) (api : ApiObservation) : Prop :=
  api.sourceClass = .LIVE_API_STATE ∧ ∃ bound ∈ api.validUntil.bind dateParse, ∃ now ∈ evaluatedAt.bind dateParse, now ≤ bound
/-- What an observation that counts says: its status while it is fresh, and otherwise that nothing is known. -/
inductive ApiObservation.Says (dateParse : Text → Option Int) (evaluatedAt : Option Text) (api : ApiObservation) :
    RepresentationState → Prop where
  | fresh (fresh : api.Fresh dateParse evaluatedAt) : Says dateParse evaluatedAt api (API_STATUS_TO_STATE api.status)
  | stale (counts : api.Counts) (stale : ¬ api.Fresh dateParse evaluatedAt) : Says dateParse evaluatedAt api .UNKNOWN

/-- What two sources make together: one counts alone, two that differ make a conflict. -/
def reconcile : Option RepresentationState → Option RepresentationState → Option RepresentationState × Option StateSource
  | none, none => (some .UNKNOWN, none)
  | some chain, none => (some chain, some .CHAIN)
  | none, some api => (some api, some .API)
  | some chain, some api => if chain = api then (some chain, some .BOTH_AGREE) else (none, some .CONFLICT)

section
variable {dateParse : Text → Option Int} {evaluatedAt : Option Text}

theorem apiEvidenceUse_fresh {api : ApiObservation} (fresh : api.Fresh dateParse evaluatedAt) :
    (apiEvidenceUse dateParse api evaluatedAt).state = some (API_STATUS_TO_STATE api.status) := by
  obtain ⟨live, bound, bounded, now, evaluated, within⟩ := fresh
  unfold apiEvidenceUse
  rw [live, Option.mem_def.mp bounded, Option.mem_def.mp evaluated]
  dsimp only
  rw [if_neg (not_lt.mpr within)]
theorem apiEvidenceUse_stale {api : ApiObservation} (counts : api.Counts) (stale : ¬ api.Fresh dateParse evaluatedAt) :
    (apiEvidenceUse dateParse api evaluatedAt).state = some .UNKNOWN := by
  unfold apiEvidenceUse
  cases sourced : api.sourceClass with
  | HISTORICAL_API_STATE => exact absurd sourced counts
  | unrecognized => rfl
  | LIVE_API_STATE =>
    dsimp only
    split
    · rename_i bound now bounded evaluated
      have expired : now > bound := by
        by_contra within
        exact stale ⟨sourced, bound, bounded, now, evaluated, not_lt.mp within⟩
      rw [if_pos expired]
    · rfl
theorem apiEvidenceUse_historical {api : ApiObservation} (historical : ¬ api.Counts) :
    (apiEvidenceUse dateParse api evaluatedAt).state = none := by
  unfold apiEvidenceUse
  rw [not_not.mp historical]
/-- An observation contributes what it says, and nothing unless it counts. -/
theorem apiEvidenceUse_state {api : ApiObservation} {state : RepresentationState} :
    (apiEvidenceUse dateParse api evaluatedAt).state = some state ↔ api.Says dateParse evaluatedAt state := by
  constructor
  · intro contributes
    by_cases fresh : api.Fresh dateParse evaluatedAt
    · rw [apiEvidenceUse_fresh fresh] at contributes
      cases contributes
      exact .fresh fresh
    · by_cases counts : api.Counts
      · rw [apiEvidenceUse_stale counts fresh] at contributes
        cases contributes
        exact .stale counts fresh
      · rw [apiEvidenceUse_historical counts] at contributes
        cases contributes
  · rintro (fresh | ⟨counts, stale⟩)
    · exact apiEvidenceUse_fresh fresh
    · exact apiEvidenceUse_stale counts stale
theorem classifyChainEvidence_says {evidence : ChainEvidence} {policy : TransitionPolicy} {found : Classification}
    {state : RepresentationState} (classified : classifyChainEvidence evidence policy = .ok found) :
    ChainSays evidence policy state ↔ state = found.state := by
  constructor
  · rintro ⟨reason, said⟩
    rw [classified] at said
    cases said
    rfl
  · rintro rfl
    exact ⟨found.reason, classified⟩

/-! ### What is resolved -/

/-- What a resolved state is made of: the two contributions, and what they make together. -/
structure Made (dateParse : Text → Option Int) (chainClass : Option Classification) (chain : Option ChainEvidence)
    (api : Option ApiObservation) (evaluatedAt : Option Text) (resolved : ResolvedOndoState) : Prop where
  chainState : resolved.chainState = chainClass.map Classification.state
  apiState : resolved.apiState = api.bind (fun api => (apiEvidenceUse dateParse api evaluatedAt).state)
  verdict : (resolved.state, resolved.stateSource) = reconcile resolved.chainState resolved.apiState
  chainObservation : resolved.chainObservation = chain
/-- The checks before anything is resolved. -/
structure Checked (representation : Representation) (chain : Option ChainEvidence) (api : Option ApiObservation) : Prop where
  issuer : representation.issuer = .Ondo
  chain : assertChainFor representation chain = .ok ()
  api : assertApiFor representation api = .ok ()

variable {representation : Representation} {chain : Option ChainEvidence} {api : Option ApiObservation}
  {policy : TransitionPolicy} {resolved : ResolvedOndoState}

/-- A state is resolved once the checks pass and the chain evidence is classified. -/
theorem resolveOndoState_made {chainClass : Option Classification} (checked : Checked representation chain api)
    (classified : chainClassOf policy chain = .ok chainClass) :
    ∃ resolved, resolveOndoState dateParse representation chain api evaluatedAt policy = .ok resolved ∧
      Made dateParse chainClass chain api evaluatedAt resolved := by
  unfold resolveOndoState
  rw [refuse_if_bind, if_neg (not_not.mpr checked.issuer), checked.chain, ok_bind, checked.api, ok_bind, classified, ok_bind]
  dsimp only
  have used : (api.map (fun api => apiEvidenceUse dateParse api evaluatedAt)).bind ApiUse.state =
      api.bind (fun api => (apiEvidenceUse dateParse api evaluatedAt).state) := by
    cases api <;> rfl
  split
  · rename_i silent unused
    split <;> exact ⟨_, rfl, rfl, used, by simp [reconcile, silent, unused], rfl⟩
  · rename_i said unused
    split <;> exact ⟨_, rfl, rfl, used, by simp [reconcile, said, unused], rfl⟩
  · rename_i silent said
    exact ⟨_, rfl, rfl, used, by simp [reconcile, silent, said], rfl⟩
  · rename_i chainState apiState chainSaid apiSaid
    by_cases agree : chainState = apiState
    · rw [if_pos agree]
      exact ⟨_, rfl, rfl, used, by simp [reconcile, chainSaid, apiSaid, agree], rfl⟩
    · rw [if_neg agree]
      exact ⟨_, rfl, rfl, used, by simp [reconcile, chainSaid, apiSaid, agree], rfl⟩
theorem resolveOndoState_checked
    (ran : resolveOndoState dateParse representation chain api evaluatedAt policy = .ok resolved) :
    Checked representation chain api ∧ ∃ chainClass, chainClassOf policy chain = .ok chainClass ∧
      Made dateParse chainClass chain api evaluatedAt resolved := by
  have steps := ran
  unfold resolveOndoState at steps
  obtain ⟨_, issued, steps⟩ := bind_eq_ok.mp steps
  obtain ⟨_, chainFits, steps⟩ := bind_eq_ok.mp steps
  obtain ⟨_, apiFits, steps⟩ := bind_eq_ok.mp steps
  obtain ⟨chainClass, classified, _⟩ := bind_eq_ok.mp steps
  have checked : Checked representation chain api := ⟨not_not.mp (refuse_if_eq_ok.mp issued), chainFits, apiFits⟩
  obtain ⟨same, again, made⟩ := @resolveOndoState_made dateParse evaluatedAt _ _ _ _ _ checked classified
  rw [ran] at again
  cases again
  exact ⟨checked, chainClass, classified, made⟩
theorem reconcile_safe {left right : Option RepresentationState} (safe : (reconcile left right).1 = some .SAFE) :
    (∀ state ∈ left, state = .SAFE) ∧ ∀ state ∈ right, state = .SAFE := by
  rcases left with _ | chain <;> rcases right with _ | api <;> simp [reconcile] at safe ⊢
  · exact safe
  · exact safe
  · split at safe
    · rename_i agree
      cases safe
      exact ⟨rfl, agree.symm⟩
    · cases safe
theorem Made.chainSays {chainClass : Option Classification} (classified : chainClassOf policy chain = .ok chainClass)
    (made : Made dateParse chainClass chain api evaluatedAt resolved) {evidence : ChainEvidence} (present : evidence ∈ chain)
    {state : RepresentationState} : ChainSays evidence policy state ↔ resolved.chainState = some state := by
  cases present
  obtain ⟨found, judged, made_of⟩ := bind_eq_ok.mp classified
  cases made_of
  rw [made.chainState, classifyChainEvidence_says (mapError_eq_ok.mp judged), Option.map_some, Option.some_inj, eq_comm]
theorem Made.apiSays {chainClass : Option Classification} (made : Made dateParse chainClass chain api evaluatedAt resolved)
    {observation : ApiObservation} (present : observation ∈ api) {state : RepresentationState} :
    observation.Says dateParse evaluatedAt state ↔ resolved.apiState = some state := by
  cases present
  rw [made.apiState, Option.bind_some, apiEvidenceUse_state]
end

/-! ### Trading on what is resolved -/

/-- The representation a decision is about to trade. -/
def executed (input : ExecutionInput) (decision : ExecutionDecision) : Option ResolvedRepresentationState :=
  match decision.stateDecision.decision with
  | .USE_PREFERRED => some input.preferred
  | .USE_ALTERNATIVE => input.alternative
  | _ => none
/-- In conflict, unknown, or known from the API alone. -/
def Untradable (state : ResolvedRepresentationState) : Prop :=
  state.stateSource = some .CONFLICT ∨ state.state = none ∨ state.state = some .UNKNOWN ∨ state.stateSource = some .API

theorem chainObservation_of_current {role : String} {bound : EconomicState} {state : ResolvedRepresentationState}
    (current : staleSide role bound state = []) : ∃ observation, state.chainObservation = some (.decoded observation) := by
  obtain ⟨current, evidence, _⟩ := staleSide_eq_nil.mp current
  obtain ⟨observation, _, decoded, _⟩ := decoded_of_economicStateOf evidence
  exact ⟨observation, decoded⟩
/-- Only a SAFE representation with decoded chain evidence is executed. -/
theorem executed_safe {sha256Hex : Text → Text} {consents : Consents} {input : ExecutionInput} {decision : ExecutionDecision}
    (decided : decideExecution sha256Hex consents input = .ok decision)
    (executable : decision.executionEligibility = .EXECUTABLE) :
    ∃ representation, executed input decision = some representation ∧
      decision.selectedRepresentation = some (summary representation) ∧ representation.state = some .SAFE ∧
      representation.stateSource ≠ some .CONFLICT ∧
      ∃ observation, representation.chainObservation = some (.decoded observation) := by
  obtain ⟨base, applied, _, preferred, ⟨chosen, known, safe, ran⟩ | ⟨comparison, _, _, chosen, reroute, offer, _, _, _, _, ran⟩⟩ :=
    decideExecution_executable decided executable
  · rw [← preferred] at known safe
    obtain ⟨_, _, _, _, _, same, ready⟩ := executePreferred_executable ran executable safe known
    obtain ⟨observation, _, decoded, _⟩ := ready.decoded
    rw [preferred] at ready decoded
    refine ⟨input.preferred, ?_, ready.selected, ready.safe, ready.source, observation, decoded⟩
    simp only [executed, same, chosen]
  · obtain ⟨_, _, _, _, _, _, _, _, _, _, shape⟩ := executeAlternative_executable ran executable
    have same : decision.stateDecision = applied.stateDecision := by
      rw [shape]
      rfl
    refine ⟨chosen, ?_, by rw [shape], offer.alternativeSafe, unusable_eq_none offer.alternativeKnown, ?_⟩
    · simp only [executed, same, reroute]
      exact offer.present
    · exact chainObservation_of_current (List.append_eq_nil_iff.mp offer.current).2

/-! ### Failing closed -/

/-- What a resolved state never hides, and what is never traded on it. -/
structure FailsClosed (dateParse : Text → Option Int) (representation : Representation) (chain : Option ChainEvidence)
    (api : Option ApiObservation) (evaluatedAt : Option Text) (policy : TransitionPolicy) (resolved : ResolvedOndoState) :
    Prop where
  safe : resolved.state = some .SAFE → (∀ evidence ∈ chain, ChainSays evidence policy .SAFE) ∧
    ∀ observation ∈ api, observation.Counts → observation.Says dateParse evaluatedAt .SAFE
  historical : ∀ observation ∈ api, ¬ observation.Counts → ∃ without,
    resolveOndoState dateParse representation chain none evaluatedAt policy = .ok without ∧
      without.state = resolved.state ∧ without.stateSource = resolved.stateSource
  stale : ∀ observation ∈ api, observation.sourceClass = .LIVE_API_STATE → ¬ observation.Fresh dateParse evaluatedAt →
    resolved.apiState = some .UNKNOWN ∧ resolved.state ≠ some .SAFE
  conflict : ∀ evidence ∈ chain, ∀ observation ∈ api, ∀ chainState apiState, ChainSays evidence policy chainState →
    observation.Says dateParse evaluatedAt apiState → chainState ≠ apiState →
      resolved.stateSource = some .CONFLICT ∧ resolved.state = none
  untraded : Untradable resolved.toResolvedRepresentationState → ∀ sha256Hex consents input decision,
    decideExecution sha256Hex consents input = .ok decision → decision.executionEligibility = .EXECUTABLE →
      ∃ traded, executed input decision = some traded ∧ decision.selectedRepresentation = some (summary traded) ∧
        traded ≠ resolved.toResolvedRepresentationState

section
variable {dateParse : Text → Option Int} {representation : Representation} {chain : Option ChainEvidence}
  {api : Option ApiObservation} {evaluatedAt : Option Text} {policy : TransitionPolicy} {resolved : ResolvedOndoState}

theorem Made.source_of_api {chainClass : Option Classification} (classified : chainClassOf policy chain = .ok chainClass)
    (made : Made dateParse chainClass chain api evaluatedAt resolved) (alone : resolved.stateSource = some .API) :
    resolved.chainObservation = none := by
  cases chain with
  | none => exact made.chainObservation
  | some evidence =>
    obtain ⟨found, _, classed⟩ := bind_eq_ok.mp classified
    cases classed
    have verdict := made.verdict
    rw [made.chainState] at verdict
    cases contributed : resolved.apiState <;> simp [reconcile, contributed] at verdict
    · simp [alone] at verdict
    · split at verdict <;> simp [alone] at verdict
theorem Made.chainState_isSome {chainClass : Option Classification} (classified : chainClassOf policy chain = .ok chainClass)
    (made : Made dateParse chainClass chain api evaluatedAt resolved) {evidence : ChainEvidence} (present : evidence ∈ chain) :
    ∃ state, resolved.chainState = some state := by
  cases present
  obtain ⟨found, _, classed⟩ := bind_eq_ok.mp classified
  cases classed
  exact ⟨found.state, made.chainState⟩
theorem Made.apiState_of_stale {chainClass : Option Classification} (made : Made dateParse chainClass chain api evaluatedAt resolved)
    {observation : ApiObservation} (present : observation ∈ api) (counts : observation.Counts)
    (stale : ¬ observation.Fresh dateParse evaluatedAt) : resolved.apiState = some .UNKNOWN :=
  (made.apiSays present).mp (.stale counts stale)
/-- An observation that does not count contributes as much as none. -/
theorem resolveOndoState_uncounted {observation : ApiObservation} (uncounted : ¬ observation.Counts)
    (ran : resolveOndoState dateParse representation chain (some observation) evaluatedAt policy = .ok resolved) :
    ∃ without, resolveOndoState dateParse representation chain none evaluatedAt policy = .ok without ∧
      without.state = resolved.state ∧ without.stateSource = resolved.stateSource := by
  obtain ⟨checked, chainClass, classified, made⟩ := resolveOndoState_checked ran
  have bare : Checked representation chain none := ⟨checked.issuer, checked.chain, rfl⟩
  obtain ⟨without, returned, alone⟩ := @resolveOndoState_made dateParse evaluatedAt _ _ _ _ _ bare classified
  have silent : resolved.apiState = without.apiState := by
    rw [made.apiState, alone.apiState, Option.bind_some, apiEvidenceUse_historical uncounted, Option.bind_none]
  have same : (without.state, without.stateSource) = (resolved.state, resolved.stateSource) := by
    rw [alone.verdict, made.verdict, silent, made.chainState, alone.chainState]
  exact ⟨without, returned, congrArg Prod.fst same, congrArg Prod.snd same⟩
theorem ondo_fails_closed (ran : resolveOndoState dateParse representation chain api evaluatedAt policy = .ok resolved) :
    FailsClosed dateParse representation chain api evaluatedAt policy resolved := by
  obtain ⟨checked, chainClass, classified, made⟩ := resolveOndoState_checked ran
  have state : resolved.state = (reconcile resolved.chainState resolved.apiState).1 := congrArg Prod.fst made.verdict
  have source : resolved.stateSource = (reconcile resolved.chainState resolved.apiState).2 := congrArg Prod.snd made.verdict
  refine ⟨?_, ?_, ?_, ?_, ?_⟩
  · intro safe
    obtain ⟨chainSafe, apiSafe⟩ := reconcile_safe (state.symm.trans safe)
    constructor
    · intro evidence present
      obtain ⟨chainState, said⟩ := made.chainState_isSome classified present
      have same := chainSafe chainState said
      subst same
      exact (made.chainSays classified present).mpr said
    · intro observation present counts
      by_cases fresh : observation.Fresh dateParse evaluatedAt
      · have saying : observation.Says dateParse evaluatedAt (API_STATUS_TO_STATE observation.status) := .fresh fresh
        rw [← apiSafe _ ((made.apiSays present).mp saying)]
        exact saying
      · cases apiSafe _ (made.apiState_of_stale present counts fresh)
  · intro observation present uncounted
    cases present
    exact resolveOndoState_uncounted uncounted ran
  · intro observation present live stale
    have counts : observation.Counts := by
      rw [ApiObservation.Counts, live]
      decide
    have unknown := made.apiState_of_stale present counts stale
    refine ⟨unknown, fun safe => ?_⟩
    cases (reconcile_safe (state.symm.trans safe)).2 _ unknown
  · intro evidence chainPresent observation apiPresent chainState apiState chainSays apiSays differ
    rw [source, state, (made.chainSays classified chainPresent).mp chainSays, (made.apiSays apiPresent).mp apiSays]
    simp [reconcile, differ]
  · intro untradable sha256Hex consents input decision decided executable
    obtain ⟨traded, executing, selected, safe, agreed, observation, decoded⟩ := executed_safe decided executable
    refine ⟨traded, executing, selected, ?_⟩
    rintro rfl
    rcases untradable with conflict | missing | unknown | alone
    · exact agreed conflict
    · rw [missing] at safe
      cases safe
    · rw [unknown] at safe
      cases safe
    · rw [made.source_of_api classified alone] at decoded
      cases decoded
end

def onRepresentation : Representation := ⟨"AAPL", .Ondo, "AAPLon", onMint⟩
/-- Live and active, until ten seconds past the evaluation. -/
def activeObservation : ApiObservation where
  issuer := .Ondo
  symbol := "AAPLon"
  observedAt := "2026-01-01T00:00:00Z"
  status := .active
  detail := none
  calibration := .UNCALIBRATED
  sourceClass := .LIVE_API_STATE
  validUntil := some "2026-01-01T00:00:10Z"
/-- `Date.parse`, on the two times of the fixture. -/
def newYear (date : Text) : Option Int :=
  if date = "2026-01-01T00:00:00Z" then some 1767225600000
  else if date = "2026-01-01T00:00:10Z" then some 1767225610000
  else none
theorem ondo_fails_closed_active : ∃ resolved,
    resolveOndoState newYear onRepresentation none (some activeObservation) (some "2026-01-01T00:00:00Z") observedPolicy =
      .ok resolved ∧ resolved.state = some .SAFE ∧ resolved.stateSource = some .API ∧
    FailsClosed newYear onRepresentation none (some activeObservation) (some "2026-01-01T00:00:00Z") observedPolicy
      resolved := by
  have checked : Checked onRepresentation none (some activeObservation) := ⟨rfl, rfl, rfl⟩
  have fresh : activeObservation.Fresh newYear (some "2026-01-01T00:00:00Z") := by
    refine ⟨rfl, 1767225610000, ?_, 1767225600000, ?_, by decide⟩ <;>
    · simp only [activeObservation, Option.bind_some, newYear]
      decide
  obtain ⟨resolved, ran, made⟩ := @resolveOndoState_made newYear (some "2026-01-01T00:00:00Z") _ _ _ observedPolicy none checked rfl
  have verdict := made.verdict
  rw [made.chainState, made.apiState, Option.bind_some, apiEvidenceUse_fresh fresh] at verdict
  exact ⟨resolved, ran, congrArg Prod.fst verdict, congrArg Prod.snd verdict, ondo_fails_closed ran⟩

end EquityGuard.OndoAdapter
