import EquityGuard.Sightings
import EquityGuard.Segments
import EquityGuard.Timeline
import EquityGuard.XStocksApi

/-!
The public API and the chain, observed side by side. Nothing happens exactly at a poll: a
change lies between the last observation without it and the first with it, and all that is
derived of two changes follows from their brackets.
-/
namespace EquityGuard.Correlation
open EquityGuard.Binary64 EquityGuard.Capture EquityGuard.Hex EquityGuard.JsValue EquityGuard.JsonText EquityGuard.Records
open EquityGuard.Representations EquityGuard.Timeline EquityGuard.XStocksApi
open Sighting (Contains Episode previousOf)

/-! ### Boundaries -/

inductive CorrelationOutcome where
  | NO_PENDING_UPDATE_OBSERVED
  | API_PENDING_CHAIN_NOT_YET_PENDING
  | API_AND_CHAIN_PENDING_AGREE
  | API_AND_CHAIN_PENDING_CONFLICT
  | CHAIN_PENDING_OBSERVED_BEFORE_API_PENDING
  | INSUFFICIENT_API_COVERAGE
  | API_ACTIVATION_MATCHES_CHAIN_WITHIN_RESOLUTION
  | API_ACTIVATION_DIFFERS_FROM_CHAIN
deriving DecidableEq
/-- First observation of a state, bracketed by the previous observation without it. -/
structure ObservedBoundary where
  source : EvidenceSource
  firstObservedAt : Text
  firstObservedMs : Int
  firstObservedLine : Nat
  /-- There is none when the state was already present in the first observation. -/
  lastObservedBefore : Option Text
  lastObservedBeforeMs : Option Int
  resolutionMs : Option Int
  slot : Option Int
  blockTime : Option Int
  previousBlockTime : Option Int
inductive DeltaOrder where
  | API_BEFORE_CHAIN
  | CHAIN_BEFORE_API
  | UNRESOLVED_WITHIN_POLLING
deriving DecidableEq
structure DeltaBounds where
  minExclusiveMs : Option Int
  maxInclusiveMs : Int
  order : DeltaOrder
/-- A decoded observation of the chain. -/
structure DecodedChain where
  record : CaptureObservation
  evidence : ChainObservation

def decodedChain (records : List CaptureRecord) (mint : Text) : List DecodedChain :=
  records.filterMap (fun record =>
    match record with
    | .observation observation =>
      match observation.evidence with
      | .decoded evidence => if observation.mint = mint then some ⟨observation, evidence⟩ else none
      | _ => none
    | .lineError _ => none)
def apiBoundary (ok : List XStocksApiObservation) (index : Nat) : Option ObservedBoundary := do
  let current ← ok[index]?
  let wallclock ← current.wallclock
  let wallclockMs ← current.wallclockMs
  let previous := previousOf ok index
  return {
    source := .LIVE_API_STATE
    firstObservedAt := wallclock
    firstObservedMs := wallclockMs
    firstObservedLine := current.lineNumber
    lastObservedBefore := previous.bind XStocksApiObservation.wallclock
    lastObservedBeforeMs := previous.bind XStocksApiObservation.wallclockMs
    resolutionMs := (previous.bind XStocksApiObservation.wallclockMs).map (fun previousMs => wallclockMs - previousMs)
    slot := none
    blockTime := none
    previousBlockTime := none }
/-- Bounds on the time from the change of the API to that of the chain, from their brackets. -/
def deltaBounds (api chain : ObservedBoundary) : DeltaBounds where
  minExclusiveMs := chain.lastObservedBeforeMs.map (fun c0 => c0 - api.firstObservedMs)
  maxInclusiveMs :=
    match api.lastObservedBeforeMs with
    | none => chain.firstObservedMs
    | some a0 => chain.firstObservedMs - a0
  order :=
    if chain.lastObservedBeforeMs.any (fun c0 => decide (c0 ≥ api.firstObservedMs)) then .API_BEFORE_CHAIN
    else if api.lastObservedBeforeMs.any (fun a0 => decide (a0 ≥ chain.firstObservedMs)) then .CHAIN_BEFORE_API
    else .UNRESOLVED_WITHIN_POLLING

/-! ### Intervals of the API -/

inductive ApiIntervalKind where
  | API_STABLE
  | API_ERROR
  | API_CAPTURE_GAP
deriving DecidableEq
/-- What an interval says of an error: that of its observations, or the length of a gap. -/
inductive IntervalError where
  | observed (error : Option Text)
  | gap (ms : Int)
deriving DecidableEq
structure ApiInterval where
  kind : ApiIntervalKind
  /-- The time of an observation, or a moment in milliseconds that is printed. -/
  firstWallclock : Option Text ⊕ Int
  lastWallclock : Option Text
  firstLine : Nat
  lastLine : Nat
  observations : Nat
  currentMultiplier : Option Number
  newMultiplier : Option Numeric
  activationDateTimeRaw : Value
  reason : Option Text
  error : IntervalError
/-- What an open interval is compared by. -/
inductive IntervalKey where
  | said (json : Text)
  | failed (status : ApiDecodeStatus) (error : Text)
deriving DecidableEq
structure OpenApiInterval where
  first : XStocksApiObservation
  last : XStocksApiObservation
  count : Nat
  key : IntervalKey
structure Intervals where
  intervals : List ApiInterval
  current : Option OpenApiInterval
  lastMs : Option Int
def OpenApiInterval.closed (interval : OpenApiInterval) : ApiInterval where
  kind := if interval.first.decodeStatus = .ok then .API_STABLE else .API_ERROR
  firstWallclock := .inl interval.first.wallclock
  lastWallclock := interval.last.wallclock
  firstLine := interval.first.lineNumber
  lastLine := interval.last.lineNumber
  observations := interval.count
  currentMultiplier := interval.first.currentMultiplier
  newMultiplier := interval.first.newMultiplier
  activationDateTimeRaw := interval.first.activationDateTimeRaw
  reason := interval.first.reason
  error := .observed interval.first.error
def Intervals.flush (state : Intervals) : Intervals :=
  match state.current with
  | none => state
  | some interval => { state with intervals := state.intervals ++ [interval.closed], current := none }
/-- The gap before an observation, if it comes that late. -/
def gapBefore (lastMs : Option Int) (observation : XStocksApiObservation) : Option ApiInterval :=
  match observation.wallclockMs, lastMs with
  | some ms, some last =>
    if ms - last ≥ CAPTURE_GAP_THRESHOLD_SECS * 1000 then
      some ⟨.API_CAPTURE_GAP, .inr last, observation.wallclock, observation.lineNumber, observation.lineNumber, 0, none, none,
        .null, none, .gap (ms - last)⟩
    else none
  | _, _ => none

section
variable (jsonStringify : Value → Text)

def keyOf (observation : XStocksApiObservation) : IntervalKey :=
  if observation.decodeStatus = .ok then
    .said (jsonStringify (.array [orNull .number observation.currentMultiplier, numeric observation.newMultiplier,
      observation.activationDateTimeRaw, orNull .string observation.reason]))
  else .failed observation.decodeStatus (observation.error.getD (text "null"))
/-- The loop body of `apiIntervals`. -/
def Intervals.step (state : Intervals) (observation : XStocksApiObservation) : Intervals :=
  let state := match gapBefore state.lastMs observation with
    | some gap => { state.flush with intervals := state.flush.intervals ++ [gap] }
    | none => state
  let state := { state with lastMs := observation.wallclockMs <|> state.lastMs }
  let key := keyOf jsonStringify observation
  match state.current with
  | some interval =>
    if interval.key = key then
      { state with current := some { interval with last := observation, count := interval.count + 1 } }
    else { state.flush with current := some ⟨observation, observation, 1, key⟩ }
  | none => { state with current := some ⟨observation, observation, 1, key⟩ }
def apiIntervals (observations : List XStocksApiObservation) : List ApiInterval :=
  (observations.foldl (Intervals.step jsonStringify) ⟨[], none, none⟩).flush.intervals

/-! ### The correlation -/

structure ApiAdvertised where
  newMultiplier : Numeric
  newMultiplierHex : Text
  activationUnixMs : Option Int
  activationInterpretation : ActivationTimeInterpretation
  reason : Option Text
structure ChainPendingState where
  newMultiplierHex : Text
  effectiveTimestamp : Int
structure BlockTimes where
  lastPending : Option Int
  firstActivated : Option Int
structure Derived where
  apiPendingFirstObservedAt : Option ObservedBoundary
  apiAdvertised : Option ApiAdvertised
  apiDistinctActivationValues : List Text
  chainPendingFirstObservedAt : Option ObservedBoundary
  chainPendingState : Option ChainPendingState
  chainActivationFirstObservedAt : Option ObservedBoundary
  chainMultiplierChangeFirstObservedAt : Option ObservedBoundary
structure TimingDeltas where
  apiPublicationLead : Option DeltaBounds
  advertisedMinusChainEffectiveSecs : Option Int
  chainActivationBracketBlockTimes : Option BlockTimes
inductive CorrelationEventType where
  | api (type : ApiEventType)
  | CHAIN_STATE_CHANGE
  | CHAIN_DECODE_ERROR
  | CHAIN_CAPTURE_GAP
inductive CorrelationDetail where
  | api (detail : Message)
  | event (type : ObservationEventType)
  | field (detail : EventDetail)
  | gap (ms : Int)
  | code (code : Text)
structure CorrelationEvent where
  source : EvidenceSource
  wallclock : Option Text
  wallclockMs : Option Int
  type : CorrelationEventType
  detail : List CorrelationDetail
structure Quality where
  api : QualityMetrics
  chain : QualityMetrics
structure KOxCorrelation where
  outcomes : List CorrelationOutcome
  derived : Derived
  timingDeltas : TimingDeltas
  apiIntervals : List ApiInterval
  chainTimeline : List TimelineEntry
  crossSourceEvents : List CorrelationEvent
  quality : Quality
structure KOxInput where
  api : List XStocksApiObservation
  chain : List CaptureRecord
  mint : Text
  symbol : Text

/-- An API poll must exist this close before a chain change to claim "no preannouncement". -/
def API_COVERAGE_MAX_LAG_MS : Int := CAPTURE_GAP_THRESHOLD_SECS * 1000
def phaseIs (evidence : ChainObservation) (phase : Numeric) : Bool :=
  match evidence.phase with
  | some known => Numeric.strictEq known phase
  | none => false
def isPending (evidence : ChainObservation) : Bool := evidence.hasScheduledChange && phaseIs evidence 0
/-- The first item but the very first that stands so to the one before it. -/
def findStep {α : Type} (test : α → α → Bool) (items : List α) : Option Nat :=
  ((items.zip items.tail).findIdx? (fun step => test step.1 step.2)).map (fun index => index + 1)

section
-- `Date.parse` and `JSON.stringify`, and the eight bytes of a number, lowest first.
variable (dateParse : Text → Option Int) (setFloat64 : Number → List UInt8)

def chainBoundary (observations : List DecodedChain) (index : Nat) : Option ObservedBoundary := do
  let current ← observations[index]?
  let wallclock ← current.record.wallclock
  let currentMs ← dateParse wallclock
  let previous := previousOf observations index
  let previousMs := previous.bind (fun previous => previous.record.wallclock.bind dateParse)
  return {
    source := .LIVE_CHAIN_STATE
    firstObservedAt := wallclock
    firstObservedMs := currentMs
    firstObservedLine := current.record.lineNumber
    lastObservedBefore := previous.bind (fun previous => previous.record.wallclock)
    lastObservedBeforeMs := previousMs
    resolutionMs := previousMs.map (fun previousMs => currentMs - previousMs)
    slot := current.record.slot
    blockTime := current.record.blockTime
    previousBlockTime := previous.bind (fun previous => previous.record.blockTime) }
def f64Hex (value : Number) : Text := toHex (setFloat64 value)
def advertisedOf (pending : XStocksApiObservation) : Option ApiAdvertised :=
  pending.newMultiplier.map (fun newMultiplier => {
    newMultiplier
    newMultiplierHex := f64Hex setFloat64 newMultiplier.value
    activationUnixMs := pending.activationTime.bind ActivationTime.unixMs
    activationInterpretation := (pending.activationTime.map ActivationTime.interpretation).getD .none
    reason := pending.reason })
def derivedOf (ok : List XStocksApiObservation) (chain : List DecodedChain) : Derived :=
  let apiPendingIndex := ok.findIdx? (fun observation => decide (observation.hasPendingUpdate = some true))
  let pendingIndex := chain.findIdx? (fun observation => isPending observation.evidence)
  { apiPendingFirstObservedAt := apiPendingIndex.bind (apiBoundary ok)
    apiAdvertised := (apiPendingIndex.bind (fun index => ok[index]?)).bind (advertisedOf setFloat64)
    apiDistinctActivationValues := ((ok.filter (fun observation => decide (observation.hasPendingUpdate = some true))).map
      (fun observation => jsonStringify observation.activationDateTimeRaw)).eraseDups
    chainPendingFirstObservedAt := pendingIndex.bind (chainBoundary dateParse chain)
    chainPendingState := (pendingIndex.bind (fun index => chain[index]?)).map (fun observation =>
      ⟨toHex observation.evidence.protectedState.newMultiplier,
        observation.evidence.protectedState.newMultiplierEffectiveTimestamp⟩)
    chainActivationFirstObservedAt := (findStep (fun before after => phaseIs before.evidence 0 && phaseIs after.evidence 1)
      chain).bind (chainBoundary dateParse chain)
    chainMultiplierChangeFirstObservedAt := (findStep (fun before after =>
      decide (before.evidence.protectedState.multiplier ≠ after.evidence.protectedState.multiplier)) chain).bind
        (chainBoundary dateParse chain) }
def timingOf (derived : Derived) : TimingDeltas :=
  let advertised : Option (Int × ChainPendingState) := do
    let activationUnixMs ← derived.apiAdvertised.bind ApiAdvertised.activationUnixMs
    return (activationUnixMs, ← derived.chainPendingState)
  { apiPublicationLead := do return deltaBounds (← derived.apiPendingFirstObservedAt) (← derived.chainPendingFirstObservedAt)
    -- `Math.floor` of a quotient, exact for every moment a date can hold.
    advertisedMinusChainEffectiveSecs := advertised.map (fun pair => pair.1 / 1000 - pair.2.effectiveTimestamp)
    chainActivationBracketBlockTimes := advertised.bind (fun _ =>
      derived.chainActivationFirstObservedAt.map (fun boundary => ⟨boundary.previousBlockTime, boundary.blockTime⟩)) }
/-- The observed activation bracket when available, otherwise one capture interval. -/
def resolutionSecs : Option BlockTimes → Int
  | some ⟨some lastPending, some firstActivated⟩ => firstActivated - lastPending
  | _ => CAPTURE_CADENCE_SECS
def outcomesOf (api ok : List XStocksApiObservation) (chain : List DecodedChain) (derived : Derived) (timing : TimingDeltas) :
    List CorrelationOutcome :=
  let chainChange := [derived.chainPendingFirstObservedAt, derived.chainMultiplierChangeFirstObservedAt,
    derived.chainActivationFirstObservedAt].filterMap id
  (if derived.apiPendingFirstObservedAt.isNone && chainChange.isEmpty then [.NO_PENDING_UPDATE_OBSERVED] else []) ++
  (match derived.apiPendingFirstObservedAt with
    | some published =>
      match (chain.filter (fun observation => (observation.record.wallclock.bind dateParse).any
          (fun ms => decide (ms ≤ published.firstObservedMs)))).getLast? with
      | some atPublication => if isPending atPublication.evidence then [] else [.API_PENDING_CHAIN_NOT_YET_PENDING]
      | none => []
    | none => []) ++
  (match derived.apiAdvertised, derived.chainPendingState with
    | some advertised, some pending =>
      if advertised.newMultiplierHex = pending.newMultiplierHex ∧
          advertised.activationUnixMs = some (pending.effectiveTimestamp * 1000) then [.API_AND_CHAIN_PENDING_AGREE]
      else [.API_AND_CHAIN_PENDING_CONFLICT]
    | _, _ => []) ++
  (match derived.chainPendingFirstObservedAt with
    | some pending =>
      if ok.any (fun observation => decide (observation.hasPendingUpdate = some true) &&
          observation.wallclockMs.any (fun ms => decide (ms ≤ pending.firstObservedMs))) then []
      else if api.any (fun observation => observation.wallclockMs.any (fun ms =>
          decide (ms ≤ pending.firstObservedMs ∧ pending.firstObservedMs - ms ≤ API_COVERAGE_MAX_LAG_MS))) then
        [.CHAIN_PENDING_OBSERVED_BEFORE_API_PENDING]
      else [.INSUFFICIENT_API_COVERAGE]
    | none => []) ++
  (match timing.advertisedMinusChainEffectiveSecs with
    | some difference =>
      if (difference.natAbs : Int) ≤ resolutionSecs timing.chainActivationBracketBlockTimes then
        [.API_ACTIVATION_MATCHES_CHAIN_WITHIN_RESOLUTION]
      else [.API_ACTIVATION_DIFFERS_FROM_CHAIN]
    | none => [])
def ofApiEvent (event : ApiEvent) : CorrelationEvent :=
  ⟨.LIVE_API_STATE, event.wallclock, event.current.wallclockMs, .api event.type, event.detail.map .api⟩
def chainEvents (entries : List TimelineEntry) : List CorrelationEvent :=
  entries.filterMap (fun entry =>
    let event (wallclock : Option Text) (type : CorrelationEventType) (detail : List CorrelationDetail) : Option CorrelationEvent :=
      some ⟨.LIVE_CHAIN_STATE, wallclock, wallclock.bind dateParse, type, detail⟩
    match entry.body with
    | .STATE_CHANGE moment events changedFields _ _ =>
      event moment.wallclock .CHAIN_STATE_CHANGE (events.map .event ++ changedFields.map .field)
    | .DECODE_ERROR code _ span _ => event span.firstWallclock .CHAIN_DECODE_ERROR [.code code]
    | .CAPTURE_GAP _ toWallclock wallclockGapMs _ _ _ _ _ => event (some toWallclock) .CHAIN_CAPTURE_GAP [.gap wallclockGapMs]
    | _ => none)
/-- Chronological by wallclock; ties keep API before chain. -/
def eventLE (left right : CorrelationEvent) : Bool :=
  let leftMs := left.wallclockMs.getD 0
  let rightMs := right.wallclockMs.getD 0
  leftMs < rightMs || (leftMs == rightMs && (decide (left.source = right.source) || decide (left.source = .LIVE_API_STATE)))
def correlateKOx (input : KOxInput) : KOxCorrelation :=
  let api := input.api.mergeSort (fun left right => left.lineNumber ≤ right.lineNumber)
  let ok := api.filter (fun observation => decide (observation.decodeStatus = .ok))
  let chainRecords := input.chain.filter (fun record =>
    match record with
    | .observation observation => decide (observation.mint = input.mint)
    | .lineError _ => true)
  let chain := decodedChain input.chain input.mint
  let derived := derivedOf jsonStringify dateParse setFloat64 ok chain
  let timing := timingOf derived
  let apiEvents := (XStocksApiEventDetector.start.pushAll jsonStringify api).2.flatten
  let chainTimeline := buildTimeline dateParse ⟨some [input.symbol], false⟩ chainRecords
  let apiPolls : List PollPoint := ok.filterMap (fun observation => do
    return ⟨observation.lineNumber, ← observation.wallclock, ← observation.wallclockMs, none, none⟩)
  { outcomes := outcomesOf dateParse api ok chain derived timing
    derived
    timingDeltas := timing
    apiIntervals := apiIntervals jsonStringify api
    chainTimeline := chainTimeline.entries
    crossSourceEvents := (apiEvents.map ofApiEvent ++ chainEvents dateParse chainTimeline.entries).mergeSort eventLE
    quality := {
      api := qualityMetrics apiPolls (api.countP (fun observation => observation.wallclockMs.isSome))
        (api.countP (fun observation => decide (observation.decodeStatus ≠ .ok))) (countGaps apiPolls)
      chain := (chainTimeline.bySymbol.get input.symbol).getD chainTimeline.overall } }
end

/-! ### Intervals as runs -/

/-- The last time before an observation, over a history that stands latest first. -/
def lastMsOf (earlier : List XStocksApiObservation) : Option Int := earlier.findSome? XStocksApiObservation.wallclockMs
/-- An observation starts a new interval after a gap, or when it says something else. -/
def Breaks (earlier : List XStocksApiObservation) (observation : XStocksApiObservation) : Prop :=
  gapBefore (lastMsOf earlier) observation ≠ none ∨
    earlier.head?.map (keyOf jsonStringify) ≠ some (keyOf jsonStringify observation)
instance (earlier : List XStocksApiObservation) (observation : XStocksApiObservation) :
    Decidable (Breaks jsonStringify earlier observation) :=
  decidable_of_iff ((gapBefore (lastMsOf earlier) observation).isSome = true ∨
    earlier.head?.map (keyOf jsonStringify) ≠ some (keyOf jsonStringify observation))
    (or_congr_left Option.isSome_iff_ne_none)
/-- The open interval of a run, which stands latest first. -/
def openOf (run : List XStocksApiObservation) : Option OpenApiInterval := do
  let last ← run.head?
  let first ← run.getLast?
  return ⟨first, last, run.length, keyOf jsonStringify first⟩
/-- The intervals of observations, without the gaps between them. -/
def observed (intervals : List ApiInterval) : List ApiInterval :=
  intervals.filter (fun interval => decide (interval.kind ≠ .API_CAPTURE_GAP))

theorem closed_kind (interval : OpenApiInterval) : interval.closed.kind ≠ .API_CAPTURE_GAP := by
  unfold OpenApiInterval.closed
  dsimp only
  split <;> decide
theorem closed_observations (interval : OpenApiInterval) : interval.closed.observations = interval.count := rfl
theorem observed_closed (intervals : List ApiInterval) (interval : OpenApiInterval) :
    observed (intervals ++ [interval.closed]) = observed intervals ++ [interval.closed] := by
  rw [observed, List.filter_append, List.filter_singleton]
  simp [closed_kind, observed]
theorem gap_kind {lastMs : Option Int} {observation : XStocksApiObservation} {gap : ApiInterval}
    (late : gapBefore lastMs observation = some gap) : gap.kind = .API_CAPTURE_GAP ∧ gap.observations = 0 := by
  unfold gapBefore at late
  split at late
  · split at late
    · cases late
      exact ⟨rfl, rfl⟩
    · cases late
  · cases late

/-- What the loop holds after a history that stands latest first. -/
structure Follows (history : List XStocksApiObservation) (state : Intervals) : Prop where
  lastMs : state.lastMs = lastMsOf history
  current : state.current = (Segments.segments (Breaks jsonStringify) history).head?.bind (openOf jsonStringify)
  intervals : (observed state.intervals).reverse =
    (Segments.segments (Breaks jsonStringify) history).tail.filterMap (fun run => (openOf jsonStringify run).map OpenApiInterval.closed)
  counted : (state.intervals.map ApiInterval.observations).sum +
    (state.current.map OpenApiInterval.count).getD 0 = history.length

/-- All observations of a run say the same. -/
theorem run_key {history : List XStocksApiObservation} :
    ∀ run ∈ Segments.segments (Breaks jsonStringify) history, ∀ left ∈ run, ∀ right ∈ run,
      keyOf jsonStringify left = keyOf jsonStringify right := by
  refine Segments.segments_rule _ (fun item _ => by simp) fun item earlier segment rest _ cut joins same => ?_
  have nonempty := Segments.ne_nil_of_mem_segments _ (cut ▸ List.mem_cons_self : segment ∈ Segments.segments _ earlier)
  obtain ⟨head, tail, rfl⟩ := List.exists_cons_of_ne_nil nonempty
  have joined : keyOf jsonStringify head = keyOf jsonStringify item := by
    have before := Segments.history_of_segments _ cut
    have key := not_not.mp (not_or.mp joins).2
    rw [before] at key
    exact Option.some.inj key
  have all : ∀ other ∈ head :: tail, keyOf jsonStringify other = keyOf jsonStringify item := fun other member =>
    (same other member head List.mem_cons_self).trans joined
  intro left leftMember right rightMember
  have leftKey : keyOf jsonStringify left = keyOf jsonStringify item := by
    rcases List.mem_cons.mp leftMember with rfl | member
    · rfl
    · exact all left member
  have rightKey : keyOf jsonStringify right = keyOf jsonStringify item := by
    rcases List.mem_cons.mp rightMember with rfl | member
    · rfl
    · exact all right member
  rw [leftKey, rightKey]
theorem openOf_cons (head : XStocksApiObservation) (tail : List XStocksApiObservation) :
    openOf jsonStringify (head :: tail) = some ⟨(head :: tail).getLast (List.cons_ne_nil head tail), head,
      (head :: tail).length, keyOf jsonStringify ((head :: tail).getLast (List.cons_ne_nil head tail))⟩ := by
  rw [openOf, List.getLast?_eq_getLast_of_ne_nil (List.cons_ne_nil head tail)]
  rfl
theorem lastMsOf_cons (observation : XStocksApiObservation) (history : List XStocksApiObservation) :
    lastMsOf (observation :: history) = (observation.wallclockMs <|> lastMsOf history) := by
  rw [lastMsOf, List.findSome?_cons]
  cases observation.wallclockMs <;> rfl
theorem step_joins {state : Intervals} {interval : OpenApiInterval} {observation : XStocksApiObservation}
    (near : gapBefore state.lastMs observation = none) (current : state.current = some interval)
    (same : interval.key = keyOf jsonStringify observation) :
    state.step jsonStringify observation = ⟨state.intervals, some { interval with last := observation, count := interval.count + 1 },
      observation.wallclockMs <|> state.lastMs⟩ := by
  simp only [Intervals.step, near, current, same, ↓reduceIte]
/-- Whatever ends an interval, it is closed before a gap is written. -/
theorem step_breaks {state : Intervals} {interval : OpenApiInterval} {observation : XStocksApiObservation}
    (current : state.current = some interval)
    (breaks : gapBefore state.lastMs observation ≠ none ∨ interval.key ≠ keyOf jsonStringify observation) :
    state.step jsonStringify observation =
      ⟨state.intervals ++ [interval.closed] ++ (gapBefore state.lastMs observation).toList,
        some ⟨observation, observation, 1, keyOf jsonStringify observation⟩, observation.wallclockMs <|> state.lastMs⟩ := by
  cases late : gapBefore state.lastMs observation with
  | none =>
    have other := breaks.resolve_left (not_not.mpr late)
    simp [Intervals.step, late, current, other, Intervals.flush]
  | some gap => simp [Intervals.step, late, current, Intervals.flush]
theorem observed_gap (lastMs : Option Int) (observation : XStocksApiObservation) :
    observed (gapBefore lastMs observation).toList = [] ∧
      ((gapBefore lastMs observation).toList.map ApiInterval.observations).sum = 0 := by
  cases late : gapBefore lastMs observation with
  | none => exact ⟨rfl, rfl⟩
  | some gap =>
    obtain ⟨kind, none⟩ := gap_kind late
    simp [observed, kind, none]
theorem gapBefore_none (observation : XStocksApiObservation) : gapBefore none observation = none := by
  unfold gapBefore
  split
  · rename_i impossible
    cases impossible
  · rfl
theorem follows_start : Follows jsonStringify [] ⟨[], none, none⟩ := ⟨rfl, rfl, rfl, rfl⟩
theorem follows_step {history : List XStocksApiObservation} {state : Intervals} (follows : Follows jsonStringify history state)
    (observation : XStocksApiObservation) :
    Follows jsonStringify (observation :: history) (state.step jsonStringify observation) := by
  obtain ⟨sameMs, sameCurrent, sameIntervals, counted⟩ := follows
  cases cut : Segments.segments (Breaks jsonStringify) history with
  | nil =>
    obtain rfl := (Segments.segments_eq_nil _).mp cut
    rw [cut] at sameCurrent sameIntervals
    have near : gapBefore state.lastMs observation = none := by
      rw [sameMs]
      exact gapBefore_none observation
    have stepped : state.step jsonStringify observation = ⟨state.intervals,
        some ⟨observation, observation, 1, keyOf jsonStringify observation⟩, observation.wallclockMs <|> state.lastMs⟩ := by
      have none : state.current = none := sameCurrent
      simp only [Intervals.step, near, none]
    rw [stepped]
    refine ⟨by rw [lastMsOf_cons, sameMs], rfl, sameIntervals, ?_⟩
    have none : state.current = none := sameCurrent
    rw [none] at counted
    have empty : (state.intervals.map ApiInterval.observations).sum = 0 := counted
    simp [empty]
  | cons segment rest =>
    obtain ⟨head, tail, rfl⟩ := List.exists_cons_of_ne_nil
      (Segments.ne_nil_of_mem_segments _ (cut ▸ List.mem_cons_self : segment ∈ Segments.segments (Breaks jsonStringify) history))
    have before := Segments.history_of_segments _ cut
    have latest : history.head? = some head := by rw [before]; rfl
    have current : state.current = openOf jsonStringify (head :: tail) := by rw [sameCurrent, cut]; rfl
    have key : keyOf jsonStringify ((head :: tail).getLast (List.cons_ne_nil head tail)) = keyOf jsonStringify head :=
      run_key jsonStringify (head :: tail) (cut ▸ List.mem_cons_self) _ (List.getLast_mem _) head List.mem_cons_self
    rw [openOf_cons, key] at current
    by_cases breaks : Breaks jsonStringify history observation
    · have split : gapBefore state.lastMs observation ≠ none ∨ keyOf jsonStringify head ≠ keyOf jsonStringify observation := by
        rw [sameMs]
        refine breaks.imp_right fun other same => other ?_
        rw [latest, Option.map_some, same]
      obtain ⟨noGap, noCount⟩ := observed_gap state.lastMs observation
      rw [step_breaks jsonStringify current split]
      refine ⟨by rw [lastMsOf_cons, sameMs], by rw [Segments.segments_of_break _ breaks]; rfl, ?_, ?_⟩
      · rw [Segments.segments_of_break _ breaks, List.tail_cons, observed, List.filter_append]
        change (observed (state.intervals ++ [_]) ++ observed _).reverse = _
        rw [noGap, List.append_nil, observed_closed, List.reverse_append, sameIntervals, cut, List.filterMap_cons, openOf_cons, key]
        rfl
      · rw [current] at counted
        simp only [List.map_append, List.sum_append, noCount, List.map_singleton, List.sum_singleton, closed_observations,
          Option.map_some, Option.getD_some, List.length_cons] at counted ⊢
        omega
    · have joins := not_or.mp breaks
      have near : gapBefore state.lastMs observation = none := by
        rw [sameMs]
        exact not_not.mp joins.1
      have same : keyOf jsonStringify head = keyOf jsonStringify observation := by
        have whole := not_not.mp joins.2
        rw [latest] at whole
        exact Option.some.inj whole
      rw [step_joins jsonStringify near current same]
      refine ⟨by rw [lastMsOf_cons, sameMs], ?_, ?_, ?_⟩
      · rw [Segments.segments_of_join _ breaks cut, List.head?_cons, Option.bind_some, openOf_cons]
        simp only [List.getLast_cons_cons, key, List.length_cons]
      · rw [Segments.segments_of_join _ breaks cut, List.tail_cons, sameIntervals, cut]
        rfl
      · rw [current] at counted
        simp only [Option.map_some, Option.getD_some, List.length_cons] at counted ⊢
        omega
theorem follows_run (observations : List XStocksApiObservation) :
    Follows jsonStringify observations.reverse (observations.foldl (Intervals.step jsonStringify) ⟨[], none, none⟩) := by
  induction observations using List.reverseRecOn with
  | nil => exact follows_start jsonStringify
  | append_singleton earlier observation ih =>
    rw [List.foldl_append, List.reverse_append]
    exact follows_step jsonStringify ih observation

/-- The interval of a run in the order of time. -/
def intervalOf (run : List XStocksApiObservation) : Option ApiInterval :=
  (openOf jsonStringify run.reverse).map OpenApiInterval.closed
/-- In a run nothing that was said changed, and no time was lost. -/
structure Steady (run : List XStocksApiObservation) : Prop where
  nonempty : run ≠ []
  same : ∀ left ∈ run, ∀ right ∈ run, keyOf jsonStringify left = keyOf jsonStringify right
  near : ∀ earlier observation later, run = earlier ++ observation :: later → earlier ≠ [] →
    gapBefore (lastMsOf earlier.reverse) observation = none

theorem gapBefore_append {newer older : List XStocksApiObservation} {observation : XStocksApiObservation}
    (near : gapBefore (lastMsOf (newer ++ older)) observation = none) : gapBefore (lastMsOf newer) observation = none := by
  rw [lastMsOf, List.findSome?_append] at near
  rw [lastMsOf]
  cases known : newer.findSome? XStocksApiObservation.wallclockMs with
  | none => exact gapBefore_none observation
  | some ms => rwa [known] at near
theorem run_near {history : List XStocksApiObservation} :
    ∀ run ∈ Segments.segments (Breaks jsonStringify) history, ∀ newer observation older, run = newer ++ observation :: older →
      older ≠ [] → gapBefore (lastMsOf older) observation = none := by
  refine Segments.segments_rule _ (fun item _ newer observation older split => ?_) fun item earlier segment rest _ cut joins near => ?_
  · cases newer with
    | nil =>
      obtain ⟨_, rfl⟩ := List.cons.inj split
      exact fun nonempty => absurd rfl nonempty
    | cons first others => exact absurd (List.cons.inj split).2 (by simp)
  · intro newer observation older split nonempty
    cases newer with
    | nil =>
      obtain ⟨rfl, rfl⟩ := List.cons.inj split
      have quiet := not_not.mp (not_or.mp joins).1
      rw [Segments.history_of_segments _ cut] at quiet
      exact gapBefore_append quiet
    | cons first others => exact near others observation older (List.cons.inj split).2 nonempty
theorem steady_of_segment {history run : List XStocksApiObservation}
    (member : run ∈ Segments.segments (Breaks jsonStringify) history) : Steady jsonStringify run.reverse where
  nonempty := mt List.reverse_eq_nil_iff.mp (Segments.ne_nil_of_mem_segments _ member)
  same := fun left leftMember right rightMember =>
    run_key jsonStringify run member left (List.mem_reverse.mp leftMember) right (List.mem_reverse.mp rightMember)
  near := by
    intro earlier observation later split nonempty
    refine run_near jsonStringify run member later.reverse observation earlier.reverse ?_ (mt List.reverse_eq_nil_iff.mp nonempty)
    rw [← List.reverse_reverse run, split]
    simp

/-- The intervals but for the gaps are those of steady runs that together are all observations, in order. -/
theorem apiIntervals_runs (observations : List XStocksApiObservation) :
    ∃ runs : List (List XStocksApiObservation), runs.flatten = observations ∧ (∀ run ∈ runs, Steady jsonStringify run) ∧
      observed (apiIntervals jsonStringify observations) = runs.filterMap (intervalOf jsonStringify) ∧
      ((apiIntervals jsonStringify observations).map ApiInterval.observations).sum = observations.length := by
  obtain ⟨_, current, intervals, counted⟩ := follows_run jsonStringify observations
  rw [List.length_reverse] at counted
  refine ⟨((Segments.segments (Breaks jsonStringify) observations.reverse).map List.reverse).reverse, ?_, ?_, ?_⟩
  · rw [← List.reverse_flatten, Segments.segments_flatten, List.reverse_reverse]
  · intro run member
    obtain ⟨segment, inside, rfl⟩ := List.mem_map.mp (List.mem_reverse.mp member)
    exact steady_of_segment jsonStringify inside
  · have closing : (((Segments.segments (Breaks jsonStringify) observations.reverse).map List.reverse).reverse).filterMap
        (intervalOf jsonStringify) = ((Segments.segments (Breaks jsonStringify) observations.reverse).filterMap
          (fun run => (openOf jsonStringify run).map OpenApiInterval.closed)).reverse := by
      rw [List.filterMap_reverse, List.filterMap_map]
      congr 2
      funext run
      rw [Function.comp_apply, intervalOf, List.reverse_reverse]
    rw [closing, apiIntervals, Intervals.flush]
    cases cut : Segments.segments (Breaks jsonStringify) observations.reverse with
    | nil =>
      rw [cut] at current intervals
      have none : (observations.foldl (Intervals.step jsonStringify) ⟨[], none, none⟩).current = none := current
      rw [none] at counted ⊢
      exact ⟨List.reverse_eq_nil_iff.mp intervals, counted⟩
    | cons segment rest =>
      rw [cut] at current intervals
      obtain ⟨head, tail, rfl⟩ := List.exists_cons_of_ne_nil
        (Segments.ne_nil_of_mem_segments _ (cut ▸ List.mem_cons_self : segment ∈ Segments.segments (Breaks jsonStringify) _))
      rw [List.head?_cons, Option.bind_some, openOf_cons] at current
      rw [List.tail_cons] at intervals
      rw [current] at counted ⊢
      dsimp only
      rw [observed_closed, List.filterMap_cons, openOf_cons, Option.map_some, List.reverse_cons, ← intervals,
        List.reverse_reverse]
      refine ⟨rfl, ?_⟩
      rw [List.map_append, List.sum_append, List.map_singleton, List.sum_singleton, closed_observations]
      exact counted
end

/-! ### Brackets -/

def ObservedBoundary.sighting (boundary : ObservedBoundary) : Sighting Int :=
  ⟨boundary.lastObservedBeforeMs, boundary.firstObservedMs⟩

/-- The bounds hold of whatever two changes the brackets hold; without a last observation the upper one is that of a
    change after the epoch. -/
theorem deltaBounds_sound {api chain : ObservedBoundary} {published pending : Int} (first : api.sighting.Contains published)
    (second : chain.sighting.Contains pending) :
    (∀ bound ∈ (deltaBounds api chain).minExclusiveMs, bound < pending - published) ∧
      (0 ≤ published → pending - published ≤ (deltaBounds api chain).maxInclusiveMs) := by
  constructor
  · intro bound member
    obtain ⟨last, known, rfl⟩ := Option.map_eq_some_iff.mp member
    exact Sighting.lt_sub first second known
  · intro positive
    rw [deltaBounds]
    cases known : api.lastObservedBeforeMs with
    | none =>
      have late : pending ≤ chain.firstObservedMs := second.2
      dsimp only
      omega
    | some last => exact Sighting.sub_le first second known
/-- Where the last reading before one change is no earlier than the first after the other. -/
def Apart (earlier later : ObservedBoundary) : Prop := ∃ last ∈ later.lastObservedBeforeMs, earlier.firstObservedMs ≤ last
/-- Two changes are apart exactly if no moments in their brackets stand the other way. -/
theorem apart_iff {earlier later : ObservedBoundary} (earlierOrdered : earlier.sighting.Ordered)
    (laterOrdered : later.sighting.Ordered) :
    Apart earlier later ↔ ∀ one other, earlier.sighting.Contains one → later.sighting.Contains other → one < other := by
  constructor
  · rintro ⟨last, known, apart⟩ one other first second
    exact Sighting.lt_of_le_before first second known apart
  · intro always
    by_contra close
    obtain ⟨other, second, early⟩ := @Sighting.exists_contains_le _ _ _ laterOrdered earlier.firstObservedMs
      fun last member => not_le.mp fun apart => close ⟨last, member, apart⟩
    exact absurd (always _ other (Sighting.contains_first earlierOrdered) second) (not_lt.mpr early)
theorem order_eq (api chain : ObservedBoundary) [Decidable (Apart api chain)] [Decidable (Apart chain api)] :
    (deltaBounds api chain).order = if Apart api chain then .API_BEFORE_CHAIN
      else if Apart chain api then .CHAIN_BEFORE_API else .UNRESOLVED_WITHIN_POLLING := by
  have any (earlier later : ObservedBoundary) : later.lastObservedBeforeMs.any (fun last =>
      decide (last ≥ earlier.firstObservedMs)) = true ↔ Apart earlier later := by
    rw [Apart]
    cases later.lastObservedBeforeMs <;> simp
  simp only [deltaBounds, any]
/-- The order is claimed exactly where the brackets leave no other. -/
theorem order_exact {api chain : ObservedBoundary} (apiOrdered : api.sighting.Ordered) (chainOrdered : chain.sighting.Ordered) :
    ((deltaBounds api chain).order = .API_BEFORE_CHAIN ↔
      ∀ published pending, api.sighting.Contains published → chain.sighting.Contains pending → published < pending) ∧
    ((deltaBounds api chain).order = .CHAIN_BEFORE_API ↔
      ∀ published pending, api.sighting.Contains published → chain.sighting.Contains pending → pending < published) := by
  classical
  rw [order_eq, ← apart_iff apiOrdered chainOrdered]
  have swapped : (∀ published pending, api.sighting.Contains published → chain.sighting.Contains pending → pending < published) ↔
      Apart chain api := by
    rw [apart_iff chainOrdered apiOrdered]
    exact ⟨fun all pending published second first => all published pending first second,
      fun all published pending first second => all pending published second first⟩
  have exclusive : Apart api chain → ¬ Apart chain api := fun before after =>
    lt_asymm ((apart_iff apiOrdered chainOrdered).mp before _ _ (Sighting.contains_first apiOrdered)
        (Sighting.contains_first chainOrdered))
      ((apart_iff chainOrdered apiOrdered).mp after _ _ (Sighting.contains_first chainOrdered)
        (Sighting.contains_first apiOrdered))
  rw [swapped]
  split_ifs with before after <;> simp_all

theorem apiBoundary_contains {ok : List XStocksApiObservation} {index : Nat} {boundary : ObservedBoundary} {state : Int → Prop}
    {opens : Int} (episode : Episode state opens)
    (tells : ∀ observation ∈ ok, ∀ ms ∈ observation.wallclockMs, observation.hasPendingUpdate = some true ↔ state ms)
    (ordered : ok.Pairwise fun left right => ∀ one ∈ left.wallclockMs, ∀ other ∈ right.wallclockMs, one ≤ other)
    (found : ok.findIdx? (fun observation => decide (observation.hasPendingUpdate = some true)) = some index)
    (bounded : apiBoundary ok index = some boundary) : boundary.sighting.Contains opens := by
  obtain ⟨current, here, bounded⟩ := Option.bind_eq_some_iff.mp bounded
  obtain ⟨wallclock, _, bounded⟩ := Option.bind_eq_some_iff.mp bounded
  obtain ⟨ms, known, bounded⟩ := Option.bind_eq_some_iff.mp bounded
  cases bounded
  exact Sighting.contains_of_first episode (fun observation member now time => by
    rw [decide_eq_true_eq]
    exact tells observation member now time) ordered found here known
theorem chainBoundary_contains {dateParse : Text → Option Int} {chain : List DecodedChain} {index : Nat}
    {boundary : ObservedBoundary} {state : Int → Prop} {opens : Int} (episode : Episode state opens)
    (tells : ∀ observation ∈ chain, ∀ ms ∈ observation.record.wallclock.bind dateParse,
      isPending observation.evidence = true ↔ state ms)
    (ordered : chain.Pairwise fun left right => ∀ one ∈ left.record.wallclock.bind dateParse,
      ∀ other ∈ right.record.wallclock.bind dateParse, one ≤ other)
    (found : chain.findIdx? (fun observation => isPending observation.evidence) = some index)
    (bounded : chainBoundary dateParse chain index = some boundary) : boundary.sighting.Contains opens := by
  obtain ⟨current, here, bounded⟩ := Option.bind_eq_some_iff.mp bounded
  obtain ⟨wallclock, read, bounded⟩ := Option.bind_eq_some_iff.mp bounded
  obtain ⟨ms, known, bounded⟩ := Option.bind_eq_some_iff.mp bounded
  cases bounded
  have now : current.record.wallclock.bind dateParse = some ms := by rw [read]; exact known
  exact Sighting.contains_of_first episode tells ordered found here now
theorem ordered_of_contains {sighting : Sighting Int} {time : Int} (inside : sighting.Contains time) : sighting.Ordered :=
  fun last member => (inside.1 last member).trans_le inside.2
def pollTexts : List (Text × Int) := [("2026-09-14T20:00:00Z", 1789416000000), ("2026-09-14T20:00:30Z", 1789416030000)]
def pollDate (spelled : Text) : Option Int := pollTexts.lookup spelled
def apiPoll (lineNumber : Nat) (wallclock : Text) (wallclockMs : Int) (pending : Bool) : XStocksApiObservation :=
  { quietAt lineNumber with
    wallclock := some wallclock
    wallclockMs := some wallclockMs
    newMultiplier := some (if pending then 2 else 0)
    hasPendingUpdate := some pending }
def sampleAt (lineNumber : Nat) (wallclock : Text) (evidence : ChainObservation) : CaptureObservation where
  lineNumber
  wallclock := some wallclock
  slot := none
  blockTime := none
  symbol := some "KOx"
  issuer := none
  mint := "XsMint"
  evidence := .decoded evidence
def scheduled (pending : Bool) : ChainObservation :=
  { ChainObservation.observationWith Guard.twoForOneSplit with hasScheduledChange := pending }
def chainPoll (lineNumber : Nat) (wallclock : Text) (pending : Bool) : DecodedChain where
  record := sampleAt lineNumber wallclock (scheduled pending)
  evidence := scheduled pending
def pollInput : KOxInput where
  api := [apiPoll 1 "2026-09-14T20:00:00Z" 1789416000000 false, apiPoll 2 "2026-09-14T20:00:30Z" 1789416030000 true]
  chain := [.observation (chainPoll 1 "2026-09-14T20:00:00Z" false).record, .observation (chainPoll 2 "2026-09-14T20:00:30Z" true).record]
  mint := "XsMint"
  symbol := "KOx"
theorem pollInput_chain : decodedChain pollInput.chain pollInput.mint =
    [chainPoll 1 "2026-09-14T20:00:00Z" false, chainPoll 2 "2026-09-14T20:00:30Z" true] := rfl
theorem pollInput_lead : (correlateKOx quietStringify pollDate (fun _ => []) pollInput).timingDeltas.apiPublicationLead =
    some ⟨some (-30000), 30000, .UNRESOLVED_WITHIN_POLLING⟩ := by
  have sorted : pollInput.api.mergeSort (fun left right => left.lineNumber ≤ right.lineNumber) = pollInput.api :=
    List.mergeSort_of_pairwise (by simp [pollInput, apiPoll, quietAt])
  rw [correlateKOx, sorted]
  rfl
end EquityGuard.Correlation
