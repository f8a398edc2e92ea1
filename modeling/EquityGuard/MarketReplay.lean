import EquityGuard.Timeline

/-!
The replay of a chain capture: every earlier observation of a mint is taken for an
authorization and evaluated against the later ones. The raw lines are read a second time,
beside the decoder.
-/
namespace EquityGuard.MarketReplay
open EquityGuard.Binary64 EquityGuard.Capture EquityGuard.ChainObservation EquityGuard.Client EquityGuard.ClientAbi
open EquityGuard.Errors EquityGuard.JsonText EquityGuard.JsValue EquityGuard.Maps EquityGuard.Records
open EquityGuard.Representations EquityGuard.Timeline

/-! ### Inputs -/

structure ReplayWindow where
  name : Text
  beforeSecs : Int
  afterSecs : Int
def REPLAY_WINDOWS : List ReplayWindow :=
  [⟨text "zero", 0, 0⟩, ⟨text "demo-900-300", 900, 300⟩, ⟨text "one-day", 86400, 86400⟩]
/-- Lags in polls. -/
def REPLAY_LAGS : List Nat := [1, 2, 10, 120, 480, 2880]
structure ExpectedTransition where
  symbol : Text
  slot : Int
  type : ObservationEventType
def EXPECTED_TRANSITIONS : List ExpectedTransition := [
  ⟨text "UNHon", 446835072, .SCALED_UI_STATE_CHANGED⟩,
  ⟨text "KOx", 447067272, .SCALED_UI_STATE_CHANGED⟩,
  ⟨text "KOx", 447067272, .ACTIVATION_PHASE_CHANGED⟩,
  ⟨text "KOon", 447108571, .SCALED_UI_STATE_CHANGED⟩,
  ⟨text "KOx", 447113520, .ACTIVATION_PHASE_CHANGED⟩]

/-- What is thrown in a replay. -/
inductive Thrown where
  | client (error : JsError)
  | policy (error : TransitionPolicyError)
  | TypeError
  | RangeError
/-- The same error, among those of a replay. -/
def lift {ε α : Type} (thrown : ε → Thrown) : Except ε α → Except Thrown α
  | .ok value => .ok value
  | .error error => .error (thrown error)

/-! ### Observations -/

structure Observation where
  seq : Nat
  lineNumber : Nat
  wallclock : Text
  slot : Int
  /-- Block time of the observed slot. -/
  now : Int
  owner : Value
  data : List UInt8
  state : ProtectedState
  phase : Numeric
  scheduled : Bool
  paused : Option Bool

def isActivated (phase : Numeric) : Bool := Numeric.strictEq phase (.number ActivationPhase.Activated)
def isPending (phase : Numeric) : Bool := Numeric.strictEq phase (.number ActivationPhase.Pending)
def phaseName (phase : Numeric) : PhaseName := if isActivated phase then .activated else .pending
/-- Stored bytes of the multiplier that is applied in a phase. -/
def effective (state : ProtectedState) (phase : Numeric) : List UInt8 :=
  if isActivated phase then state.newMultiplier else state.multiplier
def storedEqual (a b : ProtectedState) : Bool :=
  bytesEqual a.multiplier b.multiplier && bytesEqual a.newMultiplier b.newMultiplier &&
    decide (a.newMultiplierEffectiveTimestamp = b.newMultiplierEffectiveTimestamp)
def inWindow (state : ProtectedState) (now : Int) (w : ReplayWindow) : Bool :=
  hasScheduledChange state && decide (state.newMultiplierEffectiveTimestamp - w.beforeSecs ≤ now) &&
    decide (now ≤ state.newMultiplierEffectiveTimestamp + w.afterSecs)
def bump {Key : Type} [DecidableEq Key] (record : Entries Key Nat) (key : Key) : Entries Key Nat :=
  record.set key ((record.get key).getD 0 + 1)

/-! ### Pairs -/

/-- What the text of an example tells. -/
structure Example where
  kind : Text
  symbol : Text
  authLine : Nat
  line : Nat
  lag : Nat
  window : Text
  verdict : Option EquityGuardError
structure PairTally where
  evaluations : Nat
  authorizationRefusedAtBuild : Nat
  allows : Nat
  blocks : Nat
  /-- By the guard's error; the source writes "ok" for none. -/
  verdicts : Entries (Option EquityGuardError) Nat
  economicallyStale : Nat
  staleBlocked : Nat
  policyWindowBlocks : Nat
  expectedAllows : Nat
  unexpectedAllows : Nat
  unexpectedPolicyAllows : Nat
  unexpectedBlocks : Nat
  reasonDisagreements : Nat
  offChainBindingStricter : Nat
  examples : List Example
def newTally : PairTally := ⟨0, 0, 0, 0, [], 0, 0, 0, 0, 0, 0, 0, 0, 0, []⟩

def STORED_ERRORS : List EquityGuardError := [.MultiplierChanged, .NewMultiplierChanged, .EffectiveTimestampChanged]
def CLOCK_ERRORS : List EquityGuardError := [.InsideTransitionWindow, .ActivationPhaseChanged]

abbrev GuardPolicy := AssertSafeExecutionRequest → ProtectedState → Int → Js (Option EquityGuardError)

/-- What is known of a pair that was evaluated. -/
structure Evaluation where
  symbol : Text
  auth : Observation
  current : Observation
  window : ReplayWindow
  lag : Nat
  verdict : Option EquityGuardError
namespace Evaluation
variable (pair : Evaluation)

def currentPhase : Numeric := .number (phaseAt pair.current.state pair.current.now)
def storedChanged : Bool := !storedEqual pair.auth.state pair.current.state
def stale : Bool := pair.storedChanged ||
  !bytesEqual (effective pair.auth.state pair.auth.phase) (effective pair.current.state pair.currentPhase)
def policy : Bool := !pair.stale && inWindow pair.current.state pair.current.now pair.window
def offChainChanged : Bool := pair.storedChanged || !Numeric.strictEq pair.auth.phase pair.currentPhase
def expectedClass : List EquityGuardError := if pair.storedChanged then STORED_ERRORS else CLOCK_ERRORS
/-- The first ten are kept. -/
def note (kind : Text) (t : PairTally) : PairTally :=
  if t.examples.length < 10 then
    { t with examples := t.examples ++ [⟨kind, pair.symbol, pair.auth.lineNumber, pair.current.lineNumber, pair.lag,
        pair.window.name, pair.verdict⟩] }
  else t
/-- What is counted by the economics of the pair. -/
def judge (t : PairTally) : PairTally :=
  if pair.stale then
    let t := { t with economicallyStale := t.economicallyStale + 1 }
    match pair.verdict with
    | none => pair.note (text "UNEXPECTED ALLOW") { t with unexpectedAllows := t.unexpectedAllows + 1 }
    | some error =>
      let t := { t with staleBlocked := t.staleBlocked + 1 }
      if error ∈ pair.expectedClass then t
      else pair.note (text "REASON DISAGREEMENT") { t with reasonDisagreements := t.reasonDisagreements + 1 }
  else if pair.policy then
    match pair.verdict with
    | some .InsideTransitionWindow => { t with policyWindowBlocks := t.policyWindowBlocks + 1 }
    | none => pair.note (text "UNEXPECTED POLICY ALLOW") { t with unexpectedPolicyAllows := t.unexpectedPolicyAllows + 1 }
    | some _ => pair.note (text "REASON DISAGREEMENT") { t with reasonDisagreements := t.reasonDisagreements + 1 }
  else
    let t := { t with expectedAllows := t.expectedAllows + 1 }
    if pair.verdict = none then t
    else pair.note (text "UNEXPECTED BLOCK") { t with unexpectedBlocks := t.unexpectedBlocks + 1 }
/-- One tally's share of the loop over both. -/
def count (t : PairTally) : PairTally :=
  let t := { t with evaluations := t.evaluations + 1, verdicts := bump t.verdicts pair.verdict }
  let t := if pair.verdict = none then { t with allows := t.allows + 1 } else { t with blocks := t.blocks + 1 }
  let t := pair.judge t
  if pair.verdict = none ∧ pair.offChainChanged = true then
    { t with offChainBindingStricter := t.offChainBindingStricter + 1 }
  else t
end Evaluation

def ReplayWindow.bounds (w : ReplayWindow) : ProtectionWindow := ⟨.ofInt w.beforeSecs, .ofInt w.afterSecs⟩
def evaluatePair (guard : GuardPolicy) (symbol : Text) (auth current : Observation) (w : ReplayWindow) (lag : Nat)
    (tally totals : PairTally) : Except Thrown (PairTally × PairTally) := do
  let request : AssertSafeExecutionRequest := ⟨auth.state, auth.phase.value, w.bounds⟩
  -- No authorization is built inside the window.
  if (← lift .client (guard request auth.state auth.now)) ≠ none then
    return ({ tally with authorizationRefusedAtBuild := tally.authorizationRefusedAtBuild + 1 },
      { totals with authorizationRefusedAtBuild := totals.authorizationRefusedAtBuild + 1 })
  else do
    let verdict ← lift .client (guard request current.state current.now)
    let pair : Evaluation := ⟨symbol, auth, current, w, lag, verdict⟩
    return (pair.count tally, pair.count totals)

/-! ### What is gathered -/

structure SymbolStats where
  mint : Text
  issuer : Option Text
  observations : Nat
  decoded : Nat
  decodeFailures : Nat
  verifiable : Nat
  firstWallclock : Option Text
  lastWallclock : Option Text
  /-- Slots as they print, one that is missing too. -/
  firstSlot : Option (Option Int)
  lastSlot : Option (Option Int)
  distinctStoredStates : Nat
  phases : Entries PhaseName Nat
  pendingObservations : Nat
  scheduledObservations : Nat
  paused : Entries (Option Bool) Nat
  classification : Entries Text (Entries RepresentationState Nat)
  effectiveMultipliers : List Number
def newStats (record : CaptureObservation) : SymbolStats :=
  ⟨record.mint, record.issuer, 0, 0, 0, 0, none, none, none, none, 0, [], 0, 0, [], [], []⟩
structure Event where
  symbol : Option Text
  type : ObservationEventType
  slot : Option Int
  wallclock : Option Text
  detail : List EventDetail
structure EffectiveChange where
  symbol : Text
  slot : Int
  wallclock : Text
  before : Number
  after : Number
structure Replay where
  detector : ObservationEventDetector
  events : List Event
  history : Entries Text (List Observation)
  symbols : Entries Text Text
  stats : Entries Text SymbolStats
  storedStates : Entries Text (List ProtectedState)
  /-- Names that `Object.prototype` has gained. -/
  polluted : List Text
  pairs : Entries (Nat × Text) PairTally
  totals : PairTally
  totalObservations : Nat
  decodeSuccesses : Nat
  decodeFailures : Nat
  lineErrors : Nat
  polls : Nat
  firstWallclock : Option Text
  lastWallclock : Option Text
  previousPollMs : Option Int
  largestPollGapMs : Int
  effectiveChanges : List EffectiveChange
def Replay.start : Replay :=
  ⟨⟨[], []⟩, [], [], [], [], [], [], [], newTally, 0, 0, 0, 0, 0, none, none, none, 0, []⟩

/-! ### Plain objects by symbol -/

def Replay.arrive (replay : Replay) (record : CaptureObservation) : Replay :=
  let wallclock := record.wallclock.getD []
  { replay with
    totalObservations := replay.totalObservations + 1
    firstWallclock := replay.firstWallclock.or (some wallclock)
    lastWallclock := some wallclock
    symbols := replay.symbols.set record.mint (symbolOf record) }
/-- The names every plain object inherits. -/
def OBJECT_PROTOTYPE : List Text := [text "constructor", text "__defineGetter__", text "__defineSetter__", text "hasOwnProperty",
  text "__lookupGetter__", text "__lookupSetter__", text "isPrototypeOf", text "propertyIsEnumerable", text "toString",
  text "valueOf", text "__proto__", text "toLocaleString"]
/-- What `stats[symbol] ??= {…}` gives: an own entry, a function or object that was inherited, or a primitive that
    `Object.prototype` has gained. -/
inductive Found where
  | stats (s : SymbolStats)
  | inherited
  | primitive
def Replay.find (replay : Replay) (record : CaptureObservation) : Found :=
  match replay.stats.get (symbolOf record) with
  | some s => .stats s
  | none =>
    if symbolOf record ∈ OBJECT_PROTOTYPE then .inherited
    else if symbolOf record ∈ replay.polluted then .primitive
    else .stats (newStats record)
/-- Assignments to what was inherited: those to `Object.prototype` itself show in every plain object. -/
def Replay.assign (replay : Replay) (symbol : Text) (names : List String) : Replay :=
  if symbol = text "__proto__" then { replay with polluted := replay.polluted ++ names.map text } else replay

/-- `storedStates[symbol] ??= new Set()`, which is asked to add a state. -/
def Replay.statesOf (replay : Replay) (symbol : Text) : Except Thrown (List ProtectedState) :=
  match replay.storedStates.get symbol with
  | some states => .ok states
  | none => if symbol ∈ OBJECT_PROTOTYPE ∨ symbol ∈ replay.polluted then .error .TypeError else .ok []

def SymbolStats.meet (s : SymbolStats) (wallclock : Text) (slot : Option Int) : SymbolStats :=
  { s with
    observations := s.observations + 1
    firstWallclock := s.firstWallclock.or (some wallclock)
    lastWallclock := some wallclock
    firstSlot := s.firstSlot.or (some slot)
    lastSlot := some slot }
def classify (evidence : ChainObservation) (classification : Entries Text (Entries RepresentationState Nat)) (w : ReplayWindow) :
    Except Thrown (Entries Text (Entries RepresentationState Nat)) := do
  let result ← lift .policy (classifyChainEvidence (.decoded evidence)
    ⟨w.beforeSecs, w.afterSecs, .UNCALIBRATED, text "M11-B replay"⟩)
  return classification.set w.name (bump ((classification.get w.name).getD []) result.state)
def SymbolStats.verify (s : SymbolStats) (evidence : ChainObservation) (phase : Numeric) : Except Thrown SymbolStats := do
  let classification ← REPLAY_WINDOWS.foldlM (classify evidence) s.classification
  let effectiveValue := storedValue (effective evidence.protectedState phase)
  return { s with
    verifiable := s.verifiable + 1
    phases := bump s.phases (phaseName phase)
    scheduledObservations := if evidence.hasScheduledChange then s.scheduledObservations + 1 else s.scheduledObservations
    pendingObservations :=
      if evidence.hasScheduledChange && isPending phase then s.pendingObservations + 1 else s.pendingObservations
    paused := bump s.paused evidence.paused
    classification
    effectiveMultipliers :=
      if effectiveValue ∈ s.effectiveMultipliers then s.effectiveMultipliers else s.effectiveMultipliers ++ [effectiveValue] }

/-! ### The second reading of a line -/

section
variable (jsonParse : Text → Option Value)
-- `Buffer.from(value, "base64")`, of a value that is no string.
variable (bufferFrom : Value → Except Thrown (List UInt8))

/-- `value ?? ""`. -/
def orEmpty (value : Value) : Value := if value.isNullish then .string [] else value
def bufferOf : Value → Except Thrown (List UInt8)
  | .string string => .ok (bufferFromBase64 string)
  | value => bufferFrom value
/-- `JSON.parse(line).accounts`, each of which is asked for its address. -/
def rawAccounts (line : Text) : Except Thrown (List Value) :=
  match ((jsonParse line).getD .undefined).get "accounts" with
  | .array accounts => do
    refuse_if (accounts.any Value.isNullish = true) .TypeError
    return accounts
  | _ => .error .TypeError
/-- The last account of an address. -/
def accountOf (accounts : List Value) (mint : Text) : Value :=
  (accounts.reverse.find? (fun account =>
    match account.get "address" with
    | .string address => decide (address = mint)
    | _ => false)).getD .undefined
/-- The owner and the data that are kept of an observation. -/
def rawOf (line mint : Text) : Except Thrown (Value × List UInt8) := do
  let raw := accountOf (← rawAccounts jsonParse line) mint
  return (orEmpty (raw.get "owner"), ← bufferOf bufferFrom (orEmpty (raw.get "data")))

/-! ### One observation -/

variable (guard : GuardPolicy)

def evaluateAt (symbol : Text) (list : List Observation) (current : Observation) (counts : Entries (Nat × Text) PairTally × PairTally)
    (lag : Nat) : Except Thrown (Entries (Nat × Text) PairTally × PairTally) :=
  match if lag ≤ current.seq then list[current.seq - lag]? else none with
  | none => .ok counts
  | some auth => REPLAY_WINDOWS.foldlM (fun (pairs, totals) w => do
      let (tally, totals) ← evaluatePair guard symbol auth current w lag ((pairs.get (lag, w.name)).getD newTally) totals
      return (pairs.set (lag, w.name) tally, totals)) counts
/-- What is done with an observation whose state can be verified. -/
def Replay.verify (replay : Replay) (line : Text) (record : CaptureObservation) (s : SymbolStats) (evidence : ChainObservation)
    (phase : Numeric) (slot blockTime : Int) : Except Thrown Replay := do
  let symbol := symbolOf record
  let s ← s.verify evidence phase
  let states ← replay.statesOf symbol
  let list := (replay.history.get record.mint).getD []
  let (owner, data) ← rawOf jsonParse bufferFrom line record.mint
  let current : Observation := {
    seq := list.length
    lineNumber := record.lineNumber
    wallclock := record.wallclock.getD []
    slot
    now := blockTime
    owner
    data
    state := evidence.protectedState
    phase
    scheduled := evidence.hasScheduledChange
    paused := evidence.paused }
  let changes := match list.getLast? with
    | some before =>
      if bytesEqual (effective before.state before.phase) (effective current.state current.phase) then []
      else [⟨symbol, slot, current.wallclock, storedValue (effective before.state before.phase),
        storedValue (effective current.state current.phase)⟩]
    | none => []
  let list := list ++ [current]
  -- Every earlier observation at a lag may be a prior authorization.
  let (pairs, totals) ← REPLAY_LAGS.foldlM (evaluateAt guard symbol list current) (replay.pairs, replay.totals)
  return { replay with
    stats := replay.stats.set symbol s
    storedStates := replay.storedStates.set symbol
      (if evidence.protectedState ∈ states then states else states ++ [evidence.protectedState])
    history := replay.history.set record.mint list
    effectiveChanges := replay.effectiveChanges ++ changes
    pairs
    totals }
def Replay.observe (replay : Replay) (line : Text) (record : CaptureObservation) : Except Thrown Replay :=
  let symbol := symbolOf record
  let replay := replay.arrive record
  match replay.find record with
  | .primitive => .error .TypeError
  | .inherited =>
    let replay := replay.assign symbol ["observations", "firstWallclock", "lastWallclock", "firstSlot", "lastSlot"]
    match record.evidence with
    | .decodeError _ _ _ => .ok ({ replay with decodeFailures := replay.decodeFailures + 1 }.assign symbol ["decodeFailures"])
    | .decoded evidence =>
      match evidence.phase, record.slot, record.blockTime with
      -- What was inherited has no `phases`.
      | some _, some _, some _ => .error .TypeError
      | _, _, _ => .ok ({ replay with decodeSuccesses := replay.decodeSuccesses + 1 }.assign symbol ["decoded"])
  | .stats s =>
    let s := s.meet (record.wallclock.getD []) record.slot
    match record.evidence with
    | .decodeError _ _ _ => .ok { replay with
        decodeFailures := replay.decodeFailures + 1
        stats := replay.stats.set symbol { s with decodeFailures := s.decodeFailures + 1 } }
    | .decoded evidence =>
      let replay := { replay with decodeSuccesses := replay.decodeSuccesses + 1 }
      let s := { s with decoded := s.decoded + 1 }
      match evidence.phase, record.slot, record.blockTime with
      | some phase, some slot, some blockTime =>
        replay.verify jsonParse bufferFrom guard line record s evidence phase slot blockTime
      | _, _, _ => .ok { replay with stats := replay.stats.set symbol s }

/-! ### Lines -/

variable (dateParse : Text → Option Int)

def eventOf (record : CaptureRecord) (event : ObservationEvent) : Event :=
  match record with
  | .observation observation => ⟨observation.symbol, event.type, observation.slot, observation.wallclock, event.detail⟩
  | .lineError _ => ⟨none, event.type, none, none, event.detail⟩
def Replay.push (line : Text) (replay : Replay) (record : CaptureRecord) : Except Thrown Replay :=
  let (detector, reported) := replay.detector.push record
  let replay := { replay with detector, events := replay.events ++ reported.map (eventOf record) }
  match record with
  | .lineError _ => .ok { replay with lineErrors := replay.lineErrors + 1 }
  | .observation observation => replay.observe jsonParse bufferFrom guard line observation
/-- The source has the gap in seconds. -/
def Replay.poll (replay : Replay) : Replay :=
  match dateParse (replay.lastWallclock.getD []) with
  | none => replay
  | some ms => { replay with
      previousPollMs := some ms
      largestPollGapMs := match replay.previousPollMs with
        | some previous => max replay.largestPollGapMs (ms - previous)
        | none => replay.largestPollGapMs }
def Replay.read (replay : Replay) (line : Text × Nat) : Except Thrown Replay := do
  let records ← lift .client (decodeCaptureLine jsonParse line.1 line.2)
  if records.isEmpty then return replay
  else do
    let replay ← records.foldlM (Replay.push jsonParse bufferFrom guard line.1) { replay with polls := replay.polls + 1 }
    return replay.poll dateParse
end

/-! ### After the lines -/

structure Described where
  line : Nat
  wallclock : Text
  slot : Int
  blockTime : Int
  multiplier : Number
  newMultiplier : Number
  effectiveTimestamp : Int
  phase : PhaseName
  effectiveMultiplier : Number
def describe (o : Observation) : Described where
  line := o.lineNumber
  wallclock := o.wallclock
  slot := o.slot
  blockTime := o.now
  multiplier := storedValue o.state.multiplier
  newMultiplier := storedValue o.state.newMultiplier
  effectiveTimestamp := o.state.newMultiplierEffectiveTimestamp
  phase := phaseName o.phase
  effectiveMultiplier := storedValue (effective o.state o.phase)
structure BoundaryVerdicts where
  window : Text
  staleAuthorizationAgainstNewState : Option EquityGuardError
  freshAuthorizationOnNewState : Option EquityGuardError
structure Boundary where
  symbol : Option Text
  type : ObservationEventType
  previous : Described
  firstChanged : Described
  verdicts : List BoundaryVerdicts
structure Probe where
  window : Text
  beforeT : Option EquityGuardError
  atT : Option EquityGuardError
  afterT : Option EquityGuardError
structure ScheduledProbe where
  symbol : Option Text
  t : Int
  /-- The time value of the date that is printed. -/
  tIso : Int
  lastPendingBlockTime : Int
  firstActivatedBlockTime : Option Int
  exactlyTObserved : Bool
  protectedStateIdenticalAcrossT : Option Bool
  wholeAccountIdenticalAcrossT : Option Bool
  pendingAuthorizationProbes : List Probe

section
variable (guard : GuardPolicy)

/-- An authorization of an observation's state and a phase, against a state at a time. -/
def authorized (auth : Observation) (phase : Number) (w : ReplayWindow) (state : ProtectedState) (now : Int) :
    Except Thrown (Option EquityGuardError) :=
  lift .client (guard ⟨auth.state, phase, w.bounds⟩ state now)

/-- The first observation at an event's slot and the one before it. -/
def changedAt (history : Entries Text (List Observation)) (symbols : Entries Text Text) (event : Event) :
    Option (Observation × Observation) := do
  let (mint, _) ← symbols.find? (fun entry => some entry.2 = event.symbol)
  let list ← if mint = [] then none else history.get mint
  match ← list.findIdx? (fun o => some o.slot = event.slot) with
  | 0 => none
  | index + 1 => return (← list[index]?, ← list[index + 1]?)
def boundaryOf (history : Entries Text (List Observation)) (symbols : Entries Text Text) (event : Event) :
    Except Thrown (Option Boundary) :=
  match changedAt history symbols event with
  | none => .ok none
  | some (previous, current) => do
    let verdicts ← REPLAY_WINDOWS.mapM (fun w => do
      return (⟨w.name, ← authorized guard previous previous.phase.value w current.state current.now,
        ← authorized guard current current.phase.value w current.state current.now⟩ : BoundaryVerdicts))
    return some ⟨event.symbol, event.type, describe previous, describe current, verdicts⟩
def boundaries (history : Entries Text (List Observation)) (symbols : Entries Text Text) (events : List Event) :
    Except Thrown (List Boundary) := do
  return (← events.mapM (boundaryOf guard history symbols)).filterMap id

/-- What decides of a pending observation. -/
structure Turn where
  phase : Numeric
  scheduled : Bool
  activation : Int
def Observation.turn (o : Observation) : Turn := ⟨o.phase, o.scheduled, o.state.newMultiplierEffectiveTimestamp⟩
/-- In a list from the latest on, the first that is pending and scheduled and directly after an activated one. -/
def findTurn {Item : Type} (turn : Item → Turn) : List Item → Option Item
  | next :: o :: rest =>
    if isPending (turn o).phase && (turn o).scheduled && isActivated (turn next).phase then some o
    else findTurn turn (o :: rest)
  | _ => none
def lastPending {Item : Type} (turn : Item → Turn) (list : List Item) : Option Item := findTurn turn list.reverse
/-- `new Date(Number(t) * 1000)`, which has a time value up to 8.64e15 either way; else it is not printed. -/
def isoTime (t : Int) : Except Thrown Int := do
  let time := toDouble (toDouble t * 1000)
  refuse_if (8640000000000000 < time.natAbs) .RangeError
  return time
def scheduledProbe (symbols : Entries Text Text) (entry : Text × List Observation) : Except Thrown (Option ScheduledProbe) :=
  match lastPending Observation.turn entry.2 with
  | none => .ok none
  | some pending => do
    let firstActivated := entry.2[pending.seq + 1]?
    let t := pending.state.newMultiplierEffectiveTimestamp
    let probe (w : ReplayWindow) (now : Int) := authorized guard pending ActivationPhase.Pending w pending.state now
    let probes ← REPLAY_WINDOWS.mapM (fun w => do
      return (⟨w.name, ← probe w (t - 1), ← probe w t, ← probe w (t + 1)⟩ : Probe))
    return some {
      symbol := symbols.get entry.1
      t
      tIso := ← isoTime t
      lastPendingBlockTime := pending.now
      firstActivatedBlockTime := firstActivated.map Observation.now
      exactlyTObserved := entry.2.any (fun o => decide (o.now = t))
      protectedStateIdenticalAcrossT := firstActivated.map (fun o => storedEqual pending.state o.state)
      wholeAccountIdenticalAcrossT := firstActivated.map (fun o => bytesEqual pending.data o.data)
      pendingAuthorizationProbes := probes }
def scheduledProbes (history : Entries Text (List Observation)) (symbols : Entries Text Text) : Except Thrown (List ScheduledProbe) := do
  return (← history.mapM (scheduledProbe guard symbols)).filterMap id
end

/-! ### The report -/

structure Transitions where
  expected : Nat
  observed : Nat
  matched : Nat
  missed : List Text
  unexpected : List Text
  events : List Event
  effectiveMultiplierChanges : List EffectiveChange
structure ChainReplay where
  polls : Nat
  totalObservations : Nat
  decodeSuccesses : Nat
  decodeFailures : Nat
  lineErrors : Nat
  firstWallclock : Option Text
  lastWallclock : Option Text
  largestPollGapMs : Int
  bySymbol : Entries Text SymbolStats
  transitions : Transitions
  pairs : Entries (Nat × Text) PairTally
  totals : PairTally
  eventBoundaries : List Boundary
  scheduledBoundaryProbes : List ScheduledProbe

def typeName : ObservationEventType → Text
  | .SCALED_UI_STATE_CHANGED => text "SCALED_UI_STATE_CHANGED"
  | .ACTIVATION_PHASE_CHANGED => text "ACTIVATION_PHASE_CHANGED"
  | .PAUSE_STATE_CHANGED => text "PAUSE_STATE_CHANGED"
  | .DECODE_ERROR => text "DECODE_ERROR"
/-- `${symbol}@${slot}:${type}`. -/
def key (symbol : Option Text) (slot : Option Int) (type : ObservationEventType) : Text :=
  symbol.getD (text "null") ++ text "@" ++ (slot.map decimal).getD (text "null") ++ text ":" ++ typeName type
/-- `new Set(items)`, in its order. -/
def setOf (items : List Text) : List Text := items.foldl (fun set item => if item ∈ set then set else set ++ [item]) []
def transitionsOf (expected : List ExpectedTransition) (replay : Replay) : Transitions :=
  let expectedKeys := setOf (expected.map (fun e => key (some e.symbol) (some e.slot) e.type))
  let observedKeys := setOf (replay.events.map (fun e => key e.symbol e.slot e.type))
  { expected := expected.length
    observed := replay.events.length
    matched := (expectedKeys.filter (· ∈ observedKeys)).length
    missed := expectedKeys.filter (· ∉ observedKeys)
    unexpected := observedKeys.filter (· ∉ expectedKeys)
    events := replay.events
    effectiveMultiplierChanges := replay.effectiveChanges }
/-- The entries of `stats`, with the number of states stored of each symbol. -/
def Replay.bySymbol (replay : Replay) : Entries Text SymbolStats :=
  replay.stats.map (fun entry => (entry.1,
    match replay.storedStates.get entry.1 with
    | some states => { entry.2 with distinctStoredStates := states.length }
    | none => entry.2))
def Replay.report (guard : GuardPolicy) (expected : List ExpectedTransition) (replay : Replay) : Except Thrown ChainReplay := do
  let eventBoundaries ← boundaries guard replay.history replay.symbols replay.events
  let scheduledBoundaryProbes ← scheduledProbes guard replay.history replay.symbols
  return {
    polls := replay.polls
    totalObservations := replay.totalObservations
    decodeSuccesses := replay.decodeSuccesses
    decodeFailures := replay.decodeFailures
    lineErrors := replay.lineErrors
    firstWallclock := replay.firstWallclock
    lastWallclock := replay.lastWallclock
    largestPollGapMs := replay.largestPollGapMs
    bySymbol := replay.bySymbol
    transitions := transitionsOf expected replay
    pairs := replay.pairs
    totals := replay.totals
    eventBoundaries
    scheduledBoundaryProbes }
structure ReplayOptions where
  expected : Option (List ExpectedTransition)
  guard : Option GuardPolicy
def replayChain (jsonParse : Text → Option Value) (bufferFrom : Value → Except Thrown (List UInt8)) (dateParse : Text → Option Int)
    (lines : List Text) (options : ReplayOptions) : Except Thrown ChainReplay := do
  let guard := options.guard.getD ClientOffline.checkGuardOffline
  let replay ← (lines.zipIdx 1).foldlM (Replay.read jsonParse bufferFrom guard dateParse) .start
  replay.report guard (options.expected.getD EXPECTED_TRANSITIONS)

end EquityGuard.MarketReplay
