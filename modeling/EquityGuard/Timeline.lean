import Mathlib.Data.Finset.Insert
import EquityGuard.Capture
import EquityGuard.Maps

/-!
The timeline of a capture: stable periods compressed into intervals, with changes, decode
errors and capture gaps in full, and how good the evidence of each symbol is. Time comes
only from the records.
-/
namespace EquityGuard.Timeline
open EquityGuard.Binary64 EquityGuard.Bytes EquityGuard.Capture EquityGuard.Client EquityGuard.ClientAbi EquityGuard.Hex
open EquityGuard.JsonText EquityGuard.Maps EquityGuard.Records EquityGuard.Representations

/-! ### Detecting changes -/

inductive ObservationEventType where
  | SCALED_UI_STATE_CHANGED
  | ACTIVATION_PHASE_CHANGED
  | PAUSE_STATE_CHANGED
  | DECODE_ERROR
deriving DecidableEq
/-- A text of an event, by what it is about. -/
inductive EventDetail where
  | field (name : Text)
  | phase (before after : Numeric)
  | paused (before after : Option Bool)
  | decodeError (code : Text) (message : Template)
  | line (lineNumber : Nat) (code : CaptureLineErrorCode)
structure ObservationEvent where
  type : ObservationEventType
  detail : List EventDetail
/-- The last observation and the last error code of each mint. -/
structure ObservationEventDetector where
  lastDecoded : Entries Text CaptureObservation
  lastErrorCode : Entries Text Text

/-- The stored fields two observations differ in. -/
def changedFields (before after : ProtectedState) : List Text :=
  (if bytesEqual before.multiplier after.multiplier then [] else [text "multiplier"]) ++
  (if bytesEqual before.newMultiplier after.newMultiplier then [] else [text "newMultiplier"]) ++
  (if before.newMultiplierEffectiveTimestamp ≠ after.newMultiplierEffectiveTimestamp then
    [text "newMultiplierEffectiveTimestamp"] else [])
/-- What is reported of two decoded observations in a row. -/
def changes (before after : ChainObservation) : List ObservationEvent :=
  let changed := changedFields before.protectedState after.protectedState
  (if changed ≠ [] then [⟨.SCALED_UI_STATE_CHANGED, changed.map .field⟩] else []) ++
  (match before.phase, after.phase with
    | some first, some second =>
      if Numeric.strictEq first second then [] else [⟨.ACTIVATION_PHASE_CHANGED, [.phase first second]⟩]
    | _, _ => []) ++
  (if before.paused ≠ after.paused then [⟨.PAUSE_STATE_CHANGED, [.paused before.paused after.paused]⟩] else [])
def ObservationEventDetector.push (detector : ObservationEventDetector) (record : CaptureRecord) :
    ObservationEventDetector × List ObservationEvent :=
  match record with
  | .lineError error => (detector, [⟨.DECODE_ERROR, [.line error.lineNumber error.code]⟩])
  | .observation observation =>
    match observation.evidence with
    | .decodeError _ code message =>
      if detector.lastErrorCode.get observation.mint = some code then (detector, [])
      else ({ detector with lastErrorCode := detector.lastErrorCode.set observation.mint code },
        [⟨.DECODE_ERROR, [.decodeError code message]⟩])
    | .decoded after =>
      let next : ObservationEventDetector := {
        lastDecoded := detector.lastDecoded.set observation.mint observation
        lastErrorCode := detector.lastErrorCode.filter (fun entry => entry.1 ≠ observation.mint) }
      match detector.lastDecoded.get observation.mint with
      | some ⟨_, _, _, _, _, _, _, .decoded before⟩ => (next, changes before after)
      | _ => (next, [])

/-! ### Entries -/

inductive PhaseName where
  | pending
  | activated
deriving DecidableEq
structure StateFields where
  decimals : Numeric
  multiplierHex : Text
  multiplierValue : Number
  newMultiplierHex : Text
  newMultiplierValue : Number
  effectiveTimestamp : Int
  phase : Option PhaseName
  paused : Option Bool
deriving DecidableEq
/-- A `getFloat64` of a stored multiplier, which has eight bytes; the source prints the number. -/
def storedValue (bytes : List UInt8) : Number := ofBits (leNat (bytes.take 8))
def stateFields (evidence : ChainObservation) : StateFields where
  decimals := evidence.decimals
  multiplierHex := toHex evidence.protectedState.multiplier
  multiplierValue := storedValue evidence.protectedState.multiplier
  newMultiplierHex := toHex evidence.protectedState.newMultiplier
  newMultiplierValue := storedValue evidence.protectedState.newMultiplier
  effectiveTimestamp := evidence.protectedState.newMultiplierEffectiveTimestamp
  phase := evidence.phase.map (fun phase => if Numeric.strictEq phase 0 then .pending else .activated)
  paused := evidence.paused

structure Identity where
  issuer : Option Text
  symbol : Option Text
  mint : Option Text
/-- Where a run of records begins and ends. -/
structure Span where
  firstWallclock : Option Text
  lastWallclock : Option Text
  firstSlot : Option Int
  lastSlot : Option Int
  firstLine : Nat
  lastLine : Nat
/-- Where a record stands. -/
structure Moment where
  wallclock : Option Text
  slot : Option Int
  blockTime : Option Int
  line : Nat
/-- The kinds of entries, without the fields that are constant in a kind. -/
inductive EntryBody where
  | STABLE_INTERVAL (span : Span) (firstBlockTime lastBlockTime : Option Int) (observations : Nat) (state : StateFields)
  | STATE_CHANGE (moment : Moment) (events : List ObservationEventType) (changedFields : List EventDetail)
      (previous current : StateFields)
  | DECODE_ERROR (code : Text) (message : Template) (span : Span) (occurrences : Nat)
  | CAPTURE_GAP (fromWallclock toWallclock : Text) (wallclockGapMs : Int) (fromSlot toSlot : Option Int)
      (blockTimeGapSecs : Option Int) (fromLine toLine : Nat)
  | OBSERVATION (moment : Moment) (state : Option StateFields) (error : Option (Text × Template))
structure TimelineEntry extends Identity where
  body : EntryBody
def KIND_RANK : EntryBody → Nat
  | .CAPTURE_GAP .. => 0
  | .DECODE_ERROR .. => 1
  | .STATE_CHANGE .. => 2
  | .STABLE_INTERVAL .. => 3
  | .OBSERVATION .. => 4
/-- An entry with the line it is ordered by. -/
structure Pushed where
  line : Nat
  entry : TimelineEntry

def spanOf (first last : CaptureObservation) : Span :=
  ⟨first.wallclock, last.wallclock, first.slot, last.slot, first.lineNumber, last.lineNumber⟩
def momentOf (record : CaptureObservation) : Moment := ⟨record.wallclock, record.slot, record.blockTime, record.lineNumber⟩

/-! ### Tracks -/

def CAPTURE_CADENCE_SECS : Int := 30
/-- Consecutive observations this far apart (or more) are reported as a gap. -/
def CAPTURE_GAP_THRESHOLD_SECS : Int := 60

/-- One observed poll. -/
structure PollPoint where
  line : Nat
  wallclock : Text
  ms : Int
  slot : Option Int
  blockTime : Option Int
deriving DecidableEq
structure OpenInterval where
  first : CaptureObservation
  last : CaptureObservation
  observations : Nat
  state : StateFields
structure OpenErrorRun where
  first : CaptureObservation
  last : CaptureObservation
  code : Text
  message : Template
  occurrences : Nat
structure SymbolTrack where
  issuer : Option Text
  symbol : Text
  mint : Text
  interval : Option OpenInterval
  errors : Option OpenErrorRun
  lastPoint : Option PollPoint
  lastDecoded : Option StateFields
  polls : List PollPoint
  decodeErrors : Nat
  gaps : Nat
namespace SymbolTrack

def entry (track : SymbolTrack) (body : EntryBody) : TimelineEntry := ⟨⟨track.issuer, some track.symbol, some track.mint⟩, body⟩
/-- What closing the open interval pushes. -/
def closeInterval (track : SymbolTrack) : List Pushed :=
  match track.interval with
  | some interval => [⟨interval.first.lineNumber, track.entry (.STABLE_INTERVAL (spanOf interval.first interval.last)
      interval.first.blockTime interval.last.blockTime interval.observations interval.state)⟩]
  | none => []
/-- What closing the open error run pushes. -/
def closeErrors (track : SymbolTrack) : List Pushed :=
  match track.errors with
  | some run => [⟨run.first.lineNumber, track.entry (.DECODE_ERROR run.code run.message (spanOf run.first run.last)
      run.occurrences)⟩]
  | none => []
/-- Takes the point of a record, if it has one: after a gap nothing stays open. -/
def meetPoint (track : SymbolTrack) : Option PollPoint → SymbolTrack × List Pushed
  | none => (track, [])
  | some point =>
    match track.lastPoint with
    | some previous =>
      if point.ms - previous.ms ≥ CAPTURE_GAP_THRESHOLD_SECS * 1000 then
        ({ track with
            interval := none, errors := none, gaps := track.gaps + 1
            lastPoint := some point, polls := track.polls ++ [point] },
          track.closeInterval ++ track.closeErrors ++ [⟨point.line, track.entry (.CAPTURE_GAP previous.wallclock
            point.wallclock (point.ms - previous.ms) previous.slot point.slot
            (match previous.blockTime, point.blockTime with
              | some first, some second => some (second - first)
              | _, _ => none)
            previous.line point.line)⟩])
      else ({ track with lastPoint := some point, polls := track.polls ++ [point] }, [])
    | none => ({ track with lastPoint := some point, polls := track.polls ++ [point] }, [])
/-- Takes a record that could not be decoded. -/
def meetFailure (verbose : Bool) (track : SymbolTrack) (record : CaptureObservation) (code : Text) (message : Template) :
    SymbolTrack × List Pushed :=
  let shown : List Pushed := if verbose then
    [⟨record.lineNumber, track.entry (.OBSERVATION (momentOf record) none (some (code, message)))⟩] else []
  let opened : OpenErrorRun := ⟨record, record, code, message, 1⟩
  match track.errors with
  | some run =>
    if run.code = code then
      ({ track with
          interval := none, decodeErrors := track.decodeErrors + 1
          errors := some { run with last := record, occurrences := run.occurrences + 1 } },
        track.closeInterval ++ shown)
    else ({ track with interval := none, decodeErrors := track.decodeErrors + 1, errors := some opened },
      track.closeInterval ++ track.closeErrors ++ shown)
  | none => ({ track with interval := none, decodeErrors := track.decodeErrors + 1, errors := some opened },
      track.closeInterval ++ shown)
/-- Takes a decoded record, with what the detector reported of it. -/
def meetDecoded (verbose : Bool) (track : SymbolTrack) (events : List ObservationEvent) (record : CaptureObservation)
    (evidence : ChainObservation) : SymbolTrack × List Pushed :=
  let current := stateFields evidence
  let shown : List Pushed := if verbose then
    [⟨record.lineNumber, track.entry (.OBSERVATION (momentOf record) (some current) none)⟩] else []
  let opened : OpenInterval := ⟨record, record, 1, current⟩
  match events, track.lastDecoded with
  | event :: others, some previous =>
    ({ track with interval := some opened, errors := none, lastDecoded := some current },
      track.closeErrors ++ track.closeInterval ++ [⟨record.lineNumber, track.entry (.STATE_CHANGE (momentOf record)
        ((event :: others).map ObservationEvent.type) ((event :: others).flatMap ObservationEvent.detail) previous
        current)⟩] ++ shown)
  | _, _ =>
    let interval := match track.interval with
      | some interval => { interval with last := record, observations := interval.observations + 1 }
      | none => opened
    ({ track with interval := some interval, errors := none, lastDecoded := some current }, track.closeErrors ++ shown)
end SymbolTrack

/-! ### Metrics -/

inductive QualityStatus where
  | GOOD
  | DEGRADED
  | INSUFFICIENT
deriving DecidableEq
structure QualityMetrics where
  firstWallclock : Option Text
  lastWallclock : Option Text
  firstSlot : Option Int
  lastSlot : Option Int
  totalPolls : Nat
  expectedPolls : Int
  observedPolls : Nat
  largestWallclockGapMs : Int
  largestBlockTimeGapSecs : Option Int
  coverageBps : Int
  coveragePercent : Text
  decodeErrors : Nat
  gaps : Nat
  status : QualityStatus

namespace QUALITY_THRESHOLDS
def goodMinCoverageBps : Int := 9800
def goodMaxWallclockGapMs : Int := 90000
def goodMaxDecodeErrors : Nat := 0
def degradedMinCoverageBps : Int := 9000
def degradedMaxWallclockGapMs : Int := 300000
end QUALITY_THRESHOLDS

/-- Each poll but the first, behind the one before it. -/
def steps (polls : List PollPoint) : List (PollPoint × PollPoint) := polls.zip polls.tail
def countGaps (polls : List PollPoint) : Nat :=
  (steps polls).countP (fun step => decide (step.2.ms - step.1.ms ≥ CAPTURE_GAP_THRESHOLD_SECS * 1000))
def largestWallclockGapMs (polls : List PollPoint) : Int :=
  (steps polls).foldl (fun largest step => max largest (step.2.ms - step.1.ms)) 0
def largestBlockTimeGapSecs (polls : List PollPoint) : Option Int :=
  (steps polls).foldl (fun largest step =>
    match step.1.blockTime, step.2.blockTime with
    | some first, some second =>
      match largest with
      | some gap => if second - first > gap then some (second - first) else some gap
      | none => some (second - first)
    | _, _ => largest) none
/-- `Math.floor` of a quotient, exact while the dividend is below `2 ^ 53`. -/
def expectedPolls (polls : List PollPoint) : Int :=
  match polls.head?, polls.getLast? with
  | some first, some last => (last.ms - first.ms) / (CAPTURE_CADENCE_SECS * 1000) + 1
  | _, _ => 0
/-- The quotient is rounded down also when the divisor is negative. -/
def coverageBps (observed : Nat) (expected : Int) : Int :=
  if expected = 0 then 0 else min 10000 ((observed * 10000 : Int).fdiv expected)
def statusOf (observed : Nat) (coverage largestGap : Int) (decodeErrors : Nat) : QualityStatus :=
  if 2 ≤ observed ∧ coverage ≥ QUALITY_THRESHOLDS.goodMinCoverageBps ∧
      largestGap ≤ QUALITY_THRESHOLDS.goodMaxWallclockGapMs ∧ decodeErrors ≤ QUALITY_THRESHOLDS.goodMaxDecodeErrors then .GOOD
  else if 2 ≤ observed ∧ coverage ≥ QUALITY_THRESHOLDS.degradedMinCoverageBps ∧
      largestGap ≤ QUALITY_THRESHOLDS.degradedMaxWallclockGapMs then .DEGRADED
  else .INSUFFICIENT
/-- Metrics for an ordered list of polls. -/
def qualityMetrics (polls : List PollPoint) (totalPolls decodeErrors gaps : Nat) : QualityMetrics :=
  let coverage := coverageBps polls.length (expectedPolls polls)
  { firstWallclock := polls.head?.map PollPoint.wallclock
    lastWallclock := polls.getLast?.map PollPoint.wallclock
    firstSlot := polls.head?.bind PollPoint.slot
    lastSlot := polls.getLast?.bind PollPoint.slot
    totalPolls
    expectedPolls := expectedPolls polls
    observedPolls := polls.length
    largestWallclockGapMs := largestWallclockGapMs polls
    largestBlockTimeGapSecs := largestBlockTimeGapSecs polls
    coverageBps := coverage
    coveragePercent := decimal (coverage / 100) ++ text "." ++
      (let cents := decimal (coverage.tmod 100)
       List.replicate (2 - cents.length) 48 ++ cents)
    decodeErrors
    gaps
    status := statusOf polls.length coverage (largestWallclockGapMs polls) decodeErrors }

/-! ### The loop -/

structure TimelineOptions where
  /-- The symbols to include; all when there is no set. -/
  symbols : Option (List Text)
  verbose : Bool
structure TimelineResult where
  entries : List TimelineEntry
  overall : QualityMetrics
  bySymbol : Entries Text QualityMetrics
/-- The variables of the loop. -/
structure Loop where
  entries : List Pushed
  detector : ObservationEventDetector
  tracks : Entries Text SymbolTrack
  overallPolls : Entries Nat PollPoint
  allPollLines : Finset Nat
  lineErrors : Nat
def Loop.start : Loop := ⟨[], ⟨[], []⟩, [], [], ∅, 0⟩

def symbolOf (record : CaptureObservation) : Text := record.symbol.getD record.mint
def TimelineOptions.Selects (options : TimelineOptions) (record : CaptureObservation) : Prop :=
  ∀ symbols ∈ options.symbols, symbolOf record ∈ symbols
instance (options : TimelineOptions) : DecidablePred options.Selects := fun record =>
  match h : options.symbols with
  | none => isTrue (by simp [TimelineOptions.Selects, h])
  | some symbols => decidable_of_iff (symbolOf record ∈ symbols) (by simp [TimelineOptions.Selects, h])
def newTrack (record : CaptureObservation) : SymbolTrack :=
  ⟨record.issuer, symbolOf record, record.mint, none, none, none, none, [], 0, 0⟩
/-- An assignment to a property of a plain object: that of `__proto__` sets no property. -/
def assign (object : Entries Text QualityMetrics) (key : Text) (value : QualityMetrics) : Entries Text QualityMetrics :=
  if key = text "__proto__" then object else object.set key value
def entryLE (left right : Pushed) : Bool :=
  let symbol (pushed : Pushed) : Text := pushed.entry.symbol.getD []
  left.line < right.line || (left.line == right.line &&
    (KIND_RANK left.entry.body < KIND_RANK right.entry.body || (KIND_RANK left.entry.body == KIND_RANK right.entry.body &&
      decide (symbol left ≤ symbol right))))

section
-- `Date.parse`, with no value for `NaN`.
variable (dateParse : Text → Option Int)

/-- The point of a record whose wallclock parses. -/
def pointOf (record : CaptureObservation) : Option PollPoint :=
  record.wallclock.bind (fun wallclock => (dateParse wallclock).map (fun ms =>
    ⟨record.lineNumber, wallclock, ms, record.slot, record.blockTime⟩))
/-- What one selected record does to the track of its mint. -/
def observe (verbose : Bool) (track : SymbolTrack) (events : List ObservationEvent) (record : CaptureObservation) :
    SymbolTrack × List Pushed :=
  let (met, gap) := track.meetPoint (pointOf dateParse record)
  let (after, entries) := match record.evidence with
    | .decodeError _ code message => met.meetFailure verbose record code message
    | .decoded evidence => met.meetDecoded verbose events record evidence
  (after, gap ++ entries)
def lineErrorEntry (error : CaptureLineError) : Pushed :=
  ⟨error.lineNumber, ⟨⟨none, none, none⟩, .DECODE_ERROR error.code.name error.message
    ⟨none, none, none, none, error.lineNumber, error.lineNumber⟩ 1⟩⟩
def Loop.step (options : TimelineOptions) (loop : Loop) : CaptureRecord → Loop
  | .lineError error => { loop with lineErrors := loop.lineErrors + 1, entries := loop.entries ++ [lineErrorEntry error] }
  | .observation record =>
    let point := pointOf dateParse record
    let allPollLines := if point.isSome then insert record.lineNumber loop.allPollLines else loop.allPollLines
    if options.Selects record then
      let track := (loop.tracks.get record.mint).getD (newTrack record)
      let (detector, reported) := loop.detector.push (.observation record)
      let events := reported.filter (fun event => event.type ≠ .DECODE_ERROR)
      let (observed, entries) := observe dateParse options.verbose track events record
      { loop with
        entries := loop.entries ++ entries
        detector
        tracks := loop.tracks.set record.mint observed
        overallPolls := match point with
          | some point =>
            if (loop.overallPolls.get point.line).isNone then loop.overallPolls.set point.line point else loop.overallPolls
          | none => loop.overallPolls
        allPollLines }
    else { loop with allPollLines }
def Loop.run (options : TimelineOptions) (records : List CaptureRecord) : Loop :=
  records.foldl (Loop.step dateParse options) .start
/-- What is still open when the records end. -/
def Loop.flush (loop : Loop) : List Pushed :=
  loop.tracks.flatMap (fun track => track.2.closeInterval ++ track.2.closeErrors)
def SymbolTrack.metrics (totalPolls : Nat) (track : SymbolTrack) : QualityMetrics :=
  qualityMetrics track.polls totalPolls track.decodeErrors track.gaps
def Loop.polls (loop : Loop) : List PollPoint :=
  (loop.overallPolls.map Prod.snd).mergeSort (fun left right => left.line ≤ right.line)
def buildTimeline (options : TimelineOptions) (records : List CaptureRecord) : TimelineResult :=
  let loop := Loop.run dateParse options records
  let symbolDecodeErrors := (loop.tracks.map (fun track => track.2.decodeErrors)).sum
  { entries := ((loop.entries ++ loop.flush).mergeSort entryLE).map Pushed.entry
    overall := qualityMetrics loop.polls loop.allPollLines.card (symbolDecodeErrors + loop.lineErrors) (countGaps loop.polls)
    bySymbol := loop.tracks.foldl (fun bySymbol track =>
      assign bySymbol track.2.symbol (track.2.metrics loop.allPollLines.card)) [] }
end

end EquityGuard.Timeline
