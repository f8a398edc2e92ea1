import EquityGuard.Segments
import EquityGuard.Timeline

/-!
What the timeline of a capture says of each mint, as a function of the selected records of
that mint alone, whatever the records of other mints between them. The records of a mint
are cut into runs where the decode status, the error code or the state changes, and at
gaps; each run is one entry.
-/
namespace EquityGuard.TimelineRuns
open EquityGuard.Capture EquityGuard.Client EquityGuard.ClientAbi EquityGuard.JsonText EquityGuard.Maps
open EquityGuard.Representations EquityGuard.Segments EquityGuard.Timeline

/-! ### The history of a mint, latest record first -/

def observationOf : CaptureRecord → Option CaptureObservation
  | .observation record => some record
  | .lineError _ => none
/-- The observations a filter keeps. -/
def selected (options : TimelineOptions) (records : List CaptureRecord) : List CaptureObservation :=
  (records.filterMap observationOf).filter (fun record => options.Selects record)
def history (options : TimelineOptions) (records : List CaptureRecord) (mint : Text) : List CaptureObservation :=
  ((selected options records).filter (fun record => record.mint = mint)).reverse

theorem selected_concat (options : TimelineOptions) (records : List CaptureRecord) (record : CaptureRecord) :
    selected options (records ++ [record]) =
      selected options records ++ ((observationOf record).filter (fun record => options.Selects record)).toList := by
  unfold selected
  rw [List.filterMap_append, List.filter_append]
  cases record with
  | lineError _ => rfl
  | observation record => by_cases kept : options.Selects record <;> simp [observationOf, Option.filter, kept]
theorem history_lineError (options : TimelineOptions) (records : List CaptureRecord) (error : CaptureLineError) :
    history options (records ++ [.lineError error]) = history options records := by
  funext mint
  simp [history, selected_concat, observationOf]
theorem history_rejected {options : TimelineOptions} {record : CaptureObservation} (rejected : ¬ options.Selects record)
    (records : List CaptureRecord) : history options (records ++ [.observation record]) = history options records := by
  funext mint
  simp [history, selected_concat, observationOf, rejected]
theorem history_selected {options : TimelineOptions} {record : CaptureObservation} (kept : options.Selects record)
    (records : List CaptureRecord) (mint : Text) : history options (records ++ [.observation record]) mint =
      if record.mint = mint then record :: history options records mint else history options records mint := by
  unfold history
  rw [selected_concat, List.filter_append, List.reverse_append]
  by_cases same : record.mint = mint <;> simp [observationOf, Option.filter, kept, same]

/-! ### What is known after a history -/

def decodedOf (record : CaptureObservation) : Option ChainObservation :=
  match record.evidence with
  | .decoded evidence => some evidence
  | .decodeError .. => none
def failureOf (record : CaptureObservation) : Option (Text × Template) :=
  match record.evidence with
  | .decoded _ => none
  | .decodeError _ code message => some (code, message)
/-- The code of a record that could not be decoded. -/
def codeOf (record : CaptureObservation) : Option Text := (failureOf record).map Prod.fst
def isFailure (record : CaptureObservation) : Bool := (decodedOf record).isNone
/-- A record that goes on where the one before it stood: it fails with the same code, or decodes to a state in which
    the detector sees no change. -/
def continues (last record : CaptureObservation) : Bool :=
  match last.evidence, record.evidence with
  | .decodeError _ code _, .decodeError _ other _ => decide (code = other)
  | .decoded before, .decoded after => (changes before after).isEmpty
  | _, _ => false
def lastDecoded (earlier : List CaptureObservation) : Option ChainObservation := earlier.findSome? decodedOf
/-- The interval that a run of decoded records is. -/
def intervalOf (run : List CaptureObservation) : Option OpenInterval :=
  match run.getLast?, run.head? with
  | some first, some last => (decodedOf first).map (fun evidence => ⟨first, last, run.length, stateFields evidence⟩)
  | _, _ => none
def errorsOf (run : List CaptureObservation) : Option OpenErrorRun :=
  match run.getLast?, run.head? with
  | some first, some last => (failureOf first).map (fun failure => ⟨first, last, failure.1, failure.2, run.length⟩)
  | _, _ => none
/-- What closing both pushes. -/
def closings (track : SymbolTrack) : List Pushed := track.closeInterval ++ track.closeErrors
/-- The entry of a run, on the track that began with a record. -/
def runEntries (first : CaptureObservation) (run : List CaptureObservation) : List Pushed :=
  closings { newTrack first with interval := intervalOf run, errors := errorsOf run }

section
variable (dateParse : Text → Option Int)

def points (earlier : List CaptureObservation) : List PollPoint := earlier.filterMap (pointOf dateParse)
/-- The record comes a gap after the last point before it. -/
def isGap (earlier : List CaptureObservation) (record : CaptureObservation) : Bool :=
  match (points dateParse earlier).head?, pointOf dateParse record with
  | some previous, some point => decide (point.ms - previous.ms ≥ CAPTURE_GAP_THRESHOLD_SECS * 1000)
  | _, _ => false
def breaks (earlier : List CaptureObservation) (record : CaptureObservation) : Bool :=
  isGap dateParse earlier record || !earlier.head?.any (continues · record)
/-- The runs of a history. -/
def runsOf (earlier : List CaptureObservation) : List (List CaptureObservation) :=
  segments (fun earlier record => breaks dateParse earlier record = true) earlier
/-- The track after a history that began with a record. -/
def trackOf (first : CaptureObservation) (earlier : List CaptureObservation) : SymbolTrack := { newTrack first with
  interval := (runsOf dateParse earlier).head?.bind intervalOf
  errors := (runsOf dateParse earlier).head?.bind errorsOf
  lastPoint := (points dateParse earlier).head?
  lastDecoded := (lastDecoded earlier).map stateFields
  polls := (points dateParse earlier).reverse
  decodeErrors := earlier.countP isFailure
  gaps := countGaps (points dateParse earlier).reverse }
end

/-! ### Runs -/

theorem intervalOf_cons {record last : CaptureObservation} {run : List CaptureObservation} :
    intervalOf (record :: last :: run) = (intervalOf (last :: run)).map (fun interval =>
      { interval with last := record, observations := interval.observations + 1 }) := by
  unfold intervalOf
  rw [List.getLast?_cons_cons]
  cases found : (last :: run).getLast? with
  | none => simp at found
  | some first => cases decoded : decodedOf first <;> simp [decoded]
theorem errorsOf_cons {record last : CaptureObservation} {run : List CaptureObservation} :
    errorsOf (record :: last :: run) = (errorsOf (last :: run)).map (fun errors =>
      { errors with last := record, occurrences := errors.occurrences + 1 }) := by
  unfold errorsOf
  rw [List.getLast?_cons_cons]
  cases found : (last :: run).getLast? with
  | none => simp at found
  | some first => cases failed : failureOf first <;> simp [failed]

theorem codeOf_of_continues {last record : CaptureObservation} (continuing : continues last record = true) :
    codeOf record = codeOf last := by
  unfold continues at continuing
  unfold codeOf failureOf
  split at continuing
  · rename_i first second
    rw [first, second, of_decide_eq_true continuing]
    rfl
  · rename_i first second
    rw [first, second]
  · cases continuing
theorem failureOf_eq_none {record : CaptureObservation} :
    failureOf record = none ↔ ∃ evidence, decodedOf record = some evidence := by
  unfold failureOf decodedOf
  cases record.evidence <;> simp
theorem decodedOf_eq_none {record : CaptureObservation} :
    decodedOf record = none ↔ ∃ failure, failureOf record = some failure := by
  unfold failureOf decodedOf
  cases record.evidence <;> simp
theorem isFailure_iff {record : CaptureObservation} : isFailure record = true ↔ ∃ code, codeOf record = some code := by
  unfold isFailure decodedOf codeOf failureOf
  cases record.evidence <;> simp

section
variable {dateParse : Text → Option Int}

/-- A record that does not break follows another one, without a gap. -/
theorem breaks_eq_false {earlier : List CaptureObservation} {record : CaptureObservation} :
    ¬ breaks dateParse earlier record = true ↔
      isGap dateParse earlier record = false ∧ ∃ last, earlier.head? = some last ∧ continues last record = true := by
  unfold breaks
  cases earlier.head? <;> simp
theorem head_of_runs {earlier run : List CaptureObservation} {rest : List (List CaptureObservation)}
    (cut : runsOf dateParse earlier = run :: rest) : ∃ last others, run = last :: others ∧ earlier.head? = some last := by
  have whole := history_of_segments _ cut
  have member : run ∈ runsOf dateParse earlier := by
    rw [cut]
    exact List.mem_cons_self
  cases run with
  | nil => exact absurd rfl (ne_nil_of_mem_segments _ member)
  | cons last others => exact ⟨last, others, rfl, by rw [whole]; rfl⟩
/-- All records of a run have the same decode status, and the same code if they fail. -/
theorem runs_uniform {earlier run : List CaptureObservation} (member : run ∈ runsOf dateParse earlier) :
    ∀ record ∈ run, ∀ other ∈ run, codeOf record = codeOf other := by
  refine segments_rule _ (motive := fun run => ∀ record ∈ run, ∀ other ∈ run, codeOf record = codeOf other) ?_ ?_ run member
  · simp
  · intro item before segment rest _ cut joins uniform
    obtain ⟨_, last, latest, continuing⟩ := breaks_eq_false.mp joins
    obtain ⟨head, others, rfl, same⟩ := head_of_runs cut
    obtain rfl : head = last := Option.some.inj (same.symm.trans latest)
    have code := codeOf_of_continues continuing
    have inside : ∀ record ∈ item :: head :: others, codeOf record = codeOf head := by
      intro record found
      rcases List.mem_cons.mp found with rfl | found
      · exact code
      · exact uniform record found head List.mem_cons_self
    intro record found other also
    rw [inside record found, inside other also]
end

/-! ### What one record does -/

/-- What the detector reports of a record after a history. -/
def eventsAfter (earlier : List CaptureObservation) (record : CaptureObservation) : List ObservationEvent :=
  match lastDecoded earlier, decodedOf record with
  | some before, some after => changes before after
  | _, _ => []
def changeEntries (first : CaptureObservation) (earlier : List CaptureObservation) (record : CaptureObservation) : List Pushed :=
  match lastDecoded earlier, decodedOf record with
  | some before, some after =>
    if changes before after = [] then []
    else [⟨record.lineNumber, (newTrack first).entry (.STATE_CHANGE (momentOf record)
      ((changes before after).map ObservationEvent.type) ((changes before after).flatMap ObservationEvent.detail)
      (stateFields before) (stateFields after))⟩]
  | _, _ => []
/-- What a verbose timeline shows of every record. -/
def shownEntries (verbose : Bool) (first record : CaptureObservation) : List Pushed :=
  if verbose then [⟨record.lineNumber, (newTrack first).entry (.OBSERVATION (momentOf record)
    ((decodedOf record).map stateFields) (failureOf record))⟩] else []

section
variable (dateParse : Text → Option Int)

def gapEntries (first : CaptureObservation) (earlier : List CaptureObservation) (record : CaptureObservation) : List Pushed :=
  match (points dateParse earlier).head?, pointOf dateParse record with
  | some previous, some point =>
    if point.ms - previous.ms ≥ CAPTURE_GAP_THRESHOLD_SECS * 1000 then
      [⟨point.line, (newTrack first).entry (.CAPTURE_GAP previous.wallclock point.wallclock (point.ms - previous.ms)
        previous.slot point.slot
        (match previous.blockTime, point.blockTime with
          | some first, some second => some (second - first)
          | _, _ => none)
        previous.line point.line)⟩]
    else []
  | _, _ => []
/-- The track once the point of the next record is taken. -/
def metTrack (first : CaptureObservation) (earlier : List CaptureObservation) (record : CaptureObservation) : SymbolTrack :=
  { trackOf dateParse first earlier with
    interval := if isGap dateParse earlier record then none else (trackOf dateParse first earlier).interval
    errors := if isGap dateParse earlier record then none else (trackOf dateParse first earlier).errors
    lastPoint := (points dateParse (record :: earlier)).head?
    polls := (points dateParse (record :: earlier)).reverse
    gaps := countGaps (points dateParse (record :: earlier)).reverse }
end

theorem steps_concat (polls : List PollPoint) (point : PollPoint) :
    steps (polls ++ [point]) = steps polls ++ polls.getLast?.toList.map (fun previous => (previous, point)) := by
  unfold steps
  induction polls with
  | nil => rfl
  | cons poll rest ih =>
    cases rest with
    | nil => rfl
    | cons next rest =>
      rw [List.getLast?_cons_cons]
      exact congrArg (List.cons (poll, next)) ih
theorem countGaps_concat (polls : List PollPoint) (point : PollPoint) :
    countGaps (polls ++ [point]) = countGaps polls + if polls.getLast?.any (fun previous =>
      decide (point.ms - previous.ms ≥ CAPTURE_GAP_THRESHOLD_SECS * 1000)) then 1 else 0 := by
  unfold countGaps
  rw [steps_concat, List.countP_append]
  cases polls.getLast? <;> simp [List.countP_cons]

section
variable {dateParse : Text → Option Int} {first record : CaptureObservation} {earlier : List CaptureObservation}

theorem points_cons : points dateParse (record :: earlier) = (pointOf dateParse record).toList ++ points dateParse earlier := by
  unfold points
  rw [List.filterMap_cons]
  cases pointOf dateParse record <;> rfl
theorem isGap_eq_false_of_none (pointless : pointOf dateParse record = none) : isGap dateParse earlier record = false := by
  unfold isGap
  rw [pointless]
  cases (points dateParse earlier).head? <;> rfl
theorem meetPoint_trackOf {point : PollPoint} (pointed : pointOf dateParse record = some point) :
    (trackOf dateParse first earlier).meetPoint (some point) = (metTrack dateParse first earlier record,
      (if isGap dateParse earlier record then closings (trackOf dateParse first earlier) else []) ++
        gapEntries dateParse first earlier record) := by
  have all : points dateParse (record :: earlier) = point :: points dateParse earlier := by
    rw [points_cons, pointed]
    rfl
  have counted := countGaps_concat (points dateParse earlier).reverse point
  rw [List.getLast?_reverse] at counted
  have last : (trackOf dateParse first earlier).lastPoint = (points dateParse earlier).head? := rfl
  unfold SymbolTrack.meetPoint
  rw [last]
  cases before : (points dateParse earlier).head? with
  | none =>
    have gapless : isGap dateParse earlier record = false := by
      unfold isGap
      rw [before]
    simp [metTrack, gapEntries, gapless, before, all, counted, trackOf]
  | some previous =>
    by_cases gap : point.ms - previous.ms ≥ CAPTURE_GAP_THRESHOLD_SECS * 1000
    · have gapped : isGap dateParse earlier record = true := by
        unfold isGap
        rw [before, pointed]
        exact decide_eq_true gap
      simp [metTrack, gapEntries, gapped, before, pointed, all, counted, trackOf, closings, gap]
      rfl
    · have gapless : isGap dateParse earlier record = false := by
        unfold isGap
        rw [before, pointed]
        exact decide_eq_false gap
      simp [metTrack, gapEntries, gapless, before, pointed, all, counted, trackOf, gap]
/-- What taking the point of a record does, if it has one. -/
theorem met_trackOf : (trackOf dateParse first earlier).meetPoint (pointOf dateParse record) =
    (metTrack dateParse first earlier record,
      (if isGap dateParse earlier record then closings (trackOf dateParse first earlier) else []) ++
        gapEntries dateParse first earlier record) := by
  cases pointless : pointOf dateParse record with
  | some point => exact meetPoint_trackOf pointless
  | none =>
    have same : points dateParse (record :: earlier) = points dateParse earlier := by
      rw [points_cons, pointless]
      rfl
    have gapless := @isGap_eq_false_of_none dateParse record earlier pointless
    have silent : gapEntries dateParse first earlier record = [] := by
      unfold gapEntries
      rw [pointless]
      cases (points dateParse earlier).head? <;> rfl
    rw [gapless, silent]
    simp [SymbolTrack.meetPoint, metTrack, gapless, same, trackOf]
theorem runs_of_break (broken : breaks dateParse earlier record = true) :
    runsOf dateParse (record :: earlier) = [record] :: runsOf dateParse earlier := segments_of_break _ broken
theorem runs_of_join {run : List CaptureObservation} {rest : List (List CaptureObservation)}
    (joins : ¬ breaks dateParse earlier record = true) (cut : runsOf dateParse earlier = run :: rest) :
    runsOf dateParse (record :: earlier) = (record :: run) :: rest := segments_of_join _ joins cut
theorem gapEntries_of_gapless (gapless : isGap dateParse earlier record = false) :
    gapEntries dateParse first earlier record = [] := by
  unfold isGap at gapless
  unfold gapEntries
  split at gapless
  · exact if_neg (of_decide_eq_false gapless)
  · rfl
/-- The last run is still open when the next record is looked at. -/
structure StaysOpen (dateParse : Text → Option Int) (first record : CaptureObservation) (earlier : List CaptureObservation)
    (last : CaptureObservation) (others : List CaptureObservation) (rest : List (List CaptureObservation)) : Prop where
  cut : runsOf dateParse earlier = (last :: others) :: rest
  gapless : isGap dateParse earlier record = false
  broken : breaks dateParse earlier record = !continues last record
namespace StaysOpen
variable {last : CaptureObservation} {others : List CaptureObservation} {rest : List (List CaptureObservation)}

theorem member (stays : StaysOpen dateParse first record earlier last others rest) : last :: others ∈ runsOf dateParse earlier := by
  rw [stays.cut]
  exact List.mem_cons_self
theorem silent (stays : StaysOpen dateParse first record earlier last others rest) :
    gapEntries dateParse first earlier record = [] := gapEntries_of_gapless stays.gapless
theorem track (stays : StaysOpen dateParse first record earlier last others rest) :
    (trackOf dateParse first earlier).interval = intervalOf (last :: others) ∧
      (trackOf dateParse first earlier).errors = errorsOf (last :: others) := by
  simp [trackOf, stays.cut]
theorem interval (stays : StaysOpen dateParse first record earlier last others rest) :
    (metTrack dateParse first earlier record).interval = intervalOf (last :: others) := by
  simp [metTrack, stays.gapless, stays.track]
theorem errors (stays : StaysOpen dateParse first record earlier last others rest) :
    (metTrack dateParse first earlier record).errors = errorsOf (last :: others) := by
  simp [metTrack, stays.gapless, stays.track]
end StaysOpen
/-- What is open when the next record is looked at: nothing, and what was open before is closed, or the last run. -/
theorem met_cases :
    (breaks dateParse earlier record = true ∧ (metTrack dateParse first earlier record).interval = none ∧
      (metTrack dateParse first earlier record).errors = none ∧
      (if isGap dateParse earlier record then closings (trackOf dateParse first earlier) else []) =
        closings (trackOf dateParse first earlier)) ∨
    ∃ last others rest, StaysOpen dateParse first record earlier last others rest := by
  by_cases gap : isGap dateParse earlier record = true
  · exact .inl ⟨by simp [breaks, gap], by simp [metTrack, gap], by simp [metTrack, gap], if_pos gap⟩
  · rw [Bool.not_eq_true] at gap
    cases cut : runsOf dateParse earlier with
    | nil =>
      have empty : earlier = [] := (segments_eq_nil _).mp cut
      subst empty
      exact .inl ⟨by simp [breaks], by simp [metTrack, trackOf, cut], by simp [metTrack, trackOf, cut], ite_self []⟩
    | cons run rest =>
      obtain ⟨last, others, rfl, latest⟩ := head_of_runs cut
      exact .inr ⟨last, others, rest, cut, gap, by simp [breaks, gap, latest]⟩
/-- The first record of a run, and what it has in common with the last one. -/
theorem first_of_run {last : CaptureObservation} {others : List CaptureObservation}
    (member : last :: others ∈ runsOf dateParse earlier) :
    ∃ first, (last :: others).getLast? = some first ∧ codeOf first = codeOf last := by
  have some_first := List.getLast?_eq_some_getLast (List.cons_ne_nil last others)
  exact ⟨_, some_first, runs_uniform member _ (List.getLast_mem _) _ List.mem_cons_self⟩
/-- A run of decoded records is an interval and no error run. -/
theorem interval_of_decoded {last : CaptureObservation} {others : List CaptureObservation}
    (member : last :: others ∈ runsOf dateParse earlier) (decoded : failureOf last = none) :
    (∃ interval, intervalOf (last :: others) = some interval) ∧ errorsOf (last :: others) = none := by
  obtain ⟨first, found, code⟩ := first_of_run member
  have clean : failureOf first = none := by simpa [codeOf, decoded] using code
  obtain ⟨evidence, read⟩ := failureOf_eq_none.mp clean
  unfold intervalOf errorsOf
  rw [found]
  simp [clean, read]
/-- A run of failures is an error run under its code and no interval. -/
theorem errors_of_failed {last : CaptureObservation} {others : List CaptureObservation} {code : Text} {message : Template}
    (member : last :: others ∈ runsOf dateParse earlier) (failed : failureOf last = some (code, message)) :
    intervalOf (last :: others) = none ∧ ∃ errors, errorsOf (last :: others) = some errors ∧ errors.code = code := by
  obtain ⟨first, found, same⟩ := first_of_run member
  obtain ⟨failure, failing, coded⟩ : ∃ failure, failureOf first = some failure ∧ failure.1 = code := by
    simpa [codeOf, failed] using same
  have unread : decodedOf first = none := decodedOf_eq_none.mpr ⟨failure, failing⟩
  unfold intervalOf errorsOf
  rw [found]
  simp [failing, unread, coded]

/-! ### The track and the entries of one more record -/

@[simp] theorem metTrack_entry (body : EntryBody) :
    (metTrack dateParse first earlier record).entry body = (newTrack first).entry body := rfl
@[simp] theorem trackOf_entry (body : EntryBody) :
    (trackOf dateParse first earlier).entry body = (newTrack first).entry body := rfl
@[simp] theorem metTrack_lastDecoded :
    (metTrack dateParse first earlier record).lastDecoded = (lastDecoded earlier).map stateFields := rfl
@[simp] theorem metTrack_decodeErrors :
    (metTrack dateParse first earlier record).decodeErrors = earlier.countP isFailure := rfl
theorem continues_failure {last : CaptureObservation} {context : Context} {code : Text} {message : Template}
    (failed : record.evidence = .decodeError context code message) :
    continues last record = decide (codeOf last = some code) := by
  unfold continues codeOf failureOf
  rw [failed]
  cases last.evidence <;> simp

theorem trackOf_cons : trackOf dateParse first (record :: earlier) = { metTrack dateParse first earlier record with
    interval := (runsOf dateParse (record :: earlier)).head?.bind intervalOf
    errors := (runsOf dateParse (record :: earlier)).head?.bind errorsOf
    lastDecoded := ((decodedOf record).or (lastDecoded earlier)).map stateFields
    decodeErrors := earlier.countP isFailure + if isFailure record then 1 else 0 } := by
  have decoded : lastDecoded (record :: earlier) = (decodedOf record).or (lastDecoded earlier) := by
    unfold lastDecoded
    rw [List.findSome?_cons]
    cases decodedOf record <;> rfl
  simp [trackOf, metTrack, decoded, List.countP_cons]
/-- The entries that a record closes: those of the last run, if the record breaks with it. -/
def closedEntries (dateParse : Text → Option Int) (first : CaptureObservation) (earlier : List CaptureObservation)
    (record : CaptureObservation) : List Pushed :=
  if breaks dateParse earlier record then closings (trackOf dateParse first earlier) else []
theorem observe_failure {verbose : Bool} {events : List ObservationEvent} {context : Context} {code : Text} {message : Template}
    (failed : record.evidence = .decodeError context code message) :
    observe dateParse verbose (trackOf dateParse first earlier) events record = (trackOf dateParse first (record :: earlier),
      closedEntries dateParse first earlier record ++ gapEntries dateParse first earlier record ++
        shownEntries verbose first record) := by
  have unread : decodedOf record = none := by
    unfold decodedOf
    rw [failed]
  have failing : failureOf record = some (code, message) := by
    unfold failureOf
    rw [failed]
  have counted : isFailure record = true := by
    unfold isFailure
    rw [unread]
    rfl
  have opened : intervalOf [record] = none ∧ errorsOf [record] = some ⟨record, record, code, message, 1⟩ := by
    simp [intervalOf, errorsOf, unread, failing]
  have shown : shownEntries verbose first record = if verbose then
      [⟨record.lineNumber, (newTrack first).entry (.OBSERVATION (momentOf record) none (some (code, message)))⟩] else [] := by
    simp [shownEntries, unread, failing]
  unfold observe closedEntries
  rw [met_trackOf, failed, trackOf_cons, unread, counted, shown]
  dsimp only
  obtain ⟨broken, interval, errors, closed⟩ | ⟨last, others, rest, stays⟩ := @met_cases dateParse first record earlier
  · rw [runs_of_break broken]
    unfold SymbolTrack.meetFailure SymbolTrack.closeInterval
    rw [errors, interval]
    simp [broken, closed, opened]
  · have broken := stays.broken
    rw [continues_failure failed] at broken
    cases before : failureOf last with
    | none =>
      obtain ⟨⟨running, runs⟩, clean⟩ := interval_of_decoded stays.member before
      have breaking : breaks dateParse earlier record = true := by simp [broken, codeOf, before]
      rw [runs_of_break breaking]
      unfold SymbolTrack.meetFailure SymbolTrack.closeInterval
      rw [stays.errors, stays.interval, clean, runs]
      simp [breaking, stays.gapless, stays.silent, opened, closings, SymbolTrack.closeInterval, SymbolTrack.closeErrors,
        stays.track, runs, clean]
    | some failure =>
      obtain ⟨other, otherMessage⟩ := failure
      obtain ⟨quiet, run, failing, coded⟩ := errors_of_failed stays.member before
      by_cases same : other = code
      · have joining : breaks dateParse earlier record = false := by simp [broken, codeOf, before, same]
        rw [runs_of_join (by simp [joining]) stays.cut]
        unfold SymbolTrack.meetFailure SymbolTrack.closeInterval
        rw [stays.errors, stays.interval, quiet, failing]
        simp [joining, stays.gapless, stays.silent, intervalOf_cons, errorsOf_cons, quiet, failing, coded, same]
      · have breaking : breaks dateParse earlier record = true := by simp [broken, codeOf, before, same]
        rw [runs_of_break breaking]
        unfold SymbolTrack.meetFailure SymbolTrack.closeInterval SymbolTrack.closeErrors
        rw [stays.errors, stays.interval, quiet, failing]
        simp [breaking, stays.gapless, stays.silent, opened, closings, SymbolTrack.closeInterval, SymbolTrack.closeErrors,
          stays.track, quiet, failing, coded, same]
theorem changes_filter (before after : ChainObservation) :
    (changes before after).filter (fun event => event.type ≠ .DECODE_ERROR) = changes before after := by
  refine List.filter_eq_self.mpr fun event member => ?_
  unfold changes at member
  dsimp only at member
  simp only [List.mem_append] at member
  rcases member with (scaled | phase) | paused
  · split at scaled <;> simp_all
  · split at phase
    · split at phase <;> simp_all
    · cases phase
  · split at paused <;> simp_all
/-- A decoded record in which nothing is reported goes on in the open interval. -/
theorem meetDecoded_quiet {verbose : Bool} {evidence : ChainObservation} (quiet : eventsAfter earlier record = []) :
    (metTrack dateParse first earlier record).meetDecoded verbose (eventsAfter earlier record) record evidence =
      ({ metTrack dateParse first earlier record with
          interval := some (match (metTrack dateParse first earlier record).interval with
            | some interval => { interval with last := record, observations := interval.observations + 1 }
            | none => ⟨record, record, 1, stateFields evidence⟩)
          errors := none, lastDecoded := some (stateFields evidence) },
        (metTrack dateParse first earlier record).closeErrors ++ (if verbose then
          [⟨record.lineNumber, (newTrack first).entry (.OBSERVATION (momentOf record) (some (stateFields evidence)) none)⟩]
          else [])) := by
  rw [quiet]
  rfl
/-- One in which something is reported starts another. -/
theorem meetDecoded_loud {verbose : Bool} {before evidence : ChainObservation} (known : lastDecoded earlier = some before)
    (read : decodedOf record = some evidence) (loud : changes before evidence ≠ []) :
    (metTrack dateParse first earlier record).meetDecoded verbose (eventsAfter earlier record) record evidence =
      ({ metTrack dateParse first earlier record with
          interval := some ⟨record, record, 1, stateFields evidence⟩
          errors := none, lastDecoded := some (stateFields evidence) },
        (metTrack dateParse first earlier record).closeErrors ++ (metTrack dateParse first earlier record).closeInterval ++
          changeEntries first earlier record ++ (if verbose then
          [⟨record.lineNumber, (newTrack first).entry (.OBSERVATION (momentOf record) (some (stateFields evidence)) none)⟩]
          else [])) := by
  have events : eventsAfter earlier record = changes before evidence := by
    unfold eventsAfter
    rw [known, read]
  have entries : changeEntries first earlier record = [⟨record.lineNumber, (newTrack first).entry (.STATE_CHANGE
      (momentOf record) ((changes before evidence).map ObservationEvent.type)
      ((changes before evidence).flatMap ObservationEvent.detail) (stateFields before) (stateFields evidence))⟩] := by
    unfold changeEntries
    rw [known, read]
    exact if_neg loud
  obtain ⟨event, others, shape⟩ := List.exists_cons_of_ne_nil loud
  rw [events, entries, shape]
  unfold SymbolTrack.meetDecoded
  rw [metTrack_lastDecoded, known]
  rfl
theorem lastDecoded_of_open {last : CaptureObservation} {others : List CaptureObservation}
    {rest : List (List CaptureObservation)} (cut : runsOf dateParse earlier = (last :: others) :: rest)
    {before : ChainObservation} (read : decodedOf last = some before) : lastDecoded earlier = some before := by
  obtain ⟨head, _, same, latest⟩ := head_of_runs cut
  cases same
  cases earlier with
  | nil => cases latest
  | cons item older =>
    cases latest
    simp [lastDecoded, read]
theorem continues_decoded {last : CaptureObservation} {evidence : ChainObservation}
    (decoded : record.evidence = .decoded evidence) :
    continues last record = (decodedOf last).any (fun before => (changes before evidence).isEmpty) := by
  unfold continues decodedOf
  rw [decoded]
  cases last.evidence <;> rfl
/-- A decoded record, read. -/
theorem read_of_decoded {evidence : ChainObservation} (decoded : record.evidence = .decoded evidence) :
    decodedOf record = some evidence ∧ failureOf record = none ∧ isFailure record = false := by
  unfold isFailure decodedOf failureOf
  rw [decoded]
  exact ⟨rfl, rfl, rfl⟩
theorem opened_of_decoded {evidence : ChainObservation} (decoded : record.evidence = .decoded evidence) :
    intervalOf [record] = some ⟨record, record, 1, stateFields evidence⟩ ∧ errorsOf [record] = none := by
  obtain ⟨read, clean, _⟩ := read_of_decoded decoded
  simp [intervalOf, errorsOf, read, clean]
theorem shown_of_decoded {verbose : Bool} {evidence : ChainObservation} (decoded : record.evidence = .decoded evidence) :
    shownEntries verbose first record = if verbose then
      [⟨record.lineNumber, (newTrack first).entry (.OBSERVATION (momentOf record) (some (stateFields evidence)) none)⟩]
        else [] := by
  obtain ⟨read, clean, _⟩ := read_of_decoded decoded
  simp [shownEntries, read, clean]
/-- A decoded record in which nothing is reported: a run of decoded records goes on, any other is closed. -/
theorem observe_quiet {verbose : Bool} {evidence : ChainObservation} (decoded : record.evidence = .decoded evidence)
    (quiet : eventsAfter earlier record = []) :
    observe dateParse verbose (trackOf dateParse first earlier) (eventsAfter earlier record) record =
      (trackOf dateParse first (record :: earlier),
        closedEntries dateParse first earlier record ++ gapEntries dateParse first earlier record ++
          changeEntries first earlier record ++ shownEntries verbose first record) := by
  obtain ⟨read, clean, counted⟩ := read_of_decoded decoded
  have opened := opened_of_decoded decoded
  have still (before : ChainObservation) (known : lastDecoded earlier = some before) : changes before evidence = [] := by
    simpa [eventsAfter, known, read] using quiet
  have unchanged : changeEntries first earlier record = [] := by
    unfold changeEntries
    rw [read]
    cases known : lastDecoded earlier with
    | none => rfl
    | some before => exact if_pos (still before known)
  unfold observe closedEntries
  rw [met_trackOf, decoded, trackOf_cons, read, counted, shown_of_decoded decoded]
  dsimp only
  rw [meetDecoded_quiet quiet, unchanged]
  obtain ⟨broken, interval, errors, closed⟩ | ⟨last, others, rest, stays⟩ := @met_cases dateParse first record earlier
  · rw [runs_of_break broken]
    unfold SymbolTrack.closeErrors
    rw [errors, interval]
    simp [broken, closed, opened]
  · have broken := stays.broken
    rw [continues_decoded decoded] at broken
    cases failed : failureOf last with
    | none =>
      obtain ⟨before, readBefore⟩ := failureOf_eq_none.mp failed
      have joining : breaks dateParse earlier record = false := by
        simp [broken, readBefore, still before (lastDecoded_of_open stays.cut readBefore)]
      obtain ⟨⟨running, runs⟩, clean⟩ := interval_of_decoded stays.member failed
      rw [runs_of_join (by simp [joining]) stays.cut]
      unfold SymbolTrack.closeErrors
      rw [stays.errors, stays.interval, clean, runs]
      simp [joining, stays.gapless, stays.silent, intervalOf_cons, errorsOf_cons, runs, clean]
    | some failure =>
      obtain ⟨idle, run, failing, _⟩ := errors_of_failed stays.member failed
      have breaking : breaks dateParse earlier record = true := by
        simp [broken, decodedOf_eq_none.mpr ⟨_, failed⟩]
      rw [runs_of_break breaking]
      unfold SymbolTrack.closeErrors
      rw [stays.errors, stays.interval, idle, failing]
      simp [breaking, stays.gapless, stays.silent, opened, closings, SymbolTrack.closeInterval, SymbolTrack.closeErrors,
        stays.track, idle, failing]
/-- One in which something is reported: whatever was open is closed. -/
theorem observe_loud {verbose : Bool} {before evidence : ChainObservation} (decoded : record.evidence = .decoded evidence)
    (known : lastDecoded earlier = some before) (loud : changes before evidence ≠ []) :
    observe dateParse verbose (trackOf dateParse first earlier) (eventsAfter earlier record) record =
      (trackOf dateParse first (record :: earlier),
        closedEntries dateParse first earlier record ++ gapEntries dateParse first earlier record ++
          changeEntries first earlier record ++ shownEntries verbose first record) := by
  obtain ⟨read, clean, counted⟩ := read_of_decoded decoded
  have opened := opened_of_decoded decoded
  unfold observe closedEntries
  rw [met_trackOf, decoded, trackOf_cons, read, counted, shown_of_decoded decoded]
  dsimp only
  rw [meetDecoded_loud known read loud]
  obtain ⟨broken, interval, errors, closed⟩ | ⟨last, others, rest, stays⟩ := @met_cases dateParse first record earlier
  · rw [runs_of_break broken]
    unfold SymbolTrack.closeErrors SymbolTrack.closeInterval
    rw [errors, interval]
    simp [broken, closed, opened]
  · have breaking : breaks dateParse earlier record = true := by
      rw [stays.broken, continues_decoded decoded]
      cases readBefore : decodedOf last with
      | none => rfl
      | some other =>
        obtain rfl : other = before := Option.some.inj ((lastDecoded_of_open stays.cut readBefore).symm.trans known)
        simpa using loud
    rw [runs_of_break breaking]
    unfold SymbolTrack.closeErrors SymbolTrack.closeInterval
    rw [stays.errors, stays.interval]
    cases failed : failureOf last with
    | none =>
      obtain ⟨⟨running, runs⟩, clean⟩ := interval_of_decoded stays.member failed
      rw [clean, runs]
      simp [breaking, stays.gapless, stays.silent, opened, closings, SymbolTrack.closeInterval, SymbolTrack.closeErrors,
        stays.track, runs, clean]
    | some failure =>
      obtain ⟨idle, run, failing, _⟩ := errors_of_failed stays.member failed
      rw [idle, failing]
      simp [breaking, stays.gapless, stays.silent, opened, closings, SymbolTrack.closeInterval, SymbolTrack.closeErrors,
        stays.track, idle, failing]
theorem observe_decoded {verbose : Bool} {evidence : ChainObservation} (decoded : record.evidence = .decoded evidence) :
    observe dateParse verbose (trackOf dateParse first earlier) (eventsAfter earlier record) record =
      (trackOf dateParse first (record :: earlier),
        closedEntries dateParse first earlier record ++ gapEntries dateParse first earlier record ++
          changeEntries first earlier record ++ shownEntries verbose first record) := by
  by_cases quiet : eventsAfter earlier record = []
  · exact observe_quiet decoded quiet
  · obtain ⟨read, _⟩ := read_of_decoded decoded
    unfold eventsAfter at quiet
    rw [read] at quiet
    cases known : lastDecoded earlier with
    | none => simp [known] at quiet
    | some before => exact observe_loud decoded known (by simpa [known] using quiet)
/-- Everything one record pushes. -/
def recordEntries (dateParse : Text → Option Int) (verbose : Bool) (first : CaptureObservation)
    (earlier : List CaptureObservation) (record : CaptureObservation) : List Pushed :=
  closedEntries dateParse first earlier record ++ gapEntries dateParse first earlier record ++
    changeEntries first earlier record ++ shownEntries verbose first record
/-- A track after one more record, and what the record pushes. What the detector says of a failure is not read. -/
theorem observe_trackOf {verbose : Bool} {events : List ObservationEvent}
    (reported : (decodedOf record).isSome → events = eventsAfter earlier record) :
    observe dateParse verbose (trackOf dateParse first earlier) events record =
      (trackOf dateParse first (record :: earlier), recordEntries dateParse verbose first earlier record) := by
  unfold recordEntries
  cases evidence : record.evidence with
  | decodeError context code message =>
    have silent : changeEntries first earlier record = [] := by
      unfold changeEntries decodedOf
      rw [evidence]
      cases lastDecoded earlier <;> rfl
    rw [observe_failure evidence, silent, List.append_nil]
  | decoded observation =>
    have read : (decodedOf record).isSome := by
      unfold decodedOf
      rw [evidence]
      rfl
    rw [reported read, observe_decoded evidence]
end

/-! ### The loop -/

/-- What the records of a mint push, in the order in which they do. -/
def pushedBy (dateParse : Text → Option Int) (verbose : Bool) (first : CaptureObservation) :
    List CaptureObservation → List Pushed
  | [] => []
  | record :: earlier => pushedBy dateParse verbose first earlier ++ recordEntries dateParse verbose first earlier record
def lineErrorOf : CaptureRecord → Option CaptureLineError
  | .observation _ => none
  | .lineError error => some error
/-- The entry is about a mint, or about none. -/
def isOf (mint : Option Text) (pushed : Pushed) : Bool := decide (pushed.entry.mint = mint)

section
variable {dateParse : Text → Option Int} {options : TimelineOptions}

theorem push_failure {detector : ObservationEventDetector} {record : CaptureObservation} (failed : decodedOf record = none) :
    (detector.push (.observation record)).1.lastDecoded = detector.lastDecoded := by
  unfold decodedOf at failed
  cases evidence : record.evidence with
  | decoded _ => simp [evidence] at failed
  | decodeError context code message =>
    simp only [ObservationEventDetector.push, evidence]
    split <;> rfl
theorem push_decoded {detector : ObservationEventDetector} {record : CaptureObservation} {after : ChainObservation}
    (read : decodedOf record = some after) :
    (detector.push (.observation record)).1.lastDecoded = detector.lastDecoded.set record.mint record ∧
      (detector.push (.observation record)).2 = match (detector.lastDecoded.get record.mint).bind decodedOf with
        | some before => changes before after
        | none => [] := by
  unfold decodedOf at read
  cases evidence : record.evidence with
  | decodeError _ _ _ => simp [evidence] at read
  | decoded observation =>
    rw [evidence] at read
    cases read
    simp only [ObservationEventDetector.push, evidence]
    cases known : detector.lastDecoded.get record.mint with
    | none => exact ⟨rfl, rfl⟩
    | some previous =>
      obtain ⟨lineNumber, wallclock, slot, blockTime, symbol, issuer, mint, last⟩ := previous
      cases last <;> exact ⟨rfl, rfl⟩
theorem mint_of_closings (track : SymbolTrack) : ∀ pushed ∈ closings track, pushed.entry.mint = some track.mint := by
  intro pushed member
  unfold closings SymbolTrack.closeInterval SymbolTrack.closeErrors at member
  rcases List.mem_append.mp member with found | found <;> split at found <;> simp at found <;> rw [found] <;> rfl
theorem mint_of_recordEntries {verbose : Bool} {first record : CaptureObservation} {earlier : List CaptureObservation} :
    ∀ pushed ∈ recordEntries dateParse verbose first earlier record, pushed.entry.mint = some first.mint := by
  intro pushed member
  unfold recordEntries at member
  simp only [List.mem_append] at member
  rcases member with ((closed | gap) | change) | shown
  · unfold closedEntries at closed
    split at closed
    · exact mint_of_closings _ pushed closed
    · cases closed
  · unfold gapEntries at gap
    split at gap
    · split at gap <;> simp at gap
      rw [gap]
      rfl
    · cases gap
  · unfold changeEntries at change
    split at change
    · split at change <;> simp at change
      rw [change]
      rfl
    · cases change
  · unfold shownEntries at shown
    split at shown <;> simp at shown
    rw [shown]
    rfl
/-- The variables of the loop after some records: for each mint, what its history makes of them. -/
structure Follows (dateParse : Text → Option Int) (options : TimelineOptions) (records : List CaptureRecord) (loop : Loop) :
    Prop where
  tracks : ∀ mint, loop.tracks.get mint = (history options records mint).getLast?.map (fun first =>
    trackOf dateParse first (history options records mint))
  keys : (loop.tracks.map Prod.fst).Nodup
  detector : ∀ mint, (loop.detector.lastDecoded.get mint).bind decodedOf = lastDecoded (history options records mint)
  entries : ∀ mint, loop.entries.filter (isOf (some mint)) = ((history options records mint).getLast?.map (fun first =>
    pushedBy dateParse options.verbose first (history options records mint))).getD []
  lineEntries : loop.entries.filter (isOf none) = (records.filterMap lineErrorOf).map lineErrorEntry
  lineErrors : loop.lineErrors = (records.filterMap lineErrorOf).length
theorem run_concat (records : List CaptureRecord) (record : CaptureRecord) :
    Loop.run dateParse options (records ++ [record]) = (Loop.run dateParse options records).step dateParse options record := by
  unfold Loop.run
  rw [List.foldl_append]
  rfl
theorem follows_lineError {records : List CaptureRecord} {loop : Loop} (follows : Follows dateParse options records loop)
    (error : CaptureLineError) : Follows dateParse options (records ++ [.lineError error])
      (loop.step dateParse options (.lineError error)) := by
  have same := history_lineError options records error
  refine ⟨?_, follows.keys, ?_, ?_, ?_, ?_⟩
  · rw [same]
    exact follows.tracks
  · rw [same]
    exact follows.detector
  · intro mint
    have other : isOf (some mint) (lineErrorEntry error) = false := by simp [isOf, lineErrorEntry]
    simp only [Loop.step, same, List.filter_append, List.filter_singleton, other]
    simpa using follows.entries mint
  · have own : isOf none (lineErrorEntry error) = true := by simp [isOf, lineErrorEntry]
    simp [Loop.step, List.filter_append, own, follows.lineEntries, lineErrorOf]
  · simp [Loop.step, follows.lineErrors, lineErrorOf]
theorem follows_rejected {records : List CaptureRecord} {loop : Loop} (follows : Follows dateParse options records loop)
    {record : CaptureObservation} (rejected : ¬ options.Selects record) :
    Follows dateParse options (records ++ [.observation record]) (loop.step dateParse options (.observation record)) := by
  have same := history_rejected rejected records
  have errors : (records ++ [CaptureRecord.observation record]).filterMap lineErrorOf = records.filterMap lineErrorOf := by
    simp [lineErrorOf]
  simp only [Loop.step, if_neg rejected]
  exact ⟨by rw [same]; exact follows.tracks, follows.keys, by rw [same]; exact follows.detector,
    by rw [same]; exact follows.entries, by rw [errors]; exact follows.lineEntries, by rw [errors]; exact follows.lineErrors⟩
theorem mint_of_history {records : List CaptureRecord} {mint : Text} {record : CaptureObservation}
    (member : record ∈ history options records mint) : record.mint = mint := by
  simp only [history, List.mem_reverse, List.mem_filter] at member
  exact of_decide_eq_true member.2
theorem follows_selected {records : List CaptureRecord} {loop : Loop} (follows : Follows dateParse options records loop)
    {record : CaptureObservation} (kept : options.Selects record) :
    Follows dateParse options (records ++ [.observation record]) (loop.step dateParse options (.observation record)) := by
  have errors : (records ++ [CaptureRecord.observation record]).filterMap lineErrorOf = records.filterMap lineErrorOf := by
    simp [lineErrorOf]
  -- The record the track of this mint began with.
  obtain ⟨first, begun⟩ : ∃ first, first = (history options records record.mint).getLast?.getD record := ⟨_, rfl⟩
  have firstMint : first.mint = record.mint := by
    rw [begun]
    cases latest : (history options records record.mint).getLast? with
    | none => rfl
    | some found => exact mint_of_history (List.mem_of_getLast? latest)
  have track : (loop.tracks.get record.mint).getD (newTrack record) =
      trackOf dateParse first (history options records record.mint) := by
    rw [follows.tracks, begun]
    cases latest : (history options records record.mint).getLast? with
    | none =>
      rw [List.getLast?_eq_none_iff.mp latest]
      rfl
    | some found => rfl
  have pushedBefore : loop.entries.filter (isOf (some record.mint)) =
      pushedBy dateParse options.verbose first (history options records record.mint) := by
    rw [follows.entries, begun]
    cases latest : (history options records record.mint).getLast? with
    | none =>
      rw [List.getLast?_eq_none_iff.mp latest]
      rfl
    | some found => rfl
  have reported : (decodedOf record).isSome → (loop.detector.push (.observation record)).2.filter
      (fun event => event.type ≠ .DECODE_ERROR) = eventsAfter (history options records record.mint) record := by
    intro decoded
    obtain ⟨after, read⟩ := Option.isSome_iff_exists.mp decoded
    rw [(push_decoded read).2, follows.detector]
    unfold eventsAfter
    rw [read]
    cases lastDecoded (history options records record.mint) with
    | none => rfl
    | some before => exact changes_filter before after
  have taken := @observe_trackOf dateParse first record (history options records record.mint) options.verbose _ reported
  have pushed := @mint_of_recordEntries dateParse options.verbose first record (history options records record.mint)
  have others {mint : Option Text} (other : some record.mint ≠ mint) : (recordEntries dateParse options.verbose first
      (history options records record.mint) record).filter (isOf mint) = [] := by
    refine List.filter_eq_nil_iff.mpr fun entry member => ?_
    simp [isOf, pushed entry member, firstMint, other]
  have own : (recordEntries dateParse options.verbose first (history options records record.mint) record).filter
      (isOf (some record.mint)) = recordEntries dateParse options.verbose first (history options records record.mint) record := by
    refine List.filter_eq_self.mpr fun entry member => ?_
    simp [isOf, pushed entry member, firstMint]
  have last : (record :: history options records record.mint).getLast? = some first := by
    rw [List.getLast?_cons, begun]
  simp only [Loop.step, if_pos kept, track, taken]
  refine ⟨?_, nodup_set follows.keys _ _, ?_, ?_, ?_, by rw [errors]; exact follows.lineErrors⟩
  · intro mint
    rw [history_selected kept]
    by_cases same : record.mint = mint
    · subst same
      rw [if_pos rfl, get_set_self, last]
      rfl
    · rw [if_neg same, get_set_ne _ _ (Ne.symm same), follows.tracks]
  · intro mint
    rw [history_selected kept]
    by_cases same : record.mint = mint
    · subst same
      rw [if_pos rfl]
      unfold lastDecoded
      rw [List.findSome?_cons]
      cases read : decodedOf record with
      | none =>
        rw [push_failure read]
        exact follows.detector _
      | some after =>
        rw [(push_decoded read).1, get_set_self]
        exact read
    · rw [if_neg same]
      cases read : decodedOf record with
      | none =>
        rw [push_failure read]
        exact follows.detector _
      | some after =>
        rw [(push_decoded read).1, get_set_ne _ _ (Ne.symm same)]
        exact follows.detector _
  · intro mint
    rw [history_selected kept, List.filter_append]
    by_cases same : record.mint = mint
    · subst same
      rw [if_pos rfl, last, pushedBefore, own]
      rfl
    · rw [if_neg same, others (by simpa using same), List.append_nil, follows.entries]
  · rw [List.filter_append, errors, others (by simp), List.append_nil, follows.lineEntries]
/-- The loop keeps each mint's records apart. -/
theorem run_follows (records : List CaptureRecord) : Follows dateParse options records (Loop.run dateParse options records) := by
  induction records using List.reverseRecOn with
  | nil => exact ⟨fun _ => rfl, List.nodup_nil, fun _ => rfl, fun _ => rfl, rfl, rfl⟩
  | append_singleton records record ih =>
    rw [run_concat]
    cases record with
    | lineError error => exact follows_lineError ih error
    | observation record =>
      by_cases kept : options.Selects record
      · exact follows_selected ih kept
      · exact follows_rejected ih kept
end

end EquityGuard.TimelineRuns
