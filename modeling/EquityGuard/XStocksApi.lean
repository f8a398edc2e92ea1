import EquityGuard.Capture

/-!
What the public API of xStocks says, line by line, and the detector of its changes: it is
silent exactly as long as the API goes on saying the same.
-/
namespace EquityGuard.XStocksApi
open EquityGuard.Binary64 EquityGuard.Capture EquityGuard.JsValue EquityGuard.JsonText EquityGuard.Records

/-! ### Evidence -/

inductive EvidenceSource where
  | DOCUMENTED_SCHEDULE
  | HISTORICAL_API_STATE
  | LIVE_API_STATE
  | LIVE_CHAIN_STATE
deriving DecidableEq
/-- How a raw `activationDateTime` value was turned into a time. -/
inductive ActivationTimeInterpretation where
  | none
  | iso8601
  | unixSeconds
  | unixMilliseconds
deriving DecidableEq
structure ActivationTime where
  interpretation : ActivationTimeInterpretation
  /-- There is no activation time where the raw value is 0 or null. -/
  unixMs : Option Int
deriving DecidableEq
inductive ApiDecodeStatus where
  | ok
  | requestError
  | malformed
deriving DecidableEq
structure XStocksApiObservation where
  lineNumber : Nat
  wallclock : Option Text
  wallclockMs : Option Int
  decodeStatus : ApiDecodeStatus
  currentMultiplier : Option Number
  newMultiplier : Option Numeric
  /-- Exactly as present in the response. -/
  activationDateTimeRaw : Value
  activationTime : Option ActivationTime
  reason : Option Text
  /-- Whether the response advertises a pending update, where it was decoded. -/
  hasPendingUpdate : Option Bool
  error : Option Text
  rawLine : Text

/-! ### Decoding -/

/-- Numbers at or above this are taken as milliseconds. -/
def MILLISECONDS_THRESHOLD : Int := 100000000000
/-- `\d\d:\d\d`. -/
def isHourMinute : Text → Bool
  | [h, h', 58, m, m'] => [h, h', m, m'].all (fun unit => decide (IsDigit unit))
  | _ => false
/-- `(Z|[+-]\d{2}:\d{2})$`. -/
def isZone : Text → Bool
  | [90] => true
  | sign :: rest => (decide (sign = 43) || decide (sign = 45)) && isHourMinute rest
  | [] => false
/-- `\d{4}-\d{2}-\d{2}T\d{2}:\d{2}:\d{2}(\.\d+)?(Z|[+-]\d{2}:\d{2})`, from end to end. -/
def isIsoDateTime : Text → Bool
  | y :: y' :: y'' :: y''' :: 45 :: o :: o' :: 45 :: d :: d' :: 84 :: h :: h' :: 58 :: m :: m' :: 58 :: s :: s' :: rest =>
    [y, y', y'', y''', o, o', d, d', h, h', m, m', s, s'].all (fun unit => decide (IsDigit unit)) &&
      match rest with
      | 46 :: fraction =>
        decide (fraction.takeWhile (fun unit => decide (IsDigit unit)) ≠ []) &&
          isZone (fraction.dropWhile (fun unit => decide (IsDigit unit)))
      | rest => isZone rest
  | _ => false
def positiveFinite : Value → Option Number
  | .number number => if number.isFinite && Number.lt 0 number then some number else none
  | _ => none
/-- `value === 0`, of either sign. -/
def isZero : Value → Bool
  | .number number => Number.strictEq number 0
  | .negativeZero => true
  | _ => false

section
-- `JSON.parse` and `Date.parse`, with no value for what they throw on and for `NaN`, and `JSON.stringify`.
variable (jsonParse : Text → Option Value) (dateParse : Text → Option Int) (jsonStringify : Value → Text)

/-- Interprets an `activationDateTime` value, or fails with the text of the error. -/
def interpretActivationTime (raw : Value) : Except Text ActivationTime :=
  let unrecognized : Except Text ActivationTime := .error (text "unrecognized activationDateTime " ++ jsonStringify raw)
  if isZero raw then .ok ⟨.none, .none⟩
  else
    match raw with
    | .null => .ok ⟨.none, .none⟩
    | .number (.finite number) =>
      if number.den = 1 ∧ 0 < number then
        if MILLISECONDS_THRESHOLD ≤ number.num then .ok ⟨.unixMilliseconds, some number.num⟩
        else .ok ⟨.unixSeconds, some (number.num * 1000)⟩
      else unrecognized
    | .string spelled =>
      if isIsoDateTime spelled then
        match dateParse spelled with
        | some ms => .ok ⟨.iso8601, some ms⟩
        | none => unrecognized
      else unrecognized
    | _ => unrecognized
/-- Where an observation comes from. -/
structure Source where
  line : Text
  lineNumber : Nat
  wallclock : Option Text
  wallclockMs : Option Int
def Source.failed (source : Source) (decodeStatus : ApiDecodeStatus) (activationDateTimeRaw : Value) (error : Text) :
    XStocksApiObservation :=
  ⟨source.lineNumber, source.wallclock, source.wallclockMs, decodeStatus, none, none, activationDateTimeRaw, none, none, none,
    some error, source.line⟩
/-- `newMultiplier === 0 || positiveFinite(newMultiplier)`. -/
def newMultiplierOf : Value → Option Numeric
  | .negativeZero => some .negativeZero
  | value => if isZero value then some 0 else (positiveFinite value).map .number
def reasonOf : Value → Option (Option Text)
  | .null => some none
  | .string reason => some (some reason)
  | _ => none
/-- Decodes the response of a line, which is an object. -/
def decodeResponse (source : Source) (r : Value) : XStocksApiObservation :=
  match positiveFinite (r.get "currentMultiplier") with
  | none => source.failed .malformed .null "currentMultiplier must be a positive finite number"
  | some current =>
    match newMultiplierOf (r.get "newMultiplier") with
    | none => source.failed .malformed .null "newMultiplier must be 0 or a positive finite number"
    | some newMultiplier =>
      match reasonOf (r.get "reason") with
      | none => source.failed .malformed .null "reason must be a string or null"
      | some reason =>
        match interpretActivationTime dateParse jsonStringify (r.get "activationDateTime") with
        | .error error => source.failed .malformed (r.get "activationDateTime") error
        | .ok activationTime => {
            lineNumber := source.lineNumber
            wallclock := source.wallclock
            wallclockMs := source.wallclockMs
            decodeStatus := .ok
            currentMultiplier := some current
            newMultiplier := some newMultiplier
            activationDateTimeRaw := r.get "activationDateTime"
            activationTime := some activationTime
            reason
            hasPendingUpdate := some (Number.lt 0 newMultiplier.value || activationTime.unixMs.isSome)
            error := none
            rawLine := source.line }
/-- Decodes one watcher line. -/
def decodeXStocksApiLine (line : Text) (lineNumber : Nat) : Option XStocksApiObservation :=
  if IsBlank line then none
  else
    match jsonParse line with
    | none => some (Source.failed ⟨line, lineNumber, none, none⟩ .malformed .null "line is not valid JSON")
    | some (.object fields) =>
      let record : Value := .object fields
      let wallclock := stringOrNull (record.get "wallclock")
      let source : Source := ⟨line, lineNumber, wallclock, wallclock.bind dateParse⟩
      if source.wallclockMs = none then some (source.failed .malformed .null "missing or invalid wallclock")
      else
        match record.get "error", record.get "response" with
        | .string error, _ => some (source.failed .requestError .null error)
        | _, .object response => some (decodeResponse dateParse jsonStringify source (.object response))
        | _, _ => some (source.failed .malformed .null "response is not a JSON object")
    | some _ => some (Source.failed ⟨line, lineNumber, none, none⟩ .malformed .null "line is not a JSON object")

/-! ### Detecting changes -/

inductive ApiEventType where
  | API_PENDING_UPDATE_PUBLISHED
  | API_PENDING_UPDATE_CHANGED
  | API_PENDING_UPDATE_CLEARED
  | API_CURRENT_MULTIPLIER_CHANGED
  | API_ACTIVATION_TIME_CHANGED
  | API_REASON_CHANGED
  | API_REQUEST_ERROR
  | API_MALFORMED_RECORD
deriving DecidableEq
structure ApiEvent where
  type : ApiEventType
  wallclock : Option Text
  lineNumber : Nat
  /-- Previous successfully decoded observation, if any. -/
  previous : Option XStocksApiObservation
  current : XStocksApiObservation
  detail : List Message
/-- The last successful observation, and the kind of the error since, if there is one. -/
structure XStocksApiEventDetector where
  lastOk : Option XStocksApiObservation
  lastErrorKey : Option (ApiDecodeStatus × Text)
def XStocksApiEventDetector.start : XStocksApiEventDetector := ⟨none, none⟩

def numeric : Option Numeric → Value := orNull Numeric.toValue
/-- `===` on multipliers that may be missing. -/
def sameMultiplier (left right : Option Numeric) : Bool :=
  match left, right with
  | some left, some right => Numeric.strictEq left right
  | none, none => true
  | _, _ => false
def sameCurrent (left right : Option Number) : Bool :=
  match left, right with
  | some left, some right => Number.strictEq left right
  | none, none => true
  | _, _ => false
/-- `${before} -> ${after}`. -/
def arrow (before after : Value) : Message := [before, text " -> ", after]
structure Change where
  type : ApiEventType
  detail : List Message
/-- What is reported of two successful observations in a row. -/
def changes (previous observation : XStocksApiObservation) : List Change :=
  let wasPending := decide (previous.hasPendingUpdate = some true)
  let isPending := decide (observation.hasPendingUpdate = some true)
  (if sameCurrent previous.currentMultiplier observation.currentMultiplier then []
    else [⟨.API_CURRENT_MULTIPLIER_CHANGED,
      [arrow (orNull .number previous.currentMultiplier) (orNull .number observation.currentMultiplier)]⟩]) ++
  (if !wasPending && isPending then
    [⟨.API_PENDING_UPDATE_PUBLISHED, [[text "newMultiplier ", numeric observation.newMultiplier],
      [text "activationDateTime ", jsonStringify observation.activationDateTimeRaw]]⟩]
  else if wasPending && !isPending then
    [⟨.API_PENDING_UPDATE_CLEARED,
      [(text "newMultiplier " : Value) :: arrow (numeric previous.newMultiplier) (numeric observation.newMultiplier)]⟩]
  else if wasPending && isPending then
    (if sameMultiplier previous.newMultiplier observation.newMultiplier then []
      else [⟨.API_PENDING_UPDATE_CHANGED,
        [(text "newMultiplier " : Value) :: arrow (numeric previous.newMultiplier) (numeric observation.newMultiplier)]⟩]) ++
    (if jsonStringify previous.activationDateTimeRaw = jsonStringify observation.activationDateTimeRaw then []
      else [⟨.API_ACTIVATION_TIME_CHANGED,
        [arrow (jsonStringify previous.activationDateTimeRaw) (jsonStringify observation.activationDateTimeRaw)]⟩])
  else []) ++
  (if previous.reason ≠ observation.reason ∧ wasPending = isPending then
    [⟨.API_REASON_CHANGED, [arrow (jsonStringify (orNull .string previous.reason))
      (jsonStringify (orNull .string observation.reason))]⟩]
  else [])
def XStocksApiEventDetector.push (detector : XStocksApiEventDetector) (observation : XStocksApiObservation) :
    XStocksApiEventDetector × List ApiEvent :=
  let event (type : ApiEventType) (detail : List Message) : ApiEvent :=
    ⟨type, observation.wallclock, observation.lineNumber, detector.lastOk, observation, detail⟩
  let failed (type : ApiEventType) : XStocksApiEventDetector × List ApiEvent :=
    let key := (observation.decodeStatus, observation.error.getD (text "null"))
    if detector.lastErrorKey = some key then (detector, [])
    else ({ detector with lastErrorKey := some key }, [event type [[observation.error.getD (text "")]]])
  match observation.decodeStatus with
  | .requestError => failed .API_REQUEST_ERROR
  | .malformed => failed .API_MALFORMED_RECORD
  | .ok => (⟨some observation, none⟩,
      match detector.lastOk with
      | some previous => (changes jsonStringify previous observation).map (fun change => event change.type change.detail)
      | none => [])
/-- The events of each observation, in order. -/
def XStocksApiEventDetector.pushAll (detector : XStocksApiEventDetector) :
    List XStocksApiObservation → XStocksApiEventDetector × List (List ApiEvent)
  | [] => (detector, [])
  | observation :: rest =>
    let (next, events) := detector.push jsonStringify observation
    let (last, others) := pushAll next rest
    (last, events :: others)

/-! ### What decoding promises -/

/-- An observation that some line decodes to. -/
def Decoded (observation : XStocksApiObservation) : Prop :=
  ∃ line lineNumber, decodeXStocksApiLine jsonParse dateParse jsonStringify line lineNumber = some observation
/-- A successful observation has a positive multiplier, says whether an update is pending, and says nothing of one where
    none is. -/
structure Sound (observation : XStocksApiObservation) : Prop where
  current : ∃ multiplier, observation.currentMultiplier = some multiplier ∧ multiplier ≠ .nan
  new : ∃ multiplier, observation.newMultiplier = some multiplier ∧ multiplier.value ≠ .nan
  pending : ∃ pending, observation.hasPendingUpdate = some pending
  idle : observation.hasPendingUpdate = some false → observation.newMultiplier = some .negativeZero ∨
    observation.newMultiplier = some 0

variable {jsonParse dateParse jsonStringify}

theorem positiveFinite_eq_some {value : Value} {number : Number} (positive : positiveFinite value = some number) :
    number.isFinite = true ∧ Number.lt 0 number = true := by
  unfold positiveFinite at positive
  split at positive
  · split at positive
    · rename_i both
      cases positive
      exact Bool.and_eq_true_iff.mp both
    · cases positive
  · cases positive
theorem ne_nan_of_finite {number : Number} (finite : number.isFinite = true) : number ≠ .nan := by
  rintro rfl
  cases finite
theorem newMultiplierOf_eq_some {value : Value} {multiplier : Numeric} (accepted : newMultiplierOf value = some multiplier) :
    multiplier.value ≠ .nan ∧ (Number.lt 0 multiplier.value = false → multiplier = .negativeZero ∨ multiplier = 0) := by
  unfold newMultiplierOf at accepted
  split at accepted
  · cases accepted
    exact ⟨by decide, fun _ => .inl rfl⟩
  · split at accepted
    · cases accepted
      exact ⟨by decide, fun _ => .inr rfl⟩
    · obtain ⟨number, positive, rfl⟩ := Option.map_eq_some_iff.mp accepted
      obtain ⟨finite, above⟩ := positiveFinite_eq_some positive
      exact ⟨ne_nan_of_finite finite, fun below => absurd above (below ▸ Bool.false_ne_true)⟩
theorem decodeResponse_sound {source : Source} {r : Value}
    (ok : (decodeResponse dateParse jsonStringify source r).decodeStatus = .ok) :
    Sound (decodeResponse dateParse jsonStringify source r) := by
  unfold decodeResponse at ok ⊢
  cases current : positiveFinite (r.get "currentMultiplier") with
  | none =>
    simp only [current] at ok
    cases ok
  | some multiplier =>
    cases new : newMultiplierOf (r.get "newMultiplier") with
    | none =>
      simp only [current, new] at ok
      cases ok
    | some newMultiplier =>
      cases said : reasonOf (r.get "reason") with
      | none =>
        simp only [current, new, said] at ok
        cases ok
      | some reason =>
        cases time : interpretActivationTime dateParse jsonStringify (r.get "activationDateTime") with
        | error error =>
          simp only [current, new, said, time] at ok
          cases ok
        | ok activationTime =>
          obtain ⟨number, idle⟩ := newMultiplierOf_eq_some new
          refine ⟨⟨_, rfl, ne_nan_of_finite (positiveFinite_eq_some current).1⟩, ⟨_, rfl, number⟩, ⟨_, rfl⟩, ?_⟩
          intro none
          have below := (Bool.or_eq_false_iff.mp (Option.some.inj none)).1
          rcases idle below with rfl | rfl
          · exact .inl rfl
          · exact .inr rfl
theorem decoded_sound {observation : XStocksApiObservation} (decoded : Decoded jsonParse dateParse jsonStringify observation)
    (ok : observation.decodeStatus = .ok) : Sound observation := by
  obtain ⟨line, lineNumber, decoded⟩ := decoded
  unfold decodeXStocksApiLine at decoded
  split at decoded
  · cases decoded
  · split at decoded
    · cases decoded
      cases ok
    · dsimp only at decoded
      split at decoded
      · cases decoded
        cases ok
      · split at decoded
        · cases decoded
          cases ok
        · cases decoded
          exact decodeResponse_sound ok
        · cases decoded
          cases ok
    · cases decoded
      cases ok

/-! ### Silence -/

variable (jsonStringify) in
/-- The API says the same twice: of a pending update, when it activates too. -/
structure Same (previous observation : XStocksApiObservation) : Prop where
  current : previous.currentMultiplier = observation.currentMultiplier
  pending : previous.hasPendingUpdate = observation.hasPendingUpdate
  new : previous.newMultiplier.map Numeric.value = observation.newMultiplier.map Numeric.value
  activation : observation.hasPendingUpdate = some true →
    jsonStringify previous.activationDateTimeRaw = jsonStringify observation.activationDateTimeRaw
  reason : previous.reason = observation.reason

theorem Same.refl (observation : XStocksApiObservation) : Same jsonStringify observation observation :=
  ⟨rfl, rfl, rfl, fun _ => rfl, rfl⟩
/-- What is the same as one of two is the same as the other. -/
theorem Same.trans_iff {first second third : XStocksApiObservation} (same : Same jsonStringify first second) :
    Same jsonStringify second third ↔ Same jsonStringify first third := by
  constructor
  · intro next
    exact ⟨same.current.trans next.current, same.pending.trans next.pending, same.new.trans next.new,
      fun pending => (same.activation (next.pending.trans pending)).trans (next.activation pending),
      same.reason.trans next.reason⟩
  · intro next
    exact ⟨same.current.symm.trans next.current, same.pending.symm.trans next.pending, same.new.symm.trans next.new,
      fun pending => (same.activation (same.pending.symm.trans (next.pending.trans pending))).symm.trans
        (next.activation pending), same.reason.symm.trans next.reason⟩

theorem sameCurrent_iff {left right : Option Number} (leftNumber : ∃ number, left = some number ∧ number ≠ .nan) :
    sameCurrent left right = true ↔ left = right := by
  obtain ⟨number, rfl, real⟩ := leftNumber
  cases right with
  | none => simp [sameCurrent]
  | some other => simp [sameCurrent, real]
theorem sameMultiplier_iff {left right : Option Numeric} (leftNumber : ∃ number, left = some number ∧ number.value ≠ .nan) :
    sameMultiplier left right = true ↔ left.map Numeric.value = right.map Numeric.value := by
  obtain ⟨number, rfl, real⟩ := leftNumber
  cases right with
  | none => simp [sameMultiplier]
  | some other => simp [sameMultiplier, Numeric.strictEq, real]
/-- Nothing is reported exactly where nothing changed. -/
theorem changes_eq_nil {previous observation : XStocksApiObservation} (before : Sound previous) (after : Sound observation) :
    changes jsonStringify previous observation = [] ↔ Same jsonStringify previous observation := by
  obtain ⟨was, wasPending⟩ := before.pending
  obtain ⟨now, isPending⟩ := after.pending
  have current := @sameCurrent_iff _ observation.currentMultiplier before.current
  have new := @sameMultiplier_iff _ observation.newMultiplier before.new
  have listed (condition : Prop) [Decidable condition] (change : Change) :
      (if condition then [] else [change]) = [] ↔ condition := by
    split <;> simp_all
  have reported (condition : Prop) [Decidable condition] (change : Change) :
      (if condition then [change] else []) = [] ↔ ¬ condition := by
    split <;> simp_all
  have same : Same jsonStringify previous observation ↔
      previous.currentMultiplier = observation.currentMultiplier ∧ was = now ∧
      previous.newMultiplier.map Numeric.value = observation.newMultiplier.map Numeric.value ∧
      (now = true → jsonStringify previous.activationDateTimeRaw = jsonStringify observation.activationDateTimeRaw) ∧
      previous.reason = observation.reason := by
    constructor
    · rintro ⟨current, pending, new, activation, reason⟩
      rw [wasPending, isPending, Option.some_inj] at pending
      exact ⟨current, pending, new, fun pending => activation (isPending.trans (congrArg some pending)), reason⟩
    · rintro ⟨current, pending, new, activation, reason⟩
      refine ⟨current, by rw [wasPending, isPending, pending], new, fun pending => activation ?_, reason⟩
      rw [isPending, Option.some_inj] at pending
      exact pending
  rw [same, changes]
  simp only [List.append_eq_nil_iff, wasPending, isPending, Option.some_inj, listed, reported, current]
  cases was with
  | false =>
    cases now with
    | false =>
      -- Two multipliers of no update are zeros, whatever their signs.
      have zeros : previous.newMultiplier.map Numeric.value = observation.newMultiplier.map Numeric.value := by
        rcases before.idle wasPending with left | left <;> rcases after.idle isPending with right | right <;>
          rw [left, right] <;> rfl
      simp [zeros]
    | true => simp
  | true =>
    cases now with
    | false => simp
    | true => simp [listed, new, and_assoc]

theorem push_ok {detector : XStocksApiEventDetector} {observation previous : XStocksApiObservation}
    (ok : observation.decodeStatus = .ok) (last : detector.lastOk = some previous) :
    (detector.push jsonStringify observation).1 = ⟨some observation, none⟩ ∧
      ((detector.push jsonStringify observation).2 = [] ↔ changes jsonStringify previous observation = []) := by
  simp [XStocksApiEventDetector.push, ok, last]
/-- A detector that has seen no error since its last success reports the first one. -/
theorem push_error {detector : XStocksApiEventDetector} {observation : XStocksApiObservation}
    (bad : observation.decodeStatus ≠ .ok) (clear : detector.lastErrorKey = none) :
    (detector.push jsonStringify observation).2 ≠ [] := by
  cases status : observation.decodeStatus with
  | ok => exact absurd status bad
  | requestError | malformed => simp [XStocksApiEventDetector.push, status, clear]
/-- A detector that has just seen this success. -/
def XStocksApiEventDetector.After (detector : XStocksApiEventDetector) (previous : XStocksApiObservation) : Prop :=
  detector = ⟨some previous, none⟩
theorem pushAll_append (detector : XStocksApiEventDetector) (first second : List XStocksApiObservation) :
    detector.pushAll jsonStringify (first ++ second) =
      let (middle, events) := detector.pushAll jsonStringify first
      let (last, others) := middle.pushAll jsonStringify second
      (last, events ++ others) := by
  induction first generalizing detector with
  | nil => rfl
  | cons observation rest ih => simp only [List.cons_append, XStocksApiEventDetector.pushAll, ih]
theorem silent_from {detector : XStocksApiEventDetector} {previous : XStocksApiObservation} (after : detector.After previous)
    (sound : Sound previous) {observations : List XStocksApiObservation}
    (decoded : ∀ observation ∈ observations, observation.decodeStatus = .ok → Sound observation) :
    (∀ events ∈ (detector.pushAll jsonStringify observations).2, events = []) ↔
      ∀ observation ∈ observations, observation.decodeStatus = .ok ∧ Same jsonStringify previous observation := by
  induction observations generalizing detector previous with
  | nil => simp [XStocksApiEventDetector.pushAll]
  | cons observation rest ih =>
    obtain ⟨here, others⟩ := List.forall_mem_cons.mp decoded
    have last : detector.lastOk = some previous := by rw [after]
    have clear : detector.lastErrorKey = none := by rw [after]
    rw [XStocksApiEventDetector.pushAll, List.forall_mem_cons, List.forall_mem_cons]
    by_cases ok : observation.decodeStatus = .ok
    · obtain ⟨next, silent⟩ := @push_ok jsonStringify _ _ _ ok last
      rw [silent, changes_eq_nil sound (here ok), and_iff_right ok]
      refine and_congr_right fun same => ?_
      rw [ih next (here ok) others]
      exact forall₂_congr fun other _ => and_congr_right fun _ => same.trans_iff
    · have loud := @push_error jsonStringify _ _ ok clear
      simp only [loud, ok, false_and]
/-- The detector is silent from one success on exactly as long as every line decodes and the API says the same. -/
theorem detector_silent_iff {before observations : List XStocksApiObservation} {previous : XStocksApiObservation}
    (decoded : ∀ observation ∈ previous :: observations, Decoded jsonParse dateParse jsonStringify observation)
    (ok : previous.decodeStatus = .ok) :
    (∀ events ∈ ((XStocksApiEventDetector.start.pushAll jsonStringify (before ++ [previous])).1.pushAll jsonStringify
      observations).2, events = []) ↔
      ∀ observation ∈ observations, observation.decodeStatus = .ok ∧ Same jsonStringify previous observation := by
  obtain ⟨first, others⟩ := List.forall_mem_cons.mp decoded
  refine silent_from ?_ (decoded_sound first ok) fun observation member => decoded_sound (others observation member)
  rw [pushAll_append]
  simp [XStocksApiEventDetector.pushAll, XStocksApiEventDetector.push, XStocksApiEventDetector.After, ok]

end

/-! ### A quiet day -/

def quietLine : Text :=
  "\x7b\"wallclock\":\"2026-09-14T20:00:00Z\",\"response\":\x7b\"currentMultiplier\":1,\"newMultiplier\":0,\"activationDateTime\":0,\"reason\":null\x7d\x7d"
def quietParse (line : Text) : Option Value :=
  if line = quietLine then
    some (.object [(text "wallclock", "2026-09-14T20:00:00Z"), (text "response", .object [(text "currentMultiplier", .number 1),
      (text "newMultiplier", .number 0), (text "activationDateTime", .number 0), (text "reason", .null)])])
  else none
def quietDate (spelled : Text) : Option Int := if spelled = text "2026-09-14T20:00:00Z" then some 1789416000000 else none
def quietStringify (_ : Value) : Text := "0"
def quietAt (lineNumber : Nat) : XStocksApiObservation where
  lineNumber
  wallclock := some "2026-09-14T20:00:00Z"
  wallclockMs := some 1789416000000
  decodeStatus := .ok
  currentMultiplier := some 1
  newMultiplier := some 0
  activationDateTimeRaw := .number 0
  activationTime := some ⟨.none, none⟩
  reason := none
  hasPendingUpdate := some false
  error := none
  rawLine := quietLine
set_option maxRecDepth 20000 in
theorem quietAt_decoded (lineNumber : Nat) : Decoded quietParse quietDate quietStringify (quietAt lineNumber) := by
  refine ⟨quietLine, lineNumber, ?_⟩
  have letters : ¬ IsBlank quietLine := by decide +kernel
  have parsed : quietParse quietLine = _ := if_pos rfl
  have dated : quietDate (text "2026-09-14T20:00:00Z") = some 1789416000000 := if_pos rfl
  rw [decodeXStocksApiLine, if_neg letters, parsed]
  dsimp only
  have wallclock (fields : List (Text × Value)) :
      stringOrNull ((Value.object ((text "wallclock", "2026-09-14T20:00:00Z") :: fields)).get "wallclock") =
        some (text "2026-09-14T20:00:00Z") := rfl
  rw [wallclock, Option.bind_some, dated, if_neg (by simp)]
  rfl
theorem silent_iff_quiet : (quietAt 2).decodeStatus = .ok ∧
    ∀ events ∈ ((XStocksApiEventDetector.start.pushAll quietStringify ([] ++ [quietAt 1])).1.pushAll quietStringify
      [quietAt 2]).2, events = [] :=
  ⟨rfl, (detector_silent_iff (List.forall_mem_cons.mpr ⟨quietAt_decoded 1, List.forall_mem_singleton.mpr (quietAt_decoded 2)⟩) rfl).mpr
    (List.forall_mem_singleton.mpr ⟨rfl, rfl, rfl, rfl, fun _ => rfl, rfl⟩)⟩

end EquityGuard.XStocksApi
