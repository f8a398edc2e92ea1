import Mathlib.Data.List.Forall2
import EquityGuard.TimelineEntries

/-!
What a stable interval stands for. Its state is that of its first record; the records
behind it are counted as long as the detector reports nothing, so an interval hides a
change exactly where the detector does.
-/
namespace EquityGuard.TimelineChanges
open EquityGuard.Binary64 EquityGuard.Capture EquityGuard.Client EquityGuard.ClientAbi EquityGuard.Hex EquityGuard.JsonText
open EquityGuard.Records EquityGuard.Representations EquityGuard.Segments EquityGuard.Timeline EquityGuard.TimelineRuns
open EquityGuard.TimelineEntries

/-! ### Decoded records in a row -/

/-- The decoded records of a history, with what each decodes to. -/
def decodedRecords (earlier : List CaptureObservation) : List (CaptureObservation × ChainObservation) :=
  earlier.filterMap (fun record => (decodedOf record).map (record, ·))
structure DecodedPair where
  after : CaptureObservation × ChainObservation
  before : CaptureObservation × ChainObservation
/-- Each decoded record with the decoded record before it. -/
def pairsOf (earlier : List CaptureObservation) : List DecodedPair :=
  ((decodedRecords earlier).zip (decodedRecords earlier).tail).map (fun pair => ⟨pair.1, pair.2⟩)
namespace DecodedPair
/-- A field of the state changes. -/
def moves (pair : DecodedPair) : Bool := decide (stateFields pair.before.2 ≠ stateFields pair.after.2)
/-- The detector reports something. -/
def noticed (pair : DecodedPair) : Bool := !(changes pair.before.2 pair.after.2).isEmpty
/-- What an entry for the change says: where it stands, and the states around it. -/
def key (pair : DecodedPair) : Nat × StateFields × StateFields :=
  (pair.after.1.lineNumber, stateFields pair.before.2, stateFields pair.after.2)
end DecodedPair
def changeKey (entry : TimelineEntry) : Option (Nat × StateFields × StateFields) :=
  match entry.body with
  | .STATE_CHANGE moment _ _ previous current => some (moment.line, previous, current)
  | _ => none
/-- The state of an interval. -/
def stateOf (entry : TimelineEntry) : Option StateFields :=
  match entry.body with
  | .STABLE_INTERVAL _ _ _ _ state => some state
  | _ => none

/-- The detector has nothing to report: the stored bytes, the time of activation and the pause flag are the same, and
    so are the phases where both are known. -/
structure Unnoticed (before after : ChainObservation) : Prop where
  multiplier : before.protectedState.multiplier = after.protectedState.multiplier
  newMultiplier : before.protectedState.newMultiplier = after.protectedState.newMultiplier
  timestamp : before.protectedState.newMultiplierEffectiveTimestamp = after.protectedState.newMultiplierEffectiveTimestamp
  phase : ∀ first ∈ before.phase, ∀ second ∈ after.phase, Numeric.strictEq first second = true
  paused : before.paused = after.paused

theorem changes_eq_nil {before after : ChainObservation} : changes before after = [] ↔ Unnoticed before after := by
  have fields : changedFields before.protectedState after.protectedState = [] ↔
      before.protectedState.multiplier = after.protectedState.multiplier ∧
      before.protectedState.newMultiplier = after.protectedState.newMultiplier ∧
      before.protectedState.newMultiplierEffectiveTimestamp = after.protectedState.newMultiplierEffectiveTimestamp := by
    unfold changedFields bytesEqual
    simp
  unfold changes
  simp only [List.append_eq_nil_iff, ite_eq_right_iff, reduceCtorEq, imp_false, not_not, ne_eq, fields]
  constructor
  · rintro ⟨⟨⟨multiplier, newMultiplier, timestamp⟩, phases⟩, paused⟩
    refine ⟨multiplier, newMultiplier, timestamp, ?_, paused⟩
    intro first known second alsoKnown
    rw [Option.mem_def] at known alsoKnown
    simpa [known, alsoKnown] using phases
  · intro quiet
    refine ⟨⟨⟨quiet.multiplier, quiet.newMultiplier, quiet.timestamp⟩, ?_⟩, quiet.paused⟩
    cases known : before.phase with
    | none => rfl
    | some first =>
      cases alsoKnown : after.phase with
      | none => rfl
      | some second => exact if_pos (quiet.phase first known second alsoKnown)
/-- What the detector does not look at: the decimals, and whether a phase is known. -/
theorem stateFields_eq_iff {before after : ChainObservation} (quiet : Unnoticed before after) :
    stateFields before = stateFields after ↔ before.decimals = after.decimals ∧ before.phase.isSome = after.phase.isSome := by
  constructor
  · intro same
    have decimals := congrArg StateFields.decimals same
    have phase := congrArg (fun state => state.phase.isSome) same
    simp only [stateFields, Option.isSome_map] at decimals phase
    exact ⟨decimals, phase⟩
  · rintro ⟨decimals, known⟩
    have phase : before.phase.map (fun phase => if Numeric.strictEq phase 0 then PhaseName.pending else .activated) =
        after.phase.map (fun phase => if Numeric.strictEq phase 0 then .pending else .activated) := by
      cases first : before.phase with
      | none => simp_all
      | some one =>
        cases second : after.phase with
        | none => simp_all
        | some other =>
          have value := ((Number.strictEq_iff _ _).mp (quiet.phase one first other second)).1
          rw [Option.map_some, Option.map_some, Numeric.strictEq, Numeric.strictEq, value]
    unfold stateFields
    rw [decimals, quiet.multiplier, quiet.newMultiplier, quiet.timestamp, quiet.paused, phase]

/-! ### Pairs of a history -/

section
variable {dateParse : Text → Option Int} {first record : CaptureObservation} {earlier : List CaptureObservation}

theorem decodedRecords_cons : decodedRecords (record :: earlier) =
    ((decodedOf record).map (record, ·)).toList ++ decodedRecords earlier := by
  unfold decodedRecords
  rw [List.filterMap_cons]
  cases decodedOf record <;> rfl
theorem lastDecoded_eq : lastDecoded earlier = (decodedRecords earlier).head?.map Prod.snd := by
  induction earlier with
  | nil => rfl
  | cons record earlier ih =>
    unfold lastDecoded at *
    rw [decodedRecords_cons, List.findSome?_cons, ih]
    cases decodedOf record <;> rfl
/-- The pair that a record makes with the last decoded record before it. -/
def pairWith (earlier : List CaptureObservation) (record : CaptureObservation) : Option DecodedPair :=
  (decodedOf record).bind (fun after => (decodedRecords earlier).head?.map (fun before => ⟨(record, after), before⟩))
theorem pairsOf_cons : pairsOf (record :: earlier) = (pairWith earlier record).toList ++ pairsOf earlier := by
  unfold pairsOf pairWith
  rw [decodedRecords_cons]
  cases decodedOf record with
  | none => rfl
  | some after => cases decodedRecords earlier <;> rfl
theorem pairs_of_suffix {items : List CaptureObservation} (inside : earlier <:+ items) :
    ∀ pair ∈ pairsOf earlier, pair ∈ pairsOf items := by
  obtain ⟨later, rfl⟩ := inside
  intro pair member
  induction later with
  | nil => exact member
  | cons record later ih =>
    rw [List.cons_append, pairsOf_cons]
    exact List.mem_append_right _ ih
/-- The entry of a change says what its pair does. -/
theorem changeEntries_key : (changeEntries first earlier record).filterMap (fun pushed => changeKey pushed.entry) =
    ((pairWith earlier record).toList.filter DecodedPair.noticed).map DecodedPair.key := by
  unfold changeEntries pairWith
  rw [lastDecoded_eq]
  cases decodedOf record with
  | none => cases (decodedRecords earlier).head? <;> rfl
  | some after =>
    cases (decodedRecords earlier).head? with
    | none => rfl
    | some before =>
      dsimp only [Option.map_some, Option.bind_some, Option.toList_some]
      by_cases quiet : changes before.2 after = []
      · have silent : DecodedPair.noticed ⟨(record, after), before⟩ = false := by simp [DecodedPair.noticed, quiet]
        simp [quiet, silent]
      · have loud : DecodedPair.noticed ⟨(record, after), before⟩ = true := by simp [DecodedPair.noticed, quiet]
        rw [if_neg quiet, List.filter_singleton, loud]
        rfl
theorem changeKey_of_other {entry : TimelineEntry} (other : isChange entry = false) : changeKey entry = none := by
  unfold isChange at other
  unfold changeKey
  split <;> simp_all
theorem keys_of_changes (entries : List Pushed) : entries.filterMap (fun pushed => changeKey pushed.entry) =
    (entries.filter (fun pushed => isChange pushed.entry)).filterMap (fun pushed => changeKey pushed.entry) := by
  induction entries with
  | nil => rfl
  | cons pushed rest ih =>
    rw [List.filterMap_cons, List.filter_cons, ih]
    by_cases change : isChange pushed.entry = true
    · rw [if_pos change, List.filterMap_cons]
    · rw [if_neg change, changeKey_of_other (by simpa using change)]
theorem pushedBy_keys {verbose : Bool} :
    (pushedBy dateParse verbose first earlier).filterMap (fun pushed => changeKey pushed.entry) =
      (((pairsOf earlier).filter DecodedPair.noticed).map DecodedPair.key).reverse := by
  induction earlier with
  | nil => rfl
  | cons record earlier ih =>
    rw [pushedBy, List.filterMap_append, ih, keys_of_changes (recordEntries _ _ _ _ _), recordEntries_isChange,
      changeEntries_key, pairsOf_cons, List.filter_append, List.map_append, List.reverse_append]
    congr 1
    cases pairWith earlier record with
    | none => rfl
    | some pair =>
      rw [Option.toList_some, List.filter_singleton]
      cases pair.noticed <;> rfl
end

/-! ### Nothing hidden -/

/-- The records of a run that decode have one state. -/
def Homogeneous (run : List CaptureObservation) : Prop :=
  ∀ record ∈ run, ∀ evidence ∈ decodedOf record, ∀ other ∈ run, ∀ otherEvidence ∈ decodedOf other,
    stateFields evidence = stateFields otherEvidence
/-- Each interval has the state of every record it counts, and each change of a field has its entry, between the
    interval that ends before it and the one that begins with it. -/
structure HidesNothing (dateParse : Text → Option Int) (options : TimelineOptions) (records : List CaptureRecord)
    (result : TimelineResult) : Prop where
  owned : ∀ entry ∈ result.entries, isInterval entry = true → ∃ mint, entry.mint = some mint
  homogeneous : ∀ mint, ∃ entries, List.Forall₂ (fun run entry => Reports run entry ∧ (isInterval entry = true →
      ∀ record ∈ run, ∃ evidence, decodedOf record = some evidence ∧ stateOf entry = some (stateFields evidence)))
      (runsOf dateParse (history options records mint)).reverse entries ∧
    (result.entries.filter (fun entry => isRun entry && decide (entry.mint = some mint))).Perm entries
  represented : ∀ mint, (((pairsOf (history options records mint)).filter DecodedPair.moves).map DecodedPair.key).Subperm
    ((result.entries.filter (fun entry => decide (entry.mint = some mint))).filterMap changeKey)
  apart : ∀ mint, ∀ pair ∈ pairsOf (history options records mint), pair.moves = true → ∃ began ended,
    [began, ended].Sublist (runsOf dateParse (history options records mint)) ∧
      began.getLast? = some pair.after.1 ∧ ended.head? = some pair.before.1
/-- Where the detector has nothing to report, the decimals are the same and a phase is known of both or of neither. -/
def Detected (options : TimelineOptions) (records : List CaptureRecord) : Prop :=
  ∀ mint, ∀ pair ∈ pairsOf (history options records mint), Unnoticed pair.before.2 pair.after.2 →
    pair.before.2.decimals = pair.after.2.decimals ∧ pair.before.2.phase.isSome = pair.after.2.phase.isSome

theorem noticed_eq_false {pair : DecodedPair} : pair.noticed = false ↔ Unnoticed pair.before.2 pair.after.2 := by
  rw [← changes_eq_nil]
  simp [DecodedPair.noticed]
theorem detected_iff {options : TimelineOptions} {records : List CaptureRecord} : Detected options records ↔
    ∀ mint, ∀ pair ∈ pairsOf (history options records mint), pair.moves = true → pair.noticed = true := by
  constructor
  · intro detected mint pair member moves
    by_contra silent
    have quiet := noticed_eq_false.mp (Bool.not_eq_true _ ▸ silent)
    exact of_decide_eq_true moves ((stateFields_eq_iff quiet).mpr (detected mint pair member quiet))
  · intro noticed mint pair member quiet
    refine (stateFields_eq_iff quiet).mp ?_
    by_contra differ
    have loud := noticed mint pair member (decide_eq_true differ)
    rw [noticed_eq_false.mpr quiet] at loud
    cases loud

section
variable {dateParse : Text → Option Int} {options : TimelineOptions} {records : List CaptureRecord}

/-- The entries of changes, in any order: one for each pair in which something is reported. -/
theorem changes_of_mint (mint : Text) : ((buildTimeline dateParse options records).entries.filter (fun entry =>
      decide (entry.mint = some mint))).filterMap changeKey |>.Perm
    (((pairsOf (history options records mint)).filter DecodedPair.noticed).map DecodedPair.key) := by
  refine ((entries_of_mint mint).filterMap changeKey).trans ?_
  cases begun : (history options records mint).getLast? with
  | none =>
    rw [List.getLast?_eq_none_iff.mp begun]
    exact .nil
  | some first =>
    have closed : (closings (trackOf dateParse first (history options records mint))).filterMap (fun pushed =>
        changeKey pushed.entry) = [] := by
      refine List.filterMap_eq_nil_iff.mpr fun pushed member => ?_
      exact changeKey_of_other (kind_of_closings _ pushed member).2.2
    rw [Option.toList_some, List.flatMap_singleton, List.filterMap_map, List.filterMap_append]
    have keys : changeKey ∘ Pushed.entry = fun pushed => changeKey pushed.entry := rfl
    rw [keys, closed, pushedBy_keys, List.append_nil]
    exact List.reverse_perm _

/-! ### What is detected is not hidden -/

/-- A decoded record goes on after a decoded one in which nothing is reported. -/
theorem quiet_of_continues {last record : CaptureObservation} {evidence : ChainObservation}
    (continuing : continues last record = true) (read : decodedOf record = some evidence) :
    ∃ previous, decodedOf last = some previous ∧ changes previous evidence = [] := by
  unfold continues at continuing
  unfold decodedOf at *
  split at continuing <;> simp_all
theorem runs_homogeneous (detected : Detected options records) (mint : Text) :
    ∀ run ∈ runsOf dateParse (history options records mint), Homogeneous run := by
  refine segments_rule _ (motive := Homogeneous) ?_ ?_
  · intro record _ first inside evidence read other also otherEvidence alsoRead
    rw [List.mem_singleton.mp inside] at read
    rw [List.mem_singleton.mp also] at alsoRead
    rw [Option.some.inj (read.symm.trans alsoRead)]
  · intro item before segment rest inside cut joins uniform
    obtain ⟨_, last, latest, continuing⟩ := breaks_eq_false.mp joins
    obtain ⟨head, others, rfl, same⟩ := head_of_runs cut
    obtain rfl : head = last := Option.some.inj (same.symm.trans latest)
    -- A record that goes on has the state of the one it follows.
    have follows (evidence : ChainObservation) (read : decodedOf item = some evidence) :
        ∃ previous, decodedOf head = some previous ∧ stateFields previous = stateFields evidence := by
      obtain ⟨previous, readPrevious, quiet⟩ := quiet_of_continues continuing read
      obtain ⟨older, rfl⟩ : ∃ older, before = head :: older := List.head?_eq_some_iff.mp latest
      have pair : ⟨(item, evidence), (head, previous)⟩ ∈ pairsOf (item :: head :: older) := by
        rw [pairsOf_cons, pairWith, read, decodedRecords_cons, readPrevious]
        exact List.mem_cons_self
      refine ⟨previous, readPrevious, ?_⟩
      by_contra differ
      have loud := detected_iff.mp detected mint _ (pairs_of_suffix inside _ pair) (decide_eq_true differ)
      rw [DecodedPair.noticed, quiet] at loud
      cases loud
    intro record found evidence read other also otherEvidence alsoRead
    rw [Option.mem_def] at read alsoRead
    rcases List.mem_cons.mp found with rfl | older <;> rcases List.mem_cons.mp also with rfl | alsoOlder
    · rw [Option.some.inj (read.symm.trans alsoRead)]
    · obtain ⟨previous, readPrevious, state⟩ := follows evidence read
      exact state.symm.trans (uniform head List.mem_cons_self previous readPrevious other alsoOlder otherEvidence alsoRead)
    · obtain ⟨previous, readPrevious, state⟩ := follows otherEvidence alsoRead
      exact (uniform record older evidence read head List.mem_cons_self previous readPrevious).trans state
    · exact uniform record older evidence read other alsoOlder otherEvidence alsoRead
theorem decoded_of_mem {earlier : List CaptureObservation} {before : CaptureObservation × ChainObservation}
    (member : before ∈ decodedRecords earlier) : decodedOf before.1 = some before.2 := by
  obtain ⟨record, _, read⟩ := List.mem_filterMap.mp member
  obtain ⟨evidence, decoded, rfl⟩ := Option.map_eq_some_iff.mp read
  exact decoded
theorem exists_run {record : CaptureObservation} {earlier : List CaptureObservation} :
    ∃ run rest, runsOf dateParse (record :: earlier) = run :: rest := by
  refine List.exists_cons_of_ne_nil fun none => ?_
  cases (segments_eq_nil _).mp none
/-- The last decoded record of a history ends a run. -/
theorem ended_run {earlier : List CaptureObservation} {before : CaptureObservation × ChainObservation}
    (latest : (decodedRecords earlier).head? = some before) :
    ∃ ended ∈ runsOf dateParse earlier, ended.head? = some before.1 := by
  induction earlier with
  | nil => cases latest
  | cons record earlier ih =>
    cases read : decodedOf record with
    | some evidence =>
      rw [decodedRecords_cons, read] at latest
      cases latest
      obtain ⟨run, rest, cut⟩ := @exists_run dateParse record earlier
      obtain ⟨head, others, rfl, same⟩ := head_of_runs cut
      rw [cut]
      exact ⟨head :: others, List.mem_cons_self, same.symm⟩
    | none =>
      have still : (decodedRecords earlier).head? = some before := by
        rw [decodedRecords_cons, read] at latest
        exact latest
      obtain ⟨ended, member, ends⟩ := ih still
      by_cases broken : breaks dateParse earlier record = true
      · rw [runs_of_break broken]
        exact ⟨ended, List.mem_cons_of_mem _ member, ends⟩
      · obtain ⟨_, last, previous, continuing⟩ := breaks_eq_false.mp broken
        obtain ⟨older, rfl⟩ : ∃ older, earlier = last :: older := List.head?_eq_some_iff.mp previous
        obtain ⟨run, rest, cut⟩ := @exists_run dateParse last older
        rw [runs_of_join broken cut]
        rw [cut] at member
        rcases List.mem_cons.mp member with rfl | member
        · -- The run the record goes on in fails, and does not end with a decoded record.
          obtain ⟨head, others, rfl, same⟩ := head_of_runs cut
          cases same
          cases ends
          have decoded := decoded_of_mem (List.mem_of_head? still)
          have clean : codeOf before.1 = none := by simp [codeOf, failureOf_eq_none.mpr ⟨_, decoded⟩]
          have failed : isFailure record = true := by simp [isFailure, read]
          obtain ⟨code, coded⟩ := isFailure_iff.mp failed
          rw [codeOf_of_continues continuing, clean] at coded
          cases coded
        · exact ⟨ended, List.mem_cons_of_mem _ member, ends⟩
/-- Two decoded records in a row of different states stand in two runs: one ends, and later one begins. -/
theorem runs_apart (detected : Detected options records) (mint : Text) {earlier : List CaptureObservation}
    (inside : earlier <:+ history options records mint) : ∀ pair ∈ pairsOf earlier, pair.moves = true → ∃ began ended,
      [began, ended].Sublist (runsOf dateParse earlier) ∧ began.getLast? = some pair.after.1 ∧
        ended.head? = some pair.before.1 := by
  induction earlier with
  | nil => simp [pairsOf, decodedRecords]
  | cons record earlier ih =>
    intro pair member moves
    rw [pairsOf_cons] at member
    rcases List.mem_append.mp member with latest | member
    · rw [Option.mem_toList, pairWith] at latest
      obtain ⟨evidence, read, made⟩ := Option.bind_eq_some_iff.mp latest
      obtain ⟨before, known, rfl⟩ := Option.map_eq_some_iff.mp made
      have loud := detected_iff.mp detected mint _ (pairs_of_suffix inside _ (by
        rw [pairsOf_cons]
        exact List.mem_append_left _ (Option.mem_toList.mpr latest))) moves
      have broken : breaks dateParse earlier record = true := by
        by_contra joins
        obtain ⟨_, last, previous, continuing⟩ := breaks_eq_false.mp joins
        obtain ⟨older, rfl⟩ : ∃ older, earlier = last :: older := List.head?_eq_some_iff.mp previous
        obtain ⟨former, readFormer, quiet⟩ := quiet_of_continues continuing read
        rw [decodedRecords_cons, readFormer] at known
        cases known
        rw [DecodedPair.noticed, quiet] at loud
        cases loud
      obtain ⟨ended, present, ends⟩ := @ended_run dateParse earlier before known
      rw [runs_of_break broken]
      exact ⟨[record], ended, (List.singleton_sublist.mpr present).cons_cons _, rfl, ends⟩
    · obtain ⟨began, ended, sub, begins, ends⟩ := ih ((List.suffix_cons _ _).trans inside) pair member moves
      by_cases broken : breaks dateParse earlier record = true
      · rw [runs_of_break broken]
        exact ⟨began, ended, sub.cons _, begins, ends⟩
      · cases cut : runsOf dateParse earlier with
        | nil =>
          rw [cut] at sub
          cases sub
        | cons run rest =>
          rw [runs_of_join broken cut]
          rw [cut] at sub
          cases sub with
          | cons _ sub => exact ⟨began, ended, sub.cons _, begins, ends⟩
          | cons_cons _ sub =>
            obtain ⟨head, others, rfl, _⟩ := head_of_runs cut
            exact ⟨record :: head :: others, ended, sub.cons_cons _, by rwa [List.getLast?_cons_cons], ends⟩
theorem hidesNothing_of_detected (detected : Detected options records) :
    HidesNothing dateParse options records (buildTimeline dateParse options records) := by
  refine ⟨?_, ?_, ?_, fun mint => runs_apart detected mint List.suffix_rfl⟩
  · intro entry member interval
    cases owner : entry.mint with
    | some mint => exact ⟨mint, rfl⟩
    | none =>
      have error : entry ∈ (records.filterMap lineErrorOf).map (fun error => (lineErrorEntry error).entry) :=
        (@entries_of_none dateParse options records).mem_iff.mp (List.mem_filter.mpr ⟨member, by simp [owner]⟩)
      obtain ⟨_, _, rfl⟩ := List.mem_map.mp error
      cases interval
  · intro mint
    refine ⟨_, ?_, runs_of_mint mint⟩
    have uniform : ∀ run ∈ (runsOf dateParse (history options records mint)).reverse, Homogeneous run := by
      intro run member
      exact runs_homogeneous detected mint run (List.mem_reverse.mp member)
    refine ((List.forall₂_and_left _ _).mpr ⟨uniform, runsPushed_reports mint⟩).imp ?_
    rintro run entry ⟨same, reports⟩
    refine ⟨reports, ?_⟩
    intro interval record inside
    cases reports with
    | failures _ _ _ _ body =>
      rw [isInterval, body] at interval
      cases interval
    | interval begins ends decoded read body =>
      have clean : failureOf record = none := by simpa [codeOf] using isFailure_eq_false.mp (decoded record inside)
      obtain ⟨evidence, readRecord⟩ := failureOf_eq_none.mp clean
      refine ⟨evidence, readRecord, ?_⟩
      rw [stateOf, body, same _ (List.mem_of_getLast? begins) _ read record inside evidence readRecord]
  · intro mint
    have loud : ∀ pair ∈ pairsOf (history options records mint), pair.moves = true → pair.noticed = true :=
      detected_iff.mp detected mint
    have kept : ((pairsOf (history options records mint)).filter DecodedPair.moves).Sublist
        ((pairsOf (history options records mint)).filter DecodedPair.noticed) := by
      rw [← List.filter_eq_self.mpr fun pair member => loud pair (List.mem_filter.mp member).1 (List.mem_filter.mp member).2]
      exact List.filter_sublist.filter _
    exact (kept.map DecodedPair.key).subperm.trans (changes_of_mint mint).symm.subperm

/-! ### What is not hidden is detected -/

/-- If every item that moves is matched by one that is noticed under the same key, and items of one key all move or
    all stay, then every item that moves is noticed. -/
theorem noticed_of_subperm {Item Key : Type} {items : List Item} {moves noticed : Item → Bool} {key : Item → Key}
    (determined : ∀ item other, key item = key other → moves item = moves other)
    (matched : ((items.filter moves).map key).Subperm ((items.filter noticed).map key)) :
    ∀ item ∈ items, moves item = true → noticed item = true := by
  classical
  intro item member moving
  have counted := matched.countP_le (fun found => decide (found = key item))
  rw [List.countP_map, List.countP_map, List.countP_filter, List.countP_filter] at counted
  have all : items.countP (fun other => decide (key other = key item) && moves other) =
      items.countP (fun other => decide (key other = key item)) := by
    refine List.countP_congr fun other _ => ?_
    by_cases same : key other = key item <;> simp [same, moving, determined other item]
  have whole : items.filter (fun other => decide (key other = key item) && noticed other) =
      items.filter (fun other => decide (key other = key item)) := by
    have inside : (items.filter (fun other => decide (key other = key item) && noticed other)).Sublist
        (items.filter (fun other => decide (key other = key item))) := by
      refine List.monotone_filter_right items fun other both => ?_
      exact (Bool.and_eq_true_iff.mp both).1
    refine inside.eq_of_length_le ?_
    rw [← List.countP_eq_length_filter, ← List.countP_eq_length_filter, ← all]
    exact counted
  have found : item ∈ items.filter (fun other => decide (key other = key item)) := List.mem_filter.mpr ⟨member, by simp⟩
  rw [← whole] at found
  exact (Bool.and_eq_true_iff.mp (List.mem_filter.mp found).2).2
theorem detected_of_hidesNothing (hidden : HidesNothing dateParse options records (buildTimeline dateParse options records)) :
    Detected options records := by
  refine detected_iff.mpr fun mint => @noticed_of_subperm _ _ _ _ _ DecodedPair.key ?_ ?_
  · intro pair other same
    unfold DecodedPair.key at same
    have states := congrArg Prod.snd same
    have before := congrArg Prod.fst states
    have after := congrArg Prod.snd states
    unfold DecodedPair.moves
    simp only at before after
    rw [before, after]
  · exact (hidden.represented mint).trans (changes_of_mint mint).subperm
/-- An interval hides nothing exactly where the detector misses nothing. -/
theorem hides_nothing_iff : HidesNothing dateParse options records (buildTimeline dateParse options records) ↔
    Detected options records := ⟨detected_of_hidesNothing, hidesNothing_of_detected⟩
end

/-- The decimals change between two polls. -/
def redenominated : List CaptureRecord := [
  .observation (pollAt 1 "2026-01-01T00:00:00Z" (some "KOx") "KOx" (evidenceOf 6 (some 1))),
  .observation (pollAt 2 "2026-01-01T00:00:30Z" (some "KOx") "KOx" (evidenceOf 9 (some 1)))]
/-- The scheduled change becomes active, and the poll in which it does has no chain time. -/
def untimed : List CaptureRecord := [
  .observation (pollAt 1 "2026-01-01T00:00:00Z" (some "KOx") "KOx" (evidenceOf 6 (some 0))),
  .observation (pollAt 2 "2026-01-01T00:00:30Z" (some "KOx") "KOx" (evidenceOf 6 none)),
  .observation (pollAt 3 "2026-01-01T00:00:30Z" (some "KOx") "KOx" (evidenceOf 6 (some 1)))]
theorem intervals_over_changes :
    (buildTimeline clock ⟨none, false⟩ redenominated).entries.map observationsOf = [2] ∧
      ¬ HidesNothing clock ⟨none, false⟩ redenominated (buildTimeline clock ⟨none, false⟩ redenominated) ∧
    (buildTimeline clock ⟨none, false⟩ untimed).entries.map observationsOf = [3] ∧
      ¬ HidesNothing clock ⟨none, false⟩ untimed (buildTimeline clock ⟨none, false⟩ untimed) := by
  refine ⟨by decide +kernel, fun hidden => ?_, by decide +kernel, fun hidden => ?_⟩
  · have listed := (hidden.represented "KOx").length_le
    exact absurd listed (by decide +kernel)
  · have listed := (hidden.represented "KOx").length_le
    exact absurd listed (by decide +kernel)
end EquityGuard.TimelineChanges
