import Mathlib.Data.List.Perm.Basic
import EquityGuard.TimelineRuns

/-!
The entries of a timeline account for every record: each run of a mint is one interval or
one error entry, each gap one gap entry, and each line error one entry of its own.
-/
namespace EquityGuard.TimelineEntries
open EquityGuard.Capture EquityGuard.Client EquityGuard.ClientAbi EquityGuard.JsonText EquityGuard.Maps
open EquityGuard.Records EquityGuard.Representations EquityGuard.Segments EquityGuard.Timeline EquityGuard.TimelineRuns

/-! ### Kinds of entries -/

/-- An interval or an error entry. -/
def isRun (entry : TimelineEntry) : Bool :=
  match entry.body with
  | .STABLE_INTERVAL .. | .DECODE_ERROR .. => true
  | _ => false
def isGapEntry (entry : TimelineEntry) : Bool := entry.body matches .CAPTURE_GAP ..
def isChange (entry : TimelineEntry) : Bool := entry.body matches .STATE_CHANGE ..
/-- The observations an interval counts. -/
def observationsOf (entry : TimelineEntry) : Nat :=
  match entry.body with
  | .STABLE_INTERVAL _ _ _ observations _ => observations
  | _ => 0
/-- The failures an error entry counts. -/
def occurrencesOf (entry : TimelineEntry) : Nat :=
  match entry.body with
  | .DECODE_ERROR _ _ _ occurrences => occurrences
  | _ => 0

/-- What an entry says of a run, which stands latest first: where it begins and ends, how long it is, and the state
    or the failure it began with. -/
inductive Reports (run : List CaptureObservation) (entry : TimelineEntry) : Prop where
  | interval {first last : CaptureObservation} {evidence : ChainObservation} (begins : run.getLast? = some first)
      (ends : run.head? = some last) (decoded : ∀ record ∈ run, isFailure record = false)
      (read : decodedOf first = some evidence)
      (body : entry.body = .STABLE_INTERVAL (spanOf first last) first.blockTime last.blockTime run.length (stateFields evidence))
  | failures {first last : CaptureObservation} {code : Text} {message : Template} (begins : run.getLast? = some first)
      (ends : run.head? = some last) (failed : ∀ record ∈ run, codeOf record = some code)
      (read : failureOf first = some (code, message))
      (body : entry.body = .DECODE_ERROR code message (spanOf first last) run.length)

section
variable {dateParse : Text → Option Int} {first : CaptureObservation} {earlier : List CaptureObservation}

theorem isFailure_eq_false {record : CaptureObservation} : isFailure record = false ↔ codeOf record = none := by
  unfold isFailure decodedOf codeOf failureOf
  cases record.evidence <;> simp
/-- A run is one entry, which reports it. -/
theorem runEntries_reports {run : List CaptureObservation} (member : run ∈ runsOf dateParse earlier) :
    ∃ pushed, runEntries first run = [pushed] ∧ Reports run pushed.entry := by
  cases run with
  | nil => exact absurd rfl (ne_nil_of_mem_segments _ member)
  | cons last others =>
    obtain ⟨begun, begins, same⟩ := first_of_run member
    have uniform : ∀ record ∈ last :: others, codeOf record = codeOf begun := by
      intro record found
      exact runs_uniform member record found begun (List.mem_of_getLast? begins)
    cases failed : failureOf begun with
    | none =>
      obtain ⟨evidence, read⟩ := failureOf_eq_none.mp failed
      have code : codeOf begun = none := by simp [codeOf, failed]
      have interval : intervalOf (last :: others) = some ⟨begun, last, (last :: others).length, stateFields evidence⟩ := by
        simp [intervalOf, begins, read]
      have errors : errorsOf (last :: others) = none := by simp [errorsOf, begins, failed]
      refine ⟨⟨begun.lineNumber, (newTrack first).entry (.STABLE_INTERVAL (spanOf begun last) begun.blockTime last.blockTime
        (last :: others).length (stateFields evidence))⟩, ?_, .interval begins rfl ?_ read rfl⟩
      · unfold runEntries closings SymbolTrack.closeInterval SymbolTrack.closeErrors
        rw [interval, errors]
        rfl
      · intro record found
        exact isFailure_eq_false.mpr ((uniform record found).trans code)
    | some failure =>
      obtain ⟨code, message⟩ := failure
      have coded : codeOf begun = some code := by simp [codeOf, failed]
      have interval : intervalOf (last :: others) = none := by
        simp [intervalOf, begins, decodedOf_eq_none.mpr ⟨_, failed⟩]
      have errors : errorsOf (last :: others) = some ⟨begun, last, code, message, (last :: others).length⟩ := by
        simp [errorsOf, begins, failed]
      refine ⟨⟨begun.lineNumber, (newTrack first).entry (.DECODE_ERROR code message (spanOf begun last)
        (last :: others).length)⟩, ?_, .failures begins rfl ?_ failed rfl⟩
      · unfold runEntries closings SymbolTrack.closeInterval SymbolTrack.closeErrors
        rw [interval, errors]
        rfl
      · intro record found
        exact (uniform record found).trans coded
/-- What an open track closes is its last run. -/
theorem closings_trackOf : closings (trackOf dateParse first earlier) =
    (runsOf dateParse earlier).head?.toList.flatMap (runEntries first) := by
  cases cut : runsOf dateParse earlier with
  | nil =>
    unfold closings SymbolTrack.closeInterval SymbolTrack.closeErrors
    simp [trackOf, cut]
  | cons run rest =>
    unfold runEntries closings SymbolTrack.closeInterval SymbolTrack.closeErrors
    simp [trackOf, cut]
    rfl

theorem kind_of_closings (track : SymbolTrack) : ∀ pushed ∈ closings track, isRun pushed.entry = true ∧
    isGapEntry pushed.entry = false ∧ isChange pushed.entry = false := by
  intro pushed member
  unfold closings SymbolTrack.closeInterval SymbolTrack.closeErrors at member
  rcases List.mem_append.mp member with found | found <;> split at found <;> simp at found <;> rw [found] <;>
    exact ⟨rfl, rfl, rfl⟩
theorem kind_of_gapEntries {record : CaptureObservation} : ∀ pushed ∈ gapEntries dateParse first earlier record,
    isRun pushed.entry = false ∧ isGapEntry pushed.entry = true ∧ isChange pushed.entry = false := by
  intro pushed member
  unfold gapEntries at member
  split at member
  · split at member <;> simp at member
    rw [member]
    exact ⟨rfl, rfl, rfl⟩
  · cases member
theorem kind_of_changeEntries {record : CaptureObservation} : ∀ pushed ∈ changeEntries first earlier record,
    isRun pushed.entry = false ∧ isGapEntry pushed.entry = false ∧ isChange pushed.entry = true := by
  intro pushed member
  unfold changeEntries at member
  split at member
  · split at member <;> simp at member
    rw [member]
    exact ⟨rfl, rfl, rfl⟩
  · cases member
theorem kind_of_shownEntries {verbose : Bool} {record : CaptureObservation} : ∀ pushed ∈ shownEntries verbose first record,
    isRun pushed.entry = false ∧ isGapEntry pushed.entry = false ∧ isChange pushed.entry = false := by
  intro pushed member
  unfold shownEntries at member
  split at member <;> simp at member
  rw [member]
  exact ⟨rfl, rfl, rfl⟩
theorem kind_of_closedEntries {record : CaptureObservation} : ∀ pushed ∈ closedEntries dateParse first earlier record,
    isRun pushed.entry = true ∧ isGapEntry pushed.entry = false ∧ isChange pushed.entry = false := by
  intro pushed member
  unfold closedEntries at member
  split at member
  · exact kind_of_closings _ pushed member
  · cases member

theorem filter_none {kept : Pushed → Bool} {entries : List Pushed} (others : ∀ pushed ∈ entries, kept pushed = false) :
    entries.filter kept = [] := List.filter_eq_nil_iff.mpr fun pushed member => by simp [others pushed member]
/-- The entries of each kind among those of a record. -/
theorem recordEntries_isRun {verbose : Bool} {record : CaptureObservation} :
    (recordEntries dateParse verbose first earlier record).filter (fun pushed => isRun pushed.entry) =
      closedEntries dateParse first earlier record := by
  unfold recordEntries
  rw [List.filter_append, List.filter_append, List.filter_append,
    List.filter_eq_self.mpr fun pushed member => (kind_of_closedEntries pushed member).1,
    filter_none fun pushed member => (kind_of_gapEntries pushed member).1,
    filter_none fun pushed member => (kind_of_changeEntries pushed member).1,
    filter_none fun pushed member => (kind_of_shownEntries pushed member).1]
  simp
theorem recordEntries_isGapEntry {verbose : Bool} {record : CaptureObservation} :
    (recordEntries dateParse verbose first earlier record).filter (fun pushed => isGapEntry pushed.entry) =
      gapEntries dateParse first earlier record := by
  unfold recordEntries
  rw [List.filter_append, List.filter_append, List.filter_append,
    List.filter_eq_self.mpr fun pushed member => (kind_of_gapEntries pushed member).2.1,
    filter_none fun pushed member => (kind_of_closedEntries pushed member).2.1,
    filter_none fun pushed member => (kind_of_changeEntries pushed member).2.1,
    filter_none fun pushed member => (kind_of_shownEntries pushed member).2.1]
  simp
theorem recordEntries_isChange {verbose : Bool} {record : CaptureObservation} :
    (recordEntries dateParse verbose first earlier record).filter (fun pushed => isChange pushed.entry) =
      changeEntries first earlier record := by
  unfold recordEntries
  rw [List.filter_append, List.filter_append, List.filter_append,
    List.filter_eq_self.mpr fun pushed member => (kind_of_changeEntries pushed member).2.2,
    filter_none fun pushed member => (kind_of_closedEntries pushed member).2.2,
    filter_none fun pushed member => (kind_of_gapEntries pushed member).2.2,
    filter_none fun pushed member => (kind_of_shownEntries pushed member).2.2]
  simp
theorem length_gapEntries {record : CaptureObservation} :
    (gapEntries dateParse first earlier record).length = if isGap dateParse earlier record then 1 else 0 := by
  unfold gapEntries isGap
  split
  · split <;> simp_all
  · rfl
theorem gaps_cons {record : CaptureObservation} : countGaps (points dateParse (record :: earlier)).reverse =
    countGaps (points dateParse earlier).reverse + if isGap dateParse earlier record then 1 else 0 := by
  rw [points_cons]
  cases pointed : pointOf dateParse record with
  | none => simp [isGap_eq_false_of_none pointed]
  | some point =>
    rw [Option.toList_some, List.singleton_append, List.reverse_cons, countGaps_concat, List.getLast?_reverse]
    unfold isGap
    rw [pointed]
    cases (points dateParse earlier).head? <;> rfl

/-! ### The entries of a mint -/

/-- Before the end, each run but the last has its entry. -/
theorem pushedBy_isRun {verbose : Bool} :
    (pushedBy dateParse verbose first earlier).filter (fun pushed => isRun pushed.entry) =
      (runsOf dateParse earlier).tail.reverse.flatMap (runEntries first) := by
  induction earlier with
  | nil => rfl
  | cons record earlier ih =>
    rw [pushedBy, List.filter_append, ih, recordEntries_isRun]
    unfold closedEntries
    by_cases broken : breaks dateParse earlier record = true
    · rw [if_pos broken, runs_of_break broken, List.tail_cons, closings_trackOf]
      cases runsOf dateParse earlier <;> simp
    · rw [if_neg broken, List.append_nil]
      cases cut : runsOf dateParse earlier with
      | nil =>
        rw [(segments_eq_nil _).mp cut] at broken
        simp [breaks] at broken
      | cons run rest => rw [runs_of_join broken cut, List.tail_cons, List.tail_cons]
theorem pushedBy_gaps {verbose : Bool} :
    (pushedBy dateParse verbose first earlier).countP (fun pushed => isGapEntry pushed.entry) =
      countGaps (points dateParse earlier).reverse := by
  induction earlier with
  | nil => rfl
  | cons record earlier ih =>
    rw [pushedBy, List.countP_append, ih, List.countP_eq_length_filter, recordEntries_isGapEntry, length_gapEntries, gaps_cons]
end

/-! ### The entries of a timeline -/

section
variable {dateParse : Text → Option Int} {options : TimelineOptions} {records : List CaptureRecord} {loop : Loop}

theorem track_of_mem (follows : Follows dateParse options records loop) {key : Text} {track : SymbolTrack}
    (member : (key, track) ∈ loop.tracks) : ∃ first, (history options records key).getLast? = some first ∧
      track = trackOf dateParse first (history options records key) ∧ track.mint = key := by
  have found := get_of_mem follows.keys member
  rw [follows.tracks, Option.map_eq_some_iff] at found
  obtain ⟨first, begun, rfl⟩ := found
  exact ⟨first, begun, rfl, mint_of_history (List.mem_of_getLast? begun)⟩
theorem flush_eq (loop : Loop) : loop.flush = loop.tracks.flatMap (fun track => closings track.2) := rfl
theorem flush_of_mint (follows : Follows dateParse options records loop) (mint : Text) :
    loop.flush.filter (isOf (some mint)) = (history options records mint).getLast?.toList.flatMap (fun first =>
      closings (trackOf dateParse first (history options records mint))) := by
  rw [flush_eq, @filter_flatMap_key _ _ _ _ _ mint, filter_key follows.keys, follows.tracks]
  · cases (history options records mint).getLast? <;> simp
  · rintro ⟨key, track⟩ member
    obtain ⟨_, _, _, own⟩ := track_of_mem follows member
    by_cases same : key = mint
    · rw [if_pos same]
      refine List.filter_eq_self.mpr fun pushed inside => ?_
      simp [isOf, mint_of_closings track pushed inside, own, same]
    · rw [if_neg same]
      refine List.filter_eq_nil_iff.mpr fun pushed inside => ?_
      simp [isOf, mint_of_closings track pushed inside, own, same]
theorem flush_of_none (loop : Loop) : loop.flush.filter (isOf none) = [] := by
  refine List.filter_eq_nil_iff.mpr fun pushed member => ?_
  rw [flush_eq] at member
  obtain ⟨track, _, inside⟩ := List.mem_flatMap.mp member
  simp [isOf, mint_of_closings track.2 pushed inside]
/-- Sorting moves entries, and nothing else. -/
theorem buildTimeline_entries : (buildTimeline dateParse options records).entries.Perm
    (((Loop.run dateParse options records).entries ++ (Loop.run dateParse options records).flush).map Pushed.entry) :=
  (List.mergeSort_perm _ _).map _
/-- The entries of a mint are those its records pushed, and the one of its last run. -/
theorem entries_of_mint (mint : Text) : ((buildTimeline dateParse options records).entries.filter (fun entry =>
      decide (entry.mint = some mint))).Perm
    (((history options records mint).getLast?.toList.flatMap (fun first =>
      pushedBy dateParse options.verbose first (history options records mint) ++
        closings (trackOf dateParse first (history options records mint)))).map Pushed.entry) := by
  have follows := @run_follows dateParse options records
  refine (buildTimeline_entries.filter _).trans (List.Perm.of_eq ?_)
  rw [List.filter_map]
  have of : (fun entry : TimelineEntry => decide (entry.mint = some mint)) ∘ Pushed.entry = isOf (some mint) := rfl
  rw [of, List.filter_append, follows.entries, flush_of_mint follows]
  cases (history options records mint).getLast? <;> simp
theorem entries_of_none : ((buildTimeline dateParse options records).entries.filter (fun entry =>
      decide (entry.mint = none))).Perm ((records.filterMap lineErrorOf).map (fun error => (lineErrorEntry error).entry)) := by
  have follows := @run_follows dateParse options records
  refine (buildTimeline_entries.filter _).trans (List.Perm.of_eq ?_)
  rw [List.filter_map]
  have of : (fun entry : TimelineEntry => decide (entry.mint = none)) ∘ Pushed.entry = isOf none := rfl
  rw [of, List.filter_append, follows.lineEntries, flush_of_none, List.append_nil, List.map_map]
  rfl
theorem forall₂_of_runEntries {first : CaptureObservation} {runs : List (List CaptureObservation)}
    (single : ∀ run ∈ runs, ∃ pushed, runEntries first run = [pushed] ∧ Reports run pushed.entry) :
    List.Forall₂ Reports runs ((runs.flatMap (runEntries first)).map Pushed.entry) := by
  induction runs with
  | nil => exact .nil
  | cons run rest ih =>
    obtain ⟨latest, others⟩ := List.forall_mem_cons.mp single
    obtain ⟨pushed, entry, reports⟩ := latest
    rw [List.flatMap_cons, entry]
    exact .cons reports (ih others)
/-- The entries of the runs of a mint, in input order. -/
def runsPushed (dateParse : Text → Option Int) (options : TimelineOptions) (records : List CaptureRecord) (mint : Text) :
    List Pushed :=
  (history options records mint).getLast?.toList.flatMap (fun first =>
    (runsOf dateParse (history options records mint)).reverse.flatMap (runEntries first))
theorem runsPushed_reports (mint : Text) : List.Forall₂ Reports (runsOf dateParse (history options records mint)).reverse
    ((runsPushed dateParse options records mint).map Pushed.entry) := by
  unfold runsPushed
  cases begun : (history options records mint).getLast? with
  | none =>
    rw [List.getLast?_eq_none_iff.mp begun]
    exact .nil
  | some first =>
    rw [Option.toList_some, List.flatMap_singleton]
    exact forall₂_of_runEntries fun run member => runEntries_reports (List.mem_reverse.mp member)
/-- They are pushed in this order. -/
theorem pushed_runs (mint : Text) :
    ((Loop.run dateParse options records).entries ++ (Loop.run dateParse options records).flush).filter
      (fun pushed => isRun pushed.entry && isOf (some mint) pushed) = runsPushed dateParse options records mint := by
  have follows := @run_follows dateParse options records
  rw [← List.filter_filter, List.filter_append, follows.entries, flush_of_mint follows]
  unfold runsPushed
  cases (history options records mint).getLast? with
  | none => rfl
  | some first =>
    rw [Option.map_some, Option.getD_some, Option.toList_some, List.flatMap_singleton, List.flatMap_singleton,
      List.filter_append, pushedBy_isRun, List.filter_eq_self.mpr fun pushed member => (kind_of_closings _ pushed member).1,
      closings_trackOf]
    cases runsOf dateParse (history options records mint) <;> simp
/-- Each run of a mint has its entry, and no other entry of the mint is one of a run. -/
theorem runs_of_mint (mint : Text) : ((buildTimeline dateParse options records).entries.filter (fun entry =>
    isRun entry && decide (entry.mint = some mint))).Perm ((runsPushed dateParse options records mint).map Pushed.entry) := by
  rw [← pushed_runs]
  refine (buildTimeline_entries.filter _).trans (List.Perm.of_eq ?_)
  rw [List.filter_map]
  rfl
theorem gaps_of_mint (mint : Text) : (buildTimeline dateParse options records).entries.countP (fun entry =>
    isGapEntry entry && decide (entry.mint = some mint)) = countGaps (points dateParse (history options records mint)).reverse := by
  have reorder := (@entries_of_mint dateParse options records mint).countP_eq isGapEntry
  rw [List.countP_filter] at reorder
  rw [reorder]
  cases begun : (history options records mint).getLast? with
  | none =>
    rw [List.getLast?_eq_none_iff.mp begun]
    rfl
  | some first =>
    have kept : isGapEntry ∘ Pushed.entry = fun pushed => isGapEntry pushed.entry := rfl
    rw [List.countP_map, kept, Option.toList_some, List.flatMap_singleton, List.countP_append, pushedBy_gaps]
    have closed : (closings (trackOf dateParse first (history options records mint))).countP
        (fun pushed => isGapEntry pushed.entry) = 0 := by
      refine List.countP_eq_zero.mpr fun pushed member => ?_
      simp [(kind_of_closings _ pushed member).2.1]
    rw [closed, Nat.add_zero]
end

/-! ### The order of entries -/

def isInterval (entry : TimelineEntry) : Bool := entry.body matches .STABLE_INTERVAL ..
def isErrorRun (entry : TimelineEntry) : Bool := entry.body matches .DECODE_ERROR ..
def lineNumberOf : CaptureRecord → Nat
  | .observation record => record.lineNumber
  | .lineError error => error.lineNumber
/-- The symbol that entries of one line and kind are ordered by. -/
def symbolKey (pushed : Pushed) : Text := pushed.entry.symbol.getD []

theorem entryLE_iff {left right : Pushed} : entryLE left right = true ↔ left.line < right.line ∨ left.line = right.line ∧
    (KIND_RANK left.entry.body < KIND_RANK right.entry.body ∨ KIND_RANK left.entry.body = KIND_RANK right.entry.body ∧
      symbolKey left ≤ symbolKey right) := by
  simp [entryLE, symbolKey]
theorem entryLE_trans (first second third : Pushed) (before : entryLE first second = true) (after : entryLE second third = true) :
    entryLE first third = true := by
  rw [entryLE_iff] at *
  rcases before with line | ⟨line, before⟩ <;> rcases after with line' | ⟨line', after⟩
  · exact .inl (by omega)
  · exact .inl (by omega)
  · exact .inl (by omega)
  · refine .inr ⟨by omega, ?_⟩
    rcases before with rank | ⟨rank, before⟩ <;> rcases after with rank' | ⟨rank', after⟩
    · exact .inl (by omega)
    · exact .inl (by omega)
    · exact .inl (by omega)
    · exact .inr ⟨by omega, List.le_trans before after⟩
theorem entryLE_total (left right : Pushed) : (entryLE left right || entryLE right left) = true := by
  rw [Bool.or_eq_true, entryLE_iff, entryLE_iff]
  rcases List.le_total (symbolKey left) (symbolKey right) with symbols | symbols
  · by_cases line : left.line < right.line ∨ left.line = right.line ∧
      (KIND_RANK left.entry.body < KIND_RANK right.entry.body ∨ KIND_RANK left.entry.body = KIND_RANK right.entry.body)
    · left
      tauto
    · right
      omega
  · by_cases line : left.line < right.line ∨ left.line = right.line ∧ KIND_RANK left.entry.body < KIND_RANK right.entry.body
    · left
      tauto
    · right
      have other : right.line < left.line ∨ right.line = left.line ∧ (KIND_RANK right.entry.body < KIND_RANK left.entry.body ∨
          KIND_RANK right.entry.body = KIND_RANK left.entry.body) := by omega
      tauto
/-- Sorting keeps what already stands in order as it stands. -/
theorem mergeSort_filter {pushed : List Pushed} {kept : Pushed → Bool}
    (ordered : (pushed.filter kept).Pairwise (fun left right => entryLE left right = true)) :
    (pushed.mergeSort entryLE).filter kept = pushed.filter kept := by
  have inside := List.sublist_mergeSort entryLE_trans entryLE_total ordered List.filter_sublist
  have sub := inside.filter kept
  rw [List.filter_filter] at sub
  simp only [Bool.and_self] at sub
  exact (sub.eq_of_length ((List.mergeSort_perm pushed entryLE).filter kept).length_eq.symm).symm

section
variable {dateParse : Text → Option Int} {options : TimelineOptions} {records : List CaptureRecord}

theorem history_ordered (ordered : (records.map lineNumberOf).Pairwise (· ≤ ·)) (mint : Text) :
    (history options records mint).Pairwise (fun later before => before.lineNumber ≤ later.lineNumber) := by
  unfold history selected
  rw [List.pairwise_reverse]
  refine (List.Pairwise.filter _ (List.Pairwise.filter _ ?_))
  refine List.Pairwise.filterMap observationOf ?_ (List.pairwise_map.mp ordered)
  intro left right le record read other alsoRead
  cases left <;> cases right <;> cases read <;> cases alsoRead
  exact le
theorem runEntries_line {first : CaptureObservation} {run : List CaptureObservation} {pushed : Pushed}
    (member : pushed ∈ runEntries first run) : (∃ record ∈ run, pushed.line = record.lineNumber) ∧
      pushed.entry.symbol = some (symbolOf first) := by
  unfold runEntries closings SymbolTrack.closeInterval SymbolTrack.closeErrors at member
  unfold intervalOf errorsOf at member
  cases begun : run.getLast? with
  | none => simp [begun] at member
  | some record =>
    have inside := List.mem_of_getLast? begun
    cases ends : run.head? with
    | none => simp [begun, ends] at member
    | some last =>
      rw [begun, ends] at member
      rcases List.mem_append.mp member with found | found <;> split at found <;> rename_i opened <;> simp at found opened
      · obtain ⟨evidence, _, rfl⟩ := opened
        rw [found]
        exact ⟨⟨record, inside, rfl⟩, rfl⟩
      · obtain ⟨code, message, _, rfl⟩ := opened
        rw [found]
        exact ⟨⟨record, inside, rfl⟩, rfl⟩
theorem runsPushed_ordered (ordered : (records.map lineNumberOf).Pairwise (· ≤ ·)) (mint : Text) :
    (runsPushed dateParse options records mint).Pairwise (fun left right => left.line ≤ right.line ∧
      symbolKey left = symbolKey right) := by
  unfold runsPushed
  cases (history options records mint).getLast? with
  | none => exact .nil
  | some first =>
    rw [Option.toList_some, List.flatMap_singleton, List.pairwise_flatMap, List.pairwise_reverse]
    constructor
    · intro run member
      obtain ⟨pushed, single, _⟩ := @runEntries_reports dateParse first _ run (List.mem_reverse.mp member)
      rw [single]
      exact List.pairwise_singleton _ _
    · have apart := @history_ordered options records ordered mint
      rw [← @segments_flatten _ (fun earlier record => breaks dateParse earlier record = true) _ (history options records mint),
        List.pairwise_flatten] at apart
      refine apart.2.imp ?_
      intro later before le left leftMember right rightMember
      obtain ⟨⟨record, inside, line⟩, symbol⟩ := runEntries_line leftMember
      obtain ⟨⟨other, also, otherLine⟩, otherSymbol⟩ := runEntries_line rightMember
      refine ⟨?_, by rw [symbolKey, symbolKey, symbol, otherSymbol]⟩
      rw [line, otherLine]
      exact le other also record inside
/-- The entries of one kind among those of the runs stand in the timeline as the runs do in the input. -/
theorem kind_ordered (ordered : (records.map lineNumberOf).Pairwise (· ≤ ·)) (mint : Text) {kind : TimelineEntry → Bool}
    {rank : Nat} (runKind : ∀ entry, kind entry = true → isRun entry = true ∧ KIND_RANK entry.body = rank) :
    (buildTimeline dateParse options records).entries.filter (fun entry => kind entry && decide (entry.mint = some mint)) =
      ((runsPushed dateParse options records mint).map Pushed.entry).filter kind := by
  have kept : ((Loop.run dateParse options records).entries ++ (Loop.run dateParse options records).flush).filter
      (fun pushed => kind pushed.entry && isOf (some mint) pushed) =
      (runsPushed dateParse options records mint).filter (fun pushed => kind pushed.entry) := by
    rw [← pushed_runs, List.filter_filter]
    refine List.filter_congr fun pushed _ => ?_
    cases known : kind pushed.entry with
    | false => rfl
    | true => simp [(runKind _ known).1]
  have sorted := @mergeSort_filter ((Loop.run dateParse options records).entries ++ (Loop.run dateParse options records).flush)
    (fun pushed => kind pushed.entry && isOf (some mint) pushed) ?_
  · rw [buildTimeline, List.filter_map, List.filter_map]
    refine congrArg (List.map Pushed.entry) ?_
    exact sorted.trans kept
  · rw [kept]
    refine List.Pairwise.imp_of_mem ?_ ((runsPushed_ordered ordered mint).filter _)
    intro left right leftMember rightMember le
    obtain ⟨line, symbol⟩ := le
    have leftRank := (runKind _ (List.mem_filter.mp leftMember).2).2
    have rightRank := (runKind _ (List.mem_filter.mp rightMember).2).2
    refine entryLE_iff.mpr ?_
    rcases Nat.lt_or_eq_of_le line with less | same
    · exact .inl less
    · exact .inr ⟨same, .inr ⟨leftRank.trans rightRank.symm, by rw [symbol]; exact List.le_refl _⟩⟩
theorem isInterval_rank (entry : TimelineEntry) (interval : isInterval entry = true) :
    isRun entry = true ∧ KIND_RANK entry.body = 3 := by
  unfold isInterval at interval
  unfold isRun
  split at interval
  · rename_i body
    rw [body]
    exact ⟨rfl, rfl⟩
  · cases interval
theorem isErrorRun_rank (entry : TimelineEntry) (failed : isErrorRun entry = true) :
    isRun entry = true ∧ KIND_RANK entry.body = 1 := by
  unfold isErrorRun at failed
  unfold isRun
  split at failed
  · rename_i body
    rw [body]
    exact ⟨rfl, rfl⟩
  · cases failed
end

/-! ### Nothing is lost -/

theorem Reports.counts {run : List CaptureObservation} {entry : TimelineEntry} (reports : Reports run entry) :
    observationsOf entry = run.countP (fun record => !isFailure record) ∧ occurrencesOf entry = run.countP isFailure := by
  cases reports with
  | interval _ _ decoded _ body =>
    unfold observationsOf occurrencesOf
    rw [body]
    constructor
    · exact (List.countP_eq_length.mpr fun record member => by simp [decoded record member]).symm
    · exact (List.countP_eq_zero.mpr fun record member => by simp [decoded record member]).symm
  | failures _ _ failed _ body =>
    have failing (record : CaptureObservation) (member : record ∈ run) : isFailure record = true :=
      isFailure_iff.mpr ⟨_, failed record member⟩
    unfold observationsOf occurrencesOf
    rw [body]
    constructor
    · exact (List.countP_eq_zero.mpr fun record member => by simp [failing record member]).symm
    · exact (List.countP_eq_length.mpr failing).symm
theorem sum_of_reports {runs : List (List CaptureObservation)} {entries : List TimelineEntry}
    (reports : List.Forall₂ Reports runs entries) :
    (entries.map observationsOf).sum = runs.flatten.countP (fun record => !isFailure record) ∧
      (entries.map occurrencesOf).sum = runs.flatten.countP isFailure := by
  induction reports with
  | nil => exact ⟨rfl, rfl⟩
  | cons first _ ih =>
    obtain ⟨observations, occurrences⟩ := first.counts
    simp [observations, occurrences, ih]

section
variable {dateParse : Text → Option Int}

theorem runs_flatten (earlier : List CaptureObservation) : (runsOf dateParse earlier).flatten = earlier :=
  segments_flatten _ earlier
/-- Within a run nothing comes a gap later than what came before it. -/
theorem runs_gapless {earlier run : List CaptureObservation} (member : run ∈ runsOf dateParse earlier) :
    (points dateParse run).IsChain (fun later before => later.ms - before.ms < CAPTURE_GAP_THRESHOLD_SECS * 1000) := by
  refine segments_rule _ (motive := fun run => (points dateParse run).IsChain
    (fun later before => later.ms - before.ms < CAPTURE_GAP_THRESHOLD_SECS * 1000)) ?_ ?_ run member
  · intro record _
    rw [points_cons]
    cases pointOf dateParse record <;> simp [points]
  · intro item before segment rest _ cut joins gapless
    obtain ⟨near, _⟩ := breaks_eq_false.mp joins
    have whole := history_of_segments _ cut
    have all : points dateParse before = points dateParse segment ++ points dateParse rest.flatten := by
      unfold points
      rw [← List.filterMap_append, ← whole]
    rw [points_cons]
    cases pointed : pointOf dateParse item with
    | none => exact gapless
    | some point =>
      refine List.IsChain.cons gapless ?_
      intro previous latest
      have last : (points dateParse before).head? = some previous := by
        rw [all]
        cases inside : points dateParse segment <;> simp_all
      unfold isGap at near
      rw [last, pointed] at near
      exact not_le.mp (of_decide_eq_false near)
end

/-! ### Clocks that step back -/

section
variable {dateParse : Text → Option Int} {options : TimelineOptions} {records : List CaptureRecord}

/-- Two records in a row of a run are less than a gap apart, whichever of them is the later one. -/
def RunsClose (dateParse : Text → Option Int) (options : TimelineOptions) (records : List CaptureRecord) : Prop :=
  ∀ mint, ∀ run ∈ runsOf dateParse (history options records mint), (points dateParse run).IsChain
    (fun later before => |later.ms - before.ms| < CAPTURE_GAP_THRESHOLD_SECS * 1000)
/-- From a record with a wallclock to the next one of its mint, the clock does not step back by a gap, unless the
    decode status, the error code or the state changes on the way. -/
def Steady (dateParse : Text → Option Int) (options : TimelineOptions) (records : List CaptureRecord) : Prop :=
  ∀ mint later between before older, later :: (between ++ before :: older) <:+ history options records mint →
    (∀ record ∈ between, pointOf dateParse record = none) →
    (later :: (between ++ [before])).IsChain (fun record last => continues last record = true) →
    ∀ first ∈ pointOf dateParse before, ∀ second ∈ pointOf dateParse later,
      first.ms - second.ms < CAPTURE_GAP_THRESHOLD_SECS * 1000

theorem runs_close (steady : Steady dateParse options records) : RunsClose dateParse options records := by
  intro mint run member
  refine (segments_rule _ (motive := fun run => run.IsChain (fun record last => continues last record = true) ∧
    (points dateParse run).IsChain (fun later before => |later.ms - before.ms| < CAPTURE_GAP_THRESHOLD_SECS * 1000))
    ?_ ?_ run member).2
  · intro record _
    refine ⟨.singleton record, ?_⟩
    rw [points_cons]
    cases pointOf dateParse record <;> simp [points]
  · intro item before segment rest inside cut joins grown
    obtain ⟨chained, close⟩ := grown
    obtain ⟨near, last, latest, continuing⟩ := breaks_eq_false.mp joins
    obtain ⟨head, others, rfl, same⟩ := head_of_runs cut
    obtain rfl : head = last := Option.some.inj (same.symm.trans latest)
    have longer : (item :: head :: others).IsChain (fun record last => continues last record = true) :=
      .cons_cons continuing chained
    refine ⟨longer, ?_⟩
    have whole := history_of_segments _ cut
    rw [points_cons]
    cases pointed : pointOf dateParse item with
    | none => exact close
    | some second =>
      refine List.IsChain.cons close ?_
      intro first begun
      -- The record of the point before, and the records without a point behind it.
      obtain ⟨firsts, split⟩ : ∃ firsts, points dateParse (head :: others) = first :: firsts :=
        List.head?_eq_some_iff.mp begun
      obtain ⟨between, earlier, older, shape, pointless, firstPointed, _⟩ := List.filterMap_eq_cons_iff.mp split
      have stretch : (item :: (between ++ [earlier])).IsChain (fun record last => continues last record = true) := by
        rw [shape, List.append_cons, ← List.cons_append] at longer
        exact longer.left_of_append
      have back : first.ms - second.ms < CAPTURE_GAP_THRESHOLD_SECS * 1000 := by
        refine steady mint item between earlier (older ++ rest.flatten) ?_ pointless stretch first firstPointed second pointed
        rw [whole, shape, List.append_assoc] at inside
        exact inside
      have forth : second.ms - first.ms < CAPTURE_GAP_THRESHOLD_SECS * 1000 := by
        have latestPoint : (points dateParse before).head? = some first := by
          have all : points dateParse before = points dateParse (head :: others) ++ points dateParse rest.flatten := by
            unfold points
            rw [← List.filterMap_append, ← whole]
          rw [all, split]
          rfl
        unfold isGap at near
        rw [latestPoint, pointed] at near
        exact not_le.mp (of_decide_eq_false near)
      exact abs_lt.mpr ⟨by omega, forth⟩
/-- A record without a point, or with one that does not come a gap later, goes on in the last run. -/
theorem run_grows {earlier run : List CaptureObservation} {rest : List (List CaptureObservation)}
    {record last : CaptureObservation} (cut : runsOf dateParse earlier = run :: rest)
    (near : isGap dateParse earlier record = false) (latest : earlier.head? = some last)
    (continuing : continues last record = true) : runsOf dateParse (record :: earlier) = (record :: run) :: rest :=
  runs_of_join (breaks_eq_false.mpr ⟨near, last, latest, continuing⟩) cut
theorem stretch_cons {record before : CaptureObservation} {between older : List CaptureObservation}
    (stretch : (record :: (between ++ [before])).IsChain (fun record last => continues last record = true)) :
    ∃ last, (between ++ before :: older).head? = some last ∧ continues last record = true := by
  obtain ⟨first, _⟩ := List.isChain_cons.mp stretch
  cases between with
  | nil => exact ⟨before, rfl, first before rfl⟩
  | cons last others => exact ⟨last, rfl, first last rfl⟩
theorem run_of_stretch {before : CaptureObservation} {between older run : List CaptureObservation}
    {rest : List (List CaptureObservation)} (cut : runsOf dateParse (before :: older) = run :: rest)
    (pointless : ∀ record ∈ between, pointOf dateParse record = none)
    (stretch : (between ++ [before]).IsChain (fun record last => continues last record = true)) :
    runsOf dateParse (between ++ before :: older) = (between ++ run) :: rest := by
  induction between with
  | nil => exact cut
  | cons record between ih =>
    obtain ⟨first, others⟩ := List.forall_mem_cons.mp pointless
    obtain ⟨last, latest, continuing⟩ := @stretch_cons record before between older stretch
    exact run_grows (ih others stretch.tail) (isGap_eq_false_of_none first) latest continuing
theorem steady_of_close (close : RunsClose dateParse options records) : Steady dateParse options records := by
  intro mint later between before older inside pointless stretch first begun second ended
  rw [Option.mem_def] at begun ended
  by_contra far
  obtain ⟨run, rest, cut⟩ : ∃ run rest, runsOf dateParse (before :: older) = run :: rest := by
    refine List.exists_cons_of_ne_nil fun none => ?_
    cases (segments_eq_nil _).mp none
  obtain ⟨head, others, rfl, same⟩ := head_of_runs cut
  obtain rfl : before = head := Option.some.inj same
  have reached := run_of_stretch cut pointless stretch.tail
  -- The later point lies before the first one, so there is no gap between them.
  have latestPoint : (points dateParse (between ++ before :: older)).head? = some first := by
    unfold points
    rw [List.filterMap_append, List.filterMap_eq_nil_iff.mpr pointless, List.nil_append, List.filterMap_cons, begun]
    rfl
  have near : isGap dateParse (between ++ before :: older) later = false := by
    unfold isGap
    rw [latestPoint, ended]
    have threshold : CAPTURE_GAP_THRESHOLD_SECS * 1000 = 60000 := rfl
    exact decide_eq_false (by omega)
  obtain ⟨last, latest, continuing⟩ := @stretch_cons later before between older stretch
  obtain ⟨grown, member⟩ := grown_of_suffix _ inside (run_grows reached near latest continuing)
  have chain := close mint _ member
  unfold points at chain
  rw [List.filterMap_append, List.filterMap_cons, ended, List.filterMap_append, List.filterMap_eq_nil_iff.mpr pointless,
    List.nil_append, List.filterMap_cons, begun] at chain
  have two := (List.isChain_cons_cons.mp chain.right_of_append).1
  have threshold : CAPTURE_GAP_THRESHOLD_SECS * 1000 = 60000 := rfl
  rw [abs_lt] at two
  omega
end

/-! ### What a timeline conserves -/

/-- Every selected record of a mint is in one run of consecutive records, every run in one entry, and nothing else is
    counted. The histories, and so their runs, stand latest first. -/
structure Conserves (dateParse : Text → Option Int) (options : TimelineOptions) (records : List CaptureRecord)
    (result : TimelineResult) : Prop where
  partition : ∀ mint, (runsOf dateParse (history options records mint)).flatten = history options records mint
  runs : ∀ mint, ∃ entries, List.Forall₂ Reports (runsOf dateParse (history options records mint)).reverse entries ∧
    (result.entries.filter (fun entry => isRun entry && decide (entry.mint = some mint))).Perm entries ∧
    -- Intervals, and error runs, appear in input order.
    ((records.map lineNumberOf).Pairwise (· ≤ ·) → ∀ kind ∈ [isInterval, isErrorRun],
      result.entries.filter (fun entry => kind entry && decide (entry.mint = some mint)) = entries.filter kind)
  observations : ∀ mint, ((result.entries.filter (fun entry => isRun entry && decide (entry.mint = some mint))).map
    observationsOf).sum = (history options records mint).countP (fun record => !isFailure record)
  occurrences : ∀ mint, ((result.entries.filter (fun entry => isRun entry && decide (entry.mint = some mint))).map
    occurrencesOf).sum = (history options records mint).countP isFailure
  gapless : ∀ mint, ∀ run ∈ runsOf dateParse (history options records mint), (points dateParse run).IsChain
    (fun later before => later.ms - before.ms < CAPTURE_GAP_THRESHOLD_SECS * 1000)
  gaps : ∀ mint, result.entries.countP (fun entry => isGapEntry entry && decide (entry.mint = some mint)) =
    countGaps (points dateParse (history options records mint)).reverse
  lineErrors : (result.entries.filter (fun entry => decide (entry.mint = none))).Perm
    ((records.filterMap lineErrorOf).map (fun error => (lineErrorEntry error).entry))

section
variable {dateParse : Text → Option Int} {options : TimelineOptions} {records : List CaptureRecord}

theorem buildTimeline_conserves : Conserves dateParse options records (buildTimeline dateParse options records) := by
  have counted (mint : Text) := sum_of_reports (@runsPushed_reports dateParse options records mint)
  have order (mint : Text) : (runsOf dateParse (history options records mint)).reverse.flatten.Perm
      (history options records mint) := by
    refine ((List.reverse_perm _).flatten).trans (List.Perm.of_eq (runs_flatten _))
  refine ⟨fun mint => runs_flatten _, ?_, ?_, ?_, fun mint run member => runs_gapless member, fun mint => gaps_of_mint mint,
    entries_of_none⟩
  · intro mint
    refine ⟨_, runsPushed_reports mint, runs_of_mint mint, ?_⟩
    intro ordered kind member
    rcases List.mem_cons.mp member with rfl | member
    · exact kind_ordered ordered mint isInterval_rank
    · rw [List.mem_singleton.mp member]
      exact kind_ordered ordered mint isErrorRun_rank
  · intro mint
    rw [((runs_of_mint mint).map observationsOf).sum_eq, (counted mint).1, (order mint).countP_eq]
  · intro mint
    rw [((runs_of_mint mint).map occurrencesOf).sum_eq, (counted mint).2, (order mint).countP_eq]
/-- A timeline conserves what was observed, and keeps the records of a run close in time exactly while clocks are
    steady. -/
theorem conserves_and_close_iff : Conserves dateParse options records (buildTimeline dateParse options records) ∧
    (RunsClose dateParse options records ↔ Steady dateParse options records) :=
  ⟨buildTimeline_conserves, steady_of_close, runs_close⟩
end

/-- A mint whose multipliers are both one. -/
def evidenceOf (decimals : Numeric) (phase : Option Numeric) : ChainObservation where
  mint := "KOx"
  slot := none
  blockTime := none
  observedAt := none
  chainUnixTimestamp := phase.map (fun _ => 0)
  decimals
  paused := none
  protectedState := ⟨[0, 0, 0, 0, 0, 0, 0xF0, 0x3F], [0, 0, 0, 0, 0, 0, 0xF0, 0x3F], 0⟩
  hasScheduledChange := false
  phase
def pollAt (lineNumber : Nat) (wallclock : Text) (symbol : Option Text) (mint : Text) (evidence : ChainObservation) :
    CaptureObservation := ⟨lineNumber, some wallclock, none, none, symbol, none, mint, .decoded evidence⟩
/-- `Date.parse`, on the times of the fixtures. -/
def clock (date : Text) : Option Int :=
  if date = "2026-01-01T00:00:00Z" then some 1767225600000
  else if date = "2026-01-01T00:00:30Z" then some 1767225630000
  else if date = "2026-01-01T00:02:00Z" then some 1767225720000
  else none
/-- The second poll is two minutes before the first one. -/
def steppedBack : List CaptureRecord := [
  .observation (pollAt 1 "2026-01-01T00:02:00Z" (some "KOx") "KOx" (evidenceOf 6 (some 1))),
  .observation (pollAt 2 "2026-01-01T00:00:00Z" (some "KOx") "KOx" (evidenceOf 6 (some 1)))]
theorem interval_over_step_back :
    (buildTimeline clock ⟨none, false⟩ steppedBack).entries.map observationsOf = [2] ∧
      ¬ RunsClose clock ⟨none, false⟩ steppedBack := by
  refine ⟨by decide +kernel, fun close => ?_⟩
  have whole : history ⟨none, false⟩ steppedBack "KOx" =
      [pollAt 2 "2026-01-01T00:00:00Z" (some "KOx") "KOx" (evidenceOf 6 (some 1)),
        pollAt 1 "2026-01-01T00:02:00Z" (some "KOx") "KOx" (evidenceOf 6 (some 1))] := by
    simp [history, selected, observationOf, steppedBack, TimelineOptions.Selects, pollAt]
  have back := steady_of_close close "KOx" _ [] _ [] ⟨[], by rw [whole]; rfl⟩ (by simp)
    (.cons_cons (by decide) (.singleton _)) ⟨1, "2026-01-01T00:02:00Z", 1767225720000, none, none⟩ (by decide)
    ⟨2, "2026-01-01T00:00:00Z", 1767225600000, none, none⟩ (by decide)
  exact absurd back (by decide)

end EquityGuard.TimelineEntries
