import Mathlib.Data.List.Pairwise
import EquityGuard.TimelineEntries

/-!
What a timeline reports of each symbol. Records are followed by mint, and reported under
the symbol of the mint's first record: a report is about every mint exactly where no two
mints that have something to report share a symbol.
-/
namespace EquityGuard.TimelineSymbols
open EquityGuard.Capture EquityGuard.Client EquityGuard.JsonText EquityGuard.Maps EquityGuard.Representations
open EquityGuard.Timeline EquityGuard.TimelineEntries EquityGuard.TimelineRuns

/-! ### What is gathered of the records -/

/-- The first selected record of each mint, the latest one first. -/
def firstRecords (options : TimelineOptions) (records : List CaptureRecord) : List CaptureObservation :=
  (selected options records).reverse.pwFilter (fun record other => record.mint ≠ other.mint)

section
variable (dateParse : Text → Option Int) (options : TimelineOptions) (records : List CaptureRecord)

/-- The polls of a mint, in input order. -/
def pollsOf (mint : Text) : List PollPoint := (points dateParse (history options records mint)).reverse
/-- The first selected poll of each line, the latest one first. -/
def firstPoints : List PollPoint :=
  (points dateParse (selected options records).reverse).pwFilter (fun point other => point.line ≠ other.line)
/-- The lines with a poll, whatever the filter. -/
def pollLines : Finset Nat := ((points dateParse (records.filterMap observationOf)).map PollPoint.line).toFinset
def metricsOf (mint : Text) : QualityMetrics :=
  qualityMetrics (pollsOf dateParse options records mint) (pollLines dateParse records).card
    ((history options records mint).countP isFailure) (countGaps (pollsOf dateParse options records mint))
end

/-- The variables of the loop that the reports are made of. -/
structure Gathers (dateParse : Text → Option Int) (options : TimelineOptions) (records : List CaptureRecord) (loop : Loop) :
    Prop where
  mints : loop.tracks.map Prod.fst = (firstRecords options records).reverse.map CaptureObservation.mint
  polls : loop.overallPolls = (firstPoints dateParse options records).reverse.map (fun point => (point.line, point))
  lines : loop.allPollLines = pollLines dateParse records

section
variable {dateParse : Text → Option Int} {options : TimelineOptions} {records : List CaptureRecord} {loop : Loop}

theorem line_of_point {record : CaptureObservation} {point : PollPoint} (pointed : pointOf dateParse record = some point) :
    point.line = record.lineNumber := by
  unfold pointOf at pointed
  obtain ⟨_, _, dated⟩ := Option.bind_eq_some_iff.mp pointed
  obtain ⟨_, _, rfl⟩ := Option.map_eq_some_iff.mp dated
  rfl
theorem pollLines_concat (record : CaptureRecord) : pollLines dateParse (records ++ [record]) =
    match (observationOf record).bind (pointOf dateParse) with
    | some point => insert point.line (pollLines dateParse records)
    | none => pollLines dateParse records := by
  unfold pollLines points
  rw [List.filterMap_append, List.filterMap_append, List.map_append, List.toFinset_append]
  cases record with
  | lineError error =>
    have none : [CaptureRecord.lineError error].filterMap observationOf = [] := rfl
    simp [none, observationOf]
  | observation record =>
    have single : [CaptureRecord.observation record].filterMap observationOf = [record] := rfl
    cases pointed : pointOf dateParse record <;> simp [single, observationOf, pointed]
/-- Records that are not selected only show that their line has a poll. -/
theorem gathers_rejected (gathers : Gathers dateParse options records loop) {record : CaptureObservation}
    (rejected : ¬ options.Selects record) :
    Gathers dateParse options (records ++ [.observation record]) (loop.step dateParse options (.observation record)) := by
  have same : selected options (records ++ [.observation record]) = selected options records := by
    simp [selected_concat, observationOf, rejected]
  have mints := gathers.mints
  have polls := gathers.polls
  unfold firstRecords at mints
  unfold firstPoints at polls
  rw [← same] at mints polls
  simp only [Loop.step, if_neg rejected]
  refine ⟨mints, polls, ?_⟩
  rw [pollLines_concat, ← gathers.lines]
  dsimp only [observationOf, Option.bind_some]
  cases pointed : pointOf dateParse record with
  | none => rfl
  | some point => simp [line_of_point pointed]
theorem gathers_lineError (gathers : Gathers dateParse options records loop) (error : CaptureLineError) :
    Gathers dateParse options (records ++ [.lineError error]) (loop.step dateParse options (.lineError error)) := by
  have same : selected options (records ++ [.lineError error]) = selected options records := by
    simp [selected_concat, observationOf]
  have mints := gathers.mints
  have polls := gathers.polls
  unfold firstRecords at mints
  unfold firstPoints at polls
  rw [← same] at mints polls
  refine ⟨mints, polls, ?_⟩
  rw [pollLines_concat]
  exact gathers.lines
theorem gathers_selected (gathers : Gathers dateParse options records loop) {record : CaptureObservation}
    (kept : options.Selects record) :
    Gathers dateParse options (records ++ [.observation record]) (loop.step dateParse options (.observation record)) := by
  have more : (selected options (records ++ [.observation record])).reverse = record :: (selected options records).reverse := by
    simp [selected_concat, observationOf, Option.filter, kept]
  refine ⟨?_, ?_, ?_⟩
  · unfold firstRecords
    simp only [Loop.step, if_pos kept, keys_set, more, gathers.mints]
    split
    · rename_i known
      obtain ⟨first, member, same⟩ := List.mem_map.mp known
      rw [List.pwFilter_cons_of_neg]
      · rfl
      · exact fun others => others first (List.mem_reverse.mp member) same.symm
    · rename_i new
      rw [List.pwFilter_cons_of_pos]
      · simp [firstRecords]
      · intro first member same
        exact new (List.mem_map.mpr ⟨first, List.mem_reverse.mpr member, same.symm⟩)
  · unfold firstPoints
    rw [more, points_cons]
    simp only [Loop.step, if_pos kept]
    cases pointed : pointOf dateParse record with
    | none => exact gathers.polls
    | some point =>
      rw [Option.toList_some, List.singleton_append]
      have keys : loop.overallPolls.map Prod.fst = (firstPoints dateParse options records).reverse.map PollPoint.line := by
        rw [gathers.polls, List.map_map]
        rfl
      by_cases known : point.line ∈ loop.overallPolls.map Prod.fst
      · have present : (loop.overallPolls.get point.line).isNone = false := by
          rw [Option.isNone_eq_false_iff, Option.isSome_iff_ne_none, ne_eq, get_eq_none, not_not]
          exact known
        rw [keys] at known
        obtain ⟨first, member, same⟩ := List.mem_map.mp known
        rw [List.pwFilter_cons_of_neg]
        · dsimp only
          rw [present]
          exact gathers.polls
        · exact fun others => others first (List.mem_reverse.mp member) same.symm
      · have absent : (loop.overallPolls.get point.line).isNone = true := by
          rw [Option.isNone_iff_eq_none]
          exact get_eq_none.mpr known
        rw [List.pwFilter_cons_of_pos]
        · dsimp only
          rw [absent, if_pos rfl, set_of_absent known, gathers.polls]
          simp [firstPoints]
        · intro first member same
          rw [keys] at known
          exact known (List.mem_map.mpr ⟨first, List.mem_reverse.mpr member, same.symm⟩)
  · rw [pollLines_concat, ← gathers.lines]
    simp only [Loop.step, if_pos kept]
    dsimp only [observationOf, Option.bind_some]
    cases pointed : pointOf dateParse record with
    | none => rfl
    | some point => simp [line_of_point pointed]
theorem run_gathers (records : List CaptureRecord) : Gathers dateParse options records (Loop.run dateParse options records) := by
  induction records using List.reverseRecOn with
  | nil => exact ⟨rfl, rfl, rfl⟩
  | append_singleton records record ih =>
    rw [run_concat]
    cases record with
    | lineError error => exact gathers_lineError ih error
    | observation record =>
      by_cases kept : options.Selects record
      · exact gathers_selected ih kept
      · exact gathers_rejected ih kept
end

/-! ### The metrics of a mint -/

section
variable {dateParse : Text → Option Int} {options : TimelineOptions} {records : List CaptureRecord}

/-- An item with a new key among those left has a new key among all. -/
theorem new_of_pwFilter {Item Key : Type} [DecidableEq Key] {key : Item → Key} {items : List Item} {item : Item}
    (new : ∀ other ∈ items.pwFilter (fun one other => key one ≠ key other), key item ≠ key other) :
    ∀ other ∈ items, key item ≠ key other := by
  refine (List.forall_mem_pwFilter (R := fun one other => key one ≠ key other) ?_ item items).mp new
  intro first second third different
  by_contra both
  rw [not_or, not_not, not_not] at both
  exact different (both.1.trans both.2)
/-- What is left by its key is the earliest item with the key. -/
theorem getLast?_of_pwFilter {Item Key : Type} [DecidableEq Key] {key : Item → Key} {items : List Item} {item : Item}
    (member : item ∈ items.pwFilter (fun one other => key one ≠ key other)) :
    (items.filter (fun other => key other = key item)).getLast? = some item := by
  induction items with
  | nil => cases member
  | cons latest earlier ih =>
    by_cases new : ∀ other ∈ earlier.pwFilter (fun one other => key one ≠ key other), key latest ≠ key other
    · rw [List.pwFilter_cons_of_pos new] at member
      rcases List.mem_cons.mp member with rfl | member
      · have none := new_of_pwFilter new
        have others : earlier.filter (fun other => key other = key item) = [] :=
          List.filter_eq_nil_iff.mpr fun other inside => by simpa using Ne.symm (none other inside)
        simp [others]
      · rw [List.filter_cons]
        split
        · rw [List.getLast?_cons, ih member]
          rfl
        · exact ih member
    · rw [List.pwFilter_cons_of_neg new] at member
      rw [List.filter_cons]
      split
      · rw [List.getLast?_cons, ih member]
        rfl
      · exact ih member
theorem first_of_history {first : CaptureObservation} (member : first ∈ firstRecords options records) :
    (history options records first.mint).getLast? = some first := by
  unfold history
  rw [← List.filter_reverse]
  exact getLast?_of_pwFilter member
theorem mint_covered {record : CaptureObservation} (member : record ∈ selected options records) :
    record.mint ∈ (firstRecords options records).map CaptureObservation.mint := by
  by_contra missing
  have none : ∀ first ∈ firstRecords options records, record.mint ≠ first.mint := by
    intro first inside same
    exact missing (List.mem_map.mpr ⟨first, inside, same.symm⟩)
  exact new_of_pwFilter none record (List.mem_reverse.mpr member) rfl
theorem mints_distinct : ((firstRecords options records).map CaptureObservation.mint).Nodup := by
  rw [List.Nodup, List.pairwise_map]
  exact List.pairwise_pwFilter _
/-- The tracks stand in the order of the first records of their mints. -/
theorem tracks_eq : (Loop.run dateParse options records).tracks = ((firstRecords options records).map (fun first =>
    (first.mint, trackOf dateParse first (history options records first.mint)))).reverse := by
  have follows := @run_follows dateParse options records
  have gathers := @run_gathers dateParse options records
  rw [← List.map_reverse]
  refine eq_of_keys follows.keys gathers.mints ?_
  intro first member
  rw [follows.tracks, first_of_history (List.mem_reverse.mp member)]
  rfl
theorem metrics_trackOf {first : CaptureObservation} {mint : Text} :
    (trackOf dateParse first (history options records mint)).metrics (pollLines dateParse records).card =
      metricsOf dateParse options records mint := rfl
/-- What is assigned for the mints, the latest one first. -/
def reports (dateParse : Text → Option Int) (options : TimelineOptions) (records : List CaptureRecord) :
    List (Text × QualityMetrics) :=
  (firstRecords options records).map (fun first => (symbolOf first, metricsOf dateParse options records first.mint))
theorem bySymbol_eq : (buildTimeline dateParse options records).bySymbol =
    Entries.ofLatest ((reports dateParse options records).filter (fun report => report.1 ≠ text "__proto__")) := by
  unfold buildTimeline reports
  dsimp only
  rw [tracks_eq, List.foldl_reverse, (run_gathers records).lines]
  induction firstRecords options records with
  | nil => rfl
  | cons first earlier ih =>
    rw [List.map_cons, List.foldr_cons, ih, List.map_cons, List.filter_cons]
    have symbol : (trackOf dateParse first (history options records first.mint)).symbol = symbolOf first := rfl
    unfold assign
    rw [symbol, metrics_trackOf]
    by_cases reserved : symbolOf first = text "__proto__"
    · rw [if_pos reserved, if_neg (by simpa using reserved)]
    · rw [if_neg reserved, if_pos (by simpa using reserved)]
      rfl

/-! ### Every mint counted -/

theorem countP_history (mint : Text) (kept : CaptureObservation → Bool) : (history options records mint).countP kept =
    (selected options records).countP (fun record => kept record && decide (record.mint = mint)) := by
  unfold history
  rw [List.countP_reverse, List.countP_filter]
/-- What is counted mint by mint is counted of all selected records. -/
theorem sum_of_mints (kept : CaptureObservation → Bool) : ((firstRecords options records).map (fun first =>
    (history options records first.mint).countP kept)).sum = (selected options records).countP kept := by
  have keyed := sum_countP_key kept (@mints_distinct options records) fun _ => mint_covered
  rw [List.map_map] at keyed
  rw [← keyed]
  refine congrArg List.sum (List.map_congr_left fun first _ => ?_)
  exact countP_history first.mint kept
theorem length_points (earlier : List CaptureObservation) : (points dateParse earlier).length =
    earlier.countP (fun record => (pointOf dateParse record).isSome) := by
  unfold points
  rw [List.length_filterMap_eq_countP]
theorem total_polls : total QualityMetrics.observedPolls (reports dateParse options records) =
    (selected options records).countP (fun record => (pointOf dateParse record).isSome) := by
  rw [← sum_of_mints, total, reports, List.map_map]
  refine congrArg List.sum (List.map_congr_left fun first _ => ?_)
  exact (List.length_reverse).trans (length_points _)
theorem total_errors : total QualityMetrics.decodeErrors (reports dateParse options records) =
    (selected options records).countP isFailure := by
  rw [← sum_of_mints, total, reports, List.map_map]
  rfl
theorem overall_errors : (buildTimeline dateParse options records).overall.decodeErrors =
    (selected options records).countP isFailure + (records.filterMap lineErrorOf).length := by
  have counted : ((Loop.run dateParse options records).tracks.map (fun track => track.2.decodeErrors)).sum =
      (selected options records).countP isFailure := by
    rw [tracks_eq, List.map_reverse, List.sum_reverse, List.map_map, ← sum_of_mints]
    rfl
  unfold buildTimeline qualityMetrics
  dsimp only
  rw [counted, (run_follows records).lineErrors]
end

/-! ### Nothing is lost -/

/-- The reports count every poll and every failure of the selected records, and each mint's metrics are there. -/
structure LosesNothing (dateParse : Text → Option Int) (options : TimelineOptions) (records : List CaptureRecord)
    (result : TimelineResult) : Prop where
  polls : (result.bySymbol.map (fun report => report.2.observedPolls)).sum =
    (selected options records).countP (fun record => (pointOf dateParse record).isSome)
  errors : (result.bySymbol.map (fun report => report.2.decodeErrors)).sum + (records.filterMap lineErrorOf).length =
    result.overall.decodeErrors
  present : ∀ first ∈ firstRecords options records, result.bySymbol.get (symbolOf first) =
    some (metricsOf dateParse options records first.mint)
/-- No record of the mint has a time or fails. -/
def Silent (dateParse : Text → Option Int) (options : TimelineOptions) (records : List CaptureRecord) (mint : Text) : Prop :=
  ∀ record ∈ history options records mint, pointOf dateParse record = none ∧ isFailure record = false
/-- No mint is named like the one property that an assignment does not set, and two mints have one name only if
    both are silent. -/
structure Separate (dateParse : Text → Option Int) (options : TimelineOptions) (records : List CaptureRecord) : Prop where
  assigned : ∀ first ∈ firstRecords options records, symbolOf first ≠ text "__proto__"
  apart : ∀ first ∈ firstRecords options records, ∀ other ∈ firstRecords options records, first.mint ≠ other.mint →
    symbolOf first = symbolOf other → Silent dateParse options records first.mint

section
variable {dateParse : Text → Option Int} {options : TimelineOptions} {records : List CaptureRecord}

theorem silent_iff {mint : Text} : Silent dateParse options records mint ↔
    (metricsOf dateParse options records mint).observedPolls = 0 ∧
      (metricsOf dateParse options records mint).decodeErrors = 0 := by
  have polls : (metricsOf dateParse options records mint).observedPolls =
      (history options records mint).countP (fun record => (pointOf dateParse record).isSome) :=
    (List.length_reverse).trans (length_points _)
  have errors : (metricsOf dateParse options records mint).decodeErrors = (history options records mint).countP isFailure := rfl
  rw [polls, errors, List.countP_eq_zero, List.countP_eq_zero]
  simp [Silent, forall_and]
/-- A mint of which nothing is counted has the metrics of no polls. -/
theorem metrics_of_silent {mint : Text} (silent : Silent dateParse options records mint) :
    metricsOf dateParse options records mint = qualityMetrics [] (pollLines dateParse records).card 0 0 := by
  have none : pollsOf dateParse options records mint = [] := by
    unfold pollsOf points
    rw [List.filterMap_eq_nil_iff.mpr fun record member => (silent record member).1]
    rfl
  have errors : (history options records mint).countP isFailure = 0 :=
    List.countP_eq_zero.mpr fun record member => by simp [(silent record member).2]
  unfold metricsOf
  rw [none, errors]
  rfl
theorem reports_assigned (assigned : ∀ first ∈ firstRecords options records, symbolOf first ≠ text "__proto__") :
    (buildTimeline dateParse options records).bySymbol = Entries.ofLatest (reports dateParse options records) := by
  rw [bySymbol_eq]
  refine congrArg Entries.ofLatest (List.filter_eq_self.mpr fun report member => ?_)
  obtain ⟨first, inside, rfl⟩ := List.mem_map.mp member
  exact decide_eq_true (assigned first inside)
theorem separate_of_losesNothing
    (lossless : LosesNothing dateParse options records (buildTimeline dateParse options records)) :
    Separate dateParse options records := by
  have assigned : ∀ first ∈ firstRecords options records, symbolOf first ≠ text "__proto__" := by
    intro first member reserved
    have present := lossless.present first member
    rw [bySymbol_eq, get_ofLatest, reserved] at present
    have kept := (List.mem_filter.mp (mem_of_get present)).2
    simp at kept
  have found : ∀ report ∈ reports dateParse options records,
      Entries.get (reports dateParse options records) report.1 = some report.2 := by
    intro report member
    obtain ⟨first, inside, rfl⟩ := List.mem_map.mp member
    have present := lossless.present first inside
    rw [reports_assigned assigned, get_ofLatest] at present
    exact present
  have same : ∀ report ∈ reports dateParse options records, ∀ other ∈ reports dateParse options records,
      report.1 = other.1 → report.2 = other.2 := by
    intro report member other also key
    have first := found report member
    rw [key, found other also] at first
    exact (Option.some.inj first).symm
  -- Where the sums agree, nothing that counts was replaced.
  have apart (weight : QualityMetrics → Nat) (all : total weight (buildTimeline dateParse options records).bySymbol =
      total weight (reports dateParse options records)) : (reports dateParse options records).Pairwise (fun report other =>
        report.1 = other.1 → weight report.2 = 0 ∧ weight other.2 = 0) := by
    refine apart_of_replaced ?_ same
    have balance := total_ofLatest weight (reports dateParse options records)
    rw [reports_assigned assigned] at all
    omega
  have polls := apart QualityMetrics.observedPolls (lossless.polls.trans total_polls.symm)
  have errors := apart QualityMetrics.decodeErrors (by
    have counted := lossless.errors
    rw [overall_errors] at counted
    rw [total_errors]
    exact Nat.add_right_cancel counted)
  have both := polls.and errors
  unfold reports at both
  rw [List.pairwise_map] at both
  have silent : (firstRecords options records).Pairwise (fun one two => symbolOf one = symbolOf two →
      Silent dateParse options records one.mint ∧ Silent dateParse options records two.mint) := by
    refine both.imp fun pair equal => ?_
    obtain ⟨poll, otherPoll⟩ := pair.1 equal
    obtain ⟨error, otherError⟩ := pair.2 equal
    exact ⟨silent_iff.mpr ⟨poll, error⟩, silent_iff.mpr ⟨otherPoll, otherError⟩⟩
  have symmetric : Std.Symm (fun one two : CaptureObservation => symbolOf one = symbolOf two →
      Silent dateParse options records one.mint ∧ Silent dateParse options records two.mint) :=
    ⟨fun _ _ silent equal => (silent equal.symm).symm⟩
  refine ⟨assigned, fun first member other also different symbol => ?_⟩
  exact (silent.forall member also (fun equal => different (congrArg _ equal)) symbol).1
theorem losesNothing_of_separate (separate : Separate dateParse options records) :
    LosesNothing dateParse options records (buildTimeline dateParse options records) := by
  have distinct : (firstRecords options records).Pairwise (fun first other => first.mint ≠ other.mint) :=
    List.pairwise_map.mp mints_distinct
  -- Only silent mints are replaced, so nothing that counts is.
  have replacedBy (weight : QualityMetrics → Nat) (none : ∀ first ∈ firstRecords options records,
      Silent dateParse options records first.mint → weight (metricsOf dateParse options records first.mint) = 0) :
      replaced weight (reports dateParse options records) = 0 := by
    refine replaced_eq_zero ?_
    unfold reports
    rw [List.pairwise_map]
    refine distinct.imp_of_mem fun {first other} member also different symbol => ?_
    exact none other also (separate.apart other also first member different.symm symbol.symm)
  have kept (weight : QualityMetrics → Nat) (none : ∀ first ∈ firstRecords options records,
      Silent dateParse options records first.mint → weight (metricsOf dateParse options records first.mint) = 0) :
      total weight (buildTimeline dateParse options records).bySymbol = total weight (reports dateParse options records) := by
    have balance := total_ofLatest weight (reports dateParse options records)
    rw [replacedBy weight none] at balance
    rw [reports_assigned separate.assigned]
    exact balance
  refine ⟨?_, ?_, ?_⟩
  · exact (kept QualityMetrics.observedPolls fun first _ silent => (silent_iff.mp silent).1).trans total_polls
  · have errors := kept QualityMetrics.decodeErrors fun first _ silent => (silent_iff.mp silent).2
    rw [total_errors] at errors
    rw [overall_errors, ← errors]
    rfl
  · intro first member
    rw [reports_assigned separate.assigned, get_ofLatest]
    have known : (Entries.get (reports dateParse options records) (symbolOf first)).isSome := by
      rw [Option.isSome_iff_ne_none, ne_eq, get_eq_none, not_not]
      exact List.mem_map.mpr ⟨_, List.mem_map_of_mem member, rfl⟩
    obtain ⟨found, present⟩ := Option.isSome_iff_exists.mp known
    obtain ⟨other, also, report⟩ := List.mem_map.mp (mem_of_get present)
    obtain ⟨symbol, rfl⟩ := Prod.mk.inj report
    rw [present]
    by_cases same : first.mint = other.mint
    · rw [same]
    · rw [metrics_of_silent (separate.apart first member other also same symbol.symm),
        metrics_of_silent (separate.apart other also first member (Ne.symm same) symbol)]
/-- The reports lose nothing exactly where mints that have something to report have names of their own. -/
theorem loses_nothing_iff : LosesNothing dateParse options records (buildTimeline dateParse options records) ↔
    Separate dateParse options records := ⟨separate_of_losesNothing, losesNothing_of_separate⟩
end

/-- Two mints under one symbol, on one line. -/
def sharedSymbol : List CaptureRecord := [
  .observation (pollAt 1 "2026-01-01T00:00:00Z" (some "KOx") "KOx-1" (evidenceOf 6 (some 1))),
  .observation (pollAt 1 "2026-01-01T00:00:00Z" (some "KOx") "KOx-2" (evidenceOf 6 (some 1)))]
theorem shared_symbol_loses : ((buildTimeline clock ⟨none, false⟩ sharedSymbol).bySymbol.map (fun report =>
      report.2.observedPolls)).sum = 1 ∧
    ¬ LosesNothing clock ⟨none, false⟩ sharedSymbol (buildTimeline clock ⟨none, false⟩ sharedSymbol) := by
  refine ⟨by decide, fun lossless => ?_⟩
  exact absurd lossless.polls (by decide)

end EquityGuard.TimelineSymbols
