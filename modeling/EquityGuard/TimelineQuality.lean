import EquityGuard.TimelineSymbols

/-!
The grades of a timeline. Polls are taken in the order of their lines and clocks are not
checked, so what metrics say is within bounds exactly where a scope ends no earlier than
it begins and lists no more polls than there are lines.
-/
namespace EquityGuard.TimelineQuality
open EquityGuard.Capture EquityGuard.Client EquityGuard.JsonText EquityGuard.JsValue EquityGuard.Maps EquityGuard.Representations
open EquityGuard.Timeline EquityGuard.TimelineEntries EquityGuard.TimelineRuns EquityGuard.TimelineSymbols

/-! ### Metrics of a list of polls -/

/-- Metrics in their bounds, with the limit of good evidence kept in both directions of time. -/
structure WellFormed (metrics : QualityMetrics) (polls : List PollPoint) : Prop where
  observed : metrics.observedPolls ≤ metrics.totalPolls
  expected : 1 ≤ metrics.observedPolls → 1 ≤ metrics.expectedPolls
  coverage : 0 ≤ metrics.coverageBps ∧ metrics.coverageBps ≤ 10000
  near : metrics.status = .GOOD → ∀ step ∈ steps polls,
    |step.2.ms - step.1.ms| ≤ QUALITY_THRESHOLDS.goodMaxWallclockGapMs
/-- The last poll is not before the first one, and the clock steps back by more than the limit of good evidence only
    where something else is not good: a record fails, the clock steps forth by more than the limit, or fewer than 98
    in 100 of the polls due between the first and the last one are there. -/
structure ClockSteady (polls : List PollPoint) (decodeErrors : Nat) : Prop where
  forward : ∀ first ∈ polls.head?, ∀ last ∈ polls.getLast?, first.ms ≤ last.ms
  steady : (∃ step ∈ steps polls, step.1.ms - step.2.ms > QUALITY_THRESHOLDS.goodMaxWallclockGapMs) →
    decodeErrors ≠ 0 ∨ (∃ step ∈ steps polls, step.2.ms - step.1.ms > QUALITY_THRESHOLDS.goodMaxWallclockGapMs) ∨
      ∃ first ∈ polls.head?, ∃ last ∈ polls.getLast?, (polls.length : Int) * 10000 <
        QUALITY_THRESHOLDS.goodMinCoverageBps * ((last.ms - first.ms) / (CAPTURE_CADENCE_SECS * 1000) + 1)

section
variable {polls : List PollPoint} {totalPolls decodeErrors gaps : Nat}

theorem foldl_max_le {Item : Type} {weight : Item → Int} {items : List Item} {start bound : Int} :
    items.foldl (fun largest item => max largest (weight item)) start ≤ bound ↔
      start ≤ bound ∧ ∀ item ∈ items, weight item ≤ bound := by
  induction items generalizing start with
  | nil => simp
  | cons item rest ih =>
    rw [List.foldl_cons, ih, max_le_iff, List.forall_mem_cons, and_assoc]
theorem largestWallclockGapMs_le {bound : Int} (positive : 0 ≤ bound) :
    largestWallclockGapMs polls ≤ bound ↔ ∀ step ∈ steps polls, step.2.ms - step.1.ms ≤ bound := by
  unfold largestWallclockGapMs
  rw [foldl_max_le]
  exact and_iff_right positive
theorem statusOf_good {observed : Nat} {coverage largestGap : Int} :
    statusOf observed coverage largestGap decodeErrors = .GOOD ↔ 2 ≤ observed ∧ QUALITY_THRESHOLDS.goodMinCoverageBps ≤ coverage ∧
      largestGap ≤ QUALITY_THRESHOLDS.goodMaxWallclockGapMs ∧ decodeErrors = 0 := by
  have none : QUALITY_THRESHOLDS.goodMaxDecodeErrors = 0 := rfl
  unfold statusOf
  simp only [none, Nat.le_zero]
  constructor
  · intro good
    split at good
    · assumption
    · split at good <;> cases good
  · intro good
    exact if_pos good
/-- The coverage of a scope that expects a poll. -/
theorem coverageBps_eq {observed : Nat} {expected : Int} (due : 1 ≤ expected) :
    coverageBps observed expected = min 10000 (observed * 10000 / expected) := by
  unfold coverageBps
  rw [if_neg (by omega), Int.fdiv_eq_ediv_of_nonneg _ (by omega)]
theorem coverageBps_bounds {observed : Nat} {expected : Int} (due : 0 ≤ expected) :
    0 ≤ coverageBps observed expected ∧ coverageBps observed expected ≤ 10000 := by
  by_cases none : expected = 0
  · simp [coverageBps, none]
  · rw [coverageBps_eq (by omega)]
    have ratio : (0 : Int) ≤ observed * 10000 / expected := Int.ediv_nonneg (by omega) due
    omega
theorem le_coverageBps {observed : Nat} {expected : Int} (due : 1 ≤ expected) :
    QUALITY_THRESHOLDS.goodMinCoverageBps ≤ coverageBps observed expected ↔
      QUALITY_THRESHOLDS.goodMinCoverageBps * expected ≤ observed * 10000 := by
  have limit : QUALITY_THRESHOLDS.goodMinCoverageBps = 9800 := rfl
  rw [coverageBps_eq due, le_min_iff, limit, Int.le_ediv_iff_mul_le (by omega)]
  omega
theorem expectedPolls_nil : expectedPolls [] = 0 := rfl
theorem expectedPolls_of {first last : PollPoint} (begins : polls.head? = some first) (ends : polls.getLast? = some last) :
    expectedPolls polls = (last.ms - first.ms) / (CAPTURE_CADENCE_SECS * 1000) + 1 := by
  unfold expectedPolls
  rw [begins, ends]
theorem ends_of_cons (poll : PollPoint) (rest : List PollPoint) : ∃ last, (poll :: rest).getLast? = some last :=
  ⟨_, List.getLast?_eq_some_getLast (List.cons_ne_nil poll rest)⟩
theorem two_of_step {step : PollPoint × PollPoint} (member : step ∈ steps polls) : 2 ≤ polls.length := by
  have some_step := List.length_pos_of_mem member
  unfold steps at some_step
  rw [List.length_zip, List.length_tail] at some_step
  omega
/-- A scope expects at least one poll exactly if it does not end before it begins. -/
theorem expects_iff : (1 ≤ polls.length → 1 ≤ expectedPolls polls) ↔
    ∀ first ∈ polls.head?, ∀ last ∈ polls.getLast?, first.ms ≤ last.ms := by
  have cadence : CAPTURE_CADENCE_SECS * 1000 = 30000 := rfl
  cases polls with
  | nil => simp
  | cons first rest =>
    obtain ⟨last, ends⟩ := ends_of_cons first rest
    have due := @expectedPolls_of (first :: rest) first last rfl ends
    rw [due, ends, cadence]
    simp only [List.head?_cons, Option.mem_def, Option.some.injEq, forall_eq', List.length_cons]
    omega
theorem expectedPolls_nonneg (forward : ∀ first ∈ polls.head?, ∀ last ∈ polls.getLast?, first.ms ≤ last.ms) :
    0 ≤ expectedPolls polls := by
  cases polls with
  | nil => exact le_refl 0
  | cons first rest =>
    have due := expects_iff.mpr forward (by simp)
    omega
/-- The coverage falls short of what is good. -/
theorem short_iff (due : 1 ≤ expectedPolls polls) :
    coverageBps polls.length (expectedPolls polls) < QUALITY_THRESHOLDS.goodMinCoverageBps ↔ ∃ first ∈ polls.head?, ∃ last ∈ polls.getLast?, (polls.length : Int) * 10000 <
      QUALITY_THRESHOLDS.goodMinCoverageBps * ((last.ms - first.ms) / (CAPTURE_CADENCE_SECS * 1000) + 1) := by
  rw [← not_le, le_coverageBps due, not_le]
  cases polls with
  | nil =>
    rw [expectedPolls_nil] at due
    omega
  | cons first rest =>
    obtain ⟨last, ends⟩ := ends_of_cons first rest
    have expected := @expectedPolls_of (first :: rest) first last rfl ends
    rw [expected, ends]
    simp
theorem wellFormed_iff : WellFormed (qualityMetrics polls totalPolls decodeErrors gaps) polls ↔
    polls.length ≤ totalPolls ∧ ClockSteady polls decodeErrors := by
  have positive : 0 ≤ QUALITY_THRESHOLDS.goodMaxWallclockGapMs := by decide
  constructor
  · intro wellFormed
    have forward := expects_iff.mp wellFormed.expected
    refine ⟨wellFormed.observed, forward, ?_⟩
    rintro ⟨step, member, back⟩
    have two := two_of_step member
    have due := wellFormed.expected (show 1 ≤ polls.length by omega)
    by_contra fine
    rw [not_or, not_not, not_or, not_exists] at fine
    obtain ⟨clean, near, covered⟩ := fine
    have good : (qualityMetrics polls totalPolls decodeErrors gaps).status = .GOOD := by
      refine statusOf_good.mpr ⟨two, ?_, ?_, clean⟩
      · exact not_lt.mp fun short => covered ((short_iff due).mp short)
      · refine (largestWallclockGapMs_le positive).mpr fun other also => ?_
        exact not_lt.mp fun far => near other ⟨also, far⟩
    have close := abs_le.mp (wellFormed.near good step member)
    omega
  · rintro ⟨listed, clock⟩
    refine ⟨listed, expects_iff.mpr clock.forward, coverageBps_bounds (expectedPolls_nonneg clock.forward), ?_⟩
    intro good step member
    obtain ⟨two, covered, near, clean⟩ := statusOf_good.mp good
    have forth := (largestWallclockGapMs_le positive).mp near
    have due := expects_iff.mpr clock.forward (show 1 ≤ polls.length by omega)
    have back : step.1.ms - step.2.ms ≤ QUALITY_THRESHOLDS.goodMaxWallclockGapMs := by
      by_contra far
      rcases clock.steady ⟨step, member, not_le.mp far⟩ with failed | ⟨other, also, forward⟩ | short
      · exact failed clean
      · exact absurd (forth other also) (not_le.mpr forward)
      · exact absurd covered (not_le.mpr ((short_iff due).mpr short))
    exact abs_le.mpr ⟨by omega, forth step member⟩
end

/-! ### The scopes of a timeline -/

section
variable (dateParse : Text → Option Int) (options : TimelineOptions) (records : List CaptureRecord)

/-- The selected polls of all symbols, one for each line, in the order of lines. -/
def overallPolls : List PollPoint :=
  (firstPoints dateParse options records).reverse.mergeSort (fun left right => left.line ≤ right.line)
/-- The mint whose metrics stand under a symbol: of the mints with the symbol, the one met last. -/
def reportedMint (symbol : Text) : Option Text :=
  if symbol = text "__proto__" then none
  else ((firstRecords options records).find? (fun first => symbolOf first = symbol)).map CaptureObservation.mint
/-- Each metrics of a timeline is well-formed. -/
structure AllWellFormed (result : TimelineResult) : Prop where
  overall : WellFormed result.overall (overallPolls dateParse options records)
  bySymbol : ∀ symbol metrics, result.bySymbol.get symbol = some metrics → ∃ mint,
    reportedMint options records symbol = some mint ∧ WellFormed metrics (pollsOf dateParse options records mint)
/-- The polls of a mint beyond the first one of their line are no more than the lines with polls of others only. -/
def Listed (mint : Text) : Prop :=
  let lines := ((pollsOf dateParse options records mint).map PollPoint.line).toFinset
  (pollsOf dateParse options records mint).length - lines.card ≤ (pollLines dateParse records \ lines).card
/-- What the records must be like for that. -/
structure Regular : Prop where
  overall : ClockSteady (overallPolls dateParse options records)
    ((selected options records).countP isFailure + (records.filterMap lineErrorOf).length)
  mints : ∀ symbol mint, reportedMint options records symbol = some mint →
    ClockSteady (pollsOf dateParse options records mint) ((history options records mint).countP isFailure)
  listed : ∀ symbol mint, reportedMint options records symbol = some mint → Listed dateParse options records mint
end

section
variable {dateParse : Text → Option Int} {options : TimelineOptions} {records : List CaptureRecord}

theorem selected_subset {record : CaptureObservation} (member : record ∈ selected options records) :
    record ∈ records.filterMap observationOf := (List.mem_filter.mp member).1
theorem line_of_points {earlier : List CaptureObservation}
    (inside : ∀ record ∈ earlier, record ∈ selected options records) :
    ∀ point ∈ points dateParse earlier, point.line ∈ pollLines dateParse records := by
  intro point member
  obtain ⟨record, found, pointed⟩ := List.mem_filterMap.mp member
  refine List.mem_toFinset.mpr (List.mem_map_of_mem (List.mem_filterMap.mpr ⟨record, ?_, pointed⟩))
  exact selected_subset (inside record found)
theorem lines_of_mint (mint : Text) : ((pollsOf dateParse options records mint).map PollPoint.line).toFinset ⊆
    pollLines dateParse records := by
  intro line member
  obtain ⟨point, found, rfl⟩ := List.mem_map.mp (List.mem_toFinset.mp member)
  refine @line_of_points dateParse options records (history options records mint) ?_ point (List.mem_reverse.mp found)
  intro record inside
  exact (List.mem_filter.mp (List.mem_reverse.mp inside)).1
theorem listed_iff {mint : Text} : Listed dateParse options records mint ↔
    (pollsOf dateParse options records mint).length ≤ (pollLines dateParse records).card := by
  have inside := @lines_of_mint dateParse options records mint
  have most := List.toFinset_card_le ((pollsOf dateParse options records mint).map PollPoint.line)
  have fewer := Finset.card_le_card inside
  rw [List.length_map] at most
  unfold Listed
  dsimp only
  rw [Finset.card_sdiff_of_subset inside]
  omega
/-- Overall no line counts twice. -/
theorem overall_listed : (overallPolls dateParse options records).length ≤ (pollLines dateParse records).card := by
  have distinct : ((firstPoints dateParse options records).map PollPoint.line).Nodup := by
    rw [List.Nodup, List.pairwise_map]
    exact List.pairwise_pwFilter _
  have inside : ((firstPoints dateParse options records).map PollPoint.line).toFinset ⊆ pollLines dateParse records := by
    intro line member
    obtain ⟨point, found, rfl⟩ := List.mem_map.mp (List.mem_toFinset.mp member)
    refine @line_of_points dateParse options records (selected options records).reverse ?_ point (List.pwFilter_subset _ found)
    exact fun record also => List.mem_reverse.mp also
  unfold overallPolls
  have length : (firstPoints dateParse options records).length =
      ((firstPoints dateParse options records).map PollPoint.line).toFinset.card := by
    rw [List.toFinset_card_of_nodup distinct, List.length_map]
  rw [List.length_mergeSort, List.length_reverse, length]
  exact Finset.card_le_card inside
theorem overall_eq : (buildTimeline dateParse options records).overall = qualityMetrics (overallPolls dateParse options records)
    (pollLines dateParse records).card
    ((selected options records).countP isFailure + (records.filterMap lineErrorOf).length)
    (countGaps (overallPolls dateParse options records)) := by
  have polls : (Loop.run dateParse options records).polls = overallPolls dateParse options records := by
    unfold Loop.polls overallPolls
    rw [(run_gathers records).polls, List.map_map]
    congr 1
    exact List.map_id _
  have errors := @overall_errors dateParse options records
  unfold buildTimeline qualityMetrics at errors
  dsimp only at errors
  unfold buildTimeline
  dsimp only
  rw [polls, errors, (run_gathers records).lines]
/-- What is found among reports that skip a key. -/
theorem get_reports {firsts : List CaptureObservation} {reserved symbol : Text} : Entries.get ((firsts.map (fun first =>
      (symbolOf first, metricsOf dateParse options records first.mint))).filter (fun report => report.1 ≠ reserved)) symbol =
    if symbol = reserved then none
    else (firsts.find? (fun first => symbolOf first = symbol)).map (fun first =>
      metricsOf dateParse options records first.mint) := by
  induction firsts with
  | nil => simp
  | cons first earlier ih =>
    rw [List.map_cons, List.filter_cons, List.find?_cons]
    by_cases skipped : symbolOf first = reserved
    · rw [if_neg (by simpa using skipped), ih]
      by_cases own : symbol = reserved
      · rw [if_pos own, if_pos own]
      · have other : ¬ symbolOf first = symbol := fun same => own (same.symm.trans skipped)
        rw [if_neg own, if_neg own, decide_eq_false other]
    · rw [if_pos (by simpa using skipped), get_cons, ih]
      by_cases same : symbol = symbolOf first
      · have kept : ¬ symbol = reserved := fun equal => skipped (same.symm.trans equal)
        rw [if_pos same, if_neg kept, decide_eq_true same.symm]
        rfl
      · rw [if_neg same, decide_eq_false (Ne.symm same)]
theorem bySymbol_get (symbol : Text) : (buildTimeline dateParse options records).bySymbol.get symbol =
    (reportedMint options records symbol).map (metricsOf dateParse options records) := by
  rw [bySymbol_eq, get_ofLatest, reports, get_reports, reportedMint]
  by_cases reserved : symbol = text "__proto__"
  · rw [if_pos reserved, if_pos reserved]
    rfl
  · rw [if_neg reserved, if_neg reserved, Option.map_map]
    rfl
/-- Metrics are well-formed exactly where clocks and listings are regular. -/
theorem well_formed_iff : AllWellFormed dateParse options records (buildTimeline dateParse options records) ↔
    Regular dateParse options records := by
  constructor
  · intro all
    have overall := all.overall
    rw [overall_eq, wellFormed_iff] at overall
    have mints (symbol mint : Text) (reported : reportedMint options records symbol = some mint) :=
      all.bySymbol symbol (metricsOf dateParse options records mint) (by rw [bySymbol_get, reported]; rfl)
    refine ⟨overall.2, ?_, ?_⟩
    · intro symbol mint reported
      obtain ⟨other, same, wellFormed⟩ := mints symbol mint reported
      obtain rfl : mint = other := Option.some.inj (reported.symm.trans same)
      exact (wellFormed_iff.mp wellFormed).2
    · intro symbol mint reported
      obtain ⟨other, same, wellFormed⟩ := mints symbol mint reported
      obtain rfl : mint = other := Option.some.inj (reported.symm.trans same)
      exact listed_iff.mpr (wellFormed_iff.mp wellFormed).1
  · intro regular
    refine ⟨?_, ?_⟩
    · rw [overall_eq, wellFormed_iff]
      exact ⟨overall_listed, regular.overall⟩
    · intro symbol metrics present
      rw [bySymbol_get] at present
      obtain ⟨mint, reported, rfl⟩ := Option.map_eq_some_iff.mp present
      refine ⟨mint, reported, wellFormed_iff.mpr ⟨?_, regular.mints symbol mint reported⟩⟩
      exact listed_iff.mp (regular.listed symbol mint reported)
end

/-- A line that lists an account twice, and two polls of it, the second one two minutes before the first. -/
def listedTwice : Text :=
  "\x7b\"wallclock\":\"2026-01-01T00:00:00Z\",\"accounts\":[\x7b\"address\":\"KOx\"\x7d,\x7b\"address\":\"KOx\"\x7d]\x7d"
def lateLine : Text := "\x7b\"wallclock\":\"2026-01-01T00:02:00Z\",\"accounts\":[\x7b\"address\":\"KOx\"\x7d]\x7d"
def earlyLine : Text := "\x7b\"wallclock\":\"2026-01-01T00:00:00Z\",\"accounts\":[\x7b\"address\":\"KOx\"\x7d]\x7d"
def lineValue (wallclock : String) (accounts : List Value) : Value :=
  .object [("wallclock", .string wallclock), ("accounts", .array accounts)]
/-- `JSON.parse`, on these lines. -/
def parse (line : Text) : Option Value :=
  let account : Value := .object [("address", .string "KOx")]
  if line = listedTwice then some (lineValue "2026-01-01T00:00:00Z" [account, account])
  else if line = lateLine then some (lineValue "2026-01-01T00:02:00Z" [account])
  else if line = earlyLine then some (lineValue "2026-01-01T00:00:00Z" [account])
  else none
/-- What the fixtures report of their one symbol. -/
def reported (records : List CaptureRecord) : Option QualityMetrics :=
  (buildTimeline clock ⟨none, false⟩ records).bySymbol.get "KOx"
theorem reported_of_lines {Numbers : Type} {lines : List Text} {read : QualityMetrics → Numbers} {numbers : Numbers}
    (counted : ((decodeCapture parse lines).toOption.bind reported).map read = some numbers) :
    ∃ records metrics, decodeCapture parse lines = .ok records ∧ reported records = some metrics ∧ read metrics = numbers := by
  obtain ⟨metrics, known, same⟩ := Option.map_eq_some_iff.mp counted
  obtain ⟨records, decoded, present⟩ := Option.bind_eq_some_iff.mp known
  refine ⟨records, metrics, ?_, present, same⟩
  cases thrown : decodeCapture parse lines <;> rw [thrown] at decoded <;> cases decoded
  rfl
theorem metrics_out_of_bounds :
    (∃ records, decodeCapture parse [listedTwice] = .ok records ∧
      (reported records).map (fun metrics => (metrics.observedPolls, metrics.totalPolls)) = some (2, 1) ∧
      ¬ AllWellFormed clock ⟨none, false⟩ records (buildTimeline clock ⟨none, false⟩ records)) ∧
    (∃ records, decodeCapture parse [lateLine, earlyLine] = .ok records ∧
      (reported records).map (fun metrics => (metrics.expectedPolls, metrics.coverageBps)) = some (-3, -6667) ∧
      ¬ AllWellFormed clock ⟨none, false⟩ records (buildTimeline clock ⟨none, false⟩ records)) := by
  constructor
  · obtain ⟨records, metrics, decoded, present, numbers⟩ := @reported_of_lines _ [listedTwice]
      (fun metrics => (metrics.observedPolls, metrics.totalPolls)) (2, 1) (by decide +kernel)
    refine ⟨records, decoded, by rw [present, Option.map_some, numbers], fun all => ?_⟩
    obtain ⟨_, _, wellFormed⟩ := all.bySymbol "KOx" metrics present
    obtain ⟨observed, total⟩ := Prod.mk.inj numbers
    have listed := wellFormed.observed
    omega
  · obtain ⟨records, metrics, decoded, present, numbers⟩ := @reported_of_lines _ [lateLine, earlyLine]
      (fun metrics => (metrics.expectedPolls, metrics.coverageBps)) (-3, -6667) (by decide +kernel)
    refine ⟨records, decoded, by rw [present, Option.map_some, numbers], fun all => ?_⟩
    obtain ⟨_, _, wellFormed⟩ := all.bySymbol "KOx" metrics present
    obtain ⟨expected, coverage⟩ := Prod.mk.inj numbers
    have range := wellFormed.coverage.1
    omega

end EquityGuard.TimelineQuality
