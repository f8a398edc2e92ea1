import EquityGuard.Loops
import EquityGuard.MarketReplay

/-!
What a replay returns accounts for every observation and every evaluation, and it returns
exactly where the lines are in the one format that the second reading knows, their symbols
are no inherited names and no probe has a time beyond a date's.
-/
namespace EquityGuard.ReplayAccounts
open EquityGuard.Binary64 EquityGuard.Capture EquityGuard.ChainObservation EquityGuard.Client EquityGuard.ClientAbi
open EquityGuard.ClientMintState EquityGuard.Errors EquityGuard.JsonText EquityGuard.JsValue EquityGuard.Loops EquityGuard.Maps
open EquityGuard.MarketReplay EquityGuard.Records EquityGuard.Representations EquityGuard.Timeline

/-! ### Tallies -/

def Balanced (t : PairTally) : Prop := t.evaluations = t.allows + t.blocks
/-- Every tally is balanced, and the totals are the sums of the others. -/
structure Tallied (pairs : Entries (Nat × Text) PairTally) (totals : PairTally) : Prop where
  each : ∀ entry ∈ pairs, Balanced entry.2
  whole : Balanced totals
  evaluations : total PairTally.evaluations pairs = totals.evaluations
  refusals : total PairTally.authorizationRefusedAtBuild pairs = totals.authorizationRefusedAtBuild

/-- The counters that a judgement leaves alone. -/
def counters (t : PairTally) : Nat × Nat × Nat × Nat := (t.evaluations, t.authorizationRefusedAtBuild, t.allows, t.blocks)

theorem note_counters (pair : Evaluation) (kind : Text) (t : PairTally) : counters (pair.note kind t) = counters t := by
  unfold Evaluation.note
  split <;> rfl
theorem judge_counters (pair : Evaluation) (t : PairTally) : counters (pair.judge t) = counters t := by
  unfold Evaluation.judge
  dsimp only
  split
  · split
    · exact note_counters _ _ _
    · split
      · rfl
      · exact note_counters _ _ _
  · split
    · split
      · rfl
      · exact note_counters _ _ _
      · exact note_counters _ _ _
    · split
      · rfl
      · exact note_counters _ _ _
theorem count_counters (pair : Evaluation) (t : PairTally) : counters (pair.count t) =
    (t.evaluations + 1, t.authorizationRefusedAtBuild, t.allows + (if pair.verdict = none then 1 else 0),
      t.blocks + (if pair.verdict = none then 0 else 1)) := by
  unfold Evaluation.count
  dsimp only
  have judged := judge_counters pair
  split
  · rename_i allowed
    rw [if_pos allowed.1, if_pos allowed.1, if_pos allowed.1]
    exact judged _
  · by_cases allowed : pair.verdict = none
    · rw [if_pos allowed, if_pos allowed, if_pos allowed]
      exact judged _
    · rw [if_neg allowed, if_neg allowed, if_neg allowed]
      exact judged _

/-- A tally and the totals grow alike, and stay balanced. -/
structure Grown (tally totals tally' totals' : PairTally) : Prop where
  keepsTally : Balanced tally → Balanced tally'
  keepsTotals : Balanced totals → Balanced totals'
  evaluations : tally'.evaluations + totals.evaluations = tally.evaluations + totals'.evaluations
  refusals : tally'.authorizationRefusedAtBuild + totals.authorizationRefusedAtBuild =
    tally.authorizationRefusedAtBuild + totals'.authorizationRefusedAtBuild

theorem count_balanced (pair : Evaluation) {t : PairTally} (balanced : Balanced t) : Balanced (pair.count t) := by
  have counted := count_counters pair t
  simp only [counters, Prod.mk.injEq] at counted
  unfold Balanced at *
  split at counted <;> omega
theorem evaluatePair_grown {guard : GuardPolicy} {symbol : Text} {auth current : Observation} {w : ReplayWindow} {lag : Nat}
    {tally totals tally' totals' : PairTally}
    (evaluated : evaluatePair guard symbol auth current w lag tally totals = .ok (tally', totals')) :
    Grown tally totals tally' totals' := by
  obtain ⟨built, _, evaluated⟩ := bind_eq_ok.mp evaluated
  split at evaluated
  · cases evaluated
    exact ⟨id, id, rfl, by dsimp only; omega⟩
  · obtain ⟨verdict, _, evaluated⟩ := bind_eq_ok.mp evaluated
    cases evaluated
    have counted := count_counters ⟨symbol, auth, current, w, lag, verdict⟩
    simp only [counters, Prod.mk.injEq] at counted
    refine ⟨count_balanced _, count_balanced _, ?_, ?_⟩
    · rw [(counted tally).1, (counted totals).1]
      omega
    · rw [(counted tally).2.1, (counted totals).2.1]

theorem mem_set {Key Value : Type} [DecidableEq Key] {entries : Entries Key Value} {key : Key} {value : Value}
    {entry : Key × Value} (member : entry ∈ entries.set key value) : entry = (key, value) ∨ entry ∈ entries := by
  induction entries with
  | nil => exact .inl (List.mem_singleton.mp member)
  | cons first rest ih =>
    unfold Entries.set at member
    split at member
    · rcases List.mem_cons.mp member with same | later
      · exact .inl same
      · exact .inr (List.mem_cons_of_mem _ later)
    · rcases List.mem_cons.mp member with same | later
      · exact .inr (List.mem_cons.mpr (.inl same))
      · rcases ih later with same | before
        · exact .inl same
        · exact .inr (List.mem_cons_of_mem _ before)
theorem balanced_get {pairs : Entries (Nat × Text) PairTally} {totals : PairTally} (tallied : Tallied pairs totals)
    (key : Nat × Text) : Balanced ((pairs.get key).getD newTally) := by
  cases found : pairs.get key with
  | none => rfl
  | some tally => exact tallied.each (key, tally) (mem_of_get found)
/-- A tally that has grown with the totals keeps the sums. -/
theorem tallied_set {pairs : Entries (Nat × Text) PairTally} {totals tally' totals' : PairTally} {key : Nat × Text}
    (tallied : Tallied pairs totals) (grown : Grown ((pairs.get key).getD newTally) totals tally' totals') :
    Tallied (pairs.set key tally') totals' := by
  have old (weight : PairTally → Nat) (none : weight newTally = 0) :
      ((pairs.get key).map weight).getD 0 = weight ((pairs.get key).getD newTally) := by
    cases pairs.get key with
    | none => exact none.symm
    | some tally => rfl
  refine ⟨fun entry member => ?_, grown.keepsTotals tallied.whole, ?_, ?_⟩
  · rcases mem_set member with rfl | before
    · exact grown.keepsTally (balanced_get tallied key)
    · exact tallied.each entry before
  · have set := total_set PairTally.evaluations pairs key tally'
    rw [old _ rfl, tallied.evaluations] at set
    have grew := grown.evaluations
    omega
  · have set := total_set PairTally.authorizationRefusedAtBuild pairs key tally'
    rw [old _ rfl, tallied.refusals] at set
    have grew := grown.refusals
    omega
theorem evaluateAt_tallied {guard : GuardPolicy} {symbol : Text} {list : List Observation} {current : Observation} {lag : Nat}
    {counts counts' : Entries (Nat × Text) PairTally × PairTally} (tallied : Tallied counts.1 counts.2)
    (evaluated : evaluateAt guard symbol list current counts lag = .ok counts') : Tallied counts'.1 counts'.2 := by
  unfold evaluateAt at evaluated
  split at evaluated
  · cases evaluated
    exact tallied
  · refine @fold_keeps _ _ _ _ (fun _ counts => Tallied counts.1 counts.2) _ [] _ _ ?_ tallied evaluated
    rintro _ ⟨pairs, totals⟩ w next tallied run
    obtain ⟨⟨tally', totals'⟩, pair, run⟩ := bind_eq_ok.mp run
    cases run
    exact tallied_set tallied (evaluatePair_grown pair)
theorem lags_tallied {guard : GuardPolicy} {symbol : Text} {list : List Observation} {current : Observation}
    {counts counts' : Entries (Nat × Text) PairTally × PairTally} (tallied : Tallied counts.1 counts.2)
    (evaluated : REPLAY_LAGS.foldlM (evaluateAt guard symbol list current) counts = .ok counts') :
    Tallied counts'.1 counts'.2 :=
  @fold_keeps _ _ _ _ (fun _ counts => Tallied counts.1 counts.2) _ [] _ _
    (fun _ _ _ _ tallied run => evaluateAt_tallied tallied run) tallied evaluated

/-! ### What the lines are -/

/-- What is inherited by every plain object is no entry of its own. -/
def Reserved (record : CaptureObservation) : Prop := symbolOf record ∈ OBJECT_PROTOTYPE
instance : DecidablePred Reserved := fun record => inferInstanceAs (Decidable (symbolOf record ∈ OBJECT_PROTOTYPE))
/-- What decides of the probes, of an observation whose state can be verified. -/
def turnOf (record : CaptureObservation) : Option Turn :=
  match record.evidence with
  | .decodeError _ _ _ => none
  | .decoded evidence =>
    match evidence.phase, record.slot, record.blockTime with
    | some phase, some _, some _ =>
      some ⟨phase, evidence.hasScheduledChange, evidence.protectedState.newMultiplierEffectiveTimestamp⟩
    | _, _, _ => none
def turnsOf (records : List CaptureObservation) (mint : Text) : List Turn :=
  records.filterMap (fun record => if record.mint = mint then turnOf record else none)

theorem turnsOf_append (records : List CaptureObservation) (record : CaptureObservation) (mint : Text) :
    turnsOf (records ++ [record]) mint = turnsOf records mint ++ (if record.mint = mint then (turnOf record).toList else []) := by
  rw [turnsOf, List.filterMap_append, turnsOf]
  by_cases same : record.mint = mint
  · rw [if_pos same, List.filterMap_cons, if_pos same]
    cases turnOf record <;> rfl
  · rw [if_neg same, List.filterMap_cons, if_neg same]
    rfl

section
variable {jsonParse : Text → Option Value} {bufferFrom : Value → Except Thrown (List UInt8)} {guard : GuardPolicy}
variable {replay next : Replay} {line : Text} {record : CaptureObservation}

theorem turnOf_complete {evidence : ChainObservation} {phase : Numeric} {slot blockTime : Int} (kind : record.evidence = .decoded evidence)
    (phased : evidence.phase = some phase) (slotted : record.slot = some slot) (timed : record.blockTime = some blockTime) :
    turnOf record = some ⟨phase, evidence.hasScheduledChange, evidence.protectedState.newMultiplierEffectiveTimestamp⟩ := by
  rw [turnOf, kind]
  dsimp only
  rw [phased, slotted, timed]
theorem turnOf_incomplete {evidence : ChainObservation} (kind : record.evidence = .decoded evidence)
    (incomplete : ∀ phase slot blockTime, evidence.phase = some phase → record.slot = some slot →
      record.blockTime = some blockTime → False) : turnOf record = none := by
  rw [turnOf, kind]
  dsimp only
  split
  · exact (incomplete _ _ _ ‹_› ‹_› ‹_›).elim
  · rfl

/-! ### What a step does -/

theorem statsVerify_counts {s verified : SymbolStats} {evidence : ChainObservation} {phase : Numeric}
    (run : s.verify evidence phase = .ok verified) :
    verified.observations = s.observations ∧ verified.decoded = s.decoded ∧ verified.decodeFailures = s.decodeFailures := by
  obtain ⟨_, _, run⟩ := bind_eq_ok.mp run
  cases run
  exact ⟨rfl, rfl, rfl⟩
/-- A verified observation goes to the history of its mint, and is evaluated against it. -/
theorem verify_ok {s : SymbolStats} {evidence : ChainObservation} {phase : Numeric} {slot blockTime : Int}
    (run : replay.verify jsonParse bufferFrom guard line record s evidence phase slot blockTime = .ok next) :
    ∃ verified storedStates effectiveChanges list counts, ∃ current : Observation,
      s.verify evidence phase = .ok verified ∧ (∃ raw, rawOf jsonParse bufferFrom line record.mint = .ok raw) ∧
      current.turn = ⟨phase, evidence.hasScheduledChange, evidence.protectedState.newMultiplierEffectiveTimestamp⟩ ∧
      list = (replay.history.get record.mint).getD [] ++ [current] ∧
      REPLAY_LAGS.foldlM (evaluateAt guard (symbolOf record) list current) (replay.pairs, replay.totals) = .ok counts ∧
      next = { replay with
        stats := replay.stats.set (symbolOf record) verified
        storedStates
        history := replay.history.set record.mint list
        effectiveChanges
        pairs := counts.1
        totals := counts.2 } := by
  obtain ⟨verified, stats, run⟩ := bind_eq_ok.mp run
  obtain ⟨states, _, run⟩ := bind_eq_ok.mp run
  obtain ⟨raw, read, run⟩ := bind_eq_ok.mp run
  obtain ⟨counts, evaluated, run⟩ := bind_eq_ok.mp run
  cases run
  exact ⟨verified, _, _, _, counts, _, stats, ⟨raw, read⟩, rfl, rfl, evaluated, rfl⟩
theorem assign_eq (replay : Replay) (symbol : Text) (names : List String) :
    ∃ polluted, replay.assign symbol names = { replay with polluted } := by
  unfold Replay.assign
  split <;> exact ⟨_, rfl⟩

variable (jsonParse bufferFrom guard line record) in
/-- What one observation does: with an inherited name nothing of its own, else its symbol's entry is counted, and a state
    that can be verified is. -/
inductive Observed (replay : Replay) : Replay → Prop where
  | inherited {succeeded failed : Nat} {polluted : List Text} (one : succeeded + failed = 1) (reserved : Reserved record)
      (unverified : turnOf record = none) : Observed replay { replay.arrive record with
        decodeSuccesses := replay.decodeSuccesses + succeeded
        decodeFailures := replay.decodeFailures + failed
        polluted }
  | counted {succeeded failed : Nat} {s entry : SymbolStats} (found : (replay.arrive record).find record = .stats s)
      (one : succeeded + failed = 1) (unverified : turnOf record = none) (observed : entry.observations = s.observations + 1)
      (decoded : entry.decoded = s.decoded + succeeded) (undecoded : entry.decodeFailures = s.decodeFailures + failed) :
      Observed replay { replay.arrive record with
        decodeSuccesses := replay.decodeSuccesses + succeeded
        decodeFailures := replay.decodeFailures + failed
        stats := replay.stats.set (symbolOf record) entry }
  | verified {s entry : SymbolStats} {evidence : ChainObservation} {phase : Numeric} {slot blockTime : Int} {next : Replay}
      (found : (replay.arrive record).find record = .stats s)
      (run : Replay.verify jsonParse bufferFrom guard
        { replay.arrive record with decodeSuccesses := replay.decodeSuccesses + 1 }
        line record entry evidence phase slot blockTime = .ok next)
      (turned : turnOf record = some ⟨phase, evidence.hasScheduledChange, evidence.protectedState.newMultiplierEffectiveTimestamp⟩)
      (observed : entry.observations = s.observations + 1) (decoded : entry.decoded = s.decoded + 1)
      (undecoded : entry.decodeFailures = s.decodeFailures) : Observed replay next

theorem find_inherited (found : replay.find record = .inherited) : Reserved record := by
  unfold Replay.find at found
  split at found
  · cases found
  · split at found
    · assumption
    · split at found <;> cases found
theorem observe_inherited (found : (replay.arrive record).find record = .inherited)
    (run : replay.observe jsonParse bufferFrom guard line record = .ok next) :
    Observed jsonParse bufferFrom guard line record replay next := by
  have reserved := find_inherited found
  obtain ⟨polluted, assigned⟩ := assign_eq (replay.arrive record) (symbolOf record)
    ["observations", "firstWallclock", "lastWallclock", "firstSlot", "lastSlot"]
  unfold Replay.observe at run
  dsimp only at run
  rw [found] at run
  dsimp only at run
  rw [assigned] at run
  cases kind : record.evidence with
  | decodeError context code message =>
    rw [kind] at run
    obtain ⟨more, failed⟩ := assign_eq { replay.arrive record with
      polluted
      decodeFailures := replay.decodeFailures + 1 } (symbolOf record) ["decodeFailures"]
    cases failed.symm.trans (Except.ok.inj run)
    exact .inherited (Nat.zero_add 1) reserved (by rw [turnOf, kind])
  | decoded evidence =>
    rw [kind] at run
    dsimp only at run
    split at run
    · cases run
    · rename_i incomplete
      obtain ⟨more, succeeded⟩ := assign_eq { replay.arrive record with
        polluted
        decodeSuccesses := replay.decodeSuccesses + 1 } (symbolOf record) ["decoded"]
      cases succeeded.symm.trans (Except.ok.inj run)
      exact .inherited (Nat.add_zero 1) reserved (turnOf_incomplete kind incomplete)
theorem observe_stats {s : SymbolStats} (found : (replay.arrive record).find record = .stats s)
    (run : replay.observe jsonParse bufferFrom guard line record = .ok next) :
    Observed jsonParse bufferFrom guard line record replay next := by
  unfold Replay.observe at run
  dsimp only at run
  rw [found] at run
  dsimp only at run
  cases kind : record.evidence with
  | decodeError context code message =>
    rw [kind] at run
    cases run
    exact .counted found (Nat.zero_add 1) (by rw [turnOf, kind]) rfl rfl rfl
  | decoded evidence =>
    rw [kind] at run
    dsimp only at run
    split at run
    · rename_i phase slot blockTime phased slotted timed
      exact .verified found run (turnOf_complete kind phased slotted timed) rfl rfl rfl
    · cases run
      rename_i incomplete
      exact .counted found (Nat.add_zero 1) (turnOf_incomplete kind incomplete) rfl rfl rfl
theorem observe_cases (run : replay.observe jsonParse bufferFrom guard line record = .ok next) :
    Observed jsonParse bufferFrom guard line record replay next := by
  cases found : (replay.arrive record).find record with
  | primitive =>
    unfold Replay.observe at run
    dsimp only at run
    rw [found] at run
    cases run
  | inherited => exact observe_inherited found run
  | stats s => exact observe_stats found run

/-! ### The books of a replay -/

/-- The entries of the symbols have this many observations, each of them decoded or not. -/
structure Attributed (amount : Nat) (stats : Entries Text SymbolStats) : Prop where
  sum : total SymbolStats.observations stats = amount
  each : ∀ entry ∈ stats, entry.2.observations = entry.2.decoded + entry.2.decodeFailures
  own : ∀ entry ∈ stats, entry.1 ∉ OBJECT_PROTOTYPE
/-- What is kept of the observations so far. -/
structure Books (seen : List CaptureObservation) (replay : Replay) : Prop where
  counted : replay.totalObservations = seen.length
  decoded : replay.totalObservations = replay.decodeSuccesses + replay.decodeFailures
  attributed : Attributed (seen.countP (fun record => ¬ Reserved record)) replay.stats
  tallied : Tallied replay.pairs replay.totals
  turns : ∀ mint, ((replay.history.get mint).getD []).map Observation.turn = turnsOf seen mint
  mints : (replay.history.map Prod.fst).Nodup
  clean : (∀ record ∈ seen, ¬ Reserved record) → replay.polluted = []

theorem books_start : Books [] .start where
  counted := rfl
  decoded := rfl
  attributed := ⟨rfl, nofun, nofun⟩
  tallied := ⟨nofun, rfl, rfl, rfl⟩
  turns _ := rfl
  mints := .nil
  clean _ := rfl
/-- An entry that was found is an own one or new, and is counted. -/
theorem attributed_set {amount : Nat} {s counted : SymbolStats} (found : replay.find record = .stats s)
    (attributed : Attributed amount replay.stats) (observed : counted.observations = s.observations + 1)
    (each : s.observations = s.decoded + s.decodeFailures → counted.observations = counted.decoded + counted.decodeFailures) :
    ¬ Reserved record ∧ Attributed (amount + 1) (replay.stats.set (symbolOf record) counted) := by
  have known : ¬ Reserved record ∧ ((replay.stats.get (symbolOf record)).map SymbolStats.observations).getD 0 = s.observations ∧
      s.observations = s.decoded + s.decodeFailures := by
    unfold Replay.find at found
    split at found
    · rename_i stored
      cases found
      exact ⟨attributed.own _ (mem_of_get stored), by rw [stored]; rfl, attributed.each _ (mem_of_get stored)⟩
    · rename_i absent
      split at found
      · cases found
      · split at found
        · cases found
        · cases found
          exact ⟨‹_›, by rw [absent]; rfl, rfl⟩
  obtain ⟨own, before, balanced⟩ := known
  have sum := total_set SymbolStats.observations replay.stats (symbolOf record) counted
  rw [before, attributed.sum] at sum
  refine ⟨own, by omega, fun entry member => ?_, fun entry member => ?_⟩
  · rcases mem_set member with rfl | old
    · exact each balanced
    · exact attributed.each entry old
  · rcases mem_set member with rfl | old
    · exact own
    · exact attributed.own entry old
theorem turns_set {seen : List CaptureObservation} {history : Entries Text (List Observation)} {current : Observation}
    (turns : ∀ mint, ((history.get mint).getD []).map Observation.turn = turnsOf seen mint)
    (turn : turnOf record = some current.turn) (mint : Text) :
    (((history.set record.mint ((history.get record.mint).getD [] ++ [current])).get mint).getD []).map Observation.turn =
      turnsOf (seen ++ [record]) mint := by
  rw [turnsOf_append]
  by_cases same : record.mint = mint
  · subst same
    rw [if_pos rfl, get_set_self, turn, ← turns]
    simp
  · rw [if_neg same, get_set_ne _ _ (Ne.symm same), turns, List.append_nil]
theorem turnsOf_skip (seen : List CaptureObservation) (none : turnOf record = none) (mint : Text) :
    turnsOf (seen ++ [record]) mint = turnsOf seen mint := by
  rw [turnsOf_append, none]
  split <;> exact List.append_nil _
/-- One observation more, in any of the ways it can go. -/
theorem books_observe {seen : List CaptureObservation} (books : Books seen replay)
    (run : replay.observe jsonParse bufferFrom guard line record = .ok next) : Books (seen ++ [record]) next := by
  have decoded := books.decoded
  have length : (seen ++ [record]).length = seen.length + 1 := by rw [List.length_append, List.length_singleton]
  have arrived : (replay.arrive record).totalObservations = (seen ++ [record]).length := by
    rw [length, ← books.counted]
    rfl
  have kept (own : ¬ Reserved record) : (seen ++ [record]).countP (fun record => ¬ Reserved record) =
      seen.countP (fun record => ¬ Reserved record) + 1 := by
    rw [List.countP_append, List.countP_singleton, if_pos (decide_eq_true own)]
  have clean : (∀ other ∈ seen ++ [record], ¬ Reserved other) → replay.polluted = [] :=
    fun unreserved => books.clean fun other member => unreserved other (List.mem_append_left _ member)
  cases observe_cases run with
  | inherited one reserved unverified => exact {
      counted := arrived
      decoded := by
        change replay.totalObservations + 1 = _
        dsimp only
        omega
      attributed := by
        rw [List.countP_append, List.countP_singleton, if_neg (by simpa using reserved)]
        exact books.attributed
      tallied := books.tallied
      turns := fun mint => (books.turns mint).trans (turnsOf_skip seen unverified mint).symm
      mints := books.mints
      clean := fun unreserved => absurd reserved (unreserved record (by simp)) }
  | counted found one unverified observed success failure =>
    obtain ⟨own, attributed⟩ := attributed_set found books.attributed observed (fun balanced => by omega)
    exact {
      counted := arrived
      decoded := by
        change replay.totalObservations + 1 = _
        dsimp only
        omega
      attributed := kept own ▸ attributed
      tallied := books.tallied
      turns := fun mint => (books.turns mint).trans (turnsOf_skip seen unverified mint).symm
      mints := books.mints
      clean := clean }
  | verified found run turned observed success failure =>
    obtain ⟨stats, storedStates, effectiveChanges, list, counts, current, verified, _, turn, rfl, evaluated, rfl⟩ := verify_ok run
    obtain ⟨sameObserved, sameDecoded, sameFailed⟩ := statsVerify_counts verified
    obtain ⟨own, attributed⟩ := attributed_set found books.attributed (sameObserved.trans observed) (fun balanced => by omega)
    exact {
      counted := arrived
      decoded := by
        change replay.totalObservations + 1 = replay.decodeSuccesses + 1 + replay.decodeFailures
        omega
      attributed := kept own ▸ attributed
      tallied := lags_tallied books.tallied evaluated
      turns := turns_set books.turns (turned.trans (congrArg some turn.symm))
      mints := nodup_set books.mints _ _
      clean := clean }

/-! ### Lines -/

def observationsIn (records : List CaptureRecord) : List CaptureObservation :=
  records.filterMap (fun | .observation observation => some observation | .lineError _ => none)
variable (jsonParse) in
/-- What the decoder gives, which never throws. -/
def recordsOf (line : Text × Nat) : List CaptureRecord := (decodeCaptureLine jsonParse line.1 line.2).toOption.getD []
variable (jsonParse) in
def observationsOf (lines : List (Text × Nat)) : List CaptureObservation :=
  lines.flatMap (fun line => observationsIn (recordsOf jsonParse line))

theorem recordsOf_eq (line : Text × Nat) : decodeCaptureLine jsonParse line.1 line.2 = .ok (recordsOf jsonParse line) := by
  obtain ⟨records, decoded⟩ := decodeCaptureLine_returns jsonParse line.1 line.2
  rw [recordsOf, decoded]
  rfl
theorem observationsIn_append (records : List CaptureRecord) (record : CaptureRecord) :
    observationsIn (records ++ [record]) = observationsIn records ++ observationsIn [record] :=
  List.filterMap_append
theorem observationsOf_append (lines : List (Text × Nat)) (line : Text × Nat) :
    observationsOf jsonParse (lines ++ [line]) = observationsOf jsonParse lines ++ observationsIn (recordsOf jsonParse line) := by
  rw [observationsOf, List.flatMap_append, List.flatMap_singleton, observationsOf]
/-- The rest of the state is in no account. -/
theorem books_aside {seen : List CaptureObservation} (books : Books seen replay) (detector : ObservationEventDetector)
    (events : List Event) (lineErrors polls : Nat) (previousPollMs : Option Int) (largestPollGapMs : Int) :
    Books seen { replay with detector, events, lineErrors, polls, previousPollMs, largestPollGapMs } :=
  ⟨books.counted, books.decoded, books.attributed, books.tallied, books.turns, books.mints, books.clean⟩
theorem books_push {seen : List CaptureObservation} {done : List CaptureRecord} {record : CaptureRecord}
    (books : Books (seen ++ observationsIn done) replay) (run : replay.push jsonParse bufferFrom guard line record = .ok next) :
    Books (seen ++ observationsIn (done ++ [record])) next := by
  rw [observationsIn_append, ← List.append_assoc]
  cases record with
  | lineError error =>
    cases run
    rw [show observationsIn [.lineError error] = [] from rfl, List.append_nil]
    exact books_aside books _ _ _ _ _ _
  | observation observation => exact books_observe (books_aside books _ _ _ _ _ _) run
theorem books_pushes {seen : List CaptureObservation} {records : List CaptureRecord} (books : Books seen replay)
    (run : records.foldlM (Replay.push jsonParse bufferFrom guard line) replay = .ok next) :
    Books (seen ++ observationsIn records) next := by
  refine @fold_keeps _ _ _ _ (fun done replay => Books (seen ++ observationsIn done) replay) _ [] _ _ ?_ ?_ run
  · exact fun _ _ _ _ books run => books_push books run
  · exact (List.append_nil seen).symm ▸ books
theorem read_eq (dateParse : Text → Option Int) (line : Text × Nat) : replay.read jsonParse bufferFrom guard dateParse line =
    if (recordsOf jsonParse line).isEmpty then .ok replay
    else do
      let pushed ← (recordsOf jsonParse line).foldlM (Replay.push jsonParse bufferFrom guard line.1)
        { replay with polls := replay.polls + 1 }
      return pushed.poll dateParse := by
  have decoded : lift Thrown.client (decodeCaptureLine jsonParse line.1 line.2) = .ok (recordsOf jsonParse line) := by
    rw [recordsOf_eq]
    rfl
  rw [Replay.read, decoded, ok_bind]
  rfl
theorem books_read {dateParse : Text → Option Int} {done : List (Text × Nat)} {line : Text × Nat}
    (books : Books (observationsOf jsonParse done) replay) (run : replay.read jsonParse bufferFrom guard dateParse line = .ok next) :
    Books (observationsOf jsonParse (done ++ [line])) next := by
  rw [observationsOf_append]
  rw [read_eq] at run
  split at run
  · rename_i empty
    cases run
    rw [List.isEmpty_iff.mp empty]
    exact (List.append_nil _).symm ▸ books
  · obtain ⟨pushed, ran, run⟩ := bind_eq_ok.mp run
    cases run
    have books := books_pushes (books_aside books _ _ _ _ _ _) ran
    unfold Replay.poll
    split
    · exact books
    · exact books_aside books _ _ _ _ _ _
theorem books_lines {dateParse : Text → Option Int} {lines : List (Text × Nat)} {last : Replay}
    (run : lines.foldlM (Replay.read jsonParse bufferFrom guard dateParse) .start = .ok last) :
    Books (observationsOf jsonParse lines) last :=
  @fold_keeps _ _ _ _ (fun done replay => Books (observationsOf jsonParse done) replay) _ [] _ _
    (fun _ _ _ _ books run => books_read books run) books_start run

/-! ### What never throws -/

/-- The guard gives an answer under the windows of the replay. -/
def Answers (guard : GuardPolicy) : Prop :=
  ∀ w ∈ REPLAY_WINDOWS, ∀ expected phase state now, ∃ answer, guard ⟨expected, phase, w.bounds⟩ state now = .ok answer

theorem bounds_windowBound {w : ReplayWindow} (known : w ∈ REPLAY_WINDOWS) :
    WindowBound w.bounds.beforeSecs ∧ WindowBound w.bounds.afterSecs := by
  simp only [REPLAY_WINDOWS, List.mem_cons, List.not_mem_nil, or_false] at known
  rcases known with rfl | rfl | rfl
  · exact ⟨⟨0, rfl, by decide⟩, ⟨0, rfl, by decide⟩⟩
  · exact ⟨⟨900, rfl, by decide⟩, ⟨300, rfl, by decide⟩⟩
  · exact ⟨⟨86400, rfl, by decide⟩, ⟨86400, rfl, by decide⟩⟩
theorem checkGuardOffline_answers : Answers ClientOffline.checkGuardOffline := fun _ known _ _ _ _ =>
  ClientOffline.checkGuardOffline_returns (bounds_windowBound known).1 (bounds_windowBound known).2 _ _
theorem lift_ok {ε α : Type} {thrown : ε → Thrown} {program : Except ε α} (returns : ∃ value, program = .ok value) :
    ∃ value, lift thrown program = .ok value := by
  obtain ⟨value, rfl⟩ := returns
  exact ⟨value, rfl⟩
theorem classify_returns {w : ReplayWindow} (known : w ∈ REPLAY_WINDOWS) (evidence : ChainObservation)
    (classification : Entries Text (Entries RepresentationState Nat)) :
    ∃ next, classify evidence classification w = .ok next := by
  have valid : ¬ (w.beforeSecs < 0 ∨ w.afterSecs < 0) := by
    simp only [REPLAY_WINDOWS, List.mem_cons, List.not_mem_nil, or_false] at known
    rcases known with rfl | rfl | rfl <;> decide
  refine Errors.bind_returns (lift_ok ?_) fun _ => ⟨_, rfl⟩
  rw [classifyChainEvidence, assertValidPolicy, refuse_if_bind, if_neg valid]
  dsimp only
  split_ifs
  · exact ⟨_, rfl⟩
  · exact ⟨_, rfl⟩
  · split
    · exact ⟨_, rfl⟩
    · split <;> exact ⟨_, rfl⟩
/-- A fold over what is known whose steps always return. -/
theorem known_fold_returns {σ α : Type} {step : σ → α → Except Thrown σ} {items : List α}
    (returns : ∀ item ∈ items, ∀ state, ∃ next, step state item = .ok next) (state : σ) :
    ∃ last, items.foldlM step state = .ok last :=
  @fold_returns _ _ _ _ (fun _ _ => True) _ [] _ (fun _ _ _ _ _ _ => trivial)
    (fun _ item _ state split _ => returns item (split ▸ List.mem_append_right _ List.mem_cons_self) state) trivial
theorem statsVerify_returns (s : SymbolStats) (evidence : ChainObservation) (phase : Numeric) :
    ∃ verified, s.verify evidence phase = .ok verified :=
  Errors.bind_returns (known_fold_returns (fun _ known => classify_returns known evidence) _) fun _ => ⟨_, rfl⟩
theorem evaluatePair_returns (answers : Answers guard) {w : ReplayWindow} (known : w ∈ REPLAY_WINDOWS) (symbol : Text)
    (auth current : Observation) (lag : Nat) (tally totals : PairTally) :
    ∃ counts, evaluatePair guard symbol auth current w lag tally totals = .ok counts := by
  refine Errors.bind_returns (lift_ok (answers w known _ _ _ _)) fun built => ?_
  split
  · exact ⟨_, rfl⟩
  · exact Errors.bind_returns (lift_ok (answers w known _ _ _ _)) fun _ => ⟨_, rfl⟩
theorem evaluateAt_returns (answers : Answers guard) (symbol : Text) (list : List Observation) (current : Observation)
    (counts : Entries (Nat × Text) PairTally × PairTally) (lag : Nat) :
    ∃ next, evaluateAt guard symbol list current counts lag = .ok next := by
  unfold evaluateAt
  split
  · exact ⟨_, rfl⟩
  · exact known_fold_returns (fun w known _ => Errors.bind_returns (evaluatePair_returns answers known _ _ _ _ _ _)
      fun _ => ⟨_, rfl⟩) _

/-! ### What the second reading needs -/

variable (jsonParse bufferFrom) in
/-- A line of accounts, none of them missing, of which the last one of the mint has data that a buffer is made from. -/
def Readable (line mint : Text) : Prop :=
  ∃ parsed accounts, jsonParse line = some parsed ∧ parsed.get "accounts" = .array accounts ∧
    (∀ account ∈ accounts, account.isNullish = false) ∧
    ∃ data, bufferOf bufferFrom (orEmpty ((accountOf accounts mint).get "data")) = .ok data

theorem rawAccounts_eq_ok {accounts : List Value} : rawAccounts jsonParse line = .ok accounts ↔
    ∃ parsed, jsonParse line = some parsed ∧ parsed.get "accounts" = .array accounts ∧
      ∀ account ∈ accounts, account.isNullish = false := by
  unfold rawAccounts
  cases jsonParse line with
  | none => exact ⟨nofun, nofun⟩
  | some parsed =>
    rw [Option.getD_some]
    split
    · rename_i found entries
      rw [refuse_if_bind]
      by_cases missing : found.any Value.isNullish = true
      · rw [if_pos missing]
        refine ⟨nofun, ?_⟩
        rintro ⟨_, ⟨⟩, same, present⟩
        cases entries.symm.trans same
        obtain ⟨account, member, nullish⟩ := List.any_eq_true.mp missing
        exact absurd nullish (by rw [present account member]; nofun)
      · rw [if_neg missing]
        constructor
        · intro same
          cases same
          exact ⟨parsed, rfl, entries, fun account member => Bool.eq_false_iff.mpr fun nullish =>
            missing (List.any_eq_true.mpr ⟨account, member, nullish⟩)⟩
        · rintro ⟨_, ⟨⟩, same, _⟩
          cases entries.symm.trans same
          rfl
    · rename_i other
      refine ⟨nofun, ?_⟩
      rintro ⟨_, ⟨⟩, same, _⟩
      exact (other _ same).elim
theorem rawOf_returns_iff {mint : Text} :
    (∃ raw, rawOf jsonParse bufferFrom line mint = .ok raw) ↔ Readable jsonParse bufferFrom line mint := by
  constructor
  · rintro ⟨raw, run⟩
    obtain ⟨accounts, read, run⟩ := bind_eq_ok.mp run
    obtain ⟨data, made, _⟩ := bind_eq_ok.mp run
    obtain ⟨parsed, found, entries, present⟩ := rawAccounts_eq_ok.mp read
    exact ⟨parsed, accounts, found, entries, present, data, made⟩
  · rintro ⟨parsed, accounts, found, entries, present, data, made⟩
    have read := rawAccounts_eq_ok.mpr ⟨parsed, found, entries, present⟩
    exact ⟨(orEmpty ((accountOf accounts mint).get "owner"), data), by
      rw [rawOf, read, ok_bind]
      dsimp only
      rw [made, ok_bind]
      rfl⟩
theorem statesOf_returns (own : symbolOf record ∉ OBJECT_PROTOTYPE) (clean : replay.polluted = []) :
    ∃ states, replay.statesOf (symbolOf record) = .ok states := by
  unfold Replay.statesOf
  split
  · exact ⟨_, rfl⟩
  · rw [clean, if_neg (not_or.mpr ⟨own, List.not_mem_nil⟩)]
    exact ⟨_, rfl⟩
theorem verify_returns (answers : Answers guard) (own : ¬ Reserved record) (clean : replay.polluted = [])
    (readable : Readable jsonParse bufferFrom line record.mint) (s : SymbolStats) (evidence : ChainObservation) (phase : Numeric)
    (slot blockTime : Int) : ∃ next, replay.verify jsonParse bufferFrom guard line record s evidence phase slot blockTime = .ok next :=
  Errors.bind_returns (statsVerify_returns s evidence phase) fun _ =>
    Errors.bind_returns (statesOf_returns own clean) fun _ =>
      Errors.bind_returns (rawOf_returns_iff.mpr readable) fun _ =>
        Errors.bind_returns (known_fold_returns (fun lag _ counts => evaluateAt_returns answers _ _ _ counts lag) _) fun _ => ⟨_, rfl⟩
/-- Under names of their own, with what the second reading needs, an observation is taken. -/
theorem observe_returns {seen : List CaptureObservation} (answers : Answers guard) (books : Books seen replay)
    (unreserved : ∀ record ∈ seen, ¬ Reserved record) (own : ¬ Reserved record)
    (readable : turnOf record ≠ none → Readable jsonParse bufferFrom line record.mint) :
    ∃ next, replay.observe jsonParse bufferFrom guard line record = .ok next := by
  have clean := books.clean unreserved
  obtain ⟨s, found⟩ : ∃ s, (replay.arrive record).find record = .stats s := by
    unfold Replay.find
    split
    · exact ⟨_, rfl⟩
    · have named : symbolOf record ∉ OBJECT_PROTOTYPE := own
      have fresh : symbolOf record ∉ (replay.arrive record).polluted := clean.symm ▸ List.not_mem_nil
      rw [if_neg named, if_neg fresh]
      exact ⟨_, rfl⟩
  unfold Replay.observe
  dsimp only
  rw [found]
  dsimp only
  cases kind : record.evidence with
  | decodeError context code message => exact ⟨_, rfl⟩
  | decoded evidence =>
    dsimp only
    split
    · rename_i phased slotted timed
      have turned : turnOf record ≠ none := by
        rw [turnOf_complete kind phased slotted timed]
        nofun
      refine verify_returns answers own ?_ (readable turned) _ _ _ _ _
      exact clean
    · exact ⟨_, rfl⟩
/-- An observation that was taken could be read a second time, if its state can be verified. -/
theorem readable_of_observe (run : replay.observe jsonParse bufferFrom guard line record = .ok next) (turned : turnOf record ≠ none) :
    Readable jsonParse bufferFrom line record.mint := by
  cases observe_cases run with
  | inherited _ _ unverified => exact absurd unverified turned
  | counted _ _ unverified => exact absurd unverified turned
  | verified _ run =>
    obtain ⟨_, _, _, _, _, _, _, read, _⟩ := verify_ok run
    exact rawOf_returns_iff.mp read

/-! ### All lines -/

variable {dateParse : Text → Option Int} {lines : List (Text × Nat)}

theorem mem_observationsIn {records : List CaptureRecord} :
    record ∈ observationsIn records ↔ .observation record ∈ records := by
  unfold observationsIn
  rw [List.mem_filterMap]
  constructor
  · rintro ⟨other, member, same⟩
    cases other with
    | observation observation =>
      cases same
      exact member
    | lineError error => cases same
  · exact fun member => ⟨_, member, rfl⟩
theorem pushes_returns {seen : List CaptureObservation} {records : List CaptureRecord} (answers : Answers guard)
    (books : Books seen replay) (unreserved : ∀ record ∈ seen ++ observationsIn records, ¬ Reserved record)
    (readable : ∀ record ∈ observationsIn records, turnOf record ≠ none → Readable jsonParse bufferFrom line record.mint) :
    ∃ next, records.foldlM (Replay.push jsonParse bufferFrom guard line) replay = .ok next := by
  refine @fold_returns _ _ _ _ (fun done replay => Books (seen ++ observationsIn done) replay) _ [] _ ?_ ?_ ?_
  · exact fun _ _ _ _ books run => books_push books run
  · intro earlier record later state split books
    cases record with
    | lineError error => exact ⟨_, rfl⟩
    | observation observation =>
      have member : observation ∈ observationsIn records := mem_observationsIn.mpr (split ▸ by simp)
      refine observe_returns answers (books_aside books _ _ _ _ _ _) (fun other inside => unreserved other ?_)
        (unreserved _ (List.mem_append_right _ member)) (readable _ member)
      rcases List.mem_append.mp inside with before | within
      · exact List.mem_append_left _ before
      · exact List.mem_append_right _ (mem_observationsIn.mpr
          (split ▸ List.mem_append_left _ (mem_observationsIn.mp within)))
  · exact (List.append_nil seen).symm ▸ books
theorem read_returns {seen : List CaptureObservation} {line : Text × Nat} (answers : Answers guard) (books : Books seen replay)
    (unreserved : ∀ record ∈ seen ++ observationsIn (recordsOf jsonParse line), ¬ Reserved record)
    (readable : ∀ record ∈ observationsIn (recordsOf jsonParse line), turnOf record ≠ none →
      Readable jsonParse bufferFrom line.1 record.mint) :
    ∃ next, replay.read jsonParse bufferFrom guard dateParse line = .ok next := by
  rw [read_eq]
  split
  · exact ⟨_, rfl⟩
  · exact Errors.bind_returns (pushes_returns answers (books_aside books _ _ _ _ _ _) unreserved readable) fun _ => ⟨_, rfl⟩
theorem lines_return (answers : Answers guard) (unreserved : ∀ record ∈ observationsOf jsonParse lines, ¬ Reserved record)
    (readable : ∀ line ∈ lines, ∀ record ∈ observationsIn (recordsOf jsonParse line), turnOf record ≠ none →
      Readable jsonParse bufferFrom line.1 record.mint) :
    ∃ last, lines.foldlM (Replay.read jsonParse bufferFrom guard dateParse) .start = .ok last := by
  refine @fold_returns _ _ _ _ (fun done replay => Books (observationsOf jsonParse done) replay) _ [] _ ?_ ?_ books_start
  · exact fun _ _ _ _ books run => books_read books run
  · intro earlier line later state split books
    refine read_returns answers books (fun record member => unreserved record ?_)
      (readable line (split ▸ List.mem_append_right _ List.mem_cons_self))
    rw [← observationsOf_append] at member
    obtain ⟨one, before, within⟩ := List.mem_flatMap.mp member
    refine List.mem_flatMap.mpr ⟨one, ?_, within⟩
    rw [split, List.append_cons]
    exact List.mem_append_left _ before
theorem readable_of_lines {last : Replay} (run : lines.foldlM (Replay.read jsonParse bufferFrom guard dateParse) .start = .ok last)
    {line : Text × Nat} (member : line ∈ lines) (within : record ∈ observationsIn (recordsOf jsonParse line))
    (turned : turnOf record ≠ none) : Readable jsonParse bufferFrom line.1 record.mint := by
  obtain ⟨before, next, read⟩ := fold_steps run member
  rw [read_eq] at read
  have inside := mem_observationsIn.mp within
  rw [if_neg (by rw [List.isEmpty_iff]; exact List.ne_nil_of_mem inside)] at read
  obtain ⟨_, pushes, _⟩ := bind_eq_ok.mp read
  obtain ⟨_, _, pushed⟩ := fold_steps pushes inside
  exact readable_of_observe pushed turned
end

/-! ### Dates -/

/-- A date is printed of a time of at most a hundred million days from the epoch. -/
theorem isoTime_returns_iff (t : Int) : (∃ time, isoTime t = .ok time) ↔ t.natAbs ≤ 8640000000000 := by
  have within : (∃ time, isoTime t = .ok time) ↔ (toDouble (toDouble t * 1000)).natAbs ≤ 8640000000000000 := by
    unfold isoTime
    dsimp only
    rw [refuse_if_bind]
    split
    · exact ⟨nofun, fun small => by omega⟩
    · exact ⟨fun _ => by omega, fun _ => ⟨_, rfl⟩⟩
  rw [within]
  by_cases small : t.natAbs < 2 ^ 53
  · rw [toDouble_small small]
    by_cases exact : (t * 1000).natAbs < 2 ^ 53
    · rw [toDouble_small exact]
      omega
    · have large := toDouble_large (Nat.le_of_not_lt exact)
      omega
  · have large := toDouble_large (Nat.le_of_not_lt small)
    have larger : 2 ^ 53 ≤ (toDouble t * 1000).natAbs := by omega
    have largest := toDouble_large larger
    omega
theorem findTurn_map {Item : Type} (turn : Item → Turn) (list : List Item) :
    findTurn id (list.map turn) = (findTurn turn list).map turn := by
  fun_induction findTurn turn list with
  | case1 next o rest found =>
    rw [List.map_cons, List.map_cons, findTurn]
    exact if_pos found
  | case2 next o rest missed ih =>
    rw [List.map_cons, List.map_cons, findTurn]
    exact (if_neg missed).trans ih
  | case3 list short =>
    cases list with
    | nil => rfl
    | cons first rest =>
      cases rest with
      | nil => rfl
      | cons second rest => exact (short _ _ _ rfl).elim
theorem lastPending_map {Item : Type} (turn : Item → Turn) (list : List Item) :
    lastPending id (list.map turn) = (lastPending turn list).map turn := by
  rw [lastPending, ← List.map_reverse, findTurn_map, lastPending]

/-! ### The report -/

/-- The last pending state that was scheduled and directly activated has a date. -/
def Dated (turns : List Turn) : Prop := ∀ turn, lastPending id turns = some turn → turn.activation.natAbs ≤ 8640000000000

section
variable {guard : GuardPolicy}

theorem boundaries_returns (answers : Answers guard) (history : Entries Text (List Observation)) (symbols : Entries Text Text)
    (events : List Event) : ∃ found, boundaries guard history symbols events = .ok found := by
  refine Errors.bind_returns (mapM_returns fun event _ => ?_) fun _ => ⟨_, rfl⟩
  unfold boundaryOf
  split
  · exact ⟨_, rfl⟩
  · refine Errors.bind_returns (mapM_returns fun w known => ?_) fun _ => ⟨_, rfl⟩
    exact Errors.bind_returns (lift_ok (answers w known _ _ _ _)) fun _ =>
      Errors.bind_returns (lift_ok (answers w known _ _ _ _)) fun _ => ⟨_, rfl⟩
theorem scheduledProbe_returns_iff (answers : Answers guard) (symbols : Entries Text Text) (entry : Text × List Observation) :
    (∃ probe, scheduledProbe guard symbols entry = .ok probe) ↔ Dated (entry.2.map Observation.turn) := by
  unfold Dated scheduledProbe
  rw [lastPending_map]
  cases found : lastPending Observation.turn entry.2 with
  | none => exact ⟨fun _ => nofun, fun _ => ⟨none, rfl⟩⟩
  | some pending =>
    constructor
    · rintro ⟨probe, run⟩ turn ⟨⟩
      obtain ⟨probes, _, run⟩ := bind_eq_ok.mp run
      obtain ⟨time, dated, _⟩ := bind_eq_ok.mp run
      exact (isoTime_returns_iff _).mp ⟨time, dated⟩
    · intro dated
      refine Errors.bind_returns (mapM_returns fun w known => ?_) fun _ =>
        Errors.bind_returns ((isoTime_returns_iff _).mpr (dated _ rfl)) fun _ => ⟨_, rfl⟩
      exact Errors.bind_returns (lift_ok (answers w known _ _ _ _)) fun _ =>
        Errors.bind_returns (lift_ok (answers w known _ _ _ _)) fun _ =>
          Errors.bind_returns (lift_ok (answers w known _ _ _ _)) fun _ => ⟨_, rfl⟩
theorem report_returns_iff (answers : Answers guard) (expected : List ExpectedTransition) (replay : Replay) :
    (∃ report, replay.report guard expected = .ok report) ↔ ∀ entry ∈ replay.history, Dated (entry.2.map Observation.turn) := by
  constructor
  · rintro ⟨report, run⟩ entry member
    obtain ⟨_, _, run⟩ := bind_eq_ok.mp run
    obtain ⟨_, probed, _⟩ := bind_eq_ok.mp run
    obtain ⟨_, probed, _⟩ := bind_eq_ok.mp probed
    exact (scheduledProbe_returns_iff answers replay.symbols entry).mp (mapM_each probed member)
  · intro dated
    refine Errors.bind_returns (boundaries_returns answers _ _ _) fun _ => Errors.bind_returns ?_ fun _ => ⟨_, rfl⟩
    exact Errors.bind_returns (mapM_returns fun entry member =>
      (scheduledProbe_returns_iff answers _ _).mpr (dated entry member)) fun _ => ⟨_, rfl⟩
end

/-- A report in which the counters agree: the observations with their outcomes, in all and by symbol, and the evaluations
    with theirs, in all and by lag and window. -/
structure Accounted (report : ChainReplay) : Prop where
  decoded : report.totalObservations = report.decodeSuccesses + report.decodeFailures
  attributed : total SymbolStats.observations report.bySymbol = report.totalObservations
  each : ∀ entry ∈ report.bySymbol, entry.2.observations = entry.2.decoded + entry.2.decodeFailures
  tallied : Tallied report.pairs report.totals

theorem bySymbol_counts (replay : Replay) : replay.bySymbol.map (fun entry => (entry.2.observations, entry.2.decoded,
    entry.2.decodeFailures)) = replay.stats.map (fun entry => (entry.2.observations, entry.2.decoded, entry.2.decodeFailures)) := by
  rw [Replay.bySymbol, List.map_map]
  refine List.map_congr_left fun entry _ => ?_
  dsimp only [Function.comp]
  split <;> rfl
/-- The books of a replay are the accounts of its report, except for what went to inherited names. -/
theorem accounted_iff {guard : GuardPolicy} {expected : List ExpectedTransition} {seen : List CaptureObservation} {replay : Replay}
    {report : ChainReplay} (books : Books seen replay) (run : replay.report guard expected = .ok report) :
    Accounted report ↔ ∀ record ∈ seen, ¬ Reserved record := by
  obtain ⟨_, _, run⟩ := bind_eq_ok.mp run
  obtain ⟨_, _, run⟩ := bind_eq_ok.mp run
  cases run
  have counts := bySymbol_counts replay
  have sum : total SymbolStats.observations replay.bySymbol = seen.countP (fun record => ¬ Reserved record) := by
    have same := congrArg (fun counts => (counts.map Prod.fst).sum) counts
    rw [List.map_map, List.map_map] at same
    exact same.trans books.attributed.sum
  have all : seen.countP (fun record => ¬ Reserved record) = seen.length ↔ ∀ record ∈ seen, ¬ Reserved record := by
    rw [List.countP_eq_length]
    simp only [decide_eq_true_eq]
  rw [← all, ← books.counted, ← sum]
  constructor
  · exact fun accounted => accounted.attributed
  · intro attributed
    refine ⟨books.decoded, attributed, fun entry member => ?_, books.tallied⟩
    have counted := List.mem_map_of_mem (f := fun entry : Text × SymbolStats =>
      (entry.2.observations, entry.2.decoded, entry.2.decodeFailures)) member
    rw [counts] at counted
    obtain ⟨own, stored, same⟩ := List.mem_map.mp counted
    have balanced := books.attributed.each own stored
    simp only [Prod.mk.injEq] at same
    omega

/-! ### When all is accounted for -/

section
-- `Buffer.from` of what is no string, and `Date.parse`.
variable (jsonParse : Text → Option Value) (bufferFrom : Value → Except Thrown (List UInt8)) (dateParse : Text → Option Int)

/-- What the lines have to be: no symbol is an inherited name, a state that can be verified is in a line that can be read a
    second time, and a time that is probed has a date. -/
structure Replayable (lines : List Text) : Prop where
  named : ∀ record ∈ observationsOf jsonParse (lines.zipIdx 1), ¬ Reserved record
  readable : ∀ line ∈ lines.zipIdx 1, ∀ record ∈ observationsIn (recordsOf jsonParse line), turnOf record ≠ none →
    Readable jsonParse bufferFrom line.1 record.mint
  dated : ∀ mint, Dated (turnsOf (observationsOf jsonParse (lines.zipIdx 1)) mint)

/-- The histories are the states of the mints. -/
theorem dated_iff {seen : List CaptureObservation} {replay : Replay} (books : Books seen replay) :
    (∀ entry ∈ replay.history, Dated (entry.2.map Observation.turn)) ↔ ∀ mint, Dated (turnsOf seen mint) := by
  constructor
  · intro dated mint
    rw [← books.turns mint]
    cases found : replay.history.get mint with
    | none => exact nofun
    | some list => exact dated _ (mem_of_get found)
  · rintro dated ⟨mint, list⟩ member
    have known := books.turns mint
    rw [get_of_mem books.mints member] at known
    exact known ▸ dated mint
/-- A replay under the guard's own policy returns a report that accounts for everything exactly where the lines are
    replayable. -/
theorem replay_accounts_iff (lines : List Text) (expected : Option (List ExpectedTransition)) :
    (∃ report, replayChain jsonParse bufferFrom dateParse lines ⟨expected, none⟩ = .ok report ∧ Accounted report) ↔
      Replayable jsonParse bufferFrom lines := by
  have answers := checkGuardOffline_answers
  constructor
  · rintro ⟨report, run, accounted⟩
    obtain ⟨replay, read, run⟩ := bind_eq_ok.mp run
    have books := books_lines read
    exact {
      named := (accounted_iff books run).mp accounted
      readable := fun line member record within turned => readable_of_lines read member within turned
      dated := (dated_iff books).mp ((report_returns_iff answers _ replay).mp ⟨report, run⟩) }
  · intro replayable
    obtain ⟨replay, read⟩ := lines_return answers replayable.named replayable.readable
    have books := books_lines read
    obtain ⟨report, run⟩ := (report_returns_iff answers (expected.getD EXPECTED_TRANSITIONS) replay).mpr
      ((dated_iff books).mpr replayable.dated)
    exact ⟨report, bind_eq_ok.mpr ⟨replay, read, run⟩, (accounted_iff books run).mpr replayable.named⟩
end

/-- A line of the repository's recorder, and a poll that asked for an inherited name. -/
def recorderData : Text := (Base64.digitsOf Guard.splitMint).map (fun digit => UInt16.ofNat (Base64.letterOf digit).toNat) ++ text "=="
def recorderLine : Text :=
  text "\x7b\"schemaVersion\":1,\"capturedAt\":\"2026-01-01T00:00:00Z\",\"slot\":1,\"blockTime\":0,\"symbol\":\"KOx\"," ++
    text "\"mint\":\"XsMint\",\"exists\":true,\"owner\":\"" ++ text TOKEN_2022_PROGRAM_ADDRESS.text ++
    text "\",\"dataBase64\":\"" ++ recorderData ++ text "\"\x7d"
def recorderValue : Value := .object [("schemaVersion", .number (.finite 1)), ("capturedAt", .string "2026-01-01T00:00:00Z"),
  ("slot", .number (.finite 1)), ("blockTime", .number (.finite 0)), ("symbol", .string "KOx"), ("mint", .string "XsMint"),
  ("exists", .boolean true), ("owner", .string (text TOKEN_2022_PROGRAM_ADDRESS.text)), ("dataBase64", .string recorderData)]
def inheritedLine : Text := text "\x7b\"accounts\":[\x7b\"address\":\"constructor\"\x7d]\x7d"
/-- `JSON.parse`, on these lines. -/
def parse (line : Text) : Option Value :=
  if line = recorderLine then some recorderValue
  else if line = inheritedLine then some (.object [("accounts", .array [.object [("address", .string "constructor")]])])
  else none
/-- `Buffer.from` of what is no string, and `Date.parse` of an empty one. -/
def noBuffer (_ : Value) : Except Thrown (List UInt8) := .error .TypeError
def noDate (_ : Text) : Option Int := none

theorem bufferFromBase64_recorderData : bufferFromBase64 recorderData = Guard.splitMint := by
  rw [bufferFromBase64, lettersOf, Base64.decode, String.toList_ofList]
  decide +kernel
/-- What is observed of the recorder's account. -/
def recorderObservation : ChainObservation :=
  { observationWith Guard.twoForOneSplit with
    slot := some 1
    blockTime := some 0
    observedAt := some "2026-01-01T00:00:00Z" }
theorem recorder_observed : observeMintAccount ⟨⟨"XsMint", some 1, some 0, some "2026-01-01T00:00:00Z"⟩,
    lettersOf (text TOKEN_2022_PROGRAM_ADDRESS.text), bufferFromBase64 recorderData, some 0⟩ =
    .ok (.decoded recorderObservation) := by
  have owner : lettersOf (text TOKEN_2022_PROGRAM_ADDRESS.text) = TOKEN_2022_PROGRAM_ADDRESS.text := by decide +kernel
  have state : decodeProtectedState TOKEN_2022_PROGRAM_ADDRESS.text Guard.splitMint = .ok (ofProtectedState Guard.twoForOneSplit) := by
    decide +kernel
  have metadata : decodeMintMetadata TOKEN_2022_PROGRAM_ADDRESS.text Guard.splitMint = .ok ⟨0, none⟩ := by decide +kernel
  rw [owner, bufferFromBase64_recorderData]
  unfold observeMintAccount decodeObservation
  rw [state, ok_bind, metadata]
  rfl
theorem decodeAccount_present {mint : Text} (named : mint ≠ []) (lineNumber : Nat) (wallclock symbol issuer : Option Text)
    (slot blockTime : Option Int) (owner data : Text) : decodeAccount lineNumber wallclock slot blockTime
      ⟨symbol, issuer, .string mint, .boolean true, .string owner, .string data, .string "base64"⟩ = (do
        let evidence ← observeMintAccount
          ⟨⟨mint, slot, blockTime, wallclock⟩, lettersOf owner, bufferFromBase64 data, blockTime⟩
        return .observation ⟨lineNumber, wallclock, slot, blockTime, symbol, issuer, mint, evidence⟩) := by
  cases mint with
  | nil => exact absurd rfl named
  | cons unit units =>
    unfold decodeAccount
    dsimp only
    rw [if_pos rfl]
theorem recorder_turns : ∃ record ∈ observationsIn (recordsOf parse (recorderLine, 1)), turnOf record ≠ none := by
  have visible : ¬ IsBlank recorderLine := by
    have brace : (123 : UInt16) ∈ recorderLine := by
      unfold recorderLine
      simp only [List.append_assoc]
      exact List.mem_append_left _ (by decide +kernel)
    exact fun blank => absurd (blank 123 brace) (by decide)
  have parsed : parse recorderLine = some recorderValue := if_pos rfl
  have decoded : decodeCaptureLine parse recorderLine 1 = .ok [.observation ⟨1, some "2026-01-01T00:00:00Z", some 1, some 0,
      some "KOx", none, "XsMint", .decoded recorderObservation⟩] := by
    unfold decodeCaptureLine
    rw [if_neg visible, parsed]
    change (do
      return [← decodeAccount 1 (some "2026-01-01T00:00:00Z") (some 1) (some 0) ⟨some "KOx", none, .string "XsMint", .boolean true,
        .string (text TOKEN_2022_PROGRAM_ADDRESS.text), .string recorderData, .string "base64"⟩]) = _
    rw [decodeAccount_present (by decide +kernel), recorder_observed]
    rfl
  rw [recordsOf, decoded]
  exact ⟨_, List.mem_singleton_self _, nofun⟩
/-- The recorder's line makes the replay throw, and a poll of an inherited name is in no symbol's count. -/
theorem replay_misses_lines :
    (¬ ∃ report, replayChain parse noBuffer noDate [recorderLine] ⟨none, none⟩ = .ok report) ∧
      ∃ report, replayChain parse noBuffer noDate [inheritedLine] ⟨none, none⟩ = .ok report ∧ ¬ Accounted report := by
  constructor
  · rintro ⟨report, run⟩
    obtain ⟨replay, read, _⟩ := bind_eq_ok.mp run
    obtain ⟨record, within, turned⟩ := recorder_turns
    obtain ⟨parsed, accounts, known, listed, _⟩ := readable_of_lines read (List.mem_singleton_self _) within turned
    cases (show parse recorderLine = some recorderValue from if_pos rfl).symm.trans known
    cases (show recorderValue.get "accounts" = .undefined from rfl).symm.trans listed
  · have counts : (replayChain parse noBuffer noDate [inheritedLine] ⟨none, none⟩).toOption.map (fun report =>
        (report.totalObservations, total SymbolStats.observations report.bySymbol)) = some (1, 0) := by decide +kernel
    cases run : replayChain parse noBuffer noDate [inheritedLine] ⟨none, none⟩ with
    | error error =>
      rw [run] at counts
      cases counts
    | ok report =>
      rw [run] at counts
      refine ⟨report, rfl, fun accounted => ?_⟩
      have attributed := accounted.attributed
      obtain ⟨observed, sum⟩ := Prod.mk.inj (Option.some.inj counts)
      omega

end EquityGuard.ReplayAccounts
