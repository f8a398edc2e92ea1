import EquityGuard.CaptureIsolation
import EquityGuard.FileServer
import EquityGuard.Fips180

/-!
Runs of the analysis tools beside the recorder. Whatever is done between their requests,
what the tools did not make is as if they were not there. A copy that one of them returned
stays as it was sealed, with bytes that stood in its source; one that fails for a reason of
its own leaves nothing behind.
-/
namespace EquityGuard.CaptureRuns
open EquityGuard.CaptureIsolation EquityGuard.ExtractWindow EquityGuard.FileServer EquityGuard.FileStore EquityGuard.JsonText
open EquityGuard.JsValue EquityGuard.Runs EquityGuard.Scripts EquityGuard.Scripts.Script

/-! ### What is read -/

/-- What a path may be taken for. -/
def Leads (host : Host) (path name : Text) : Prop := name = host.locate path ∨ name = host.resolve path
/-- A name that no protected path was taken for. -/
def Unprotected (host : Host) (env : Option Text) (name : Text) : Prop :=
  ∀ path ∈ protectedCapturePaths host env, ∃ other, Leads host path other ∧ other ≠ name

section
variable {host : Host} {script : Nat} {store : Store Text} {Result : Type} {promised : Except Failure Result → Store Text → Prop}

theorem safe_canonical {path : Text} {next : Text → Tool Result}
    (rest : ∀ name after, Leads host path name → Rely script store after →
      Safe (sharing host.locate Failure.IsSystem) script promised (next name) after) :
    Safe (sharing host.locate Failure.IsSystem) script promised (canonical host path >>= next) store := by
  show Safe _ _ _ (Script.ask (Request.realpath path) _) store
  refine safe_read trivial ?_ ?_
  · exact fun _ after _ relied => rest _ after (.inr rfl) relied
  · rintro name after relied ⟨_, same | ⟨_, _, refused⟩⟩
    · cases same
      exact rest _ after (.inl rfl) relied
    · cases refused
theorem safe_assertNotProtected {path : Text} {env : Option Text} {next : Text → Tool Result}
    (failed : ∀ failure after, Rely script store after → promised (.error failure) after)
    (rest : ∀ input after, Leads host path input → Unprotected host env input → Rely script store after →
      Safe (sharing host.locate Failure.IsSystem) script promised (next input) after) :
    Safe (sharing host.locate Failure.IsSystem) script promised (assertNotProtected host path env >>= next) store := by
  unfold assertNotProtected
  rw [bind_assoc]
  refine safe_canonical fun input first leads relied => ?_
  rw [bind_assoc]
  have checked (paths : List Text) : ∀ between, Rely script store between →
      ((∀ path ∈ paths, ∃ other, Leads host path other ∧ other ≠ input) → Unprotected host env input) →
      Safe (sharing host.locate Failure.IsSystem) script promised (paths.forM (fun protectedPath => do
        let other ← canonical host protectedPath
        require (other ≠ input) (isolationError [input, " is a protected live capture path; use the backup instead"])) >>=
          fun _ => next input) between := by
    induction paths with
    | nil => exact fun between relied known => rest input between leads (known (by simp)) relied
    | cons protectedPath paths ih =>
      intro between relied known
      show Safe _ _ _ (((canonical host protectedPath >>= _) >>= fun _ => paths.forM _) >>= _) between
      rw [bind_assoc, bind_assoc]
      refine safe_canonical fun other named leadsTo more => ?_
      refine Safe.bind (Safe.require ?_ ?_)
      · intro apart later still
        refine ih later ((relied.trans more).trans still) fun others => known ?_
        simpa using ⟨⟨other, leadsTo, apart⟩, others⟩
      · exact fun _ later still => failed _ later ((relied.trans more).trans still)
  exact checked _ first relied id
theorem safe_assertSafeCaptureInput {path : Text} {env : Option Text} {next : Text → Tool Result}
    (failed : ∀ failure after, Rely script store after → promised (.error failure) after)
    (rest : ∀ input after, Leads host path input → Unprotected host env input → Rely script store after →
      Safe (sharing host.locate Failure.IsSystem) script promised (next input) after) :
    Safe (sharing host.locate Failure.IsSystem) script promised (assertSafeCaptureInput host path env >>= next) store := by
  obtain ⟨checked, checks, same⟩ := assertSafeCaptureInput_eq host path env
  rw [same, bind_assoc]
  refine safe_assertNotProtected failed fun input first leads unprotected relied => ?_
  refine safe_after_reads (checks input).1 (checks input).2 ?_ ?_
  · exact fun failure after more => failed failure after (relied.trans more)
  · rintro _ after rfl more
    exact rest _ after leads unprotected (relied.trans more)
end

/-! ### What is promised -/

/-- What a tool makes of the bytes of its source: a copy, and the manifest of it. -/
inductive Makes (host : Host) (source : Text) (bytes : List UInt8) : Task → List UInt8 → SealedManifest → Prop
  | snapshot (arguments : SnapshotArguments) (createdMs mtimeMs : Int) : Makes host source bytes (.snapshot arguments) bytes
      (sealedManifest host .captureSnapshot (snapshotFields host source bytes createdMs mtimeMs) bytes)
  | xstocksApiSnapshot (arguments : SnapshotArguments) (createdMs mtimeMs : Int) :
      Makes host source bytes (.xstocksApiSnapshot arguments) bytes
        (sealedManifest host .xstocksApiSnapshot (snapshotFields host source bytes createdMs mtimeMs) bytes)
  | extractWindow (arguments : WindowArguments) (window : Window) (copy : List UInt8)
      (extracted : ExtractWindow.runExtractWindow host.jsonParse host.dateParse arguments.query bytes = .ok (window, copy)) :
      Makes host source bytes (.extractWindow arguments) copy
        (sealedManifest host .captureWindow (windowFields host source bytes arguments window) copy)
/-- A copy stands at a path and its manifest beside it, both read-only. -/
def Sealed (host : Host) (store : Store Text) (path : Text) (manifest : SealedManifest) (copy : List UInt8) : Prop :=
  ∃ (number other : Nat) (file sidecar : File), other ≠ number ∧
    store.found (host.locate path) = some (number, file) ∧ file.content = copy ∧ file.mode = READ_ONLY_MODE ∧
    store.found (host.locate (path ++ MANIFEST_SUFFIX)) = some (other, sidecar) ∧
    sidecar.content = sidecarBytes host manifest ∧ sidecar.mode = READ_ONLY_MODE
/-- Bytes that begin with what stood at a place before, and that what stands there begins with. -/
def Between (before : View Text) (place : Text) (bytes : List UInt8) (store : Store Text) : Prop :=
  ∀ number file, before place = some (number, file) →
    file.content <+: bytes ∧ ∃ grown, store.held none place = some (number, grown) ∧ bytes <+: grown.content
/-- A copy that a tool returned, as it stands. -/
structure Delivered (host : Host) (before : View Text) (invocation : Invocation) (path : Text) (manifest : SealedManifest)
    (source : Text) (bytes copy : List UInt8) (store : Store Text) : Prop where
  leads : ∃ given, invocation.task.input = some given ∧ Leads host given source
  unprotected : Unprotected host invocation.env source
  made : Makes host source bytes invocation.task copy manifest
  sealed : Sealed host store path manifest copy
  between : Between before (host.locate source) bytes store
def Promised (host : Host) (before : View Text) (invocation : Invocation) (number : Nat) :
    Except Failure Outcome → Store Text → Prop
  | .ok (.sealed path manifest), store => ∃ source bytes copy, Delivered host before invocation path manifest source bytes copy store
  | .ok .printed, _ => ¬ invocation.task.Seals
  | .error failure, store => invocation.task.Seals → failure.IsSystem ∨ store.held (some number) = fun _ => none
/-- A script has made nothing yet, and what no tool made has grown at most. -/
def Ready (before : View Text) (number : Nat) (store : Store Text) : Prop :=
  (store.held (some number) = fun _ => none) ∧ before.Grows (store.held none)

section
variable {host : Host} {before : View Text} {invocation : Invocation} {script : Nat} {store after : Store Text}

theorem Ready.relied (ready : Ready before script store) (relied : Rely script store after) : Ready before script after :=
  ⟨relied.1.trans ready.1, ready.2.trans relied.2⟩
/-- Whoever fails before it made anything leaves nothing. -/
theorem Ready.failed (ready : Ready before script store) (failure : Failure) (after : Store Text) (relied : Rely script store after) :
    Promised host before invocation script (.error failure) after :=
  fun _ => .inr (ready.relied relied).1
theorem sealed_of_holds {path : Text} {manifest : SealedManifest} {copy : List UInt8}
    (holds : Holds host store script path manifest copy) : Sealed host store path manifest copy := by
  obtain ⟨number, other, file, sidecar, different, apart, content, mode, about, beside, both⟩ := holds
  have copied : store.held (some script) (host.locate path) = some (number, file) := by
    rw [both, Function.update_of_ne apart.symm, Function.update_self]
  have described : store.held (some script) (host.locate (path ++ MANIFEST_SUFFIX)) = some (other, sidecar) := by
    rw [both, Function.update_self]
  exact ⟨number, other, file, sidecar, different, (held_eq_some.mp copied).1, content, mode, (held_eq_some.mp described).1, about, beside⟩

/-- What is read of a file that has grown at most. -/
theorem between_read (ready : Ready before script store) {place : Text} {number : Nat} {file : File}
    (found : store.found place = some (number, file)) : Between before place file.content store := by
  intro known earlier stood
  obtain ⟨grown, stands, begins⟩ := ready.2 place known earlier stood
  obtain ⟨rfl, rfl⟩ := Prod.mk.inj (Option.some.inj ((held_eq_some.mp stands).1.symm.trans found))
  exact ⟨begins, grown, stands, List.prefix_refl _⟩
theorem Between.grows {place : Text} {bytes : List UInt8} (between : Between before place bytes store)
    (grows : View.Grows (store.held none) (after.held none)) : Between before place bytes after := by
  intro number file stood
  obtain ⟨begins, grown, stands, further⟩ := between number file stood
  obtain ⟨more, there, last⟩ := grows place number grown stands
  exact ⟨begins, more, there, further.trans last⟩
/-- Bytes that were read go on to stand between, whatever the script does. -/
theorem safe_between {Made : Type} {tool : Tool Made} {promised : Except Failure Made → Store Text → Prop} {place : Text}
    {bytes : List UInt8} (safe : Safe (sharing host.locate Failure.IsSystem) script promised tool store)
    (between : Between before place bytes store) :
    Safe (sharing host.locate Failure.IsSystem) script (fun outcome after => promised outcome after ∧ Between before place bytes after)
      tool store :=
  safe.frame between (fun _ _ relied holds => holds.grows relied.2)
    (fun _ _ kept holds => holds.grows (by rw [kept none (by simp)]; exact View.Grows.refl _))

/-! ### The tools that seal -/

theorem safe_sealSnapshot (invocation : Invocation) (ready : Ready before script store) (kind : ManifestKind) (inputHelp : Value)
    (arguments : SnapshotArguments) (same : invocation.task.input = arguments.input)
    (made : ∀ source bytes createdMs mtimeMs, Makes host source bytes invocation.task bytes
      (sealedManifest host kind (snapshotFields host source bytes createdMs mtimeMs) bytes)) :
    Safe (sharing host.locate Failure.IsSystem) script (Promised host before invocation script)
      (sealSnapshot host kind inputHelp arguments invocation.env) store := by
  have failed {store : Store Text} := @Ready.failed host before invocation script store
  refine safe_after_reads required_asks.1 required_asks.2 (failed ready) fun given asked wanted relied => ?_
  replace ready := ready.relied relied
  refine safe_assertNotProtected (failed ready) fun source checked leads unprotected relied => ?_
  replace ready := ready.relied relied
  refine safe_read trivial (fun failure _ _ relied => failed (ready.relied relied) failure) fun statBefore seen relied _ => ?_
  replace ready := ready.relied relied
  show Safe _ _ _ (require _ _ >>= _) seen
  refine Safe.bind (Safe.require ?_ fun _ later relied => failed ready _ later relied)
  intro regular later relied
  replace ready := ready.relied relied
  refine safe_read trivial (fun failure _ _ relied => failed (ready.relied relied) failure) fun bytes read relied responded => ?_
  replace ready := ready.relied relied
  obtain ⟨_, ⟨number, file, found, content⟩ | ⟨_, _, refused⟩⟩ := responded
  · cases content
    refine (safe_between (safe_sealBytes ready.1 _ _ _ _ _) (between_read ready found)).weaken ?_
    rintro (failure | ⟨path, manifest⟩ | _) last ⟨outcome, between⟩
    · exact fun _ => outcome
    · obtain ⟨⟨createdMs, rfl⟩, holds⟩ := outcome
      exact ⟨source, file.content, file.content, ⟨given, same.trans wanted, leads⟩, unprotected, made _ _ _ _, sealed_of_holds holds, between⟩
    · exact outcome.elim
  · cases refused
theorem safe_runExtractWindow (invocation : Invocation) (ready : Ready before script store) (arguments : WindowArguments)
    (task : invocation.task = .extractWindow arguments) :
    Safe (sharing host.locate Failure.IsSystem) script (Promised host before invocation script)
      (runExtractWindow host arguments invocation.env) store := by
  have failed {store : Store Text} := @Ready.failed host before invocation script store
  refine safe_after_reads required_asks.1 required_asks.2 (failed ready) fun given asked wanted relied => ?_
  replace ready := ready.relied relied
  refine safe_after_reads required_asks.1 required_asks.2 (failed ready) fun place named _ relied => ?_
  replace ready := ready.relied relied
  refine safe_assertSafeCaptureInput (failed ready) fun source checked leads unprotected relied => ?_
  replace ready := ready.relied relied
  refine safe_after_reads assertSafeOutput_asks (returns_any _) (failed ready) fun output cleared _ relied => ?_
  replace ready := ready.relied relied
  refine safe_read trivial (fun failure _ _ relied => failed (ready.relied relied) failure) fun bytes read relied responded => ?_
  replace ready := ready.relied relied
  obtain ⟨_, ⟨number, file, found, content⟩ | ⟨_, _, refused⟩⟩ := responded
  · cases content
    show Safe _ _ _ (sealWindow host arguments source output file.content) read
    unfold sealWindow
    split
    · exact fun later relied => failed ready _ later relied
    · rename_i window copy extracted
      refine Safe.bind ((safe_between (safe_writeSealedCopy ready.1 _ _ _ _) (between_read ready found)).weaken ?_)
      rintro (failure | manifest) last ⟨outcome, between⟩
      · exact fun _ => .inl outcome
      · obtain ⟨rfl, holds⟩ := outcome
        refine fun later relied => ⟨source, file.content, copy, ⟨given, by rw [task]; exact wanted, leads⟩, unprotected, ?_,
          sealed_of_holds (holds.kept relied.1), between.grows relied.2⟩
        rw [task]
        exact .extractWindow arguments window copy extracted
  · cases refused

/-! ### The tools that print -/

/-- A sink is a file that the script made. -/
def Open (script : Nat) (store : Store Text) (sink : Option Nat) : Prop :=
  ∀ number, sink = some number → ∃ place file, store.held (some script) place = some (number, file)

variable {Result : Type} {promised : Except Failure Result → Store Text → Prop}

theorem safe_openSink {output : Option Text} {input : Text} {env : Option Text} {next : Option Nat → Tool Result}
    (failed : ∀ failure after, promised (.error failure) after)
    (rest : ∀ sink after, Open script after sink →
      Safe (sharing host.locate Failure.IsSystem) script promised (next sink) after) :
    Safe (sharing host.locate Failure.IsSystem) script promised (openSink host output input env >>= next) store := by
  unfold openSink
  split
  · rw [bind_assoc]
    refine safe_after_reads assertSafeOutput_asks (returns_any _) (fun failure after _ => failed failure after) fun path cleared _ _ => ?_
    refine safe_openNew (fun failure _ _ _ later _ => failed failure later) fun number file opened _ _ _ holds => ?_
    refine rest (some number) opened ?_
    rintro _ ⟨⟩
    exact ⟨host.locate path, file, by rw [holds, Function.update_self]⟩
  · exact rest none store (by simp [Open])
theorem safe_emit {sink : Option Nat} (opened : Open script store sink) (printed : Text) {next : Unit → Tool Result}
    (failed : ∀ failure after, promised (.error failure) after)
    (rest : ∀ after, Open script after sink → Safe (sharing host.locate Failure.IsSystem) script promised (next ()) after) :
    Safe (sharing host.locate Failure.IsSystem) script promised (emit host sink printed >>= next) store := by
  cases sink with
  | none => exact rest store opened
  | some number =>
    obtain ⟨place, file, there⟩ := opened number rfl
    refine safe_write there (fun failure _ _ later _ => failed failure later) fun changed after stays => rest after ?_
    rintro _ ⟨⟩
    exact ⟨place, changed, stays⟩
theorem safe_emits {sink : Option Nat} (opened : Open script store sink) (texts : List Text) {next : Unit → Tool Result}
    (failed : ∀ failure after, promised (.error failure) after)
    (rest : ∀ after, Safe (sharing host.locate Failure.IsSystem) script promised (next ()) after) :
    Safe (sharing host.locate Failure.IsSystem) script promised (texts.forM (emit host sink) >>= next) store := by
  induction texts generalizing store with
  | nil => exact rest store
  | cons printed texts ih =>
    show Safe _ _ _ ((emit host sink printed >>= fun _ => texts.forM _) >>= _) store
    rw [bind_assoc]
    exact safe_emit opened printed failed fun after still => ih still
theorem closeSink_asks {sink : Option Nat} : (closeSink sink).Asks Request.IsRead := by
  cases sink with
  | none => trivial
  | some file => exact asks_request trivial
/-- A script that is run to close its sink, whatever became of it. -/
theorem safe_closing {tool : Tool Unit} {sink : Option Nat} {next : Unit → Tool Result}
    (safe : Safe (sharing host.locate Failure.IsSystem) script (fun _ _ => True) tool store)
    (failed : ∀ failure after, promised (.error failure) after)
    (rest : ∀ after, Safe (sharing host.locate Failure.IsSystem) script promised (next ()) after) :
    Safe (sharing host.locate Failure.IsSystem) script promised (tool.lastly (closeSink sink) >>= next) store := by
  unfold lastly
  rw [bind_assoc]
  refine Safe.bind (safe.attempt.weaken ?_)
  rintro (failure | outcome) after _
  · exact failed failure after
  · dsimp only
    rw [bind_assoc]
    refine safe_after_reads closeSink_asks (returns_any _) (fun failure after _ => failed failure after) fun _ closed _ _ => ?_
    cases outcome with
    | ok result => exact rest closed
    | error failure => exact fun later _ => failed failure later
end

section
variable {host : Host} {script : Nat} {store : Store Text} {promised : Except Failure Outcome → Store Text → Prop}
  (failed : ∀ failure after, promised (.error failure) after) (printed : ∀ after, promised (.ok .printed) after)
include failed printed

omit printed in
/-- What a tool reads on its way to printing does not matter here. -/
theorem safe_reading {Read : Type} {reader : Tool Read} {next : Read → Tool Outcome} (reads : reader.Asks Request.IsRead)
    (rest : ∀ result after, Safe (sharing host.locate Failure.IsSystem) script promised (next result) after) :
    Safe (sharing host.locate Failure.IsSystem) script promised (reader >>= next) store :=
  safe_after_reads reads (returns_any _) (fun failure after _ => failed failure after) fun result after _ _ => rest result after
omit printed in
theorem safe_input {path : Text} {env : Option Text} {next : Text → Tool Outcome}
    (rest : ∀ input after, Safe (sharing host.locate Failure.IsSystem) script promised (next input) after) :
    Safe (sharing host.locate Failure.IsSystem) script promised (assertSafeCaptureInput host path env >>= next) store :=
  safe_assertSafeCaptureInput (fun failure after _ => failed failure after) fun input after _ _ _ => rest input after
theorem safe_streamed (print : List UInt8 → List Text × Except Failure Unit) (arguments : PrintArguments) (env : Option Text) :
    Safe (sharing host.locate Failure.IsSystem) script promised (streamed host print arguments env) store := by
  refine safe_reading failed required_asks.1 fun given asked => ?_
  refine safe_input failed fun input checked => ?_
  refine safe_openSink failed fun sink after opened => safe_closing ?_ failed fun closed later _ => printed later
  refine safe_read trivial (fun _ _ _ _ _ _ => trivial) fun bytes read relied _ => ?_
  have still : Open script read sink := fun number same => by rw [relied.1]; exact opened number same
  refine safe_emits still _ (fun _ _ => trivial) fun last => ?_
  exact safe_reads asks_ofExcept (returns_any _) (fun _ _ _ => trivial) (fun _ _ _ _ => trivial)
theorem safe_writeDocument (output : Option Text) (input : Text) (env : Option Text) (document : Text) :
    Safe (sharing host.locate Failure.IsSystem) script promised (writeDocument host output input env document) store := by
  refine safe_openSink failed fun sink after opened => safe_closing ?_ failed fun closed later _ => printed later
  cases sink with
  | none => exact fun _ _ => trivial
  | some number =>
    obtain ⟨place, file, there⟩ := opened number rfl
    exact safe_write there (fun _ _ _ _ _ => trivial) fun _ _ _ _ _ => trivial
theorem safe_runTimeline (print : List UInt8 → List UInt8 → Except Failure Text) (arguments : PrintArguments) (env : Option Text) :
    Safe (sharing host.locate Failure.IsSystem) script promised (runTimeline host print arguments env) store := by
  refine safe_reading failed required_asks.1 fun given asked => ?_
  refine safe_input failed fun input checked => ?_
  refine safe_reading failed (asks_request trivial) fun bytes read => ?_
  refine safe_reading failed (asks_request trivial) fun again reread => ?_
  refine safe_reading failed asks_ofExcept fun document after => ?_
  exact safe_writeDocument failed printed _ _ _ _
theorem safe_runCorrelateKOx (print : List UInt8 → List UInt8 → List UInt8 → List UInt8 → Except Failure Text)
    (arguments : CorrelateArguments) (env : Option Text) :
    Safe (sharing host.locate Failure.IsSystem) script promised (runCorrelateKOx host print arguments env) store := by
  refine safe_reading failed required_asks.1 fun chain asked => ?_
  refine safe_reading failed required_asks.1 fun api named => ?_
  refine safe_input failed fun chainPath first => ?_
  refine safe_input failed fun apiPath second => ?_
  refine safe_reading failed (asks_request trivial) fun chainBytes third => ?_
  refine safe_reading failed (asks_request trivial) fun apiBytes fourth => ?_
  refine safe_reading failed (asks_request trivial) fun chainAgain fifth => ?_
  refine safe_reading failed (asks_request trivial) fun apiAgain sixth => ?_
  refine safe_reading failed asks_ofExcept fun document after => ?_
  exact safe_writeDocument failed printed _ _ _ _
theorem safe_curateObservations (print : List UInt8 → List UInt8 → Except Failure Text) (arguments : PrintArguments) (env : Option Text) :
    Safe (sharing host.locate Failure.IsSystem) script promised (curateObservations host print arguments env) store := by
  refine safe_reading failed required_asks.1 fun given asked => ?_
  refine safe_reading failed required_asks.1 fun wanted named => ?_
  refine safe_input failed fun input checked => ?_
  refine safe_reading failed assertSafeOutput_asks fun output cleared => ?_
  refine safe_reading failed (asks_request trivial) fun hashed read => ?_
  refine safe_reading failed (asks_request trivial) fun bytes reread => ?_
  refine safe_reading failed asks_ofExcept fun document after => ?_
  refine safe_openNew (fun failure _ _ _ later _ => failed failure later) fun sink file opened _ _ _ holds => ?_
  have there : opened.held (some script) (host.locate output) = some (sink, file) := by rw [holds, Function.update_self]
  refine safe_write there (fun failure _ _ later _ => failed failure later) fun _ written _ => ?_
  refine safe_read trivial (fun failure _ _ _ later _ => failed failure later) fun _ closed _ _ => ?_
  exact fun later _ => printed later
end

/-! ### All of them -/

section
variable {host : Host}

theorem safe_tool (before : View Text) (invocation : Invocation) (number : Nat) (store : Store Text) (ready : Ready before number store) :
    Safe (sharing host.locate Failure.IsSystem) number (Promised host before invocation number) (invocation.tool host) store := by
  obtain ⟨task, env⟩ := invocation
  cases task with
  | snapshot arguments =>
    exact safe_sealSnapshot ⟨.snapshot arguments, env⟩ ready _ _ arguments rfl fun _ _ _ _ => .snapshot ..
  | xstocksApiSnapshot arguments =>
    exact safe_sealSnapshot ⟨.xstocksApiSnapshot arguments, env⟩ ready _ _ arguments rfl
      fun _ _ _ _ => .xstocksApiSnapshot ..
  | extractWindow arguments => exact safe_runExtractWindow ⟨.extractWindow arguments, env⟩ ready arguments rfl
  | decodeCapture print arguments => exact safe_streamed (fun _ _ => False.elim) (fun _ => id) print arguments env
  | detectEvents print arguments => exact safe_streamed (fun _ _ => False.elim) (fun _ => id) print arguments env
  | timeline print arguments => exact safe_runTimeline (fun _ _ => False.elim) (fun _ => id) print arguments env
  | correlateKOx print arguments => exact safe_runCorrelateKOx (fun _ _ => False.elim) (fun _ => id) print arguments env
  | curate print arguments => exact safe_curateObservations (fun _ _ => False.elim) (fun _ => id) print arguments env
theorem ready_relied (before : View Text) (number : Nat) (store after : Store Text) (relied : Rely number store after) (ready : Ready before number store) :
    Ready before number after :=
  ready.relied relied
end

/-- What the disturbances make of what no tool made, one after another. -/
def outside {Task : Type} (view : View Text) : List (Event (Disturbance Text) Task) → View Text
  | [] => view
  | .disturbed disturbance :: events => disturbance.seen (outside view events)
  | _ :: events => outside view events

/-! ### A host with two captures -/

def hexUnit (digit : Nat) : UInt16 := UInt16.ofNat (if digit < 10 then 48 + digit else 87 + digit)
def flatText : Value → Text
  | .string value => quote value
  | .number (.finite value) => decimal value.num
  | .boolean value => if value then "true" else "false"
  | _ => "null"
/-- `JSON.stringify(value, null, 2)` of an object of texts, whole numbers and truth values. -/
def flatJson (value : Value) : Text :=
  text "\x7b\n" ++ List.intercalate (text ",\n")
    (value.fields.map (fun field => text "  " ++ quote field.1 ++ text ": " ++ flatText field.2)) ++ text "\n\x7d"
/-- Names are paths spelled out, and it is the first moment of 1970. -/
def desk : Host where
  locate := id
  resolve := id
  basename := fun path => (path.splitOn 47).getLastD []
  join := fun directory name => directory ++ text "/" ++ name
  sha256Hex := fun bytes => (Fips180.sha256 bytes).flatMap (fun byte => [hexUnit (byte.toNat / 16), hexUnit (byte.toNat % 16)])
  toISOString := fun _ => "1970-01-01T00:00:00.000Z"
  dateParse := fun _ => none
  jsonParse := fun _ => none
  jsonStringify := flatJson
  encode := fun units => units.map UInt16.toUInt8
  toUtf8 := fun bytes => bytes.map UInt8.toUInt16
/-- A capture that the recorder appends to, and a backup. -/
def deskStore : Store Text where
  entry := fun place => if place = text "/live.jsonl" then some 0 else if place = text "/backup.jsonl" then some 1 else none
  file := fun number =>
    if number = 0 then some ⟨[], 0o644, 0, none⟩ else if number = 1 then some ⟨[0x7b, 0x7d, 0x0a], 0o644, 0, none⟩ else none
  clock := 0
def snapshotOf (input : Text) : Invocation := ⟨.snapshot ⟨some input, none⟩, none⟩
/-- A snapshot, while the recorder appends a line after each request. -/
@[irreducible] def deskRun (input : Text) : Attended Text Failure Outcome Invocation :=
  attend desk.locate (.system "ENOENT") 0 0 [0x7b, 0x7d, 0x0a] ((snapshotOf input).tool desk) deskStore 2 [.started (snapshotOf input)]
/-- The path of a copy that was returned. -/
def sealedAt : Except Failure Outcome → Option Text
  | .ok (.sealed path _) => some path
  | _ => none
def isolated : Except Failure Outcome → Bool
  | .error (.CaptureIsolationError _) => true
  | _ => false

theorem desk_fresh (number : Nat) (place : Text) : deskStore.held (some number) place = none := by
  refine held_eq_none fun other file stands => ?_
  have known := (found_eq_some.mp stands).2
  simp only [deskStore] at known
  split at known
  · cases known
    simp
  · split at known
    · cases known
      simp
    · cases known
theorem desk_steady : Steady 0 deskStore 2 := by
  refine ⟨fun number beyond => ⟨?_, fun place => ?_⟩, ⟨_, rfl, rfl⟩⟩
  · simp only [deskStore]
    rw [if_neg (by omega), if_neg (by omega)]
  · simp only [deskStore]
    split
    · simp only [ne_eq, Option.some.injEq]
      omega
    · split
      · simp only [ne_eq, Option.some.injEq]
        omega
      · simp
theorem desk_run (input : Text) : Run (fun system => system.state = deskStore ∧ system.scripts = [])
    (Step (sharing desk.locate Failure.IsSystem) (Invocation.tool desk)) (deskRun input).events
    ⟨(deskRun input).store, [(snapshotOf input, ofExcept (deskRun input).outcome)]⟩ := by
  have fresh : Run (fun system => system.state = deskStore ∧ system.scripts = [])
      (Step (sharing desk.locate Failure.IsSystem) (Invocation.tool desk)) [] ⟨deskStore, []⟩ := .start ⟨rfl, rfl⟩
  unfold deskRun
  exact attend_run trivial [0x7b, 0x7d, 0x0a] desk_steady (fresh.next (.started (snapshotOf input))) rfl
theorem none_protected : protectedCapturePaths desk none = [] := by
  simp [protectedCapturePaths, List.splitOn, Capture.IsBlank]
/-- With no protected paths there is less to evaluate. -/
theorem tool_snapshotOf (input : Text) : (snapshotOf input).tool desk = (do
    let given ← required (some input) ["--input <path to the BACKUP capture>", " is required; there is no default"]
    let source ← canonical desk given
    let statBefore ← stat source
    require statBefore.isFile (isolationError [source, " is not a regular file"])
    let bytes ← readFile source
    sealBytes desk .captureSnapshot (DEFAULT_SNAPSHOT_DIR desk) source statBefore bytes) := by
  simp only [snapshotOf, Invocation.tool, runSnapshot, sealSnapshot, assertNotProtected, none_protected, bind_assoc]
  rfl

/-! ### What holds of every run -/

section
variable (host : Host) {initial : Store Text} {events : List (Event (Disturbance Text) Invocation)}
  {system : System (Store Text) Invocation (Request Text) Answer Failure Outcome}

/-- What no tool made is, after any run, what the disturbances alone make of it. -/
theorem tools_invisible (fresh : ∀ number place, initial.held (some number) place = none)
    (run : Run (fun system => system.state = initial ∧ system.scripts = [])
      (Step (sharing host.locate Failure.IsSystem) (Invocation.tool host)) events system) :
    system.state.held none = outside (initial.held none) events := by
  refine run_related (fun state => state = initial) (fun events state => state.held none = outside (initial.held none) events)
    (ready_relied (initial.held none)) (safe_tool _) ?_ ?_ ?_ ?_ run
  · rintro _ rfl
    exact ⟨fun number => ⟨funext (fresh number), View.Grows.refl _⟩, rfl⟩
  · intro events before disturbance after seen disturbs
    rw [held_disturbs disturbs, seen, outside]
  · exact fun events task state seen => seen
  · exact fun events number before after seen kept => (kept none (by simp)).trans seen
theorem tools_invisible_desk :
    (deskRun "/backup.jsonl").store.held none = outside (deskStore.held none) (deskRun "/backup.jsonl").events := by
  have run := desk_run "/backup.jsonl"
  generalize deskRun "/backup.jsonl" = attended at run ⊢
  obtain ⟨outcome, store, events⟩ := attended
  exact tools_invisible desk desk_fresh run

theorem promise_kept (outcome : Except Failure Outcome) (fresh : ∀ number place, initial.held (some number) place = none)
    (run : Run (fun system => system.state = initial ∧ system.scripts = [])
      (Step (sharing host.locate Failure.IsSystem) (Invocation.tool host)) events system) {number : Nat} {invocation : Invocation}
    (finished : system.scripts[number]? = some (invocation, ofExcept outcome)) :
    Promised host (initial.held none) invocation number outcome system.state := by
  refine run_promised (fun state => state = initial) (ready_relied (initial.held none)) (safe_tool _) ?_ run finished
  rintro _ rfl number
  exact ⟨funext (fresh number), View.Grows.refl _⟩
/-- A tool that was to seal a copy and failed, if no request was refused it, leaves nothing that it made. -/
theorem failure_leaves_nothing (fresh : ∀ number place, initial.held (some number) place = none)
    (run : Run (fun system => system.state = initial ∧ system.scripts = [])
      (Step (sharing host.locate Failure.IsSystem) (Invocation.tool host)) events system) {number : Nat} {invocation : Invocation}
    {failure : Failure} (finished : system.scripts[number]? = some (invocation, .fail failure)) (seals : invocation.task.Seals)
    (own : ¬ failure.IsSystem) (place : Text) : system.state.held (some number) place = none := by
  have promised := promise_kept host (.error failure) fresh run finished
  exact congrFun ((promised seals).resolve_left own) place
theorem failure_leaves_nothing_desk : isolated (deskRun "/live.jsonl").outcome = true ∧
    ∀ place, (deskRun "/live.jsonl").store.held (some 0) place = none := by
  have run := desk_run "/live.jsonl"
  have failed : isolated (deskRun "/live.jsonl").outcome = true := by
    unfold deskRun
    rw [tool_snapshotOf]
    decide +kernel
  refine ⟨failed, ?_⟩
  generalize deskRun "/live.jsonl" = attended at run failed ⊢
  obtain ⟨failure | outcome, store, events⟩ := attended
  · cases failure with
    | CaptureIsolationError message => exact failure_leaves_nothing desk desk_fresh run rfl trivial id
    | Error | TypeError | system => cases failed
  · cases failed
end

end EquityGuard.CaptureRuns
