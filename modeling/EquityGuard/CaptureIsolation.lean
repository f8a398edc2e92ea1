import EquityGuard.ExtractWindow
import EquityGuard.FileStore

/-!
The analysis tools and the capture they must leave alone. Tools run side by side while the
recorder appends to its file. They read copies, and write what they make to files that are
new; a snapshot or a window that a tool returns is sealed, and stays as its manifest
describes it.
-/
namespace EquityGuard.CaptureIsolation
open EquityGuard.Binary64 EquityGuard.Capture EquityGuard.ExtractWindow EquityGuard.FileStore EquityGuard.JsonText
open EquityGuard.JsValue EquityGuard.Runs EquityGuard.Scripts EquityGuard.Scripts.Script

/-- `CaptureIsolationError`, `Error`, `TypeError`, and what a request of the file system throws. -/
inductive Failure where
  | CaptureIsolationError (message : Message)
  | Error (message : Message)
  | TypeError
  | system (code : Text)
def Failure.IsSystem : Failure → Prop
  | .system _ => True
  | _ => False
/-- What the tools are given: where names lead, how paths are put together, the digest, dates, JSON and UTF-8. -/
structure Host where
  locate : Text → Text
  resolve : Text → Text
  basename : Text → Text
  join : Text → Text → Text
  sha256Hex : List UInt8 → Text
  toISOString : Int → Text
  dateParse : Text → Option Int
  jsonParse : Text → Option Value
  jsonStringify : Value → Text
  encode : Text → List UInt8
  toUtf8 : List UInt8 → Text
abbrev Tool (Result : Type) : Type := Script (Request Text) Answer Failure Result
/-- `new CaptureIsolationError(message)`. -/
def isolationError (message : Message) : Failure := .CaptureIsolationError (("INV-CAP-01: " : Value) :: message)
def MIN_INPUT_QUIET_SECS : Int := 90
def MANIFEST_SUFFIX : Text := ".manifest.json"
def READ_ONLY_MODE : Nat := 0o444

/-! ### Sealed copies -/

inductive ManifestKind where
  | captureSnapshot
  | captureWindow
  | xstocksApiSnapshot
def ManifestKind.text : ManifestKind → String
  | captureSnapshot => "equityguard-capture-snapshot"
  | captureWindow => "equityguard-capture-window"
  | xstocksApiSnapshot => "equityguard-xstocks-api-snapshot"
structure SealedManifest where
  kind : ManifestKind
  rest : List (Text × Value)
  sha256 : Text
  bytes : Nat
  lines : Nat
def SealedManifest.toValue (manifest : SealedManifest) : Value :=
  .object ((text "kind", .string manifest.kind.text) :: (manifest.rest ++ [
    (text "schemaVersion", .number 1),
    (text "sha256", .string manifest.sha256),
    (text "bytes", .number (.ofInt manifest.bytes)),
    (text "lines", .number (.ofInt manifest.lines))]))
structure LineCount where
  lines : Nat
  trailingNewline : Bool
/-- Number of newline-terminated lines plus a trailing unterminated line, if any. -/
def countLines (bytes : List UInt8) : LineCount :=
  let newlines := bytes.foldl (fun newlines byte => if byte = 0x0a then newlines + 1 else newlines) 0
  let trailingNewline := bytes.length == 0 || bytes[bytes.length - 1]? == some 0x0a
  ⟨newlines + (if trailingNewline then 0 else 1), trailingNewline⟩
/-- `value === count`. -/
def isCount (value : Value) (count : Nat) : Bool :=
  match value with
  | .number number => number == .ofInt count
  | .negativeZero => count == 0
  | _ => false

section
variable (host : Host)

/-- The manifest of a copy. The fields that a caller adds bear other names than those of the copy. -/
def sealedManifest (kind : ManifestKind) (rest : List (Text × Value)) (bytes : List UInt8) : SealedManifest where
  kind
  rest
  sha256 := host.sha256Hex bytes
  bytes := bytes.length
  lines := (countLines bytes).lines
/-- What stands in the file beside a copy. -/
def sidecarBytes (manifest : SealedManifest) : List UInt8 := host.encode (host.jsonStringify manifest.toValue ++ "\n")
/-- The manifest of a sealed copy whose current bytes still match it. -/
def verifiedManifest (path : Text) : Tool (Option Value) := do
  let parsed : Tool Value := do
    let bytes ← readFile (path ++ MANIFEST_SUFFIX)
    match host.jsonParse (host.toUtf8 bytes) with
    | some manifest => pure manifest
    | none => .fail (.Error ["SyntaxError"])
  match ← parsed.attempt with
  | .error _ => pure none
  | .ok manifest =>
    let bytes ← readFile path
    require (¬ manifest.isNullish) .TypeError
    pure (if stringOrNull (manifest.get "sha256") = some (host.sha256Hex bytes) ∧ isCount (manifest.get "bytes") bytes.length then
      some manifest else none)
/-- `const file = await open(path, "wx")`, the bytes written, and the file closed. -/
def writeNew (path : Text) (bytes : List UInt8) : Tool Unit := do
  let file ← openNew path
  (writeFile file bytes).lastly (close file)
/-- Writes the bytes to a new file and a manifest beside it, both read-only. -/
def writeSealedCopy (path : Text) (kind : ManifestKind) (rest : List (Text × Value)) (bytes : List UInt8) : Tool SealedManifest := do
  let sealed := sealedManifest host kind rest bytes
  writeNew path bytes
  writeNew (path ++ MANIFEST_SUFFIX) (sidecarBytes host sealed)
  chmod path READ_ONLY_MODE
  chmod (path ++ MANIFEST_SUFFIX) READ_ONLY_MODE
  return sealed

/-! ### What may be read and written -/

/-- The paths of `EQUITYGUARD_PROTECTED_CAPTURE_PATHS`, between the colons. -/
def protectedCapturePaths (env : Option Text) : List Text :=
  (((env.getD []).splitOn 58).filter (fun path => ¬ IsBlank path)).map host.resolve
def canonical (path : Text) : Tool Text := do
  match ← (realpath path).attempt with
  | .ok name => pure name
  | .error _ => pure (host.resolve path)
/-- Refuses protected inputs. -/
def assertNotProtected (inputPath : Text) (env : Option Text) : Tool Text := do
  let input ← canonical host inputPath
  (protectedCapturePaths host env).forM (fun protectedPath => do
    let other ← canonical host protectedPath
    require (other ≠ input) (isolationError [input, " is a protected live capture path; use the backup instead"]))
  return input
/-- Refuses protected or possibly live inputs. A copy that was modified of late must match its manifest. -/
def assertSafeCaptureInput (inputPath : Text) (env : Option Text) : Tool Text := do
  let input ← assertNotProtected host inputPath env
  let info ← stat input
  require info.isFile (isolationError [input, " is not a regular file"])
  let ageMs := (← now) - info.mtimeMs
  if ageMs < MIN_INPUT_QUIET_SECS * 1000 then
    let manifest ← verifiedManifest host input
    require manifest.isSome (isolationError [input, " was modified ", (max 0 (ageMs / 1000) : Int), "s ago and may be a live capture; ",
      "copy it and retry once the copy has been unmodified for ", MIN_INPUT_QUIET_SECS, "s"])
  return input
/-- Output must be distinct from the input and protected paths. -/
def assertSafeOutput (outputPath inputPath : Text) (env : Option Text) : Tool Text := do
  let output ← canonical host outputPath
  let input ← canonical host inputPath
  let others ← (protectedCapturePaths host env).mapM' (canonical host)
  require (output ∉ input :: others) (isolationError ["refusing to write to ", output])
  return output

/-! ### The tools -/

/-- `if (!value) throw new Error(message);`. -/
def required (value : Option Text) (message : Message) : Tool Text :=
  match value with
  | some (unit :: units) => pure (unit :: units)
  | _ => .fail (.Error message)
/-- `iso.replaceAll(":", "").replace(/\.\d+Z$/, "Z")`. -/
def stampOf (iso : Text) : Text :=
  let plain := iso.filter (fun unit => unit ≠ 58)
  match plain.reverse with
  | 90 :: before =>
    match before.dropWhile (fun unit => decide (IsDigit unit)) with
    | 46 :: start => if before.head?.any (fun unit => decide (IsDigit unit)) then start.reverse ++ [90] else plain
    | _ => plain
  | _ => plain
def DEFAULT_SNAPSHOT_DIR : Text := host.join "tmp" "observation"
/-- What a tool returns: a sealed copy and its manifest, or nothing but what it printed. -/
inductive Outcome where
  | sealed (path : Text) (manifest : SealedManifest)
  | printed
structure SnapshotArguments where
  input : Option Text
  outputDir : Option Text
def snapshotFields (source : Text) (bytes : List UInt8) (createdMs mtimeMs : Int) : List (Text × Value) := [
  (text "source", .string source),
  (text "sourceSha256", .string (host.sha256Hex bytes)),
  (text "createdAt", .string (host.toISOString createdMs)),
  (text "sourceMtimeMs", .number (.ofInt mtimeMs)),
  (text "trailingNewline", .boolean (countLines bytes).trailingNewline)]
/-- The copy that is sealed, and the source that is read once more. -/
def sealBytes (kind : ManifestKind) (dir source : Text) (statBefore : Stats) (bytes : List UInt8) : Tool Outcome := do
  let shaBefore := host.sha256Hex bytes
  mkdir dir
  let path := host.join dir (stampOf (host.toISOString (← now)) ++ "-" ++ host.basename source)
  let createdMs ← now
  let manifest ← writeSealedCopy host path kind (snapshotFields host source bytes createdMs statBefore.mtimeMs) bytes
  let statAfter ← stat source
  let shaAfter := host.sha256Hex (← readFile source)
  if shaAfter ≠ shaBefore ∨ statAfter.size ≠ statBefore.size ∨ statAfter.mtimeMs ≠ statBefore.mtimeMs then
    -- Only files this run created are removed; the source is never touched.
    unlink path
    unlink (path ++ MANIFEST_SUFFIX)
    .fail (isolationError [source, " changed while it was being copied; retry the snapshot"])
  else return .sealed path manifest
/-- Shared sealed-copy procedure for chain captures and API watcher files. -/
def sealSnapshot (kind : ManifestKind) (inputHelp : Value) (arguments : SnapshotArguments) (env : Option Text) : Tool Outcome := do
  let given ← required arguments.input [inputHelp, " is required; there is no default"]
  let source ← assertNotProtected host given env
  let statBefore ← stat source
  require statBefore.isFile (isolationError [source, " is not a regular file"])
  let bytes ← readFile source
  sealBytes host kind (arguments.outputDir.getD (DEFAULT_SNAPSHOT_DIR host)) source statBefore bytes
def runSnapshot (arguments : SnapshotArguments) (env : Option Text) : Tool Outcome :=
  sealSnapshot host .captureSnapshot "--input <path to the BACKUP capture>" arguments env
def runXStocksApiSnapshot (arguments : SnapshotArguments) (env : Option Text) : Tool Outcome :=
  sealSnapshot host .xstocksApiSnapshot "--input <path to the API watcher JSONL>" arguments env

/-- The arguments, with the interval and the symbols they spell. -/
structure WindowArguments where
  input : Option Text
  output : Option Text
  start : Text
  stop : Text
  query : Query
def gapValue (gap : WindowGap) : Value := .object [
  (text "fromWallclock", .string gap.fromWallclock),
  (text "toWallclock", .string gap.toWallclock),
  (text "wallclockGapMs", .number (.ofInt gap.wallclockGapMs)),
  (text "fromSlot", gap.fromSlot),
  (text "toSlot", gap.toSlot)]
/-- `value ?? null`. -/
def orNull (value : Option Value) : Value := value.getD .null
def windowFields (source : Text) (bytes : List UInt8) (arguments : WindowArguments) (window : Window) : List (Text × Value) := [
  (text "source", .string source),
  (text "sourceSha256", .string (host.sha256Hex bytes)),
  (text "start", .string arguments.start),
  (text "end", .string arguments.stop),
  (text "symbols", orNull (arguments.query.symbols.map (fun symbols => .array (symbols.map Value.string)))),
  (text "firstWallclock", orNull (window.first.map (fun first => .string first.1))),
  (text "lastWallclock", orNull (window.last.map (fun last => .string last.1))),
  (text "firstSlot", orNull (window.first.map (fun first => first.2))),
  (text "lastSlot", orNull (window.last.map (fun last => last.2.2))),
  (text "gaps", .array (window.gaps.map gapValue)),
  (text "unplaceableLines", .number (.ofInt window.unplaceableLines))]
/-- The window of what was read, sealed. -/
def sealWindow (arguments : WindowArguments) (input output : Text) (bytes : List UInt8) : Tool Outcome := do
  match ExtractWindow.runExtractWindow host.jsonParse host.dateParse arguments.query bytes with
  | .error _ => .fail .TypeError
  | .ok (window, out) =>
    let manifest ← writeSealedCopy host output .captureWindow (windowFields host input bytes arguments window) out
    return .sealed output manifest
def runExtractWindow (arguments : WindowArguments) (env : Option Text) : Tool Outcome := do
  let given ← required arguments.input ["--input <snapshot> is required; there is no default"]
  let wanted ← required arguments.output ["--output <new file> is required"]
  let input ← assertSafeCaptureInput host given env
  let output ← assertSafeOutput host wanted input env
  let bytes ← readFile input
  sealWindow host arguments input output bytes

structure PrintArguments where
  input : Option Text
  output : Option Text
/-- `values.output ? openNewOutput(await assertSafeOutput(values.output, input, env)) : null`. -/
def openSink (output : Option Text) (input : Text) (env : Option Text) : Tool (Option Nat) :=
  match output with
  | some (unit :: units) => do
    let path ← assertSafeOutput host (unit :: units) input env
    let sink ← openNew path
    return some sink
  | _ => pure none
/-- A text to the sink, or to the standard output. -/
def emit (sink : Option Nat) (printed : Text) : Tool Unit :=
  match sink with
  | some file => write file (host.encode printed)
  | none => pure ()
def closeSink (sink : Option Nat) : Tool Unit :=
  match sink with
  | some file => close file
  | none => pure ()

/-- A tool that prints text after text, until it is through with its input or fails on it. -/
def streamed (print : List UInt8 → List Text × Except Failure Unit) (arguments : PrintArguments) (env : Option Text) :
    Tool Outcome := do
  let given ← required arguments.input ["--input <path to a copy of the capture> is required; there is no default"]
  let input ← assertSafeCaptureInput host given env
  let sink ← openSink host arguments.output input env
  let run : Tool Unit := do
    let bytes ← readFile input
    (print bytes).1.forM (emit host sink)
    ofExcept (print bytes).2
  run.lastly (closeSink sink)
  return .printed
def runDecodeCapture (print : List UInt8 → List Text × Except Failure Unit) (arguments : PrintArguments) (env : Option Text) :
    Tool Outcome :=
  streamed host print arguments env
def runDetectEvents (print : List UInt8 → List Text × Except Failure Unit) (arguments : PrintArguments) (env : Option Text) :
    Tool Outcome :=
  streamed host print arguments env
/-- One text to a new output, if one is asked for. -/
def writeDocument (output : Option Text) (input : Text) (env : Option Text) (document : Text) : Tool Outcome := do
  let sink ← openSink host output input env
  (emit host sink document).lastly (closeSink sink)
  return .printed
/-- The input is read for its records, and again for its digest. -/
def runTimeline (print : List UInt8 → List UInt8 → Except Failure Text) (arguments : PrintArguments) (env : Option Text) :
    Tool Outcome := do
  let given ← required arguments.input ["--input <snapshot> is required; there is no default"]
  let input ← assertSafeCaptureInput host given env
  let bytes ← readFile input
  let again ← readFile input
  let document ← ofExcept (print bytes again)
  writeDocument host arguments.output input env document
structure CorrelateArguments where
  chain : Option Text
  api : Option Text
  output : Option Text
def runCorrelateKOx (print : List UInt8 → List UInt8 → List UInt8 → List UInt8 → Except Failure Text)
    (arguments : CorrelateArguments) (env : Option Text) : Tool Outcome := do
  let chain ← required arguments.chain ["--chain <sealed chain snapshot> and --api <sealed API snapshot> are required"]
  let api ← required arguments.api ["--chain <sealed chain snapshot> and --api <sealed API snapshot> are required"]
  let chainPath ← assertSafeCaptureInput host chain env
  let apiPath ← assertSafeCaptureInput host api env
  let chainBytes ← readFile chainPath
  let apiBytes ← readFile apiPath
  let chainAgain ← readFile chainPath
  let apiAgain ← readFile apiPath
  let document ← ofExcept (print chainBytes apiBytes chainAgain apiAgain)
  writeDocument host arguments.output chainPath env document
def curateObservations (print : List UInt8 → List UInt8 → Except Failure Text) (arguments : PrintArguments) (env : Option Text) :
    Tool Outcome := do
  let given ← required arguments.input ["--input, --output, --kind and at least one --select are required"]
  let wanted ← required arguments.output ["--input, --output, --kind and at least one --select are required"]
  let input ← assertSafeCaptureInput host given env
  let output ← assertSafeOutput host wanted input env
  let hashed ← readFile input
  let bytes ← readFile input
  let document ← ofExcept (print hashed bytes)
  let sink ← openNew output
  write sink (host.encode document)
  close sink
  return .printed
end

/-- One of the tools, with what it prints of its input. -/
inductive Task where
  | snapshot (arguments : SnapshotArguments)
  | xstocksApiSnapshot (arguments : SnapshotArguments)
  | extractWindow (arguments : WindowArguments)
  | decodeCapture (print : List UInt8 → List Text × Except Failure Unit) (arguments : PrintArguments)
  | detectEvents (print : List UInt8 → List Text × Except Failure Unit) (arguments : PrintArguments)
  | timeline (print : List UInt8 → List UInt8 → Except Failure Text) (arguments : PrintArguments)
  | correlateKOx (print : List UInt8 → List UInt8 → List UInt8 → List UInt8 → Except Failure Text) (arguments : CorrelateArguments)
  | curate (print : List UInt8 → List UInt8 → Except Failure Text) (arguments : PrintArguments)
/-- Where the input of a task is given. -/
def Task.input : Task → Option Text
  | .snapshot arguments | .xstocksApiSnapshot arguments => arguments.input
  | .extractWindow arguments => arguments.input
  | .decodeCapture _ arguments | .detectEvents _ arguments | .timeline _ arguments | .curate _ arguments => arguments.input
  | .correlateKOx _ arguments => arguments.chain
/-- The tasks that return a sealed copy. -/
def Task.Seals : Task → Prop
  | .snapshot _ | .xstocksApiSnapshot _ | .extractWindow _ => True
  | _ => False
/-- A task, and the protected paths it is run with. -/
structure Invocation where
  task : Task
  env : Option Text
def Invocation.tool (host : Host) (invocation : Invocation) : Tool Outcome :=
  match invocation.task with
  | .snapshot arguments => runSnapshot host arguments invocation.env
  | .xstocksApiSnapshot arguments => runXStocksApiSnapshot host arguments invocation.env
  | .extractWindow arguments => runExtractWindow host arguments invocation.env
  | .decodeCapture print arguments => runDecodeCapture host print arguments invocation.env
  | .detectEvents print arguments => runDetectEvents host print arguments invocation.env
  | .timeline print arguments => runTimeline host print arguments invocation.env
  | .correlateKOx print arguments => runCorrelateKOx host print arguments invocation.env
  | .curate print arguments => curateObservations host print arguments invocation.env

/-! ### Sealing -/

section
variable {host : Host} {script : Nat} {store : Store Text} {promised : Except Failure Outcome → Store Text → Prop}

/-- A new file with the bytes, or a refusal. -/
theorem safe_writeNew (path : Text) (bytes : List UInt8) :
    Safe (sharing host.locate Failure.IsSystem) script (fun outcome after =>
      match outcome with
      | .error failure => failure.IsSystem
      | .ok () => ∃ number file, store.held (some script) (host.locate path) = none ∧
        (∀ place other, store.held (some script) place ≠ some (number, other)) ∧ file.content = bytes ∧
        after.held (some script) = Function.update (store.held (some script)) (host.locate path) (some (number, file)))
      (writeNew path bytes) store := by
  refine safe_openNew (fun failure after caught _ _ _ => caught) fun number file after empty free new holds => ?_
  have there : after.held (some script) (host.locate path) = some (number, file) := by simp [holds]
  refine safe_writeFile there ?_ ?_
  · intro failure after caught
    refine safe_read trivial ?_ ?_
    · exact fun failure _ caught _ _ _ => caught
    · exact fun _ _ _ _ _ _ => caught
  · intro timeMs after wrote
    refine safe_read trivial ?_ ?_
    · exact fun failure _ caught _ _ _ => caught
    · intro _ closed relied _ later more
      refine ⟨number, { file with content := file.content ++ bytes, mtimeMs := timeMs }, free, new, ?_, ?_⟩
      · rw [empty, List.nil_append]
      · rw [more.1, relied.1, wrote, holds, View.change_update new]

/-- What a script made is one copy, sealed, and its manifest beside it, sealed too. -/
def Holds (host : Host) (store : Store Text) (script : Nat) (path : Text) (manifest : SealedManifest) (bytes : List UInt8) : Prop :=
  ∃ (number other : Nat) (copy sidecar : File), other ≠ number ∧ host.locate (path ++ MANIFEST_SUFFIX) ≠ host.locate path ∧
    copy.content = bytes ∧ copy.mode = READ_ONLY_MODE ∧
    sidecar.content = sidecarBytes host manifest ∧ sidecar.mode = READ_ONLY_MODE ∧
    store.held (some script) = Function.update (Function.update (fun _ => none) (host.locate path) (some (number, copy)))
      (host.locate (path ++ MANIFEST_SUFFIX)) (some (other, sidecar))

theorem Holds.kept {path : Text} {manifest : SealedManifest} {bytes : List UInt8} {after : Store Text}
    (holds : Holds host store script path manifest bytes) (same : after.held (some script) = store.held (some script)) :
    Holds host after script path manifest bytes := by
  obtain ⟨number, other, copy, sidecar, different, apart, body, mode, about, beside, both⟩ := holds
  exact ⟨number, other, copy, sidecar, different, apart, body, mode, about, beside, same.trans both⟩
theorem safe_writeSealedCopy (empty : store.held (some script) = fun _ => none) (path : Text) (kind : ManifestKind)
    (rest : List (Text × Value)) (bytes : List UInt8) :
    Safe (sharing host.locate Failure.IsSystem) script (fun outcome after =>
      match outcome with
      | .error failure => failure.IsSystem
      | .ok manifest => manifest = sealedManifest host kind rest bytes ∧ Holds host after script path manifest bytes)
      (writeSealedCopy host path kind rest bytes) store := by
  refine Safe.bind ((safe_writeNew path bytes).weaken ?_)
  rintro (failure | done) copied outcome
  · exact outcome
  obtain ⟨number, copy, _, _, content, holds⟩ := outcome
  rw [empty] at holds
  refine Safe.bind ((safe_writeNew _ _).weaken ?_)
  rintro (failure | done) described outcome
  · exact outcome
  obtain ⟨other, sidecar, free, new, about, both⟩ := outcome
  rw [holds] at free new both
  have apart : host.locate (path ++ MANIFEST_SUFFIX) ≠ host.locate path := by
    intro same
    simp [same] at free
  have different : other ≠ number := by
    rintro rfl
    exact new (host.locate path) copy (by simp)
  have there : described.held (some script) (host.locate path) = some (number, copy) := by
    rw [both, Function.update_of_ne apart.symm, Function.update_self]
  refine safe_chmod there (fun failure _ caught _ _ => caught) fun first one => ?_
  rw [both, View.change_update_ne different, View.change_update (by simp)] at one
  have beside : first.held (some script) (host.locate (path ++ MANIFEST_SUFFIX)) = some (other, sidecar) := by
    rw [one, Function.update_self]
  refine safe_chmod beside (fun failure _ caught _ _ => caught) fun second two later relied => ?_
  have unseen : ∀ place file, Function.update (fun _ => none) (host.locate path)
      (some (number, { copy with mode := READ_ONLY_MODE })) place ≠ some (other, file) := by
    intro place file
    by_cases same : place = host.locate path
    · subst same
      simp [different.symm]
    · simp [Function.update_of_ne same]
  rw [one, View.change_update unseen] at two
  exact ⟨rfl, number, other, { copy with mode := READ_ONLY_MODE }, { sidecar with mode := READ_ONLY_MODE }, different, apart, content,
    rfl, about, rfl, relied.1.trans two⟩

/-- The copy and its manifest are removed, and nothing is left. -/
theorem safe_unlinkBoth {path : Text} {manifest : SealedManifest} {bytes : List UInt8} {failure : Failure}
    (holds : Holds host store script path manifest bytes)
    (refused : ∀ failure later, failure.IsSystem → promised (.error failure) later)
    (removed : ∀ later, (later.held (some script) = fun _ => none) → promised (.error failure) later) :
    Safe (sharing host.locate Failure.IsSystem) script promised (do
      unlink path
      unlink (path ++ MANIFEST_SUFFIX)
      .fail failure) store := by
  obtain ⟨number, other, copy, sidecar, _, apart, _, _, _, _, both⟩ := holds
  have there : store.held (some script) (host.locate path) = some (number, copy) := by
    rw [both, Function.update_of_ne apart.symm, Function.update_self]
  refine safe_unlink there (fun failure _ caught later _ => refused failure later caught) fun first one => ?_
  have beside : first.held (some script) (host.locate (path ++ MANIFEST_SUFFIX)) = some (other, sidecar) := by
    rw [one, both, Function.update_of_ne apart, Function.update_self]
  refine safe_unlink beside (fun failure _ caught later _ => refused failure later caught) fun second two later relied => ?_
  refine removed later ?_
  rw [relied.1, two, one, both]
  funext place
  by_cases atSidecar : place = host.locate (path ++ MANIFEST_SUFFIX)
  · simp [atSidecar]
  · by_cases atCopy : place = host.locate path
    · subst atCopy
      simp [Function.update_of_ne atSidecar]
    · simp [Function.update_of_ne atSidecar, Function.update_of_ne atCopy]
/-- A snapshot that is returned is held sealed; one that fails, but for a refused request, leaves nothing. -/
theorem safe_sealBytes (empty : store.held (some script) = fun _ => none) (kind : ManifestKind) (dir source : Text)
    (statBefore : Stats) (bytes : List UInt8) :
    Safe (sharing host.locate Failure.IsSystem) script (fun (outcome : Except Failure Outcome) after =>
      match outcome with
      | .error failure => failure.IsSystem ∨ after.held (some script) = fun _ => none
      | .ok .printed => False
      | .ok (.sealed path manifest) => (∃ createdMs, manifest =
          sealedManifest host kind (snapshotFields host source bytes createdMs statBefore.mtimeMs) bytes) ∧
        Holds host after script path manifest bytes)
      (sealBytes host kind dir source statBefore bytes) store := by
  refine safe_read trivial (fun failure _ caught _ _ _ => .inl caught) fun _ made first _ => ?_
  refine safe_read trivial (fun failure _ caught _ _ _ => .inl caught) fun stampMs stamped second _ => ?_
  refine safe_read trivial (fun failure _ caught _ _ _ => .inl caught) fun createdMs created third _ => ?_
  have none := third.1.trans (second.1.trans (first.1.trans empty))
  show Safe _ _ _ (writeSealedCopy host _ kind _ bytes >>= _) created
  refine Safe.bind ((safe_writeSealedCopy none _ kind _ bytes).weaken ?_)
  rintro (failure | manifest) copied outcome
  · exact .inl outcome
  obtain ⟨rfl, holds⟩ := outcome
  refine safe_read trivial (fun failure _ caught _ _ _ => .inl caught) fun statAfter seen fourth _ => ?_
  refine safe_read trivial (fun failure _ caught _ _ _ => .inl caught) fun content again fifth _ => ?_
  have still := holds.kept (fifth.1.trans fourth.1)
  show Safe _ _ _ (if _ then _ else _) again
  split
  · exact safe_unlinkBoth still (fun _ _ caught => .inl caught) fun later nothing => .inr nothing
  · exact fun later relied => ⟨⟨createdMs, rfl⟩, still.kept relied.1⟩
end

/-! ### Tools that read -/

section
variable {host : Host}

theorem required_asks {value : Option Text} {message : Message} :
    (required value message).Asks Request.IsRead ∧ (required value message).Returns (fun given => value = some given) := by
  unfold required
  split
  · exact ⟨trivial, rfl⟩
  · exact ⟨trivial, trivial⟩
theorem canonical_asks {path : Text} : (canonical host path).Asks Request.IsRead := by
  refine (Asks.attempt (asks_request trivial)).bind ?_
  rintro (failure | name) <;> trivial
theorem verifiedManifest_asks {path : Text} : (verifiedManifest host path).Asks Request.IsRead := by
  unfold verifiedManifest
  refine (Asks.attempt ((asks_request trivial).bind fun bytes => ?_)).bind ?_
  · split <;> trivial
  · rintro (failure | manifest)
    · trivial
    · exact (asks_request trivial).bind fun _ => asks_require.bind fun _ => trivial
/-- What is checked beyond the protected paths: the name that is returned stays. -/
theorem assertSafeCaptureInput_eq (host : Host) (path : Text) (env : Option Text) : ∃ checked : Text → Tool Text,
    (∀ input, (checked input).Asks Request.IsRead ∧ (checked input).Returns (· = input)) ∧
      assertSafeCaptureInput host path env = (assertNotProtected host path env >>= checked) := by
  refine ⟨_, fun input => ⟨?_, ?_⟩, rfl⟩
  · refine (asks_request trivial).bind fun info => asks_require.bind fun _ => (asks_request trivial).bind fun now => ?_
    dsimp only
    split
    · exact verifiedManifest_asks.bind fun _ => asks_require.bind fun _ => trivial
    · trivial
  · refine Returns.bind fun info => Returns.bind fun _ => Returns.bind fun now => ?_
    dsimp only
    split
    · exact Returns.bind fun _ => Returns.bind fun _ => rfl
    · rfl
theorem assertSafeOutput_asks {output input : Text} {env : Option Text} : (assertSafeOutput host output input env).Asks Request.IsRead :=
  canonical_asks.bind fun _ => canonical_asks.bind fun _ => (asks_mapM fun _ => canonical_asks).bind fun _ =>
    asks_require.bind fun _ => trivial
end

end EquityGuard.CaptureIsolation
