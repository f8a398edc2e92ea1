import EquityGuard.Scripts
import Mathlib.Logic.Function.Basic

/-!
Files that scripts share. A name leads to a place, and what stands there is a file, known
by a number that outlasts the place. A script can open a file only where there was none;
it writes, seals and removes what it opened. What else there is may grow, and more of it
may arrive.
-/
namespace EquityGuard.FileStore
open EquityGuard.Scripts EquityGuard.Scripts.Script

/-! ### Files -/

/-- The `creator` is the script that opened the file, if any did. No request reads it. -/
structure File where
  content : List UInt8
  mode : Nat
  mtimeMs : Int
  creator : Option Nat
structure Store (Name : Type) where
  entry : Name → Option Nat
  file : Nat → Option File
  clock : Int
/-- What is found at each place. -/
abbrev View (Name : Type) : Type := Name → Option (Nat × File)

variable {Name : Type}

namespace Store

def found (store : Store Name) (place : Name) : Option (Nat × File) :=
  (store.entry place).bind (fun number => (store.file number).map (fun file => (number, file)))
/-- What is found of the files that one script made, or that none did. -/
def held (store : Store Name) (who : Option Nat) (place : Name) : Option (Nat × File) :=
  (store.found place).filter (fun found => found.2.creator = who)
def Unused (store : Store Name) (number : Nat) : Prop := store.file number = none ∧ ∀ place, store.entry place ≠ some number
def put (store : Store Name) (number : Nat) (file : File) : Store Name :=
  { store with file := fun other => if other = number then some file else store.file other }

variable [DecidableEq Name]

def create (store : Store Name) (place : Name) (number : Nat) (file : File) : Store Name :=
  { store.put number file with entry := fun other => if other = place then some number else store.entry other }
def remove (store : Store Name) (place : Name) : Store Name :=
  { store with entry := fun other => if other = place then none else store.entry other }

end Store
open Store

/-- One file changed, wherever it is found. -/
def View.change (view : View Name) (number : Nat) (changed : File) (place : Name) : Option (Nat × File) :=
  (view place).map (fun found => (found.1, if found.1 = number then changed else found.2))

theorem View.change_update [DecidableEq Name] {view : View Name} {number : Nat} (new : ∀ place other, view place ≠ some (number, other))
    (place : Name) (file changed : File) :
    View.change (Function.update view place (some (number, file))) number changed =
      Function.update view place (some (number, changed)) := by
  funext other
  unfold View.change
  by_cases same : other = place
  · subst same
    simp
  · rw [Function.update_of_ne same, Function.update_of_ne same]
    cases there : view other with
    | none => rfl
    | some found =>
      have different : found.1 ≠ number := by
        rintro rfl
        exact new other found.2 there
      simp [different]
theorem View.change_update_ne [DecidableEq Name] {view : View Name} {number other : Nat} (different : other ≠ number)
    (place : Name) (file changed : File) :
    View.change (Function.update view place (some (other, file))) number changed =
      Function.update (View.change view number changed) place (some (other, file)) := by
  funext elsewhere
  unfold View.change
  by_cases same : elsewhere = place
  · subst same
    simp [different]
  · rw [Function.update_of_ne same, Function.update_of_ne same]

section
variable {store : Store Name} {place : Name} {number : Nat} {file changed : File} {who : Option Nat}

theorem found_eq_some : store.found place = some (number, file) ↔ store.entry place = some number ∧ store.file number = some file := by
  unfold Store.found
  simp only [Option.bind_eq_some_iff, Option.map_eq_some_iff, Prod.mk.injEq]
  constructor
  · rintro ⟨_, entry, _, content, rfl, rfl⟩
    exact ⟨entry, content⟩
  · rintro ⟨entry, content⟩
    exact ⟨number, entry, file, content, rfl, rfl⟩
theorem held_eq_some : store.held who place = some (number, file) ↔ store.found place = some (number, file) ∧ file.creator = who := by
  simp [held, Option.filter_eq_some_iff]
theorem held_eq_none (elsewhere : ∀ number file, store.found place = some (number, file) → file.creator ≠ who) :
    store.held who place = none := by
  cases known : store.held who place with
  | none => rfl
  | some found =>
    obtain ⟨stands, made⟩ := held_eq_some.mp known
    exact absurd made (elsewhere _ _ stands)

theorem found_put (known : store.file number = some file) :
    (store.put number changed).found = View.change store.found number changed := by
  funext place
  unfold View.change Store.found Store.put
  cases leads : store.entry place with
  | none => rfl
  | some other =>
    by_cases same : other = number
    · subst same
      simp [known]
    · simp [Function.comp_def, same]
/-- A file that changes is seen to change by who made it, and by nobody else. -/
theorem held_put (known : store.file number = some file) (made : changed.creator = file.creator) :
    (store.put number changed).held who = if file.creator = who then View.change (store.held who) number changed else store.held who := by
  funext place
  simp only [held, found_put known, apply_ite (fun view : View Name => view place), View.change]
  cases there : store.found place with
  | none => split <;> rfl
  | some found =>
    obtain ⟨other, content⟩ := found
    by_cases same : other = number
    · subst same
      obtain rfl : content = file := Option.some.inj ((found_eq_some.mp there).2.symm.trans known)
      split
      · rename_i mine
        simp [Option.filter_some, made, mine]
      · rename_i foreign
        simp [Option.filter_some, made, foreign]
    · by_cases mine : content.creator = who <;> split <;> simp [Option.filter_some, mine, same]

variable [DecidableEq Name]

theorem found_create (unused : store.Unused number) :
    (store.create place number file).found = Function.update store.found place (some (number, file)) := by
  funext other
  unfold Store.found Store.create Store.put
  by_cases same : other = place
  · subst same
    simp
  · rw [Function.update_of_ne same]
    dsimp only
    rw [if_neg same]
    cases known : store.entry other with
    | none => rfl
    | some elsewhere =>
      have different : elsewhere ≠ number := fun equal => unused.2 other (by rw [known, equal])
      simp [different]
/-- A new file is seen by who made it, and by nobody else. -/
theorem held_create (free : store.entry place = none) (unused : store.Unused number) :
    (store.create place number file).held who =
      if file.creator = who then Function.update (store.held who) place (some (number, file)) else store.held who := by
  have nothing : store.held who place = none := held_eq_none fun _ _ stands => by
    rw [(found_eq_some.mp stands).1] at free
    cases free
  funext other
  unfold held at nothing ⊢
  rw [found_create unused]
  by_cases same : other = place
  · subst same
    split
    · rename_i mine
      simp [Option.filter_some, mine]
    · rename_i foreign
      refine Eq.trans ?_ nothing.symm
      simp [Option.filter_some, foreign]
  · rw [Function.update_of_ne same]
    split
    · rw [Function.update_of_ne same]
    · rfl
theorem found_remove : (store.remove place).found = Function.update store.found place none := by
  funext other
  unfold Store.found Store.remove
  by_cases same : other = place
  · subst same
    simp
  · simp [same]
/-- A file that is removed was seen by who made it, and by nobody else. -/
theorem held_remove (there : store.found place = some (number, file)) :
    (store.remove place).held who = if file.creator = who then Function.update (store.held who) place none else store.held who := by
  funext other
  unfold held
  rw [found_remove]
  by_cases same : other = place
  · subst same
    split
    · simp
    · rename_i foreign
      simp [there, Option.filter_some, foreign]
  · rw [Function.update_of_ne same]
    split
    · rw [Function.update_of_ne same]
    · rfl
end

/-! ### What happens -/

def View.Grows (before after : View Name) : Prop :=
  ∀ place number file, before place = some (number, file) →
    ∃ grown, after place = some (number, grown) ∧ file.content <+: grown.content

theorem View.Grows.refl (view : View Name) : view.Grows view := fun _ _ file stands => ⟨file, stands, List.prefix_refl _⟩
theorem View.Grows.trans {before between after : View Name} (first : before.Grows between) (second : between.Grows after) :
    before.Grows after := by
  intro place number file stands
  obtain ⟨middle, there, earlier⟩ := first place number file stands
  obtain ⟨grown, here, later⟩ := second place number middle there
  exact ⟨grown, here, earlier.trans later⟩

/-- A script counts on what it made, and on the rest to grow at most. -/
def Rely (script : Nat) (before after : Store Name) : Prop :=
  after.held (some script) = before.held (some script) ∧ View.Grows (before.held none) (after.held none)
/-- A script touches nothing but what it makes. -/
def Guarantee (script : Nat) (before after : Store Name) : Prop := ∀ who, who ≠ some script → after.held who = before.held who

theorem Rely.trans {script : Nat} {before between after : Store Name} (first : Rely script before between)
    (second : Rely script between after) : Rely script before after :=
  ⟨second.1.trans first.1, first.2.trans second.2⟩
theorem rely_of_guarantee {script other : Nat} {before after : Store Name} (different : script ≠ other)
    (kept : Guarantee other before after) : Rely script before after := by
  refine ⟨kept _ (by simpa using different), ?_⟩
  rw [kept none (by simp)]
  exact View.Grows.refl _

/-- Some bytes, and maybe not all, were added to an open file. -/
def Wrote (before : Store Name) (number : Nat) (written : List UInt8) (after : Store Name) : Prop :=
  ∃ file, before.file number = some file ∧
    after = before.put number { file with content := file.content ++ written, mtimeMs := before.clock }
/-- Bytes that are added to a file of the script. -/
theorem guarantee_wrote {script : Nat} {store later after : Store Name} {place : Name} {number : Nat} {file : File} {written : List UInt8}
    (mine : later.held (some script) = store.held (some script))
    (there : store.held (some script) place = some (number, file)) (wrote : Wrote later number written after) :
    Guarantee script later after ∧ ∃ timeMs, after.held (some script) =
      View.change (store.held (some script)) number { file with content := file.content ++ written, mtimeMs := timeMs } := by
  obtain ⟨old, known, rfl⟩ := wrote
  rw [← mine] at there
  obtain ⟨stands, made⟩ := held_eq_some.mp there
  obtain rfl : old = file := Option.some.inj (known.symm.trans (found_eq_some.mp stands).2)
  refine ⟨fun who other => ?_, later.clock, ?_⟩
  · rw [held_put known (by rfl), if_neg (by rw [made]; exact Ne.symm other)]
  · rw [held_put known (by rfl), if_pos made, mine]

/-- Time passes; a file that no script made is appended to, or another arrives. -/
inductive Disturbance (Name : Type) where
  | passed (timeMs : Int)
  | appended (number : Nat) (bytes : List UInt8) (timeMs : Int)
  | arrived (place : Name) (number : Nat) (file : File)
/-- What can be asked for: how a name is spelled where it leads, what a file is, its content, a directory, a new file, to
    write to an open file all of some bytes, or as many as it takes, to close one, to change a mode, to remove, the time. -/
inductive Request (Name : Type) where
  | realpath (name : Name)
  | stat (name : Name)
  | readFile (name : Name)
  | mkdir (name : Name)
  | openNew (name : Name)
  | writeFile (number : Nat) (bytes : List UInt8)
  | write (number : Nat) (bytes : List UInt8)
  | close (number : Nat)
  | chmod (name : Name) (mode : Nat)
  | unlink (name : Name)
  | now
structure Stats where
  isFile : Bool
  size : Nat
  mtimeMs : Int
abbrev Answer : Request Name → Type
  | .realpath _ => Name
  | .stat _ => Stats
  | .readFile _ => List UInt8
  | .openNew _ => Nat
  | .now => Int
  | _ => Unit

/-- The requests that leave the files as they are. -/
def Request.IsRead : Request Name → Prop
  | realpath _ | stat _ | readFile _ | mkdir _ | close _ | now => True
  | _ => False

section
variable {Failure : Type}
def realpath (name : Name) : Script (Request Name) Answer Failure Name := .ask (.realpath name) ofExcept
def stat (name : Name) : Script (Request Name) Answer Failure Stats := .ask (.stat name) ofExcept
def readFile (name : Name) : Script (Request Name) Answer Failure (List UInt8) := .ask (.readFile name) ofExcept
def mkdir (name : Name) : Script (Request Name) Answer Failure Unit := .ask (.mkdir name) ofExcept
/-- `open(name, "wx")`. -/
def openNew (name : Name) : Script (Request Name) Answer Failure Nat := .ask (.openNew name) ofExcept
def writeFile (number : Nat) (bytes : List UInt8) : Script (Request Name) Answer Failure Unit := .ask (.writeFile number bytes) ofExcept
def write (number : Nat) (bytes : List UInt8) : Script (Request Name) Answer Failure Unit := .ask (.write number bytes) ofExcept
def close (number : Nat) : Script (Request Name) Answer Failure Unit := .ask (.close number) ofExcept
def chmod (name : Name) (mode : Nat) : Script (Request Name) Answer Failure Unit := .ask (.chmod name mode) ofExcept
def unlink (name : Name) : Script (Request Name) Answer Failure Unit := .ask (.unlink name) ofExcept
/-- `new Date()`. -/
def now : Script (Request Name) Answer Failure Int := .ask .now ofExcept
end

section
variable [DecidableEq Name] {Failure : Type}
-- Where a name leads, and the failures that are thrown at requests.
variable (locate : Name → Name) (thrown : Failure → Prop)

inductive Disturbs (store : Store Name) : Disturbance Name → Store Name → Prop where
  | passed {timeMs : Int} (later : store.clock ≤ timeMs) : Disturbs store (.passed timeMs) { store with clock := timeMs }
  | appended {number : Nat} {file : File} (bytes : List UInt8) (known : store.file number = some file)
      (foreign : file.creator = none) : Disturbs store (.appended number bytes store.clock)
        (store.put number { file with content := file.content ++ bytes, mtimeMs := store.clock })
  | arrived {place : Name} {number : Nat} {file : File} (free : store.entry place = none) (unused : store.Unused number)
      (foreign : file.creator = none) : Disturbs store (.arrived place number file) (store.create place number file)

/-- What a disturbance does to the files that no script made, told from them alone. -/
def Disturbance.seen (view : View Name) : Disturbance Name → View Name
  | .passed _ => view
  | .appended number bytes timeMs => fun place => (view place).map (fun found =>
    (found.1, if found.1 = number then { found.2 with content := found.2.content ++ bytes, mtimeMs := timeMs } else found.2))
  | .arrived place number file => Function.update view place (some (number, file))

theorem held_disturbs {before after : Store Name} {disturbance : Disturbance Name}
    (disturbs : Disturbs before disturbance after) : after.held none = disturbance.seen (before.held none) := by
  cases disturbs with
  | passed later => rfl
  | @appended number file bytes known foreign =>
    rw [held_put known (by rfl), if_pos foreign]
    funext place
    unfold View.change Disturbance.seen
    dsimp only
    cases there : before.held none place with
    | none => rfl
    | some found =>
      obtain ⟨other, content⟩ := found
      by_cases same : other = number
      · subst same
        obtain rfl : content = file := Option.some.inj ((found_eq_some.mp (held_eq_some.mp there).1).2.symm.trans known)
        simp
      · simp [same]
  | arrived free unused foreign =>
    rw [held_create free unused, if_pos foreign]
    rfl

/-- A request that is refused. -/
def Refused {Result : Type} (answer : Except Failure Result) : Prop := ∃ failure, thrown failure ∧ answer = .error failure
/-- How a request of a script is responded to. A name of what is no file may be responded to as one of something else. -/
def Responds (script : Nat) (before : Store Name) :
    (request : Request Name) → Except Failure (Answer request) → Store Name → Prop
  | .realpath name, answer, after => after = before ∧ (answer = .ok (locate name) ∨ Refused thrown answer)
  | .stat name, answer, after => after = before ∧
    ((∃ stats, answer = .ok stats ∧
      match before.found (locate name) with
      | some (_, file) => stats = ⟨true, file.content.length, file.mtimeMs⟩
      | none => stats.isFile = false) ∨ Refused thrown answer)
  | .readFile name, answer, after => after = before ∧
    ((∃ number file, before.found (locate name) = some (number, file) ∧ answer = .ok file.content) ∨ Refused thrown answer)
  | .mkdir _, answer, after => after = before ∧ (answer = .ok () ∨ Refused thrown answer)
  | .openNew name, answer, after => (after = before ∧ Refused thrown answer) ∨
    ∃ number mode, before.entry (locate name) = none ∧ before.Unused number ∧ answer = .ok number ∧
      after = before.create (locate name) number ⟨[], mode, before.clock, some script⟩
  | .writeFile number bytes, answer, after => (after = before ∧ Refused thrown answer) ∨
    ∃ written, written <+: bytes ∧ Wrote before number written after ∧ ((answer = .ok () ∧ written = bytes) ∨ Refused thrown answer)
  | .write number bytes, answer, after => (after = before ∧ Refused thrown answer) ∨
    ∃ written, written <+: bytes ∧ Wrote before number written after ∧ (answer = .ok () ∨ Refused thrown answer)
  | .close _, answer, after => after = before ∧ (answer = .ok () ∨ Refused thrown answer)
  | .chmod name mode, answer, after => (after = before ∧ Refused thrown answer) ∨
    ∃ number file, before.found (locate name) = some (number, file) ∧ answer = .ok () ∧
      after = before.put number { file with mode }
  | .unlink name, answer, after => (after = before ∧ Refused thrown answer) ∨
    ∃ number file, before.found (locate name) = some (number, file) ∧ answer = .ok () ∧ after = before.remove (locate name)
  | .now, answer, after => after = before ∧ answer = .ok before.clock

theorem rely_of_disturbs {script : Nat} {before after : Store Name} {disturbance : Disturbance Name}
    (disturbs : Disturbs before disturbance after) : Rely script before after := by
  cases disturbs with
  | passed later => exact ⟨rfl, View.Grows.refl _⟩
  | @appended number file bytes known foreign =>
    constructor
    · rw [held_put known (by simp), if_neg (by simp [foreign])]
    · rw [held_put known (by simp), if_pos foreign]
      intro place other old stands
      by_cases same : other = number
      · subst same
        obtain rfl : old = file := Option.some.inj ((found_eq_some.mp (held_eq_some.mp stands).1).2.symm.trans known)
        exact ⟨{ old with content := old.content ++ bytes, mtimeMs := before.clock }, by simp [View.change, stands],
          List.prefix_append _ _⟩
      · exact ⟨old, by simp [View.change, stands, same], List.prefix_refl _⟩
  | @arrived place number file free unused foreign =>
    constructor
    · rw [held_create free unused, if_neg (by simp [foreign])]
    · rw [held_create free unused, if_pos foreign]
      intro other old content stands
      have different : other ≠ place := by
        rintro rfl
        rw [(found_eq_some.mp (held_eq_some.mp stands).1).1] at free
        cases free
      exact ⟨content, by rw [Function.update_of_ne different, stands], List.prefix_refl _⟩

/-- Files as scripts share them. -/
def sharing : Sharing (Store Name) (Disturbance Name) (Request Name) Answer Failure where
  responds := Responds locate thrown
  disturbs := Disturbs
  rely := Rely
  guarantee := Guarantee
  still := fun _ _ => ⟨rfl, View.Grows.refl _⟩
  further := Rely.trans
  granted := rely_of_guarantee
  disturbed := rely_of_disturbs

/-! ### What a script sees of its requests -/

variable {locate : Name → Name} {thrown : Failure → Prop} {script : Nat} {store : Store Name} {Result : Type}
  {promised : Except Failure Result → Store Name → Prop}

theorem responds_read {request : Request Name} (read : request.IsRead) {before after : Store Name}
    {answer : Except Failure (Answer request)} (responded : Responds locate thrown script before request answer after) :
    after = before ∧ ((∃ value, answer = .ok value) ∨ Refused thrown answer) := by
  cases request with
  | realpath name => exact ⟨responded.1, responded.2.imp_left fun same => ⟨_, same⟩⟩
  | stat name => exact ⟨responded.1, responded.2.imp_left fun found => ⟨found.choose, found.choose_spec.1⟩⟩
  | readFile name => exact ⟨responded.1, responded.2.imp_left fun ⟨_, _, _, same⟩ => ⟨_, same⟩⟩
  | mkdir name => exact ⟨responded.1, responded.2.imp_left fun same => ⟨_, same⟩⟩
  | close number => exact ⟨responded.1, responded.2.imp_left fun same => ⟨_, same⟩⟩
  | now => exact ⟨responded.1, .inl ⟨_, responded.2⟩⟩
  | openNew | writeFile | write | chmod | unlink => exact read.elim
/-- A script that only reads leaves the files as they are. -/
theorem safe_reads {reader : Script (Request Name) Answer Failure Result} {told : Result → Prop}
    (reads : reader.Asks Request.IsRead) (returns : reader.Returns told)
    (failed : ∀ failure after, Rely script store after → promised (.error failure) after)
    (returned : ∀ result after, told result → Rely script store after → promised (.ok result) after) :
    Safe (sharing locate thrown) script promised reader store := by
  induction reader generalizing store with
  | done result => exact fun later relied => returned _ later returns relied
  | fail failure => exact fun later relied => failed _ later relied
  | ask request next ih =>
    intro later relied answer after responded
    obtain ⟨rfl, _⟩ := responds_read reads.1 responded
    refine ⟨fun _ _ => rfl, ih answer (reads.2 answer) (returns answer) ?_ ?_⟩
    · exact fun failure after more => failed failure after (relied.trans more)
    · exact fun result after as more => returned result after as (relied.trans more)
theorem safe_after_reads {Read : Type} {reader : Script (Request Name) Answer Failure Read} {told : Read → Prop}
    {next : Read → Script (Request Name) Answer Failure Result} (reads : reader.Asks Request.IsRead) (returns : reader.Returns told)
    (failed : ∀ failure after, Rely script store after → promised (.error failure) after)
    (rest : ∀ result after, told result → Rely script store after → Safe (sharing locate thrown) script promised (next result) after) :
    Safe (sharing locate thrown) script promised (reader >>= next) store :=
  Safe.bind (safe_reads reads returns failed rest)
/-- One request to read: refused, or answered from the store as it has become. -/
theorem safe_read {request : Request Name} {next : Except Failure (Answer request) → Script (Request Name) Answer Failure Result}
    (read : request.IsRead)
    (refused : ∀ failure after, thrown failure → Rely script store after →
      Safe (sharing locate thrown) script promised (next (.error failure)) after)
    (answered : ∀ value after, Rely script store after → Responds locate thrown script after request (.ok value) after →
      Safe (sharing locate thrown) script promised (next (.ok value)) after) :
    Safe (sharing locate thrown) script promised (.ask request next) store := by
  intro later relied answer after responded
  obtain ⟨rfl, ⟨value, rfl⟩ | ⟨failure, caught, rfl⟩⟩ := responds_read read responded
  · exact ⟨fun _ _ => rfl, answered value _ relied responded⟩
  · exact ⟨fun _ _ => rfl, refused failure _ caught relied⟩
/-- A file that is opened anew: what the script made, and this one, empty. -/
theorem safe_openNew {name : Name} {next : Except Failure Nat → Script (Request Name) Answer Failure Result}
    (refused : ∀ failure after, thrown failure → after.held (some script) = store.held (some script) →
      Safe (sharing locate thrown) script promised (next (.error failure)) after)
    (opened : ∀ number file after, file.content = [] → store.held (some script) (locate name) = none →
      (∀ place other, store.held (some script) place ≠ some (number, other)) →
      after.held (some script) = Function.update (store.held (some script)) (locate name) (some (number, file)) →
      Safe (sharing locate thrown) script promised (next (.ok number)) after) :
    Safe (sharing locate thrown) script promised (.ask (.openNew name) next) store := by
  rintro later ⟨mine, _⟩ answer after (⟨rfl, failure, caught, rfl⟩ | ⟨number, mode, free, unused, rfl, rfl⟩)
  · exact ⟨fun _ _ => rfl, refused failure _ caught mine⟩
  · refine ⟨fun who other => ?_, opened number ⟨[], mode, later.clock, some script⟩ _ rfl ?_ ?_ ?_⟩
    · rw [held_create free unused, if_neg (Ne.symm other)]
    · rw [← mine]
      refine held_eq_none fun _ _ stands => ?_
      rw [(found_eq_some.mp stands).1] at free
      cases free
    · intro place file there
      rw [← mine] at there
      exact unused.2 place (found_eq_some.mp (held_eq_some.mp there).1).1
    · rw [held_create free unused, if_pos rfl, mine]
/-- All of some bytes, or a failure on the way. -/
theorem safe_writeFile {place : Name} {number : Nat} {file : File} {bytes : List UInt8}
    {next : Except Failure Unit → Script (Request Name) Answer Failure Result}
    (there : store.held (some script) place = some (number, file))
    (refused : ∀ failure after, thrown failure → Safe (sharing locate thrown) script promised (next (.error failure)) after)
    (wrote : ∀ timeMs after, after.held (some script) =
        View.change (store.held (some script)) number { file with content := file.content ++ bytes, mtimeMs := timeMs } →
      Safe (sharing locate thrown) script promised (next (.ok ())) after) :
    Safe (sharing locate thrown) script promised (.ask (.writeFile number bytes) next) store := by
  rintro later ⟨mine, _⟩ answer after (⟨rfl, failure, caught, rfl⟩ | ⟨written, _, added, outcome⟩)
  · exact ⟨fun _ _ => rfl, refused failure _ caught⟩
  · obtain ⟨kept, timeMs, changed⟩ := guarantee_wrote mine there added
    refine ⟨kept, ?_⟩
    rcases outcome with ⟨rfl, rfl⟩ | ⟨failure, caught, rfl⟩
    · exact wrote timeMs _ changed
    · exact refused failure _ caught
/-- Some bytes; the file is still the script's. -/
theorem safe_write {place : Name} {number : Nat} {file : File} {bytes : List UInt8}
    {next : Except Failure Unit → Script (Request Name) Answer Failure Result}
    (there : store.held (some script) place = some (number, file))
    (refused : ∀ failure after, thrown failure → Safe (sharing locate thrown) script promised (next (.error failure)) after)
    (wrote : ∀ changed after, after.held (some script) place = some (number, changed) →
      Safe (sharing locate thrown) script promised (next (.ok ())) after) :
    Safe (sharing locate thrown) script promised (.ask (.write number bytes) next) store := by
  rintro later ⟨mine, _⟩ answer after (⟨rfl, failure, caught, rfl⟩ | ⟨written, _, added, outcome⟩)
  · exact ⟨fun _ _ => rfl, refused failure _ caught⟩
  · obtain ⟨kept, timeMs, changed⟩ := guarantee_wrote mine there added
    refine ⟨kept, ?_⟩
    rcases outcome with rfl | ⟨failure, caught, rfl⟩
    · refine wrote { file with content := file.content ++ written, mtimeMs := timeMs } _ ?_
      rw [changed]
      simp [View.change, there]
    · exact refused failure _ caught
theorem safe_chmod {name : Name} {mode number : Nat} {file : File}
    {next : Except Failure Unit → Script (Request Name) Answer Failure Result}
    (there : store.held (some script) (locate name) = some (number, file))
    (refused : ∀ failure after, thrown failure → Safe (sharing locate thrown) script promised (next (.error failure)) after)
    (sealed : ∀ after, after.held (some script) = View.change (store.held (some script)) number { file with mode } →
      Safe (sharing locate thrown) script promised (next (.ok ())) after) :
    Safe (sharing locate thrown) script promised (.ask (.chmod name mode) next) store := by
  rintro later ⟨mine, _⟩ answer after (⟨rfl, failure, caught, rfl⟩ | ⟨other, old, known, rfl, rfl⟩)
  · exact ⟨fun _ _ => rfl, refused failure _ caught⟩
  · rw [← mine] at there
    obtain ⟨stands, made⟩ := held_eq_some.mp there
    obtain ⟨rfl, rfl⟩ := Prod.mk.inj (Option.some.inj (known.symm.trans stands))
    have file := (found_eq_some.mp known).2
    refine ⟨fun who other => ?_, sealed _ ?_⟩
    · rw [held_put file (by rfl), if_neg (by rw [made]; exact Ne.symm other)]
    · rw [held_put file (by rfl), if_pos made, mine]
theorem safe_unlink {name : Name} {number : Nat} {file : File}
    {next : Except Failure Unit → Script (Request Name) Answer Failure Result}
    (there : store.held (some script) (locate name) = some (number, file))
    (refused : ∀ failure after, thrown failure → Safe (sharing locate thrown) script promised (next (.error failure)) after)
    (removed : ∀ after, after.held (some script) = Function.update (store.held (some script)) (locate name) none →
      Safe (sharing locate thrown) script promised (next (.ok ())) after) :
    Safe (sharing locate thrown) script promised (.ask (.unlink name) next) store := by
  rintro later ⟨mine, _⟩ answer after (⟨rfl, failure, caught, rfl⟩ | ⟨other, old, known, rfl, rfl⟩)
  · exact ⟨fun _ _ => rfl, refused failure _ caught⟩
  · rw [← mine] at there
    obtain ⟨stands, made⟩ := held_eq_some.mp there
    obtain ⟨rfl, rfl⟩ := Prod.mk.inj (Option.some.inj (known.symm.trans stands))
    refine ⟨fun who other => ?_, removed _ ?_⟩
    · rw [held_remove known, if_neg (by rw [made]; exact Ne.symm other)]
    · rw [held_remove known, if_pos made, mine]
end

end EquityGuard.FileStore
