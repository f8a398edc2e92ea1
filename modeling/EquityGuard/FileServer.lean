import EquityGuard.FileStore

/-!
A file system that answers. A request that can be responded to is, any other is refused,
and after each one a recorder appends to its file. A script that is attended so to its end
has run as scripts may.
-/
namespace EquityGuard.FileServer
open EquityGuard.FileStore EquityGuard.Runs EquityGuard.Scripts EquityGuard.Scripts.Script

variable {Name Failure Result Task : Type}

/-! ### One request -/

section
variable [DecidableEq Name] (locate : Name → Name) (refusal : Failure) (script : Nat) (store : Store Name) (next : Nat)

/-- What comes of a request: the answer, the store as it is then, and the number that is next. -/
def serve : (request : Request Name) → Except Failure (Answer request) × Store Name × Nat
  | .realpath name => (.ok (locate name), store, next)
  | .stat name =>
    match store.found (locate name) with
    | some (_, file) => (.ok ⟨true, file.content.length, file.mtimeMs⟩, store, next)
    | none => (.error refusal, store, next)
  | .readFile name =>
    match store.found (locate name) with
    | some (_, file) => (.ok file.content, store, next)
    | none => (.error refusal, store, next)
  | .mkdir _ => (.ok (), store, next)
  | .openNew name =>
    match store.entry (locate name) with
    | some _ => (.error refusal, store, next)
    | none => (.ok next, store.create (locate name) next ⟨[], 0o644, store.clock, some script⟩, next + 1)
  | .writeFile number bytes =>
    match store.file number with
    | some file => (.ok (), store.put number { file with content := file.content ++ bytes, mtimeMs := store.clock }, next)
    | none => (.error refusal, store, next)
  | .write number bytes =>
    match store.file number with
    | some file => (.ok (), store.put number { file with content := file.content ++ bytes, mtimeMs := store.clock }, next)
    | none => (.error refusal, store, next)
  | .close _ => (.ok (), store, next)
  | .chmod name mode =>
    match store.found (locate name) with
    | some (number, file) => (.ok (), store.put number { file with mode }, next)
    | none => (.error refusal, store, next)
  | .unlink name =>
    match store.found (locate name) with
    | some _ => (.ok (), store.remove (locate name), next)
    | none => (.error refusal, store, next)
  | .now => (.ok store.clock, store, next)
end

/-- The numbers from the next one on are unused, and what is recorded to is a file that no script made. -/
structure Steady (live : Nat) (store : Store Name) (next : Nat) : Prop where
  unused : ∀ number, next ≤ number → store.Unused number
  recorded : ∃ file, store.file live = some file ∧ file.creator = none

section
variable {locate : Name → Name} {thrown : Failure → Prop} {refusal : Failure} {script live next : Nat} {store : Store Name}

theorem Steady.put (steady : Steady live store next) {number : Nat} {file changed : File} (known : store.file number = some file)
    (made : changed.creator = file.creator) : Steady live (store.put number changed) next := by
  refine ⟨fun other beyond => ⟨?_, (steady.unused other beyond).2⟩, ?_⟩
  · have different : other ≠ number := by
      rintro rfl
      rw [(steady.unused other beyond).1] at known
      cases known
    exact (if_neg different).trans (steady.unused other beyond).1
  · obtain ⟨recorded, there, foreign⟩ := steady.recorded
    by_cases same : live = number
    · subst same
      obtain rfl : recorded = file := Option.some.inj (there.symm.trans known)
      exact ⟨changed, if_pos rfl, made.trans foreign⟩
    · exact ⟨recorded, (if_neg same).trans there, foreign⟩

variable [DecidableEq Name]

theorem Steady.create (steady : Steady live store next) (place : Name) (file : File) :
    Steady live (store.create place next file) (next + 1) := by
  refine ⟨fun other beyond => ⟨?_, fun elsewhere => ?_⟩, ?_⟩
  · exact (if_neg (by omega)).trans (steady.unused other (by omega)).1
  · show (if elsewhere = place then some next else store.entry elsewhere) ≠ some other
    split
    · simp only [ne_eq, Option.some.injEq]
      omega
    · exact (steady.unused other (by omega)).2 elsewhere
  · obtain ⟨recorded, there, foreign⟩ := steady.recorded
    have different : live ≠ next := by
      rintro rfl
      rw [(steady.unused live (Nat.le_refl _)).1] at there
      cases there
    exact ⟨recorded, (if_neg different).trans there, foreign⟩
theorem Steady.remove (steady : Steady live store next) (place : Name) : Steady live (store.remove place) next := by
  refine ⟨fun other beyond => ⟨(steady.unused other beyond).1, fun elsewhere => ?_⟩, steady.recorded⟩
  show (if elsewhere = place then none else store.entry elsewhere) ≠ some other
  split
  · simp
  · exact (steady.unused other beyond).2 elsewhere

/-- What is served is a response that a script must expect. -/
theorem serve_responds (caught : thrown refusal) (steady : Steady live store next) (request : Request Name) :
    Responds locate thrown script store request (serve locate refusal script store next request).1
        (serve locate refusal script store next request).2.1 ∧
      Steady live (serve locate refusal script store next request).2.1 (serve locate refusal script store next request).2.2 := by
  have refused {Given : Type} : Refused thrown (.error refusal : Except Failure Given) := ⟨refusal, caught, rfl⟩
  cases request with
  | realpath name => exact ⟨⟨rfl, .inl rfl⟩, steady⟩
  | stat name =>
    simp only [serve]
    cases there : store.found (locate name) with
    | none => exact ⟨⟨rfl, .inr refused⟩, steady⟩
    | some found => exact ⟨⟨rfl, .inl ⟨_, rfl, by rw [there]⟩⟩, steady⟩
  | readFile name =>
    simp only [serve]
    cases there : store.found (locate name) with
    | none => exact ⟨⟨rfl, .inr refused⟩, steady⟩
    | some found => exact ⟨⟨rfl, .inl ⟨found.1, found.2, there, rfl⟩⟩, steady⟩
  | mkdir name => exact ⟨⟨rfl, .inl rfl⟩, steady⟩
  | openNew name =>
    simp only [serve]
    cases leads : store.entry (locate name) with
    | some other => exact ⟨.inl ⟨rfl, refused⟩, steady⟩
    | none => exact ⟨.inr ⟨next, _, leads, steady.unused next (Nat.le_refl _), rfl, rfl⟩, steady.create _ _⟩
  | writeFile number bytes =>
    simp only [serve]
    cases known : store.file number with
    | none => exact ⟨.inl ⟨rfl, refused⟩, steady⟩
    | some file =>
      exact ⟨.inr ⟨bytes, List.prefix_refl _, ⟨file, known, rfl⟩, .inl ⟨rfl, rfl⟩⟩, steady.put known (by rfl)⟩
  | write number bytes =>
    simp only [serve]
    cases known : store.file number with
    | none => exact ⟨.inl ⟨rfl, refused⟩, steady⟩
    | some file => exact ⟨.inr ⟨bytes, List.prefix_refl _, ⟨file, known, rfl⟩, .inl rfl⟩, steady.put known (by rfl)⟩
  | close number => exact ⟨⟨rfl, .inl rfl⟩, steady⟩
  | chmod name mode =>
    simp only [serve]
    cases there : store.found (locate name) with
    | none => exact ⟨.inl ⟨rfl, refused⟩, steady⟩
    | some found =>
      obtain ⟨number, file⟩ := found
      exact ⟨.inr ⟨number, file, there, rfl, rfl⟩, steady.put (found_eq_some.mp there).2 (by rfl)⟩
  | unlink name =>
    simp only [serve]
    cases there : store.found (locate name) with
    | none => exact ⟨.inl ⟨rfl, refused⟩, steady⟩
    | some found => exact ⟨.inr ⟨found.1, found.2, there, rfl, rfl⟩, steady.remove _⟩
  | now => exact ⟨⟨rfl, rfl⟩, steady⟩
end

/-! ### A script to its end -/

/-- The recorder appends to its file. -/
def record (live : Nat) (bytes : List UInt8) (store : Store Name) : Store Name :=
  match store.file live with
  | some file => store.put live { file with content := file.content ++ bytes, mtimeMs := store.clock }
  | none => store
/-- What became of a script, and what happened. -/
structure Attended (Name Failure Result Task : Type) where
  outcome : Except Failure Result
  store : Store Name
  events : List (Event (Disturbance Name) Task)

section
variable [DecidableEq Name] (locate : Name → Name) (refusal : Failure) (number live : Nat) (bytes : List UInt8)

def attend : Script (Request Name) Answer Failure Result → Store Name → Nat → List (Event (Disturbance Name) Task) →
    Attended Name Failure Result Task
  | .done result, store, _, events => ⟨.ok result, store, events⟩
  | .fail failure, store, _, events => ⟨.error failure, store, events⟩
  | .ask request rest, store, next, events =>
    let served := serve locate refusal number store next request
    attend (rest served.1) (record live bytes served.2.1) served.2.2
      (.disturbed (.appended live bytes served.2.1.clock) :: .answered number :: events)
end

section
variable [DecidableEq Name] {locate : Name → Name} {thrown : Failure → Prop} {refusal : Failure} {number live next : Nat} {store : Store Name}
  {tool : Task → Script (Request Name) Answer Failure Result} {task : Task}
  {initial : System (Store Name) Task (Request Name) Answer Failure Result → Prop}
  {events : List (Event (Disturbance Name) Task)}
  {scripts : List (Task × Script (Request Name) Answer Failure Result)}

theorem record_disturbs (steady : Steady live store next) (bytes : List UInt8) :
    Disturbs store (.appended live bytes store.clock) (record live bytes store) ∧ Steady live (record live bytes store) next := by
  obtain ⟨file, known, foreign⟩ := steady.recorded
  simp only [record, known]
  exact ⟨.appended bytes known foreign, steady.put known (by rfl)⟩
theorem set_found {α : Type} {objects : List α} {position : Nat} {object : α} (found : objects[position]? = some object) :
    objects.set position object = objects := by
  obtain ⟨inside, there⟩ := List.getElem?_eq_some_iff.mp found
  rw [← there, List.set_getElem_self]
/-- Attending to a script that was started continues a run to the script's end. -/
theorem attend_run (caught : thrown refusal) (bytes : List UInt8) {script : Script (Request Name) Answer Failure Result}
    (steady : Steady live store next) (run : Run initial (Step (sharing locate thrown) tool) events ⟨store, scripts⟩)
    (found : scripts[number]? = some (task, script)) :
    Run initial (Step (sharing locate thrown) tool) (attend locate refusal number live bytes script store next events).events
      ⟨(attend locate refusal number live bytes script store next events).store,
        scripts.set number (task, ofExcept (attend locate refusal number live bytes script store next events).outcome)⟩ := by
  induction script generalizing store next events scripts with
  | done result =>
    simpa only [attend, Script.ofExcept, set_found found] using run
  | fail failure =>
    simpa only [attend, Script.ofExcept, set_found found] using run
  | ask request rest ih =>
    obtain ⟨responded, served⟩ := @serve_responds _ _ locate thrown refusal number live next store _ caught steady request
    obtain ⟨disturbs, recorded⟩ := record_disturbs served bytes
    have inside : number < scripts.length := (List.getElem?_eq_some_iff.mp found).1
    have continued := ih _ recorded ((run.next (.answered found responded)).next (.disturbed disturbs))
      (List.getElem?_set_self inside)
    rwa [List.set_set] at continued
end

end EquityGuard.FileServer
