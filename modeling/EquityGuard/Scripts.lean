import EquityGuard.Runs

/-!
Scripts that share a state. A script makes one request after another and sees what comes
of each, failures too; between its requests other scripts, and the world around them,
change the state. Each script is verified alone, against what it may rely on. When each
guarantees what the others rely on, what was proved of every one holds of all together.
-/
namespace EquityGuard.Scripts
open EquityGuard.Runs

inductive Script (Request : Type) (Answer : Request → Type) (Failure Result : Type) where
  | done (result : Result)
  | fail (failure : Failure)
  | ask (request : Request) (next : Except Failure (Answer request) → Script Request Answer Failure Result)

variable {State Disturbance Task Request : Type} {Answer : Request → Type} {Failure Result Next : Type}

namespace Script

def bind (script : Script Request Answer Failure Result) (next : Result → Script Request Answer Failure Next) :
    Script Request Answer Failure Next :=
  match script with
  | done result => next result
  | fail failure => .fail failure
  | ask request rest => .ask request (fun answer => (rest answer).bind next)
instance : Monad (Script Request Answer Failure) where
  pure := done
  bind := bind
def ofExcept : Except Failure Result → Script Request Answer Failure Result
  | .ok result => .done result
  | .error failure => .fail failure
/-- `if (!condition) throw failure;`. -/
def require (condition : Prop) [Decidable condition] (failure : Failure) : Script Request Answer Failure Unit :=
  if condition then .done () else .fail failure
/-- The script within `try`, and what became of it. -/
def attempt (script : Script Request Answer Failure Result) : Script Request Answer Failure (Except Failure Result) :=
  match script with
  | done result => .done (.ok result)
  | fail failure => .done (.error failure)
  | ask request rest => .ask request (fun answer => (rest answer).attempt)
/-- `try { script } finally { cleanup }`. -/
def lastly (script : Script Request Answer Failure Result) (cleanup : Script Request Answer Failure Unit) :
    Script Request Answer Failure Result := do
  let outcome ← script.attempt
  cleanup
  ofExcept outcome

/-- A script makes no request but those that are allowed, whatever the answers are. -/
def Asks (allowed : Request → Prop) : Script Request Answer Failure Result → Prop
  | done _ => True
  | fail _ => True
  | ask request next => allowed request ∧ ∀ answer, (next answer).Asks allowed

/-- What a script returns is as told, whatever the answers are. -/
def Returns (told : Result → Prop) : Script Request Answer Failure Result → Prop
  | done result => told result
  | fail _ => True
  | ask _ next => ∀ answer, (next answer).Returns told

section
variable {allowed : Request → Prop} {script : Script Request Answer Failure Result}

theorem asks_ofExcept {outcome : Except Failure Result} :
    (ofExcept outcome : Script Request Answer Failure Result).Asks allowed := by
  cases outcome <;> trivial
theorem asks_request {request : Request} (allows : allowed request) :
    (.ask request ofExcept : Script Request Answer Failure (Answer request)).Asks allowed :=
  ⟨allows, fun _ => asks_ofExcept⟩
theorem asks_require {condition : Prop} [Decidable condition] {failure : Failure} :
    (require condition failure : Script Request Answer Failure Unit).Asks allowed := by
  unfold require
  split <;> trivial
theorem Asks.bind {next : Result → Script Request Answer Failure Next} (asks : script.Asks allowed)
    (rest : ∀ result, (next result).Asks allowed) : (script >>= next).Asks allowed := by
  induction script with
  | done result => exact rest result
  | fail failure => trivial
  | ask request continuation ih => exact ⟨asks.1, fun answer => ih answer (asks.2 answer)⟩
theorem Asks.attempt (asks : script.Asks allowed) : script.attempt.Asks allowed := by
  induction script with
  | done | fail => trivial
  | ask request continuation ih => exact ⟨asks.1, fun answer => ih answer (asks.2 answer)⟩
theorem Returns.bind {told : Next → Prop} {next : Result → Script Request Answer Failure Next}
    (rest : ∀ result, (next result).Returns told) : (script >>= next).Returns told := by
  induction script with
  | done result => exact rest result
  | fail failure => trivial
  | ask request continuation ih => exact fun answer => ih answer
theorem returns_any (script : Script Request Answer Failure Result) : script.Returns (fun _ => True) := by
  induction script with
  | done | fail => trivial
  | ask request next ih => exact ih
theorem asks_mapM {Item : Type} {items : List Item} {each : Item → Script Request Answer Failure Result}
    (asks : ∀ item, (each item).Asks allowed) : (items.mapM' each).Asks allowed := by
  induction items with
  | nil => trivial
  | cons item rest ih => exact (asks item).bind fun _ => ih.bind fun _ => trivial
end

theorem bind_assoc {Last : Type} (script : Script Request Answer Failure Result) (next : Result → Script Request Answer Failure Next)
    (last : Next → Script Request Answer Failure Last) : ((script >>= next) >>= last) = (script >>= fun result => next result >>= last) := by
  induction script with
  | done result => rfl
  | fail failure => rfl
  | ask request rest ih => exact congrArg (Script.ask request) (funext ih)

end Script
open Script

/-- What scripts share: how requests are responded to, by the number of the script that makes them, what else happens to
    the state, and what each script relies on and guarantees. -/
structure Sharing (State Disturbance Request : Type) (Answer : Request → Type) (Failure : Type) where
  responds : Nat → State → (request : Request) → Except Failure (Answer request) → State → Prop
  disturbs : State → Disturbance → State → Prop
  rely : Nat → State → State → Prop
  guarantee : Nat → State → State → Prop
  still : ∀ number state, rely number state state
  further : ∀ {number before between after}, rely number before between → rely number between after → rely number before after
  granted : ∀ {number other before after}, number ≠ other → guarantee other before after → rely number before after
  disturbed : ∀ {number before disturbance after}, disturbs before disturbance after → rely number before after

/-! ### One script -/

variable (sharing : Sharing State Disturbance Request Answer Failure) (number : Nat)

/-- However the state changes within what a script relies on, each of its requests keeps its guarantee, and it ends as
    promised. -/
def Safe (promised : Except Failure Result → State → Prop) : Script Request Answer Failure Result → State → Prop
  | .done result, state => ∀ later, sharing.rely number state later → promised (.ok result) later
  | .fail failure, state => ∀ later, sharing.rely number state later → promised (.error failure) later
  | .ask request next, state => ∀ later, sharing.rely number state later → ∀ answer after,
      sharing.responds number later request answer after → sharing.guarantee number later after ∧ Safe promised (next answer) after

variable {sharing number}
variable {promised weaker : Except Failure Result → State → Prop} {script : Script Request Answer Failure Result} {state : State}

theorem Safe.later {changed : State} (safe : Safe sharing number promised script state)
    (relied : sharing.rely number state changed) : Safe sharing number promised script changed := by
  cases script with
  | done | fail => exact fun later more => safe later (sharing.further relied more)
  | ask request next => exact fun later more => safe later (sharing.further relied more)
theorem Safe.weaken (safe : Safe sharing number promised script state)
    (weakens : ∀ outcome state, promised outcome state → weaker outcome state) : Safe sharing number weaker script state := by
  induction script generalizing state with
  | done result => exact fun later relied => weakens _ _ (safe later relied)
  | fail failure => exact fun later relied => weakens _ _ (safe later relied)
  | ask request next ih =>
    intro later relied answer after responded
    obtain ⟨kept, rest⟩ := safe later relied answer after responded
    exact ⟨kept, ih answer rest⟩
/-- What lasts, whoever takes a step, lasts through a script. -/
theorem Safe.frame {lasting : State → Prop} (safe : Safe sharing number promised script state) (holds : lasting state)
    (relied : ∀ before after, sharing.rely number before after → lasting before → lasting after)
    (guaranteed : ∀ before after, sharing.guarantee number before after → lasting before → lasting after) :
    Safe sharing number (fun outcome state => promised outcome state ∧ lasting state) script state := by
  induction script generalizing state with
  | done result => exact fun later more => ⟨safe later more, relied _ _ more holds⟩
  | fail failure => exact fun later more => ⟨safe later more, relied _ _ more holds⟩
  | ask request next ih =>
    intro later more answer after responded
    obtain ⟨kept, rest⟩ := safe later more answer after responded
    exact ⟨kept, ih answer rest (guaranteed _ _ kept (relied _ _ more holds))⟩
theorem Safe.bind {next : Result → Script Request Answer Failure Next} {promised : Except Failure Next → State → Prop}
    (first : Safe sharing number (fun outcome state =>
      match outcome with
      | .ok result => Safe sharing number promised (next result) state
      | .error failure => promised (.error failure) state) script state) :
    Safe sharing number promised (script >>= next) state := by
  induction script generalizing state with
  | done result => exact first state (sharing.still number state)
  | fail failure => exact first
  | ask request rest ih =>
    intro later relied answer after responded
    obtain ⟨kept, safe⟩ := first later relied answer after responded
    exact ⟨kept, ih answer safe⟩
theorem Safe.attempt (safe : Safe sharing number promised script state) :
    Safe sharing number (fun outcome state => ∀ result, outcome = .ok result → promised result state) script.attempt state := by
  induction script generalizing state with
  | done result =>
    intro later relied _ same
    cases same
    exact safe later relied
  | fail failure =>
    intro later relied _ same
    cases same
    exact safe later relied
  | ask request rest ih =>
    intro later relied answer after responded
    obtain ⟨kept, rest⟩ := safe later relied answer after responded
    exact ⟨kept, ih answer rest⟩
theorem Safe.require {condition : Prop} [Decidable condition] {failure : Failure} {promised : Except Failure Unit → State → Prop}
    (met : condition → ∀ later, sharing.rely number state later → promised (.ok ()) later)
    (unmet : ¬ condition → ∀ later, sharing.rely number state later → promised (.error failure) later) :
    Safe sharing number promised (Script.require condition failure) state := by
  unfold Script.require
  split
  · exact met ‹_›
  · exact unmet ‹_›

/-! ### All of them together -/

/-- The state, and the scripts with the tasks they were started for. -/
structure System (State Task Request : Type) (Answer : Request → Type) (Failure Result : Type) where
  state : State
  scripts : List (Task × Script Request Answer Failure Result)
inductive Event (Disturbance Task : Type) where
  | disturbed (disturbance : Disturbance)
  | started (task : Task)
  | answered (number : Nat)

variable (sharing)
inductive Step (script : Task → Script Request Answer Failure Result) :
    System State Task Request Answer Failure Result → Event Disturbance Task → System State Task Request Answer Failure Result → Prop
  | disturbed {system : System State Task Request Answer Failure Result} {disturbance : Disturbance} {after : State}
      (changed : sharing.disturbs system.state disturbance after) :
      Step script system (.disturbed disturbance) { system with state := after }
  | started {system : System State Task Request Answer Failure Result} (task : Task) :
      Step script system (.started task) { system with scripts := system.scripts ++ [(task, script task)] }
  | answered {system : System State Task Request Answer Failure Result} {number : Nat} {task : Task} {request : Request}
      {next : Except Failure (Answer request) → Script Request Answer Failure Result}
      {answer : Except Failure (Answer request)} {after : State}
      (found : system.scripts[number]? = some (task, .ask request next))
      (responded : sharing.responds number system.state request answer after) :
      Step script system (.answered number) ⟨after, system.scripts.set number (task, next answer)⟩

/-- What has not been started finds the state ready for it; what has been is on its way to what it promises. -/
structure Sound (ready : Nat → State → Prop) (promised : Task → Nat → Except Failure Result → State → Prop)
    (system : System State Task Request Answer Failure Result) : Prop where
  ready : ∀ number, system.scripts.length ≤ number → ready number system.state
  safe : ∀ number task script, system.scripts[number]? = some (task, script) →
    Safe sharing number (promised task number) script system.state

variable {sharing}
variable {ready : Nat → State → Prop} {promised : Task → Nat → Except Failure Result → State → Prop}
  {script : Task → Script Request Answer Failure Result}
  {before after : System State Task Request Answer Failure Result} {event : Event Disturbance Task}

/-- A step keeps the system sound, and a script that takes it keeps its guarantee. -/
theorem Sound.step (relied : ∀ number before after, sharing.rely number before after → ready number before → ready number after)
    (verified : ∀ task number state, ready number state → Safe sharing number (promised task number) (script task) state)
    (sound : Sound sharing ready promised before) (step : Step sharing script before event after) :
    Sound sharing ready promised after ∧
      ∀ number, event = .answered number → sharing.guarantee number before.state after.state := by
  cases step with
  | disturbed changed =>
    have more {number} := @Sharing.disturbed _ _ _ _ _ sharing number _ _ _ changed
    refine ⟨⟨fun number beyond => relied _ _ _ more (sound.ready number beyond), fun number task script found => ?_⟩, by simp⟩
    exact (sound.safe number task script found).later more
  | started task =>
    refine ⟨⟨fun number beyond => sound.ready number ?_, fun number other script found => ?_⟩, by simp⟩
    · rw [List.length_append] at beyond
      omega
    · rcases found_append found with known | ⟨rfl, same⟩
      · exact sound.safe number other script known
      · cases same
        exact verified task _ _ (sound.ready _ (Nat.le_refl _))
  | @answered number task request next answer changed found responded =>
    obtain ⟨kept, rest⟩ := sound.safe number task _ found _ (sharing.still _ _) _ _ responded
    have inside : number < before.scripts.length := (List.getElem?_eq_some_iff.mp found).1
    refine ⟨⟨fun other beyond => ?_, fun other task script known => ?_⟩, ?_⟩
    · rw [List.length_set] at beyond
      exact relied _ _ _ (sharing.granted (by omega) kept) (sound.ready other beyond)
    · rcases found_set known with ⟨rfl, same⟩ | ⟨different, known⟩
      · cases same
        exact rest
      · exact (sound.safe other task script known).later (sharing.granted different kept)
    · intro _ same
      cases same
      exact kept

section
variable {initial : State → Prop} {events : List (Event Disturbance Task)} {system : System State Task Request Answer Failure Result}

/-- Scripts that are verified one by one are sound in any run of them together. -/
theorem run_sound (relied : ∀ number before after, sharing.rely number before after → ready number before → ready number after)
    (verified : ∀ task number state, ready number state → Safe sharing number (promised task number) (script task) state)
    (first : ∀ state, initial state → ∀ number, ready number state)
    (run : Run (fun system => initial system.state ∧ system.scripts = []) (Step sharing script) events system) :
    Sound sharing ready promised system := by
  refine run.invariant ?_ fun _ _ _ sound step => (sound.step relied verified step).1
  rintro ⟨state, scripts⟩ ⟨fresh, none⟩
  cases none
  exact ⟨fun number _ => first state fresh number, by simp⟩
/-- What a finished script promised holds, and goes on to hold. -/
theorem run_promised (initial : State → Prop) (relied : ∀ number before after, sharing.rely number before after → ready number before → ready number after)
    (verified : ∀ task number state, ready number state → Safe sharing number (promised task number) (script task) state)
    (first : ∀ state, initial state → ∀ number, ready number state)
    (run : Run (fun system => initial system.state ∧ system.scripts = []) (Step sharing script) events system) {number : Nat}
    {task : Task} {outcome : Except Failure Result} (found : system.scripts[number]? = some (task, ofExcept outcome)) :
    promised task number outcome system.state := by
  have safe := (run_sound relied verified first run).safe number task _ found
  cases outcome with
  | ok result => exact safe _ (sharing.still _ _)
  | error failure => exact safe _ (sharing.still _ _)
/-- A relation of what happened and the state holds of every run, if every guaranteed step and every disturbance keeps it. -/
theorem run_related (initial : State → Prop) (relation : List (Event Disturbance Task) → State → Prop)
    (relied : ∀ number before after, sharing.rely number before after → ready number before → ready number after)
    (verified : ∀ task number state, ready number state → Safe sharing number (promised task number) (script task) state)
    (first : ∀ state, initial state → (∀ number, ready number state) ∧ relation [] state)
    (disturbed : ∀ events before disturbance after, relation events before → sharing.disturbs before disturbance after →
      relation (.disturbed disturbance :: events) after)
    (started : ∀ events task state, relation events state → relation (.started task :: events) state)
    (answered : ∀ events number before after, relation events before → sharing.guarantee number before after →
      relation (.answered number :: events) after)
    (run : Run (fun system => initial system.state ∧ system.scripts = []) (Step sharing script) events system) :
    relation events system.state := by
  refine @Run.history _ _ _ _ events system (fun events system => relation events system.state) ?_ ?_ run
  · exact fun system fresh => (first _ fresh.1).2
  intro events event before after earlier holds step
  have sound := run_sound relied verified (fun state fresh => (first state fresh).1) earlier
  have kept := (sound.step relied verified step).2
  cases step with
  | disturbed changed => exact disturbed _ _ _ _ holds changed
  | started task => exact started _ task _ holds
  | answered found responded => exact answered _ _ _ _ holds (kept _ rfl)
end

end EquityGuard.Scripts
