import EquityGuard.AttestedWire
import EquityGuard.Maps
import EquityGuard.Runs

/-!
The coordinator's attestation store, and any number of calls on it at once: each is
interrupted where it awaits, and others run in between.
-/
namespace EquityGuard.Attestations
open EquityGuard.Addresses EquityGuard.AttestedWire EquityGuard.Errors EquityGuard.JsonText EquityGuard.JsValue
open EquityGuard.Maps EquityGuard.Runs

structure SimulationResult where
  err : Value
  logs : List Text
  unitsConsumed : Option Nat
  contextSlot : Option Int
structure ClockText where
  unixTimestamp : Text
  slot : Text
structure PreSignSimulationRecord where
  proofId : Text
  capturedAtUtc : Text
  localT : Text
  clock : ClockText
  contextSlot : Option Text
  timing : PhaseTiming
  messageSha256 : Text
  unsignedWireSha256 : Text
  wireLength : Nat
  shape : ProtectedTradeShape
  logs : List Text
  computeUnits : Option Nat
  programsSucceeded : List Text
structure SignedAuthorizationRecord where
  proofId : Text
  capturedAtUtc : Text
  localT : Text
  clock : ClockText
  timing : PhaseTiming
  signer : Address
  signature : String
  signedWireSha256 : Text
  wireLength : Nat
  messageSha256 : Text
  simulationProofId : Text

structure PreSignInput where
  unsignedWireBase64 : Text
  localT : Int
structure SignedInput where
  proofId : Text
  signedWireBase64 : Text
  localT : Int
/-- What the store is made with. The clock and the simulation answer from outside: their answers are part of a run. -/
structure AttestationDependencies where
  platform : Platform
  protectedMint : String
  /-- What the injected generator answers at each of its calls. -/
  newProofId : Option (Nat → Text)
structure Store where
  counter : Nat
  simulations : Entries Text PreSignSimulationRecord
  authorizations : Entries Text SignedAuthorizationRecord

def AttestationClock.toText (clock : AttestationClock) : ClockText := ⟨decimal clock.unixTimestamp, decimal clock.slot⟩
/-- The id that a store's default generator gives at a count. -/
def presign (count : Nat) : Text := text "presign-" ++ digits count

section
variable (deps : AttestationDependencies)

def expectedOf (localT : Int) : Expected := ⟨deps.protectedMint, localT⟩
def proofIdOf (count : Nat) : Text :=
  match deps.newProofId with
  | some newProofId => newProofId count
  | none => presign count

/-! ### The pre-sign simulation, between its awaits -/

/-- An await that is rejected throws what it was rejected with. -/
def awaited {α : Type} (answer : Except Value α) : Attempt α := answer.mapError .rejected
def preSignTimed (input : PreSignInput) (decoded : DecodedWire) (answer : Except Value AttestationClock) :
    Attempt AttestationClock := do
  let clock ← awaited answer
  assertClockMatchesPhase clock input.localT decoded.shape.encodedPhase { endpoint := some "pre-sign-simulation" }
  return clock
def succeededOf (logs : List Text) : List Text :=
  REQUIRED_SUCCESS.filter (fun program => logs.contains (text "Program " ++ program ++ text " success"))
/-- The programs that the simulation shows to have succeeded, which must be all that are required. -/
def checkSimulation (input : PreSignInput) (decoded : DecodedWire) (clock : AttestationClock) (simulation : SimulationResult) :
    Attempt (List Text) := do
  let detail : AttestationContext := { endpoint := some "pre-sign-simulation", phase := some decoded.shape.encodedPhase,
                                       clock := some (decimal clock.unixTimestamp), localT := some (decimal input.localT) }
  refuse_if (simulation.err.isNullish = false)
    (.AttestationError .SIMULATION_FAILED ["pre-sign simulation failed: ", simulation.err] detail)
  let succeeded := succeededOf simulation.logs
  refuse_if (succeeded.length ≠ REQUIRED_SUCCESS.length) (.AttestationError .SIMULATION_INCOMPLETE
    ("pre-sign simulation did not show success for " ::
      Failures.listed (REQUIRED_SUCCESS.filter (fun program => ¬ succeeded.contains program))) detail)
  return succeeded
/-- The counter goes up before the timing is looked at. -/
def recordSimulation (store : Store) (input : PreSignInput) (decoded : DecodedWire) (clock : AttestationClock)
    (simulation : SimulationResult) (succeeded : List Text) (now : Text) : Attempt PreSignSimulationRecord × Store :=
  let store := { store with counter := store.counter + 1 }
  let proofId := proofIdOf deps store.counter
  match phaseTiming clock input.localT decoded.shape.encodedPhase with
  | .error failure => (.error failure, store)
  | .ok timing =>
    let record := {
      proofId, capturedAtUtc := now, localT := decimal input.localT, clock := AttestationClock.toText clock
      contextSlot := simulation.contextSlot.map decimal, timing, messageSha256 := decoded.messageSha256
      unsignedWireSha256 := decoded.wireSha256, wireLength := decoded.wireLength, shape := decoded.shape
      logs := simulation.logs, computeUnits := simulation.unitsConsumed, programsSucceeded := succeeded }
    (.ok record, { store with simulations := store.simulations.set proofId record })
def simulated (store : Store) (input : PreSignInput) (decoded : DecodedWire) (clock : AttestationClock)
    (answer : Except Value SimulationResult) (now : Text) : Attempt PreSignSimulationRecord × Store :=
  match awaited answer with
  | .error failure => (.error failure, store)
  | .ok simulation =>
    match checkSimulation input decoded clock simulation with
    | .error failure => (.error failure, store)
    | .ok succeeded => recordSimulation deps store input decoded clock simulation succeeded now

/-! ### The signed authorization, around its await -/

/-- What a call holds when it goes on to read the Clock. -/
structure Held where
  simulation : PreSignSimulationRecord
  decoded : DecodedWire
  signatureBase58 : String

def signedContext (input : SignedInput) : AttestationContext where
  endpoint := some "signed-authorization"
  proofId := some input.proofId
  localT := some (decimal input.localT)
def holdSigned (store : Store) (input : SignedInput) : Attempt Held := do
  let simulation ← ok_or (.AttestationError .UNKNOWN_PROOF ["no pre-sign simulation ", input.proofId] (signedContext input))
    (store.simulations.get input.proofId)
  refuse_if (simulation.localT ≠ decimal input.localT) (.AttestationError .ACTIVATION_MISMATCH
    ["signed authorization names a different activation than its simulation"] (signedContext input))
  refuse_if (store.authorizations.get input.proofId).isSome (.AttestationError .ALREADY_ATTESTED
    ["pre-sign simulation ", input.proofId, " already has a signed authorization"] (signedContext input))
  let decoded ← decodeProtectedTradeWire deps.platform input.signedWireBase64 (expectedOf deps input.localT)
  let detail := { signedContext input with phase := some decoded.shape.encodedPhase }
  refuse_if (decoded.messageSha256 ≠ simulation.messageSha256) (.AttestationError .MESSAGE_MISMATCH
    ["signed message ", decoded.messageSha256, " is not the simulated ", simulation.messageSha256] detail)
  let missing := .AttestationError .MISSING_SIGNATURE ["the submitted transaction carries no signature"] detail
  let signature ← ok_or missing decoded.signature
  let signatureBase58 ← ok_or missing decoded.signatureBase58
  refuse_if (signatureBase58 = "") missing
  refuse_if (verifySignature deps.platform decoded.feePayer decoded.messageBytes signature = false)
    (.AttestationError .INVALID_SIGNATURE ["the signature does not verify under ", decoded.feePayer.text] detail)
  return ⟨simulation, decoded, signatureBase58⟩
/-- The rest of the call, once the Clock has been read. -/
def authorizationOf (input : SignedInput) (held : Held) (answer : Except Value AttestationClock) (now : Text) :
    Attempt SignedAuthorizationRecord := do
  let clock ← awaited answer
  assertClockMatchesPhase clock input.localT held.decoded.shape.encodedPhase
    { endpoint := some "signed-authorization", proofId := some input.proofId }
  return {
    proofId := input.proofId
    capturedAtUtc := now
    localT := decimal input.localT
    clock := AttestationClock.toText clock
    timing := ← phaseTiming clock input.localT held.decoded.shape.encodedPhase
    signer := held.decoded.feePayer
    signature := held.signatureBase58
    signedWireSha256 := held.decoded.wireSha256
    wireLength := held.decoded.wireLength
    messageSha256 := held.decoded.messageSha256
    simulationProofId := held.simulation.proofId }
end

/-! ### Calls at once -/

/-- Where a call stands: what it waits for, or that it has ended. -/
inductive Call where
  | preSignClock (input : PreSignInput) (decoded : DecodedWire)
  | simulation (input : PreSignInput) (decoded : DecodedWire) (clock : AttestationClock)
  | signedClock (input : SignedInput) (held : Held)
  | ended
structure System where
  store : Store
  calls : List Call

/-- Why something happens: a call is made, or what a call waits for is answered. -/
inductive Cause where
  | recordPreSignSimulation (input : PreSignInput)
  | recordSignedAuthorization (input : SignedInput)
  | clock (number : Nat) (answer : Except Value AttestationClock) (now : Text)
  | simulation (number : Nat) (answer : Except Value SimulationResult) (now : Text)
inductive Outcome where
  | suspended
  | simulated (result : Attempt PreSignSimulationRecord)
  | authorized (proofId : Text) (record : SignedAuthorizationRecord)
  | unauthorized (proofId : Text) (failure : AttestationFailure)
structure Event where
  cause : Cause
  outcome : Outcome
def Event.authorizes (event : Event) : Option Text :=
  match event.outcome with
  | .authorized proofId _ => some proofId
  | _ => none

def System.started (system : System) (call : Call) : System := { system with calls := system.calls ++ [call] }
def System.advance (system : System) (number : Nat) (call : Call) : System :=
  { system with calls := system.calls.set number call }
def System.withStore (system : System) (store : Store) : System := { system with store }
def Store.authorize (store : Store) (proofId : Text) (record : SignedAuthorizationRecord) : Store :=
  { store with authorizations := store.authorizations.set proofId record }
def Initial (system : System) : Prop := system = ⟨⟨0, [], []⟩, []⟩

/-- A call is made, or goes on to its next await or to its end. -/
inductive Step (deps : AttestationDependencies) (system : System) : Event → System → Prop where
  | preSignHeld {input : PreSignInput} {decoded : DecodedWire}
      (accepted : decodeProtectedTradeWire deps.platform input.unsignedWireBase64 (expectedOf deps input.localT) = .ok decoded) :
    Step deps system ⟨.recordPreSignSimulation input, .suspended⟩ (system.started (.preSignClock input decoded))
  | preSignRefused {input : PreSignInput} {failure : AttestationFailure}
      (threw : decodeProtectedTradeWire deps.platform input.unsignedWireBase64 (expectedOf deps input.localT) = .error failure) :
    Step deps system ⟨.recordPreSignSimulation input, .simulated (.error failure)⟩ system
  | preSignTimed {number : Nat} {input : PreSignInput} {decoded : DecodedWire} {answer : Except Value AttestationClock}
      {now : Text} {clock : AttestationClock} (waiting : system.calls[number]? = some (.preSignClock input decoded))
      (passed : Attestations.preSignTimed input decoded answer = .ok clock) :
    Step deps system ⟨.clock number answer now, .suspended⟩ (system.advance number (.simulation input decoded clock))
  | preSignUntimed {number : Nat} {input : PreSignInput} {decoded : DecodedWire} {answer : Except Value AttestationClock}
      {now : Text} {failure : AttestationFailure} (waiting : system.calls[number]? = some (.preSignClock input decoded))
      (threw : Attestations.preSignTimed input decoded answer = .error failure) :
    Step deps system ⟨.clock number answer now, .simulated (.error failure)⟩ (system.advance number .ended)
  | simulated {number : Nat} {input : PreSignInput} {decoded : DecodedWire} {clock : AttestationClock}
      {answer : Except Value SimulationResult} {now : Text} {result : Attempt PreSignSimulationRecord} {store : Store}
      (waiting : system.calls[number]? = some (.simulation input decoded clock))
      (answered : Attestations.simulated deps system.store input decoded clock answer now = (result, store)) :
    Step deps system ⟨.simulation number answer now, .simulated result⟩ ((system.advance number .ended).withStore store)
  | signedHeld {input : SignedInput} {held : Held} (passed : holdSigned deps system.store input = .ok held) :
    Step deps system ⟨.recordSignedAuthorization input, .suspended⟩ (system.started (.signedClock input held))
  | signedRefused {input : SignedInput} {failure : AttestationFailure}
      (threw : holdSigned deps system.store input = .error failure) :
    Step deps system ⟨.recordSignedAuthorization input, .unauthorized input.proofId failure⟩ system
  | authorized {number : Nat} {input : SignedInput} {held : Held} {answer : Except Value AttestationClock} {now : Text}
      {record : SignedAuthorizationRecord} (waiting : system.calls[number]? = some (.signedClock input held))
      (passed : authorizationOf input held answer now = .ok record) :
    Step deps system ⟨.clock number answer now, .authorized input.proofId record⟩
      ((system.advance number .ended).withStore (system.store.authorize input.proofId record))
  | unauthorized {number : Nat} {input : SignedInput} {held : Held} {answer : Except Value AttestationClock} {now : Text}
      {failure : AttestationFailure} (waiting : system.calls[number]? = some (.signedClock input held))
      (threw : authorizationOf input held answer now = .error failure) :
    Step deps system ⟨.clock number answer now, .unauthorized input.proofId failure⟩ (system.advance number .ended)

/-! ### What a call ends with -/

section
variable {deps : AttestationDependencies} {store : Store} {input : SignedInput} {held : Held}
  {answer : Except Value AttestationClock} {now : Text} {record : SignedAuthorizationRecord} {failure : AttestationFailure}

/-- A call on a proof that is signed already fails, and every failure before the Clock is read is a refusal. -/
theorem holdSigned_throws : Throws AttestationFailure.IsAttestationError (holdSigned deps store input) := by
  unfold holdSigned
  refine .bind (.ok_or fun _ => trivial) (fun simulation _ => .bind (.refuse_if fun _ => trivial) (fun _ _ => ?_))
  refine .bind (.refuse_if fun _ => trivial) (fun _ _ => .bind decodeProtectedTradeWire_throws (fun decoded _ => ?_))
  refine .bind (.refuse_if fun _ => trivial) (fun _ _ => .bind (.ok_or fun _ => trivial) (fun signature _ => ?_))
  refine .bind (.ok_or fun _ => trivial) (fun base58 _ => .bind (.refuse_if fun _ => trivial) (fun _ _ => ?_))
  exact .bind (.refuse_if fun _ => trivial) (fun _ _ => .ok _)
/-- The Clock is read inside the window of the phase. -/
theorem authorizationOf_eq_ok (passed : authorizationOf input held answer now = .ok record) :
    ∃ clock timing, answer = .ok clock ∧ InWindow held.decoded.shape.encodedPhase input.localT clock.unixTimestamp ∧
      record = ⟨input.proofId, now, decimal input.localT, AttestationClock.toText clock, timing, held.decoded.feePayer,
        held.signatureBase58, held.decoded.wireSha256, held.decoded.wireLength, held.decoded.messageSha256,
        held.simulation.proofId⟩ := by
  unfold authorizationOf at passed
  obtain ⟨clock, read, passed⟩ := bind_eq_ok.mp passed
  obtain ⟨inside, passed⟩ := then_eq_ok.mp passed
  obtain ⟨timing, _, passed⟩ := bind_eq_ok.mp passed
  cases passed
  exact ⟨clock, timing, mapError_eq_ok.mp read, assertClockMatchesPhase_eq_ok.mp inside, rfl⟩
theorem authorizationOf_returns {clock : AttestationClock}
    (inside : InWindow held.decoded.shape.encodedPhase input.localT clock.unixTimestamp) :
    ∃ record, authorizationOf input held (.ok clock) now = .ok record := by
  obtain ⟨timing, timed⟩ := phaseTiming_returns inside
  unfold authorizationOf
  rw [show awaited (.ok clock : Except Value AttestationClock) = .ok clock from rfl, ok_bind,
    assertClockMatchesPhase_eq_ok.mpr inside, ok_bind, timed]
  exact ⟨_, rfl⟩
/-- Once a reading was given, a failure is a refusal. -/
theorem authorizationOf_throws (clock : AttestationClock) :
    Throws AttestationFailure.IsAttestationError (authorizationOf input held (.ok clock) now) := by
  unfold authorizationOf
  refine .bind (.ok _) (fun reading same => .bind (assertClockMatchesPhase_throws _ _ _ _) (fun _ passed => ?_))
  obtain ⟨timing, timed⟩ := phaseTiming_returns (assertClockMatchesPhase_eq_ok.mp passed)
  rw [timed]
  exact .ok _
end

/-! ### An attested trade -/

/-- A trade that simulates cleanly and is signed, with what its two wires are read as. -/
structure Trade (deps : AttestationDependencies) (localT : Int) (unsignedWire signedWire : Text)
    (unsigned signed : DecodedWire) (signature : List UInt8) (base58 : String) (simulation : SimulationResult) : Prop where
  unsignedRead : decodeProtectedTradeWire deps.platform unsignedWire (expectedOf deps localT) = .ok unsigned
  signedRead : decodeProtectedTradeWire deps.platform signedWire (expectedOf deps localT) = .ok signed
  same : signed.messageSha256 = unsigned.messageSha256
  samePhase : signed.shape.encodedPhase = unsigned.shape.encodedPhase
  carried : signed.signature = some signature
  printed : signed.signatureBase58 = some base58
  written : base58 ≠ ""
  verifies : verifySignature deps.platform signed.feePayer signed.messageBytes signature = true
  clean : simulation.err.isNullish = true
  succeeded : (succeededOf simulation.logs).length = REQUIRED_SUCCESS.length

section
variable {deps : AttestationDependencies} {localT : Int} {unsignedWire signedWire : Text} {unsigned signed : DecodedWire}
  {signature : List UInt8} {base58 : String} {simulation : SimulationResult} {clock : AttestationClock}

theorem preSignTimed_returns {input : PreSignInput} {decoded : DecodedWire}
    (inside : InWindow decoded.shape.encodedPhase input.localT clock.unixTimestamp) :
    preSignTimed input decoded (.ok clock) = .ok clock := by
  unfold preSignTimed
  rw [show awaited (.ok clock : Except Value AttestationClock) = .ok clock from rfl, ok_bind,
    assertClockMatchesPhase_eq_ok.mpr inside]
  rfl
theorem simulated_returns {store : Store} {input : PreSignInput} {decoded : DecodedWire} {now : Text}
    (inside : InWindow decoded.shape.encodedPhase input.localT clock.unixTimestamp) (clean : simulation.err.isNullish = true)
    (succeeded : (succeededOf simulation.logs).length = REQUIRED_SUCCESS.length) :
    ∃ record, record.localT = decimal input.localT ∧ record.messageSha256 = decoded.messageSha256 ∧
      simulated deps store input decoded clock (.ok simulation) now = (.ok record,
        ⟨store.counter + 1, store.simulations.set (proofIdOf deps (store.counter + 1)) record, store.authorizations⟩) := by
  obtain ⟨timing, timed⟩ := phaseTiming_returns inside
  have checked : checkSimulation input decoded clock simulation = .ok (succeededOf simulation.logs) := by
    unfold checkSimulation
    rw [refuse_if_bind, if_neg (by rw [clean]; decide), refuse_if_bind, if_neg (by rw [not_not]; exact succeeded)]
    rfl
  unfold simulated
  rw [show awaited (.ok simulation : Except Value SimulationResult) = .ok simulation from rfl]
  dsimp only
  rw [checked]
  unfold recordSimulation
  dsimp only
  rw [timed]
  exact ⟨_, rfl, rfl, rfl⟩
theorem holdSigned_returns (trade : Trade deps localT unsignedWire signedWire unsigned signed signature base58 simulation)
    {store : Store} {proofId : Text} {record : PreSignSimulationRecord} (found : store.simulations.get proofId = some record)
    (activation : record.localT = decimal localT) (message : record.messageSha256 = unsigned.messageSha256)
    (unauthorized : store.authorizations.get proofId = none) :
    holdSigned deps store ⟨proofId, signedWire, localT⟩ = .ok ⟨record, signed, base58⟩ := by
  unfold holdSigned
  rw [found, ok_or_some, ok_bind, refuse_if_bind, if_neg (by rw [not_not]; exact activation), refuse_if_bind,
    if_neg (by rw [unauthorized]; exact Bool.false_ne_true), trade.signedRead, ok_bind, refuse_if_bind,
    if_neg (by rw [not_not, message]; exact trade.same)]
  dsimp only
  rw [trade.carried, ok_or_some, ok_bind, trade.printed, ok_or_some, ok_bind, refuse_if_bind, if_neg trade.written,
    refuse_if_bind, if_neg (by rw [trade.verifies]; decide)]
  rfl
/-- The trade is simulated, and recorded under the first proof id. -/
theorem simulated_run (trade : Trade deps localT unsignedWire signedWire unsigned signed signature base58 simulation)
    (inside : InWindow unsigned.shape.encodedPhase localT clock.unixTimestamp) (now : Text) :
    ∃ record, record.localT = decimal localT ∧ record.messageSha256 = unsigned.messageSha256 ∧
      Run Initial (Step deps) [⟨.simulation 0 (.ok simulation) now, .simulated (.ok record)⟩,
        ⟨.clock 0 (.ok clock) now, .suspended⟩, ⟨.recordPreSignSimulation ⟨unsignedWire, localT⟩, .suspended⟩]
        ⟨⟨1, [(proofIdOf deps 1, record)], []⟩, [.ended]⟩ := by
  obtain ⟨record, activation, message, simulates⟩ := @simulated_returns deps simulation clock ⟨0, [], []⟩
    ⟨unsignedWire, localT⟩ unsigned now inside trade.clean trade.succeeded
  have begun : Run Initial (Step deps) [] ⟨⟨0, [], []⟩, []⟩ := .start rfl
  have held := begun.next (@Step.preSignHeld deps _ ⟨unsignedWire, localT⟩ unsigned trade.unsignedRead)
  have timed := held.next (@Step.preSignTimed deps _ 0 ⟨unsignedWire, localT⟩ unsigned (.ok clock) now clock rfl
    (preSignTimed_returns inside))
  exact ⟨record, activation, message, timed.next (@Step.simulated deps _ 0 ⟨unsignedWire, localT⟩ unsigned clock
    (.ok simulation) now (.ok record) _ rfl simulates)⟩
end

/-! ### One authorization a proof -/

/-- What is stored was returned. -/
def Stored (events : List Event) (system : System) : Prop :=
  ∀ proofId record, system.store.authorizations.get proofId = some record →
    ∃ event ∈ events, event.outcome = .authorized proofId record
/-- What was returned is still stored. -/
def Kept (events : List Event) (system : System) : Prop :=
  ∀ event ∈ events, ∀ proofId record, event.outcome = .authorized proofId record →
    system.store.authorizations.get proofId = some record
/-- What is promised of a run, the latest event standing first: a proof is authorized once, every other call is refused,
    and the record that was returned is the one that is stored. -/
structure OneAuthorization (events : List Event) (system : System) : Prop where
  once : events.Pairwise (fun later earlier => ∀ proofId, later.authorizes = some proofId → earlier.authorizes ≠ some proofId)
  refusals : ∀ event ∈ events, ∀ proofId failure, event.outcome = .unauthorized proofId failure → failure.IsAttestationError
  kept : Kept events system
  stored : Stored events system
/-- When the Clock is read for an authorization, the read does not fail, and a reading inside the window finds
    no authorization of the same proof. -/
def Undisturbed (system : System) (event : Event) : Prop :=
  ∀ number answer now input held, event.cause = .clock number answer now →
    system.calls[number]? = some (.signedClock input held) →
    ∃ clock, answer = .ok clock ∧ (InWindow held.decoded.shape.encodedPhase input.localT clock.unixTimestamp →
      system.store.authorizations.get input.proofId = none)
/-- A step that meets the condition. -/
def UndisturbedStep (deps : AttestationDependencies) (system : System) (event : Event) (after : System) : Prop :=
  Step deps system event after ∧ Undisturbed system event

section
variable {deps : AttestationDependencies} {system after : System} {event : Event} {events : List Event}

/-- Only a pre-sign simulation that is recorded changes the simulations; the authorizations it leaves. -/
theorem simulated_authorizations {store following : Store} {input : PreSignInput} {decoded : DecodedWire}
    {clock : AttestationClock} {answer : Except Value SimulationResult} {now : Text} {result : Attempt PreSignSimulationRecord}
    (answered : simulated deps store input decoded clock answer now = (result, following)) :
    following.authorizations = store.authorizations := by
  unfold simulated recordSimulation at answered
  split at answered
  · cases answered; rfl
  · split at answered
    · cases answered; rfl
    · dsimp only at answered
      split at answered <;> cases answered <;> rfl
/-- A step stores the authorization that it returns and no other. -/
theorem authorizations_after (step : Step deps system event after) :
    (∃ proofId record, event.outcome = .authorized proofId record ∧
      after.store.authorizations = system.store.authorizations.set proofId record) ∨
    (event.authorizes = none ∧ after.store.authorizations = system.store.authorizations) := by
  cases step with
  | authorized waiting passed => exact .inl ⟨_, _, rfl, rfl⟩
  | simulated waiting answered => exact .inr ⟨rfl, simulated_authorizations answered⟩
  | _ => exact .inr ⟨rfl, rfl⟩
theorem authorizes_iff {proofId : Text} :
    event.authorizes = some proofId ↔ ∃ record, event.outcome = .authorized proofId record := by
  unfold Event.authorizes
  split
  · rename_i same
    simp [same]
  · rename_i other
    simp only [reduceCtorEq, false_iff, not_exists]
    exact fun record same => other _ _ same
theorem stored_of_run (run : Run Initial (Step deps) events system) : Stored events system := by
  refine run.history ?_ ?_
  · rintro system rfl proofId record found
    cases found
  · intro events event before after _ known step proofId record found
    obtain ⟨authorized, stored, returned, set⟩ | ⟨_, same⟩ := authorizations_after step
    · rw [set] at found
      obtain ⟨rfl, rfl⟩ | ⟨_, earlier⟩ := get_set_eq_some found
      · exact ⟨event, List.mem_cons_self, returned⟩
      · obtain ⟨event, happened, returned⟩ := known proofId record earlier
        exact ⟨event, List.mem_cons_of_mem _ happened, returned⟩
    · rw [same] at found
      obtain ⟨event, happened, returned⟩ := known proofId record found
      exact ⟨event, List.mem_cons_of_mem _ happened, returned⟩
/-- An undisturbed authorization finds none of its proof. -/
theorem fresh_of_undisturbed (step : UndisturbedStep deps system event after) {proofId : Text}
    (authorizes : event.authorizes = some proofId) : system.store.authorizations.get proofId = none := by
  obtain ⟨taken, undisturbed⟩ := step
  cases taken with
  | authorized waiting passed =>
    cases authorizes
    obtain ⟨clock, _, rfl, inside, _⟩ := authorizationOf_eq_ok passed
    obtain ⟨reading, same, unsigned⟩ := undisturbed _ _ _ _ _ rfl waiting
    cases same
    exact unsigned inside
  | _ => cases authorizes
theorem authorizes_oneShot : OneShot (UndisturbedStep deps) (fun event proofId => event.authorizes = some proofId)
    (fun system proofId => (system.store.authorizations.get proofId).isSome) where
  fresh := by
    intro before event after proofId step authorizes
    rw [fresh_of_undisturbed step authorizes]
    exact Bool.false_ne_true
  marked := by
    intro before event after proofId step authorizes
    obtain ⟨record, returned⟩ := authorizes_iff.mp authorizes
    obtain ⟨stored, other, same, set⟩ | ⟨none, _⟩ := authorizations_after step.1
    · cases returned.symm.trans same
      rw [set, get_set_self]
      rfl
    · rw [authorizes] at none
      cases none
  kept := by
    intro before event after proofId step stored
    obtain ⟨other, record, _, set⟩ | ⟨_, same⟩ := authorizations_after step.1
    · rw [set]
      by_cases equal : proofId = other
      · subst equal
        rw [get_set_self]
        rfl
      · rw [get_set_ne _ _ equal]
        exact stored
    · rw [same]
      exact stored
/-- What an undisturbed run has returned is what is stored. -/
theorem kept_of_run (run : Run Initial (UndisturbedStep deps) events system) : Kept events system := by
  refine run.history ?_ ?_
  · intro system _ event happened
    cases happened
  · intro events last before after _ known step event happened proofId record returned
    obtain ⟨authorized, stored, same, set⟩ | ⟨unauthorized, same⟩ := authorizations_after step.1
    · have unsigned := fresh_of_undisturbed step (authorizes_iff.mpr ⟨stored, same⟩)
      rw [set]
      obtain rfl | earlier := List.mem_cons.mp happened
      · cases returned.symm.trans same
        exact get_set_self _ _ _
      · have found := known event earlier proofId record returned
        have different : proofId ≠ authorized := by
          rintro rfl
          rw [unsigned] at found
          cases found
        rw [get_set_ne _ _ different]
        exact found
    · rw [same]
      obtain rfl | earlier := List.mem_cons.mp happened
      · have authorizes := authorizes_iff.mpr ⟨record, returned⟩
        rw [unauthorized] at authorizes
        cases authorizes
      · exact known event earlier proofId record returned
/-- An undisturbed call that fails is refused. -/
theorem refused_of_undisturbed (step : UndisturbedStep deps system event after) {proofId : Text} {failure : AttestationFailure}
    (failed : event.outcome = .unauthorized proofId failure) : failure.IsAttestationError := by
  obtain ⟨taken, undisturbed⟩ := step
  cases taken with
  | signedRefused threw =>
    cases failed
    exact holdSigned_throws _ threw
  | unauthorized waiting threw =>
    cases failed
    obtain ⟨clock, rfl, _⟩ := undisturbed _ _ _ _ _ rfl waiting
    exact authorizationOf_throws clock _ threw
  | _ => cases failed
/-- A step after which the promise still holds was undisturbed. -/
theorem undisturbed_of_once (run : Run Initial (Step deps) events system) (step : Step deps system event after)
    (once : ∀ earlier ∈ events, ∀ proofId, event.authorizes = some proofId → earlier.authorizes ≠ some proofId)
    (refusal : ∀ proofId failure, event.outcome = .unauthorized proofId failure → failure.IsAttestationError) :
    Undisturbed system event := by
  intro number answer now input held cause waiting
  have unsigned {record : SignedAuthorizationRecord} (authorizes : event.authorizes = some input.proofId)
      (found : system.store.authorizations.get input.proofId = some record) : False := by
    obtain ⟨earlier, happened, returned⟩ := stored_of_run run _ _ found
    exact once earlier happened _ authorizes (authorizes_iff.mpr ⟨record, returned⟩)
  cases step with
  | authorized found passed =>
    cases cause
    cases found.symm.trans waiting
    obtain ⟨clock, _, rfl, _⟩ := authorizationOf_eq_ok passed
    refine ⟨clock, rfl, fun _ => ?_⟩
    cases stored : system.store.authorizations.get input.proofId with
    | none => rfl
    | some record => exact absurd stored (unsigned rfl)
  | unauthorized found threw =>
    cases cause
    cases found.symm.trans waiting
    cases answer with
    | error reason =>
      cases threw
      exact (refusal _ _ rfl).elim
    | ok clock =>
      refine ⟨clock, rfl, fun inside => ?_⟩
      obtain ⟨record, returned⟩ := authorizationOf_returns inside
      rw [returned] at threw
      cases threw
  | preSignTimed found passed =>
    cases cause
    cases found.symm.trans waiting
  | preSignUntimed found threw =>
    cases cause
    cases found.symm.trans waiting
  | _ => cases cause

/-- The promise holds of exactly the runs whose every step is undisturbed. -/
theorem one_authorization_iff : Run Initial (UndisturbedStep deps) events system ↔
    Run Initial (Step deps) events system ∧ OneAuthorization events system := by
  constructor
  · intro run
    have plain := run.weaken (fun _ _ _ step => step.1)
    refine ⟨plain, authorizes_oneShot.once run, ?_, kept_of_run run, stored_of_run plain⟩
    intro event happened proofId failure failed
    obtain ⟨later, earlier, rfl⟩ := List.append_of_mem happened
    obtain ⟨_, _, _, step, _⟩ := run.taken
    exact refused_of_undisturbed step failed
  · rintro ⟨run, promise⟩
    have once := promise.once
    have refusals := promise.refusals
    clear promise
    induction run with
    | start fresh => exact .start fresh
    | next earlier step ih =>
      obtain ⟨last, before⟩ := List.pairwise_cons.mp once
      have run := ih before (fun event happened => refusals event (List.mem_cons_of_mem _ happened))
      exact run.next ⟨step, undisturbed_of_once earlier step last (refusals _ List.mem_cons_self)⟩
end

/-- Two calls on one proof, both of which looked before either of them wrote: both return, and the second record
    takes the place of the first. -/
theorem raced_run {deps : AttestationDependencies} {localT : Int} {unsignedWire signedWire : Text}
    {unsigned signed : DecodedWire} {signature : List UInt8} {base58 : String} {simulation : SimulationResult}
    {clock first second : AttestationClock}
    (trade : Trade deps localT unsignedWire signedWire unsigned signed signature base58 simulation)
    (inside : InWindow unsigned.shape.encodedPhase localT clock.unixTimestamp)
    (firstInside : InWindow unsigned.shape.encodedPhase localT first.unixTimestamp)
    (secondInside : InWindow unsigned.shape.encodedPhase localT second.unixTimestamp) (now : Text) :
    ∃ older newer earlier system, Run Initial (Step deps) (⟨.clock 2 (.ok second) now, .authorized (proofIdOf deps 1) newer⟩ ::
        ⟨.clock 1 (.ok first) now, .authorized (proofIdOf deps 1) older⟩ :: earlier) system ∧
      system.store.authorizations.get (proofIdOf deps 1) = some newer ∧
      older.clock = AttestationClock.toText first ∧ newer.clock = AttestationClock.toText second := by
  obtain ⟨record, activation, message, run⟩ := simulated_run trade inside now
  let input : SignedInput := ⟨proofIdOf deps 1, signedWire, localT⟩
  let held : Held := ⟨record, signed, base58⟩
  have passed (calls : List Call) : holdSigned deps (⟨⟨1, [(proofIdOf deps 1, record)], []⟩, calls⟩ : System).store input =
      .ok held := holdSigned_returns trade (by simp [get_cons]) activation message rfl
  obtain ⟨older, olderReturned⟩ := @authorizationOf_returns input held now first (trade.samePhase ▸ firstInside)
  obtain ⟨newer, newerReturned⟩ := @authorizationOf_returns input held now second (trade.samePhase ▸ secondInside)
  obtain ⟨_, _, olderRead, _, olderIs⟩ := authorizationOf_eq_ok olderReturned
  obtain ⟨_, _, newerRead, _, newerIs⟩ := authorizationOf_eq_ok newerReturned
  cases olderRead
  cases newerRead
  have one := run.next (@Step.signedHeld deps _ input held (passed _))
  have two := one.next (@Step.signedHeld deps _ input held (passed _))
  have three := two.next (@Step.authorized deps _ 1 input held (.ok first) now older rfl olderReturned)
  have four := three.next (@Step.authorized deps _ 2 input held (.ok second) now newer rfl newerReturned)
  exact ⟨older, newer, _, _, four, get_set_self _ _ _, by rw [olderIs], by rw [newerIs]⟩

def pendingDependencies : AttestationDependencies := ⟨pendingPlatform, KOX_MINT, none⟩
def pendingSimulation : SimulationResult :=
  ⟨.null, REQUIRED_SUCCESS.map (fun program => text "Program " ++ program ++ text " success"), some 81783, some 500⟩
def beforeArmed (slot : Int) : AttestationClock := ⟨armed - 10, slot⟩

theorem beforeArmed_inside (slot : Int) : InWindow .PENDING armed (beforeArmed slot).unixTimestamp := by
  refine ⟨fun _ => ?_, fun other => by cases other⟩
  show armed - 10 < armed
  omega
theorem pendingTrade : Trade pendingDependencies armed (base64Of noSignature) (base64Of pendingSignature) (pendingWire none)
    (pendingWire (some pendingSignature)) pendingSignature (Base58.encode pendingSignature) pendingSimulation where
  unsignedRead := unsigned_decodes
  signedRead := signed_decodes
  same := rfl
  samePhase := rfl
  carried := rfl
  printed := rfl
  written := by decide
  verifies := pendingSignature_verifies
  clean := rfl
  succeeded := by decide
theorem two_authorizations : ∃ older newer events system, Run Initial (Step pendingDependencies)
      (⟨.clock 2 (.ok (beforeArmed 502)) "now", .authorized (presign 1) newer⟩ ::
        ⟨.clock 1 (.ok (beforeArmed 501)) "now", .authorized (presign 1) older⟩ :: events) system ∧
    older ≠ newer ∧ system.store.authorizations.get (presign 1) = some newer ∧
    ¬ OneAuthorization (⟨.clock 2 (.ok (beforeArmed 502)) "now", .authorized (presign 1) newer⟩ ::
        ⟨.clock 1 (.ok (beforeArmed 501)) "now", .authorized (presign 1) older⟩ :: events) system := by
  obtain ⟨older, newer, earlier, system, run, stored, olderClock, newerClock⟩ := raced_run pendingTrade
    (beforeArmed_inside 500) (beforeArmed_inside 501) (beforeArmed_inside 502) "now"
  refine ⟨older, newer, earlier, system, run, ?_, stored, fun promise => ?_⟩
  · rintro rfl
    rw [newerClock] at olderClock
    have same : (502 : Int) = 501 := decimal_injective (congrArg ClockText.slot olderClock)
    exact absurd same (by decide)
  · have last := (List.pairwise_cons.mp promise.once).1
    exact last _ List.mem_cons_self _ rfl rfl

end EquityGuard.Attestations
