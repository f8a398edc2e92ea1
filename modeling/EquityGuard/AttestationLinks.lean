import EquityGuard.Attestations

/-!
What the attestation store is evidence of: every authorization in it refers to a
simulation of the same message, and both were recorded inside the window of the phase
that the message itself encodes.
-/
namespace EquityGuard.AttestationLinks
open EquityGuard.Addresses EquityGuard.AttestedWire EquityGuard.Attestations EquityGuard.Errors EquityGuard.JsonText
open EquityGuard.JsValue EquityGuard.Maps EquityGuard.Runs

/-- A Clock reading that was recorded inside the window of a phase. -/
def Timed (phase : EncodedPhase) (localT : Int) (clock : ClockText) : Prop :=
  ∃ unixTimestamp, clock.unixTimestamp = decimal unixTimestamp ∧ InWindow phase localT unixTimestamp
/-- What a simulation record is evidence of. -/
structure Attested (deps : AttestationDependencies) (record : PreSignSimulationRecord) (messageBytes : List UInt8)
    (feePayer : Address) (localT : Int) (phase : EncodedPhase) : Prop where
  activation : record.localT = decimal localT
  hashed : record.messageSha256 = deps.platform.sha256 messageBytes
  message : ProtectedBytes deps.platform (expectedOf deps localT) messageBytes feePayer phase
  timed : Timed phase localT record.clock
/-- What an authorization of a store refers to: a simulation with the same proof id, message and activation. -/
structure Linked (deps : AttestationDependencies) (store : Store) (proofId : Text) (authorization : SignedAuthorizationRecord)
    (simulation : PreSignSimulationRecord) (messageBytes signature : List UInt8) (localT : Int) (phase : EncodedPhase) :
    Prop where
  recorded : store.simulations.get proofId = some simulation
  proofId : authorization.proofId = proofId ∧ authorization.simulationProofId = proofId ∧ simulation.proofId = proofId
  sameMessage : authorization.messageSha256 = simulation.messageSha256
  sameActivation : authorization.localT = simulation.localT
  attested : Attested deps simulation messageBytes authorization.signer localT phase
  printed : authorization.signature = Base58.encode signature
  verifies : verifySignature deps.platform authorization.signer messageBytes signature = true
  timed : Timed phase localT authorization.clock
def IsLinked (deps : AttestationDependencies) (store : Store) (proofId : Text) (authorization : SignedAuthorizationRecord) : Prop :=
  ∃ simulation messageBytes signature localT phase,
    Linked deps store proofId authorization simulation messageBytes signature localT phase

/-! ### The message determines its phase -/

theorem protectedBytes_phase {platform : Platform} {first second : Expected} {messageBytes : List UInt8}
    {firstPayer secondPayer : Address} {firstPhase secondPhase : EncodedPhase}
    (one : ProtectedBytes platform first messageBytes firstPayer firstPhase)
    (two : ProtectedBytes platform second messageBytes secondPayer secondPhase) :
    firstPayer = secondPayer ∧ firstPhase = secondPhase := by
  obtain ⟨message, guardData, decoded, one⟩ := one
  obtain ⟨other, otherData, otherDecoded, two⟩ := two
  cases decoded.symm.trans otherDecoded
  obtain ⟨guard, found, _, data⟩ := one.guardFirst
  obtain ⟨otherGuard, otherFound, _, otherIs⟩ := two.guardFirst
  cases found.symm.trans otherFound
  cases data.symm.trans otherIs
  refine ⟨Option.some.inj (one.payer.symm.trans two.payer), ?_⟩
  have same := one.phaseByte.symm.trans two.phaseByte
  cases firstPhase <;> cases secondPhase <;> first | rfl | exact absurd same (by decide)

/-! ### The invariant -/

/-- What a suspended call may rely on when it goes on. -/
def Pending (deps : AttestationDependencies) (store : Store) : Call → Prop
  | .preSignClock input decoded =>
    ProtectedBytes deps.platform (expectedOf deps input.localT) decoded.messageBytes decoded.feePayer
      decoded.shape.encodedPhase ∧ decoded.messageSha256 = deps.platform.sha256 decoded.messageBytes
  | .simulation input decoded clock =>
    ProtectedBytes deps.platform (expectedOf deps input.localT) decoded.messageBytes decoded.feePayer
      decoded.shape.encodedPhase ∧ decoded.messageSha256 = deps.platform.sha256 decoded.messageBytes ∧
      InWindow decoded.shape.encodedPhase input.localT clock.unixTimestamp
  | .signedClock input held =>
    store.simulations.get input.proofId = some held.simulation ∧ held.simulation.localT = decimal input.localT ∧
      ProtectedBytes deps.platform (expectedOf deps input.localT) held.decoded.messageBytes held.decoded.feePayer
        held.decoded.shape.encodedPhase ∧
      held.decoded.messageSha256 = deps.platform.sha256 held.decoded.messageBytes ∧
      held.decoded.messageSha256 = held.simulation.messageSha256 ∧
      ∃ signature, held.signatureBase58 = Base58.encode signature ∧
        verifySignature deps.platform held.decoded.feePayer held.decoded.messageBytes signature = true
  | .ended => True
structure Sound (deps : AttestationDependencies) (system : System) : Prop where
  counted : ∀ proofId record, system.store.simulations.get proofId = some record →
    ∃ count, count ≤ system.store.counter ∧ proofId = presign count
  simulations : ∀ proofId record, system.store.simulations.get proofId = some record → record.proofId = proofId ∧
    ∃ messageBytes feePayer localT phase, Attested deps record messageBytes feePayer localT phase
  authorizations : ∀ proofId record, system.store.authorizations.get proofId = some record →
    IsLinked deps system.store proofId record
  calls : ∀ (number : Nat) (call : Call), system.calls[number]? = some call → Pending deps system.store call

theorem presign_injective {left right : Nat} (same : presign left = presign right) : left = right :=
  digits_injective (List.append_cancel_left same)

section
variable {deps : AttestationDependencies} {system after : System} {event : Event} {events : List Event} {store following : Store}

/-- The simulations that are recorded stay recorded. -/
def Keeps (store following : Store) : Prop :=
  ∀ proofId record, store.simulations.get proofId = some record → following.simulations.get proofId = some record
theorem Pending.keeps {call : Call} (pending : Pending deps store call) (keeps : Keeps store following) :
    Pending deps following call := by
  cases call with
  | signedClock input held => exact ⟨keeps _ _ pending.1, pending.2⟩
  | _ => exact pending
theorem IsLinked.keeps {proofId : Text} {record : SignedAuthorizationRecord} (linked : IsLinked deps store proofId record)
    (keeps : Keeps store following) : IsLinked deps following proofId record := by
  obtain ⟨simulation, messageBytes, signature, localT, phase, linked⟩ := linked
  refine ⟨simulation, messageBytes, signature, localT, phase, ?_⟩
  exact { linked with recorded := keeps _ _ linked.recorded }
/-- One more call waits, or one goes on: the others wait for what they did. -/
theorem Sound.started {call : Call} (sound : Sound deps system) (pending : Pending deps system.store call) :
    Sound deps (system.started call) := by
  refine ⟨sound.counted, sound.simulations, sound.authorizations, ?_⟩
  intro number other found
  obtain earlier | ⟨_, rfl⟩ := found_append found
  · exact sound.calls number other earlier
  · exact pending
theorem Sound.advance {number : Nat} {call : Call} (sound : Sound deps system) (pending : Pending deps system.store call) :
    Sound deps (system.advance number call) := by
  refine ⟨sound.counted, sound.simulations, sound.authorizations, ?_⟩
  intro other waiting found
  obtain ⟨_, rfl⟩ | ⟨_, earlier⟩ := found_set found
  · exact pending
  · exact sound.calls other waiting earlier
/-- A store that gains an authorization with its link. -/
theorem Sound.authorize {proofId : Text} {record : SignedAuthorizationRecord} (sound : Sound deps system)
    (linked : IsLinked deps system.store proofId record) :
    Sound deps (system.withStore (system.store.authorize proofId record)) := by
  have keeps : Keeps system.store (system.store.authorize proofId record) := fun _ _ found => found
  refine ⟨sound.counted, sound.simulations, ?_, fun number call found => (sound.calls number call found).keeps keeps⟩
  intro other found lookup
  obtain ⟨rfl, rfl⟩ | ⟨_, earlier⟩ := get_set_eq_some lookup
  · exact linked.keeps keeps
  · exact (sound.authorizations other found earlier).keeps keeps

/-- A count that was taken and not used. -/
theorem Sound.counts (sound : Sound deps system) :
    Sound deps (system.withStore { system.store with counter := system.store.counter + 1 }) := by
  have keeps : Keeps system.store { system.store with counter := system.store.counter + 1 } := fun _ _ found => found
  refine ⟨?_, sound.simulations, fun proofId record found => (sound.authorizations proofId record found).keeps keeps,
    fun number call found => (sound.calls number call found).keeps keeps⟩
  intro other stored found
  obtain ⟨count, bound, same⟩ := sound.counted other stored found
  exact ⟨count, Nat.le_succ_of_le bound, same⟩

/-- What a simulation that is answered does to the store: at most, it counts on and records under the new count. -/
theorem simulated_store {input : PreSignInput} {decoded : DecodedWire} {clock : AttestationClock}
    {answer : Except Value SimulationResult} {now : Text} {result : Attempt PreSignSimulationRecord}
    (answered : simulated deps store input decoded clock answer now = (result, following)) :
    following = store ∨ following = { store with counter := store.counter + 1 } ∨
    ∃ record, record.proofId = proofIdOf deps (store.counter + 1) ∧ record.localT = decimal input.localT ∧
      record.messageSha256 = decoded.messageSha256 ∧ record.clock = AttestationClock.toText clock ∧
      following = ⟨store.counter + 1, store.simulations.set (proofIdOf deps (store.counter + 1)) record, store.authorizations⟩ := by
  unfold simulated at answered
  split at answered
  · cases answered
    exact .inl rfl
  · split at answered
    · cases answered
      exact .inl rfl
    · unfold recordSimulation at answered
      dsimp only at answered
      split at answered
      · cases answered
        exact .inr (.inl rfl)
      · cases answered
        exact .inr (.inr ⟨_, rfl, rfl, rfl, rfl, rfl⟩)
theorem holdSigned_eq_ok {input : SignedInput} {held : Held} (passed : holdSigned deps store input = .ok held) :
    Pending deps store (.signedClock input held) := by
  unfold holdSigned at passed
  obtain ⟨simulation, found, passed⟩ := bind_eq_ok.mp passed
  obtain ⟨activation, passed⟩ := then_eq_ok.mp passed
  obtain ⟨_, passed⟩ := then_eq_ok.mp passed
  obtain ⟨decoded, accepted, passed⟩ := bind_eq_ok.mp passed
  obtain ⟨same, passed⟩ := then_eq_ok.mp passed
  obtain ⟨signature, carried, passed⟩ := bind_eq_ok.mp passed
  obtain ⟨base58, printed, passed⟩ := bind_eq_ok.mp passed
  obtain ⟨_, passed⟩ := then_eq_ok.mp passed
  obtain ⟨verifies, passed⟩ := then_eq_ok.mp passed
  cases passed
  rw [refuse_if_eq_ok, not_not] at activation same
  rw [refuse_if_eq_ok, Bool.not_eq_false] at verifies
  obtain ⟨message, hashed, encoded⟩ := decodeProtectedTradeWire_eq_ok accepted
  refine ⟨ok_or_eq_ok.mp found, activation, message, hashed, same, signature, ?_, verifies⟩
  rw [ok_or_eq_ok.mp carried, ok_or_eq_ok.mp printed] at encoded
  exact Option.some.inj encoded
/-- A call that held a trade, and read the Clock inside its window, links its record to the simulation. -/
theorem linked_of_held (collisionFree : Function.Injective deps.platform.sha256) (sound : Sound deps system)
    {input : SignedInput} {held : Held} {answer : Except Value AttestationClock} {now : Text}
    {record : SignedAuthorizationRecord} (pending : Pending deps system.store (.signedClock input held))
    (passed : authorizationOf input held answer now = .ok record) : IsLinked deps system.store input.proofId record := by
  obtain ⟨recorded, activation, message, hashed, same, signature, printed, verifies⟩ := pending
  obtain ⟨proofId, messageBytes, feePayer, localT, phase, attested⟩ := sound.simulations _ _ recorded
  obtain ⟨clock, timing, _, inside, rfl⟩ := authorizationOf_eq_ok passed
  have sameBytes : messageBytes = held.decoded.messageBytes :=
    collisionFree (attested.hashed.symm.trans (same.symm.trans hashed))
  subst sameBytes
  have sameT : localT = input.localT := decimal_injective (attested.activation.symm.trans activation)
  subst sameT
  obtain ⟨samePayer, samePhase⟩ := protectedBytes_phase attested.message message
  subst samePayer
  subst samePhase
  refine ⟨held.simulation, held.decoded.messageBytes, signature, input.localT, held.decoded.shape.encodedPhase, ?_⟩
  exact {
    recorded
    proofId := ⟨rfl, proofId, proofId⟩
    sameMessage := same
    sameActivation := activation.symm
    attested
    printed
    verifies
    timed := ⟨clock.unixTimestamp, rfl, inside⟩ }
/-- A recorded simulation takes no other's place: the default generator never answers the same id twice. -/
theorem Sound.simulate (sound : Sound deps system) {record : PreSignSimulationRecord}
    (proofId : record.proofId = presign (system.store.counter + 1))
    (attested : ∃ messageBytes feePayer localT phase, Attested deps record messageBytes feePayer localT phase) :
    Sound deps (system.withStore ⟨system.store.counter + 1,
      system.store.simulations.set (presign (system.store.counter + 1)) record, system.store.authorizations⟩) := by
  have keeps : Keeps system.store ⟨system.store.counter + 1,
      system.store.simulations.set (presign (system.store.counter + 1)) record, system.store.authorizations⟩ := by
    intro other earlier found
    obtain ⟨count, bound, rfl⟩ := sound.counted other earlier found
    have different : presign count ≠ presign (system.store.counter + 1) := by
      intro same
      have := presign_injective same
      omega
    exact (get_set_ne _ _ different).trans found
  refine ⟨?_, ?_, ?_, ?_⟩
  · intro other stored found
    obtain ⟨rfl, _⟩ | ⟨_, earlier⟩ := get_set_eq_some found
    · exact ⟨_, le_refl _, rfl⟩
    · obtain ⟨count, bound, same⟩ := sound.counted other stored earlier
      exact ⟨count, Nat.le_succ_of_le bound, same⟩
  · intro other stored found
    obtain ⟨rfl, rfl⟩ | ⟨_, earlier⟩ := get_set_eq_some found
    · exact ⟨proofId, attested⟩
    · exact sound.simulations other stored earlier
  · intro other authorization found
    exact (sound.authorizations other authorization found).keeps keeps
  · intro number call found
    exact (sound.calls number call found).keeps keeps
theorem Sound.step (collisionFree : Function.Injective deps.platform.sha256) (default : deps.newProofId = none)
    (sound : Sound deps system) (step : Step deps system event after) : Sound deps after := by
  cases step with
  | preSignHeld accepted =>
    obtain ⟨message, hashed, _⟩ := decodeProtectedTradeWire_eq_ok accepted
    exact sound.started ⟨message, hashed⟩
  | preSignRefused threw => exact sound
  | preSignTimed waiting passed =>
    obtain ⟨message, hashed⟩ := sound.calls _ _ waiting
    obtain ⟨clock, _, passed⟩ := bind_eq_ok.mp passed
    obtain ⟨inside, passed⟩ := then_eq_ok.mp passed
    cases passed
    exact sound.advance ⟨message, hashed, assertClockMatchesPhase_eq_ok.mp inside⟩
  | preSignUntimed waiting threw => exact sound.advance trivial
  | @simulated number input decoded clock answer now result store waiting answered =>
    obtain ⟨message, hashed, inside⟩ := sound.calls _ _ waiting
    have ended : Sound deps (system.advance number .ended) := sound.advance trivial
    obtain rfl | rfl | ⟨record, proofId, activation, same, read, rfl⟩ := simulated_store answered
    · exact ended
    · exact ended.counts
    · have defaultId : proofIdOf deps (system.store.counter + 1) = presign (system.store.counter + 1) := by
        rw [proofIdOf, default]
      rw [defaultId] at proofId ⊢
      refine ended.simulate proofId ⟨decoded.messageBytes, decoded.feePayer, input.localT,
        decoded.shape.encodedPhase, ?_⟩
      exact ⟨activation, same.trans hashed, message, clock.unixTimestamp, congrArg ClockText.unixTimestamp read, inside⟩
  | signedHeld passed => exact sound.started (holdSigned_eq_ok passed)
  | signedRefused threw => exact sound
  | @authorized number _ _ _ _ _ waiting passed =>
    have ended : Sound deps (system.advance number .ended) := sound.advance trivial
    exact ended.authorize (linked_of_held collisionFree sound (sound.calls _ _ waiting) passed)
  | unauthorized waiting threw => exact sound.advance trivial

/-- Whatever calls are made at once, every authorization in the store is linked to a simulation of its message. -/
theorem store_linked (collisionFree : Function.Injective deps.platform.sha256) (default : deps.newProofId = none)
    (run : Run Initial (Step deps) events system) {proofId : Text} {authorization : SignedAuthorizationRecord}
    (found : system.store.authorizations.get proofId = some authorization) :
    IsLinked deps system.store proofId authorization := by
  have sound : Sound deps system := by
    refine run.invariant ?_ ?_
    · rintro system rfl
      exact ⟨by simp, by simp, by simp, by simp⟩
    · intro event before after sound step
      exact sound.step collisionFree default step
  exact sound.authorizations proofId authorization found
end

/-- The trade is simulated, signed and authorized, with nothing in between. -/
theorem authorized_run {deps : AttestationDependencies} {localT : Int} {unsignedWire signedWire : Text}
    {unsigned signed : DecodedWire} {signature : List UInt8} {base58 : String} {simulation : SimulationResult}
    {clock later : AttestationClock}
    (trade : Trade deps localT unsignedWire signedWire unsigned signed signature base58 simulation)
    (inside : InWindow unsigned.shape.encodedPhase localT clock.unixTimestamp)
    (laterInside : InWindow unsigned.shape.encodedPhase localT later.unixTimestamp) (now : Text) :
    ∃ record events system, Run Initial (Step deps) events system ∧
      system.store.authorizations.get (proofIdOf deps 1) = some record := by
  obtain ⟨simulated, activation, message, run⟩ := simulated_run trade inside now
  let input : SignedInput := ⟨proofIdOf deps 1, signedWire, localT⟩
  let held : Held := ⟨simulated, signed, base58⟩
  have passed (calls : List Call) : holdSigned deps (⟨⟨1, [(proofIdOf deps 1, simulated)], []⟩, calls⟩ : System).store input =
      .ok held := holdSigned_returns trade (by simp [get_cons]) activation message rfl
  obtain ⟨record, returned⟩ := @authorizationOf_returns input held now later (trade.samePhase ▸ laterInside)
  have waiting := run.next (@Step.signedHeld deps _ input held (passed _))
  have authorized := waiting.next (@Step.authorized deps _ 1 input held (.ok later) now record rfl returned)
  exact ⟨record, _, _, authorized, get_set_self _ _ _⟩
/-- One value given by hand to a function that does not take it otherwise. -/
theorem override_injective {α β : Type} [DecidableEq α] {function : α → β} {argument : α} {value : β}
    (injective : Function.Injective function) (fresh : ∀ other, function other ≠ value) :
    Function.Injective (fun other => if other = argument then value else function other) := by
  intro left right same
  dsimp only at same
  by_cases leftIs : left = argument <;> by_cases rightIs : right = argument
  · exact leftIs.trans rightIs.symm
  · rw [if_pos leftIs, if_neg rightIs] at same
    exact absurd same.symm (fresh right)
  · rw [if_neg leftIs, if_pos rightIs] at same
    exact absurd same (fresh left)
  · rw [if_neg leftIs, if_neg rightIs] at same
    exact injective same
theorem pendingDigests_injective : Function.Injective pendingPlatform.sha256 := by
  have marked {digest : Text} (head : digest.head? ≠ some 120) (bytes : List UInt8) : 120 :: Hex.toHex bytes ≠ digest := by
    rintro rfl
    exact head rfl
  have plain : Function.Injective (fun bytes => 120 :: Hex.toHex bytes) := fun _ _ same => Hex.toHex_injective (List.cons.inj same).2
  refine override_injective (override_injective (override_injective plain (marked ?_)) ?_) ?_
  · decide
  · intro bytes
    split_ifs
    · decide
    · exact marked (by decide) bytes
  · intro bytes
    split_ifs
    · decide
    · decide
    · exact marked (by decide) bytes
theorem store_linked_pending : ∃ authorization events system, Run Initial (Step pendingDependencies) events system ∧
    system.store.authorizations.get (presign 1) = some authorization ∧
    IsLinked pendingDependencies system.store (presign 1) authorization := by
  obtain ⟨record, events, system, run, found⟩ := authorized_run pendingTrade (beforeArmed_inside 500) (beforeArmed_inside 501) "now"
  exact ⟨record, events, system, run, found, store_linked pendingDigests_injective rfl run found⟩

end EquityGuard.AttestationLinks
