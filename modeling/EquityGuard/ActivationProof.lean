import EquityGuard.Hex
import EquityGuard.Interactions
import EquityGuard.JsValue

/-!
The held authorization: one build, one approval, one immutable signed wire that is held
across the activation, and at most one submission of it.
-/
namespace EquityGuard.ActivationProof
open EquityGuard.Bytes EquityGuard.Hex EquityGuard.Interactions EquityGuard.JsonText EquityGuard.JsValue

def equalBytes (a b : List UInt8) : Bool := a.length == b.length && (a.zip b).all (fun pair => pair.1 == pair.2)
def wireHash (sha256 : List UInt8 → Chunk 32) (bytes : List UInt8) : Text := toHex (sha256 bytes).bytes

inductive BuyStage where
  | TRANSACTION_BUILD
  | SIGN_REQUEST
  | SIGNED_BYTES_RETURNED
  | PRE_SIGN_SIMULATION
  | SIGNED_AUTHORIZATION_RECEIPT
  | DEPLOYMENT_ATTESTATION
  | WAITING_FOR_ACTIVATION
  | BLOCKHASH_VALIDATION
  | SUBMISSION
deriving DecidableEq
inductive DeploymentStage where
  | PRE_SIGN
  | PRE_SUBMISSION
deriving DecidableEq
structure ActivationClock where
  unixTimestamp : Int
  slot : Int
structure LifetimeCheck where
  valid : Bool
  height : Int
  lastValidBlockHeight : Int
structure PreSignAttestation where
  proofId : Text
  messageSha256 : Text
structure SignedAuthorizationAttestation where
  proofId : Text
  signedWireSha256 : Text
  messageSha256 : Text
structure DeploymentAttestation where
  stage : DeploymentStage
  digest : Text

/-- The calls of the dependencies. -/
inductive Request (Prepared : Type) where
  | build
  | attestPreSignSimulation (prepared : Prepared)
  | sign (prepared : Prepared)
  | attestSignedAuthorization (proofId : Text) (signed : List UInt8)
  | attestDeployment (stage : DeploymentStage)
  | clock
  | lifetime (prepared : Prepared)
  | submit (prepared : Prepared) (bytes : List UInt8) (stale : Bool)
  | pause
  | stage (stage : BuyStage) (clock : Option ActivationClock)
/-- What each of them answers. -/
abbrev Answer (Prepared Outcome : Type) : Request Prepared → Type
  | .build => Prepared
  | .attestPreSignSimulation _ => PreSignAttestation
  | .sign _ => List UInt8
  | .attestSignedAuthorization _ _ => SignedAuthorizationAttestation
  | .attestDeployment _ => DeploymentAttestation
  | .clock => ActivationClock
  | .lifetime _ => LifetimeCheck
  | .submit _ _ _ => Outcome
  | .pause => Unit
  | .stage _ _ => Unit

section
variable {Prepared Outcome : Type}

/-- A piece of the protocol; it fails with the message of an `Error`. -/
abbrev Protocol (Prepared Outcome : Type) (Result : Type) := Program (Request Prepared) (Answer Prepared Outcome) String Result
abbrev Trace (Prepared Outcome : Type) := List (Exchange (Request Prepared) (Answer Prepared Outcome) Value)

structure Unsigned (Prepared : Type) where
  prepared : Prepared
  beforeSimulation : ActivationClock
  preSign : PreSignAttestation
  atSimulation : ActivationClock
  deploymentBeforeSigning : DeploymentAttestation
structure Signed where
  /-- What the wallet returned. It is copied twice, and neither copy is handed out to be written to. -/
  returned : List UInt8
  atSigning : ActivationClock
  signedAuthorization : SignedAuthorizationAttestation
  signedWireHashBeforeActivation : Text
structure Checked where
  lifetime : LifetimeCheck
  deploymentBeforeSubmission : DeploymentAttestation
  signedWireHashAtSubmission : Text
structure Proof (Prepared Outcome : Type) where
  localT : Int
  before : Unsigned Prepared
  signed : Signed
  atSubmission : ActivationClock
  checked : Checked
  wireLength : Nat
  exactEquality : Bool
  outcome : Outcome

/-- One call of a dependency. -/
abbrev ask (request : Request Prepared) : Protocol Prepared Outcome (Answer Prepared Outcome request) := Program.request request
abbrev require (condition : Prop) [Decidable condition] (message : String) : Protocol Prepared Outcome Unit :=
  Program.require condition message

/-- Up to the wallet. -/
def prepare (localT : Int) (stale : Bool) : Protocol Prepared Outcome (Unsigned Prepared) := do
  ask (.stage .TRANSACTION_BUILD none)
  let prepared ← ask .build
  let beforeSimulation ← ask .clock
  require (¬ if stale then beforeSimulation.unixTimestamp ≥ localT else beforeSimulation.unixTimestamp < localT)
    "Authorization phase is not ready; reset the local reproduction"
  ask (.stage .PRE_SIGN_SIMULATION none)
  let preSign ← ask (.attestPreSignSimulation prepared)
  let atSimulation ← ask .clock
  require (¬ (stale ∧ atSimulation.unixTimestamp ≥ localT)) "Activation passed during simulation; no signature requested"
  ask (.stage .DEPLOYMENT_ATTESTATION none)
  let deploymentBeforeSigning ← ask (.attestDeployment .PRE_SIGN)
  return { prepared, beforeSimulation, preSign, atSimulation, deploymentBeforeSigning }
/-- The one approval, and its receipt by the coordinator. -/
def sign (sha256 : List UInt8 → Chunk 32) (localT : Int) (stale : Bool) (before : Unsigned Prepared) :
    Protocol Prepared Outcome Signed := do
  ask (.stage .SIGN_REQUEST none)
  let returned ← ask (.sign before.prepared)
  ask (.stage .SIGNED_BYTES_RETURNED none)
  let atSigning ← ask .clock
  require (¬ (stale ∧ atSigning.unixTimestamp ≥ localT))
    "Signature returned after activation; aborting without submission or re-signing"
  ask (.stage .SIGNED_AUTHORIZATION_RECEIPT none)
  let signedAuthorization ← ask (.attestSignedAuthorization before.preSign.proofId returned)
  require (signedAuthorization.messageSha256 = before.preSign.messageSha256)
    "Coordinator attested a different message than it simulated; submission refused"
  let signedWireHashBeforeActivation := wireHash sha256 returned
  require (signedAuthorization.signedWireSha256 = signedWireHashBeforeActivation)
    "Coordinator attested different signed bytes than the ones held; submission refused"
  return { returned, atSigning, signedAuthorization, signedWireHashBeforeActivation }
/-- The waiting loop, with the polls that are left. -/
def poll (localT : Int) : Nat → ActivationClock → Protocol Prepared Outcome ActivationClock
  | polls, atSubmission =>
    if atSubmission.unixTimestamp ≤ localT then
      match polls with
      | 0 => .fail "Validator Clock did not cross activation; transaction not submitted"
      | polls + 1 => do
        ask .pause
        let atSubmission ← ask .clock
        ask (.stage .WAITING_FOR_ACTIVATION (some atSubmission))
        poll localT polls atSubmission
    else return atSubmission
def wait (localT : Int) (stale : Bool) (atSigning : ActivationClock) : Protocol Prepared Outcome ActivationClock :=
  if stale then do
    ask (.stage .WAITING_FOR_ACTIVATION (some atSigning))
    poll localT 240 atSigning
  else return atSigning
/-- The last checks: the blockhash, the deployment, and that the held bytes are still the signed ones. -/
def check (sha256 : List UInt8 → Chunk 32) (before : Unsigned Prepared) (signed : Signed) : Protocol Prepared Outcome Checked := do
  ask (.stage .BLOCKHASH_VALIDATION none)
  let lifetime ← ask (.lifetime before.prepared)
  require (¬ (lifetime.valid = false ∨ lifetime.height > lifetime.lastValidBlockHeight))
    "Original blockhash expired; aborted without rebuilding or re-signing"
  ask (.stage .DEPLOYMENT_ATTESTATION none)
  let deploymentBeforeSubmission ← ask (.attestDeployment .PRE_SUBMISSION)
  require (deploymentBeforeSubmission.digest = before.deploymentBeforeSigning.digest)
    "EquityGuard deployment changed after signing; submission refused"
  let signedWireHashAtSubmission := wireHash sha256 signed.returned
  require (equalBytes signed.returned signed.returned ∧ signed.signedWireHashBeforeActivation = signedWireHashAtSubmission)
    "Signed transaction bytes changed; submission refused"
  return { lifetime, deploymentBeforeSubmission, signedWireHashAtSubmission }
def executeAcrossActivation (sha256 : List UInt8 → Chunk 32) (localT : Int) (stale : Bool) :
    Protocol Prepared Outcome (Proof Prepared Outcome) := do
  let before ← prepare localT stale
  let signed ← sign sha256 localT stale before
  let atSubmission ← wait localT stale signed.atSigning
  let checked ← check sha256 before signed
  ask (.stage .SUBMISSION none)
  let outcome ← ask (.submit before.prepared signed.returned stale)
  return { localT, before, signed, atSubmission, checked, wireLength := signed.returned.length,
           exactEquality := equalBytes signed.returned signed.returned, outcome }
end

/-! ### How often the dependencies are called -/

def Request.isSign {Prepared : Type} : Request Prepared → Bool
  | .sign _ => true
  | _ => false
def Request.isSubmit {Prepared : Type} : Request Prepared → Bool
  | .submit _ _ _ => true
  | _ => false
def Request.isPause {Prepared : Type} : Request Prepared → Bool
  | .pause => true
  | _ => false
/-- What is counted is among the calls to sign, to submit and to pause. -/
def Uncounted {Prepared : Type} (counted : Request Prepared → Bool) : Prop :=
  ∀ request : Request Prepared, request.isSign = false → request.isSubmit = false → request.isPause = false →
    counted request = false

section
variable {Prepared Outcome : Type} {sha256 : List UInt8 → Chunk 32} {localT : Int} {stale : Bool}
  {counted : Request Prepared → Bool}

theorem uncounted_isSign : Uncounted (Request.isSign : Request Prepared → Bool) := fun _ other _ _ => other
theorem uncounted_isSubmit : Uncounted (Request.isSubmit : Request Prepared → Bool) := fun _ _ other _ => other
theorem uncounted_isPause : Uncounted (Request.isPause : Request Prepared → Bool) := fun _ _ _ other => other

theorem prepare_atMost (others : Uncounted counted) :
    (prepare localT stale : Protocol Prepared Outcome _).AtMost counted 0 := by
  unfold prepare
  refine .ask (others _ rfl rfl rfl) (fun _ => .ask (others _ rfl rfl rfl) (fun _ => ?_))
  refine .ask (others _ rfl rfl rfl) (fun _ => .check (.ask (others _ rfl rfl rfl) (fun _ => ?_)))
  refine .ask (others _ rfl rfl rfl) (fun _ => .ask (others _ rfl rfl rfl) (fun _ => .check ?_))
  exact .ask (others _ rfl rfl rfl) (fun _ => .ask (others _ rfl rfl rfl) (fun _ => trivial))
theorem sign_atMost (others : Uncounted counted) {before : Unsigned Prepared} {count : Nat}
    (signing : (Program.request (.sign before.prepared) : Protocol Prepared Outcome _).AtMost counted count) :
    (sign sha256 localT stale before : Protocol Prepared Outcome _).AtMost counted count := by
  unfold sign
  refine .ask (others _ rfl rfl rfl) (fun _ => @Program.AtMost.bind _ _ _ _ _ _ count 0 _ _ signing (fun _ => ?_))
  refine .ask (others _ rfl rfl rfl) (fun _ => .ask (others _ rfl rfl rfl) (fun _ => .check ?_))
  exact .ask (others _ rfl rfl rfl) (fun _ => .ask (others _ rfl rfl rfl) (fun _ => .check (.check trivial)))
/-- Each poll pauses once. -/
theorem poll_atMost (others : Uncounted counted) {each : Nat}
    (pausing : (Program.request .pause : Protocol Prepared Outcome _).AtMost counted each) (polls : Nat) (clock : ActivationClock) :
    (poll localT polls clock : Protocol Prepared Outcome _).AtMost counted (polls * each) := by
  induction polls generalizing clock with
  | zero =>
    unfold poll
    split <;> trivial
  | succ polls ih =>
    unfold poll
    split
    · rw [Nat.succ_mul, Nat.add_comm]
      refine pausing.bind (fun _ => .ask (others _ rfl rfl rfl) (fun clock => ?_))
      exact .ask (others _ rfl rfl rfl) (fun _ => ih clock)
    · trivial
theorem wait_atMost (others : Uncounted counted) {each : Nat}
    (pausing : (Program.request .pause : Protocol Prepared Outcome _).AtMost counted each) (clock : ActivationClock) :
    (wait localT stale clock : Protocol Prepared Outcome _).AtMost counted (240 * each) := by
  unfold wait
  split
  · exact .ask (others _ rfl rfl rfl) (fun _ => poll_atMost others pausing 240 clock)
  · trivial
theorem check_atMost (others : Uncounted counted) {before : Unsigned Prepared} {signed : Signed} :
    (check sha256 before signed : Protocol Prepared Outcome _).AtMost counted 0 := by
  unfold check
  refine .ask (others _ rfl rfl rfl) (fun _ => .ask (others _ rfl rfl rfl) (fun _ => .check ?_))
  exact .ask (others _ rfl rfl rfl) (fun _ => .ask (others _ rfl rfl rfl) (fun _ => .check (.check trivial)))
theorem executeAcrossActivation_atMost (others : Uncounted counted) {signs pauses submits : Nat}
    (signing : ∀ prepared, (Program.request (.sign prepared) : Protocol Prepared Outcome _).AtMost counted signs)
    (pausing : (Program.request .pause : Protocol Prepared Outcome _).AtMost counted pauses)
    (submitting : ∀ prepared bytes, (Program.request (.submit prepared bytes stale) :
      Protocol Prepared Outcome _).AtMost counted submits) :
    (executeAcrossActivation sha256 localT stale : Protocol Prepared Outcome _).AtMost counted
      (0 + (signs + (240 * pauses + (0 + (submits + 0))))) := by
  unfold executeAcrossActivation
  refine (prepare_atMost others).bind (fun before => (sign_atMost others (signing _)).bind (fun signed => ?_))
  refine (wait_atMost others pausing _).bind (fun _ => (check_atMost others).bind (fun _ => ?_))
  exact .ask (others _ rfl rfl rfl) (fun _ => (submitting _ _).bind (fun _ => trivial))

/-! ### What a piece that returned has exchanged -/

/-- The exchange of a call that was answered. -/
abbrev told (request : Request Prepared) (answer : Answer Prepared Outcome request) :
    Exchange (Request Prepared) (Answer Prepared Outcome) Value := ⟨request, .ok answer⟩
/-- The Clock readings of a trace. -/
def clockOf : Exchange (Request Prepared) (Answer Prepared Outcome) Value → Option ActivationClock
  | ⟨.clock, .ok clock⟩ => some clock
  | _ => none
def clocks (trace : Trace Prepared Outcome) : List ActivationClock := trace.filterMap clockOf

def preparedTrace (before : Unsigned Prepared) : Trace Prepared Outcome := [
  told (.stage .TRANSACTION_BUILD none) (), told .build before.prepared, told .clock before.beforeSimulation,
  told (.stage .PRE_SIGN_SIMULATION none) (), told (.attestPreSignSimulation before.prepared) before.preSign,
  told .clock before.atSimulation, told (.stage .DEPLOYMENT_ATTESTATION none) (),
  told (.attestDeployment .PRE_SIGN) before.deploymentBeforeSigning]
def receiptTrace (before : Unsigned Prepared) (signed : Signed) : Trace Prepared Outcome := [
  told (.stage .SIGNED_BYTES_RETURNED none) (), told .clock signed.atSigning, told (.stage .SIGNED_AUTHORIZATION_RECEIPT none) (),
  told (.attestSignedAuthorization before.preSign.proofId signed.returned) signed.signedAuthorization]
def checkedTrace (before : Unsigned Prepared) (checked : Checked) : Trace Prepared Outcome := [
  told (.stage .BLOCKHASH_VALIDATION none) (), told (.lifetime before.prepared) checked.lifetime,
  told (.stage .DEPLOYMENT_ATTESTATION none) (), told (.attestDeployment .PRE_SUBMISSION) checked.deploymentBeforeSubmission]

variable {trace : Trace Prepared Outcome}

theorem prepare_returned {before : Unsigned Prepared}
    (run : Runs (prepare localT stale : Protocol Prepared Outcome _) trace (.returned before)) :
    trace = preparedTrace before ∧
    (stale = true → before.beforeSimulation.unixTimestamp < localT ∧ before.atSimulation.unixTimestamp < localT) ∧
    (stale = false → localT ≤ before.beforeSimulation.unixTimestamp) := by
  unfold prepare at run
  obtain ⟨_, _, told1, run⟩ := run.asked
  obtain ⟨prepared, _, told2, run⟩ := run.asked
  obtain ⟨beforeSimulation, _, told3, run⟩ := run.asked
  obtain ⟨ready, run⟩ := run.required
  obtain ⟨_, _, told4, run⟩ := run.asked
  obtain ⟨preSign, _, told5, run⟩ := run.asked
  obtain ⟨atSimulation, _, told6, run⟩ := run.asked
  obtain ⟨inTime, run⟩ := run.required
  obtain ⟨_, _, told7, run⟩ := run.asked
  obtain ⟨deployment, _, told8, run⟩ := run.asked
  obtain ⟨rfl, rfl⟩ := run.ended
  rw [told1, told2, told3, told4, told5, told6, told7, told8]
  refine ⟨rfl, ?_, ?_⟩
  · rintro rfl
    simp only [↓reduceIte, not_le, true_and] at ready inTime
    exact ⟨ready, inTime⟩
  · rintro rfl
    simpa using ready
theorem sign_returned {before : Unsigned Prepared} {signed : Signed}
    (run : Runs (sign sha256 localT stale before : Protocol Prepared Outcome _) trace (.returned signed)) :
    trace = told (.stage .SIGN_REQUEST none) () :: told (.sign before.prepared) signed.returned :: receiptTrace before signed ∧
    (stale = true → signed.atSigning.unixTimestamp < localT) ∧
    signed.signedAuthorization.messageSha256 = before.preSign.messageSha256 ∧
    signed.signedAuthorization.signedWireSha256 = wireHash sha256 signed.returned := by
  unfold sign at run
  obtain ⟨_, _, told1, run⟩ := run.asked
  obtain ⟨returned, _, told2, run⟩ := run.asked
  obtain ⟨_, _, told3, run⟩ := run.asked
  obtain ⟨atSigning, _, told4, run⟩ := run.asked
  obtain ⟨inTime, run⟩ := run.required
  obtain ⟨_, _, told5, run⟩ := run.asked
  obtain ⟨authorization, _, told6, run⟩ := run.asked
  obtain ⟨sameMessage, run⟩ := run.required
  obtain ⟨sameWire, run⟩ := run.required
  obtain ⟨rfl, rfl⟩ := run.ended
  rw [told1, told2, told3, told4, told5, told6]
  refine ⟨rfl, ?_, sameMessage, sameWire⟩
  rintro rfl
  simpa using inTime
/-- The loop ends past the activation, with the last reading that was made. -/
theorem poll_returned {polls : Nat} {clock last : ActivationClock}
    (run : Runs (poll localT polls clock : Protocol Prepared Outcome _) trace (.returned last)) :
    localT < last.unixTimestamp ∧ (clock :: clocks trace).getLast? = some last := by
  induction polls generalizing clock trace with
  | zero =>
    unfold poll at run
    split at run
    · cases run
    · rename_i past
      obtain ⟨rfl, rfl⟩ := run.ended
      exact ⟨not_le.mp past, rfl⟩
  | succ polls ih =>
    unfold poll at run
    split at run
    · obtain ⟨_, _, told1, run⟩ := run.asked
      obtain ⟨reading, _, told2, run⟩ := run.asked
      obtain ⟨_, _, told3, run⟩ := run.asked
      obtain ⟨past, ends⟩ := ih run
      rw [told1, told2, told3]
      exact ⟨past, ends⟩
    · rename_i past
      obtain ⟨rfl, rfl⟩ := run.ended
      exact ⟨not_le.mp past, rfl⟩
theorem wait_returned {clock last : ActivationClock}
    (run : Runs (wait localT true clock : Protocol Prepared Outcome _) trace (.returned last)) :
    localT < last.unixTimestamp ∧ (clock :: clocks trace).getLast? = some last := by
  unfold wait at run
  rw [if_pos rfl] at run
  obtain ⟨_, _, told1, run⟩ := run.asked
  obtain ⟨past, ends⟩ := poll_returned run
  rw [told1]
  exact ⟨past, ends⟩
theorem check_returned {before : Unsigned Prepared} {signed : Signed} {checked : Checked}
    (run : Runs (check sha256 before signed : Protocol Prepared Outcome _) trace (.returned checked)) :
    trace = checkedTrace before checked ∧
    checked.lifetime.valid = true ∧ checked.lifetime.height ≤ checked.lifetime.lastValidBlockHeight ∧
    checked.deploymentBeforeSubmission.digest = before.deploymentBeforeSigning.digest := by
  unfold check at run
  obtain ⟨_, _, told1, run⟩ := run.asked
  obtain ⟨lifetime, _, told2, run⟩ := run.asked
  obtain ⟨valid, run⟩ := run.required
  obtain ⟨_, _, told3, run⟩ := run.asked
  obtain ⟨deployment, _, told4, run⟩ := run.asked
  obtain ⟨same, run⟩ := run.required
  obtain ⟨_, run⟩ := run.required
  obtain ⟨rfl, rfl⟩ := run.ended
  rw [told1, told2, told3, told4]
  rw [not_or, Bool.not_eq_false, not_lt] at valid
  exact ⟨rfl, valid.1, valid.2, same⟩

/-! ### What stands behind a submission -/

/-- What was exchanged before a submission of some bytes: up to the signing that returned them, and since. -/
structure Backed (sha256 : List UInt8 → Chunk 32) (localT : Int) (stale : Bool) (earlier : Trace Prepared Outcome)
    (prepared : Prepared) (bytes : List UInt8) (untilSigning sinceSigning : Trace Prepared Outcome)
    (preSign : PreSignAttestation) (authorization : SignedAuthorizationAttestation)
    (before after : DeploymentAttestation) (lifetime : LifetimeCheck) : Prop where
  signed : earlier = untilSigning ++ told (.sign prepared) bytes :: sinceSigning
  built : told .build prepared ∈ untilSigning
  attested : told (.attestSignedAuthorization preSign.proofId bytes) authorization ∈ sinceSigning
  sameWire : authorization.signedWireSha256 = wireHash sha256 bytes
  sameMessage : authorization.messageSha256 = preSign.messageSha256
  deployedBefore : told (.attestDeployment .PRE_SIGN) before ∈ untilSigning
  deployedAfter : told (.attestDeployment .PRE_SUBMISSION) after ∈ sinceSigning
  sameDeployment : before.digest = after.digest
  alive : told (.lifetime prepared) lifetime ∈ sinceSigning
  valid : lifetime.valid = true ∧ lifetime.height ≤ lifetime.lastValidBlockHeight
  simulated : ∃ first since, untilSigning = first ++ told (.attestPreSignSimulation prepared) preSign :: since ∧
    ∃ clock, clocks first = [clock] ∧ (stale = false → localT ≤ clock.unixTimestamp)
  held : stale = true → (∀ clock ∈ clocks untilSigning, clock.unixTimestamp < localT) ∧
    (∃ atSigning later, clocks sinceSigning = atSigning :: later ∧ atSigning.unixTimestamp < localT) ∧
    ∃ last, (clocks earlier).getLast? = some last ∧ localT < last.unixTimestamp
/-- What holds of every run of the protocol. -/
structure Safe (sha256 : List UInt8 → Chunk 32) (localT : Int) (stale : Bool) (trace : Trace Prepared Outcome) : Prop where
  signs : trace.countP (fun exchange => exchange.request.isSign) ≤ 1
  submits : trace.countP (fun exchange => exchange.request.isSubmit) ≤ 1
  polls : trace.countP (fun exchange => exchange.request.isPause) ≤ 240
  backed : ∀ earlier later prepared bytes flag answer, trace = earlier ++ ⟨.submit prepared bytes flag, answer⟩ :: later →
    flag = stale ∧ ∃ untilSigning sinceSigning preSign authorization before after lifetime,
      Backed sha256 localT stale earlier prepared bytes untilSigning sinceSigning preSign authorization before after lifetime
  stalled : stale = true → (∀ clock ∈ clocks trace, clock.unixTimestamp ≤ localT) →
    trace.countP (fun exchange => exchange.request.isSubmit) = 0

theorem clocks_append (first second : Trace Prepared Outcome) : clocks (first ++ second) = clocks first ++ clocks second :=
  List.filterMap_append
/-- The pieces before the submission, when they all returned. -/
theorem backed_of_returned {before : Unsigned Prepared} {signed : Signed} {atSubmission : ActivationClock} {checked : Checked}
    {first second third fourth : Trace Prepared Outcome} (prepared : Runs (prepare localT stale) first (.returned before))
    (signing : Runs (sign sha256 localT stale before) second (.returned signed))
    (waiting : Runs (wait localT stale signed.atSigning) third (.returned atSubmission))
    (checking : Runs (check sha256 before signed) fourth (.returned checked)) :
    ∃ untilSigning sinceSigning preSign authorization deployedBefore deployedAfter lifetime,
      Backed sha256 localT stale (first ++ (second ++ (third ++ (fourth ++ [told (.stage .SUBMISSION none) ()]))))
        before.prepared signed.returned untilSigning sinceSigning preSign authorization deployedBefore deployedAfter lifetime := by
  obtain ⟨rfl, inTime, current⟩ := prepare_returned prepared
  obtain ⟨rfl, signedInTime, sameMessage, sameWire⟩ := sign_returned signing
  obtain ⟨rfl, valid, height, sameDeployment⟩ := check_returned checking
  refine ⟨preparedTrace before ++ [told (.stage .SIGN_REQUEST none) ()],
    receiptTrace before signed ++ (third ++ (checkedTrace before checked ++ [told (.stage .SUBMISSION none) ()])),
    before.preSign, signed.signedAuthorization, before.deploymentBeforeSigning,
    checked.deploymentBeforeSubmission, checked.lifetime, ?_⟩
  exact {
    signed := by
      rw [List.append_assoc]
      rfl
    built := by simp [preparedTrace]
    attested := by simp [receiptTrace]
    sameWire
    sameMessage
    deployedBefore := by simp [preparedTrace]
    deployedAfter := by simp [checkedTrace]
    sameDeployment := sameDeployment.symm
    alive := by simp [checkedTrace]
    valid := ⟨valid, height⟩
    simulated := ⟨[told (.stage .TRANSACTION_BUILD none) (), told .build before.prepared, told .clock before.beforeSimulation,
      told (.stage .PRE_SIGN_SIMULATION none) ()], _, rfl, before.beforeSimulation, rfl, current⟩
    held := by
      rintro rfl
      obtain ⟨early, later⟩ := inTime rfl
      obtain ⟨past, last⟩ := wait_returned waiting
      have readings : clocks (preparedTrace before ++ [told (.stage .SIGN_REQUEST none) ()] : Trace Prepared Outcome) =
          [before.beforeSimulation, before.atSimulation] := rfl
      refine ⟨?_, ⟨signed.atSigning, _, rfl, signedInTime rfl⟩, atSubmission, ?_, past⟩
      · rw [readings]
        simpa using And.intro early later
      · rw [clocks_append, clocks_append, clocks_append]
        show ([before.beforeSimulation, before.atSimulation] ++ (signed.atSigning :: (clocks third ++ []))).getLast? = _
        rw [List.append_nil, List.getLast?_append, last]
        rfl }
/-- Where the one item of a kind stands in a list. -/
theorem append_cons_unique {α : Type} {kind : α → Bool} {first second later rest : List α} {item other : α}
    (none : first.countP kind = 0) (ofKind : kind other = true) (isKind : kind item = true) (last : rest.countP kind = 0)
    (same : first ++ item :: rest = second ++ other :: later) : second = first ∧ other = item := by
  induction first generalizing second with
  | nil =>
    cases second with
    | nil =>
      cases same
      exact ⟨rfl, rfl⟩
    | cons head tail =>
      obtain ⟨rfl, rfl⟩ := List.cons.inj same
      simp [ofKind] at last
  | cons head tail ih =>
    rw [List.countP_cons] at none
    cases second with
    | nil =>
      obtain ⟨rfl, _⟩ := List.cons.inj same
      simp [ofKind] at none
    | cons second others =>
      simp only [List.cons_append, List.cons.injEq] at same
      obtain ⟨rfl, tails⟩ := same
      obtain ⟨rfl, rfl⟩ := ih (by omega) tails
      exact ⟨rfl, rfl⟩
/-- Once everything before it returned, the submission is made with the bytes that were signed, and nothing follows it. -/
theorem submission_exchanged {before : Unsigned Prepared} {signed : Signed} {result : Outcome → Proof Prepared Outcome}
    {ending : Ending String Value (Proof Prepared Outcome)}
    (run : Runs (do
      ask (.stage .SUBMISSION none)
      let outcome ← ask (.submit before.prepared signed.returned stale)
      return result outcome : Protocol Prepared Outcome (Proof Prepared Outcome)) trace ending) :
    trace.countP (fun exchange => exchange.request.isSubmit) = 0 ∨
      ∃ answer, trace = [told (.stage .SUBMISSION none) (), ⟨.submit before.prepared signed.returned stale, answer⟩] := by
  cases run with
  | rejected reason => exact .inl rfl
  | answered answer rest =>
    cases rest with
    | rejected reason => exact .inr ⟨.error reason, rfl⟩
    | answered outcome rest =>
      cases rest
      exact .inr ⟨.ok outcome, rfl⟩
/-- A run that comes to the submission has been through every piece before it. -/
theorem submission_reached {ending : Ending String Value (Proof Prepared Outcome)}
    (run : Runs (executeAcrossActivation sha256 localT stale : Protocol Prepared Outcome _) trace ending) :
    trace.countP (fun exchange => exchange.request.isSubmit) = 0 ∨
    ∃ before signed atSubmission checked first second third fourth answer,
      Runs (prepare localT stale) first (.returned before) ∧ Runs (sign sha256 localT stale before) second (.returned signed) ∧
      Runs (wait localT stale signed.atSigning) third (.returned atSubmission) ∧
      Runs (check sha256 before signed) fourth (.returned checked) ∧
      List.countP (fun exchange : Exchange (Request Prepared) (Answer Prepared Outcome) Value => exchange.request.isSubmit)
        (first ++ (second ++ (third ++ (fourth ++ [told (.stage .SUBMISSION none) ()])))) = 0 ∧
      trace = (first ++ (second ++ (third ++ (fourth ++ [told (.stage .SUBMISSION none) ()])))) ++
        [⟨.submit before.prepared signed.returned stale, answer⟩] := by
  have others : Uncounted (Request.isSubmit : Request Prepared → Bool) := uncounted_isSubmit
  unfold executeAcrossActivation at run
  obtain none | ⟨before, first, _, split1, none1, preparing, run⟩ := run.split_uncounted (prepare_atMost others)
  · exact .inl none
  obtain none | ⟨signed, second, _, split2, none2, signing, run⟩ := run.split_uncounted (sign_atMost others (.none rfl))
  · exact .inl (by rw [split1, List.countP_append, none1, none])
  have quiet : (wait localT stale signed.atSigning : Protocol Prepared Outcome _).AtMost Request.isSubmit 0 :=
    @wait_atMost _ _ _ _ _ others 0 (.none rfl) _
  obtain none | ⟨atSubmission, third, _, split3, none3, waiting, run⟩ := run.split_uncounted quiet
  · exact .inl (by rw [split1, split2, List.countP_append, List.countP_append, none1, none2, none])
  obtain none | ⟨checked, fourth, _, split4, none4, checking, run⟩ := run.split_uncounted (check_atMost others)
  · refine .inl ?_
    rw [split1, split2, split3, List.countP_append, List.countP_append, List.countP_append, none1, none2, none3, none]
  obtain none | ⟨answer, submitted⟩ := submission_exchanged run
  · refine .inl ?_
    rw [split1, split2, split3, split4, List.countP_append, List.countP_append, List.countP_append, List.countP_append, none1,
      none2, none3, none4, none]
  · refine .inr ⟨before, signed, atSubmission, checked, first, second, third, fourth, answer, preparing, signing, waiting,
      checking, ?_, ?_⟩
    · rw [List.countP_append, List.countP_append, List.countP_append, List.countP_append, none1, none2, none3, none4]
      rfl
    · rw [split1, split2, split3, split4, submitted]
      simp
/-- Whatever the dependencies answer, and wherever they fail. -/
theorem executeAcrossActivation_safe {ending : Ending String Value (Proof Prepared Outcome)}
    (run : Runs (executeAcrossActivation sha256 localT stale : Protocol Prepared Outcome _) trace ending) :
    Safe sha256 localT stale trace where
  signs := run.count_le (@executeAcrossActivation_atMost _ _ _ _ _ _ uncounted_isSign 1 0 0 (fun _ => .one) (.none rfl)
    (fun _ _ => .none rfl))
  submits := run.count_le (@executeAcrossActivation_atMost _ _ _ _ _ _ uncounted_isSubmit 0 0 1 (fun _ => .none rfl)
    (.none rfl) (fun _ _ => .one))
  polls := run.count_le (@executeAcrossActivation_atMost _ _ _ _ _ _ uncounted_isPause 0 1 0 (fun _ => .none rfl) .one
    (fun _ _ => .none rfl))
  backed := by
    intro earlier later prepared bytes flag answer same
    obtain none | ⟨before, signed, atSubmission, checked, first, second, third, fourth, outcome, preparing, signing, waiting,
      checking, none, exchanged⟩ := submission_reached run
    · rw [same, List.countP_append, List.countP_cons] at none
      simp [Request.isSubmit] at none
    · obtain ⟨rfl, submitted⟩ := append_cons_unique none rfl rfl rfl (exchanged.symm.trans same)
      cases submitted
      exact ⟨rfl, backed_of_returned preparing signing waiting checking⟩
  stalled := by
    rintro rfl never
    obtain none | ⟨before, signed, atSubmission, checked, first, second, third, fourth, answer, preparing, signing, waiting,
      checking, _, exchanged⟩ := submission_reached run
    · exact none
    · obtain ⟨_, _, _, _, _, _, _, backed⟩ := backed_of_returned preparing signing waiting checking
      obtain ⟨_, _, last, found, past⟩ := backed.held rfl
      rw [exchanged, clocks_append] at never
      exact absurd (never last (List.mem_append_left _ (List.mem_of_getLast? found))) (not_le.mpr past)
/-- Every oracle's run ends, and is safe. -/
theorem held_authorization (sha256 : List UInt8 → Chunk 32) (localT : Int) (stale : Bool)
    (oracle : Trace Prepared Outcome → (request : Request Prepared) → Except Value (Answer Prepared Outcome request)) :
    Safe sha256 localT stale (execute oracle [] (executeAcrossActivation sha256 localT stale)).1 :=
  executeAcrossActivation_safe (execute_runs oracle [] _)
end

/-- Everything is answered as asked for; the Clock goes on by one at every exchange. -/
def obliging (start : Int) : Trace Unit Unit → (request : Request Unit) → Except Value (Answer Unit Unit request)
  | _, .build => .ok ()
  | _, .attestPreSignSimulation _ => .ok ⟨"presign-1", "message"⟩
  | _, .sign _ => .ok [1, 9, 8, 7]
  | _, .attestSignedAuthorization proofId bytes =>
    .ok ⟨proofId, wireHash (fun _ => ⟨List.replicate 32 0, rfl⟩) bytes, "message"⟩
  | _, .attestDeployment stage => .ok ⟨stage, "digest"⟩
  | before, .clock => .ok ⟨start + before.length, 1⟩
  | _, .lifetime _ => .ok ⟨true, 10, 100⟩
  | _, .submit _ _ _ => .ok ()
  | _, .pause => .ok ()
  | _, .stage _ _ => .ok ()
example : (execute (obliging 80) [] (executeAcrossActivation (fun _ => ⟨List.replicate 32 0, rfl⟩) 100 true)).1.countP
    (fun exchange => exchange.request.isSubmit) = 1 := by decide +kernel

end EquityGuard.ActivationProof
