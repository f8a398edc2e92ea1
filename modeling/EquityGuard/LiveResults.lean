import EquityGuard.Errors
import EquityGuard.JsValue

/-!
The results of the local live demo, and the three checks that stand between a confirmed
transaction and the page: of the executor, of the adapter that the page loads, and of the
page itself.
-/
namespace EquityGuard.LiveResults
open EquityGuard.Errors EquityGuard.JsonText EquityGuard.JsValue

/-! ### Amounts -/

def EXPECTED_IN_AMOUNT : Int := 5000000
def EXPECTED_OUT_AMOUNT : Int := 5504261
def USDC_DECIMALS : Nat := 6
def KOX_DECIMALS : Nat := 8

/-- `value.padStart(length, "0")`. -/
def padStart (length : Nat) (value : Text) : Text := List.replicate (length - value.length) 48 ++ value
/-- `value.padEnd(length, "0")`. -/
def padEnd (length : Nat) (value : Text) : Text := value ++ List.replicate (length - value.length) 48
def formatRawAmount (raw : Int) (decimals : Nat) : Text :=
  let value := raw.natAbs
  let scale := 10 ^ decimals
  (if raw < 0 then text "-" else []) ++ digits (value / scale) ++ text "." ++ padStart decimals (digits (value % scale))
def formatUsdc (raw : Int) : Text :=
  let parts := (formatRawAmount raw USDC_DECIMALS).splitOn 46
  (parts[0]?).getD [] ++ text "." ++ (padEnd 2 ((parts[1]?).getD [])).take 2
def formatKox (raw : Int) : Text := formatRawAmount raw KOX_DECIMALS

/-! ### The executor -/

inductive ReplayKind where
  | SAFE
  | STALE
  | REFRESHED
deriving DecidableEq
structure TokenBalances where
  usdc : Int
  kox : Int
structure ReplayOutcome where
  kind : ReplayKind
  signature : Text
  slot : Int
  error : Option Value
  failedInstruction : Option Int
  customCode : Option Int
  guardErrorName : Option Text
  guardInvoked : Bool
  jupiterInvoked : Bool
  whirlpoolInvoked : Bool
  before : TokenBalances
  after : TokenBalances
  skipPreflight : Bool
  logs : List Text
  authorizationSource : Text

def ReplayOutcome.usdc (outcome : ReplayOutcome) : Int := outcome.after.usdc - outcome.before.usdc
def ReplayOutcome.kox (outcome : ReplayOutcome) : Int := outcome.after.kox - outcome.before.kox
def kindText : ReplayKind → Text
  | .SAFE => "SAFE"
  | .STALE => "STALE"
  | .REFRESHED => "REFRESHED"

def assertOutcome (outcome : ReplayOutcome) : Except Text Unit := do
  refuse_if (!outcome.guardInvoked) "confirmed transaction did not invoke EquityGuard"
  if outcome.kind = .STALE then
    refuse_if (!outcome.skipPreflight ∨ outcome.failedInstruction ≠ some 0 ∨ outcome.customCode ≠ some 12 ∨
        outcome.guardErrorName ≠ some (text "ActivationPhaseChanged") ∨ outcome.jupiterInvoked ∨ outcome.whirlpoolInvoked ∨
        outcome.before.usdc ≠ outcome.after.usdc ∨ outcome.before.kox ≠ outcome.after.kox)
      "confirmed stale transaction did not prove fail-closed ActivationPhaseChanged"
  else
    refuse_if outcome.skipPreflight (kindText outcome.kind ++ " must keep preflight enabled")
    refuse_if (outcome.error.isSome ∨ !outcome.jupiterInvoked ∨ !outcome.whirlpoolInvoked ∨
        outcome.after.usdc ≠ outcome.before.usdc - EXPECTED_IN_AMOUNT ∨ outcome.after.kox ≠ outcome.before.kox + EXPECTED_OUT_AMOUNT)
      "confirmed transaction did not prove guarded Jupiter/Whirlpool execution and exact token movement"

/-- A stale transaction that stopped at the guard, and moved nothing. -/
structure Rejected (outcome : ReplayOutcome) : Prop where
  guard : outcome.guardInvoked = true
  skipped : outcome.skipPreflight = true
  first : outcome.failedInstruction = some 0
  code : outcome.customCode = some 12
  error : outcome.guardErrorName = some (text "ActivationPhaseChanged")
  jupiter : outcome.jupiterInvoked = false
  whirlpool : outcome.whirlpoolInvoked = false
  usdc : outcome.before.usdc = outcome.after.usdc
  kox : outcome.before.kox = outcome.after.kox
/-- Any other transaction: it went through, and moved the canonical amounts. -/
structure Executed (outcome : ReplayOutcome) : Prop where
  guard : outcome.guardInvoked = true
  checked : outcome.skipPreflight = false
  succeeded : outcome.error = none
  jupiter : outcome.jupiterInvoked = true
  whirlpool : outcome.whirlpoolInvoked = true
  usdc : outcome.after.usdc = outcome.before.usdc - EXPECTED_IN_AMOUNT
  kox : outcome.after.kox = outcome.before.kox + EXPECTED_OUT_AMOUNT

theorem assertOutcome_stale {outcome : ReplayOutcome} (stale : outcome.kind = .STALE) :
    assertOutcome outcome = .ok () ↔ Rejected outcome := by
  rw [assertOutcome, then_eq_ok, refuse_if_eq_ok, if_pos stale, refuse_if_eq_ok]
  constructor
  · rintro ⟨guard, rest⟩
    simp only [not_or, Bool.not_eq_true', Bool.not_eq_false, Bool.not_eq_true, not_not] at guard rest
    obtain ⟨skipped, first, code, error, jupiter, whirlpool, usdc, kox⟩ := rest
    exact ⟨guard, skipped, first, code, error, jupiter, whirlpool, usdc, kox⟩
  · intro rejected
    simp [rejected.guard, rejected.skipped, rejected.first, rejected.code, rejected.error, rejected.jupiter, rejected.whirlpool,
      rejected.usdc, rejected.kox]
theorem assertOutcome_other {outcome : ReplayOutcome} (other : outcome.kind ≠ .STALE) :
    assertOutcome outcome = .ok () ↔ Executed outcome := by
  rw [assertOutcome, then_eq_ok, refuse_if_eq_ok, if_neg other, then_eq_ok, refuse_if_eq_ok, refuse_if_eq_ok]
  constructor
  · rintro ⟨guard, checked, rest⟩
    simp only [not_or, Bool.not_eq_true', Bool.not_eq_false, Bool.not_eq_true, not_not, Option.isSome_eq_false_iff,
      Option.isNone_iff_eq_none] at guard checked rest
    obtain ⟨succeeded, jupiter, whirlpool, usdc, kox⟩ := rest
    exact ⟨guard, checked, succeeded, jupiter, whirlpool, usdc, kox⟩
  · intro executed
    simp [executed.guard, executed.checked, executed.succeeded, executed.jupiter, executed.whirlpool, executed.usdc, executed.kox]

/-! ### What the local execution proves -/

def LOCAL_ACTIVATION_SOURCE : Text := "LOCAL_EXECUTION_REPRODUCTION"

structure PhaseTiming where
  encodedPhase : Text
  clockRelationToLocalT : Text
  clockMatchesExpectedPhase : Bool
structure PreSignAttestation where
  messageSha256 : Text
  timing : PhaseTiming
  source : Text
structure SignedAuthorizationAttestation where
  signedWireSha256 : Text
  messageSha256 : Text
  messageMatchesSimulated : Bool
  timing : PhaseTiming
  signatureVerified : Bool
  source : Text
structure DeploymentAttestation where
  digest : Text
  matched : Bool
/-- The fields of a `LocalActivationProof` that are read here. -/
structure LocalActivationProof where
  localT : Int
  preSign : PreSignAttestation
  signedAuthorization : SignedAuthorizationAttestation
  deploymentAttestations : List DeploymentAttestation
  /-- `atSigning.unixTimestamp`. -/
  atSigning : Int
  atSubmission : Int
  /-- `lifetime.valid`. -/
  valid : Bool
  signedWireHashBeforeActivation : Text
  signedWireHashAtSubmission : Text
  exactEquality : Bool
  outcome : ReplayOutcome

def PhaseTiming.Pending (timing : PhaseTiming) : Prop :=
  timing.clockMatchesExpectedPhase ∧ timing.encodedPhase = "PENDING" ∧ timing.clockRelationToLocalT = "BEFORE_ACTIVATION"
instance (timing : PhaseTiming) : Decidable timing.Pending := inferInstanceAs (Decidable (_ ∧ _ ∧ _))

def attested (proof : LocalActivationProof) : Bool :=
  proof.preSign.source = "LOCAL_COORDINATOR" ∧ proof.signedAuthorization.source = "LOCAL_COORDINATOR" ∧
    proof.signedAuthorization.signatureVerified ∧ proof.signedAuthorization.messageMatchesSimulated ∧
    proof.preSign.timing.Pending ∧ proof.signedAuthorization.timing.Pending ∧
    proof.signedAuthorization.messageSha256 = proof.preSign.messageSha256 ∧
    proof.signedAuthorization.signedWireSha256 = proof.signedWireHashBeforeActivation
def deploymentStable (proof : LocalActivationProof) : Bool :=
  proof.deploymentAttestations.length = 2 ∧ proof.deploymentAttestations.all DeploymentAttestation.matched ∧
    (proof.deploymentAttestations[0]?).map DeploymentAttestation.digest =
      (proof.deploymentAttestations[1]?).map DeploymentAttestation.digest

def joinLines (lines : List Text) : Text := (text "\n").intercalate lines
def staleMessage (result : ReplayOutcome) : Text :=
  let rejectedAtGuard := result.failedInstruction = some 0 ∧ result.guardErrorName = some (text "ActivationPhaseChanged")
  joinLines [
    "STATE CHANGED", "Stale authorization rejected", "",
    "The transaction was valid when it was signed.",
    "The asset’s economic state changed before execution.",
    "EquityGuard stopped the old authorization before the swap executed.", "",
    "EquityGuard       " ++ (if rejectedAtGuard then "Rejected" else "Not verified"),
    "Jupiter           " ++ (if result.jupiterInvoked then "Invoked" else "Not invoked"),
    "Whirlpool         " ++ (if result.whirlpoolInvoked then "Invoked" else "Not invoked"),
    text "Token movement    " ++ (if result.usdc = 0 ∧ result.kox = 0 then text "0"
      else text "USDC " ++ decimal result.usdc ++ text ", KOx " ++ decimal result.kox), "",
    "Exact signed transaction preserved ✓",
    "Verified before signing, and signed before the change, by the local coordinator ✓"]
def updatedMessage (result : ReplayOutcome) : Text :=
  joinLines [
    "Updated authorization executed", "",
    formatUsdc (-result.usdc) ++ text " USDC → " ++ formatKox result.kox ++ text " KOx", "",
    "EquityGuard    " ++ (if result.error.isNone ∧ result.guardInvoked then "Passed" else "Not verified"),
    "Jupiter        " ++ (if result.jupiterInvoked then "Executed" else "Not invoked"),
    "Whirlpool      " ++ (if result.whirlpoolInvoked then "Executed" else "Not invoked"), "",
    "Local execution reproduction"]
def reproductionMessage (proof : LocalActivationProof) : Except Text Text := do
  let result := proof.outcome
  assertOutcome result
  refuse_if (result.slot ≤ 0 ∨ result.signature = []) "No confirmed execution proof"
  if result.kind = .STALE then
    refuse_if (!attested proof ∨ !deploymentStable proof ∨ !proof.exactEquality ∨
        proof.signedWireHashBeforeActivation ≠ proof.signedWireHashAtSubmission ∨ proof.atSigning ≥ proof.localT ∨
        proof.atSubmission ≤ proof.localT ∨ !proof.valid)
      "Signed-before-activation proof is incomplete"
    return staleMessage result
  else return updatedMessage result

theorem reproductionMessage_signed {proof : LocalActivationProof} {summary : Text}
    (rendered : reproductionMessage proof = .ok summary) :
    assertOutcome proof.outcome = .ok () ∧ proof.outcome.signature ≠ [] := by
  rw [reproductionMessage, then_eq_ok, then_eq_ok, refuse_if_eq_ok, not_or] at rendered
  exact ⟨rendered.1, rendered.2.1.2⟩

/-! ### The adapter -/

/-- The two results, with the proof itself where the source has its JSON. -/
structure LiveResultBase where
  leg : Text
  environment : Text
  walletPublicKey : Text
  signature : Text
  slot : Text
  localT : Text
  summary : Text
  guard : Text
  jupiterInvoked : Bool
  whirlpoolInvoked : Bool
  logs : List Text
  proof : LocalActivationProof
structure LiveStaleResult extends LiveResultBase where
  guardErrorName : Text
  failedInstruction : Int
  usdcDelta : Text
  koxDelta : Text
structure LiveUpdatedResult extends LiveResultBase where
  usdcSpentRaw : Text
  koxReceivedRaw : Text
  usdcDisplay : Text
  koxDisplay : Text

namespace EXPECTED_DISPLAY
def usdcIn : Text := "5.00"
def koxOut : Text := "0.05504261"
end EXPECTED_DISPLAY

theorem displayed_in : formatUsdc EXPECTED_IN_AMOUNT = EXPECTED_DISPLAY.usdcIn := by decide
theorem displayed_out : formatKox EXPECTED_OUT_AMOUNT = EXPECTED_DISPLAY.koxOut := by decide

def verifyStaleResult (proof : LocalActivationProof) (wallet : Text) : Except Text LiveStaleResult := do
  let summary ← reproductionMessage proof
  let outcome := proof.outcome
  refuse_if (outcome.kind ≠ .STALE ∨ outcome.authorizationSource ≠ LOCAL_ACTIVATION_SOURCE ∨ !outcome.guardInvoked ∨
      outcome.failedInstruction ≠ some 0 ∨ outcome.guardErrorName ≠ some (text "ActivationPhaseChanged") ∨
      outcome.jupiterInvoked ∨ outcome.whirlpoolInvoked ∨ outcome.usdc ≠ 0 ∨ outcome.kox ≠ 0)
    "Live stale attempt did not prove a fail-closed ix0 rejection with zero token movement"
  return {
    leg := "STALE"
    environment := LOCAL_ACTIVATION_SOURCE
    walletPublicKey := wallet
    signature := outcome.signature
    slot := decimal outcome.slot
    localT := decimal proof.localT
    summary
    guard := "REJECTED at ix0"
    guardErrorName := outcome.guardErrorName.getD []
    failedInstruction := 0
    jupiterInvoked := false
    whirlpoolInvoked := false
    usdcDelta := decimal outcome.usdc
    koxDelta := decimal outcome.kox
    logs := outcome.logs
    proof
  }
def verifyUpdatedResult (proof : LocalActivationProof) (wallet : Text) : Except Text LiveUpdatedResult := do
  let summary ← reproductionMessage proof
  let outcome := proof.outcome
  let spent := -outcome.usdc
  let received := outcome.kox
  refuse_if (outcome.kind ≠ .REFRESHED ∨ outcome.authorizationSource ≠ LOCAL_ACTIVATION_SOURCE ∨ outcome.error.isSome ∨
      outcome.skipPreflight ∨ !outcome.guardInvoked ∨ !outcome.jupiterInvoked ∨ !outcome.whirlpoolInvoked ∨
      spent ≠ EXPECTED_IN_AMOUNT ∨ received ≠ EXPECTED_OUT_AMOUNT ∨ formatUsdc spent ≠ EXPECTED_DISPLAY.usdcIn ∨
      formatKox received ≠ EXPECTED_DISPLAY.koxOut)
    "Live updated attempt did not prove guarded Jupiter/Whirlpool execution and the exact token movement"
  return {
    leg := "REFRESHED"
    environment := LOCAL_ACTIVATION_SOURCE
    walletPublicKey := wallet
    signature := outcome.signature
    slot := decimal outcome.slot
    localT := decimal proof.localT
    summary
    guard := "PASSED"
    jupiterInvoked := true
    whirlpoolInvoked := true
    usdcSpentRaw := decimal spent
    koxReceivedRaw := decimal received
    usdcDisplay := formatUsdc spent
    koxDisplay := formatKox received
    logs := outcome.logs
    proof
  }

section
variable {proof : LocalActivationProof} {wallet : Text}

theorem verifyStaleResult_ok : (∃ result, verifyStaleResult proof wallet = .ok result) ↔
    proof.outcome.kind = .STALE ∧ proof.outcome.authorizationSource = LOCAL_ACTIVATION_SOURCE ∧
      ∃ summary, reproductionMessage proof = .ok summary := by
  constructor
  · rintro ⟨result, verified⟩
    obtain ⟨summary, rendered, verified⟩ := bind_eq_ok.mp verified
    obtain ⟨kept, _⟩ := then_eq_ok.mp verified
    simp only [refuse_if_eq_ok, not_or, not_not] at kept
    exact ⟨kept.1, kept.2.1, summary, rendered⟩
  · rintro ⟨stale, reproduced, summary, rendered⟩
    have rejected := (assertOutcome_stale stale).mp (reproductionMessage_signed rendered).1
    refine ⟨_, bind_eq_ok.mpr ⟨summary, rendered, then_eq_ok.mpr ⟨refuse_if_eq_ok.mpr ?_, rfl⟩⟩⟩
    simp [stale, reproduced, rejected.guard, rejected.first, rejected.error, rejected.jupiter, rejected.whirlpool,
      ReplayOutcome.usdc, ReplayOutcome.kox, rejected.usdc, rejected.kox]
theorem verifyUpdatedResult_ok : (∃ result, verifyUpdatedResult proof wallet = .ok result) ↔
    proof.outcome.kind = .REFRESHED ∧ proof.outcome.authorizationSource = LOCAL_ACTIVATION_SOURCE ∧
      ∃ summary, reproductionMessage proof = .ok summary := by
  constructor
  · rintro ⟨result, verified⟩
    obtain ⟨summary, rendered, verified⟩ := bind_eq_ok.mp verified
    obtain ⟨kept, _⟩ := then_eq_ok.mp verified
    simp only [refuse_if_eq_ok, not_or, not_not] at kept
    exact ⟨kept.1, kept.2.1, summary, rendered⟩
  · rintro ⟨updated, reproduced, summary, rendered⟩
    have other : proof.outcome.kind ≠ .STALE := by simp [updated]
    have executed := (assertOutcome_other other).mp (reproductionMessage_signed rendered).1
    have spent : -proof.outcome.usdc = EXPECTED_IN_AMOUNT := by
      rw [ReplayOutcome.usdc, executed.usdc]
      omega
    have received : proof.outcome.kox = EXPECTED_OUT_AMOUNT := by
      rw [ReplayOutcome.kox, executed.kox]
      omega
    refine ⟨_, bind_eq_ok.mpr ⟨summary, rendered, then_eq_ok.mpr ⟨refuse_if_eq_ok.mpr ?_, rfl⟩⟩⟩
    rw [spent, received]
    simp [updated, reproduced, executed.guard, executed.checked, executed.succeeded, executed.jupiter, executed.whirlpool,
      displayed_in, displayed_out]

end

/-! ### The page -/

namespace CANONICAL
def usdcIn : Text := "5.00"
def koxOut : Text := "0.05504261"
def usdcInRaw : Text := "5000000"
def koxOutRaw : Text := "5504261"
def guardError : Text := "ActivationPhaseChanged"
def environment : Text := "LOCAL_EXECUTION_REPRODUCTION"
end CANONICAL

/-- `if (problems.length > 0) throw new Error(...)`. -/
def throwProblems (failed : String) (problems : List Text) : Except Text Unit :=
  refuse_if (problems ≠ []) (failed ++ (text "; ").intercalate problems)
def staleProblems (result : LiveStaleResult) : List Text :=
  pushed [
    (result.leg ≠ "STALE", "result is not the stale leg"),
    (result.environment ≠ CANONICAL.environment, "result is not a local proof execution"),
    (result.failedInstruction ≠ 0, "StateGuard did not stop the transaction at ix0"),
    (result.guardErrorName ≠ CANONICAL.guardError, text "guard error was not " ++ CANONICAL.guardError),
    (result.jupiterInvoked, "Jupiter was invoked"),
    (result.whirlpoolInvoked, "Whirlpool was invoked"),
    (result.usdcDelta ≠ "0", "USDC moved"),
    (result.koxDelta ≠ "0", "KOx moved"),
    (result.signature = [], "no confirmed signature")]
def assertStaleInvariants (result : LiveStaleResult) : Except Text Unit :=
  throwProblems "Live stale result failed verification: " (staleProblems result)
def updatedProblems (result : LiveUpdatedResult) : List Text :=
  pushed [
    (result.leg ≠ "REFRESHED", "result is not the updated leg"),
    (result.environment ≠ CANONICAL.environment, "result is not a local proof execution"),
    (!result.jupiterInvoked, "Jupiter did not execute"),
    (!result.whirlpoolInvoked, "Whirlpool did not execute"),
    (result.usdcSpentRaw ≠ CANONICAL.usdcInRaw, text "USDC spent was " ++ result.usdcSpentRaw ++ ", not " ++ CANONICAL.usdcInRaw),
    (result.koxReceivedRaw ≠ CANONICAL.koxOutRaw,
      text "KOx received was " ++ result.koxReceivedRaw ++ ", not " ++ CANONICAL.koxOutRaw),
    (result.usdcDisplay ≠ CANONICAL.usdcIn, "USDC display amount changed"),
    (result.koxDisplay ≠ CANONICAL.koxOut, "KOx display amount changed"),
    (result.signature = [], "no confirmed signature")]
def assertUpdatedInvariants (result : LiveUpdatedResult) : Except Text Unit :=
  throwProblems "Live updated result failed verification: " (updatedProblems result)

theorem throwProblems_ok {failed : String} {checks : List (Bool × Text)} :
    throwProblems failed (pushed checks) = .ok () ↔ ∀ check ∈ checks, check.1 = false := by
  rw [throwProblems, refuse_if_eq_ok, not_not, pushed_eq_nil]

theorem decimal_zero : decimal 0 = text "0" := by decide
theorem decimal_in : decimal EXPECTED_IN_AMOUNT = CANONICAL.usdcInRaw := by decide
theorem decimal_out : decimal EXPECTED_OUT_AMOUNT = CANONICAL.koxOutRaw := by decide
theorem stale_accepted {proof : LocalActivationProof} {wallet : Text} {result : LiveStaleResult}
    (verified : verifyStaleResult proof wallet = .ok result) : assertStaleInvariants result = .ok () := by
  obtain ⟨summary, rendered, verified⟩ := bind_eq_ok.mp verified
  obtain ⟨kept, returned⟩ := then_eq_ok.mp verified
  obtain ⟨_, signed⟩ := reproductionMessage_signed rendered
  simp only [refuse_if_eq_ok, not_or, not_not] at kept
  obtain ⟨_, _, _, _, error, _, _, usdc, kox⟩ := kept
  cases Except.ok.inj returned
  refine throwProblems_ok.mpr ?_
  simp [LOCAL_ACTIVATION_SOURCE, CANONICAL.environment, CANONICAL.guardError, error, usdc, kox, signed, decimal_zero]
theorem updated_accepted {proof : LocalActivationProof} {wallet : Text} {result : LiveUpdatedResult}
    (verified : verifyUpdatedResult proof wallet = .ok result) : assertUpdatedInvariants result = .ok () := by
  obtain ⟨summary, rendered, verified⟩ := bind_eq_ok.mp verified
  obtain ⟨kept, returned⟩ := then_eq_ok.mp verified
  obtain ⟨_, signed⟩ := reproductionMessage_signed rendered
  simp only [refuse_if_eq_ok, not_or, not_not] at kept
  obtain ⟨_, _, _, _, _, _, _, spent, received, _, _⟩ := kept
  cases Except.ok.inj returned
  refine throwProblems_ok.mpr ?_
  simp [LOCAL_ACTIVATION_SOURCE, CANONICAL.environment, spent, received, signed, decimal_in, decimal_out, displayed_in,
    displayed_out, EXPECTED_DISPLAY.usdcIn, EXPECTED_DISPLAY.koxOut, CANONICAL.usdcIn, CANONICAL.koxOut]

/-- The three checks agree: the adapter returns what can be told of a local execution of its leg, and the page accepts
    whatever the adapter returns. -/
theorem layers_agree (proof : LocalActivationProof) (wallet : Text) :
    ((∃ result, verifyStaleResult proof wallet = .ok result) ↔
      proof.outcome.kind = .STALE ∧ proof.outcome.authorizationSource = LOCAL_ACTIVATION_SOURCE ∧
        ∃ summary, reproductionMessage proof = .ok summary) ∧
    ((∃ result, verifyUpdatedResult proof wallet = .ok result) ↔
      proof.outcome.kind = .REFRESHED ∧ proof.outcome.authorizationSource = LOCAL_ACTIVATION_SOURCE ∧
        ∃ summary, reproductionMessage proof = .ok summary) ∧
    (∀ result, verifyStaleResult proof wallet = .ok result → assertStaleInvariants result = .ok ()) ∧
    (∀ result, verifyUpdatedResult proof wallet = .ok result → assertUpdatedInvariants result = .ok ()) :=
  ⟨verifyStaleResult_ok, verifyUpdatedResult_ok, fun _ => stale_accepted, fun _ => updated_accepted⟩

end EquityGuard.LiveResults
