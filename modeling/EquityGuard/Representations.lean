import EquityGuard.ClientMintState
import EquityGuard.Hex
import EquityGuard.Records

/-!
Representations of an equity: what is known of each from the chain, and the economic
state a quote or a decision is bound to.
-/
namespace EquityGuard.Representations
open EquityGuard.Binary64 EquityGuard.Canonical EquityGuard.Client EquityGuard.ClientAbi EquityGuard.ClientMintState
open EquityGuard.Errors EquityGuard.Hex EquityGuard.JsonText EquityGuard.JsValue EquityGuard.Records

/-! ### Types -/

inductive Issuer where
  | xStocks
  | Ondo
  | DEVNET_TEST
deriving DecidableEq
inductive RepresentationState where
  | SAFE
  | TRANSITION
  | PAUSED
  | UNKNOWN
deriving DecidableEq
inductive StateSource where
  | CHAIN
  | API
  | BOTH_AGREE
  | CONFLICT
deriving DecidableEq
inductive Calibration where
  | UNCALIBRATED
  | CALIBRATED
deriving DecidableEq

def Issuer.name : Issuer → Text
  | xStocks => "xStocks"
  | Ondo => "Ondo"
  | DEVNET_TEST => "DEVNET_TEST"
def RepresentationState.name : RepresentationState → Text
  | SAFE => "SAFE"
  | TRANSITION => "TRANSITION"
  | PAUSED => "PAUSED"
  | UNKNOWN => "UNKNOWN"
def StateSource.name : StateSource → Text
  | CHAIN => "chain"
  | API => "api"
  | BOTH_AGREE => "both-agree"
  | CONFLICT => "conflict"
def Calibration.name : Calibration → Text
  | UNCALIBRATED => "UNCALIBRATED"
  | CALIBRATED => "CALIBRATED"

theorem RepresentationState.name_injective : Function.Injective RepresentationState.name := by
  intro left right
  cases left <;> cases right <;> decide
theorem StateSource.name_injective : Function.Injective StateSource.name := by
  intro left right
  cases left <;> cases right <;> decide
theorem Calibration.name_injective : Function.Injective Calibration.name := by
  intro left right
  cases left <;> cases right <;> decide

/-- The interval around a scheduled activation, and where its bounds come from. -/
structure TransitionPolicy where
  beforeSecs : Int
  afterSecs : Int
  calibration : Calibration
  basis : Text
deriving DecidableEq

/-- Where and when an account was read. -/
structure Context where
  mint : Text
  slot : Option Int
  blockTime : Option Int
  observedAt : Option Text
structure ChainObservation extends Context where
  chainUnixTimestamp : Option Int
  decimals : Numeric
  paused : Option Bool
  protectedState : ProtectedState
  hasScheduledChange : Bool
  phase : Option Numeric
inductive ChainEvidence where
  | decoded (observation : ChainObservation)
  | decodeError (context : Context) (code : Text) (message : Template)

structure ResolvedRepresentationState where
  underlying : Text
  issuer : Issuer
  symbol : Text
  mint : Text
  state : Option RepresentationState
  stateSource : Option StateSource
  reason : Text
  chainObservation : Option ChainEvidence
  transitionPolicy : Option TransitionPolicy

/-! ### Economic state -/

structure EconomicState where
  mint : Text
  decimals : Numeric
  multiplierHex : Text
  newMultiplierHex : Text
  effectiveTimestamp : Int
  phase : Numeric
  paused : Option Bool
deriving DecidableEq
inductive EconomicField where
  | mint
  | decimals
  | multiplierHex
  | newMultiplierHex
  | effectiveTimestamp
  | phase
  | paused
deriving DecidableEq

/-- The binding for decoded evidence, if chain time was known. -/
def economicStateOf : Option ChainEvidence → Option EconomicState
  | some (.decoded observation) => observation.phase.map (fun phase => {
      mint := observation.mint
      decimals := observation.decimals
      multiplierHex := toHex observation.protectedState.multiplier
      newMultiplierHex := toHex observation.protectedState.newMultiplier
      effectiveTimestamp := observation.protectedState.newMultiplierEffectiveTimestamp
      phase
      paused := observation.paused })
  | _ => none
/-- `expected[field] !== actual[field]`. -/
def EconomicState.differs (expected actual : EconomicState) : EconomicField → Bool
  | .mint => decide (expected.mint ≠ actual.mint)
  | .decimals => !Numeric.strictEq expected.decimals actual.decimals
  | .multiplierHex => decide (expected.multiplierHex ≠ actual.multiplierHex)
  | .newMultiplierHex => decide (expected.newMultiplierHex ≠ actual.newMultiplierHex)
  | .effectiveTimestamp => decide (expected.effectiveTimestamp ≠ actual.effectiveTimestamp)
  | .phase => !Numeric.strictEq expected.phase actual.phase
  | .paused => decide (expected.paused ≠ actual.paused)
/-- The fields two bindings differ in; the source adds both values to each. -/
def economicStateMismatches (expected actual : EconomicState) : List EconomicField :=
  [.mint, .decimals, .multiplierHex, .newMultiplierHex, .effectiveTimestamp, .phase, .paused].filter
    (expected.differs actual)
def protectedStateOf (state : EconomicState) : ProtectedState where
  multiplier := fromHex state.multiplierHex
  newMultiplier := fromHex state.newMultiplierHex
  newMultiplierEffectiveTimestamp := state.effectiveTimestamp
/-- The stored bytes of the multiplier that is effective in this state. -/
def effectiveMultiplierBytes (state : EconomicState) : List UInt8 :=
  fromHex (if Numeric.strictEq state.phase (.number ActivationPhase.Activated) then state.newMultiplierHex
    else state.multiplierHex)

/-- Equal as every comparison of the package sees it: numbers by value. -/
@[mk_iff] structure EconomicState.Agrees (expected actual : EconomicState) : Prop where
  mint : expected.mint = actual.mint
  decimals : Numeric.strictEq expected.decimals actual.decimals = true
  multiplierHex : expected.multiplierHex = actual.multiplierHex
  newMultiplierHex : expected.newMultiplierHex = actual.newMultiplierHex
  effectiveTimestamp : expected.effectiveTimestamp = actual.effectiveTimestamp
  phase : Numeric.strictEq expected.phase actual.phase = true
  paused : expected.paused = actual.paused
theorem economicStateMismatches_eq_nil {expected actual : EconomicState} :
    economicStateMismatches expected actual = [] ↔ expected.Agrees actual := by
  rw [economicStateMismatches, List.filter_eq_nil_iff, EconomicState.agrees_iff]
  simp [EconomicState.differs]
theorem decoded_of_economicStateOf {evidence : Option ChainEvidence} {current : EconomicState}
    (known : economicStateOf evidence = some current) :
    ∃ observation phase, evidence = some (.decoded observation) ∧ observation.phase = some phase := by
  unfold economicStateOf at known
  split at known
  · rename_i observation
    obtain ⟨phase, timed, _⟩ := Option.map_eq_some_iff.mp known
    exact ⟨observation, phase, rfl, timed⟩
  · cases known

end EquityGuard.Representations
