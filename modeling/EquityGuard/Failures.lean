import EquityGuard.Canonical

/-!
What the functions of the state package throw.
-/
namespace EquityGuard.Failures
open EquityGuard.Canonical EquityGuard.Errors EquityGuard.JsonText EquityGuard.JsValue

inductive NormalizationErrorCode where
  | InvalidMultiplier
  | InvalidDecimals
  | NegativeAmount
  | NotionalMismatch
  | UnderlyingMismatch
  | StateMismatch
  | InputMintMismatch
  | NonPositiveOutput
deriving DecidableEq

inductive QuoteMismatchCode where
  | UNDERLYING_CHANGED
  | INPUT_MINT_CHANGED
  | OUTPUT_MINT_CHANGED
  | INPUT_AMOUNT_CHANGED
  | OUTPUT_AMOUNT_CHANGED
  | MIN_OUTPUT_CHANGED
  | ROUTE_CHANGED
  | VENUE_CHANGED
  | QUOTE_CONTEXT_CHANGED
  | ECONOMIC_STATE_CHANGED
  | PHASE_CHANGED
deriving DecidableEq
def QuoteMismatchCode.name : QuoteMismatchCode → Text
  | UNDERLYING_CHANGED => "UNDERLYING_CHANGED"
  | INPUT_MINT_CHANGED => "INPUT_MINT_CHANGED"
  | OUTPUT_MINT_CHANGED => "OUTPUT_MINT_CHANGED"
  | INPUT_AMOUNT_CHANGED => "INPUT_AMOUNT_CHANGED"
  | OUTPUT_AMOUNT_CHANGED => "OUTPUT_AMOUNT_CHANGED"
  | MIN_OUTPUT_CHANGED => "MIN_OUTPUT_CHANGED"
  | ROUTE_CHANGED => "ROUTE_CHANGED"
  | VENUE_CHANGED => "VENUE_CHANGED"
  | QUOTE_CONTEXT_CHANGED => "QUOTE_CONTEXT_CHANGED"
  | ECONOMIC_STATE_CHANGED => "ECONOMIC_STATE_CHANGED"
  | PHASE_CHANGED => "PHASE_CHANGED"
structure QuoteMismatch where
  code : QuoteMismatchCode
  detail : Message

inductive ConsentErrorCode where
  | NOT_ISSUED
  | CONSUMED
  | EXPIRED
  | NOT_A_CONSENT_DECISION
  | COMPARISON_MISMATCH
  | DISCLOSURE_MISMATCH
  | TRADE_MISMATCH
  | QUOTE_MISMATCH
  | COST_MISMATCH
  | COST_ABOVE_ACCEPTED_MAX
  | OUTSIDE_POLICY_COST_LIMIT
  | INVALID_GRANT
deriving DecidableEq
def ConsentErrorCode.name : ConsentErrorCode → Text
  | NOT_ISSUED => "NOT_ISSUED"
  | CONSUMED => "CONSUMED"
  | EXPIRED => "EXPIRED"
  | NOT_A_CONSENT_DECISION => "NOT_A_CONSENT_DECISION"
  | COMPARISON_MISMATCH => "COMPARISON_MISMATCH"
  | DISCLOSURE_MISMATCH => "DISCLOSURE_MISMATCH"
  | TRADE_MISMATCH => "TRADE_MISMATCH"
  | QUOTE_MISMATCH => "QUOTE_MISMATCH"
  | COST_MISMATCH => "COST_MISMATCH"
  | COST_ABOVE_ACCEPTED_MAX => "COST_ABOVE_ACCEPTED_MAX"
  | OUTSIDE_POLICY_COST_LIMIT => "OUTSIDE_POLICY_COST_LIMIT"
  | INVALID_GRANT => "INVALID_GRANT"
structure ConsentIssue where
  code : ConsentErrorCode
  detail : Message

inductive ExecutionEligibility where
  | EXECUTABLE
  | ROUTE_UNAVAILABLE
  | QUOTE_UNAVAILABLE
  | STATE_UNSAFE
  | STATE_UNKNOWN
  | CONSENT_REQUIRED
  | CONSENT_INVALID
  | POLICY_MISMATCH
  | ALTERNATIVE_OUTSIDE_TOLERANCE
  | STALE_COMPARISON
  | QUOTE_MISMATCH
deriving DecidableEq

inductive ExecutionPlanErrorCode where
  | NOT_EXECUTABLE
  | OBSERVATION_ONLY_ENVIRONMENT
  | PLAN_NOT_ISSUED
  | PLAN_CONSUMED
  | PLAN_EXPIRED
  | PLAN_TAMPERED
  | QUOTE_SUBSTITUTED
  | COMPARISON_NOT_FOR_PLAN
  | DISCLOSURE_NOT_FOR_COMPARISON
  | CONSENT_REJECTED
  | INVALID_FRESHNESS
  | POLICY_MISMATCH
  | INVALID_DOWNSTREAM
  | DOWNSTREAM_NOT_FOR_QUOTE
  | DOWNSTREAM_COMMITMENT_MISMATCH
deriving DecidableEq

inductive Failure where
  | TypeError (message : Message)
  | RangeError (message : Message)
  | QuoteIdentityError (message : Message)
  | NormalizationError (code : NormalizationErrorCode) (message : Message)
  | ConsentError (issues : List ConsentIssue)
  | ExecutionEligibilityError (eligibility : ExecutionEligibility) (message : Message)
  | ExecutionPlanError (code : ExecutionPlanErrorCode) (message : Message) (mismatches : List QuoteMismatch)

abbrev Attempt := Except Failure

/-- `if (condition) list.push(item)`, on a list that is written out in order. -/
def pushIf {α : Type} (condition : Prop) [Decidable condition] (item : α) : List α := if condition then [item] else []
/-- The same for a list of texts. -/
def problemIf (condition : Prop) [Decidable condition] (problem : Message) : List Message := pushIf condition problem
/-- `problems.join("; ")`. -/
def joined (problems : List Message) : Message := (List.intersperse (["; "] : Message) problems).flatten
/-- `codes.join(", ")`. -/
def listed (codes : List Text) : Message := (List.intersperse (text ", ") codes).map Value.string

@[simp] theorem pushIf_eq_nil {α : Type} {condition : Prop} [Decidable condition] {item : α} :
    pushIf condition item = [] ↔ ¬ condition := by
  unfold pushIf
  split <;> simp_all
@[simp] theorem problemIf_eq_nil {condition : Prop} [Decidable condition] {problem : Message} :
    problemIf condition problem = [] ↔ ¬ condition := pushIf_eq_nil

/-- `canonicalKey`, where other errors can be thrown too. -/
def keyOf (value : Value) : Attempt Text :=
  match canonicalKey value with
  | .ok key => .ok key
  | .error error => .error (.QuoteIdentityError error.message)

theorem keyOf_eq_ok {value : Value} {key : Text} : keyOf value = .ok key ↔ canonicalKey value = .ok key := by
  unfold keyOf
  cases canonicalKey value <;> simp
theorem keyOf_returns {value : Value} (plain : Plain value) : ∃ key, keyOf value = .ok key := by
  obtain ⟨key, found⟩ := canonicalKey_returns plain
  exact ⟨key, keyOf_eq_ok.mpr found⟩
theorem same_of_keyOf {left right : Value} {key : Text} (leftKey : keyOf left = .ok key) (rightKey : keyOf right = .ok key) :
    Same left right := same_of_key (keyOf_eq_ok.mp leftKey) (keyOf_eq_ok.mp rightKey)

end EquityGuard.Failures
