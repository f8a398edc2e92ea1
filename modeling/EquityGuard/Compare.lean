import EquityGuard.Normalize

/-!
The comparison of two quotes at one input notional: what switching costs, rounded
against the alternative.
-/
namespace EquityGuard.Compare
open EquityGuard.Errors EquityGuard.Failures EquityGuard.JsonText EquityGuard.JsValue EquityGuard.Normalize
open EquityGuard.Quotes EquityGuard.Records EquityGuard.Representations

def BPS : Int := 10000

inductive EconomicEffect where
  | ADDITIONAL_COST (bps : Int)
  | ECONOMICALLY_EQUAL
  | BETTER_VALUE (bps : Int)
deriving DecidableEq
def EconomicEffect.toValue : EconomicEffect → Value
  | ADDITIONAL_COST bps => record [("kind", "ADDITIONAL_COST"), ("bps", .bigint bps)]
  | ECONOMICALLY_EQUAL => record [("kind", "ECONOMICALLY_EQUAL"), ("bps", .bigint 0)]
  | BETTER_VALUE bps => record [("kind", "BETTER_VALUE"), ("bps", .bigint bps)]

structure QuoteComparison where
  underlying : Text
  preferredMint : Text
  alternativeMint : Text
  inputRaw : Int
  preferredQuote : QuoteIdentity
  alternativeQuote : QuoteIdentity
  comparisonKey : Text
  preferredSharesEquivalent : Rational
  alternativeSharesEquivalent : Rational
  sign : Int
  magnitude : Rational
  additionalCostBps : Int
  economicEffect : EconomicEffect

def shares (quote : QuoteIdentity) : Attempt Rational :=
  sharesEquivalent quote.outputRaw quote.state.decimals (effectiveMultiplierBytes quote.state)
def comparisonKeyOf (preferred alternative : QuoteIdentity) : Attempt Text :=
  keyOf (record [("preferred", preferred.toValue), ("alternative", alternative.toValue)])
def effectOf (sign additionalCostBps : Int) : EconomicEffect :=
  if 0 < sign then .ADDITIONAL_COST additionalCostBps else if sign = 0 then .ECONOMICALLY_EQUAL
  else .BETTER_VALUE (-additionalCostBps)
def assertStateOfMint (quote : QuoteIdentity) : Attempt Unit :=
  refuse_if (quote.state.mint ≠ quote.mint)
    (.NormalizationError .StateMismatch ["quote for ", quote.mint, " carries state of ", quote.state.mint])
/-- The comparison of two quotes with the shares they deliver. -/
def comparisonOf (preferred alternative : QuoteIdentity) (p a : Rational) (comparisonKey : Text) : QuoteComparison :=
  let numerator := (p.num * a.den - a.num * p.den) * BPS
  let denominator := p.num * a.den
  let sign := compareRationals p a
  let rawDiff := p.num * a.den - a.num * p.den
  let additionalCostBps := ceilDiv numerator denominator
  { underlying := preferred.underlying
    preferredMint := preferred.mint
    alternativeMint := alternative.mint
    inputRaw := preferred.inputRaw
    preferredQuote := preferred
    alternativeQuote := alternative
    comparisonKey
    preferredSharesEquivalent := p
    alternativeSharesEquivalent := a
    sign
    magnitude := rational (if rawDiff < 0 then -rawDiff else rawDiff) (p.den * a.den)
    additionalCostBps
    economicEffect := effectOf sign additionalCostBps }
def compareQuotes (preferred alternative : QuoteIdentity) : Attempt QuoteComparison := do
  refuse_if (preferred.underlying ≠ alternative.underlying)
    (.NormalizationError .UnderlyingMismatch ["quotes must be for representations of the same underlying"])
  refuse_if (preferred.inputMint ≠ alternative.inputMint)
    (.NormalizationError .InputMintMismatch ["quotes must spend the same input mint"])
  refuse_if (preferred.inputRaw ≠ alternative.inputRaw)
    (.NormalizationError .NotionalMismatch ["quotes must be for identical input notional"])
  assertStateOfMint preferred
  assertStateOfMint alternative
  let p ← shares preferred
  let a ← shares alternative
  refuse_if (p.num = 0) (.NormalizationError .NonPositiveOutput ["preferred quote delivers no shares"])
  let preferredQuote ← quoteIdentityOf preferred
  let alternativeQuote ← quoteIdentityOf alternative
  let comparisonKey ← comparisonKeyOf preferredQuote alternativeQuote
  return comparisonOf preferredQuote alternativeQuote p a comparisonKey

/-- A comparison that `compareQuotes` made. -/
def QuoteComparison.Returned (comparison : QuoteComparison) : Prop :=
  ∃ preferred alternative, compareQuotes preferred alternative = .ok comparison

/-- What a comparison carries of the quotes it was made from. -/
structure QuoteComparison.Faithful (comparison : QuoteComparison) : Prop where
  underlying : comparison.preferredQuote.underlying = comparison.underlying ∧
    comparison.alternativeQuote.underlying = comparison.underlying
  preferredMint : comparison.preferredQuote.mint = comparison.preferredMint
  alternativeMint : comparison.alternativeQuote.mint = comparison.alternativeMint
  inputRaw : comparison.preferredQuote.inputRaw = comparison.inputRaw ∧
    comparison.alternativeQuote.inputRaw = comparison.inputRaw
  preferredValid : quoteProblems comparison.preferredQuote = []
  alternativeValid : quoteProblems comparison.alternativeQuote = []
  key : comparisonKeyOf comparison.preferredQuote comparison.alternativeQuote = .ok comparison.comparisonKey
  preferredShares : shares comparison.preferredQuote = .ok comparison.preferredSharesEquivalent
  alternativeShares : shares comparison.alternativeQuote = .ok comparison.alternativeSharesEquivalent
  preferredPositive : 0 < comparison.preferredSharesEquivalent.value
  /-- The recorded cost is at most a bound exactly if the exact cost is. -/
  cost : ∀ bound : Int, comparison.additionalCostBps ≤ bound ↔
    (10000 - bound) * comparison.preferredSharesEquivalent.value ≤ 10000 * comparison.alternativeSharesEquivalent.value

/-- The integer comparison of `compareQuotes` is the comparison of the two fractions. -/
theorem cost_le_iff {p a : Rational} (numerator : 0 < p.num) (denominator : 0 < p.den) (other : 0 < a.den) (bound : Int) :
    ceilDiv ((p.num * a.den - a.num * p.den) * BPS) (p.num * a.den) ≤ bound ↔
      (10000 - bound : ℚ) * p.value ≤ 10000 * a.value := by
  rw [ceilDiv_le_iff (mul_pos numerator other)]
  have left : (0 : ℚ) < p.den := by exact_mod_cast denominator
  have right : (0 : ℚ) < a.den := by exact_mod_cast other
  rw [Rational.value, Rational.value, ← mul_div_assoc, ← mul_div_assoc, div_le_div_iff₀ left right, BPS]
  constructor
  · intro exact
    have exact : (((p.num * a.den - a.num * p.den) * 10000 : Int) : ℚ) ≤ ((bound * (p.num * a.den) : Int) : ℚ) := by
      exact_mod_cast exact
    push_cast at exact
    linarith
  · intro exact
    have exact : (((p.num * a.den - a.num * p.den) * 10000 : Int) : ℚ) ≤ ((bound * (p.num * a.den) : Int) : ℚ) := by
      push_cast
      linarith
    exact_mod_cast exact
/-- What two quotes have to agree in to be compared. -/
@[mk_iff] structure Comparable (preferred alternative : QuoteIdentity) (p a : Rational) (key : Text) : Prop where
  underlying : preferred.underlying = alternative.underlying
  inputMint : preferred.inputMint = alternative.inputMint
  inputRaw : preferred.inputRaw = alternative.inputRaw
  preferredState : preferred.state.mint = preferred.mint
  alternativeState : alternative.state.mint = alternative.mint
  preferredShares : shares preferred = .ok p
  alternativeShares : shares alternative = .ok a
  delivers : p.num ≠ 0
  preferredValid : quoteProblems preferred = []
  alternativeValid : quoteProblems alternative = []
  key : comparisonKeyOf preferred alternative = .ok key
theorem compareQuotes_eq_ok {preferred alternative : QuoteIdentity} {comparison : QuoteComparison} :
    compareQuotes preferred alternative = .ok comparison ↔ ∃ p a key, Comparable preferred alternative p a key ∧
      comparison = comparisonOf preferred alternative p a key := by
  unfold compareQuotes assertStateOfMint
  constructor
  · intro computed
    obtain ⟨underlying, computed⟩ := then_eq_ok.mp computed
    obtain ⟨inputMint, computed⟩ := then_eq_ok.mp computed
    obtain ⟨inputRaw, computed⟩ := then_eq_ok.mp computed
    obtain ⟨preferredState, computed⟩ := then_eq_ok.mp computed
    obtain ⟨alternativeState, computed⟩ := then_eq_ok.mp computed
    obtain ⟨p, preferredShares, computed⟩ := bind_eq_ok.mp computed
    obtain ⟨a, alternativeShares, computed⟩ := bind_eq_ok.mp computed
    obtain ⟨delivers, computed⟩ := then_eq_ok.mp computed
    obtain ⟨_, preferredIdentity, computed⟩ := bind_eq_ok.mp computed
    obtain ⟨_, alternativeIdentity, computed⟩ := bind_eq_ok.mp computed
    obtain ⟨key, keyed, made⟩ := bind_eq_ok.mp computed
    obtain ⟨preferredValid, rfl⟩ := quoteIdentityOf_eq_ok.mp preferredIdentity
    obtain ⟨alternativeValid, rfl⟩ := quoteIdentityOf_eq_ok.mp alternativeIdentity
    cases made
    rw [refuse_if_eq_ok, not_not] at underlying inputMint inputRaw preferredState alternativeState
    rw [refuse_if_eq_ok] at delivers
    exact ⟨p, a, key, ⟨underlying, inputMint, inputRaw, preferredState, alternativeState, preferredShares,
      alternativeShares, delivers, preferredValid, alternativeValid, keyed⟩, rfl⟩
  · rintro ⟨p, a, key, comparable, rfl⟩
    rw [refuse_if_bind, if_neg (not_not.mpr comparable.underlying), refuse_if_bind, if_neg (not_not.mpr comparable.inputMint),
      refuse_if_bind, if_neg (not_not.mpr comparable.inputRaw), refuse_if_bind,
      if_neg (not_not.mpr comparable.preferredState), refuse_if_bind, if_neg (not_not.mpr comparable.alternativeState),
      comparable.preferredShares, ok_bind, comparable.alternativeShares, ok_bind, refuse_if_bind,
      if_neg comparable.delivers, quoteIdentityOf_eq_ok.mpr ⟨comparable.preferredValid, rfl⟩, ok_bind,
      quoteIdentityOf_eq_ok.mpr ⟨comparable.alternativeValid, rfl⟩, ok_bind, comparable.key]
    rfl
theorem QuoteComparison.Returned.faithful {comparison : QuoteComparison} (returned : comparison.Returned) :
    comparison.Faithful := by
  obtain ⟨preferred, alternative, computed⟩ := returned
  obtain ⟨p, a, key, comparable, rfl⟩ := compareQuotes_eq_ok.mp computed
  obtain ⟨_, _, _, nonneg, denominator, _⟩ := sharesEquivalent_spec comparable.preferredShares
  obtain ⟨_, _, _, _, other, _⟩ := sharesEquivalent_spec comparable.alternativeShares
  have numerator : 0 < p.num := lt_of_le_of_ne nonneg (Ne.symm comparable.delivers)
  exact {
    underlying := ⟨rfl, comparable.underlying.symm⟩
    preferredMint := rfl
    alternativeMint := rfl
    inputRaw := ⟨rfl, comparable.inputRaw.symm⟩
    preferredValid := comparable.preferredValid
    alternativeValid := comparable.alternativeValid
    key := comparable.key
    preferredShares := comparable.preferredShares
    alternativeShares := comparable.alternativeShares
    preferredPositive := div_pos (by exact_mod_cast numerator) (by exact_mod_cast denominator)
    cost := cost_le_iff numerator denominator other }

end EquityGuard.Compare
