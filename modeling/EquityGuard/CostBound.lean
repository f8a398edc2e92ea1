import EquityGuard.Execution

/-!
The cost of a reroute against the exact share equivalents of both quotes: it is never
understated, and no alternative beyond the bound is accepted.
-/
namespace EquityGuard.CostBound
open EquityGuard.Binary64 EquityGuard.Bytes EquityGuard.Compare EquityGuard.Decisions EquityGuard.Errors EquityGuard.Execution
open EquityGuard.Failures EquityGuard.Normalize EquityGuard.Quotes EquityGuard.Representations

/-- The number that the stored bytes of the effective multiplier encode. -/
def effectiveMultiplier (state : EconomicState) : ℚ :=
  match ofBits (leNat (effectiveMultiplierBytes state)) with
  | .finite value => value
  | _ => 0
/-- What a quote delivers: `outputRaw * multiplier / 10^decimals`. -/
def exactShares (quote : QuoteIdentity) : ℚ :=
  quote.outputRaw * effectiveMultiplier quote.state / 10 ^ (bigIntOf quote.state.decimals).toNat
/-- A comparison says of two quotes that deliver `p` and `a` what follows from `p` and `a`. -/
structure ExactCost (comparison : QuoteComparison) (alternative : QuoteIdentity) (p a : ℚ) : Prop where
  delivers : 0 < p
  additionalCostBps : comparison.additionalCostBps = ⌈10000 * (p - a) / p⌉
  additionalCost : ∀ bps, comparison.economicEffect = .ADDITIONAL_COST bps ↔ a < p ∧ bps = ⌈10000 * (p - a) / p⌉
  equal : comparison.economicEffect = .ECONOMICALLY_EQUAL ↔ p = a
  betterValue : ∀ bps, comparison.economicEffect = .BETTER_VALUE bps ↔ p < a ∧ bps = ⌊10000 * (a - p) / p⌋
  magnitude : comparison.magnitude.value = |p - a|
  limit : ∀ maximum : Int, 0 ≤ maximum → (exceedsCostLimit comparison ⟨maximum⟩ = none ↔
    0 < alternative.outputRaw ∧ (10000 - maximum) * p ≤ 10000 * a)

theorem shares_exact {quote : QuoteIdentity} {shares : Rational} (computed : Compare.shares quote = .ok shares) :
    shares.value = exactShares quote := by
  obtain ⟨_, multiplier, converted, _, _, value⟩ := sharesEquivalent_spec computed
  rw [value, exactShares, effectiveMultiplier, multiplierToRational_value converted]

section
variable {p a : Rational}

theorem cost_exact (numerator : 0 < p.num) (denominator : 0 < p.den) (other : 0 < a.den) :
    ceilDiv ((p.num * a.den - a.num * p.den) * BPS) (p.num * a.den) = ⌈10000 * (p.value - a.value) / p.value⌉ := by
  have left : (p.num : ℚ) ≠ 0 := by exact_mod_cast numerator.ne'
  have right : (p.den : ℚ) ≠ 0 := by exact_mod_cast denominator.ne'
  have third : (a.den : ℚ) ≠ 0 := by exact_mod_cast other.ne'
  rw [ceilDiv_eq (mul_pos numerator other), Rational.value, Rational.value, BPS]
  congr 1
  push_cast
  field_simp
theorem magnitude_exact (denominator : 0 < p.den) (other : 0 < a.den) :
    let rawDiff := p.num * a.den - a.num * p.den
    (rational (if rawDiff < 0 then -rawDiff else rawDiff) (p.den * a.den)).value = |p.value - a.value| := by
  intro rawDiff
  have left : (0 : ℚ) < p.den := by exact_mod_cast denominator
  have right : (0 : ℚ) < a.den := by exact_mod_cast other
  have absolute : (if rawDiff < 0 then -rawDiff else rawDiff) = |rawDiff| := by
    split
    · rename_i negative
      exact (abs_of_neg negative).symm
    · rename_i nonneg
      exact (abs_of_nonneg (not_lt.mp nonneg)).symm
  have difference : p.value - a.value = rawDiff / (p.den * a.den) := by
    rw [Rational.value, Rational.value, div_sub_div _ _ left.ne' right.ne']
    simp only [rawDiff]
    push_cast
    ring
  rw [absolute, (rational_spec (abs_nonneg rawDiff) (mul_pos denominator other)).2.2, difference, abs_div,
    abs_of_pos (mul_pos left right)]
  push_cast
  rfl
theorem compareRationals_signed (p a : Rational) :
    compareRationals p a = -1 ∨ compareRationals p a = 0 ∨ compareRationals p a = 1 := by
  unfold compareRationals
  split_ifs <;> simp
/-- The effect goes by the sign, and its amount is the cost or the cost negated. -/
theorem effectOf_spec {sign cost : Int} (signed : sign = -1 ∨ sign = 0 ∨ sign = 1) :
    (∀ bps, effectOf sign cost = .ADDITIONAL_COST bps ↔ 0 < sign ∧ bps = cost) ∧
      (effectOf sign cost = .ECONOMICALLY_EQUAL ↔ sign = 0) ∧
      ∀ bps, effectOf sign cost = .BETTER_VALUE bps ↔ sign < 0 ∧ bps = -cost := by
  rcases signed with rfl | rfl | rfl <;> simp [effectOf, eq_comm]
end

/-- A comparison that is returned is exact, for multipliers and amounts of any size. -/
theorem compareQuotes_exact {preferred alternative : QuoteIdentity} {comparison : QuoteComparison}
    (computed : compareQuotes preferred alternative = .ok comparison) :
    ExactCost comparison alternative (exactShares preferred) (exactShares alternative) := by
  have returned : comparison.Returned := ⟨preferred, alternative, computed⟩
  have faithful := returned.faithful
  obtain ⟨p, a, key, comparable, rfl⟩ := compareQuotes_eq_ok.mp computed
  obtain ⟨_, _, _, nonneg, denominator, _⟩ := sharesEquivalent_spec comparable.preferredShares
  obtain ⟨_, _, _, _, other, _⟩ := sharesEquivalent_spec comparable.alternativeShares
  have numerator : 0 < p.num := lt_of_le_of_ne nonneg (Ne.symm comparable.delivers)
  have cost := cost_exact numerator denominator other
  have magnitude := magnitude_exact denominator other
  obtain ⟨positive, equal⟩ := compareRationals_spec denominator other
  have signed := compareRationals_signed p a
  have negative : compareRationals p a < 0 ↔ p.value < a.value := by
    rw [lt_iff_not_ge, lt_iff_not_ge, le_iff_lt_or_eq, le_iff_lt_or_eq, positive, eq_comm, equal, eq_comm]
  obtain ⟨additionalCost, economicallyEqual, betterValue⟩ :=
    @effectOf_spec _ ⌈10000 * (p.value - a.value) / p.value⌉ signed
  have effect : (comparisonOf preferred alternative p a key).economicEffect =
      effectOf (compareRationals p a) ⌈10000 * (p.value - a.value) / p.value⌉ := by
    rw [← cost]
    rfl
  rw [← shares_exact comparable.preferredShares, ← shares_exact comparable.alternativeShares]
  refine ⟨faithful.preferredPositive, cost, ?_, ?_, ?_, magnitude, ?_⟩
  · intro bps
    rw [effect, additionalCost, positive]
  · rw [effect, economicallyEqual, equal]
  · intro bps
    rw [effect, betterValue, negative, ← neg_sub p.value, mul_neg, neg_div, Int.floor_neg]
  · intro maximum _
    rw [exceedsCostLimit_eq_none, faithful.cost]
    rfl
theorem compareQuotes_exact_equal : ∃ key, compareQuotes (quoteFor xMint) (quoteFor onMint) = .ok (equalComparison key) ∧
    ExactCost (equalComparison key) (quoteFor onMint) (exactShares (quoteFor xMint)) (exactShares (quoteFor onMint)) := by
  obtain ⟨key, compared⟩ := compareQuotes_equal
  exact ⟨key, compared, compareQuotes_exact compared⟩

end EquityGuard.CostBound
