import EquityGuard.Loops
import EquityGuard.Quotes
import Mathlib.Data.Rat.Floor

/-!
Share equivalents, exactly: a stored multiplier is a dyadic rational, and every
comparison is made in integers.
-/
namespace EquityGuard.Normalize
open EquityGuard.Binary64 EquityGuard.Bytes EquityGuard.ClientAbi EquityGuard.Errors EquityGuard.Failures EquityGuard.JsonText
open EquityGuard.JsValue EquityGuard.Loops EquityGuard.Records

structure Rational where
  num : Int
  den : Int
deriving DecidableEq
namespace Rational
/-- What it stands for. -/
def value (rational : Rational) : ℚ := rational.num / rational.den
end Rational

/-- The loop of `gcd`; `%` of integers keeps the sign of its left side. -/
def gcdLoop (x y : Int) : Int := if y = 0 then x else gcdLoop y (x.tmod y)
termination_by y.natAbs
decreasing_by
  rw [Int.natAbs_tmod]
  exact Nat.mod_lt _ (Int.natAbs_pos.mpr (by assumption))
def gcd (a b : Int) : Int := gcdLoop (if a < 0 then -a else a) b
def rational (num den : Int) : Rational :=
  let divisor := if gcd num den = 0 then 1 else gcd num den
  ⟨num.tdiv divisor, den.tdiv divisor⟩
/-- The exact value of a stored multiplier. -/
def multiplierToRational (bytes : List UInt8) : Attempt Rational := do
  refuse_if (¬ isValidStoredMultiplier bytes)
    (.NormalizationError .InvalidMultiplier ["multiplier must be 8 bytes encoding a positive normal f64"])
  let bits := leNat bytes
  let exponent := bits / 2 ^ 52 % 2 ^ 11
  let significand := 2 ^ 52 + bits % 2 ^ 52
  return if 1075 ≤ exponent then rational (significand * 2 ^ (exponent - 1075) : Nat) 1
    else rational significand (2 ^ (1075 - exponent) : Nat)

def MAX_DECIMALS : Int := 255
/-- `BigInt(numeric)`, of an integer. -/
def bigIntOf (numeric : Numeric) : Int :=
  match numeric.value with
  | .finite value => value.num
  | _ => 0
/-- Exact share equivalents for a raw token amount. -/
def sharesEquivalent (outputRaw : Int) (decimals : Numeric) (effectiveMultiplier : List UInt8) : Attempt Rational := do
  refuse_if (¬ decimals.isIntegerUpTo (.ofInt MAX_DECIMALS))
    (.NormalizationError .InvalidDecimals ["decimals must be an integer in [0, ", MAX_DECIMALS, "]"])
  refuse_if (outputRaw < 0) (.NormalizationError .NegativeAmount ["raw amount must be non-negative"])
  let multiplier ← multiplierToRational effectiveMultiplier
  return rational (outputRaw * multiplier.num) (multiplier.den * 10 ^ (bigIntOf decimals).toNat)
/-- -1, 0 or 1. -/
def compareRationals (a b : Rational) : Int :=
  if a.num * b.den < b.num * a.den then -1 else if b.num * a.den < a.num * b.den then 1 else 0
/-- Division by a positive divisor, rounded up; `/` rounds toward zero. -/
def ceilDiv (n d : Int) : Int := if 0 ≤ n then (n + d - 1).tdiv d else -((-n).tdiv d)
/-- Decimal string rounded down to some digits. -/
def formatRationalFloor (value : Rational) (places : Nat) : Attempt Text := do
  refuse_if (value.den = 0) (.RangeError ["Division by zero"])
  let scale : Int := 10 ^ places
  let scaled := (value.num * scale).tdiv value.den
  let fraction := decimal (scaled.tmod scale)
  return if places = 0 then decimal (scaled.tdiv scale)
    else decimal (scaled.tdiv scale) ++ text "." ++ List.replicate (places - fraction.length) 48 ++ fraction

/-! ### Exactness -/

theorem gcdLoop_nonneg (x y : Nat) : gcdLoop x y = Nat.gcd y x := by
  induction y using Nat.strong_induction_on generalizing x with
  | _ y ih =>
    rw [gcdLoop]
    by_cases ended : y = 0
    · subst ended
      simp
    · have smaller : x % y < y := Nat.mod_lt x (Nat.pos_of_ne_zero ended)
      rw [if_neg (by exact_mod_cast ended), ← Int.ofNat_tmod, ih (x % y) smaller y, Nat.gcd_rec y x]
theorem gcd_eq {num den : Int} (numerator : 0 ≤ num) (denominator : 0 ≤ den) : gcd num den = Int.gcd num den := by
  obtain ⟨num, rfl⟩ := Int.eq_ofNat_of_zero_le numerator
  obtain ⟨den, rfl⟩ := Int.eq_ofNat_of_zero_le denominator
  rw [gcd, if_neg (by omega), gcdLoop_nonneg, Nat.gcd_comm]
  rfl
theorem divisor_eq {num den : Int} (numerator : 0 ≤ num) (denominator : 0 < den) :
    (0 : Int) < Int.gcd num den ∧ rational num den = ⟨num / Int.gcd num den, den / Int.gcd num den⟩ := by
  have positive : (0 : Int) < Int.gcd num den := by exact_mod_cast Int.gcd_pos_of_ne_zero_right num denominator.ne'
  refine ⟨positive, ?_⟩
  unfold rational
  dsimp only
  rw [gcd_eq numerator denominator.le, if_neg positive.ne', Int.tdiv_eq_ediv_of_nonneg numerator,
    Int.tdiv_eq_ediv_of_nonneg denominator.le]
/-- Lowest terms of a non-negative fraction. -/
theorem rational_spec {num den : Int} (numerator : 0 ≤ num) (denominator : 0 < den) :
    0 ≤ (rational num den).num ∧ 0 < (rational num den).den ∧ (rational num den).value = num / den := by
  obtain ⟨positive, shape⟩ := divisor_eq numerator denominator
  have upper : (Int.gcd num den : Int) ∣ num := Int.gcd_dvd_left ..
  have lower : (Int.gcd num den : Int) ∣ den := Int.gcd_dvd_right ..
  rw [shape]
  refine ⟨Int.ediv_nonneg numerator positive.le, Int.ediv_pos_of_pos_of_dvd denominator positive.le lower, ?_⟩
  have nonzero : ((Int.gcd num den : Int) : ℚ) ≠ 0 := by exact_mod_cast positive.ne'
  rw [Rational.value, Int.cast_div upper nonzero, Int.cast_div lower nonzero, div_div_div_cancel_right₀ nonzero]
/-- The least integer that is not below the quotient. -/
theorem ceilDiv_le_iff {n d bound : Int} (positive : 0 < d) : ceilDiv n d ≤ bound ↔ n ≤ bound * d := by
  unfold ceilDiv
  split
  · rename_i nonneg
    rw [Int.tdiv_eq_ediv_of_nonneg (by omega), ← Int.lt_add_one_iff, Int.ediv_lt_iff_lt_mul positive, add_mul]
    omega
  · rename_i negative
    rw [Int.tdiv_eq_ediv_of_nonneg (by omega), neg_le, Int.le_ediv_iff_mul_le positive, neg_mul]
    omega
theorem ceilDiv_eq {n d : Int} (positive : 0 < d) : ceilDiv n d = ⌈(n : ℚ) / d⌉ := by
  refine eq_of_forall_ge_iff ?_
  intro bound
  have divisor : (0 : ℚ) < d := by exact_mod_cast positive
  rw [ceilDiv_le_iff positive, Int.ceil_le, div_le_iff₀ divisor]
  exact_mod_cast Iff.rfl
/-- The order of two fractions is that of their values. -/
theorem compareRationals_spec {a b : Rational} (left : 0 < a.den) (right : 0 < b.den) :
    (0 < compareRationals a b ↔ b.value < a.value) ∧ (compareRationals a b = 0 ↔ a.value = b.value) := by
  have leftDen : (0 : ℚ) < a.den := by exact_mod_cast left
  have rightDen : (0 : ℚ) < b.den := by exact_mod_cast right
  have below : b.value < a.value ↔ b.num * a.den < a.num * b.den := by
    rw [Rational.value, Rational.value, div_lt_div_iff₀ rightDen leftDen]
    exact_mod_cast Iff.rfl
  have equal : a.value = b.value ↔ a.num * b.den = b.num * a.den := by
    rw [Rational.value, Rational.value, div_eq_div_iff leftDen.ne' rightDen.ne']
    exact_mod_cast Iff.rfl
  rw [below, equal, compareRationals]
  rcases lt_trichotomy (a.num * b.den) (b.num * a.den) with less | same | more
  · rw [if_pos less]
    exact ⟨iff_of_false (by decide) less.not_gt, iff_of_false (by decide) less.ne⟩
  · rw [if_neg same.not_lt, if_neg same.not_gt]
    exact ⟨iff_of_false (by decide) same.not_gt, iff_of_true rfl same⟩
  · rw [if_neg more.not_gt, if_pos more]
    exact ⟨iff_of_true (by decide) more, iff_of_false (by decide) more.ne'⟩
theorem multiplierToRational_spec {bytes : List UInt8} {multiplier : Rational}
    (converted : multiplierToRational bytes = .ok multiplier) : 0 ≤ multiplier.num ∧ 0 < multiplier.den := by
  obtain ⟨_, converted⟩ := then_eq_ok.mp converted
  cases converted
  split
  · have spec := rational_spec (Int.natCast_nonneg ((2 ^ 52 + leNat bytes % 2 ^ 52) * 2 ^ (leNat bytes / 2 ^ 52 % 2 ^ 11 - 1075)))
      one_pos
    exact ⟨spec.1, spec.2.1⟩
  · have power : (0 : Int) < (2 ^ (1075 - leNat bytes / 2 ^ 52 % 2 ^ 11) : Nat) := by positivity
    have spec := rational_spec (Int.natCast_nonneg (2 ^ 52 + leNat bytes % 2 ^ 52)) power
    exact ⟨spec.1, spec.2.1⟩
/-- A stored multiplier is converted to the value that its bits encode. -/
theorem multiplierToRational_value {bytes : List UInt8} {multiplier : Rational}
    (converted : multiplierToRational bytes = .ok multiplier) : ofBits (leNat bytes) = .finite multiplier.value := by
  obtain ⟨valid, converted⟩ := then_eq_ok.mp converted
  rw [refuse_if_eq_ok, not_not, isValidStoredMultiplier] at valid
  split at valid
  · cases valid
  · obtain ⟨positive, normal, finite⟩ := (positive_normal_iff (leNat bytes)).mp valid
    rw [ofBits, if_neg finite, if_pos positive, units, if_neg normal, one_mul]
    cases converted
    congr 1
    change ((((2 ^ 52 + mantissa (leNat bytes)) * 2 ^ (exponent (leNat bytes) - 1) : Nat)) : ℚ) / 2 ^ 1074 =
      (if 1075 ≤ exponent (leNat bytes) then
        rational ((2 ^ 52 + mantissa (leNat bytes)) * 2 ^ (exponent (leNat bytes) - 1075) : Nat) 1
      else rational (2 ^ 52 + mantissa (leNat bytes) : Nat) (2 ^ (1075 - exponent (leNat bytes)) : Nat)).value
    generalize 2 ^ 52 + mantissa (leNat bytes) = significand
    generalize exponent (leNat bytes) = shift at normal
    split
    · rename_i large
      have powers : (2 : ℚ) ^ (shift - 1) = 2 ^ (shift - 1075) * 2 ^ 1074 := by
        rw [← pow_add]
        congr 1
        omega
      rw [(rational_spec (Int.natCast_nonneg _) one_pos).2.2]
      push_cast
      rw [powers, div_one, ← mul_assoc, mul_div_assoc, div_self (by positivity), mul_one]
    · rename_i small
      have powers : (2 : ℚ) ^ 1074 = 2 ^ (shift - 1) * 2 ^ (1075 - shift) := by
        rw [← pow_add]
        congr 1
        omega
      rw [(rational_spec (Int.natCast_nonneg _) (by positivity)).2.2]
      push_cast
      rw [powers, mul_comm (significand : ℚ), mul_div_mul_left _ _ (by positivity)]

/-! ### Lowest terms -/

/-- The fraction in lowest terms, with a positive denominator, that stands for a value. -/
structure LowestTerms (rational : Rational) (value : ℚ) : Prop where
  exact : rational.value = value
  positive : 0 < rational.den
  reduced : Int.gcd rational.num rational.den = 1
/-- There is only one. -/
theorem LowestTerms.unique {rational : Rational} {value : ℚ} (lowest : LowestTerms rational value) :
    rational = ⟨value.num, value.den⟩ := by
  have coprime : Nat.Coprime rational.num.natAbs rational.den.natAbs := lowest.reduced
  rw [← lowest.exact, Rational.value, Rat.num_div_eq_of_coprime lowest.positive coprime,
    Rat.den_div_eq_of_coprime lowest.positive coprime]
theorem rational_lowest {num den : Int} (numerator : 0 ≤ num) (denominator : 0 < den) :
    LowestTerms (rational num den) (num / den) := by
  obtain ⟨_, lower, exact⟩ := rational_spec numerator denominator
  refine ⟨exact, lower, ?_⟩
  obtain ⟨positive, shape⟩ := divisor_eq numerator denominator
  rw [shape]
  exact Int.gcd_ediv_gcd_ediv_gcd (by exact_mod_cast positive)

/-- A round of the loop of `gcd`. -/
def gcdRound (pair : Int × Int) : Except Empty ((Int × Int) ⊕ Int) :=
  .ok (if pair.2 = 0 then .inr pair.1 else .inl (pair.2, pair.1.tmod pair.2))
/-- The loop ends, whatever it is given: the right side shrinks. -/
theorem gcdLoop_ends (x y : Int) : Ends (fun fuel => forever gcdRound fuel (x, y)) (gcdLoop x y) := by
  have spec (pair : Int × Int) (same : gcdLoop pair.1 pair.2 = gcdLoop x y) :
      (∃ next, gcdRound pair = .ok (.inl next) ∧ gcdLoop next.1 next.2 = gcdLoop x y ∧ next.2.natAbs < pair.2.natAbs) ∨
        ∃ result, gcdRound pair = .ok (.inr result) ∧ result = gcdLoop x y := by
    obtain ⟨left, right⟩ := pair
    rw [gcdLoop] at same
    by_cases ended : right = 0
    · rw [if_pos ended] at same
      exact .inr ⟨left, congrArg Except.ok (if_pos ended), same⟩
    · rw [if_neg ended] at same
      refine .inl ⟨_, congrArg Except.ok (if_neg ended), same, ?_⟩
      dsimp only
      rw [Int.natAbs_tmod]
      exact Nat.mod_lt _ (Int.natAbs_pos.mpr ended)
  obtain ⟨_, rfl, ends⟩ := @forever_ends _ _ _ gcdRound (fun pair => gcdLoop pair.1 pair.2 = gcdLoop x y)
    (fun pair => pair.2.natAbs) (fun result => result = gcdLoop x y) spec (x, y) rfl
  exact ends

/-- What is accepted has a value, given by its units. -/
theorem multiplier_of_valid {bytes : List UInt8} (valid : isValidStoredMultiplier bytes = true) :
    ∃ multiplier, multiplierToRational bytes = .ok multiplier ∧ bytes.length = 8 ∧ sign (leNat bytes) = 0 ∧
      exponent (leNat bytes) ≠ 0 ∧ multiplier.value = units (leNat bytes) / 2 ^ 1074 := by
  obtain ⟨multiplier, converted⟩ : ∃ multiplier, multiplierToRational bytes = .ok multiplier := by
    unfold multiplierToRational
    rw [refuse_if_bind, if_neg (not_not.mpr valid)]
    exact ⟨_, rfl⟩
  have value := multiplierToRational_value converted
  rw [isValidStoredMultiplier] at valid
  split at valid
  · cases valid
  · rename_i size
    obtain ⟨positive, normal, finite⟩ := (positive_normal_iff (leNat bytes)).mp valid
    rw [ofBits, if_neg finite, if_pos positive, one_mul] at value
    exact ⟨multiplier, converted, not_not.mp size, positive, normal, (Number.finite.inj value).symm⟩
theorem multiplier_lowest {bytes : List UInt8} {multiplier : Rational}
    (converted : multiplierToRational bytes = .ok multiplier) : LowestTerms multiplier multiplier.value := by
  obtain ⟨_, converted⟩ := then_eq_ok.mp converted
  cases converted
  split
  · have lowest := rational_lowest
      (Int.natCast_nonneg ((2 ^ 52 + leNat bytes % 2 ^ 52) * 2 ^ (leNat bytes / 2 ^ 52 % 2 ^ 11 - 1075))) one_pos
    exact ⟨rfl, lowest.positive, lowest.reduced⟩
  · have power : (0 : Int) < (2 ^ (1075 - leNat bytes / 2 ^ 52 % 2 ^ 11) : Nat) := by positivity
    have lowest := rational_lowest (Int.natCast_nonneg (2 ^ 52 + leNat bytes % 2 ^ 52)) power
    exact ⟨rfl, lowest.positive, lowest.reduced⟩
/-- The units of a normal number, as a significand and a binary exponent. -/
theorem units_eq {bits : Nat} (normal : exponent bits ≠ 0) :
    (units bits : ℚ) / 2 ^ 1074 = (1 + mantissa bits / 2 ^ 52) * 2 ^ ((exponent bits : ℤ) - 1023) := by
  have power : (2 : ℚ) ^ ((exponent bits : ℤ) - 1023) = 2 ^ (exponent bits - 1) * 2 ^ 52 / 2 ^ 1074 := by
    rw [eq_div_iff (by positivity), ← pow_add, ← zpow_natCast, ← zpow_natCast, ← zpow_add₀ (by norm_num)]
    congr 1
    push_cast
    omega
  rw [units, if_neg normal, power]
  push_cast
  field_simp
  norm_num
theorem value_lt_iff {left right : List UInt8} {one two : Rational} (leftConverted : multiplierToRational left = .ok one)
    (rightConverted : multiplierToRational right = .ok two) : one.value < two.value ↔ leNat left < leNat right := by
  have valued {bytes : List UInt8} {multiplier : Rational} (converted : multiplierToRational bytes = .ok multiplier) :
      sign (leNat bytes) = 0 ∧ multiplier.value = units (leNat bytes) / 2 ^ 1074 := by
    have valid := (then_eq_ok.mp converted).1
    rw [refuse_if_eq_ok, not_not] at valid
    obtain ⟨other, same, _, positive, _, value⟩ := multiplier_of_valid valid
    obtain rfl := Except.ok.inj (same.symm.trans converted)
    exact ⟨positive, value⟩
  obtain ⟨leftPositive, leftValue⟩ := valued leftConverted
  obtain ⟨rightPositive, rightValue⟩ := valued rightConverted
  rw [leftValue, rightValue, div_lt_div_iff_of_pos_right (by positivity), Nat.cast_lt]
  constructor
  · intro less
    by_contra notLess
    rcases Nat.eq_or_lt_of_le (Nat.not_lt.mp notLess) with same | greater
    · rw [same] at less
      exact lt_irrefl _ less
    · exact absurd (units_lt greater leftPositive) (Nat.lt_asymm less)
  · exact fun less => units_lt less rightPositive
/-- Every accepted multiplier becomes the exact value of its word in lowest terms, the larger word the
    larger value; and every fraction is brought to its lowest terms by a loop that ends. -/
theorem multipliers_exact :
    (∀ bytes, isValidStoredMultiplier bytes = true → ∃ multiplier, multiplierToRational bytes = .ok multiplier ∧
      LowestTerms multiplier ((1 + mantissa (leNat bytes) / 2 ^ 52) * 2 ^ ((exponent (leNat bytes) : ℤ) - 1023))) ∧
    (∀ left right one two, multiplierToRational left = .ok one → multiplierToRational right = .ok two →
      (leNat left < leNat right ↔ one.value < two.value) ∧ (one = two → left = right)) ∧
    ∀ num den : Int, 0 ≤ num → 0 < den → LowestTerms (rational num den) (num / den) ∧
      (∀ other, LowestTerms other (num / den) → other = rational num den) ∧
      Ends (fun fuel => forever gcdRound fuel (num, den)) (gcd num den) := by
  refine ⟨fun bytes valid => ?_, fun left right one two leftConverted rightConverted => ⟨?_, fun same => ?_⟩,
    fun num den numerator denominator => ⟨rational_lowest numerator denominator, fun other lowest => ?_, ?_⟩⟩
  · obtain ⟨multiplier, converted, _, _, normal, value⟩ := multiplier_of_valid valid
    have lowest := multiplier_lowest converted
    exact ⟨multiplier, converted, ⟨value.trans (units_eq normal), lowest.positive, lowest.reduced⟩⟩
  · exact (value_lt_iff leftConverted rightConverted).symm
  · subst same
    have notLess := mt (value_lt_iff leftConverted rightConverted).mpr (lt_irrefl _)
    have notGreater := mt (value_lt_iff rightConverted leftConverted).mpr (lt_irrefl _)
    have size {bytes : List UInt8} (converted : multiplierToRational bytes = .ok one) : bytes.length = 8 := by
      have valid := (then_eq_ok.mp converted).1
      rw [refuse_if_eq_ok, not_not] at valid
      obtain ⟨_, _, size, _⟩ := multiplier_of_valid valid
      exact size
    exact leNat_injective ((size leftConverted).trans (size rightConverted).symm) (by omega)
  · rw [lowest.unique, (rational_lowest numerator denominator).unique]
  · rw [gcd, if_neg (by omega)]
    exact gcdLoop_ends num den
theorem sharesEquivalent_spec {outputRaw : Int} {decimals : Numeric} {bytes : List UInt8} {shares : Rational}
    (computed : sharesEquivalent outputRaw decimals bytes = .ok shares) : 0 ≤ outputRaw ∧ ∃ multiplier,
      multiplierToRational bytes = .ok multiplier ∧ 0 ≤ shares.num ∧ 0 < shares.den ∧
      shares.value = outputRaw * multiplier.value / 10 ^ (bigIntOf decimals).toNat := by
  unfold sharesEquivalent at computed
  obtain ⟨_, computed⟩ := then_eq_ok.mp computed
  obtain ⟨positive, computed⟩ := then_eq_ok.mp computed
  obtain ⟨multiplier, converted, computed⟩ := bind_eq_ok.mp computed
  cases computed
  have outputs : 0 ≤ outputRaw := by simpa using refuse_if_eq_ok.mp positive
  obtain ⟨numerator, denominator⟩ := multiplierToRational_spec converted
  have spec := rational_spec (mul_nonneg outputs numerator)
    (mul_pos denominator (pow_pos (by decide : (0 : Int) < 10) (bigIntOf decimals).toNat))
  refine ⟨outputs, multiplier, converted, spec.1, spec.2.1, ?_⟩
  rw [spec.2.2, Rational.value]
  push_cast
  rw [mul_div_assoc', div_div]

end EquityGuard.Normalize
