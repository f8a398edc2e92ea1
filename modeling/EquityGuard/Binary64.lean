import EquityGuard.Bytes
import Mathlib.Algebra.Order.Field.Rat
import Mathlib.Tactic.FieldSimp
import Mathlib.Tactic.NormNum
import Mathlib.Tactic.Positivity

/-!
IEEE-754 binary64 words, twice: by bit fields, as `f64::classify` reads them, and
by value, as JavaScript compares numbers. The two ways of recognising a positive
normal number are proved to agree on every 64-bit pattern.
-/
namespace EquityGuard.Binary64
open EquityGuard.Bytes

/-! ### Numbers by value -/

/-- A JavaScript number. A finite one is its exact value; the two zeros are not
    told apart, as no comparison or conversion here does. -/
inductive Number where
  | nan
  | infinity (negative : Bool)
  | finite (value : ℚ)
deriving DecidableEq

namespace Number

/-- `===` on numbers: `NaN` equals nothing. -/
def strictEq : Number → Number → Bool
  | nan, _ => false
  | _, nan => false
  | left, right => decide (left = right)
/-- `<=` on numbers: every comparison with `NaN` is false. -/
def le : Number → Number → Bool
  | nan, _ => false
  | _, nan => false
  | infinity true, _ => true
  | _, infinity false => true
  | finite left, finite right => decide (left ≤ right)
  | infinity false, _ => false
  | _, infinity true => false
/-- `<` on numbers. -/
def lt (left right : Number) : Bool := le left right && !strictEq left right
/-- `Number.isFinite`. -/
def isFinite : Number → Bool
  | finite _ => true
  | _ => false
/-- `Number.isInteger`. -/
def isInteger : Number → Bool
  | finite value => decide (value.den = 1)
  | _ => false
/-- The number with an integer value. -/
def ofInt (value : Int) : Number := finite value
instance (value : Nat) : OfNat Number value := ⟨ofInt value⟩

@[simp] theorem strictEq_iff (left right : Number) :
    strictEq left right = true ↔ left = right ∧ left ≠ nan := by
  cases left <;> cases right <;> simp [strictEq]
@[simp] theorem le_finite (left right : ℚ) : le (finite left) (finite right) = decide (left ≤ right) := rfl
theorem le_ofInt (left right : Int) : le (ofInt left) (ofInt right) = decide (left ≤ right) := by
  simp only [ofInt, le_finite, Rat.intCast_le_intCast]
theorem lt_ofInt (left right : Int) : lt (ofInt left) (ofInt right) = decide (left < right) := by
  have equal : strictEq (ofInt left) (ofInt right) = decide (left = right) := by simp [ofInt, strictEq]
  rw [lt, le_ofInt, equal, Bool.eq_iff_iff]
  simp [lt_iff_le_and_ne]
@[simp] theorem isInteger_ofInt (value : Int) : isInteger (ofInt value) = true := by
  simp [isInteger, ofInt]
theorem eq_ofInt_of_isInteger {number : Number} (integer : isInteger number = true) :
    ∃ value : Int, number = ofInt value := by
  cases number with
  | nan | infinity _ => simp [isInteger] at integer
  | finite value =>
    simp only [isInteger, decide_eq_true_eq] at integer
    exact ⟨value.num, by rw [ofInt, Rat.coe_int_num_of_den_eq_one integer]⟩
theorem ofInt_injective {left right : Int} (same : ofInt left = ofInt right) : left = right := by
  simpa [ofInt] using same

end Number

/-! ### Bit fields -/

def sign (bits : Nat) : Nat := bits / 2 ^ 63
def exponent (bits : Nat) : Nat := bits / 2 ^ 52 % 2 ^ 11
def mantissa (bits : Nat) : Nat := bits % 2 ^ 52
/-- The exponent of infinities and `NaN`. -/
def maxExponent : Nat := 2 ^ 11 - 1

/-- The categories of `core::num::FpCategory`. -/
inductive FpCategory where
  | Nan
  | Infinite
  | Zero
  | Subnormal
  | Normal
deriving DecidableEq

def classify (bits : Nat) : FpCategory :=
  if exponent bits = maxExponent then
    if mantissa bits = 0 then .Infinite else .Nan
  else if exponent bits = 0 then
    if mantissa bits = 0 then .Zero else .Subnormal
  else .Normal
def is_normal (bits : Nat) : Bool := decide (classify bits = .Normal)
def is_sign_positive (bits : Nat) : Bool := decide (sign bits = 0)

theorem is_normal_iff (bits : Nat) :
    is_normal bits = true ↔ exponent bits ≠ 0 ∧ exponent bits ≠ maxExponent := by
  unfold is_normal classify
  split_ifs <;> simp_all [maxExponent]

/-! ### The value of a word -/

/-- The magnitude of a finite word in units of the smallest subnormal, `2^-1074`. -/
def units (bits : Nat) : Nat :=
  if exponent bits = 0 then mantissa bits else (2 ^ 52 + mantissa bits) * 2 ^ (exponent bits - 1)
/-- The number a 64-bit word encodes. -/
def ofBits (bits : Nat) : Number :=
  if exponent bits = maxExponent then
    if mantissa bits = 0 then .infinity (decide (sign bits ≠ 0)) else .nan
  else .finite ((if sign bits = 0 then 1 else -1) * (units bits / 2 ^ 1074))

theorem mantissa_lt (bits : Nat) : mantissa bits < 2 ^ 52 := Nat.mod_lt _ (by norm_num)
/-- Exactly the words with a non-zero exponent reach the smallest normal number. -/
theorem units_normal (bits : Nat) : 2 ^ 52 ≤ units bits ↔ exponent bits ≠ 0 := by
  have small := mantissa_lt bits
  unfold units
  split
  · rename_i zero
    simp only [zero, ne_eq, not_true_eq_false, iff_false]
    omega
  · rename_i nonzero
    have scale : 1 ≤ 2 ^ (exponent bits - 1) := Nat.one_le_two_pow
    refine ⟨fun _ => nonzero, fun _ => ?_⟩
    calc 2 ^ 52 ≤ 2 ^ 52 + mantissa bits := Nat.le_add_right _ _
      _ ≤ (2 ^ 52 + mantissa bits) * 2 ^ (exponent bits - 1) := Nat.le_mul_of_pos_right _ scale

/-- The words of positive numbers stand in the order of their magnitudes. -/
theorem units_lt {left right : Nat} (less : left < right) (positive : sign right = 0) : units left < units right := by
  have below : right < 2 ^ 63 := by
    unfold sign at positive
    omega
  have leftSmall := mantissa_lt left
  have exponents : exponent left ≤ exponent right := by
    unfold exponent
    omega
  rcases Nat.eq_or_lt_of_le exponents with same | lower
  · have mantissas : mantissa left < mantissa right := by
      unfold exponent at same
      unfold mantissa
      omega
    unfold units
    rw [same]
    split
    · exact mantissas
    · exact Nat.mul_lt_mul_of_pos_right (Nat.add_lt_add_left mantissas _) (Nat.two_pow_pos _)
  · have nonzero : exponent right ≠ 0 := by omega
    by_cases zero : exponent left = 0
    · calc units left = mantissa left := if_pos zero
        _ < 2 ^ 52 := leftSmall
        _ ≤ units right := (units_normal right).mpr nonzero
    · have power : 2 ^ (exponent left - 1) * 2 ≤ 2 ^ (exponent right - 1) := by
        rw [← pow_succ]
        exact Nat.pow_le_pow_right (by decide) (by omega)
      calc units left = (2 ^ 52 + mantissa left) * 2 ^ (exponent left - 1) := if_neg zero
        _ < (2 ^ 52 * 2) * 2 ^ (exponent left - 1) :=
          Nat.mul_lt_mul_of_pos_right (by omega) (Nat.two_pow_pos _)
        _ = 2 ^ 52 * (2 ^ (exponent left - 1) * 2) := by ring
        _ ≤ 2 ^ 52 * 2 ^ (exponent right - 1) := Nat.mul_le_mul_left _ power
        _ ≤ (2 ^ 52 + mantissa right) * 2 ^ (exponent right - 1) := Nat.mul_le_mul_right _ (Nat.le_add_right _ _)
        _ = units right := (if_neg nonzero).symm

/-- Comparing the value with `2^-1022` is comparing the units with `2^52`. -/
theorem least_normal_le_iff (count : Nat) :
    (1 / 2 ^ 1022 : ℚ) ≤ 1 * ((count : ℚ) / 2 ^ 1074) ↔ 2 ^ 52 ≤ count := by
  have split : (2 : ℚ) ^ 1074 = 2 ^ 52 * 2 ^ 1022 := by rw [← pow_add]
  rw [one_mul, split, div_le_div_iff₀ (by positivity) (by positivity), one_mul,
    mul_le_mul_iff_of_pos_right (by positivity)]
  exact_mod_cast Iff.rfl
theorem least_normal_not_le_neg (count : Nat) :
    ¬ (1 / 2 ^ 1022 : ℚ) ≤ -1 * ((count : ℚ) / 2 ^ 1074) := by
  have positive : (0 : ℚ) < 1 / 2 ^ 1022 := by positivity
  have nonneg : (0 : ℚ) ≤ (count : ℚ) / 2 ^ 1074 := by positivity
  rw [neg_one_mul]
  exact not_le_of_gt (lt_of_le_of_lt (neg_nonpos.mpr nonneg) positive)

/-- A word is finite and at least `2^-1022` exactly when its sign bit is clear
    and its exponent is neither all zeros nor all ones. -/
theorem positive_normal_iff (bits : Nat) :
    ((ofBits bits).isFinite && Number.le (.finite (1 / 2 ^ 1022)) (ofBits bits)) = true ↔
      sign bits = 0 ∧ exponent bits ≠ 0 ∧ exponent bits ≠ maxExponent := by
  by_cases special : exponent bits = maxExponent
  · by_cases zero : mantissa bits = 0 <;> simp [ofBits, special, zero, Number.isFinite]
  · by_cases positive : sign bits = 0
    · simp only [ofBits, special, positive, Number.isFinite, ↓reduceIte, Bool.true_and, Number.le_finite,
        decide_eq_true_eq, least_normal_le_iff, units_normal, ne_eq, not_false_eq_true, and_true, true_and]
    · simp only [ofBits, special, positive, Number.isFinite, ↓reduceIte, Bool.true_and, Number.le_finite,
        decide_eq_true_eq, least_normal_not_le_neg, false_and]

/-! ### Whole numbers -/

/-- The double nearest to a whole number, of two the even one. -/
def toDouble (value : Int) : Int :=
  let unit := 2 ^ (value.natAbs.log2 - 52)
  let quotient := value.natAbs / unit
  let rest := value.natAbs % unit
  let rounded := if 2 * rest > unit ∨ 2 * rest = unit ∧ quotient % 2 = 1 then quotient + 1 else quotient
  value.sign * (rounded * unit : Nat)

/-- Whole numbers below the precision of a double are kept. -/
theorem toDouble_small {value : Int} (small : value.natAbs < 2 ^ 53) : toDouble value = value := by
  have unit : value.natAbs.log2 - 52 = 0 := by
    by_cases zero : value.natAbs = 0
    · rw [zero]
      rfl
    · have := (Nat.log2_lt zero).mpr small
      omega
  rw [toDouble, unit]
  simp only [Nat.pow_zero, Nat.div_one, Nat.mod_one]
  rw [if_neg (by omega), Nat.mul_one, Int.sign_mul_natAbs]
/-- Whole numbers beyond the precision do not come back below it. -/
theorem toDouble_large {value : Int} (large : 2 ^ 53 ≤ value.natAbs) : 2 ^ 53 ≤ (toDouble value).natAbs := by
  have nonzero : value.natAbs ≠ 0 := by omega
  have sign : value.sign.natAbs = 1 := by
    rw [Int.natAbs_sign, if_neg (by omega)]
  have exponent : 53 ≤ value.natAbs.log2 := (Nat.le_log2 nonzero).mpr large
  have power : 2 ^ 52 * 2 ^ (value.natAbs.log2 - 52) = 2 ^ value.natAbs.log2 := by
    rw [← pow_add]
    congr 1
    omega
  have quotient : 2 ^ 52 ≤ value.natAbs / 2 ^ (value.natAbs.log2 - 52) := by
    rw [Nat.le_div_iff_mul_le (by positivity), power]
    exact Nat.log2_self_le nonzero
  have least : 2 ^ 53 ≤ 2 ^ value.natAbs.log2 := Nat.pow_le_pow_right (by decide) exponent
  rw [toDouble, Int.natAbs_mul, sign, one_mul, Int.natAbs_natCast]
  refine least.trans (power.symm.le.trans (Nat.mul_le_mul_right _ ?_))
  split
  · exact quotient.trans (Nat.le_succ _)
  · exact quotient

end EquityGuard.Binary64
