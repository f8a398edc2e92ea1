import EquityGuard.Failures
import EquityGuard.Loops
import Mathlib.Analysis.SpecialFunctions.Pow.NthRootLemmas

/-!
Integer roots by Newton's method: the iteration comes down from above, no divisor is ever
zero, and what is left at the end is the floor of the root.
-/
namespace EquityGuard.IntegerRoot
open EquityGuard.Errors EquityGuard.Failures EquityGuard.JsonText EquityGuard.Loops

/-! ### Operators on big integers -/

/-- `base ** exponent`. -/
def bigPow (base exponent : Int) : Attempt Int := do
  refuse_if (exponent < 0) (.RangeError ["Exponent must be non-negative"])
  return base ^ exponent.toNat
/-- `left / right`, rounded toward zero. -/
def bigDiv (left right : Int) : Attempt Int := do
  refuse_if (right = 0) (.RangeError ["Division by zero"])
  return left.tdiv right
/-- `value.toString(2).length`. -/
def binaryLength (value : Int) : Nat := (if value < 0 then 1 else 0) + (Nat.toDigits 2 value.natAbs).length
/-- `1n << shift`; a negative shift is one to the right. -/
def shiftedOne (shift : Int) : Int := if 0 ≤ shift then 2 ^ shift.toNat else 0

/-! ### The root -/

/-- Where the iteration begins. -/
def newtonStart (value degree : Int) : Attempt Int := do
  return shiftedOne ((← bigDiv (binaryLength value) degree) + 1)
def newtonRound (value degree x : Int) : Attempt (Int ⊕ Int) := do
  let next ← bigDiv ((degree - 1) * x + (← bigDiv value (← bigPow x (degree - 1)))) degree
  if next ≥ x then return .inr x else return .inl next
/-- `while (x ** degree > value) x -= 1n`. -/
def lowerRound (value degree : Int) : Int → Attempt (Int ⊕ Int) :=
  whileRound (fun x => do return decide ((← bigPow x degree) > value)) (fun x => .ok (x - 1))
/-- `while ((x + 1n) ** degree <= value) x += 1n`. -/
def raiseRound (value degree : Int) : Int → Attempt (Int ⊕ Int) :=
  whileRound (fun x => do return decide ((← bigPow (x + 1) degree) ≤ value)) (fun x => .ok (x + 1))
def integerRoot (value degree : Int) (fuel : Nat) : Fueled Failure Int := do
  let start ← newtonStart value degree
  let x ← forever (newtonRound value degree) fuel start
  let x ← forever (lowerRound value degree) fuel x
  forever (raiseRound value degree) fuel x

/-! ### Newton's method -/

theorem bigPow_natCast (base exponent : Nat) : bigPow base exponent = .ok (base ^ exponent : Nat) := by
  unfold bigPow
  rw [refuse_if_bind, if_neg (by omega), Int.toNat_natCast, Nat.cast_pow]
  rfl
theorem bigDiv_natCast (left : Nat) {right : Nat} (nonzero : right ≠ 0) : bigDiv left right = .ok (left / right : Nat) := by
  unfold bigDiv
  rw [refuse_if_bind, if_neg (by exact_mod_cast nonzero), Int.ofNat_tdiv]
  rfl
/-- A round divides by a positive power, and averages. -/
theorem newtonRound_natCast (value degree : Nat) {x : Nat} (positive : 0 < x) :
    newtonRound value (degree + 1 : Nat) x = .ok (if x ≤ (value / x ^ degree + degree * x) / (degree + 1) then .inr (x : Int)
      else .inl ((value / x ^ degree + degree * x) / (degree + 1) : Nat)) := by
  have lower : ((degree + 1 : Nat) : Int) - 1 = degree := by push_cast; omega
  have sum : (degree : Int) * x + (value / x ^ degree : Nat) = (value / x ^ degree + degree * x : Nat) := by
    push_cast
    ring
  unfold newtonRound
  rw [lower, bigPow_natCast, ok_bind, bigDiv_natCast value (pow_pos positive degree).ne', ok_bind, sum,
    bigDiv_natCast _ (Nat.succ_ne_zero degree), ok_bind]
  simp only [ge_iff_le, Nat.cast_le, Nat.succ_eq_add_one]
  split <;> rfl

section
variable {value degree : Nat}

/-- Nothing below the root is reached. -/
theorem root_le_next {x : Nat} (positive : 0 < x) :
    Nat.nthRoot (degree + 1) value ≤ (value / x ^ degree + degree * x) / (degree + 1) := by
  have above := @Nat.nthRoot.lt_pow_go_succ_aux degree value x positive.ne'
  exact Nat.lt_succ_iff.mp ((Nat.nthRoot_lt_iff degree.succ_ne_zero).mpr above)
/-- Above the root the next value is lower. -/
theorem next_lt {x : Nat} (above : Nat.nthRoot (degree + 1) value < x) :
    (value / x ^ degree + degree * x) / (degree + 1) < x := by
  have powers : value < x * x ^ degree := by
    rw [← pow_succ']
    exact (Nat.nthRoot_lt_iff degree.succ_ne_zero).mp above
  have quotient : value / x ^ degree < x := Nat.div_lt_of_lt_mul (by rwa [mul_comm])
  rw [Nat.div_lt_iff_lt_mul degree.succ_pos]
  calc value / x ^ degree + degree * x < x + degree * x := Nat.add_lt_add_right quotient _
    _ = x * (degree + 1) := by ring
theorem root_pos (positive : 0 < value) : 0 < Nat.nthRoot (degree + 1) value := by
  rw [← Nat.succ_le_iff, Nat.le_nthRoot_iff degree.succ_ne_zero, Nat.succ_eq_add_one, zero_add, one_pow]
  exact positive
/-- The first value is above the root. -/
theorem root_le_start : ∃ start : Nat, newtonStart value (degree + 1 : Nat) = .ok start ∧
    Nat.nthRoot (degree + 1) value ≤ start := by
  have positive : (0 : Int) ≤ ((binaryLength value / (degree + 1) : Nat) : Int) + 1 := by positivity
  refine ⟨2 ^ (binaryLength value / (degree + 1) + 1), ?_, ?_⟩
  · unfold newtonStart
    rw [bigDiv_natCast _ degree.succ_ne_zero, ok_bind, shiftedOne, if_pos positive]
    push_cast
    rfl
  · have length : binaryLength value = (Nat.toDigits 2 value).length := by
      rw [binaryLength, if_neg (by omega), Int.natAbs_natCast, zero_add]
    have bits : value < 2 ^ binaryLength value := by
      rw [length, ← Nat.length_toDigits_le_iff (by decide) Nat.length_toDigits_pos]
    have exponents : binaryLength value ≤ (binaryLength value / (degree + 1) + 1) * (degree + 1) := by
      rw [mul_comm]
      exact (Nat.lt_mul_div_succ _ degree.succ_pos).le
    have below : value < (2 ^ (binaryLength value / (degree + 1) + 1)) ^ (degree + 1) := by
      rw [← pow_mul]
      exact bits.trans_le (Nat.pow_le_pow_right (by decide) exponents)
    exact ((Nat.nthRoot_lt_iff degree.succ_ne_zero).mpr below).le

/-- What every round of the iteration keeps. -/
def FromAbove (value degree : Nat) (x : Int) : Prop := ∃ above : Nat, x = above ∧ Nat.nthRoot (degree + 1) value ≤ above

theorem newton_spec (positive : 0 < value) (x : Int) (holds : FromAbove value degree x) :
    (∃ next, newtonRound value (degree + 1 : Nat) x = .ok (.inl next) ∧ FromAbove value degree next ∧ next.toNat < x.toNat) ∨
      ∃ result, newtonRound value (degree + 1 : Nat) x = .ok (.inr result) ∧ result = Nat.nthRoot (degree + 1) value := by
  obtain ⟨x, rfl, above⟩ := holds
  have nonzero : 0 < x := (root_pos positive).trans_le above
  rw [newtonRound_natCast value degree nonzero]
  rcases Nat.eq_or_lt_of_le above with reached | higher
  · refine .inr ⟨x, ?_, by rw [reached]⟩
    rw [if_pos]
    exact reached.symm.le.trans (root_le_next nonzero)
  · refine .inl ⟨_, by rw [if_neg (Nat.not_le.mpr (next_lt higher))], ⟨_, rfl, root_le_next nonzero⟩, ?_⟩
    rw [Int.toNat_natCast, Int.toNat_natCast]
    exact next_lt higher
theorem newton_positive (positive : 0 < value) {start x : Int} (holds : FromAbove value degree start)
    (visited : Visits (newtonRound value (degree + 1 : Nat)) start x) : 0 < x := by
  have kept : FromAbove value degree x := by
    refine visits_keeps (fun state next holds goes => ?_) holds visited
    rcases newton_spec positive state holds with ⟨lower, same, kept, _⟩ | ⟨result, leaves, _⟩
    · rw [same] at goes
      cases goes
      exact kept
    · rw [leaves] at goes
      cases goes
  obtain ⟨above, rfl, higher⟩ := kept
  exact_mod_cast (root_pos positive).trans_le higher
/-- Neither correction moves the root. -/
theorem lower_leaves (positive : 0 < value) : lowerRound value (degree + 1 : Nat) (Nat.nthRoot (degree + 1) value) =
    .ok (.inr (Nat.nthRoot (degree + 1) value : Int)) := by
  refine whileRound_stop ?_
  rw [bigPow_natCast, ok_bind, pure_eq_ok, Except.ok.injEq, decide_eq_false_iff_not, gt_iff_lt, Nat.cast_lt, Nat.not_lt]
  exact Nat.pow_nthRoot_le (.inr positive.ne')
theorem raise_leaves : raiseRound value (degree + 1 : Nat) (Nat.nthRoot (degree + 1) value) =
    .ok (.inr (Nat.nthRoot (degree + 1) value : Int)) := by
  refine whileRound_stop ?_
  rw [← Nat.cast_add_one, bigPow_natCast, ok_bind, pure_eq_ok, Except.ok.injEq, decide_eq_false_iff_not, Nat.cast_le,
    Nat.not_le]
  exact Nat.lt_pow_nthRoot_add_one degree.succ_ne_zero value
theorem integerRoot_ends (positive : 0 < value) :
    Ends (integerRoot value (degree + 1 : Nat)) (Nat.nthRoot (degree + 1) value : Int) := by
  obtain ⟨start, started, above⟩ := @root_le_start value degree
  obtain ⟨_, rfl, newton⟩ := forever_ends Int.toNat (newton_spec positive) ⟨start, rfl, above⟩
  have first : Ends (fun _ => (newtonStart value (degree + 1 : Nat) : Fueled Failure Int)) (start : Int) := by
    rw [started]
    exact .pure _
  exact first.bind (newton.bind ((Ends.leave (lower_leaves positive)).bind (Ends.leave raise_leaves)))
end

/-- The loops end, nothing is divided by zero on the way, and the result is the floor of the root. -/
theorem integerRoot_floor (value degree : Int) (positive : 1 ≤ value) (root : 1 ≤ degree) :
    (∃ start, newtonStart value degree = .ok start ∧ ∀ x, Visits (newtonRound value degree) start x → 0 < x) ∧
    ∃ result, Ends (integerRoot value degree) result ∧ result ^ degree.toNat ≤ value ∧
      value < (result + 1) ^ degree.toNat := by
  obtain ⟨value, rfl⟩ := Int.eq_ofNat_of_zero_le (by omega : 0 ≤ value)
  obtain ⟨degree, rfl⟩ : ∃ lower : Nat, degree = (lower + 1 : Nat) := ⟨(degree - 1).toNat, by omega⟩
  have nonzero : 0 < value := by exact_mod_cast positive
  obtain ⟨start, started, above⟩ := @root_le_start value degree
  refine ⟨⟨start, started, fun x => newton_positive nonzero ⟨start, rfl, above⟩⟩, _, integerRoot_ends nonzero, ?_, ?_⟩
  · rw [Int.toNat_natCast]
    exact_mod_cast Nat.pow_nthRoot_le (.inr nonzero.ne')
  · rw [Int.toNat_natCast]
    exact_mod_cast Nat.lt_pow_nthRoot_add_one degree.succ_ne_zero value
theorem integerRoot_floor_cube : (∃ start, newtonStart 30 3 = .ok start ∧
      ∀ x, Visits (newtonRound 30 3) start x → 0 < x) ∧
    ∃ result, Ends (integerRoot 30 3) result ∧ result ^ 3 ≤ 30 ∧ 30 < (result + 1) ^ 3 :=
  integerRoot_floor 30 3 (by decide) (by decide)

end EquityGuard.IntegerRoot
