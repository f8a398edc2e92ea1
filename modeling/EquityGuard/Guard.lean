import EquityGuard.Instruction

/-!
The execution-time safety policy: a pure function of the request, the mint's state
and the clock. An accepted observation is followed through time: what the policy
decides later is exactly whether the trade still means what it meant.
-/
namespace EquityGuard.Instruction
open EquityGuard.Bytes EquityGuard.Errors

/-- Whether `now` lies between the two bounds, ends included; bounds outside `i64` refuse. -/
def ProtectionWindow.contains (window : ProtectionWindow) (activation now : I64) : Checked Bool := do
  let start ← ok_or .ArithmeticOverflow (activation.checked_sub (I64.ofU32 window.before_secs))
  let finish ← ok_or .ArithmeticOverflow (activation.checked_add (I64.ofU32 window.after_secs))
  return decide (start.value ≤ now.value) && decide (now.value ≤ finish.value)

/-- The bounds around an activation that an `i64` cannot hold. -/
def ProtectionWindow.Overflows (window : ProtectionWindow) (activation : I64) : Prop :=
  activation.value - window.before_secs.toNat < -2 ^ 63 ∨ 2 ^ 63 ≤ activation.value + window.after_secs.toNat
instance (window : ProtectionWindow) (activation : I64) : Decidable (window.Overflows activation) := by
  delta ProtectionWindow.Overflows; infer_instance

theorem ProtectionWindow.contains_eq (window : ProtectionWindow) (activation now : I64) :
    window.contains activation now =
      if window.Overflows activation then .error .ArithmeticOverflow
      else .ok (decide (activation.value - window.before_secs.toNat ≤ now.value ∧
        now.value ≤ activation.value + window.after_secs.toNat)) := by
  have lower := activation.lower
  have upper := activation.upper
  unfold contains I64.checked_sub I64.checked_add
  -- each bound is outside `i64` only on its own side
  cases start : I64.ofInt? (activation.value - (I64.ofU32 window.before_secs).value) with
  | none =>
    have outside := I64.ofInt?_eq_none.mp start
    simp only [I64.ofU32] at outside
    have overflows : window.Overflows activation := .inl (by omega)
    rw [if_pos overflows]
    rfl
  | some first =>
    have firstEq := I64.ofInt?_eq_some.mp start
    have firstLower := first.lower
    simp only [I64.ofU32] at firstEq
    cases finish : I64.ofInt? (activation.value + (I64.ofU32 window.after_secs).value) with
    | none =>
      have outside := I64.ofInt?_eq_none.mp finish
      simp only [I64.ofU32] at outside
      have overflows : window.Overflows activation := .inr (by omega)
      rw [if_pos overflows]
      rfl
    | some last =>
      have lastEq := I64.ofInt?_eq_some.mp finish
      have lastUpper := last.upper
      simp only [I64.ofU32] at lastEq
      have fits : ¬ window.Overflows activation := by
        rintro (early | late) <;> omega
      rw [if_neg fits, ← firstEq, ← lastEq, Bool.decide_and]
      rfl

end EquityGuard.Instruction

namespace EquityGuard.Guard
open EquityGuard.Bytes EquityGuard.Errors EquityGuard.Instruction EquityGuard.State

/-- Decides whether execution may proceed: first the stored state, then the clock. -/
def check (request : AssertSafeExecution) (actual : ProtectedState) (unix_timestamp : I64) : Checked Unit :=
  let expected := request.expected
  if actual.multiplier ≠ expected.multiplier then .error .MultiplierChanged
  else if actual.new_multiplier ≠ expected.new_multiplier then .error .NewMultiplierChanged
  else if actual.new_multiplier_effective_timestamp ≠ expected.new_multiplier_effective_timestamp then
    .error .EffectiveTimestampChanged
  -- identical multipliers mean crossing the timestamp changes nothing
  else if !actual.has_scheduled_change then .ok ()
  else do
    let inside ← request.window.contains actual.new_multiplier_effective_timestamp unix_timestamp
    refuse_if (inside = true) .InsideTransitionWindow
    -- a narrow window and a slow landing could cross the timestamp outside it
    refuse_if (actual.phase_at unix_timestamp ≠ request.expected_phase) .ActivationPhaseChanged

/-- The errors that report a changed stored field. -/
def storedFieldErrors : List EquityGuardError := [.MultiplierChanged, .NewMultiplierChanged, .EffectiveTimestampChanged]

/-- Another stored state is refused by the first field that differs. -/
theorem check_of_changed (request : AssertSafeExecution) {actual : ProtectedState}
    (changed : actual ≠ request.expected) (now : I64) :
    ∃ error ∈ storedFieldErrors, check request actual now = .error error := by
  unfold check
  by_cases multiplier : actual.multiplier = request.expected.multiplier
  · by_cases newMultiplier : actual.new_multiplier = request.expected.new_multiplier
    · by_cases timestamp : actual.new_multiplier_effective_timestamp =
          request.expected.new_multiplier_effective_timestamp
      · exact absurd (ProtectedState.ext multiplier newMultiplier timestamp) changed
      · exact ⟨.EffectiveTimestampChanged, by simp [storedFieldErrors], by simp [multiplier, newMultiplier, timestamp]⟩
    · exact ⟨.NewMultiplierChanged, by simp [storedFieldErrors], by simp [multiplier, newMultiplier]⟩
  · exact ⟨.MultiplierChanged, by simp [storedFieldErrors], by simp [multiplier]⟩
/-- With the stored state as expected, only the clock decides, and only around a real change. -/
theorem check_of_same (request : AssertSafeExecution) (now : I64) :
    check request request.expected now =
      if request.expected.has_scheduled_change = false then .ok ()
      else if request.window.Overflows request.expected.new_multiplier_effective_timestamp then
        .error .ArithmeticOverflow
      else if now.value ∈ request.expected.schedule.window request.window.before_secs.toNat
          request.window.after_secs.toNat then .error .InsideTransitionWindow
      else if request.expected.phase_at now ≠ request.expected_phase then .error .ActivationPhaseChanged
      else .ok () := by
  simp only [check, ne_eq, not_true_eq_false, ↓reduceIte, ProtectionWindow.contains_eq]
  cases request.expected.has_scheduled_change with
  | false => rfl
  | true =>
    by_cases overflows : request.window.Overflows request.expected.new_multiplier_effective_timestamp
    · rw [if_pos overflows, if_neg (by simp), if_neg (by simp), if_pos overflows]
      rfl
    · -- the bounds the code computes are the ends of the schedule's window
      have ends : (request.expected.new_multiplier_effective_timestamp.value - request.window.before_secs.toNat ≤
            now.value ∧
          now.value ≤ request.expected.new_multiplier_effective_timestamp.value + request.window.after_secs.toNat) ↔
          now.value ∈ request.expected.schedule.window request.window.before_secs.toNat
            request.window.after_secs.toNat := Iff.rfl
      simp only [overflows, ↓reduceIte, Bool.not_true, Bool.false_eq_true, Bool.true_eq_false, ends]
      change (refuse_if _ _ >>= fun _ => _) = _
      rw [refuse_if_bind]
      simp only [decide_eq_true_eq, refuse_if]
/-- A request accepted around a real change has window bounds that fit. -/
theorem fits_of_accepted {request : AssertSafeExecution} {now : I64}
    (accepted : check request request.expected now = .ok ())
    (scheduled : request.expected.has_scheduled_change = true) :
    ¬ request.window.Overflows request.expected.new_multiplier_effective_timestamp := by
  intro overflows
  rw [check_of_same, if_neg (by simp [scheduled]), if_pos overflows] at accepted
  cases accepted
/-- Around a real change the phase tells the effective multipliers apart; otherwise there is only one. -/
theorem effective_multiplier_eq_iff (state : ProtectedState) (observed now : I64) :
    (state.effective_multiplier now).to_bytes = (state.effective_multiplier observed).to_bytes ↔
      (state.has_scheduled_change = true → state.phase_at now = state.phase_at observed) := by
  have bytes : (state.effective_multiplier now).to_bytes = (state.effective_multiplier observed).to_bytes ↔
      state.schedule.effective now.value = state.schedule.effective observed.value :=
    StoredMultiplier.ext_iff.symm
  rw [bytes]
  by_cases scheduled : state.has_scheduled_change = true
  · have changes := (state.has_scheduled_change_iff).mp scheduled
    rw [Schedule.effective_eq_iff changes, ProtectedState.phase_at_eq_iff]
    exact ⟨fun same _ => same, fun same => same scheduled⟩
  · have unchanged := mt (state.has_scheduled_change_iff).mpr scheduled
    rw [Schedule.effective_of_unchanged unchanged, Schedule.effective_of_unchanged unchanged]
    exact ⟨fun _ marked => absurd marked scheduled, fun _ => rfl⟩

/-- An observation that was accepted leaves only these outcomes for the rest of time. -/
theorem check_later_iff (state : ProtectedState) (window : ProtectionWindow) (observed : I64)
    (accepted : check ⟨state, state.phase_at observed, window⟩ state observed = .ok ())
    (later : ProtectedState) (now : I64) :
    (check ⟨state, state.phase_at observed, window⟩ later now = .ok () ↔
      later = state ∧
      (later.effective_multiplier now).to_bytes = (state.effective_multiplier observed).to_bytes ∧
      ¬ (state.has_scheduled_change = true ∧
        now.value ∈ state.schedule.window window.before_secs.toNat window.after_secs.toNat)) ∧
    ((∃ error ∈ storedFieldErrors, check ⟨state, state.phase_at observed, window⟩ later now = .error error) ↔
      later ≠ state) ∧
    (∀ error, check ⟨state, state.phase_at observed, window⟩ later now = .error error → error ∉ storedFieldErrors →
      error = .InsideTransitionWindow ∨ error = .ActivationPhaseChanged) ∧
    check ⟨state, state.phase_at observed, window⟩ later now ≠ .error .ArithmeticOverflow := by
  by_cases same : later = state
  · subst same
    have outcome := check_of_same ⟨later, later.phase_at observed, window⟩ now
    rw [effective_multiplier_eq_iff]
    cases scheduled : later.has_scheduled_change with
    | false =>
      simp only [scheduled, ↓reduceIte] at outcome
      simp [outcome]
    | true =>
      have fits := fits_of_accepted accepted scheduled
      simp only [scheduled, fits, Bool.true_eq_false, ↓reduceIte] at outcome
      rw [outcome]
      by_cases inside : now.value ∈ later.schedule.window window.before_secs.toNat window.after_secs.toNat
      · simp [inside, storedFieldErrors]
      · by_cases phase : later.phase_at now = later.phase_at observed
        · simp [inside, phase]
        · simp [inside, phase, storedFieldErrors]
  · obtain ⟨error, stored, refused⟩ := check_of_changed ⟨state, state.phase_at observed, window⟩ same now
    rw [refused]
    refine ⟨?_, ?_, ?_, ?_⟩
    · simp [same]
    · exact iff_of_true ⟨error, stored, rfl⟩ same
    · intro other sameError unstored
      cases sameError
      exact absurd stored unstored
    · intro overflow
      cases overflow
      simp [storedFieldErrors] at stored

/-- A two-for-one split at second 1000: the multiplier goes from `1.0` to `2.0`. -/
def twoForOneSplit : ProtectedState where
  multiplier := ⟨⟨[0, 0, 0, 0, 0, 0, 0xF0, 0x3F], rfl⟩, by decide +kernel⟩
  new_multiplier := ⟨⟨[0, 0, 0, 0, 0, 0, 0x00, 0x40], rfl⟩, by decide +kernel⟩
  new_multiplier_effective_timestamp := I64.ofU32 1000
/-- A mint account that carries the two-for-one split and no other extension. -/
def splitMint : List UInt8 :=
  List.replicate 45 0 ++ [1] ++ List.replicate 119 0 ++ [1] ++ [25, 0, 56, 0] ++ List.replicate 32 0 ++
    [0, 0, 0, 0, 0, 0, 0xF0, 0x3F] ++ leBytes 8 1000 ++ [0, 0, 0, 0, 0, 0, 0x00, 0x40]
/-- Accepted at second 0, the split refuses the same bytes at second 2000. -/
theorem check_later_iff_split :
    check ⟨twoForOneSplit, twoForOneSplit.phase_at (I64.ofU32 0), ⟨10, 10⟩⟩ twoForOneSplit
      (I64.ofU32 0) = .ok () ∧
    check ⟨twoForOneSplit, twoForOneSplit.phase_at (I64.ofU32 0), ⟨10, 10⟩⟩ twoForOneSplit
      (I64.ofU32 2000) ≠ .ok () := by
  have accepted : check ⟨twoForOneSplit, twoForOneSplit.phase_at (I64.ofU32 0), ⟨10, 10⟩⟩ twoForOneSplit
      (I64.ofU32 0) = .ok () := by decide
  refine ⟨accepted, fun later => ?_⟩
  have unchanged := ((check_later_iff _ _ _ accepted _ _).1.mp later).2.1
  exact absurd unchanged (by decide)

end EquityGuard.Guard
