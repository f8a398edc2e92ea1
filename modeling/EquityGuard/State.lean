import EquityGuard.Addresses
import EquityGuard.Binary64
import EquityGuard.Errors
import EquityGuard.Schedule
import EquityGuard.Token2022

/-!
The protected ScaledUiAmount state of a mint, in its stored representation, and
its fail-closed decoding from an account.
-/
namespace EquityGuard.State
open EquityGuard.Addresses EquityGuard.Bytes EquityGuard.Binary64 EquityGuard.Errors EquityGuard.Token2022

/-- Bytes that encode a positive, normal `f64`; two are equal as bytes, never as floats. -/
@[ext] structure StoredMultiplier where
  bytes : Chunk 8
  usable : (is_normal (leNat bytes.bytes) && is_sign_positive (leNat bytes.bytes)) = true
deriving DecidableEq

def StoredMultiplier.new (bytes : Chunk 8) : Option StoredMultiplier :=
  if usable : (is_normal (leNat bytes.bytes) && is_sign_positive (leNat bytes.bytes)) = true
  then some ⟨bytes, usable⟩ else none
def StoredMultiplier.to_bytes (multiplier : StoredMultiplier) : Chunk 8 := multiplier.bytes

theorem StoredMultiplier.new_eq_some {bytes : Chunk 8} {multiplier : StoredMultiplier} :
    StoredMultiplier.new bytes = some multiplier ↔ multiplier.bytes = bytes := by
  constructor
  · intro made
    unfold StoredMultiplier.new at made
    split at made
    · rw [← Option.some.inj made]
    · cases made
  · rintro rfl
    simp [StoredMultiplier.new, multiplier.usable]
@[simp] theorem StoredMultiplier.new_to_bytes (multiplier : StoredMultiplier) :
    StoredMultiplier.new multiplier.to_bytes = some multiplier := StoredMultiplier.new_eq_some.mpr rfl
/-- The accepted bytes are those with a clear sign bit and an ordinary exponent. -/
theorem StoredMultiplier.new_isSome (bytes : Chunk 8) :
    (StoredMultiplier.new bytes).isSome = true ↔
      sign (leNat bytes.bytes) = 0 ∧ exponent (leNat bytes.bytes) ≠ 0 ∧
        exponent (leNat bytes.bytes) ≠ maxExponent := by
  have readings : (is_normal (leNat bytes.bytes) && is_sign_positive (leNat bytes.bytes)) = true ↔
      sign (leNat bytes.bytes) = 0 ∧ exponent (leNat bytes.bytes) ≠ 0 ∧
        exponent (leNat bytes.bytes) ≠ maxExponent := by
    rw [Bool.and_eq_true, is_normal_iff, is_sign_positive, decide_eq_true_eq, and_comm]
  rw [← readings]
  unfold StoredMultiplier.new
  split <;> simp_all

@[ext] structure ProtectedState where
  multiplier : StoredMultiplier
  new_multiplier : StoredMultiplier
  new_multiplier_effective_timestamp : I64
deriving DecidableEq

/-- Which stored multiplier Token-2022 treats as effective. -/
inductive ActivationPhase where
  | Pending
  | Activated
deriving DecidableEq

def ActivationPhase.from_u8 (value : UInt8) : Option ActivationPhase :=
  if value = 0 then some .Pending else if value = 1 then some .Activated else none
/-- The discriminant, `phase as u8`. -/
def ActivationPhase.as_u8 : ActivationPhase → UInt8
  | .Pending => 0
  | .Activated => 1

theorem ActivationPhase.from_u8_eq_some {value : UInt8} {phase : ActivationPhase} :
    ActivationPhase.from_u8 value = some phase ↔ value = phase.as_u8 := by
  unfold ActivationPhase.from_u8
  split_ifs <;> cases phase <;> simp_all [ActivationPhase.as_u8]

namespace ProtectedState

def has_scheduled_change (state : ProtectedState) : Bool := decide (state.multiplier ≠ state.new_multiplier)
def phase_at (state : ProtectedState) (unix_timestamp : I64) : ActivationPhase :=
  if unix_timestamp.value ≥ state.new_multiplier_effective_timestamp.value then .Activated else .Pending

/-- The state as a scheduled change over the unbounded time line. -/
def schedule (state : ProtectedState) : Schedule StoredMultiplier Int where
  before := state.multiplier
  after := state.new_multiplier
  activation := state.new_multiplier_effective_timestamp.value
/-- The stored multiplier Token-2022 applies at an instant. -/
def effective_multiplier (state : ProtectedState) (unix_timestamp : I64) : StoredMultiplier :=
  state.schedule.effective unix_timestamp.value

theorem has_scheduled_change_iff (state : ProtectedState) :
    state.has_scheduled_change = true ↔ state.schedule.Changes := by
  simp [has_scheduled_change, Schedule.Changes, schedule]
theorem phase_at_eq_activated (state : ProtectedState) (now : I64) :
    state.phase_at now = .Activated ↔ state.schedule.Activated now.value := by
  unfold phase_at Schedule.Activated schedule
  split <;> simp_all
/-- Two instants are in the same phase exactly when the change does not lie between them. -/
theorem phase_at_eq_iff (state : ProtectedState) (one two : I64) :
    state.phase_at two = state.phase_at one ↔
      (state.schedule.Activated two.value ↔ state.schedule.Activated one.value) := by
  rw [← phase_at_eq_activated, ← phase_at_eq_activated]
  cases state.phase_at one <;> cases state.phase_at two <;> simp

end ProtectedState

/-! ### Decoding a mint account -/

/-- The loop that refuses a repeated extension type, with one bit of a `u64` for
    each type seen; `checked_shl` refuses a shift of 64 or more. -/
def reject_duplicates : UInt64 → List ExtensionType → Checked Unit
  | _, [] => .ok ()
  | seen, extension_type :: rest =>
    if extension_type.val < 64 then
      let bit := (1 : UInt64) <<< UInt64.ofNat extension_type.val
      if seen &&& bit ≠ 0 then .error .InvalidMintData
      else reject_duplicates (seen ||| bit) rest
    else .error .InvalidMintData

/-- Decodes the protected state of a mint account, validating its whole extension area. -/
def decode_protected_state (token : Interface) (owner : Key) (data : List UInt8) : Checked ProtectedState := do
  refuse_if (owner ≠ TOKEN_2022_PROGRAM_ID) .InvalidMintOwner
  let mint ← ok_or .InvalidMintData (token.unpack data)
  let extension_types ← ok_or .InvalidMintData (token.get_extension_types mint)
  reject_duplicates 0 extension_types
  refuse_if (.ScaledUiAmount ∉ extension_types) .MissingScaledUiAmount
  ok_or .InvalidExtensionCombination (token.check_for_invalid_mint_extension_combinations extension_types)
  let config ← ok_or .InvalidMintData (token.get_extension mint)
  let multiplier ← ok_or .InvalidMultiplier (StoredMultiplier.new config.multiplier)
  let new_multiplier ← ok_or .InvalidMultiplier (StoredMultiplier.new config.new_multiplier)
  return { multiplier, new_multiplier,
           new_multiplier_effective_timestamp := config.new_multiplier_effective_timestamp }

/-- The bits of `seen` are those of the given types. -/
def Marks (seen : UInt64) (types : List ExtensionType) : Prop :=
  ∀ type : ExtensionType, seen.toNat.testBit type.val = true ↔ type ∈ types

theorem bit_toNat (type : ExtensionType) : ((1 : UInt64) <<< UInt64.ofNat type.val).toNat = 2 ^ type.val := by
  have table : ∀ type : ExtensionType, ((1 : UInt64) <<< UInt64.ofNat type.val).toNat = 2 ^ type.val := by decide
  exact table type
theorem marked_iff {seen : UInt64} {types : List ExtensionType} (marks : Marks seen types) (type : ExtensionType) :
    seen &&& ((1 : UInt64) <<< UInt64.ofNat type.val) ≠ 0 ↔ type ∈ types := by
  rw [← marks type, ne_eq, ← UInt64.toNat_inj, UInt64.toNat_and, bit_toNat]
  constructor
  · intro nonzero
    by_contra unset
    apply nonzero
    apply Nat.eq_of_testBit_eq
    intro position
    by_cases same : type.val = position
    · subst same; simpa using unset
    · simp [same]
  · intro set zero
    have clear := congrArg (fun number => number.testBit type.val) zero
    simp [set] at clear
theorem marks_insert {seen : UInt64} {types : List ExtensionType} (marks : Marks seen types) (type : ExtensionType) :
    Marks (seen ||| ((1 : UInt64) <<< UInt64.ofNat type.val)) (type :: types) := by
  intro other
  rw [UInt64.toNat_or, bit_toNat, Nat.testBit_or, Nat.testBit_two_pow, Bool.or_eq_true, decide_eq_true_eq,
    marks other, List.mem_cons, or_comm, Fin.val_inj, eq_comm]
theorem reject_duplicates_from {seen : UInt64} {earlier : List ExtensionType} (marks : Marks seen earlier)
    (types : List ExtensionType) :
    reject_duplicates seen types =
      if types.Nodup ∧ ∀ type ∈ types, type ∉ earlier then .ok () else .error .InvalidMintData := by
  induction types generalizing seen earlier with
  | nil => simp [reject_duplicates]
  | cons type rest ih =>
    have small : type.val < 64 := by omega
    simp only [reject_duplicates, small, ↓reduceIte, marked_iff marks]
    by_cases known : type ∈ earlier
    · simp [known]
    · rw [if_neg known, ih (marks_insert marks type)]
      congr 1
      refine propext ⟨?_, ?_⟩
      · rintro ⟨nodup, fresh⟩
        refine ⟨List.nodup_cons.mpr ⟨fun member => fresh type member List.mem_cons_self, nodup⟩, ?_⟩
        intro other member
        rcases List.mem_cons.mp member with rfl | later
        · exact known
        · exact fun seen => fresh other later (List.mem_cons_of_mem _ seen)
      · rintro ⟨nodup, fresh⟩
        obtain ⟨absent, nodupRest⟩ := List.nodup_cons.mp nodup
        refine ⟨nodupRest, ?_⟩
        intro other member marked
        rcases List.mem_cons.mp marked with rfl | seen
        · exact absent member
        · exact fresh other (List.mem_cons_of_mem _ member) seen
/-- The mask refuses exactly the lists with a repeated type. -/
theorem reject_duplicates_correct (types : List ExtensionType) :
    reject_duplicates 0 types = if types.Nodup then .ok () else .error .InvalidMintData := by
  have start : Marks 0 [] := by intro type; simp
  simpa using reject_duplicates_from start types

/-- What is decoded from the entries of a well-formed extension area. -/
def decode_entries (entries : List TlvEntry) : Checked ProtectedState := do
  refuse_if (¬ (entries.map TlvEntry.type).Nodup) .InvalidMintData
  refuse_if (.ScaledUiAmount ∉ entries.map TlvEntry.type) .MissingScaledUiAmount
  refuse_if (Forbidden (entries.map TlvEntry.type)) .InvalidExtensionCombination
  let config ← ok_or .InvalidMintData (first_config entries)
  let multiplier ← ok_or .InvalidMultiplier (StoredMultiplier.new config.multiplier)
  let new_multiplier ← ok_or .InvalidMultiplier (StoredMultiplier.new config.new_multiplier)
  return { multiplier, new_multiplier,
           new_multiplier_effective_timestamp := config.new_multiplier_effective_timestamp }
/-- With the documented crate, decoding is: owner, layout, entries. -/
theorem decode_protected_state_eq {token : Interface} (documented : token.Documented) (owner : Key) (data : List UInt8) :
    decode_protected_state token owner data = (do
      refuse_if (owner ≠ TOKEN_2022_PROGRAM_ID) .InvalidMintOwner
      refuse_if (¬ (BaseMint data ∧ MintArea data)) .InvalidMintData
      let entries ← ok_or .InvalidMintData (tlv_entries (data.drop 166))
      decode_entries entries) := by
  simp only [decode_protected_state, documented.unpack_eq, documented.types_eq, documented.combinations_eq,
    reject_duplicates_correct, refuse_if_bind]
  split
  · rfl
  · by_cases layout : BaseMint data ∧ MintArea data
    · simp only [layout, and_self, ↓reduceIte, ok_or_some, ok_bind, not_true_eq_false]
      cases walked : tlv_entries (data.drop 166) with
      | none => rfl
      | some entries =>
        simp only [Option.map_some, ok_or_some, ok_bind, documented.extension_eq _ entries walked, decode_entries,
          refuse_if_bind]
        by_cases nodup : (entries.map TlvEntry.type).Nodup
        · by_cases forbidden : Forbidden (entries.map TlvEntry.type)
          · simp only [nodup, forbidden, not_true_eq_false, ↓reduceIte, ok_bind, ok_or_none, error_bind]
          · simp only [nodup, forbidden, not_true_eq_false, ↓reduceIte, ok_bind, ok_or_some]
        · simp only [nodup, not_false_eq_true, ↓reduceIte, error_bind]
    · simp only [layout, ↓reduceIte, ok_or_none, error_bind, not_false_eq_true]

/-! ### Mints without a protected state -/

/-- A well-formed Token-2022 mint that carries no ScaledUiAmount. -/
def Unscaled (data : List UInt8) : Prop :=
  BaseMint data ∧ MintArea data ∧ ∃ entries, tlv_entries (data.drop 166) = some entries ∧
    (entries.map TlvEntry.type).Nodup ∧ .ScaledUiAmount ∉ entries.map TlvEntry.type

theorem decode_entries_eq_missing (entries : List TlvEntry) :
    decode_entries entries = .error .MissingScaledUiAmount ↔
      (entries.map TlvEntry.type).Nodup ∧ .ScaledUiAmount ∉ entries.map TlvEntry.type := by
  rw [decode_entries, refuse_if_bind, refuse_if_bind]
  by_cases nodup : (entries.map TlvEntry.type).Nodup
  swap
  · rw [if_pos nodup]
    exact ⟨nofun, fun missing => absurd missing.1 nodup⟩
  by_cases scaled : .ScaledUiAmount ∈ entries.map TlvEntry.type
  swap
  · rw [if_neg (not_not.mpr nodup), if_pos scaled]
    exact ⟨fun _ => ⟨nodup, scaled⟩, fun _ => rfl⟩
  rw [if_neg (not_not.mpr nodup), if_neg (not_not.mpr scaled)]
  refine ⟨fun refused => ?_, fun missing => absurd scaled missing.2⟩
  -- what is refused after the presence check has another name
  refine absurd rfl ((?_ : Throws (· ≠ .MissingScaledUiAmount) _) _ refused)
  exact (Throws.refuse_if (by simp)).bind fun _ _ => (Throws.ok_or (by simp)).bind fun _ _ =>
    (Throws.ok_or (by simp)).bind fun _ _ => (Throws.ok_or (by simp)).bind fun _ _ => Throws.ok _
theorem decode_entries_owner (entries : List TlvEntry) : Throws (· ≠ .InvalidMintOwner) (decode_entries entries) :=
  (Throws.refuse_if (by simp)).bind fun _ _ => (Throws.refuse_if (by simp)).bind fun _ _ =>
    (Throws.refuse_if (by simp)).bind fun _ _ => (Throws.ok_or (by simp)).bind fun _ _ =>
    (Throws.ok_or (by simp)).bind fun _ _ => (Throws.ok_or (by simp)).bind fun _ _ => Throws.ok _

/-- The owner is refused first, and by name. -/
theorem decode_protected_state_owner {token : Interface} (documented : token.Documented) (owner : Key) (data : List UInt8) :
    decode_protected_state token owner data = .error .InvalidMintOwner ↔ owner ≠ TOKEN_2022_PROGRAM_ID := by
  rw [decode_protected_state_eq documented, refuse_if_bind]
  by_cases foreign : owner ≠ TOKEN_2022_PROGRAM_ID
  · rw [if_pos foreign]
    exact ⟨fun _ => foreign, fun _ => rfl⟩
  · rw [if_neg foreign]
    refine ⟨fun refused => ?_, fun other => absurd other foreign⟩
    refine absurd rfl ((?_ : Throws (· ≠ .InvalidMintOwner) _) _ refused)
    exact (Throws.refuse_if (by simp)).bind fun _ _ => (Throws.ok_or (by simp)).bind fun entries _ =>
      decode_entries_owner entries
theorem decode_protected_state_missing {token : Interface} (documented : token.Documented) (owner : Key)
    (data : List UInt8) :
    decode_protected_state token owner data = .error .MissingScaledUiAmount ↔
      owner = TOKEN_2022_PROGRAM_ID ∧ Unscaled data := by
  rw [decode_protected_state_eq documented, refuse_if_bind, refuse_if_bind]
  by_cases foreign : owner ≠ TOKEN_2022_PROGRAM_ID
  · rw [if_pos foreign]
    exact ⟨nofun, fun missing => absurd missing.1 foreign⟩
  rw [if_neg foreign]
  by_cases layout : BaseMint data ∧ MintArea data
  swap
  · rw [if_pos layout]
    exact ⟨nofun, fun ⟨_, base, area, _⟩ => absurd ⟨base, area⟩ layout⟩
  rw [if_neg (not_not.mpr layout)]
  cases walked : tlv_entries (data.drop 166) with
  | none =>
    refine ⟨nofun, ?_⟩
    rintro ⟨_, _, _, entries, found, _⟩
    rw [walked] at found
    cases found
  | some entries =>
    rw [ok_or_some, ok_bind, decode_entries_eq_missing]
    constructor
    · rintro ⟨nodup, missing⟩
      exact ⟨not_not.mp foreign, layout.1, layout.2, entries, walked, nodup, missing⟩
    · rintro ⟨_, _, _, found, read, nodup, missing⟩
      rw [walked] at read
      cases read
      exact ⟨nodup, missing⟩

end EquityGuard.State
