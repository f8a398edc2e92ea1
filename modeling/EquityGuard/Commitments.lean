import EquityGuard.Client
import EquityGuard.Framing
import EquityGuard.Transaction

/-!
The bytes a downstream commitment hashes, in the program and in the client: one
instruction for adapter kind 1, the whole suffix for kinds 2 and 3.
-/
namespace EquityGuard.Commitments
open EquityGuard.Addresses EquityGuard.Bytes EquityGuard.Client EquityGuard.Errors EquityGuard.Framing
open EquityGuard.Transaction

/-- The bytes of an ASCII literal. -/
def ascii (text : String) : List UInt8 := text.toList.map (fun character => UInt8.ofNat character.toNat)

/-! ### The program -/

def DOWNSTREAM_COMMITMENT_DOMAIN : List UInt8 := ascii "EQUITYGUARD_DOWNSTREAM_V2"
def JUPITER_SUFFIX_COMMITMENT_DOMAIN : List UInt8 := ascii "EQUITYGUARD_JUPITER_SUFFIX_V1"

/-- `u32::try_from(length)`. -/
def u32_try_from (length : Nat) : Checked UInt32 :=
  if length < 2 ^ 32 then .ok (UInt32.ofNat length) else .error .ArithmeticOverflow
/-- The bytes pushed for one account. -/
def account_bytes (account : AccountMeta) : List UInt8 :=
  account.pubkey.bytes ++ [account.is_signer.toUInt8, account.is_writable.toUInt8]

/-- What `downstream_commitment` hashes. -/
def downstream_encoded (program_id : Key) (accounts : List AccountMeta) (data : List UInt8) : Checked (List UInt8) := do
  let account_count ← u32_try_from accounts.length
  let data_len ← u32_try_from data.length
  return DOWNSTREAM_COMMITMENT_DOMAIN ++ (program_id.bytes ++ ((u32_to_le_bytes account_count).bytes ++
    (accounts.flatMap account_bytes ++ ((u32_to_le_bytes data_len).bytes ++ data))))
def downstream_commitment (sha256 : List UInt8 → Chunk 32) (program_id : Key) (accounts : List AccountMeta)
    (data : List UInt8) : Checked (Chunk 32) := do
  return sha256 (← downstream_encoded program_id accounts data)

/-- Read access to one top-level instruction with transaction-level flags. -/
class SuffixInstruction (I : Type) where
  program_id : I → Key
  account_count : I → Nat
  account : I → Nat → Option AccountMeta
  accounts : I → List AccountMeta
  data : I → List UInt8

instance : SuffixInstruction Instruction where
  program_id := Instruction.program_id
  account_count instruction := instruction.accounts.length
  account instruction index := instruction.accounts[index]?
  accounts := Instruction.accounts
  data := Instruction.data

section
variable {I : Type} [SuffixInstruction I]
open SuffixInstruction

/-- One turn of the loop in `jupiter_suffix_commitment`. -/
def instruction_encoded (instruction : I) : Checked (List UInt8) := do
  let account_count' ← u32_try_from (account_count instruction)
  let data_len ← u32_try_from (data instruction).length
  refuse_if ((accounts instruction).length ≠ account_count instruction) .InvalidInstructionsSysvar
  return (program_id instruction).bytes ++ ((u32_to_le_bytes account_count').bytes ++
    ((accounts instruction).flatMap account_bytes ++ ((u32_to_le_bytes data_len).bytes ++ data instruction)))
/-- What `jupiter_suffix_commitment` hashes. -/
def jupiter_suffix_encoded (suffix : List I) : Checked (List UInt8) := do
  let count ← u32_try_from suffix.length
  let encoded ← suffix.mapM instruction_encoded
  return JUPITER_SUFFIX_COMMITMENT_DOMAIN ++ ((u32_to_le_bytes count).bytes ++ encoded.flatten)
def jupiter_suffix_commitment (sha256 : List UInt8 → Chunk 32) (suffix : List I) : Checked (Chunk 32) := do
  return sha256 (← jupiter_suffix_encoded suffix)

end

/-! ### The client -/

def u32le (value : Nat) : Js (List UInt8) := do
  refuse_if (value > 0xffffffff) (.GuardClientError .InvalidDownstream ["length does not fit u32"] none)
  return leBytes 4 value
def accountParts (account : CommittedAccount) : List (List UInt8) :=
  [account.address.key.bytes, [if account.isSigner then 1 else 0, if account.isWritable then 1 else 0]]

def downstreamCommitmentPreimage (instruction : CommittedInstruction) : Js (List UInt8) := do
  let accountCount ← u32le instruction.accounts.length
  let dataLength ← u32le instruction.data.length
  let parts := [DOWNSTREAM_COMMITMENT_DOMAIN, instruction.programAddress.key.bytes, accountCount] ++
    instruction.accounts.flatMap accountParts ++ [dataLength, instruction.data]
  return parts.flatten
def instructionParts (instruction : CommittedInstruction) : Js (List (List UInt8)) := do
  let accountCount ← u32le instruction.accounts.length
  let dataLength ← u32le instruction.data.length
  return [instruction.programAddress.key.bytes, accountCount] ++ instruction.accounts.flatMap accountParts ++
    [dataLength, instruction.data]
def jupiterSuffixCommitmentPreimage (suffix : List CommittedInstruction) : Js (List UInt8) := do
  let count ← u32le suffix.length
  let parts ← suffix.mapM instructionParts
  return ([JUPITER_SUFFIX_COMMITMENT_DOMAIN, count] ++ parts.flatten).flatten
def jupiterSuffixCommitment (sha256 : List UInt8 → Chunk 32) (suffix : List CommittedInstruction) : Js (List UInt8) := do
  return (sha256 (← jupiterSuffixCommitmentPreimage suffix)).bytes

/-! ### One encoding -/

/-- The framing both kinds share. -/
def instruction_bytes (instruction : Instruction) : List UInt8 :=
  instruction.program_id.bytes ++ (leBytes 4 instruction.accounts.length ++
    (instruction.accounts.flatMap account_bytes ++ (leBytes 4 instruction.data.length ++ instruction.data)))
/-- The lengths a `u32` can hold. -/
def Encodable (instruction : Instruction) : Prop :=
  instruction.accounts.length < 2 ^ 32 ∧ instruction.data.length < 2 ^ 32
instance : DecidablePred Encodable := fun instruction => by delta Encodable; infer_instance

theorem u32_try_from_bind {α : Type} (length : Nat) (next : UInt32 → Checked α) :
    u32_try_from length >>= next =
      if length < 2 ^ 32 then next (UInt32.ofNat length) else .error .ArithmeticOverflow := by
  unfold u32_try_from
  split <;> rfl
theorem u32_bytes {length : Nat} (fits : length < 2 ^ 32) :
    (u32_to_le_bytes (UInt32.ofNat length)).bytes = leBytes 4 length := by
  have kept : (UInt32.ofNat length).toNat = length := UInt32.toNat_ofNat_of_lt fits
  rw [u32_to_le_bytes, kept]
  rfl
theorem downstream_encoded_eq (instruction : Instruction) :
    downstream_encoded instruction.program_id instruction.accounts instruction.data =
      if Encodable instruction then .ok (DOWNSTREAM_COMMITMENT_DOMAIN ++ instruction_bytes instruction)
      else .error .ArithmeticOverflow := by
  rw [downstream_encoded, u32_try_from_bind, u32_try_from_bind]
  by_cases accounts : instruction.accounts.length < 2 ^ 32
  · by_cases data : instruction.data.length < 2 ^ 32
    · rw [if_pos accounts, if_pos data, if_pos ⟨accounts, data⟩, u32_bytes accounts, u32_bytes data]
      rfl
    · rw [if_pos accounts, if_neg data, if_neg (fun encodable => data encodable.2)]
  · rw [if_neg accounts, if_neg (fun encodable => accounts encodable.1)]
theorem instruction_encoded_eq (instruction : Instruction) :
    instruction_encoded instruction =
      if Encodable instruction then .ok (instruction_bytes instruction) else .error .ArithmeticOverflow := by
  rw [instruction_encoded, u32_try_from_bind, u32_try_from_bind, refuse_if_bind]
  simp only [SuffixInstruction.account_count, SuffixInstruction.accounts, SuffixInstruction.data,
    SuffixInstruction.program_id, ne_eq, not_true_eq_false, ↓reduceIte]
  by_cases accounts : instruction.accounts.length < 2 ^ 32
  · by_cases data : instruction.data.length < 2 ^ 32
    · rw [if_pos accounts, if_pos data, if_pos ⟨accounts, data⟩, u32_bytes accounts, u32_bytes data]
      rfl
    · rw [if_pos accounts, if_neg data, if_neg (fun encodable => data encodable.2)]
  · rw [if_neg accounts, if_neg (fun encodable => accounts encodable.1)]
theorem jupiter_suffix_encoded_eq (suffix : List Instruction) :
    jupiter_suffix_encoded suffix =
      if suffix.length < 2 ^ 32 ∧ ∀ instruction ∈ suffix, Encodable instruction then
        .ok (JUPITER_SUFFIX_COMMITMENT_DOMAIN ++ (leBytes 4 suffix.length ++ suffix.flatMap instruction_bytes))
      else .error .ArithmeticOverflow := by
  rw [jupiter_suffix_encoded, u32_try_from_bind, mapM_checked instruction_encoded_eq]
  by_cases count : suffix.length < 2 ^ 32
  · by_cases encodable : ∀ instruction ∈ suffix, Encodable instruction
    · rw [if_pos count, if_pos encodable, if_pos ⟨count, encodable⟩, u32_bytes count, ok_bind, List.flatMap]
      rfl
    · rw [if_pos count, if_neg encodable, if_neg (fun all => encodable all.2), error_bind]
  · rw [if_neg count, if_neg (fun all => count all.1)]

/-- The client's refusal of a length. -/
def lengthError : JsError := .GuardClientError .InvalidDownstream ["length does not fit u32"] none

theorem u32le_bind {α : Type} (length : Nat) (next : List UInt8 → Js α) :
    u32le length >>= next = if length < 2 ^ 32 then next (leBytes 4 length) else .error lengthError := by
  have limit : length > 0xffffffff ↔ ¬ length < 2 ^ 32 := by omega
  rw [u32le, refuse_if_bind]
  by_cases fits : length < 2 ^ 32
  · rw [if_neg (by rw [limit]; exact not_not.mpr fits), if_pos fits]
    rfl
  · rw [if_pos (limit.mpr fits), if_neg fits]
    rfl
theorem flatten_accountParts (accounts : List CommittedAccount) :
    (accounts.flatMap accountParts).flatten = (accounts.map CommittedAccount.toProgram).flatMap account_bytes := by
  induction accounts with
  | nil => rfl
  | cons account rest ih =>
    have flag : ∀ set : Bool, (if set then (1 : UInt8) else 0) = set.toUInt8 := by decide
    rw [List.flatMap_cons, List.flatten_append, ih, List.map_cons, List.flatMap_cons]
    simp only [accountParts, flag, List.flatten_cons, List.flatten_nil, List.append_nil, account_bytes,
      CommittedAccount.toProgram]
theorem flatten_instructionParts (instruction : CommittedInstruction) :
    ([instruction.programAddress.key.bytes, leBytes 4 instruction.accounts.length] ++
      instruction.accounts.flatMap accountParts ++
      [leBytes 4 instruction.data.length, instruction.data]).flatten = instruction_bytes instruction.toProgram := by
  rw [List.flatten_append, List.flatten_append, flatten_accountParts]
  simp only [instruction_bytes, CommittedInstruction.toProgram, List.flatten_cons, List.flatten_nil, List.append_nil,
    List.append_assoc, List.length_map]
theorem encodable_toProgram (instruction : CommittedInstruction) :
    Encodable instruction.toProgram ↔ instruction.accounts.length < 2 ^ 32 ∧ instruction.data.length < 2 ^ 32 := by
  rw [Encodable, CommittedInstruction.toProgram, List.length_map]
theorem downstreamCommitmentPreimage_eq (instruction : CommittedInstruction) :
    downstreamCommitmentPreimage instruction =
      if Encodable instruction.toProgram then
        .ok (DOWNSTREAM_COMMITMENT_DOMAIN ++ instruction_bytes instruction.toProgram)
      else .error lengthError := by
  simp only [downstreamCommitmentPreimage, u32le_bind, encodable_toProgram]
  by_cases accounts : instruction.accounts.length < 2 ^ 32
  · by_cases data : instruction.data.length < 2 ^ 32
    · rw [if_pos accounts, if_pos data, if_pos ⟨accounts, data⟩, ← flatten_instructionParts]
      rfl
    · rw [if_pos accounts, if_neg data, if_neg (fun all => data all.2)]
  · rw [if_neg accounts, if_neg (fun all => accounts all.1)]
theorem instructionParts_eq (instruction : CommittedInstruction) :
    instructionParts instruction =
      if Encodable instruction.toProgram then
        .ok ([instruction.programAddress.key.bytes, leBytes 4 instruction.accounts.length] ++
          instruction.accounts.flatMap accountParts ++ [leBytes 4 instruction.data.length, instruction.data])
      else .error lengthError := by
  simp only [instructionParts, u32le_bind, encodable_toProgram]
  by_cases accounts : instruction.accounts.length < 2 ^ 32
  · by_cases data : instruction.data.length < 2 ^ 32
    · rw [if_pos accounts, if_pos data, if_pos ⟨accounts, data⟩]
      rfl
    · rw [if_pos accounts, if_neg data, if_neg (fun all => data all.2)]
  · rw [if_neg accounts, if_neg (fun all => accounts all.1)]
theorem jupiterSuffixCommitmentPreimage_eq (suffix : List CommittedInstruction) :
    jupiterSuffixCommitmentPreimage suffix =
      if suffix.length < 2 ^ 32 ∧ ∀ instruction ∈ suffix, Encodable instruction.toProgram then
        .ok (JUPITER_SUFFIX_COMMITMENT_DOMAIN ++ (leBytes 4 suffix.length ++
          (suffix.map CommittedInstruction.toProgram).flatMap instruction_bytes))
      else .error lengthError := by
  simp only [jupiterSuffixCommitmentPreimage, u32le_bind, mapM_checked instructionParts_eq]
  have bodies : (suffix.map (fun instruction =>
      [instruction.programAddress.key.bytes, leBytes 4 instruction.accounts.length] ++
        instruction.accounts.flatMap accountParts ++
        [leBytes 4 instruction.data.length, instruction.data])).flatten.flatten =
      (suffix.map CommittedInstruction.toProgram).flatMap instruction_bytes := by
    induction suffix with
    | nil => rfl
    | cons instruction rest ih =>
      rw [List.map_cons, List.flatten_cons, List.flatten_append, ih, flatten_instructionParts, List.map_cons,
        List.flatMap_cons]
  by_cases count : suffix.length < 2 ^ 32
  · by_cases encodable : ∀ instruction ∈ suffix, Encodable instruction.toProgram
    · rw [if_pos count, if_pos encodable, if_pos ⟨count, encodable⟩, ok_bind, List.flatten_append, bodies]
      simp only [List.flatten_cons, List.flatten_nil, List.append_nil, List.append_assoc]
      rfl
    · rw [if_pos count, if_neg encodable, if_neg (fun all => encodable all.2), error_bind]
  · rw [if_neg count, if_neg (fun all => count all.1)]

/-! ### The encoding is delimited -/

theorem delimited_u32 : Delimited (leBytes 4) (· < 2 ^ 32) :=
  delimited_of_length 4 (leBytes_length 4) (fun _ _ leftFits rightFits => leBytes_injective leftFits rightFits)
theorem delimited_key : Delimited (fun key : Key => key.bytes) (fun _ => True) :=
  delimited_of_length 32 (fun key => key.size_eq) (fun _ _ _ _ => Chunk.ext)
theorem delimited_account : Delimited account_bytes (fun _ => True) := by
  have flags : Delimited (fun flags : Bool × Bool => [flags.1.toUInt8, flags.2.toUInt8]) (fun _ => True) :=
    delimited_of_length 2 (fun _ => rfl) (by decide)
  have fields : Function.Injective (fun account : AccountMeta => (account.pubkey, account.is_signer, account.is_writable)) := by
    intro left right same
    simp only [Prod.mk.injEq] at same
    exact AccountMeta.ext same.1 same.2.1 same.2.2
  intro left right leftRest rightRest _ _ same
  exact (delimited_key.append flags).comap fields left right leftRest rightRest ⟨trivial, trivial⟩ ⟨trivial, trivial⟩ same
theorem delimited_instruction : Delimited instruction_bytes Encodable := by
  have fields : Function.Injective (fun instruction : Instruction =>
      (instruction.program_id, instruction.accounts, instruction.data)) := by
    intro left right same
    simp only [Prod.mk.injEq] at same
    exact Instruction.ext same.1 same.2.1 same.2.2
  intro left right leftRest rightRest leftFits rightFits same
  refine (delimited_key.append ((delimited_u32.counted delimited_account).append delimited_u32.sized)).comap fields
    left right leftRest rightRest ⟨trivial, ⟨leftFits.1, fun _ _ => trivial⟩, leftFits.2⟩
    ⟨trivial, ⟨rightFits.1, fun _ _ => trivial⟩, rightFits.2⟩ ?_
  simpa only [instruction_bytes, List.append_assoc] using same
theorem domains_differ (left right : List UInt8) :
    DOWNSTREAM_COMMITMENT_DOMAIN ++ left ≠ JUPITER_SUFFIX_COMMITMENT_DOMAIN ++ right := by
  intro same
  -- the texts part at the thirteenth letter
  have heads := congrArg (List.take 13) same
  rw [List.take_append_of_le_length (by decide), List.take_append_of_le_length (by decide)] at heads
  exact absurd heads (by decide)

theorem jupiter_suffix_encoded_injective {left right : List Instruction} {bytes : List UInt8}
    (leftEncoded : jupiter_suffix_encoded left = .ok bytes) (rightEncoded : jupiter_suffix_encoded right = .ok bytes) :
    left = right := by
  rw [jupiter_suffix_encoded_eq] at leftEncoded rightEncoded
  split at leftEncoded
  · split at rightEncoded
    · rename_i leftFits rightFits
      have same := (Except.ok.inj leftEncoded).trans (Except.ok.inj rightEncoded).symm
      exact (delimited_u32.counted delimited_instruction).injective leftFits rightFits (List.append_cancel_left same)
    · cases rightEncoded
  · cases leftEncoded
theorem jupiterSuffixCommitmentPreimage_eq_ok {suffix : List CommittedInstruction} {bytes : List UInt8} :
    jupiterSuffixCommitmentPreimage suffix = .ok bytes ↔
      jupiter_suffix_encoded (suffix.map CommittedInstruction.toProgram) = .ok bytes := by
  rw [jupiter_suffix_encoded_eq, jupiterSuffixCommitmentPreimage_eq, List.length_map]
  simp only [List.forall_mem_map]
  split <;> simp
/-- Preimages determine what they commit to, belong to one kind, and are the same bytes in both languages. -/
theorem commitment_preimages_correct :
    (∀ suffix : List Instruction, (∃ bytes, jupiter_suffix_encoded suffix = .ok bytes) ↔
      suffix.length < 2 ^ 32 ∧ ∀ instruction ∈ suffix, Encodable instruction) ∧
    (∀ left right : List Instruction, ∀ bytes, jupiter_suffix_encoded left = .ok bytes →
      jupiter_suffix_encoded right = .ok bytes → left = right) ∧
    (∀ instruction : Instruction,
      (∃ bytes, downstream_encoded instruction.program_id instruction.accounts instruction.data = .ok bytes) ↔
        Encodable instruction) ∧
    (∀ left right : Instruction, ∀ bytes, downstream_encoded left.program_id left.accounts left.data = .ok bytes →
      downstream_encoded right.program_id right.accounts right.data = .ok bytes → left = right) ∧
    (∀ (single : Instruction) (suffix : List Instruction) bytes,
      downstream_encoded single.program_id single.accounts single.data = .ok bytes →
      jupiter_suffix_encoded suffix ≠ .ok bytes) ∧
    (∀ (instruction : CommittedInstruction) bytes, downstreamCommitmentPreimage instruction = .ok bytes ↔
      downstream_encoded instruction.toProgram.program_id instruction.toProgram.accounts instruction.toProgram.data =
        .ok bytes) ∧
    (∀ (suffix : List CommittedInstruction) bytes, jupiterSuffixCommitmentPreimage suffix = .ok bytes ↔
      jupiter_suffix_encoded (suffix.map CommittedInstruction.toProgram) = .ok bytes) := by
  refine ⟨?_, ?_, ?_, ?_, ?_, ?_, ?_⟩
  · intro suffix
    rw [jupiter_suffix_encoded_eq]
    split <;> simp_all
  · intro left right bytes leftEncoded rightEncoded
    exact jupiter_suffix_encoded_injective leftEncoded rightEncoded
  · intro instruction
    rw [downstream_encoded_eq]
    split <;> simp_all
  · intro left right bytes leftEncoded rightEncoded
    rw [downstream_encoded_eq] at leftEncoded rightEncoded
    split at leftEncoded
    · split at rightEncoded
      · rename_i leftFits rightFits
        have same := (Except.ok.inj leftEncoded).trans (Except.ok.inj rightEncoded).symm
        exact delimited_instruction.injective leftFits rightFits (List.append_cancel_left same)
      · cases rightEncoded
    · cases leftEncoded
  · intro single suffix bytes singleEncoded suffixEncoded
    rw [downstream_encoded_eq] at singleEncoded
    rw [jupiter_suffix_encoded_eq] at suffixEncoded
    split at singleEncoded
    · split at suffixEncoded
      · exact domains_differ _ _ ((Except.ok.inj singleEncoded).trans (Except.ok.inj suffixEncoded).symm)
      · cases suffixEncoded
    · cases singleEncoded
  · intro instruction bytes
    rw [downstream_encoded_eq, downstreamCommitmentPreimage_eq]
    split <;> simp
  · intro suffix bytes
    exact jupiterSuffixCommitmentPreimage_eq_ok

end EquityGuard.Commitments
