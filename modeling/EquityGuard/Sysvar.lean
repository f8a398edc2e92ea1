import EquityGuard.Framing
import EquityGuard.Transaction

/-!
In-place reads of top-level instructions from the Instructions sysvar, and the
layout they read, written out as a serializer.
-/
namespace EquityGuard.Sysvar
open EquityGuard.Addresses EquityGuard.Bytes EquityGuard.Framing EquityGuard.Transaction

def ACCOUNT_META_LEN : Nat := 33
def IS_SIGNER : UInt8 := 0b01
def IS_WRITABLE : UInt8 := 0b10

/-- A top-level instruction borrowed from the sysvar's account data. -/
structure InstructionRef where
  program_id : Key
  accounts_bytes : List UInt8
  data : List UInt8

/-- One account of a borrowed instruction, from its flags byte and key. -/
def account_ref (bytes : List UInt8) : Option AccountMeta :=
  match bytes with
  | [] => none
  | flags :: pubkey => do
    return { pubkey := ← first_chunk 32 pubkey
             is_signer := flags &&& IS_SIGNER ≠ 0
             is_writable := flags &&& IS_WRITABLE ≠ 0 }

namespace InstructionRef

def account_count (instruction : InstructionRef) : Nat := instruction.accounts_bytes.length / ACCOUNT_META_LEN
def account (instruction : InstructionRef) (index : Nat) : Option AccountMeta := do
  let bytes ← get_from (index * ACCOUNT_META_LEN) instruction.accounts_bytes
  let account ← first_chunk ACCOUNT_META_LEN bytes
  account_ref account.bytes
def accounts (instruction : InstructionRef) : List AccountMeta :=
  ((List.range (instruction.accounts_bytes.length / ACCOUNT_META_LEN)).map (fun index =>
    (instruction.accounts_bytes.drop (index * ACCOUNT_META_LEN)).take ACCOUNT_META_LEN)).filterMap account_ref

end InstructionRef

def instruction_count (data : List UInt8) : Option Nat :=
  (first_chunk 2 data).map (fun count => (u16_from_le_bytes count).toNat)
/-- The instruction whose encoding starts a slice. -/
def instruction_from (body : List UInt8) : Option InstructionRef := do
  let (account_count, body) ← split_first_chunk 2 body
  let (accounts_bytes, body) ← split_at_checked ((u16_from_le_bytes account_count).toNat * ACCOUNT_META_LEN) body
  let (program_id, body) ← split_first_chunk 32 body
  let (data_len, body) ← split_first_chunk 2 body
  let (data, _) ← split_at_checked (u16_from_le_bytes data_len).toNat body
  return { program_id, accounts_bytes, data }
def instruction_at (data : List UInt8) (index : Nat) : Option InstructionRef := do
  let count ← instruction_count data
  if index ≥ count then none
  else do
    let offset ← first_chunk 2 (← get_from (index * 2 + 2) data)
    instruction_from (← get_from (u16_from_le_bytes offset).toNat data)

/-! ### The layout -/

def flags_of (is_signer is_writable : Bool) : UInt8 :=
  (if is_signer then IS_SIGNER else 0) ||| (if is_writable then IS_WRITABLE else 0)
def account_bytes (account : AccountMeta) : List UInt8 :=
  flags_of account.is_signer account.is_writable :: account.pubkey.bytes
def body (instruction : Instruction) : List UInt8 :=
  leBytes 2 instruction.accounts.length ++ (instruction.accounts.flatMap account_bytes ++
    (instruction.program_id.bytes ++ (leBytes 2 instruction.data.length ++ instruction.data)))
/-- Where each body starts, the first one at `start`. -/
def offsets (start : Nat) : List Instruction → List Nat
  | [] => []
  | instruction :: rest => start :: offsets (start + (body instruction).length) rest
/-- The sysvar's data for these top-level instructions while the one at `current` executes. -/
def serialize (instructions : List Instruction) (current : Nat) : List UInt8 :=
  leBytes 2 instructions.length ++ ((offsets (2 + 2 * instructions.length) instructions).flatMap (leBytes 2) ++
    (instructions.flatMap body ++ leBytes 2 current))
/-- The counts, lengths and offsets that the `u16` fields can hold. -/
def Fits (instructions : List Instruction) : Prop :=
  instructions.length < 2 ^ 16 ∧
  (∀ instruction ∈ instructions, instruction.accounts.length < 2 ^ 16 ∧ instruction.data.length < 2 ^ 16) ∧
  ∀ offset ∈ offsets (2 + 2 * instructions.length) instructions, offset < 2 ^ 16
instance (instructions : List Instruction) : Decidable (Fits instructions) := by delta Fits; infer_instance

/-- The borrowed view of an instruction. -/
def borrow (instruction : Instruction) : InstructionRef where
  program_id := instruction.program_id
  accounts_bytes := instruction.accounts.flatMap account_bytes
  data := instruction.data

theorem account_bytes_length (account : AccountMeta) : (account_bytes account).length = ACCOUNT_META_LEN := by
  simp [account_bytes, ACCOUNT_META_LEN]
@[simp] theorem account_ref_bytes (account : AccountMeta) : account_ref (account_bytes account) = some account := by
  obtain ⟨pubkey, signer, writable⟩ := account
  have whole := first_chunk_append pubkey []
  have bits : ∀ signer writable, decide (flags_of signer writable &&& IS_SIGNER ≠ 0) = signer ∧
      decide (flags_of signer writable &&& IS_WRITABLE ≠ 0) = writable := by decide
  obtain ⟨signerBit, writableBit⟩ := bits signer writable
  rw [List.append_nil] at whole
  rw [account_bytes, account_ref, whole, signerBit, writableBit]
  rfl

/-! ### A borrowed instruction shows what was written -/

theorem borrow_account_count (instruction : Instruction) :
    (borrow instruction).account_count = instruction.accounts.length := by
  rw [InstructionRef.account_count, borrow, length_flatMap account_bytes_length]
  exact Nat.mul_div_cancel _ (by decide)
theorem borrow_account (instruction : Instruction) (index : Nat) :
    (borrow instruction).account index = instruction.accounts[index]? := by
  rw [InstructionRef.account, borrow, get_from, length_flatMap account_bytes_length, drop_flatMap account_bytes_length]
  by_cases inside : index < instruction.accounts.length
  · have meta33 : ∀ account : AccountMeta, ∀ rest, first_chunk ACCOUNT_META_LEN (account_bytes account ++ rest) =
        some ⟨account_bytes account, account_bytes_length account⟩ := by
      intro account rest
      exact first_chunk_append ⟨account_bytes account, account_bytes_length account⟩ rest
    rw [if_pos (Nat.mul_le_mul_right _ (Nat.le_of_lt inside)), List.drop_eq_getElem_cons inside, List.flatMap_cons,
      List.getElem?_eq_getElem inside]
    simp only [Option.bind_eq_bind, Option.bind_some, meta33, account_ref_bytes]
  · have beyond : instruction.accounts.drop index = [] := List.drop_eq_nil_of_le (by omega)
    rw [beyond, List.getElem?_eq_none (by omega)]
    split
    · rfl
    · rfl
theorem borrow_accounts (instruction : Instruction) : (borrow instruction).accounts = instruction.accounts := by
  have count : (instruction.accounts.flatMap account_bytes).length / ACCOUNT_META_LEN = instruction.accounts.length := by
    rw [length_flatMap account_bytes_length]
    exact Nat.mul_div_cancel _ (by decide)
  have chunk : ∀ index (inside : index < instruction.accounts.length),
      ((instruction.accounts.flatMap account_bytes).drop (index * ACCOUNT_META_LEN)).take ACCOUNT_META_LEN =
        account_bytes instruction.accounts[index] := by
    intro index inside
    rw [drop_flatMap account_bytes_length, List.drop_eq_getElem_cons inside, List.flatMap_cons]
    exact List.take_left' (account_bytes_length _)
  have chunks : (List.range instruction.accounts.length).map (fun index =>
      ((instruction.accounts.flatMap account_bytes).drop (index * ACCOUNT_META_LEN)).take ACCOUNT_META_LEN) =
      instruction.accounts.map account_bytes := by
    apply List.ext_getElem
    · simp
    · intro index _ inside
      rw [List.getElem_map, List.getElem_range, List.getElem_map]
      exact chunk index (by simpa using inside)
  have read : account_ref ∘ account_bytes = some := funext account_ref_bytes
  rw [InstructionRef.accounts, borrow, count, chunks, List.filterMap_map, read, List.filterMap_some]

/-- A borrowed instruction is the one that was written, by every way to read it. -/
structure Shows (borrowed : InstructionRef) (instruction : Instruction) : Prop where
  program_id : borrowed.program_id = instruction.program_id
  data : borrowed.data = instruction.data
  account_count : borrowed.account_count = instruction.accounts.length
  account : ∀ index, borrowed.account index = instruction.accounts[index]?
  accounts : borrowed.accounts = instruction.accounts
theorem borrow_shows (instruction : Instruction) : Shows (borrow instruction) instruction :=
  ⟨rfl, rfl, borrow_account_count instruction, borrow_account instruction, borrow_accounts instruction⟩

/-! ### Reading what was serialized -/

theorem instruction_count_serialize {instructions : List Instruction} (fits : Fits instructions) (current : Nat) :
    instruction_count (serialize instructions current) = some instructions.length := by
  have small : instructions.length < 256 ^ 2 := fits.1
  rw [instruction_count, serialize]
  show (first_chunk 2 ((leChunk 2 instructions.length).bytes ++ _)).map _ = _
  rw [first_chunk_append, Option.map_some, u16_from_le_bytes_toNat, leNat_leChunk small]
/-- The bytes at a body's offset are that body and the ones after it. -/
theorem drop_offset {instructions : List Instruction} {before : List UInt8} {start index offset : Nat}
    (after : List UInt8) (beginning : before.length = start) (position : (offsets start instructions)[index]? = some offset) :
    (before ++ (instructions.flatMap body ++ after)).drop offset = (instructions.drop index).flatMap body ++ after := by
  induction instructions generalizing before start index with
  | nil => simp [offsets] at position
  | cons instruction rest ih =>
    cases index with
    | zero =>
      simp only [offsets, List.getElem?_cons_zero, Option.some.injEq] at position
      rw [← position, ← beginning, List.drop_left]
      rfl
    | succ index =>
      rw [offsets, List.getElem?_cons_succ] at position
      have later := @ih (before ++ body instruction) _ index (by rw [List.length_append, beginning]) position
      rw [List.append_assoc] at later
      rw [List.flatMap_cons, List.append_assoc, later, List.drop_succ_cons]
theorem offsets_length (start : Nat) (instructions : List Instruction) :
    (offsets start instructions).length = instructions.length := by
  induction instructions generalizing start with
  | nil => rfl
  | cons instruction rest ih => rw [offsets, List.length_cons, ih, List.length_cons]
theorem instruction_from_body {instruction : Instruction} (accounts : instruction.accounts.length < 2 ^ 16)
    (data : instruction.data.length < 2 ^ 16) (after : List UInt8) :
    instruction_from (body instruction ++ after) = some (borrow instruction) := by
  have countRead : (u16_from_le_bytes (leChunk 2 instruction.accounts.length)).toNat = instruction.accounts.length := by
    rw [u16_from_le_bytes_toNat, leNat_leChunk accounts]
  have lengthRead : (u16_from_le_bytes (leChunk 2 instruction.data.length)).toNat = instruction.data.length := by
    rw [u16_from_le_bytes_toNat, leNat_leChunk data]
  have size := length_flatMap account_bytes_length instruction.accounts
  have layout : body instruction ++ after = (leChunk 2 instruction.accounts.length).bytes ++
      (instruction.accounts.flatMap account_bytes ++ (instruction.program_id.bytes ++
        ((leChunk 2 instruction.data.length).bytes ++ (instruction.data ++ after)))) := by
    simp only [body, List.append_assoc]
    rfl
  rw [layout, instruction_from, split_first_chunk_append]
  simp only [Option.bind_eq_bind, Option.bind_some, countRead, ← size, split_at_checked_append,
    split_first_chunk_append, lengthRead]
  rfl
/-- The offset table, entry by entry. -/
theorem table_serialize {instructions : List Instruction} {index offset : Nat} (current : Nat)
    (position : (offsets (2 + 2 * instructions.length) instructions)[index]? = some offset) :
    ∃ rest, get_from (index * 2 + 2) (serialize instructions current) = some ((leChunk 2 offset).bytes ++ rest) := by
  obtain ⟨inside, offsetEq⟩ := List.getElem?_eq_some_iff.mp position
  have table := drop_flatMap (leBytes_length 2) (offsets (2 + 2 * instructions.length) instructions) index
  rw [List.drop_eq_getElem_cons inside, List.flatMap_cons, offsetEq] at table
  have room : index * 2 ≤ ((offsets (2 + 2 * instructions.length) instructions).flatMap (leBytes 2)).length := by
    rw [length_flatMap (leBytes_length 2)]
    omega
  have dropped : (serialize instructions current).drop (index * 2 + 2) = (leChunk 2 offset).bytes ++
      (((offsets (2 + 2 * instructions.length) instructions).drop (index + 1)).flatMap (leBytes 2) ++
        (instructions.flatMap body ++ leBytes 2 current)) := by
    rw [serialize, Nat.add_comm, ← List.drop_drop, List.drop_left' (leBytes_length 2 _),
      List.drop_append_of_le_length room, table, List.append_assoc]
    rfl
  exact ⟨_, get_from_of_drop dropped (by simp [leChunk, leBytes])⟩
/-- The body an offset points at. -/
theorem body_serialize {instructions : List Instruction} {index offset : Nat} (current : Nat)
    (position : (offsets (2 + 2 * instructions.length) instructions)[index]? = some offset)
    (inside : index < instructions.length) :
    ∃ rest, get_from offset (serialize instructions current) = some (body instructions[index] ++ rest) := by
  have start : (leBytes 2 instructions.length ++
      (offsets (2 + 2 * instructions.length) instructions).flatMap (leBytes 2)).length =
      2 + 2 * instructions.length := by
    rw [List.length_append, leBytes_length, length_flatMap (leBytes_length 2), offsets_length, Nat.mul_comm]
  have dropped := drop_offset (leBytes 2 current) start position
  rw [List.drop_eq_getElem_cons inside, List.flatMap_cons, List.append_assoc, List.append_assoc] at dropped
  exact ⟨_, get_from_of_drop dropped (by simp [body, leBytes])⟩
theorem instruction_at_serialize {instructions : List Instruction} (fits : Fits instructions) (current index : Nat) :
    instruction_at (serialize instructions current) index = (instructions[index]?).map borrow := by
  rw [instruction_at, instruction_count_serialize fits]
  simp only [Option.bind_eq_bind, Option.bind_some]
  by_cases inside : index < instructions.length
  swap
  · rw [if_pos (by omega), List.getElem?_eq_none (by omega)]
    rfl
  have position : index < (offsets (2 + 2 * instructions.length) instructions).length := by
    rw [offsets_length]
    exact inside
  have found := List.getElem?_eq_getElem position
  have small : (offsets (2 + 2 * instructions.length) instructions)[index] < 256 ^ 2 :=
    fits.2.2 _ (List.getElem_mem position)
  obtain ⟨accounts, data⟩ := fits.2.1 _ (List.getElem_mem inside)
  obtain ⟨tableRest, tableRead⟩ := table_serialize current found
  obtain ⟨bodyRest, bodyRead⟩ := body_serialize current found inside
  rw [if_neg (by omega), tableRead, Option.bind_some, first_chunk_append, Option.bind_some, u16_from_le_bytes_toNat,
    leNat_leChunk small, bodyRead, Option.bind_some, instruction_from_body accounts data, List.getElem?_eq_getElem inside]
  rfl

/-! ### Whatever the bytes are -/

/-- Where an instruction was read: its offset is the entry of the table at `index`, and its parts lie one after the
    other from there, all inside the input. -/
structure ReadFrom (input : List UInt8) (index : Nat) (instruction : InstructionRef) (offset account_count data_len : Chunk 2)
    (table before after : List UInt8) : Prop where
  entry : input.drop (index * 2 + 2) = offset.bytes ++ table
  input_eq : input = before ++ (account_count.bytes ++ (instruction.accounts_bytes ++ (instruction.program_id.bytes ++
    (data_len.bytes ++ (instruction.data ++ after)))))
  start : before.length = (u16_from_le_bytes offset).toNat
  accounts_length : instruction.accounts_bytes.length = (u16_from_le_bytes account_count).toNat * ACCOUNT_META_LEN
  data_length : instruction.data.length = (u16_from_le_bytes data_len).toNat
theorem instruction_at_read {input : List UInt8} {index : Nat} {instruction : InstructionRef}
    (read : instruction_at input index = some instruction) : ∃ offset account_count data_len table before after,
      ReadFrom input index instruction offset account_count data_len table before after := by
  unfold instruction_at at read
  obtain ⟨count, _, read⟩ := Option.bind_eq_some_iff.mp read
  split at read
  · cases read
  · obtain ⟨entries, found, read⟩ := Option.bind_eq_some_iff.mp read
    obtain ⟨offset, taken, read⟩ := Option.bind_eq_some_iff.mp read
    obtain ⟨rest, started, read⟩ := Option.bind_eq_some_iff.mp read
    unfold instruction_from at read
    obtain ⟨⟨account_count, rest⟩, counted, read⟩ := Option.bind_eq_some_iff.mp read
    obtain ⟨⟨accounts_bytes, rest⟩, accounts, read⟩ := Option.bind_eq_some_iff.mp read
    obtain ⟨⟨program_id, rest⟩, program, read⟩ := Option.bind_eq_some_iff.mp read
    obtain ⟨⟨data_len, rest⟩, sized, read⟩ := Option.bind_eq_some_iff.mp read
    obtain ⟨⟨data, after⟩, last, read⟩ := Option.bind_eq_some_iff.mp read
    cases read
    obtain ⟨_, entriesEq⟩ := get_from_eq_some.mp found
    obtain ⟨table, tableEq⟩ := first_chunk_eq_some.mp taken
    obtain ⟨inside, restEq⟩ := get_from_eq_some.mp started
    obtain ⟨accountsEq, accounts_length⟩ := split_at_checked_eq_some.mp accounts
    obtain ⟨dataEq, data_length⟩ := split_at_checked_eq_some.mp last
    have bodyEq := split_first_chunk_eq_some.mp counted
    rw [accountsEq, split_first_chunk_eq_some.mp program, split_first_chunk_eq_some.mp sized, dataEq] at bodyEq
    refine ⟨offset, account_count, data_len, table, input.take (u16_from_le_bytes offset).toNat, after, ?_⟩
    exact {
      entry := entriesEq.symm.trans tableEq
      input_eq := by rw [← bodyEq, restEq, List.take_append_drop]
      start := List.length_take_of_le inside
      accounts_length
      data_length }

namespace InstructionRef

/-- The bytes of accounts are a whole number of entries. -/
def Whole (instruction : InstructionRef) : Prop :=
  instruction.accounts_bytes.length = instruction.account_count * ACCOUNT_META_LEN
def meta_bytes (instruction : InstructionRef) (index : Nat) : List UInt8 :=
  (instruction.accounts_bytes.drop (index * ACCOUNT_META_LEN)).take ACCOUNT_META_LEN

variable {instruction : InstructionRef}

theorem meta_bytes_length (whole : instruction.Whole) {index : Nat} (inside : index < instruction.account_count) :
    (instruction.meta_bytes index).length = ACCOUNT_META_LEN := by
  have room : (index + 1) * ACCOUNT_META_LEN ≤ instruction.account_count * ACCOUNT_META_LEN := Nat.mul_le_mul_right _ inside
  rw [← whole, Nat.add_mul] at room
  rw [meta_bytes, List.length_take, List.length_drop]
  omega
/-- The slice and the chunk of the iterator are the same bytes. -/
theorem account_inside (whole : instruction.Whole) {index : Nat} (inside : index < instruction.account_count) :
    instruction.account index = account_ref (instruction.meta_bytes index) := by
  have length := meta_bytes_length whole inside
  have fits : index * ACCOUNT_META_LEN ≤ instruction.accounts_bytes.length := by
    rw [whole]
    exact Nat.mul_le_mul_right _ inside.le
  have taken : first_chunk ACCOUNT_META_LEN (instruction.accounts_bytes.drop (index * ACCOUNT_META_LEN)) =
      some ⟨instruction.meta_bytes index, length⟩ :=
    first_chunk_eq_some.mpr ⟨_, (List.take_append_drop _ _).symm⟩
  rw [account, get_from, if_pos fits]
  simp only [Option.bind_eq_bind, Option.bind_some, taken]
theorem account_outside (whole : instruction.Whole) {index : Nat} (outside : instruction.account_count ≤ index) :
    instruction.account index = none := by
  have beyond : instruction.accounts_bytes.length ≤ index * ACCOUNT_META_LEN := by
    rw [whole]
    exact Nat.mul_le_mul_right _ outside
  rw [account, get_from, List.drop_eq_nil_of_le beyond]
  split
  · rfl
  · rfl
end InstructionRef
theorem account_ref_some {bytes : List UInt8} (length : bytes.length = ACCOUNT_META_LEN) :
    ∃ account, account_ref bytes = some account := by
  cases bytes with
  | nil => cases length
  | cons flags pubkey =>
    have key : first_chunk 32 pubkey = some ⟨pubkey, by simpa [ACCOUNT_META_LEN] using length⟩ :=
      first_chunk_eq_some.mpr ⟨[], by simp⟩
    simp [account_ref, key]
/-- A conversion that fails on no item keeps the positions. -/
theorem filterMap_total {α β : Type} {convert : α → Option β} {items : List α}
    (total : ∀ item ∈ items, ∃ value, convert item = some value) :
    (items.filterMap convert).map some = items.map convert := by
  induction items with
  | nil => rfl
  | cons item rest ih =>
    obtain ⟨value, converted⟩ := total item List.mem_cons_self
    rw [List.filterMap_cons_some converted, List.map_cons, List.map_cons, converted,
      ih (fun other member => total other (List.mem_cons_of_mem item member))]

namespace InstructionRef
variable {instruction : InstructionRef}

theorem accounts_eq (whole : instruction.Whole) :
    instruction.accounts.map some = (List.range instruction.account_count).map instruction.account := by
  have chunks : instruction.accounts =
      (List.range instruction.account_count).filterMap (fun index => account_ref (instruction.meta_bytes index)) := by
    rw [accounts, List.filterMap_map]
    rfl
  rw [chunks, filterMap_total]
  · refine List.map_congr_left ?_
    intro index member
    exact (account_inside whole (List.mem_range.mp member)).symm
  · intro index member
    exact account_ref_some (meta_bytes_length whole (List.mem_range.mp member))
theorem accounts_length (whole : instruction.Whole) : instruction.accounts.length = instruction.account_count := by
  have lengths := congrArg List.length (accounts_eq whole)
  simpa using lengths
/-- Both ways to the accounts show the same ones. -/
theorem account_eq_getElem? (whole : instruction.Whole) (index : Nat) :
    instruction.account index = instruction.accounts[index]? := by
  by_cases inside : index < instruction.account_count
  · have position := congrArg (fun accounts => accounts[index]?) (accounts_eq whole)
    have bound : index < instruction.accounts.length := by
      rw [accounts_length whole]
      exact inside
    rw [List.getElem?_eq_getElem bound]
    simpa [List.getElem?_range inside, List.getElem?_eq_getElem bound] using position.symm
  · rw [account_outside whole (not_lt.mp inside), List.getElem?_eq_none]
    rw [accounts_length whole]
    exact not_lt.mp inside
end InstructionRef

theorem whole_of_read {input : List UInt8} {index : Nat} {instruction : InstructionRef}
    (read : instruction_at input index = some instruction) : instruction.Whole := by
  obtain ⟨_, _, _, _, _, _, from_input⟩ := instruction_at_read read
  rw [InstructionRef.Whole, InstructionRef.account_count, from_input.accounts_length, Nat.mul_div_cancel _ (by decide)]

/-! ### Transactions that fit -/

theorem body_length (instruction : Instruction) :
    (body instruction).length = 36 + 33 * instruction.accounts.length + instruction.data.length := by
  have accounts : (instruction.accounts.flatMap account_bytes).length = 33 * instruction.accounts.length := by
    rw [Framing.length_flatMap account_bytes_length, ACCOUNT_META_LEN, Nat.mul_comm]
  simp only [body, List.length_append, leBytes_length, accounts, Chunk.size_eq]
  omega
theorem offsets_le (instructions : List Instruction) (start : Nat) :
    ∀ offset ∈ offsets start instructions, offset ≤ start + (instructions.map (fun instruction =>
      (body instruction).length)).sum := by
  induction instructions generalizing start with
  | nil => simp [offsets]
  | cons instruction rest ih =>
    intro offset member
    rw [List.map_cons, List.sum_cons]
    rcases List.mem_cons.mp member with rfl | later
    · omega
    · have bound := ih _ offset later
      omega
/-- What an instruction takes on the wire at least: a program index, two counts, its accounts and data. -/
def wire_size (instruction : Instruction) : Nat := 3 + (instruction.accounts.length + instruction.data.length)
theorem sizes_le (instructions : List Instruction) :
    3 * instructions.length ≤ (instructions.map wire_size).sum ∧
    (instructions.map (fun instruction => (body instruction).length)).sum ≤ 33 * (instructions.map wire_size).sum ∧
    ∀ instruction ∈ instructions, wire_size instruction ≤ (instructions.map wire_size).sum := by
  induction instructions with
  | nil => simp
  | cons instruction rest ih =>
    obtain ⟨count, bodies, each⟩ := ih
    have size : wire_size instruction = 3 + (instruction.accounts.length + instruction.data.length) := rfl
    have length := body_length instruction
    simp only [List.map_cons, List.sum_cons, List.length_cons]
    refine ⟨by omega, by omega, ?_⟩
    intro other member
    rcases List.mem_cons.mp member with rfl | later
    · omega
    · have bound := each other later
      omega
/-- A transaction of at most 1232 bytes has a sysvar whose counts and offsets fit. -/
theorem fits_of_size {instructions : List Instruction} (size : (instructions.map wire_size).sum ≤ 1232) :
    Fits instructions := by
  obtain ⟨count, bodies, each⟩ := sizes_le instructions
  refine ⟨by omega, ?_, ?_⟩
  · intro instruction member
    have bound := each instruction member
    have size : wire_size instruction = 3 + (instruction.accounts.length + instruction.data.length) := rfl
    omega
  · intro offset member
    have bound := offsets_le instructions _ offset member
    omega

end EquityGuard.Sysvar
