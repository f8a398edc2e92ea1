import Mathlib.Data.List.Basic
import Mathlib.Tactic.Ring

/-!
Byte strings as the two languages handle them: little-endian numbers, fixed-size
arrays taken from the front of a slice, and 64-bit signed integers with checked
arithmetic. Nothing here knows what the bytes mean.
-/
namespace EquityGuard.Bytes

/-! ### Little-endian numbers -/

/-- The number with the given little-endian bytes. -/
def leNat : List UInt8 → Nat
  | [] => 0
  | byte :: rest => byte.toNat + 256 * leNat rest
/-- The `width` little-endian bytes of a number; what lies above them is dropped. -/
def leBytes : Nat → Nat → List UInt8
  | 0, _ => []
  | width + 1, value => UInt8.ofNat value :: leBytes width (value / 256)

@[simp] theorem leBytes_length (width value : Nat) : (leBytes width value).length = width := by
  induction width generalizing value with
  | zero => rfl
  | succ width ih => simp [leBytes, ih]
theorem leNat_lt (bytes : List UInt8) : leNat bytes < 256 ^ bytes.length := by
  induction bytes with
  | nil => simp [leNat]
  | cons byte rest ih =>
    have small := byte.toNat_lt
    rw [leNat, List.length_cons, pow_succ]
    omega
theorem leNat_leBytes (width value : Nat) : leNat (leBytes width value) = value % 256 ^ width := by
  induction width generalizing value with
  | zero => simp [leBytes, leNat, Nat.mod_one]
  | succ width ih =>
    have head : (UInt8.ofNat value).toNat = value % 256 := by simp
    rw [leBytes, leNat, ih, head, pow_succ', Nat.mod_mul]
theorem leNat_leBytes_of_lt {width value : Nat} (fits : value < 256 ^ width) :
    leNat (leBytes width value) = value := by
  rw [leNat_leBytes, Nat.mod_eq_of_lt fits]
theorem leBytes_leNat (bytes : List UInt8) : leBytes bytes.length (leNat bytes) = bytes := by
  induction bytes with
  | nil => rfl
  | cons byte rest ih =>
    have small := byte.toNat_lt
    have quotient : leNat (byte :: rest) / 256 = leNat rest := by rw [leNat]; omega
    have head : UInt8.ofNat (leNat (byte :: rest)) = byte := by
      apply UInt8.toNat_inj.mp
      rw [leNat]
      simp
    rw [List.length_cons, leBytes, quotient, ih, head]
theorem leNat_injective {left right : List UInt8} (sameLength : left.length = right.length)
    (same : leNat left = leNat right) : left = right := by
  rw [← leBytes_leNat left, ← leBytes_leNat right, sameLength, same]
/-- Writing a number drops what does not fit. -/
theorem leBytes_mod (width value : Nat) : leBytes width (value % 256 ^ width) = leBytes width value := by
  apply leNat_injective
  · rw [leBytes_length, leBytes_length]
  · rw [leNat_leBytes, leNat_leBytes, Nat.mod_mod]
theorem leBytes_injective {width left right : Nat} (leftFits : left < 256 ^ width)
    (rightFits : right < 256 ^ width) (same : leBytes width left = leBytes width right) : left = right := by
  rw [← leNat_leBytes_of_lt leftFits, ← leNat_leBytes_of_lt rightFits, same]

/-! ### Fixed-size arrays -/

/-- A byte array of exactly `size` bytes. -/
@[ext] structure Chunk (size : Nat) where
  bytes : List UInt8
  size_eq : bytes.length = size
deriving DecidableEq

attribute [simp] Chunk.size_eq

theorem zeros_size : (List.replicate 32 (0 : UInt8)).length = 32 := List.length_replicate

/-- The first `size` bytes of a slice, if it has that many. -/
def first_chunk (size : Nat) (slice : List UInt8) : Option (Chunk size) :=
  if fits : size ≤ slice.length then some ⟨slice.take size, by simp [fits]⟩ else none
/-- The first `size` bytes of a slice and what follows them. -/
def split_first_chunk (size : Nat) (slice : List UInt8) : Option (Chunk size × List UInt8) :=
  (first_chunk size slice).map (fun head => (head, slice.drop size))
/-- A slice cut at a position inside it. -/
def split_at_checked (position : Nat) (slice : List UInt8) : Option (List UInt8 × List UInt8) :=
  if position ≤ slice.length then some (slice.take position, slice.drop position) else none
/-- The part of a slice from a position on, which may be its very end. -/
def get_from (start : Nat) (slice : List UInt8) : Option (List UInt8) :=
  if start ≤ slice.length then some (slice.drop start) else none

theorem get_from_of_drop {start : Nat} {slice rest : List UInt8} (dropped : slice.drop start = rest)
    (nonempty : rest ≠ []) : get_from start slice = some rest := by
  have inside : start ≤ slice.length := by
    by_contra beyond
    exact nonempty (dropped.symm.trans (List.drop_eq_nil_of_le (by omega)))
  rw [get_from, if_pos inside, dropped]
theorem first_chunk_append {size : Nat} (head : Chunk size) (rest : List UInt8) :
    first_chunk size (head.bytes ++ rest) = some head := by
  have fits : size ≤ (head.bytes ++ rest).length := by simp
  simp only [first_chunk, fits, ↓reduceDIte, Option.some.injEq]
  ext1
  exact List.take_left' head.size_eq
theorem split_first_chunk_append {size : Nat} (head : Chunk size) (rest : List UInt8) :
    split_first_chunk size (head.bytes ++ rest) = some (head, rest) := by
  simp [split_first_chunk, first_chunk_append, List.drop_left' head.size_eq]
theorem split_first_chunk_eq_some {size : Nat} {slice rest : List UInt8} {head : Chunk size} :
    split_first_chunk size slice = some (head, rest) ↔ slice = head.bytes ++ rest := by
  constructor
  · intro split
    by_cases fits : size ≤ slice.length
    · simp only [split_first_chunk, first_chunk, fits, ↓reduceDIte, Option.map_some, Option.some.injEq,
        Prod.mk.injEq] at split
      obtain ⟨rfl, rfl⟩ := split
      exact (List.take_append_drop size slice).symm
    · simp [split_first_chunk, first_chunk, fits] at split
  · rintro rfl
    exact split_first_chunk_append head rest
theorem exists_chunk {size : Nat} {slice : List UInt8} (fits : size ≤ slice.length) :
    ∃ (head : Chunk size) (rest : List UInt8), slice = head.bytes ++ rest ∧ rest.length = slice.length - size :=
  ⟨⟨slice.take size, List.length_take_of_le fits⟩, slice.drop size, (List.take_append_drop size slice).symm,
    List.length_drop⟩
theorem split_at_checked_append (head rest : List UInt8) :
    split_at_checked head.length (head ++ rest) = some (head, rest) := by
  simp [split_at_checked]

theorem split_at_checked_eq_some {position : Nat} {slice head rest : List UInt8} :
    split_at_checked position slice = some (head, rest) ↔ slice = head ++ rest ∧ head.length = position := by
  constructor
  · intro split
    unfold split_at_checked at split
    split at split
    · rename_i inside
      cases split
      exact ⟨(List.take_append_drop position slice).symm, List.length_take_of_le inside⟩
    · cases split
  · rintro ⟨rfl, rfl⟩
    exact split_at_checked_append head rest
theorem get_from_eq_some {start : Nat} {slice rest : List UInt8} :
    get_from start slice = some rest ↔ start ≤ slice.length ∧ rest = slice.drop start := by
  unfold get_from
  split <;> simp_all [eq_comm]
theorem first_chunk_eq_some {size : Nat} {slice : List UInt8} {head : Chunk size} :
    first_chunk size slice = some head ↔ ∃ rest, slice = head.bytes ++ rest := by
  constructor
  · intro found
    have split : split_first_chunk size slice = some (head, slice.drop size) := by
      rw [split_first_chunk, found]
      rfl
    exact ⟨_, split_first_chunk_eq_some.mp split⟩
  · rintro ⟨rest, rfl⟩
    exact first_chunk_append head rest

/-- The `size` little-endian bytes of a number, as an array. -/
def leChunk (size value : Nat) : Chunk size := ⟨leBytes size value, leBytes_length size value⟩

theorem leNat_leChunk {size value : Nat} (fits : value < 256 ^ size) : leNat (leChunk size value).bytes = value :=
  leNat_leBytes_of_lt fits
theorem leChunk_leNat {size : Nat} (chunk : Chunk size) : leChunk size (leNat chunk.bytes) = chunk := by
  ext1
  have whole := leBytes_leNat chunk.bytes
  rw [chunk.size_eq] at whole
  exact whole
theorem leNat_chunk_lt {size : Nat} (chunk : Chunk size) : leNat chunk.bytes < 256 ^ size := by
  have bound := leNat_lt chunk.bytes
  rwa [chunk.size_eq] at bound

/-- The only byte of a one-byte array. -/
def Chunk.byte (chunk : Chunk 1) : UInt8 := chunk.bytes.head (by rw [← List.length_pos_iff, chunk.size_eq]; omega)
def Chunk.ofByte (byte : UInt8) : Chunk 1 := ⟨[byte], rfl⟩

@[simp] theorem Chunk.byte_ofByte (byte : UInt8) : (Chunk.ofByte byte).byte = byte := rfl
@[simp] theorem Chunk.ofByte_byte (chunk : Chunk 1) : Chunk.ofByte chunk.byte = chunk := by
  ext1
  obtain ⟨only, bytesEq⟩ := List.length_eq_one_iff.mp chunk.size_eq
  simp [Chunk.ofByte, Chunk.byte, bytesEq]

/-! ### Unsigned integers -/

def u16_from_le_bytes (chunk : Chunk 2) : UInt16 := UInt16.ofNat (leNat chunk.bytes)
def u16_to_le_bytes (value : UInt16) : Chunk 2 := leChunk 2 value.toNat
def u32_from_le_bytes (chunk : Chunk 4) : UInt32 := UInt32.ofNat (leNat chunk.bytes)
def u32_to_le_bytes (value : UInt32) : Chunk 4 := leChunk 4 value.toNat
def u64_from_le_bytes (chunk : Chunk 8) : UInt64 := UInt64.ofNat (leNat chunk.bytes)

@[simp] theorem u16_from_le_bytes_toNat (chunk : Chunk 2) : (u16_from_le_bytes chunk).toNat = leNat chunk.bytes :=
  UInt16.toNat_ofNat_of_lt (leNat_chunk_lt chunk)
@[simp] theorem u32_from_le_bytes_toNat (chunk : Chunk 4) : (u32_from_le_bytes chunk).toNat = leNat chunk.bytes :=
  UInt32.toNat_ofNat_of_lt (leNat_chunk_lt chunk)
@[simp] theorem u64_from_le_bytes_toNat (chunk : Chunk 8) : (u64_from_le_bytes chunk).toNat = leNat chunk.bytes :=
  UInt64.toNat_ofNat_of_lt (leNat_chunk_lt chunk)
@[simp] theorem u16_from_to_le_bytes (value : UInt16) : u16_from_le_bytes (u16_to_le_bytes value) = value := by
  apply UInt16.toNat_inj.mp
  rw [u16_from_le_bytes_toNat]
  exact leNat_leChunk value.toNat_lt
@[simp] theorem u32_from_to_le_bytes (value : UInt32) : u32_from_le_bytes (u32_to_le_bytes value) = value := by
  apply UInt32.toNat_inj.mp
  rw [u32_from_le_bytes_toNat]
  exact leNat_leChunk value.toNat_lt
@[simp] theorem u32_to_from_le_bytes (chunk : Chunk 4) : u32_to_le_bytes (u32_from_le_bytes chunk) = chunk := by
  rw [u32_to_le_bytes, u32_from_le_bytes_toNat, leChunk_leNat]

/-! ### 64-bit signed integers -/

/-- The values of `i64`. -/
@[ext] structure I64 where
  value : Int
  lower : -2 ^ 63 ≤ value
  upper : value < 2 ^ 63
deriving DecidableEq

namespace I64

/-- The integer as an `i64`, if it is one. -/
def ofInt? (value : Int) : Option I64 :=
  if inside : -2 ^ 63 ≤ value ∧ value < 2 ^ 63 then some ⟨value, inside.1, inside.2⟩ else none
def checked_add (left right : I64) : Option I64 := ofInt? (left.value + right.value)
def checked_sub (left right : I64) : Option I64 := ofInt? (left.value - right.value)
/-- `i64::from` of a `u32`, which always fits. -/
def ofU32 (value : UInt32) : I64 where
  value := value.toNat
  lower := by omega
  upper := by have := value.toNat_lt; omega

theorem ofInt?_eq_some {value : Int} {result : I64} : ofInt? value = some result ↔ result.value = value := by
  constructor
  · intro made
    by_cases inside : -2 ^ 63 ≤ value ∧ value < 2 ^ 63
    · simp only [ofInt?, inside, and_self, ↓reduceDIte, Option.some.injEq] at made
      rw [← made]
    · simp only [ofInt?, inside, ↓reduceDIte, reduceCtorEq] at made
  · rintro rfl
    simp only [ofInt?, result.lower, result.upper, and_self, ↓reduceDIte]
theorem ofInt?_eq_none {value : Int} : ofInt? value = none ↔ value < -2 ^ 63 ∨ 2 ^ 63 ≤ value := by
  unfold ofInt?
  split <;> rename_i inside
  · simp only [reduceCtorEq, false_iff]
    omega
  · simp only [true_iff]
    omega

/-- Two's complement reading of eight little-endian bytes. -/
def from_le_bytes (chunk : Chunk 8) : I64 :=
  have bound := leNat_chunk_lt chunk
  if positive : leNat chunk.bytes < 2 ^ 63 then ⟨leNat chunk.bytes, by omega, by omega⟩
  else ⟨leNat chunk.bytes - 2 ^ 64, by omega, by omega⟩
/-- The eight little-endian bytes of an `i64` in two's complement. -/
def to_le_bytes (number : I64) : Chunk 8 := leChunk 8 (number.value % 2 ^ 64).toNat

theorem from_le_bytes_value (chunk : Chunk 8) :
    (from_le_bytes chunk).value =
      if leNat chunk.bytes < 2 ^ 63 then (leNat chunk.bytes : Int) else leNat chunk.bytes - 2 ^ 64 := by
  unfold from_le_bytes
  split <;> rfl
@[simp] theorem from_to_le_bytes (number : I64) : from_le_bytes number.to_le_bytes = number := by
  have lower := number.lower
  have upper := number.upper
  have residue : leNat number.to_le_bytes.bytes = (number.value % 2 ^ 64).toNat := leNat_leChunk (by omega)
  ext1
  rw [from_le_bytes_value, residue]
  split <;> omega
@[simp] theorem to_from_le_bytes (chunk : Chunk 8) : (from_le_bytes chunk).to_le_bytes = chunk := by
  have bound := leNat_chunk_lt chunk
  have residue : ((from_le_bytes chunk).value % 2 ^ 64).toNat = leNat chunk.bytes := by
    rw [from_le_bytes_value]
    split <;> omega
  rw [to_le_bytes, residue, leChunk_leNat]

end I64
end EquityGuard.Bytes
