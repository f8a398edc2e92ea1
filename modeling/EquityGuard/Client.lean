import EquityGuard.Addresses
import EquityGuard.Binary64
import EquityGuard.Errors
import Mathlib.Order.Lattice.Nat

/-!
The language the clients are written in, as far as they use it: thrown errors,
typed-array views, and the conversions between numbers, big integers and bytes.
-/
namespace EquityGuard.Client
open EquityGuard.Addresses EquityGuard.Binary64 EquityGuard.Bytes EquityGuard.Errors

/-! ### Errors -/

inductive GuardClientErrorCode where
  | AccountNotFound
  | InvalidClockData
  | InvalidDownstream
  | InvalidExpectedState
  | InvalidExtensionCombination
  | InvalidMintData
  | InvalidMintOwner
  | InvalidMultiplier
  | InvalidProtectionWindow
  | MissingScaledUiAmount
  | UnsupportedJupiterTrade
deriving DecidableEq

inductive CompositionErrorCode where
  | TRANSACTION_TOO_LARGE
  | COMMITMENT_MISMATCH
  | INVALID_COMPUTE_UNIT_LIMIT
  | MISSING_COMPUTE_UNIT_PRICE
  | UNRESOLVABLE_TRANSACTION
deriving DecidableEq

/-- One part of a template literal. Numbers and names are kept as they are: how they print is never read. -/
inductive Piece where
  | text (text : String)
  | number (number : Number)
  | guardError (name : EquityGuardError)
  | code (name : GuardClientErrorCode)
deriving DecidableEq
/-- A message, as the parts it is made of. -/
abbrev Template := List Piece

instance : Coe String Piece := ⟨.text⟩
instance : Coe Number Piece := ⟨.number⟩
instance : Coe EquityGuardError Piece := ⟨.guardError⟩
instance : Coe GuardClientErrorCode Piece := ⟨.code⟩
instance : Coe Address Piece := ⟨fun address => .text address.text⟩
instance : Coe Nat Piece := ⟨fun number => .number (.ofInt number)⟩

/-- Everything the client's functions throw. The last three are not the client's own:
    a `SolanaError` of the kit, a `RangeError` and a `TypeError` of the language. -/
inductive JsError where
  | GuardClientError (code : GuardClientErrorCode) (message : Template) (guardError : Option EquityGuardError)
  | CompositionError (code : CompositionErrorCode) (message : Template)
  | UnsupportedJupiterBuildError (reasons : List Template)
  | JupiterApiError (message : Template)
  | SolanaError
  | RangeError
  | TypeError
deriving DecidableEq

/-- `error instanceof GuardClientError`. -/
def JsError.IsGuardClientError : JsError → Prop
  | .GuardClientError _ _ _ => True
  | _ => False
/-- `error instanceof JupiterApiError`. -/
def JsError.IsJupiterApiError : JsError → Prop
  | .JupiterApiError _ => True
  | _ => False
/-- One of the three classes a composition refuses with. -/
def JsError.IsRefusal : JsError → Prop
  | .GuardClientError _ _ _ | .CompositionError _ _ | .UnsupportedJupiterBuildError _ => True
  | _ => False

/-- The result of a function that may throw. -/
abbrev Js := Except JsError

/-- The code of a `GuardClientError` that mirrors a decoding error of the program. -/
def GuardClientErrorCode.ofProgram? : EquityGuardError → Option GuardClientErrorCode
  | .InvalidMintOwner => some .InvalidMintOwner
  | .InvalidMintData => some .InvalidMintData
  | .MissingScaledUiAmount => some .MissingScaledUiAmount
  | .InvalidExtensionCombination => some .InvalidExtensionCombination
  | .InvalidMultiplier => some .InvalidMultiplier
  | _ => none

/-! ### Numbers -/

/-- `BigInt(number)`. -/
def BigInt : Number → Js Int
  | .finite value => if value.den = 1 then .ok value.num else .error .RangeError
  | _ => .error .RangeError
/-- `ToUint32` and its kin: the integer part modulo `2 ^ width`. -/
def toUint (width : Nat) : Number → Nat
  | .finite value => (value.num.tdiv value.den % 2 ^ width).toNat
  | _ => 0

@[simp] theorem BigInt_ofInt (value : Int) : BigInt (.ofInt value) = .ok value := by
  simp [BigInt, Number.ofInt]
theorem toUint_natCast (width value : Nat) : toUint width (.ofInt value) = value % 2 ^ width := by
  have whole : ((value : Int) : ℚ).num.tdiv (((value : Int) : ℚ).den : Int) = value := by simp
  show (((value : Int) : ℚ).num.tdiv (((value : Int) : ℚ).den : Int) % 2 ^ width).toNat = value % 2 ^ width
  rw [whole]
  exact_mod_cast Int.toNat_natCast (value % 2 ^ width)
theorem toUint_ofNat {width value : Nat} (fits : value < 2 ^ width) : toUint width (.ofInt value) = value := by
  rw [toUint_natCast, Nat.mod_eq_of_lt fits]

/-! ### Typed arrays -/

/-- `width` bytes of a `DataView` at an offset; a view that ends before them throws. -/
def read (width : Nat) (view : List UInt8) (offset : Nat) : Js (Chunk width) :=
  ok_or .RangeError (first_chunk width (view.drop offset))
def getUint16 (view : List UInt8) (offset : Nat) : Js Nat := do return leNat (← read 2 view offset).bytes
def getUint32 (view : List UInt8) (offset : Nat) : Js Nat := do return leNat (← read 4 view offset).bytes
def getBigUint64 (view : List UInt8) (offset : Nat) : Js Nat := do return leNat (← read 8 view offset).bytes
def getBigInt64 (view : List UInt8) (offset : Nat) : Js Int := do
  return (I64.from_le_bytes (← read 8 view offset)).value
def getFloat64 (view : List UInt8) (offset : Nat) : Js Number := do return ofBits (leNat (← read 8 view offset).bytes)
/-- `out.set(bytes, offset)`. -/
def set (out bytes : List UInt8) (offset : Nat) : Js (List UInt8) :=
  if offset + bytes.length ≤ out.length then .ok (out.take offset ++ (bytes ++ out.drop (offset + bytes.length)))
  else .error .RangeError

/-- A read inside the view. -/
theorem read_of_le {width offset : Nat} {view : List UInt8} (inside : offset + width ≤ view.length) :
    read width view offset = .ok ⟨(view.drop offset).take width, by simp; omega⟩ := by
  have fits : width ≤ (view.drop offset).length := by simp; omega
  simp only [read, first_chunk, fits, ↓reduceDIte, ok_or_some]
theorem getUint16_of_le {offset : Nat} {view : List UInt8} (inside : offset + 2 ≤ view.length) :
    getUint16 view offset = .ok (leNat ((view.drop offset).take 2)) := by
  rw [getUint16, read_of_le inside]
  rfl
theorem getUint32_of_le {offset : Nat} {view : List UInt8} (inside : offset + 4 ≤ view.length) :
    getUint32 view offset = .ok (leNat ((view.drop offset).take 4)) := by
  rw [getUint32, read_of_le inside]
  rfl
theorem getBigUint64_of_le {offset : Nat} {view : List UInt8} (inside : offset + 8 ≤ view.length) :
    getBigUint64 view offset = .ok (leNat ((view.drop offset).take 8)) := by
  rw [getBigUint64, read_of_le inside]
  rfl
theorem read_first {width : Nat} (chunk : Chunk width) (after : List UInt8) :
    read width (chunk.bytes ++ after) 0 = .ok chunk := by
  rw [read, List.drop_zero, first_chunk_append, ok_or_some]
theorem read_skip {width size offset : Nat} (head : Chunk size) (rest : List UInt8) :
    read width (head.bytes ++ rest) (offset + size) = read width rest offset := by
  rw [read, read, Nat.add_comm, ← List.drop_drop, List.drop_left' head.size_eq]
/-- Writing in place of as many bytes leaves everything around them. -/
theorem set_append {before old after bytes : List UInt8} {offset : Nat} (start : before.length = offset)
    (same : old.length = bytes.length) :
    set (before ++ (old ++ after)) bytes offset = .ok (before ++ (bytes ++ after)) := by
  subst start
  have inside : before.length + bytes.length ≤ (before ++ (old ++ after)).length := by simp; omega
  have kept : (before ++ (old ++ after)).drop (before.length + bytes.length) = after := by
    rw [List.drop_append, ← same, Nat.add_sub_cancel_left, List.drop_left, List.drop_eq_nil_of_le (by omega)]
    rfl
  rw [set, if_pos inside, List.take_left, kept]
/-- Filling a blank buffer from the left: what is written, then zeros. -/
theorem set_next {written bytes : List UInt8} {offset left : Nat} (rest : Nat) (start : written.length = offset)
    (size : left = bytes.length + rest) :
    set (written ++ List.replicate left 0) bytes offset = .ok ((written ++ bytes) ++ List.replicate rest 0) := by
  have blank : (List.replicate bytes.length (0 : UInt8)).length = bytes.length := List.length_replicate
  rw [size, List.replicate_add, set_append start blank, List.append_assoc]

/-! ### Addresses -/

/-- `getAddressEncoder().encode(text)`. -/
def encodeAddress (text : String) : Js Key :=
  if valid : isAddress text = true then .ok (Address.mk text valid).key else .error .SolanaError

theorem encodeAddress_eq_ok {text : String} {key : Key} :
    encodeAddress text = .ok key ↔ text = (Address.ofKey key).text := by
  constructor
  · intro encoded
    by_cases valid : isAddress text = true
    · simp only [encodeAddress, valid, ↓reduceDIte, Except.ok.injEq] at encoded
      rw [← encoded, Address.ofKey_key]
    · simp only [encodeAddress, valid, reduceCtorEq, ↓reduceDIte, Bool.false_eq_true] at encoded
  · rintro rfl
    simp only [encodeAddress, (Address.ofKey key).valid, ↓reduceDIte, Except.ok.injEq]
    exact Address.key_ofKey key

end EquityGuard.Client
