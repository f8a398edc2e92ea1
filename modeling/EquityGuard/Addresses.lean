import EquityGuard.Base58
import EquityGuard.Bytes

/-!
Account addresses on the two sides: a 32-byte key in the program, a branded base58
string in the client. The two correspond one to one.
-/
namespace EquityGuard.Addresses
open EquityGuard.Bytes

/-- An address as the program holds it. -/
abbrev Key := Chunk 32

/-- The client's validity test: base58 text of exactly 32 bytes. -/
def isAddress (text : String) : Bool :=
  match Base58.decode text with
  | some bytes => bytes.length == 32
  | none => false
/-- An address as the client holds it: a string that passed `isAddress`. -/
@[ext] structure Address where
  text : String
  valid : isAddress text = true
deriving DecidableEq

namespace Address

/-- The client's address encoder: the 32 bytes the text stands for. -/
def key (address : Address) : Key :=
  ⟨(Base58.decode address.text).getD [], by
    have valid := address.valid
    unfold isAddress at valid
    split at valid
    · rename_i bytes read
      simpa [read] using valid
    · cases valid⟩
/-- The client's address decoder: the text of 32 bytes. -/
def ofKey (key : Key) : Address where
  text := Base58.encode key.bytes
  valid := by simp [isAddress, Base58.decode_encode]

theorem decode_text (address : Address) : Base58.decode address.text = some address.key.bytes := by
  have valid := address.valid
  unfold isAddress at valid
  split at valid
  · rename_i bytes read
    simp [key, read]
  · cases valid
@[simp] theorem key_ofKey (key : Key) : (ofKey key).key = key := by
  ext1
  have read := decode_text (ofKey key)
  rw [ofKey, Base58.decode_encode] at read
  exact (Option.some.inj read).symm
@[simp] theorem ofKey_key (address : Address) : ofKey address.key = address := by
  ext1
  exact Base58.encode_of_decode (decode_text address)
theorem key_injective {left right : Address} (same : left.key = right.key) : left = right := by
  rw [← ofKey_key left, ← ofKey_key right, same]
/-- Comparing texts is comparing keys. -/
theorem key_inj {left right : Address} : left.key = right.key ↔ left = right :=
  ⟨key_injective, congrArg key⟩
theorem text_inj {left right : Address} : left.text = right.text ↔ left = right :=
  ⟨fun same => by ext1; exact same, congrArg text⟩

end Address

/-- `address("...")` of a literal. -/
def address (text : String) (valid : isAddress text = true) : Address := ⟨text, valid⟩
/-- `Address::from_str_const("...")` of a literal. -/
def from_str_const (text : String) (valid : isAddress text = true) : Key := (address text valid).key

/-- The Token-2022 program. -/
def TOKEN_2022_PROGRAM_ID : Key :=
  from_str_const "TokenzQdBNbLqP5VEhdkAS6EPFLC1PHnBqCXEpPxuEb" (by decide +kernel)
/-- The Instructions sysvar. -/
def INSTRUCTIONS_SYSVAR_ID : Key :=
  from_str_const "Sysvar1nstructions1111111111111111111111111" (by decide +kernel)

end EquityGuard.Addresses
