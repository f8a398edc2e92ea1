import EquityGuard.Bytes
import Mathlib.Data.FinEnum

/-!
What the program and its clients rely on of `spl-token-2022-interface` 3.1.1. The
crate is not part of the repository, so its four functions are parameters
(`Interface`), and what is relied on is stated as `Interface.Documented`.
-/
namespace EquityGuard.Token2022
open EquityGuard.Bytes

/-- The extension type codes the crate knows; `0` ends the extension area. -/
abbrev ExtensionType := Fin 29
instance : LawfulBEq ExtensionType := inferInstance

namespace ExtensionType
def TransferFeeConfig : ExtensionType := 1
def ConfidentialTransferMint : ExtensionType := 4
def NonTransferable : ExtensionType := 9
def InterestBearingConfig : ExtensionType := 10
def ConfidentialTransferFeeConfig : ExtensionType := 16
def ConfidentialMintBurn : ExtensionType := 24
def ScaledUiAmount : ExtensionType := 25
end ExtensionType

/-- The fields of a ScaledUiAmount entry after its 32-byte authority. -/
structure ScaledUiAmountConfig where
  multiplier : Chunk 8
  new_multiplier_effective_timestamp : I64
  new_multiplier : Chunk 8

/-- A slice of a fixed-size value. -/
def field {size : Nat} (value : Chunk size) (start width : Nat) (inside : start + width ≤ size) : Chunk width :=
  ⟨(value.bytes.drop start).take width, by simp; omega⟩
/-- The config stored in a 56-byte value. -/
def config_of (value : Chunk 56) : ScaledUiAmountConfig where
  multiplier := field value 32 8 (by omega)
  new_multiplier_effective_timestamp := I64.from_le_bytes (field value 40 8 (by omega))
  new_multiplier := field value 48 8 (by omega)

/-! ### The account layout -/

/-- One entry of the extension area. -/
structure TlvEntry where
  type : ExtensionType
  value : List UInt8
deriving DecidableEq

/-- The base mint: 82 bytes, never a multisig's length, valid option tags, initialized. -/
def BaseMint (data : List UInt8) : Prop :=
  82 ≤ data.length ∧ data.length ≠ 355 ∧
  (leNat (data.take 4) = 0 ∨ leNat (data.take 4) = 1) ∧
  (leNat ((data.drop 46).take 4) = 0 ∨ leNat ((data.drop 46).take 4) = 1) ∧
  data[45]? = some 1
/-- A bare mint, or one padded with zeros to the account type of a mint. -/
def MintArea (data : List UInt8) : Prop :=
  data.length = 82 ∨
  (166 ≤ data.length ∧ (∀ byte ∈ (data.drop 82).take 83, byte = 0) ∧ data[165]? = some 1)
instance (data : List UInt8) : Decidable (BaseMint data) := by delta BaseMint; infer_instance
instance (data : List UInt8) : Decidable (MintArea data) := by delta MintArea; infer_instance

/-- The entries of an extension area. Fewer than two bytes or a zero type end it;
    an unknown type, a missing length or a value past the end refuse it. -/
def tlv_entries (rest : List UInt8) : Option (List TlvEntry) :=
  if rest.length < 2 then some []
  else if leNat (rest.take 2) = 0 then some []
  else if known : leNat (rest.take 2) < 29 then
    if rest.length < 4 then none
    else if rest.length < 4 + leNat ((rest.drop 2).take 2) then none
    else (tlv_entries (rest.drop (4 + leNat ((rest.drop 2).take 2)))).map
      (⟨⟨leNat (rest.take 2), known⟩, (rest.drop 4).take (leNat ((rest.drop 2).take 2))⟩ :: ·)
  else none
termination_by rest.length
decreasing_by simp; omega

/-- The combinations of extensions that Token-2022 forbids on a mint. -/
def Forbidden (types : List ExtensionType) : Prop :=
  (.ConfidentialTransferFeeConfig ∈ types ∧
    ¬ (.TransferFeeConfig ∈ types ∧ .ConfidentialTransferMint ∈ types)) ∨
  (.TransferFeeConfig ∈ types ∧ .ConfidentialTransferMint ∈ types ∧ .ConfidentialTransferFeeConfig ∉ types) ∨
  (.ConfidentialMintBurn ∈ types ∧ .ConfidentialTransferMint ∉ types) ∨
  (.ScaledUiAmount ∈ types ∧ .InterestBearingConfig ∈ types) ∨
  (.NonTransferable ∈ types ∧ .ConfidentialTransferMint ∈ types ∧ .ConfidentialMintBurn ∉ types)
instance (types : List ExtensionType) : Decidable (Forbidden types) := by delta Forbidden; infer_instance

/-- The config in the first ScaledUiAmount entry, which must have exactly its size. -/
def first_config (entries : List TlvEntry) : Option ScaledUiAmountConfig :=
  (entries.find? (fun entry => decide (entry.type = .ScaledUiAmount))).bind
    (fun entry => if size : entry.value.length = 56 then some (config_of ⟨entry.value, size⟩) else none)

/-! ### The crate -/

/-- The crate's functions; every caller discards the reason of a failure. A
    `StateWithExtensions` is represented by its extension area. -/
structure Interface where
  unpack : List UInt8 → Option (List UInt8)
  get_extension_types : List UInt8 → Option (List ExtensionType)
  check_for_invalid_mint_extension_combinations : List ExtensionType → Option Unit
  get_extension : List UInt8 → Option ScaledUiAmountConfig

/-- What the crate's layout documentation promises of these functions. -/
structure Interface.Documented (token : Interface) : Prop where
  unpack_eq : ∀ data, token.unpack data = if BaseMint data ∧ MintArea data then some (data.drop 166) else none
  types_eq : ∀ area, token.get_extension_types area = (tlv_entries area).map (List.map TlvEntry.type)
  combinations_eq : ∀ types,
    token.check_for_invalid_mint_extension_combinations types = if Forbidden types then none else some ()
  extension_eq : ∀ area entries, tlv_entries area = some entries → token.get_extension area = first_config entries

/-- The documented functions themselves. -/
def documented : Interface where
  unpack data := if BaseMint data ∧ MintArea data then some (data.drop 166) else none
  get_extension_types area := (tlv_entries area).map (List.map TlvEntry.type)
  check_for_invalid_mint_extension_combinations types := if Forbidden types then none else some ()
  get_extension area := (tlv_entries area).bind first_config

theorem documented_correct : documented.Documented where
  unpack_eq _ := rfl
  types_eq _ := rfl
  combinations_eq _ := rfl
  extension_eq area entries walked := by simp [documented, walked]

end EquityGuard.Token2022
