import EquityGuard.ClientAbi
import EquityGuard.Guard

/-!
The client's fail-closed decoding of a mint account, and its agreement with the
program's on every owner and every byte string.
-/
namespace EquityGuard.ClientMintState
open EquityGuard.Addresses EquityGuard.Bytes EquityGuard.Client EquityGuard.ClientAbi EquityGuard.Errors
open EquityGuard.State (StoredMultiplier decode_protected_state)

theorem isAddress_token2022 : isAddress "TokenzQdBNbLqP5VEhdkAS6EPFLC1PHnBqCXEpPxuEb" = true := by decide +kernel
def TOKEN_2022_PROGRAM_ADDRESS : Address :=
  address "TokenzQdBNbLqP5VEhdkAS6EPFLC1PHnBqCXEpPxuEb" isAddress_token2022

def BASE_MINT_LEN : Nat := 82
def MULTISIG_LEN : Nat := 355
def ACCOUNT_TYPE_OFFSET : Nat := 165
def TLV_START : Nat := ACCOUNT_TYPE_OFFSET + 1
def ACCOUNT_TYPE_MINT : UInt8 := 1
def MINT_AUTHORITY_TAG_OFFSET : Nat := 0
def MINT_DECIMALS_OFFSET : Nat := 44
def MINT_IS_INITIALIZED_OFFSET : Nat := 45
def FREEZE_AUTHORITY_TAG_OFFSET : Nat := 46
def TLV_HEADER_LEN : Nat := 4
def SCALED_UI_AMOUNT_CONFIG_LEN : Nat := 56
def PAUSABLE_CONFIG_LEN : Nat := 33
def PAUSED_OFFSET : Nat := 32

namespace ExtensionType
def Uninitialized : Nat := 0
def TransferFeeConfig : Nat := 1
def ConfidentialTransferMint : Nat := 4
def NonTransferable : Nat := 9
def InterestBearingConfig : Nat := 10
def ConfidentialTransferFeeConfig : Nat := 16
def ConfidentialMintBurn : Nat := 24
def ScaledUiAmount : Nat := 25
def Pausable : Nat := 26
def MaxKnown : Nat := 28
end ExtensionType

structure TlvEntry where
  type : Nat
  length : Nat
  valueOffset : Nat
deriving DecidableEq

/-- `new GuardClientError(code, message)`. -/
def guardClientError (code : GuardClientErrorCode) (message : Template) : JsError := .GuardClientError code message none

def validateCOptionTag (data : List UInt8) (offset : Nat) : Js Unit := do
  let tag ← getUint32 data offset
  refuse_if (tag ≠ 0 ∧ tag ≠ 1) (guardClientError .InvalidMintData ["invalid COption tag"])
def validateBaseMint (data : List UInt8) : Js Unit := do
  refuse_if (data.length < BASE_MINT_LEN ∨ data.length = MULTISIG_LEN)
    (guardClientError .InvalidMintData ["unexpected account length ", data.length])
  validateCOptionTag data MINT_AUTHORITY_TAG_OFFSET
  validateCOptionTag data FREEZE_AUTHORITY_TAG_OFFSET
  refuse_if (data[MINT_IS_INITIALIZED_OFFSET]? ≠ some 1)
    (guardClientError .InvalidMintData ["mint is not initialized"])

/-- The loop of `readTlvEntries`, from an offset on. -/
def readTlvFrom (data : List UInt8) (entries : List TlvEntry) (seen : List Nat) (offset : Nat) : Js (List TlvEntry) :=
  if data.length - offset < 2 then .ok entries
  else do
    let type ← getUint16 data offset
    if type = ExtensionType.Uninitialized then return entries
    else do
      refuse_if (type > ExtensionType.MaxKnown)
        (guardClientError .InvalidMintData ["unknown extension type ", type])
      refuse_if (data.length - offset < TLV_HEADER_LEN) (guardClientError .InvalidMintData ["TLV length truncated"])
      let length ← getUint16 data (offset + 2)
      let valueOffset := offset + TLV_HEADER_LEN
      refuse_if (valueOffset + length > data.length)
        (guardClientError .InvalidMintData ["TLV value overruns account"])
      refuse_if (type ∈ seen) (guardClientError .InvalidMintData ["duplicate extension type ", type])
      readTlvFrom data (entries ++ [⟨type, length, valueOffset⟩]) (type :: seen) (valueOffset + length)
termination_by data.length - offset
decreasing_by simp only [TLV_HEADER_LEN] at *; omega
def readTlvEntries (data : List UInt8) : Js (List TlvEntry) := readTlvFrom data [] [] TLV_START

/-- Owner, base mint, padding, account type and the whole extension area. -/
def parseMintAccount (owner : String) (data : List UInt8) : Js (List TlvEntry) := do
  refuse_if (owner ≠ TOKEN_2022_PROGRAM_ADDRESS.text)
    (guardClientError .InvalidMintOwner ["owner ", owner, " is not Token-2022"])
  validateBaseMint data
  if data.length = BASE_MINT_LEN then return []
  else do
    refuse_if (data.length < TLV_START) (guardClientError .InvalidMintData ["extension header truncated"])
    refuse_if (((data.drop BASE_MINT_LEN).take (ACCOUNT_TYPE_OFFSET - BASE_MINT_LEN)).any (· ≠ 0) = true)
      (guardClientError .InvalidMintData ["non-zero padding before account type"])
    refuse_if (data[ACCOUNT_TYPE_OFFSET]? ≠ some ACCOUNT_TYPE_MINT)
      (guardClientError .InvalidMintData ["account type is not Mint"])
    readTlvEntries data

/-- Token-2022's `check_for_invalid_mint_extension_combinations`. -/
def assertValidMintExtensionCombination (types : List Nat) : Js Unit :=
  refuse_if
    ((ExtensionType.ConfidentialTransferFeeConfig ∈ types ∧
        ¬ (ExtensionType.TransferFeeConfig ∈ types ∧ ExtensionType.ConfidentialTransferMint ∈ types)) ∨
      (ExtensionType.TransferFeeConfig ∈ types ∧ ExtensionType.ConfidentialTransferMint ∈ types ∧
        ExtensionType.ConfidentialTransferFeeConfig ∉ types) ∨
      (ExtensionType.ConfidentialMintBurn ∈ types ∧ ExtensionType.ConfidentialTransferMint ∉ types) ∨
      (ExtensionType.ScaledUiAmount ∈ types ∧ ExtensionType.InterestBearingConfig ∈ types) ∨
      (ExtensionType.NonTransferable ∈ types ∧ ExtensionType.ConfidentialTransferMint ∈ types ∧
        ExtensionType.ConfidentialMintBurn ∉ types))
    (guardClientError .InvalidExtensionCombination ["mint extension set is forbidden by Token-2022"])

/-- `data.slice(start, finish)`. -/
def slice (data : List UInt8) (start finish : Nat) : List UInt8 := (data.drop start).take (finish - start)

/-- `decodeProtectedState` once the account is parsed. -/
def decodeEntries (data : List UInt8) (entries : List TlvEntry) : Js ProtectedState := do
  refuse_if (data.length = BASE_MINT_LEN) (guardClientError .MissingScaledUiAmount ["mint has no extensions"])
  let types := entries.map TlvEntry.type
  let scaledUi ← ok_or (guardClientError .MissingScaledUiAmount ["mint has no ScaledUiAmount extension"])
    (entries.find? (fun entry => decide (entry.type = ExtensionType.ScaledUiAmount)))
  assertValidMintExtensionCombination types
  refuse_if (scaledUi.length ≠ SCALED_UI_AMOUNT_CONFIG_LEN)
    (guardClientError .InvalidMintData ["ScaledUiAmount config has wrong length"])
  let value := scaledUi.valueOffset
  let multiplier := slice data (value + 32) (value + 40)
  let newMultiplier := slice data (value + 48) (value + 56)
  refuse_if (¬ isValidStoredMultiplier multiplier ∨ ¬ isValidStoredMultiplier newMultiplier)
    (guardClientError .InvalidMultiplier ["stored multiplier is not positive and normal"])
  let newMultiplierEffectiveTimestamp ← getBigInt64 data (value + 40)
  return { multiplier, newMultiplier, newMultiplierEffectiveTimestamp }
/-- Decodes the protected state from a mint account's owner and raw data. -/
def decodeProtectedState (owner : String) (data : List UInt8) : Js ProtectedState := do
  let entries ← parseMintAccount owner data
  decodeEntries data entries

/-- Mint facts needed off-chain besides the protected state. -/
structure MintMetadata where
  decimals : Nat
  paused : Option Bool
deriving DecidableEq
/-- Decimals and the flag of the Pausable extension, behind the same checks of the account. -/
def decodeMintMetadata (owner : String) (data : List UInt8) : Js MintMetadata := do
  let entries ← parseMintAccount owner data
  let decimals ← ok_or (guardClientError .InvalidMintData ["decimals missing"]) data[MINT_DECIMALS_OFFSET]?
  match entries.find? (fun entry => decide (entry.type = ExtensionType.Pausable)) with
  | none => return { decimals := decimals.toNat, paused := none }
  | some pausable => do
    refuse_if (pausable.length ≠ PAUSABLE_CONFIG_LEN)
      (guardClientError .InvalidMintData ["Pausable config has wrong length"])
    let flag := data[pausable.valueOffset + PAUSED_OFFSET]?
    refuse_if (flag ≠ some 0 ∧ flag ≠ some 1) (guardClientError .InvalidMintData ["Pausable flag is not a boolean"])
    return { decimals := decimals.toNat, paused := some (decide (flag = some 1)) }

/-! ### The walk over the extension area -/

/-- A function refused with a client error of this code. -/
def Refuses {α : Type} (code : GuardClientErrorCode) (result : Js α) : Prop :=
  ∃ message, result = .error (guardClientError code message)

/-- What an entry says, with its value read from the account. -/
def located (data : List UInt8) (entry : TlvEntry) : Nat × Nat × List UInt8 :=
  (entry.type, entry.length, (data.drop entry.valueOffset).take entry.length)
/-- What the crate's entry says. -/
def content (entry : Token2022.TlvEntry) : Nat × Nat × List UInt8 :=
  (entry.type.val, entry.value.length, entry.value)

theorem readTlvFrom_step (data : List UInt8) (entries : List TlvEntry) (seen : List Nat) (offset : Nat) :
    readTlvFrom data entries seen offset =
      let rest := data.drop offset
      let type := leNat (rest.take 2)
      let length := leNat ((rest.drop 2).take 2)
      if rest.length < 2 then .ok entries
      else if type = 0 then .ok entries
      else if ¬ type < 29 then .error (guardClientError .InvalidMintData ["unknown extension type ", type])
      else if rest.length < 4 then .error (guardClientError .InvalidMintData ["TLV length truncated"])
      else if rest.length < 4 + length then .error (guardClientError .InvalidMintData ["TLV value overruns account"])
      else if type ∈ seen then .error (guardClientError .InvalidMintData ["duplicate extension type ", type])
      else readTlvFrom data (entries ++ [⟨type, length, offset + 4⟩]) (type :: seen) (offset + (4 + length)) := by
  rw [readTlvFrom]
  simp only [List.length_drop, List.drop_drop]
  by_cases ended : data.length - offset < 2
  · rw [if_pos ended, if_pos ended]
  · rw [if_neg ended, if_neg ended, getUint16_of_le (by omega)]
    simp only [ok_bind, refuse_if_bind]
    simp only [ExtensionType.Uninitialized, ExtensionType.MaxKnown, TLV_HEADER_LEN]
    by_cases zero : leNat ((data.drop offset).take 2) = 0
    · simp only [zero, ↓reduceIte]
      rfl
    · have bound : leNat ((data.drop offset).take 2) > 28 ↔ ¬ leNat ((data.drop offset).take 2) < 29 := by omega
      by_cases known : leNat ((data.drop offset).take 2) < 29
      · by_cases short : data.length - offset < 4
        · simp only [zero, bound, known, short, not_true_eq_false, ↓reduceIte]
        · have overrun : offset + (4 + leNat ((data.drop (offset + 2)).take 2)) > data.length ↔
              data.length - offset < 4 + leNat ((data.drop (offset + 2)).take 2) := by omega
          simp only [zero, bound, known, short, not_true_eq_false, ↓reduceIte,
            getUint16_of_le (by omega : offset + 2 + 2 ≤ data.length), ok_bind, overrun, Nat.add_assoc]
      · simp only [zero, bound, known, not_false_eq_true, ↓reduceIte]

/-- The types that may still come: none twice, none seen before. -/
def Fresh (seen : List Nat) (known : List Token2022.TlvEntry) : Prop :=
  (known.map Token2022.TlvEntry.type).Nodup ∧ ∀ entry ∈ known, entry.type.val ∉ seen

theorem fresh_cons {seen : List Nat} {entry : Token2022.TlvEntry} {known : List Token2022.TlvEntry} :
    Fresh seen (entry :: known) ↔ entry.type.val ∉ seen ∧ Fresh (entry.type.val :: seen) known := by
  constructor
  · rintro ⟨nodup, unseen⟩
    rw [List.map_cons, List.nodup_cons] at nodup
    refine ⟨unseen entry List.mem_cons_self, nodup.2, ?_⟩
    intro other member again
    rcases List.mem_cons.mp again with same | before
    · exact nodup.1 (List.mem_map.mpr ⟨other, member, Fin.val_injective same⟩)
    · exact unseen other (List.mem_cons_of_mem _ member) before
  · rintro ⟨unseen, nodup, later⟩
    refine ⟨?_, ?_⟩
    · rw [List.map_cons, List.nodup_cons]
      refine ⟨?_, nodup⟩
      intro again
      obtain ⟨other, member, same⟩ := List.mem_map.mp again
      exact later other member (List.mem_cons.mpr (.inl (congrArg Fin.val same)))
    · intro other member
      rcases List.mem_cons.mp member with rfl | rest
      · exact unseen
      · exact fun before => later other rest (List.mem_cons_of_mem _ before)

/-- The loop's result when the crate finds these entries from here on: the same
    ones after those already read, or a refusal if the crate refuses or a type repeats. -/
def Reads (data : List UInt8) (entries : List TlvEntry) (seen : List Nat) (result : Js (List TlvEntry)) :
    Option (List Token2022.TlvEntry) → Prop
  | some known =>
    (Fresh seen known ∧ ∃ found, result = .ok (entries ++ found) ∧ found.map (located data) = known.map content) ∨
    (¬ Fresh seen known ∧ Refuses .InvalidMintData result)
  | none => Refuses .InvalidMintData result

theorem reads_end (data : List UInt8) (entries : List TlvEntry) (seen : List Nat) :
    Reads data entries seen (.ok entries) (some []) :=
  .inl ⟨⟨List.nodup_nil, by simp⟩, [], by simp, rfl⟩
/-- One entry in front of what the rest of the loop reads. -/
theorem reads_cons {data : List UInt8} {entries : List TlvEntry} {seen : List Nat} {result : Js (List TlvEntry)}
    {rest : Option (List Token2022.TlvEntry)} {entry : TlvEntry} {known : Token2022.TlvEntry}
    (same : located data entry = content known) (unseen : entry.type ∉ seen)
    (reads : Reads data (entries ++ [entry]) (entry.type :: seen) result rest) :
    Reads data entries seen result (rest.map (known :: ·)) := by
  have type : entry.type = known.type.val := congrArg Prod.fst same
  cases rest with
  | none => exact reads
  | some later =>
    rw [type] at reads unseen
    rcases reads with ⟨fresh, found, read, contents⟩ | ⟨stale, refused⟩
    · refine .inl ⟨fresh_cons.mpr ⟨unseen, fresh⟩, entry :: found, ?_, ?_⟩
      · rw [read, List.append_assoc]
        rfl
      · rw [List.map_cons, List.map_cons, same, contents]
    · exact .inr ⟨fun fresh => stale (fresh_cons.mp fresh).2, refused⟩
theorem reads_duplicate {data : List UInt8} {entries : List TlvEntry} {seen : List Nat} {result : Js (List TlvEntry)}
    {known : Token2022.TlvEntry} (refused : Refuses .InvalidMintData result) (again : known.type.val ∈ seen)
    (rest : Option (List Token2022.TlvEntry)) : Reads data entries seen result (rest.map (known :: ·)) := by
  cases rest with
  | none => exact refused
  | some later => exact .inr ⟨fun fresh => (fresh_cons.mp fresh).1 again, refused⟩
theorem readTlvFrom_correct (data : List UInt8) (entries : List TlvEntry) (seen : List Nat) (offset : Nat) :
    Reads data entries seen (readTlvFrom data entries seen offset) (Token2022.tlv_entries (data.drop offset)) := by
  induction size : data.length - offset using Nat.strong_induction_on generalizing entries seen offset with
  | h size ih =>
  rw [readTlvFrom_step, Token2022.tlv_entries]
  simp only
  by_cases ended : (data.drop offset).length < 2
  · simp only [ended, ↓reduceIte]
    exact reads_end data entries seen
  by_cases zero : leNat ((data.drop offset).take 2) = 0
  · simp only [ended, zero, ↓reduceIte]
    exact reads_end data entries seen
  by_cases unknown : ¬ leNat ((data.drop offset).take 2) < 29
  · simp only [ended, zero, unknown, ↓reduceIte, ↓reduceDIte, not_false_eq_true]
    exact ⟨_, rfl⟩
  by_cases short : (data.drop offset).length < 4
  · simp only [ended, zero, not_not.mp unknown, short, ↓reduceIte, ↓reduceDIte, not_true_eq_false]
    exact ⟨_, rfl⟩
  by_cases overrun : (data.drop offset).length < 4 + leNat (((data.drop offset).drop 2).take 2)
  · simp only [ended, zero, not_not.mp unknown, short, overrun, ↓reduceIte, ↓reduceDIte, not_true_eq_false]
    exact ⟨_, rfl⟩
  simp only [ended, zero, not_not.mp unknown, short, overrun, ↓reduceIte, ↓reduceDIte, not_true_eq_false]
  have room : offset + (4 + leNat (((data.drop offset).drop 2).take 2)) ≤ data.length := by
    rw [List.length_drop] at overrun short
    omega
  by_cases again : leNat ((data.drop offset).take 2) ∈ seen
  · simp only [again, ↓reduceIte]
    exact reads_duplicate ⟨_, rfl⟩ again _
  · simp only [again, ↓reduceIte]
    have next := ih (data.length - (offset + (4 + leNat (((data.drop offset).drop 2).take 2)))) (by omega)
      (entries ++ [⟨leNat ((data.drop offset).take 2), leNat (((data.drop offset).drop 2).take 2), offset + 4⟩])
      (leNat ((data.drop offset).take 2) :: seen) (offset + (4 + leNat (((data.drop offset).drop 2).take 2))) rfl
    rw [← List.drop_drop] at next
    refine reads_cons ?_ again next
    rw [located, content, ← List.drop_drop]
    simp only [List.length_take, List.length_drop, Prod.mk.injEq, true_and, and_true]
    omega

/-! ### The layout before the entries -/

theorem validateCOptionTag_eq {data : List UInt8} {offset : Nat} (inside : offset + 4 ≤ data.length) :
    validateCOptionTag data offset =
      if leNat ((data.drop offset).take 4) = 0 ∨ leNat ((data.drop offset).take 4) = 1 then .ok ()
      else .error (guardClientError .InvalidMintData ["invalid COption tag"]) := by
  rw [validateCOptionTag, getUint32_of_le inside, ok_bind, refuse_if]
  by_cases zero : leNat ((data.drop offset).take 4) = 0
  · simp [zero]
  · simp [zero]
theorem validateBaseMint_correct (data : List UInt8) :
    (Token2022.BaseMint data ∧ validateBaseMint data = .ok ()) ∨
    (¬ Token2022.BaseMint data ∧ Refuses .InvalidMintData (validateBaseMint data)) := by
  by_cases size : data.length < BASE_MINT_LEN ∨ data.length = MULTISIG_LEN
  · refine .inr ⟨?_, ?_⟩
    · rintro ⟨long, notMultisig, _⟩
      simp only [BASE_MINT_LEN, MULTISIG_LEN] at size
      omega
    · rw [validateBaseMint, refuse_if_bind, if_pos size]
      exact ⟨_, rfl⟩
  · obtain ⟨long, notMultisig⟩ := not_or.mp size
    simp only [BASE_MINT_LEN, MULTISIG_LEN, not_lt] at long notMultisig
    rw [validateBaseMint, refuse_if_bind, if_neg size,
      validateCOptionTag_eq (by simp only [MINT_AUTHORITY_TAG_OFFSET]; omega),
      validateCOptionTag_eq (by simp only [FREEZE_AUTHORITY_TAG_OFFSET]; omega)]
    simp only [MINT_AUTHORITY_TAG_OFFSET, FREEZE_AUTHORITY_TAG_OFFSET, MINT_IS_INITIALIZED_OFFSET, List.drop_zero,
      Token2022.BaseMint, refuse_if, ne_eq]
    by_cases mintTag : leNat (data.take 4) = 0 ∨ leNat (data.take 4) = 1
    swap
    · exact .inr ⟨fun base => mintTag base.2.2.1, by simp only [mintTag, ↓reduceIte]; exact ⟨_, rfl⟩⟩
    by_cases freezeTag : leNat ((data.drop 46).take 4) = 0 ∨ leNat ((data.drop 46).take 4) = 1
    swap
    · refine .inr ⟨fun base => freezeTag base.2.2.2.1, ?_⟩
      simp only [mintTag, freezeTag, ↓reduceIte, ok_bind]
      exact ⟨_, rfl⟩
    simp only [mintTag, freezeTag, ↓reduceIte, ok_bind]
    by_cases initialized : data[45]? = some 1
    · exact .inl ⟨⟨long, notMultisig, trivial, trivial, initialized⟩, by simp [initialized]⟩
    · refine .inr ⟨fun base => initialized base.2.2.2.2, ?_⟩
      simp only [initialized, not_false_eq_true, ↓reduceIte]
      exact ⟨_, rfl⟩

theorem parseMintAccount_correct (data : List UInt8) :
    ((Token2022.BaseMint data ∧ Token2022.MintArea data) ∧
      Reads data [] [] (parseMintAccount TOKEN_2022_PROGRAM_ADDRESS.text data)
        (Token2022.tlv_entries (data.drop 166))) ∨
    (¬ (Token2022.BaseMint data ∧ Token2022.MintArea data) ∧
      Refuses .InvalidMintData (parseMintAccount TOKEN_2022_PROGRAM_ADDRESS.text data)) := by
  simp only [parseMintAccount, refuse_if_bind, ne_eq, not_true_eq_false, ↓reduceIte]
  rcases validateBaseMint_correct data with ⟨base, checked⟩ | ⟨notBase, message, refused⟩
  swap
  · refine .inr ⟨fun layout => notBase layout.1, message, ?_⟩
    rw [refused, error_bind]
  rw [checked, ok_bind]
  simp only [BASE_MINT_LEN, TLV_START, ACCOUNT_TYPE_OFFSET, ACCOUNT_TYPE_MINT]
  by_cases bare : data.length = 82
  · have noArea : Token2022.tlv_entries (data.drop 166) = some [] := by
      rw [List.drop_eq_nil_of_le (by omega), Token2022.tlv_entries]
      rfl
    rw [noArea]
    simp only [bare, ↓reduceIte]
    exact .inl ⟨⟨base, .inl bare⟩, reads_end data [] []⟩
  simp only [bare, ↓reduceIte]
  by_cases short : data.length < 166
  · refine .inr ⟨?_, ?_⟩
    · rintro ⟨_, same | ⟨long, _⟩⟩ <;> omega
    · simp only [short, ↓reduceIte]
      exact ⟨_, rfl⟩
  by_cases padded : ∀ byte ∈ (data.drop 82).take 83, byte = 0
  swap
  · have dirty : ((data.drop 82).take (165 - 82)).any (· ≠ 0) = true := by
      simpa [List.any_eq_true] using padded
    refine .inr ⟨?_, ?_⟩
    · rintro ⟨_, same | ⟨_, zeros, _⟩⟩
      · exact bare same
      · exact padded zeros
    · simp only [short, dirty, ↓reduceIte]
      exact ⟨_, rfl⟩
  have clean : ((data.drop 82).take (165 - 82)).any (· ≠ 0) = false := by
    simpa [List.any_eq_false] using padded
  by_cases isMint : data[165]? = some 1
  · simp only [short, clean, isMint, not_true_eq_false, Bool.false_eq_true, ↓reduceIte]
    exact .inl ⟨⟨base, .inr ⟨by omega, padded, isMint⟩⟩, readTlvFrom_correct data [] [] 166⟩
  · refine .inr ⟨?_, ?_⟩
    · rintro ⟨_, same | ⟨_, _, mint⟩⟩
      · exact bare same
      · exact isMint mint
    · simp only [short, clean, isMint, Bool.false_eq_true, not_false_eq_true, ↓reduceIte]
      exact ⟨_, rfl⟩

/-! ### Agreement with the program -/

/-- The client returns the program's state, or refuses with the program's error name. -/
def Agrees (program : Checked State.ProtectedState) (client : Js ProtectedState) : Prop :=
  match program with
  | .ok state => client = .ok (ofProtectedState state)
  | .error error => ∃ code, GuardClientErrorCode.ofProgram? error = some code ∧ Refuses code client

theorem mem_types_iff {data : List UInt8} {found : List TlvEntry} {known : List Token2022.TlvEntry}
    (same : found.map (located data) = known.map content) (type : Token2022.ExtensionType) :
    type.val ∈ found.map TlvEntry.type ↔ type ∈ known.map Token2022.TlvEntry.type := by
  have types : found.map TlvEntry.type = (known.map Token2022.TlvEntry.type).map Fin.val := by
    have firsts := congrArg (List.map Prod.fst) same
    rw [List.map_map, List.map_map] at firsts
    rw [List.map_map]
    exact firsts
  rw [types, List.mem_map_of_injective Fin.val_injective]
theorem find_scaledUi {data : List UInt8} {found : List TlvEntry} {known : List Token2022.TlvEntry}
    (same : found.map (located data) = known.map content) :
    (found.find? (fun entry => decide (entry.type = ExtensionType.ScaledUiAmount))).map (located data) =
      (known.find? (fun entry => decide (entry.type = .ScaledUiAmount))).map content := by
  have condition : (fun entry : Nat × Nat × List UInt8 => decide (entry.1 = ExtensionType.ScaledUiAmount)) ∘ content =
      fun entry => decide (entry.type = .ScaledUiAmount) := by
    funext entry
    have type : entry.type.val = 25 ↔ entry.type = .ScaledUiAmount := Fin.val_eq_val entry.type 25
    exact decide_eq_decide.mpr type
  calc (found.find? (fun entry => decide (entry.type = ExtensionType.ScaledUiAmount))).map (located data)
      = (found.map (located data)).find? (fun entry => decide (entry.1 = ExtensionType.ScaledUiAmount)) := by
        rw [List.find?_map]
        rfl
    _ = (known.map content).find? (fun entry => decide (entry.1 = ExtensionType.ScaledUiAmount)) := by rw [same]
    _ = (known.find? (fun entry => decide (entry.type = .ScaledUiAmount))).map content := by
        rw [List.find?_map, condition]
theorem assertValid_eq {data : List UInt8} {found : List TlvEntry} {known : List Token2022.TlvEntry}
    (same : found.map (located data) = known.map content) :
    assertValidMintExtensionCombination (found.map TlvEntry.type) =
      refuse_if (Token2022.Forbidden (known.map Token2022.TlvEntry.type))
        (guardClientError .InvalidExtensionCombination ["mint extension set is forbidden by Token-2022"]) := by
  have members := mem_types_iff same
  have forbidden : _ ↔ Token2022.Forbidden (known.map Token2022.TlvEntry.type) :=
    or_congr (and_congr (members 16) (not_congr (and_congr (members 1) (members 4))))
      (or_congr (and_congr (members 1) (and_congr (members 4) (not_congr (members 16))))
        (or_congr (and_congr (members 24) (not_congr (members 4)))
          (or_congr (and_congr (members 25) (members 10))
            (and_congr (members 9) (and_congr (members 4) (not_congr (members 24)))))))
  unfold assertValidMintExtensionCombination refuse_if
  exact if_congr forbidden rfl rfl

/-- The fields the client slices out of the account are those of the crate's config. -/
theorem slice_field {data : List UInt8} {entry : TlvEntry} {known : Token2022.TlvEntry}
    (same : located data entry = content known) (size : known.value.length = 56) {start width : Nat}
    (inside : start + width ≤ 56) :
    slice data (entry.valueOffset + start) (entry.valueOffset + (start + width)) =
      (Token2022.field ⟨known.value, size⟩ start width inside).bytes := by
  have length : entry.length = 56 := (congrArg (fun parts => parts.2.1) same).trans size
  have value : (data.drop entry.valueOffset).take entry.length = known.value := congrArg (fun parts => parts.2.2) same
  have width' : entry.valueOffset + (start + width) - (entry.valueOffset + start) = width := by omega
  have fits : min width (56 - start) = width := by omega
  show slice data _ _ = (known.value.drop start).take width
  rw [slice, width', ← value, length, List.drop_take, List.take_take, List.drop_drop, fits]
theorem read_field {data : List UInt8} {entry : TlvEntry} {known : Token2022.TlvEntry}
    (same : located data entry = content known) (size : known.value.length = 56) {start : Nat}
    (inside : start + 8 ≤ 56) :
    read 8 data (entry.valueOffset + start) = .ok (Token2022.field ⟨known.value, size⟩ start 8 inside) := by
  have length : entry.length = 56 := (congrArg (fun parts => parts.2.1) same).trans size
  have value : (data.drop entry.valueOffset).take entry.length = known.value := congrArg (fun parts => parts.2.2) same
  have room : entry.valueOffset + 56 ≤ data.length := by
    rw [← value, length, List.length_take, List.length_drop] at size
    omega
  have bytes := slice_field same size inside
  rw [slice, Nat.add_sub_add_left, Nat.add_sub_cancel_left] at bytes
  rw [read_of_le (by omega)]
  exact congrArg Except.ok (Chunk.ext bytes)

theorem decodeEntries_correct {data : List UInt8} {found : List TlvEntry} {known : List Token2022.TlvEntry}
    (same : found.map (located data) = known.map content) (nodup : (known.map Token2022.TlvEntry.type).Nodup)
    (bareEmpty : data.length = 82 → known = []) :
    Agrees (State.decode_entries known) (decodeEntries data found) := by
  have scaled := find_scaledUi same
  rw [decodeEntries, refuse_if_bind, State.decode_entries, refuse_if_bind, if_neg (not_not.mpr nodup), refuse_if_bind]
  by_cases bare : data.length = BASE_MINT_LEN
  · rw [bareEmpty bare, if_pos bare, if_pos (by simp)]
    exact ⟨_, rfl, _, rfl⟩
  rw [if_neg bare]
  cases entryFound : found.find? (fun entry => decide (entry.type = ExtensionType.ScaledUiAmount)) with
  | none =>
    rw [entryFound, Option.map_none, eq_comm, Option.map_eq_none_iff, List.find?_eq_none] at scaled
    have absent : Token2022.ExtensionType.ScaledUiAmount ∉ known.map Token2022.TlvEntry.type := by
      intro member
      obtain ⟨entry, entryMember, type⟩ := List.mem_map.mp member
      exact scaled entry entryMember (by simpa using type)
    rw [if_pos absent]
    exact ⟨_, rfl, _, rfl⟩
  | some entry =>
    rw [entryFound, Option.map_some, eq_comm, Option.map_eq_some_iff] at scaled
    obtain ⟨config, configFound, contents⟩ := scaled
    have present : Token2022.ExtensionType.ScaledUiAmount ∈ known.map Token2022.TlvEntry.type :=
      List.mem_map.mpr ⟨config, List.mem_of_find?_eq_some configFound, by simpa using List.find?_some configFound⟩
    simp only [ok_or_some, ok_bind, assertValid_eq same, refuse_if_bind]
    rw [if_neg (not_not.mpr present)]
    by_cases forbidden : Token2022.Forbidden (known.map Token2022.TlvEntry.type)
    · rw [if_pos forbidden, if_pos forbidden]
      exact ⟨_, rfl, _, rfl⟩
    rw [if_neg forbidden, if_neg forbidden, Token2022.first_config, configFound, Option.bind_some]
    have length : entry.length = config.value.length := (congrArg (fun parts => parts.2.1) contents).symm
    by_cases size : config.value.length = 56
    swap
    · rw [dif_neg size, if_pos (by rw [length]; exact size)]
      exact ⟨_, rfl, _, rfl⟩
    rw [dif_pos size, if_neg (by rw [length, size]; simp [SCALED_UI_AMOUNT_CONFIG_LEN]), ok_or_some, ok_bind,
      slice_field contents.symm size (by omega : 32 + 8 ≤ 56), slice_field contents.symm size (by omega : 48 + 8 ≤ 56),
      isValidStoredMultiplier_chunk, isValidStoredMultiplier_chunk, getBigInt64,
      read_field contents.symm size (by omega : 40 + 8 ≤ 56), ok_bind]
    simp only [Token2022.config_of]
    cases multiplier : StoredMultiplier.new (Token2022.field ⟨config.value, size⟩ 32 8 (by omega)) with
    | none => exact ⟨_, rfl, _, by simp; rfl⟩
    | some stored =>
      cases newMultiplier : StoredMultiplier.new (Token2022.field ⟨config.value, size⟩ 48 8 (by omega)) with
      | none => exact ⟨_, rfl, _, by simp; rfl⟩
      | some newStored =>
        have bytes := StoredMultiplier.new_eq_some.mp multiplier
        have newBytes := StoredMultiplier.new_eq_some.mp newMultiplier
        simp [Agrees, ofProtectedState, StoredMultiplier.to_bytes, bytes, newBytes, pure, Except.pure]

theorem decodeProtectedState_correct {token : Token2022.Interface} (documented : token.Documented) (owner : Address)
    (data : List UInt8) :
    Agrees (decode_protected_state token owner.key data) (decodeProtectedState owner.text data) := by
  rw [State.decode_protected_state_eq documented, refuse_if_bind]
  by_cases token2022 : owner = TOKEN_2022_PROGRAM_ADDRESS
  swap
  · have otherKey : owner.key ≠ TOKEN_2022_PROGRAM_ID := fun same => token2022 (Address.key_injective same)
    have otherText : owner.text ≠ TOKEN_2022_PROGRAM_ADDRESS.text := fun same => token2022 (Address.text_inj.mp same)
    rw [if_pos otherKey, decodeProtectedState, parseMintAccount, refuse_if_bind, if_pos otherText]
    exact ⟨_, rfl, _, rfl⟩
  subst token2022
  have sameKey : ¬ TOKEN_2022_PROGRAM_ADDRESS.key ≠ TOKEN_2022_PROGRAM_ID := not_not.mpr rfl
  rw [if_neg sameKey, refuse_if_bind, decodeProtectedState]
  rcases parseMintAccount_correct data with ⟨layout, reads⟩ | ⟨badLayout, message, refused⟩
  swap
  · rw [if_pos badLayout, refused]
    exact ⟨_, rfl, message, rfl⟩
  rw [if_neg (not_not.mpr layout)]
  cases walked : Token2022.tlv_entries (data.drop 166) with
  | none =>
    rw [walked] at reads
    obtain ⟨message, refused⟩ := reads
    rw [refused]
    exact ⟨_, rfl, message, rfl⟩
  | some known =>
    rw [walked] at reads
    rcases reads with ⟨fresh, found, read, same⟩ | ⟨stale, message, refused⟩
    · rw [read, ok_or_some, ok_bind, ok_bind, List.nil_append]
      refine decodeEntries_correct same fresh.1 ?_
      intro bare
      rw [List.drop_eq_nil_of_le (by omega), Token2022.tlv_entries] at walked
      exact (Option.some.inj walked).symm
    · have repeated : ¬ (known.map Token2022.TlvEntry.type).Nodup := fun nodup => stale ⟨nodup, by simp⟩
      rw [refused, ok_or_some, ok_bind, State.decode_entries, refuse_if_bind, if_pos repeated]
      exact ⟨_, rfl, message, rfl⟩

/-- What the client decodes is a state of the program. -/
theorem decodeProtectedState_valid {owner : String} {data : List UInt8} {decoded : ProtectedState}
    (run : decodeProtectedState owner data = .ok decoded) : ∃ state, ofProtectedState state = decoded := by
  have token2022 : owner = TOKEN_2022_PROGRAM_ADDRESS.text := by
    by_contra other
    rw [decodeProtectedState, parseMintAccount, refuse_if_bind, if_pos other] at run
    cases run
  have agrees := decodeProtectedState_correct Token2022.documented_correct TOKEN_2022_PROGRAM_ADDRESS data
  rw [← token2022] at agrees
  cases program : decode_protected_state Token2022.documented TOKEN_2022_PROGRAM_ADDRESS.key data with
  | ok state =>
    rw [program] at agrees
    exact ⟨state, Except.ok.inj (agrees.symm.trans run)⟩
  | error error =>
    rw [program] at agrees
    obtain ⟨code, _, message, refused⟩ := agrees
    cases refused.symm.trans run

theorem ofProgram?_injective {one two : EquityGuardError} {code : GuardClientErrorCode}
    (first : GuardClientErrorCode.ofProgram? one = some code) (second : GuardClientErrorCode.ofProgram? two = some code) :
    one = two := by
  cases one <;> cases first <;> cases two <;> first | rfl | cases second

/-- The client refuses an account under a code exactly when the program refuses it under that name. -/
theorem decodeProtectedState_refuses {token : Token2022.Interface} (documented : token.Documented) (owner : Address)
    (data : List UInt8) (error : EquityGuardError) {code : GuardClientErrorCode}
    (name : GuardClientErrorCode.ofProgram? error = some code) :
    Refuses code (decodeProtectedState owner.text data) ↔ decode_protected_state token owner.key data = .error error := by
  have agrees := decodeProtectedState_correct documented owner data
  cases program : decode_protected_state token owner.key data with
  | ok state =>
    rw [program] at agrees
    refine ⟨?_, nofun⟩
    rintro ⟨message, refused⟩
    rw [agrees] at refused
    cases refused
  | error other =>
    rw [program] at agrees
    obtain ⟨known, otherName, message, refused⟩ := agrees
    constructor
    · rintro ⟨_, same⟩
      rw [refused] at same
      cases same
      rw [ofProgram?_injective otherName name]
    · intro same
      cases same
      rw [otherName] at name
      cases name
      exact ⟨message, refused⟩
theorem decodeProtectedState_cases (owner : Address) (data : List UInt8) :
    (∃ state, decodeProtectedState owner.text data = .ok state) ∨
      ∃ code, Refuses code (decodeProtectedState owner.text data) := by
  have agrees := decodeProtectedState_correct Token2022.documented_correct owner data
  cases program : decode_protected_state Token2022.documented owner.key data with
  | ok state =>
    rw [program] at agrees
    exact .inl ⟨_, agrees⟩
  | error error =>
    rw [program] at agrees
    obtain ⟨code, _, refused⟩ := agrees
    exact .inr ⟨code, refused⟩

/-- The two decoders agree on every account: the same state, or the same error name. -/
theorem mint_decoders_agree {token : Token2022.Interface} (documented : token.Documented) (owner : Address)
    (data : List UInt8) :
    ((∃ state, decodeProtectedState owner.text data = .ok state) ↔
      ∃ state, decode_protected_state token owner.key data = .ok state) ∧
    (∀ state, decode_protected_state token owner.key data = .ok state →
      decodeProtectedState owner.text data = .ok (ofProtectedState state)) ∧
    (∀ error, decode_protected_state token owner.key data = .error error →
      ∃ code message, GuardClientErrorCode.ofProgram? error = some code ∧
        decodeProtectedState owner.text data = .error (.GuardClientError code message none)) := by
  have agrees := decodeProtectedState_correct documented owner data
  cases program : decode_protected_state token owner.key data with
  | ok state =>
    rw [program] at agrees
    refine ⟨⟨fun _ => ⟨state, rfl⟩, fun _ => ⟨_, agrees⟩⟩, ?_, ?_⟩
    · intro other same
      cases same
      exact agrees
    · intro error failed
      cases failed
  | error error =>
    rw [program] at agrees
    obtain ⟨code, name, message, refused⟩ := agrees
    refine ⟨⟨?_, ?_⟩, ?_, ?_⟩
    · rintro ⟨state, decoded⟩
      rw [refused] at decoded
      cases decoded
    · rintro ⟨state, decoded⟩
      cases decoded
    · intro state decoded
      cases decoded
    · intro other same
      cases same
      exact ⟨code, message, name, refused⟩

theorem mint_decoders_agree_split :
    decodeProtectedState TOKEN_2022_PROGRAM_ADDRESS.text Guard.splitMint = .ok (ofProtectedState Guard.twoForOneSplit) := by
  have decoded : decode_protected_state Token2022.documented TOKEN_2022_PROGRAM_ADDRESS.key Guard.splitMint =
      .ok Guard.twoForOneSplit := by decide +kernel
  exact (mint_decoders_agree Token2022.documented_correct _ _).2.1 _ decoded

end EquityGuard.ClientMintState
