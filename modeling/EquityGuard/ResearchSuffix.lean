import EquityGuard.Commitments
import EquityGuard.Hex

/-!
The research model of the suffix commitment, which reads base58 text on its own, beside the
client's.
-/
namespace EquityGuard.ResearchSuffix
open EquityGuard.Addresses EquityGuard.Bytes EquityGuard.ClientJupiter EquityGuard.Commitments EquityGuard.Errors
open EquityGuard.Hex EquityGuard.Transaction

/-! ### The research module -/

inductive ResearchError where
  | Error (message : List String)
  /-- Of a value that a field of a `Buffer` cannot hold. -/
  | RangeError (received : Nat)
deriving DecidableEq

structure AccountMetaLike where
  pubkey : String
  isSigner : Bool
  isWritable : Bool
structure InstructionLike where
  programId : String
  accounts : List AccountMetaLike
  dataHex : String

def SUFFIX_COMMITMENT_DOMAIN : List UInt8 := ascii "EQUITYGUARD_JUPITER_SUFFIX_V1"
def BASE58 : List Char := "123456789ABCDEFGHJKLMNPQRSTUVWXYZabcdefghijkmnopqrstuvwxyz".toList

/-- The loop over the characters: `n` of `bs58Decode`. -/
def bs58Number (value : String) : Except ResearchError Nat :=
  value.toList.foldlM (fun n character =>
    match BASE58.idxOf? character with
    | some index => .ok (n * 58 + index)
    | none => .error (.Error ["invalid base58 in ", value])) 0
/-- `n.toString(16)`, with a zero before it where that makes the length even. -/
def evenHex (n : Nat) : List Char :=
  let hex := Nat.toDigits 16 n
  if hex.length % 2 = 1 then '0' :: hex else hex
def bs58Decode (value : String) : Except ResearchError (List UInt8) := do
  let n ← bs58Number value
  let body := bufferFromHex (String.ofList (evenHex n))
  let zeros := (value.toList.takeWhile (· == '1')).length
  return List.replicate zeros 0 ++ body

/-- `buffer.writeUInt32LE(value)` on four bytes. -/
def writeUInt32LE (value : Nat) : Except ResearchError (List UInt8) := do
  refuse_if (value > 0xffffffff) (.RangeError value)
  return leBytes 4 value
def metaBytes (account : AccountMetaLike) : Except ResearchError (List UInt8) := do
  return (← bs58Decode account.pubkey) ++ [if account.isSigner then 1 else 0, if account.isWritable then 1 else 0]
def likeBytes (instruction : InstructionLike) : Except ResearchError (List UInt8) := do
  let programId ← bs58Decode instruction.programId
  let accounts ← writeUInt32LE instruction.accounts.length
  let metas ← instruction.accounts.mapM metaBytes
  let data := bufferFromHex instruction.dataHex
  let dataLen ← writeUInt32LE data.length
  return programId ++ (accounts ++ (metas.flatten ++ (dataLen ++ data)))
def suffixCommitmentPreimage (suffix : List InstructionLike) : Except ResearchError (List UInt8) := do
  let count ← writeUInt32LE suffix.length
  let parts ← suffix.mapM likeBytes
  return SUFFIX_COMMITMENT_DOMAIN ++ (count ++ parts.flatten)

/-! ### The text of a number -/

theorem evenHex_small {n : Nat} (small : n < 256) : evenHex n = [hexDigit (n / 16), hexDigit (n % 16)] := by
  have table : (List.range 256).all (fun n => evenHex n = [hexDigit (n / 16), hexDigit (n % 16)]) = true := by decide +kernel
  exact of_decide_eq_true (List.all_eq_true.mp table n (List.mem_range.mpr small))
theorem evenHex_large {n : Nat} (large : 256 ≤ n) :
    evenHex n = evenHex (n / 256) ++ [hexDigit (n % 256 / 16), hexDigit (n % 256 % 16)] := by
  have digit : ∀ value < 16, Nat.digitChar value = hexDigit value := by decide
  have twice : Nat.toDigits 16 n = Nat.toDigits 16 (n / 256) ++ [hexDigit (n % 256 / 16), hexDigit (n % 256 % 16)] := by
    have quotient : n / 16 / 16 = n / 256 := Nat.div_div_eq_div_mul n 16 16
    have high : n / 16 % 16 = n % 256 / 16 := by omega
    have low : n % 16 = n % 256 % 16 := by omega
    rw [Nat.toDigits_of_base_le (by decide) (by omega), Nat.toDigits_of_base_le (by decide) (by omega), quotient, high, low,
      digit _ (by omega), digit _ (by omega), List.append_assoc]
    rfl
  simp only [evenHex, twice, List.length_append, List.length_cons, List.length_nil, Nat.add_mod_right]
  split <;> rfl
/-- A number in bytes is read back from its text, but zero has a byte where it has no digits. -/
theorem evenHex_bytes (n : Nat) : bufferFromHex (String.ofList (evenHex n)) =
    if n = 0 then [0] else (Nat.digits 256 n).reverse.map UInt8.ofNat := by
  have positional : 0 < n → String.ofList (evenHex n) = hexOf ((Nat.digits 256 n).reverse.map UInt8.ofNat) := by
    induction n using Nat.strong_induction_on with
    | _ n ih =>
      intro positive
      by_cases small : n < 256
      · have kept : (UInt8.ofNat n).toNat = n := UInt8.toNat_ofNat_of_lt small
        rw [evenHex_small small, Nat.digits_of_lt 256 n positive.ne' small, hexOf]
        simp only [List.reverse_singleton, List.map_cons, List.map_nil, List.flatMap_cons, List.flatMap_nil, List.append_nil, kept]
      · have lower := ih (n / 256) (by omega) (by omega)
        have kept : (UInt8.ofNat (n % 256)).toNat = n % 256 := UInt8.toNat_ofNat_of_lt (Nat.mod_lt _ (by decide))
        rw [hexOf, String.ofList_inj] at lower
        rw [evenHex_large (by omega), lower, Nat.digits_def' (by decide) positive, hexOf]
        simp only [List.reverse_cons, List.map_append, List.flatMap_append, List.map_cons, List.map_nil, List.flatMap_cons,
          List.flatMap_nil, List.append_nil, kept]
  split
  · subst n
    decide
  · rw [positional (Nat.pos_of_ne_zero ‹_›), bufferFromHex_hexOf]

/-! ### The decoder -/

theorem bs58Number_eq {value : String} {digits : List Nat} (read : value.toList.mapM Base58.digitOf = some digits) :
    bs58Number value = .ok (Base58.value 58 digits) := by
  have loop (letters : List Char) (n : Nat) (read : letters.mapM Base58.digitOf = some digits) :
      letters.foldlM (fun n character =>
        match BASE58.idxOf? character with
        | some index => .ok (n * 58 + index)
        | none => .error (.Error ["invalid base58 in ", value])) n =
      (.ok (digits.foldl (fun n digit => digit + 58 * n) n) : Except ResearchError Nat) := by
    clear * - read
    induction letters generalizing digits n with
    | nil =>
      cases read
      rfl
    | cons letter rest ih =>
      simp only [List.mapM_cons, Option.bind_eq_bind, Option.bind_eq_some_iff, Option.pure_def, Option.some.injEq] at read
      obtain ⟨digit, known, digits, tail, rfl⟩ := read
      have index : BASE58.idxOf? letter = some digit := known
      rw [List.foldlM_cons, index, List.foldl_cons]
      simp only [ok_bind]
      rw [ih _ tail, Nat.mul_comm n 58, Nat.add_comm]
  rw [bs58Number, loop _ 0 read, Base58.value, Nat.ofDigits_eq_foldr, List.foldr_reverse]
  rfl
theorem zeros_eq {letters : List Char} {digits : List Nat} (read : letters.mapM Base58.digitOf = some digits) :
    (letters.takeWhile (· == '1')).length = Base58.leadingZeros digits := by
  obtain ⟨small, rfl⟩ := Base58.letters_of_mapM read
  have one : ∀ digit < 58, (Base58.letterOf digit == '1') = (digit == 0) := by decide
  rw [Base58.leadingZeros, List.takeWhile_map, List.length_map]
  clear read
  induction digits with
  | nil => rfl
  | cons digit rest ih =>
    rw [List.forall_mem_cons] at small
    simp only [List.takeWhile_cons, Function.comp_apply, one digit small.1]
    split
    · rw [List.length_cons, List.length_cons, ih small.2]
    · rfl
/-- The System Program's address is the one of no value. -/
theorem value_zero_iff {address : Address} {digits : List Nat} (read : address.text.toList.mapM Base58.digitOf = some digits) :
    Base58.value 58 digits = 0 ↔ address = SYSTEM_PROGRAM_ADDRESS := by
  constructor
  · intro zero
    have decoded := address.decode_text
    rw [Base58.decode, read, Option.map_some, Option.some.injEq, Base58.convert, Base58.numeral, zero, Nat.digits_zero,
      List.reverse_nil, List.append_nil, List.map_replicate] at decoded
    have size := address.key.size_eq
    rw [← decoded, List.length_replicate] at size
    have system : SYSTEM_PROGRAM_ADDRESS.key.bytes = List.replicate 32 (UInt8.ofNat 0) := by decide +kernel
    refine Address.key_injective (Chunk.ext ?_)
    rw [← decoded, size, system]
  · rintro rfl
    have ones : SYSTEM_PROGRAM_ADDRESS.text.toList.mapM Base58.digitOf = some (List.replicate 32 0) := by decide
    rw [ones, Option.some.injEq] at read
    subst read
    decide
/-- What the decoder gives for an address: for the System Program's, one byte too many. -/
def decoded (address : Address) : List UInt8 := address.key.bytes ++ if address = SYSTEM_PROGRAM_ADDRESS then [0] else []

theorem bs58Decode_text (address : Address) : bs58Decode address.text = .ok (decoded address) := by
  have whole := address.decode_text
  obtain ⟨digits, read, bytes⟩ := Option.map_eq_some_iff.mp whole
  rw [bs58Decode, bs58Number_eq read, ok_bind]
  simp only [zeros_eq read, evenHex_bytes, value_zero_iff read, decoded, ← bytes, Base58.convert, Base58.numeral, List.map_append,
    List.map_replicate]
  by_cases system : address = SYSTEM_PROGRAM_ADDRESS
  · rw [if_pos system, if_pos system, (value_zero_iff read).mpr system, Nat.digits_zero, List.reverse_nil, List.map_nil,
      List.append_nil]
    rfl
  · rw [if_neg system, if_neg system, List.append_nil]
    rfl

/-! ### The preimages -/

structure ReadsAccount (like : AccountMetaLike) (account : CommittedAccount) : Prop where
  pubkey : like.pubkey = account.address.text
  isSigner : like.isSigner = account.isSigner
  isWritable : like.isWritable = account.isWritable
/-- The same instruction in the research module's type and in the client's. -/
structure Reads (like : InstructionLike) (instruction : CommittedInstruction) : Prop where
  programId : like.programId = instruction.programAddress.text
  accounts : List.Forall₂ ReadsAccount like.accounts instruction.accounts
  data : bufferFromHex like.dataHex = instruction.data
/-- Every length is one that four bytes hold. -/
def Fits (suffix : List CommittedInstruction) : Prop :=
  suffix.length < 2 ^ 32 ∧ ∀ instruction ∈ suffix, Encodable instruction.toProgram
/-- The addresses that are encoded. -/
def named (suffix : List CommittedInstruction) : List Address :=
  suffix.flatMap fun instruction => instruction.programAddress :: instruction.accounts.map CommittedAccount.address

def readAccount (account : CommittedAccount) : List UInt8 :=
  decoded account.address ++ [if account.isSigner then 1 else 0, if account.isWritable then 1 else 0]
def readInstruction (instruction : CommittedInstruction) : List UInt8 :=
  decoded instruction.programAddress ++ (leBytes 4 instruction.accounts.length ++
    (instruction.accounts.flatMap readAccount ++ (leBytes 4 instruction.data.length ++ instruction.data)))

theorem writeUInt32LE_bind {value : Nat} {next : List UInt8 → Except ResearchError (List UInt8)} {bytes : List UInt8} :
    writeUInt32LE value >>= next = .ok bytes ↔ value < 2 ^ 32 ∧ next (leBytes 4 value) = .ok bytes := by
  rw [writeUInt32LE, refuse_if_bind]
  by_cases large : value > 0xffffffff
  · rw [if_pos large]
    exact ⟨nofun, fun both => by omega⟩
  · rw [if_neg large]
    exact ⟨fun passed => ⟨by omega, passed⟩, fun both => both.2⟩
theorem metas_eq {likes : List AccountMetaLike} {accounts : List CommittedAccount} (reads : List.Forall₂ ReadsAccount likes accounts) :
    likes.mapM metaBytes = .ok (accounts.map readAccount) := by
  induction reads with
  | nil => rfl
  | cons head _ ih =>
    rw [List.mapM_cons, metaBytes, head.pubkey, bs58Decode_text, ih, head.isSigner, head.isWritable]
    rfl
theorem likeBytes_eq_ok {like : InstructionLike} {instruction : CommittedInstruction} (reads : Reads like instruction)
    {bytes : List UInt8} :
    likeBytes like = .ok bytes ↔ Encodable instruction.toProgram ∧ bytes = readInstruction instruction := by
  rw [likeBytes, reads.programId, bs58Decode_text, ok_bind, writeUInt32LE_bind, metas_eq reads.accounts, ok_bind]
  simp only [reads.data, writeUInt32LE_bind, reads.accounts.length_eq, pure_eq_ok, Except.ok.injEq, encodable_toProgram,
    readInstruction, List.flatMap, and_assoc]
  exact and_congr_right fun _ => and_congr_right fun _ => eq_comm
theorem likes_eq_ok {likes : List InstructionLike} {suffix : List CommittedInstruction} (reads : List.Forall₂ Reads likes suffix)
    {parts : List (List UInt8)} :
    likes.mapM likeBytes = .ok parts ↔ (∀ instruction ∈ suffix, Encodable instruction.toProgram) ∧
      parts = suffix.map readInstruction := by
  induction reads generalizing parts with
  | nil => simp [pure_eq_ok, eq_comm]
  | cons head _ ih =>
    simp only [List.mapM_cons, bind_eq_ok, likeBytes_eq_ok head, ih, pure_eq_ok, Except.ok.injEq, List.forall_mem_cons,
      List.map_cons]
    constructor
    · rintro ⟨_, ⟨first, rfl⟩, _, ⟨rest, rfl⟩, rfl⟩
      exact ⟨⟨first, rest⟩, rfl⟩
    · rintro ⟨⟨first, rest⟩, rfl⟩
      exact ⟨_, ⟨first, rfl⟩, _, ⟨rest, rfl⟩, rfl⟩
theorem suffixCommitmentPreimage_eq_ok {likes : List InstructionLike} {suffix : List CommittedInstruction}
    (reads : List.Forall₂ Reads likes suffix) {bytes : List UInt8} :
    suffixCommitmentPreimage likes = .ok bytes ↔
      Fits suffix ∧ bytes = SUFFIX_COMMITMENT_DOMAIN ++ (leBytes 4 suffix.length ++ suffix.flatMap readInstruction) := by
  rw [suffixCommitmentPreimage, writeUInt32LE_bind, reads.length_eq, bind_eq_ok, Fits, and_assoc]
  refine and_congr_right fun _ => ?_
  constructor
  · rintro ⟨_, parts, same⟩
    obtain ⟨fits, rfl⟩ := (likes_eq_ok reads).mp parts
    exact ⟨fits, (Except.ok.inj same).symm⟩
  · rintro ⟨fits, rfl⟩
    exact ⟨_, (likes_eq_ok reads).mpr ⟨fits, rfl⟩, rfl⟩
theorem jupiterSuffixCommitmentPreimage_fits {suffix : List CommittedInstruction} {bytes : List UInt8} :
    jupiterSuffixCommitmentPreimage suffix = .ok bytes ↔ Fits suffix ∧ bytes = SUFFIX_COMMITMENT_DOMAIN ++
      (leBytes 4 suffix.length ++ (suffix.map CommittedInstruction.toProgram).flatMap instruction_bytes) := by
  rw [jupiterSuffixCommitmentPreimage_eq]
  split
  · rename_i fits
    rw [Except.ok.injEq, and_iff_right (show Fits suffix from fits), eq_comm]
    rfl
  · rename_i fails
    exact ⟨nofun, fun both => absurd both.1 fails⟩

/-! ### Where they part -/

theorem length_decoded (address : Address) : (decoded address).length = 32 + [address].count SYSTEM_PROGRAM_ADDRESS := by
  rw [decoded, List.length_append, address.key.size_eq, List.count_singleton]
  by_cases system : address = SYSTEM_PROGRAM_ADDRESS
  · rw [if_pos system, if_pos (beq_iff_eq.mpr system)]
    rfl
  · rw [if_neg system, if_neg (by rwa [beq_iff_eq])]
    rfl
/-- Each naming of the System Program is one more byte. -/
theorem length_readInstruction (instruction : CommittedInstruction) : (readInstruction instruction).length =
    (instruction_bytes instruction.toProgram).length + (named [instruction]).count SYSTEM_PROGRAM_ADDRESS := by
  have accounts (accounts : List CommittedAccount) : (accounts.flatMap readAccount).length =
      ((accounts.map CommittedAccount.toProgram).flatMap account_bytes).length +
        (accounts.map CommittedAccount.address).count SYSTEM_PROGRAM_ADDRESS := by
    induction accounts with
    | nil => rfl
    | cons account rest ih =>
      have cons := @List.count_append _ _ SYSTEM_PROGRAM_ADDRESS [account.address] (rest.map CommittedAccount.address)
      rw [List.singleton_append] at cons
      simp only [List.flatMap_cons, List.map_cons, List.length_append, ih, cons, readAccount, length_decoded, account_bytes,
        CommittedAccount.toProgram, Chunk.size_eq, List.length_cons, List.length_nil]
      omega
  have cons := @List.count_append _ _ SYSTEM_PROGRAM_ADDRESS [instruction.programAddress]
    (instruction.accounts.map CommittedAccount.address)
  rw [List.singleton_append] at cons
  simp only [readInstruction, instruction_bytes, CommittedInstruction.toProgram, List.length_append, accounts, length_decoded,
    named, List.flatMap_cons, List.flatMap_nil, List.append_nil, cons, leBytes_length, Chunk.size_eq]
  omega
theorem length_read (suffix : List CommittedInstruction) : (suffix.flatMap readInstruction).length =
    ((suffix.map CommittedInstruction.toProgram).flatMap instruction_bytes).length +
      (named suffix).count SYSTEM_PROGRAM_ADDRESS := by
  induction suffix with
  | nil => rfl
  | cons instruction rest ih =>
    have split : named (instruction :: rest) = named [instruction] ++ named rest := by
      simp only [named, List.flatMap_cons, List.flatMap_nil, List.append_nil]
    rw [List.flatMap_cons, List.length_append, length_readInstruction, ih, List.map_cons, List.flatMap_cons, List.length_append,
      split, List.count_append]
    omega
theorem readInstruction_eq {instruction : CommittedInstruction} (absent : SYSTEM_PROGRAM_ADDRESS ∉ named [instruction]) :
    readInstruction instruction = instruction_bytes instruction.toProgram := by
  have same {address : Address} (member : address ∈ named [instruction]) : decoded address = address.key.bytes := by
    rw [decoded, if_neg (fun system : address = SYSTEM_PROGRAM_ADDRESS => absent (system ▸ member)), List.append_nil]
  have listed {account : CommittedAccount} (member : account ∈ instruction.accounts) : account.address ∈ named [instruction] := by
    simp only [named, List.flatMap_cons, List.flatMap_nil, List.append_nil]
    exact List.mem_cons_of_mem _ (List.mem_map_of_mem member)
  have accounts : instruction.accounts.flatMap readAccount =
      (instruction.accounts.map CommittedAccount.toProgram).flatMap account_bytes := by
    rw [List.flatMap_map]
    refine List.flatMap_congr fun account member => ?_
    rw [readAccount, same (listed member), account_bytes, CommittedAccount.toProgram]
    cases account.isSigner <;> cases account.isWritable <;> rfl
  rw [readInstruction, instruction_bytes, same (by simp [named]), accounts, CommittedInstruction.toProgram, List.length_map]
theorem read_eq_iff (suffix : List CommittedInstruction) :
    suffix.flatMap readInstruction = (suffix.map CommittedInstruction.toProgram).flatMap instruction_bytes ↔
      SYSTEM_PROGRAM_ADDRESS ∉ named suffix := by
  constructor
  · intro same
    have lengths := length_read suffix
    rw [same] at lengths
    exact List.count_eq_zero.mp (by omega)
  · intro absent
    rw [List.flatMap_map]
    refine List.flatMap_congr fun instruction member => readInstruction_eq fun inside => absent ?_
    simp only [named, List.flatMap_cons, List.flatMap_nil, List.append_nil] at inside
    exact List.mem_flatMap.mpr ⟨instruction, member, inside⟩

/-- The decoder is right on every address but the System Program's, and the preimages part exactly where it is named. -/
theorem research_preimage_iff (address : Address) {likes : List InstructionLike} {suffix : List CommittedInstruction}
    (reads : List.Forall₂ Reads likes suffix) :
    (bs58Decode address.text = .ok address.key.bytes ↔ address ≠ SYSTEM_PROGRAM_ADDRESS) ∧
      ((∀ bytes, suffixCommitmentPreimage likes = .ok bytes ↔ jupiterSuffixCommitmentPreimage suffix = .ok bytes) ↔
        (Fits suffix → SYSTEM_PROGRAM_ADDRESS ∉ named suffix)) := by
  constructor
  · rw [bs58Decode_text, Except.ok.injEq, decoded, List.append_right_eq_self]
    split
    · exact ⟨nofun, fun other => absurd ‹_› other⟩
    · exact ⟨fun _ => ‹_›, fun _ => rfl⟩
  · simp only [suffixCommitmentPreimage_eq_ok reads, jupiterSuffixCommitmentPreimage_fits]
    constructor
    · intro agree fits
      have same := ((agree _).mp ⟨fits, rfl⟩).2
      exact (read_eq_iff suffix).mp (List.append_cancel_left (List.append_cancel_left same))
    · intro absent bytes
      refine and_congr_right fun fits => ?_
      rw [(read_eq_iff suffix).mpr (absent fits)]
/-- Of an instruction of the associated token program, nothing is different. -/
theorem research_preimage_iff_token :
    bs58Decode ASSOCIATED_TOKEN_PROGRAM_ADDRESS.text = .ok ASSOCIATED_TOKEN_PROGRAM_ADDRESS.key.bytes ∧
    ∀ bytes, suffixCommitmentPreimage [⟨ASSOCIATED_TOKEN_PROGRAM_ADDRESS.text, [], "02"⟩] = .ok bytes ↔
      jupiterSuffixCommitmentPreimage [⟨ASSOCIATED_TOKEN_PROGRAM_ADDRESS, [], [2]⟩] = .ok bytes := by
  have reads : List.Forall₂ Reads [⟨ASSOCIATED_TOKEN_PROGRAM_ADDRESS.text, [], "02"⟩] [⟨ASSOCIATED_TOKEN_PROGRAM_ADDRESS, [], [2]⟩] :=
    .cons ⟨rfl, .nil, by decide⟩ .nil
  obtain ⟨address, preimages⟩ := research_preimage_iff ASSOCIATED_TOKEN_PROGRAM_ADDRESS reads
  exact ⟨address.mpr (by decide), preimages.mpr fun _ => by decide⟩
theorem research_system_program :
    List.Forall₂ Reads [⟨"11111111111111111111111111111111", [], "02"⟩] [⟨SYSTEM_PROGRAM_ADDRESS, [], [2]⟩] ∧
    suffixCommitmentPreimage [⟨"11111111111111111111111111111111", [], "02"⟩] = .ok (SUFFIX_COMMITMENT_DOMAIN ++
      ([1, 0, 0, 0] ++ (List.replicate 33 0 ++ [0, 0, 0, 0, 1, 0, 0, 0, 2]))) ∧
    jupiterSuffixCommitmentPreimage [⟨SYSTEM_PROGRAM_ADDRESS, [], [2]⟩] = .ok (SUFFIX_COMMITMENT_DOMAIN ++
      ([1, 0, 0, 0] ++ (List.replicate 32 0 ++ [0, 0, 0, 0, 1, 0, 0, 0, 2]))) ∧
    SUFFIX_COMMITMENT_DOMAIN ++ ([1, 0, 0, 0] ++ (List.replicate 33 0 ++ [0, 0, 0, 0, 1, 0, 0, 0, 2])) ≠
      SUFFIX_COMMITMENT_DOMAIN ++ ([1, 0, 0, 0] ++ (List.replicate 32 0 ++ [0, 0, 0, 0, 1, 0, 0, 0, 2])) :=
  ⟨.cons ⟨rfl, .nil, by decide⟩ .nil, by decide +kernel, by decide +kernel, by decide⟩

end EquityGuard.ResearchSuffix
