import EquityGuard.Base64
import EquityGuard.Client
import EquityGuard.Transaction

/-!
What the client uses of `@solana/kit` and of Node's `Buffer`. Neither is part of the
repository: the types are written out, the functions are parameters, and what the
client relies on of them is stated where a result needs it.
-/
namespace EquityGuard.Kit
open EquityGuard.Addresses EquityGuard.Bytes EquityGuard.Client EquityGuard.Errors EquityGuard.Transaction

inductive AccountRole where
  | READONLY
  | WRITABLE
  | READONLY_SIGNER
  | WRITABLE_SIGNER
deriving DecidableEq
structure AccountMeta where
  address : Address
  role : AccountRole
deriving DecidableEq
structure Instruction where
  programAddress : Address
  accounts : List AccountMeta
  data : List UInt8
deriving DecidableEq

/-- `AddressesByLookupTableAddress`: a record, so no table occurs twice. -/
abbrev LookupTables := List (Address × List Address)
/-- A v0 message before its accounts are looked up and laid out. -/
structure TransactionMessage where
  feePayer : Address
  blockhash : Chunk 32
  lastValidBlockHeight : Int
  instructions : List Instruction
  lookupTables : LookupTables

inductive TransactionVersion where
  | legacy
  | numbered (version : Nat)
deriving DecidableEq
/-- `String(version)`. -/
def TransactionVersion.piece : TransactionVersion → Piece
  | .legacy => "legacy"
  | .numbered version => version
structure MessageHeader where
  numSignerAccounts : Nat
  numReadonlySignerAccounts : Nat
  numReadonlyNonSignerAccounts : Nat
structure CompiledInstruction where
  programAddressIndex : Nat
  accountIndices : Option (List Nat)
  data : Option (List UInt8)
structure AddressTableLookup where
  lookupTableAddress : Address
  writableIndexes : List Nat
  readonlyIndexes : List Nat
structure CompiledTransactionMessage where
  version : TransactionVersion
  header : MessageHeader
  staticAccounts : List Address
  addressTableLookups : Option (List AddressTableLookup)
  instructions : List CompiledInstruction

/-- The functions themselves. Where the kit's throw its own error, here they give nothing. -/
structure Library where
  /-- `getBase64Encoder().encode`. -/
  base64Bytes : String → Option (List UInt8)
  /-- `getBase64Decoder().decode`. -/
  base64Text : List UInt8 → String
  /-- `Buffer.from(text, "base64")`, which skips what it cannot read. -/
  bufferFromBase64 : String → List UInt8
  /-- `compileTransactionMessage` of the message compressed with its lookup tables. -/
  compileTransactionMessage : TransactionMessage → Option CompiledTransactionMessage
  /-- `getCompiledTransactionMessageEncoder().encode`. -/
  encodeMessage : CompiledTransactionMessage → Option (List UInt8)
  /-- `getTransactionEncoder().encode` of `compileTransaction`. -/
  encodeTransaction : TransactionMessage → Option (List UInt8)
  /-- `getTransactionDecoder().decode(..).messageBytes`. -/
  decodeTransaction : List UInt8 → Option (List UInt8)
  /-- `getCompiledTransactionMessageDecoder().decode`. -/
  decodeMessage : List UInt8 → Option CompiledTransactionMessage

/-- The bytes of the wire that an instruction's own bytes take: its account indices and data. -/
def CompiledInstruction.size (instruction : CompiledInstruction) : Nat :=
  (instruction.accountIndices.getD []).length + (instruction.data.getD []).length
/-- What the client relies on of the functions. -/
structure Library.Documented (kit : Library) : Prop where
  /-- The encoder refuses what is not base64 and otherwise reads it as `Buffer` does. -/
  base64_eq : ∀ text, kit.base64Bytes text = if Base64.isValid text then some (kit.bufferFromBase64 text) else none
  /-- What was encoded can be decoded. -/
  decodes : ∀ message wire, kit.encodeTransaction message = some wire →
    ∃ bytes compiled, kit.decodeTransaction wire = some bytes ∧ kit.decodeMessage bytes = some compiled
  /-- The message is part of the wire. -/
  message_size : ∀ wire bytes, kit.decodeTransaction wire = some bytes → bytes.length ≤ wire.length
  /-- Each instruction takes a program index, two counts, and its account indices and data. -/
  instructions_size : ∀ bytes compiled, kit.decodeMessage bytes = some compiled →
    (compiled.instructions.map (fun instruction => 3 + instruction.size)).sum ≤ bytes.length

end EquityGuard.Kit
