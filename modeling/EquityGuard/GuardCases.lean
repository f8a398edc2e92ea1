import EquityGuard.ClientDeployment
import EquityGuard.GuardMirror
import EquityGuard.Maps
import EquityGuard.Reading

/-!
One guard invocation as a binary record: the client writes a stream of them, and the
evaluator reads the same stream and answers with one byte for each.
-/
namespace EquityGuard.GuardCases
open EquityGuard.Addresses EquityGuard.Bytes EquityGuard.Client EquityGuard.Errors EquityGuard.GuardMirror
open EquityGuard.Loops EquityGuard.Reading EquityGuard.Transaction
open EquityGuard.ClientDeployment (EQUITY_GUARD_DEVNET_PROGRAM_ID)
open EquityGuard.ClientOffline (verdict)
open EquityGuard.ClientTrade (SYSVAR_INSTRUCTIONS_ADDRESS)
open EquityGuard.Jupiter (Platform)
open EquityGuard.Maps (Entries)

/-! ### The writer -/

inductive ExpectKind where
  | ALLOW
  | BLOCK_EXACT
  | BLOCK_ANY
  | UNSPECIFIED
deriving DecidableEq
def ExpectKind.value : ExpectKind → Nat
  | .ALLOW => 0
  | .BLOCK_EXACT => 1
  | .BLOCK_ANY => 2
  | .UNSPECIFIED => 3
structure GuardCase where
  index : Nat
  category : Nat
  expectKind : ExpectKind
  expectCode : Nat
  mintKey : Address
  mintOwner : Address
  mintData : List UInt8
  guardData : List UInt8
  clock : Int
  instructions : List MirrorInstruction
  currentIndex : Nat

def PROGRAM_ID : Address := EQUITY_GUARD_DEVNET_PROGRAM_ID
theorem isAddress_sysvarOwner : isAddress "Sysvar1111111111111111111111111111111111111" = true := by decide +kernel

def u8 (value : Nat) : List UInt8 := leBytes 1 value
def u16 (value : Nat) : List UInt8 := leBytes 2 value
def u32 (value : Nat) : List UInt8 := leBytes 4 value
def i64 (value : Int) : List UInt8 := leBytes 8 (value % 2 ^ 64).toNat
def key (address : Address) : List UInt8 := address.key.bytes
def metaBytes (account : MirrorAccountMeta) : List UInt8 :=
  key account.pubkey ++ (u8 (if account.isSigner then 1 else 0) ++ u8 (if account.isWritable then 1 else 0))
def instructionBytes (instruction : MirrorInstruction) : List UInt8 :=
  key instruction.programId ++ (u8 instruction.accounts.length ++ (instruction.accounts.flatMap metaBytes ++
    (u16 instruction.data.length ++ instruction.data)))
def body (c : GuardCase) : List UInt8 :=
  u32 c.index ++ (u8 c.category ++ (u8 c.expectKind.value ++ (u8 c.expectCode ++ (key c.mintKey ++ (key c.mintOwner ++
    (u16 c.mintData.length ++ (c.mintData ++ (u8 c.guardData.length ++ (c.guardData ++ (i64 c.clock ++
      (u8 c.instructions.length ++ (c.instructions.flatMap instructionBytes ++ u16 c.currentIndex))))))))))))
/-- The length-prefixed binary record for one case. -/
def encodeCase (c : GuardCase) : Js (List UInt8) := do
  refuse_if (c.mintData.length > 0xffff ∨ c.guardData.length > 0xff ∨ c.instructions.length > 0xff) .RangeError
  let record := body c
  return u32 record.length ++ record
/-- The TypeScript mirror's view of a case. -/
def mirrorInvocation (c : GuardCase) : MirrorInvocation where
  programId := PROGRAM_ID
  data := c.guardData
  accounts := [⟨c.mintKey, c.mintOwner, c.mintData⟩,
    ⟨SYSVAR_INSTRUCTIONS_ADDRESS, address "Sysvar1111111111111111111111111111111111111" isAddress_sysvarOwner, []⟩]
  instructions := c.instructions
  currentInstructionIndex := c.currentIndex
  clockUnixTimestamp := c.clock

/-! ### The reader -/

structure Case where
  index : UInt32
  category : UInt8
  expect_kind : UInt8
  expect_code : UInt8
  invocation : GuardInvocation
  mint_owner : Key
deriving DecidableEq

namespace Cursor

/-- `<[u8; N]>::try_from`, of exactly so many bytes. -/
def chunk (size : Nat) : Reader UInt8 (Chunk size) := fun slice => split_first_chunk size slice
def u8 : Reader UInt8 UInt8 := do return (← chunk 1).byte
def u16 : Reader UInt8 UInt16 := do return u16_from_le_bytes (← chunk 2)
def u32 : Reader UInt8 UInt32 := do return u32_from_le_bytes (← chunk 4)
def i64 : Reader UInt8 I64 := do return I64.from_le_bytes (← chunk 8)
def address : Reader UInt8 Key := chunk 32

end Cursor

def parseMeta : Reader UInt8 AccountMeta := do
  let pubkey ← Cursor.address
  let is_signer := (← Cursor.u8) = 1
  let is_writable := (← Cursor.u8) = 1
  return { pubkey, is_signer, is_writable }
def parseInstruction : Reader UInt8 Instruction := do
  let program_id ← Cursor.address
  let accounts ← times parseMeta (← Cursor.u8).toNat
  let len ← Cursor.u16
  let data ← take len.toNat
  return { program_id, accounts, data }
theorem isAddress_id : isAddress "EbzHfaoSHdsWuVdatCmmcBnZi5npJBNXmWhFVeEtNnhT" = true := by decide +kernel
/-- `equity_guard::ID`. -/
def ID : Key := from_str_const "EbzHfaoSHdsWuVdatCmmcBnZi5npJBNXmWhFVeEtNnhT" isAddress_id
def fields : Reader UInt8 Case := do
  let index ← Cursor.u32
  let category ← Cursor.u8
  let expect_kind ← Cursor.u8
  let expect_code ← Cursor.u8
  let mint_key ← Cursor.address
  let mint_owner ← Cursor.address
  let mint_len ← Cursor.u16
  let mint_data ← take mint_len.toNat
  let guard_len ← Cursor.u8
  let guard_data ← take guard_len.toNat
  let clock ← Cursor.i64
  let count ← Cursor.u8
  let instructions ← times parseInstruction count.toNat
  let current_index ← Cursor.u16
  return {
    index, category, expect_kind, expect_code, mint_owner
    invocation := {
      program_id := ID
      guard_data
      accounts := [⟨mint_key, mint_owner, mint_data⟩, ⟨INSTRUCTIONS_SYSVAR_ID, ⟨List.replicate 32 0, zeros_size⟩, []⟩]
      instructions, current_index, clock } }
/-- A record with bytes left over is refused like one that ends early. -/
def parse (record : List UInt8) : Option Case :=
  match fields record with
  | some (case, []) => some case
  | _ => none

/-! ### The codes -/

/-- On-chain `EquityGuardError` codes. -/
def EQUITY_GUARD_ERROR_CODES : Entries EquityGuardError Nat :=
  [(.UnsupportedInstruction, 0), (.InvalidInstructionLength, 1), (.InvalidExpectedState, 2),
   (.InvalidAccountCount, 3), (.InvalidMintOwner, 4), (.InvalidMintData, 5), (.MissingScaledUiAmount, 6),
   (.InvalidExtensionCombination, 7), (.InvalidMultiplier, 8), (.MultiplierChanged, 9),
   (.NewMultiplierChanged, 10), (.EffectiveTimestampChanged, 11), (.ActivationPhaseChanged, 12),
   (.InsideTransitionWindow, 13), (.ArithmeticOverflow, 14), (.ClockUnavailable, 15),
   (.UnsupportedVersion, 16), (.MintKeyMismatch, 17), (.InvalidInstructionsSysvar, 18),
   (.MissingDownstreamInstruction, 19), (.UnsupportedDownstreamProgram, 20),
   (.UnsupportedDownstreamInstruction, 21), (.DownstreamMintMismatch, 22), (.DownstreamCommitmentMismatch, 23),
   (.UnsupportedAdapter, 24), (.GuardNotTopLevel, 25), (.GuardNotFirst, 26),
   (.UnsupportedTransactionGrammar, 27), (.InvalidComputeBudgetInstruction, 28), (.InvalidAtaSetup, 29),
   (.InvalidJupiterProgram, 30), (.InvalidJupiterInstruction, 31), (.InvalidJupiterDirection, 32),
   (.InvalidCounterMint, 33), (.InvalidTokenProgram, 34), (.DestinationOverrideUnsupported, 35),
   (.UnsupportedJupiterFee, 36), (.NonCanonicalSourceAccount, 37), (.NonCanonicalDestinationAccount, 38)]
def codeOf (name : EquityGuardError) : Nat := (EQUITY_GUARD_ERROR_CODES.get name).getD 0
/-- `error as u32`. -/
def discriminant (error : EquityGuardError) : Nat := error.ctorIdx
/-- Every error variant, in discriminant order. -/
def ALL_ERRORS : List EquityGuardError :=
  [.UnsupportedInstruction, .InvalidInstructionLength, .InvalidExpectedState, .InvalidAccountCount,
   .InvalidMintOwner, .InvalidMintData, .MissingScaledUiAmount, .InvalidExtensionCombination,
   .InvalidMultiplier, .MultiplierChanged, .NewMultiplierChanged, .EffectiveTimestampChanged,
   .ActivationPhaseChanged, .InsideTransitionWindow, .ArithmeticOverflow, .ClockUnavailable,
   .UnsupportedVersion, .MintKeyMismatch, .InvalidInstructionsSysvar, .MissingDownstreamInstruction,
   .UnsupportedDownstreamProgram, .UnsupportedDownstreamInstruction, .DownstreamMintMismatch,
   .DownstreamCommitmentMismatch, .UnsupportedAdapter, .GuardNotTopLevel, .GuardNotFirst,
   .UnsupportedTransactionGrammar, .InvalidComputeBudgetInstruction, .InvalidAtaSetup, .InvalidJupiterProgram,
   .InvalidJupiterInstruction, .InvalidJupiterDirection, .InvalidCounterMint, .InvalidTokenProgram,
   .DestinationOverrideUnsupported, .UnsupportedJupiterFee, .NonCanonicalSourceAccount,
   .NonCanonicalDestinationAccount]
/-- What a result byte is called. -/
inductive Label where
  | ok
  | named (error : EquityGuardError)
  | unknown (code : Nat)
deriving DecidableEq
/-- Result byte: 0 = allowed, otherwise program error code + 1. -/
def resultByte : Option EquityGuardError → Nat
  | none => 0
  | some error => codeOf error + 1
def resultName (byte : Nat) : Label :=
  if byte = 0 then .ok
  else match EQUITY_GUARD_ERROR_CODES.find? (fun entry => decide (entry.2 = byte - 1)) with
    | some entry => .named entry.1
    | none => .unknown (byte - 1)
/-- No discriminant is too large for the byte. -/
def result_byte : Checked Unit → UInt8
  | .ok () => 0
  | .error error => UInt8.ofNat (discriminant error + 1)
def error_name (code : Nat) : Label :=
  match ALL_ERRORS.find? (fun error => decide (discriminant error = code)) with
  | some error => .named error
  | none => .unknown code
def result_label (byte : UInt8) : Label := if byte = 0 then .ok else error_name (byte.toNat - 1)

/-! ### The evaluator -/

inductive Panic where
  | Panicked
deriving DecidableEq
def EXPECT_ALLOW : UInt8 := 0
def EXPECT_EXACT : UInt8 := 1
def EXPECT_ANY : UInt8 := 2
abbrev Tag := UInt32 × UInt8
structure Tally where
  results : List UInt8
  cases : Nat
  verdicts : Entries Label Nat
  unexpected_allows : List Tag
  unexpected_blocks : List (Tag × Label)
  exact_mismatches : List (Tag × Label × Label)
def u8_checked_add (left right : UInt8) : Option UInt8 :=
  if left.toNat + right.toNat < 2 ^ 8 then some (left + right) else none
/-- The answer to one case against what its record expects. -/
def scored (tally : Tally) (case : Case) (model : UInt8) : Except Panic Tally :=
  if case.expect_kind = EXPECT_ALLOW ∧ model ≠ 0 then
    .ok { tally with unexpected_blocks := tally.unexpected_blocks ++ [((case.index, case.category), result_label model)] }
  else if (case.expect_kind = EXPECT_EXACT ∨ case.expect_kind = EXPECT_ANY) ∧ model = 0 then
    .ok { tally with unexpected_allows := tally.unexpected_allows ++ [(case.index, case.category)] }
  else if case.expect_kind = EXPECT_EXACT then do
    let expected ← ok_or .Panicked (u8_checked_add case.expect_code 1)
    if model ≠ expected then
      return { tally with exact_mismatches :=
        tally.exact_mismatches ++ [((case.index, case.category), result_label expected, result_label model)] }
    else return tally
  else .ok tally
def counted (verdicts : Entries Label Nat) (label : Label) : Entries Label Nat :=
  verdicts.set label ((verdicts.get label).getD 0 + 1)
/-- The result byte of the host model, which may panic. -/
def model_byte : Except Stopped Unit → Except Panic UInt8
  | .ok () => .ok (result_byte (.ok ()))
  | .error (.Refused error) => .ok (result_byte (.error error))
  | .error .Panicked => .error .Panicked
def round (host : Host) (state : List UInt8 × Tally) : Except Panic ((List UInt8 × Tally) ⊕ Tally) :=
  -- A stream that ends inside a length ends the loop too.
  match split_first_chunk 4 state.1 with
  | none => .ok (.inr state.2)
  | some (length, input) => do
    let (record, input) ← ok_or .Panicked (split_at_checked (u32_from_le_bytes length).toNat input)
    let case ← ok_or .Panicked (parse record)
    let model ← model_byte (evaluate host case.invocation)
    let tally := { state.2 with
      results := state.2.results ++ [model]
      cases := state.2.cases + 1
      verdicts := counted state.2.verdicts (result_label model) }
    return .inl (input, ← scored tally case model)
/-- The evaluator, with no transaction sampled. -/
def main (host : Host) (fuel : Nat) (input : List UInt8) : Fueled Panic Tally :=
  forever (round host) fuel (input, ⟨[], 0, [], [], [], []⟩)

/-! ### The driver -/

structure Typescript where
  written : List UInt8
  pending : List UInt8
  results : List UInt8
  verdicts : Entries Label Nat
  unexpectedAllows : Nat
  unexpectedBlocks : Nat
  exactMismatches : Nat
def flush (state : Typescript) : Typescript :=
  if state.pending.length = 0 then state else { state with written := state.written ++ state.pending, pending := [] }
def GuardCase.judged (c : GuardCase) (state : Typescript) (byte : Nat) : Typescript :=
  if c.expectKind = .ALLOW ∧ byte ≠ 0 then { state with unexpectedBlocks := state.unexpectedBlocks + 1 }
  else if (c.expectKind = .BLOCK_EXACT ∨ c.expectKind = .BLOCK_ANY) ∧ byte = 0 then
    { state with unexpectedAllows := state.unexpectedAllows + 1 }
  else if c.expectKind = .BLOCK_EXACT ∧ byte ≠ c.expectCode + 1 then
    { state with exactMismatches := state.exactMismatches + 1 }
  else state
/-- The driver's loop body. -/
def driven (platform : Platform) (state : Typescript) (c : GuardCase) : Js Typescript := do
  let record ← encodeCase c
  let pushed := { state with pending := state.pending ++ record }
  let sent := if pushed.pending.length ≥ 1 <<< 20 then flush pushed else pushed
  let verdict ← evaluateGuard platform (mirrorInvocation c)
  let byte := resultByte verdict
  return c.judged { sent with
    results := sent.results ++ [UInt8.ofNat byte]
    verdicts := counted sent.verdicts (resultName byte) } byte
/-- The client's half of a run, up to where the stream ends. -/
def runTypescript (platform : Platform) (cases : List GuardCase) : Js Typescript := do
  return flush (← cases.foldlM (driven platform) ⟨[], [], [], [], 0, 0, 0⟩)
/-- How many of the evaluator's results differ from the client's. -/
def disagreementCount (rustBytes tsResults : List UInt8) : Nat :=
  (if rustBytes.length = tsResults.length then 0 else ((rustBytes.length : Int) - tsResults.length).natAbs) +
    (rustBytes.zip tsResults).countP (fun pair => decide (pair.1 ≠ pair.2))

/-! ### The round trip -/

/-- The record holds what the case holds. -/
structure Case.Carries (case : Case) (c : GuardCase) : Prop where
  index : case.index.toNat = c.index
  category : case.category.toNat = c.category
  kind : case.expect_kind.toNat = c.expectKind.value
  code : case.expect_code.toNat = c.expectCode
  owner : case.mint_owner = c.mintOwner.key
  program : case.invocation.program_id = ID
  guardData : case.invocation.guard_data = c.guardData
  accounts : case.invocation.accounts = [⟨c.mintKey.key, c.mintOwner.key, c.mintData⟩,
    ⟨INSTRUCTIONS_SYSVAR_ID, ⟨List.replicate 32 0, zeros_size⟩, []⟩]
  instructions : case.invocation.instructions = c.instructions.map (fun instruction => instruction.committed.toProgram)
  current : case.invocation.current_index.toNat = c.currentIndex
  clock : case.invocation.clock.value = c.clock
/-- The numbers the fields of a record can hold. -/
structure GuardCase.Fits (c : GuardCase) : Prop where
  index : c.index < 2 ^ 32
  category : c.category < 2 ^ 8
  code : c.expectCode < 2 ^ 8
  mintData : c.mintData.length < 2 ^ 16
  guardData : c.guardData.length < 2 ^ 8
  instructions : c.instructions.length < 2 ^ 8
  each : ∀ instruction ∈ c.instructions, instruction.accounts.length < 2 ^ 8 ∧ instruction.data.length < 2 ^ 16
  current : c.currentIndex < 2 ^ 16
  clock : -2 ^ 63 ≤ c.clock ∧ c.clock < 2 ^ 63

theorem yields_chunk {size : Nat} (letters : Chunk size) : Yields (Cursor.chunk size) letters.bytes letters :=
  split_first_chunk_append letters
theorem yields_address (address : Address) : Yields Cursor.address (key address) address.key := yields_chunk _
theorem yields_u8 (value : Nat) : Yields Cursor.u8 (u8 value) (UInt8.ofNat value) := (yields_chunk (leChunk 1 value)).map
theorem yields_u16 {value : Nat} (fits : value < 2 ^ 16) : Yields Cursor.u16 (u16 value) (UInt16.ofNat value) := by
  have read : Yields Cursor.u16 (u16 value) (UInt16.ofNat (leNat (leChunk 2 value).bytes)) :=
    (yields_chunk (leChunk 2 value)).map
  rwa [leNat_leChunk fits] at read
theorem yields_u32 {value : Nat} (fits : value < 2 ^ 32) : Yields Cursor.u32 (u32 value) (UInt32.ofNat value) := by
  have read : Yields Cursor.u32 (u32 value) (UInt32.ofNat (leNat (leChunk 4 value).bytes)) :=
    (yields_chunk (leChunk 4 value)).map
  rwa [leNat_leChunk fits] at read
theorem yields_i64 (value : Int) : Yields Cursor.i64 (i64 value) (I64.from_le_bytes (leChunk 8 (value % 2 ^ 64).toNat)) := by
  generalize residue : (value % 2 ^ 64).toNat = number
  have bytes : i64 value = (leChunk 8 number).bytes := by rw [i64, residue, leChunk]
  rw [bytes]
  exact (yields_chunk (leChunk 8 number)).map
theorem yields_meta (account : MirrorAccountMeta) :
    Yields parseMeta (metaBytes account) ⟨account.pubkey.key, account.isSigner, account.isWritable⟩ := by
  have flag : ∀ flag : Bool, decide (UInt8.ofNat (if flag then 1 else 0) = 1) = flag := by decide
  have read : Yields parseMeta (metaBytes account)
      ⟨account.pubkey.key, decide (UInt8.ofNat (if account.isSigner then 1 else 0) = 1),
        decide (UInt8.ofNat (if account.isWritable then 1 else 0) = 1)⟩ :=
    (yields_address _).bind ((yields_u8 _).bind (yields_u8 _).map)
  rwa [flag, flag] at read
theorem yields_bytes {letters : List UInt8} {length : Nat} (same : length = letters.length) :
    Yields (take length) letters letters := same ▸ yields_take letters
theorem yields_instruction (instruction : MirrorInstruction) (accounts : instruction.accounts.length < 2 ^ 8)
    (data : instruction.data.length < 2 ^ 16) :
    Yields parseInstruction (instructionBytes instruction) instruction.committed.toProgram := by
  have count : (UInt8.ofNat instruction.accounts.length).toNat = instruction.accounts.length :=
    UInt8.toNat_ofNat_of_lt accounts
  have length : (UInt16.ofNat instruction.data.length).toNat = instruction.data.length := UInt16.toNat_ofNat_of_lt data
  have metas : Yields (times parseMeta (UInt8.ofNat instruction.accounts.length).toNat)
      (instruction.accounts.flatMap metaBytes)
      (instruction.accounts.map fun account => ⟨account.pubkey.key, account.isSigner, account.isWritable⟩) := by
    rw [count]
    exact yields_times fun account _ => yields_meta account
  have read : Yields parseInstruction (instructionBytes instruction) ⟨instruction.programId.key,
      instruction.accounts.map fun account => ⟨account.pubkey.key, account.isSigner, account.isWritable⟩,
      instruction.data⟩ :=
    (yields_address _).bind ((yields_u8 _).bind (metas.bind ((yields_u16 data).bind (yields_bytes length).map)))
  have accountsEq : instruction.committed.toProgram.accounts =
      instruction.accounts.map fun account => ⟨account.pubkey.key, account.isSigner, account.isWritable⟩ :=
    List.map_map
  rw [← accountsEq] at read
  exact read
/-- The case as a reader of its record sees it. -/
def GuardCase.read (c : GuardCase) : Case where
  index := UInt32.ofNat c.index
  category := UInt8.ofNat c.category
  expect_kind := UInt8.ofNat c.expectKind.value
  expect_code := UInt8.ofNat c.expectCode
  invocation := {
    program_id := ID
    guard_data := c.guardData
    accounts := [⟨c.mintKey.key, c.mintOwner.key, c.mintData⟩,
      ⟨INSTRUCTIONS_SYSVAR_ID, ⟨List.replicate 32 0, zeros_size⟩, []⟩]
    instructions := c.instructions.map (fun instruction => instruction.committed.toProgram)
    current_index := UInt16.ofNat c.currentIndex
    clock := I64.from_le_bytes (leChunk 8 (c.clock % 2 ^ 64).toNat) }
  mint_owner := c.mintOwner.key
theorem yields_fields {c : GuardCase} (fits : c.Fits) : Yields fields (body c) c.read := by
  have mintLength : (UInt16.ofNat c.mintData.length).toNat = c.mintData.length := UInt16.toNat_ofNat_of_lt fits.mintData
  have guardLength : (UInt8.ofNat c.guardData.length).toNat = c.guardData.length := UInt8.toNat_ofNat_of_lt fits.guardData
  have count : (UInt8.ofNat c.instructions.length).toNat = c.instructions.length :=
    UInt8.toNat_ofNat_of_lt fits.instructions
  have instructions : Yields (times parseInstruction (UInt8.ofNat c.instructions.length).toNat)
      (c.instructions.flatMap instructionBytes)
      (c.instructions.map fun instruction => instruction.committed.toProgram) := by
    rw [count]
    exact yields_times fun instruction member =>
      yields_instruction instruction (fits.each instruction member).1 (fits.each instruction member).2
  exact (yields_u32 fits.index).bind ((yields_u8 _).bind ((yields_u8 _).bind ((yields_u8 _).bind
    ((yields_address _).bind ((yields_address _).bind ((yields_u16 fits.mintData).bind ((yields_bytes mintLength).bind
      ((yields_u8 _).bind ((yields_bytes guardLength).bind ((yields_i64 c.clock).bind ((yields_u8 _).bind
        (instructions.bind (yields_u16 fits.current).map))))))))))))
theorem carries_read {c : GuardCase} (fits : c.Fits) : c.read.Carries c where
  index := UInt32.toNat_ofNat_of_lt fits.index
  category := UInt8.toNat_ofNat_of_lt fits.category
  kind := UInt8.toNat_ofNat_of_lt (by cases c.expectKind <;> decide)
  code := UInt8.toNat_ofNat_of_lt fits.code
  owner := rfl
  program := rfl
  guardData := rfl
  accounts := rfl
  instructions := rfl
  current := UInt16.toNat_ofNat_of_lt fits.current
  clock := congrArg I64.value (I64.from_to_le_bytes ⟨c.clock, fits.clock.1, fits.clock.2⟩)

/-- What the format bounds in a record that was read. -/
structure Case.Bounded (case : Case) : Prop where
  accounts : ∀ account ∈ case.invocation.accounts, account.data.length < 2 ^ 16
  guardData : case.invocation.guard_data.length < 2 ^ 8
  instructions : case.invocation.instructions.length < 2 ^ 8
  each : ∀ instruction ∈ case.invocation.instructions, instruction.accounts.length < 2 ^ 8 ∧
    instruction.data.length < 2 ^ 16
theorem gives_instruction : Gives parseInstruction (fun instruction => instruction.accounts.length < 2 ^ 8 ∧
    instruction.data.length < 2 ^ 16) := by
  unfold parseInstruction
  refine (Gives.anything _).bind fun _ _ => (Gives.anything _).bind fun count _ =>
    (gives_times (Gives.anything _) _).bind fun accounts counted => (Gives.anything _).bind fun length _ =>
      (gives_take _).bind fun data sized => Gives.pure ⟨?_, ?_⟩
  · rw [counted.1]
    exact count.toNat_lt
  · rw [sized]
    exact length.toNat_lt
theorem gives_fields : Gives fields Case.Bounded := by
  unfold fields
  refine (Gives.anything _).bind fun _ _ => (Gives.anything _).bind fun _ _ => (Gives.anything _).bind fun _ _ =>
    (Gives.anything _).bind fun _ _ => (Gives.anything _).bind fun _ _ => (Gives.anything _).bind fun _ _ =>
    (Gives.anything _).bind fun mint_len _ => (gives_take _).bind fun mint_data mintSized =>
    (Gives.anything _).bind fun guard_len _ => (gives_take _).bind fun guard_data guardSized =>
    (Gives.anything _).bind fun _ _ => (Gives.anything _).bind fun count _ =>
    (gives_times gives_instruction _).bind fun instructions counted => (Gives.anything _).bind fun _ _ =>
    Gives.pure ⟨?_, ?_, ?_, counted.2⟩
  · have mintBound := mint_len.toNat_lt
    simp [mintSized]
    omega
  · simpa [guardSized] using guard_len.toNat_lt
  · simpa [counted.1] using count.toNat_lt

theorem parse_eq_some {record : List UInt8} {case : Case} : parse record = some case ↔ fields record = some (case, []) := by
  unfold parse
  constructor
  · intro accepted
    split at accepted
    · rename_i whole
      rw [whole, ← Option.some.inj accepted]
    · cases accepted
  · intro whole
    rw [whole]
theorem encodeCase_eq_ok {c : GuardCase} {framed : List UInt8} : encodeCase c = .ok framed ↔
    (c.mintData.length ≤ 0xffff ∧ c.guardData.length ≤ 0xff ∧ c.instructions.length ≤ 0xff) ∧
      framed = u32 (body c).length ++ body c := by
  rw [encodeCase, then_eq_ok, refuse_if_eq_ok, not_or, not_or, not_lt, not_lt, not_lt, pure_eq_ok, Except.ok.injEq, eq_comm]
theorem carries_fits {case : Case} {c : GuardCase} (bounded : case.Bounded) (carries : case.Carries c) : c.Fits where
  index := carries.index ▸ case.index.toNat_lt
  category := carries.category ▸ case.category.toNat_lt
  code := carries.code ▸ case.expect_code.toNat_lt
  mintData := by
    have accounts := bounded.accounts
    rw [carries.accounts] at accounts
    exact accounts _ List.mem_cons_self
  guardData := carries.guardData ▸ bounded.guardData
  instructions := by
    have count := bounded.instructions
    rwa [carries.instructions, List.length_map] at count
  each := by
    intro instruction member
    have each := bounded.each
    rw [carries.instructions] at each
    have bound := each _ (List.mem_map_of_mem member)
    rwa [show instruction.committed.toProgram.accounts.length = instruction.accounts.length from
      (List.length_map _).trans (List.length_map _)] at bound
  current := carries.current ▸ case.invocation.current_index.toNat_lt
  clock := carries.clock ▸ ⟨case.invocation.clock.lower, case.invocation.clock.upper⟩

theorem parse_body {c : GuardCase} (fits : c.Fits) : parse (body c) = some c.read :=
  parse_eq_some.mpr (yields_fields fits).whole
/-- The guarded transfer of the host model, as a case. -/
def transferCase (index : Nat) : GuardCase where
  index
  category := 0
  expectKind := .UNSPECIFIED
  expectCode := 255
  mintKey := .ofKey (Processor.repeated 9)
  mintOwner := .ofKey TOKEN_2022_PROGRAM_ID
  mintData := Guard.splitMint
  guardData := Processor.transferRequest.pack
  clock := 0
  instructions := Processor.guardedTransfer.map ofInstruction
  currentIndex := 0
theorem transferCase_encodes (index : Nat) :
    encodeCase (transferCase index) = .ok (u32 (body (transferCase index)).length ++ body (transferCase index)) := by
  have guard : (transferCase index).guardData.length = 99 := Instruction.AssertSafeExecutionV2.pack_length _
  have mint : (transferCase index).mintData.length ≤ 0xffff := by
    change Guard.splitMint.length ≤ 0xffff
    decide +kernel
  have count : (transferCase index).instructions.length = 2 := rfl
  exact encodeCase_eq_ok.mpr ⟨⟨mint, by omega, by omega⟩, rfl⟩
theorem transferCase_fits : (transferCase 0).Fits where
  index := by decide
  category := by decide
  code := by decide
  mintData := by
    change Guard.splitMint.length < 2 ^ 16
    decide +kernel
  guardData := by
    rw [transferCase, Instruction.AssertSafeExecutionV2.pack_length]
    decide
  instructions := by decide
  each := by
    have guard : Processor.transferRequest.pack.length = 99 := Instruction.AssertSafeExecutionV2.pack_length _
    simp [transferCase, Processor.guardedTransfer, Processor.transfer, ofInstruction, guard]
  current := by decide
  clock := by decide
theorem codeOf_eq (error : EquityGuardError) : codeOf error = discriminant error := by cases error <;> rfl
theorem discriminant_lt (error : EquityGuardError) : discriminant error < 39 := by cases error <;> decide
theorem result_byte_eq (result : Checked Unit) : result_byte result = UInt8.ofNat (resultByte (verdict result)) := by
  cases result with
  | ok done => rfl
  | error error => exact congrArg (fun code => UInt8.ofNat (code + 1)) (codeOf_eq error).symm
theorem result_byte_toNat (result : Checked Unit) : (result_byte result).toNat = resultByte (verdict result) := by
  rw [result_byte_eq]
  refine UInt8.toNat_ofNat_of_lt ?_
  cases result with
  | ok done => exact Nat.two_pow_pos 8
  | error error =>
    have small := discriminant_lt error
    have code := codeOf_eq error
    change codeOf error + 1 < 2 ^ 8
    omega
theorem result_label_eq (result : Checked Unit) : result_label (result_byte result) = resultName (resultByte (verdict result)) := by
  cases result with
  | ok done => rfl
  | error error => cases error <;> rfl

/-- What both sides answer to a case. -/
def GuardCase.answer (host : Host) (c : GuardCase) : Checked Unit := onChain host.toLinked c.read.invocation
/-- The sysvar can hold the case's instructions, and a code it expects is not the marker for none. -/
structure GuardCase.Ordinary (c : GuardCase) : Prop extends c.Fits where
  exposed : Sysvar.Fits c.read.invocation.instructions
  named : c.expectKind = .BLOCK_EXACT → c.expectCode ≠ 255

theorem ofInstruction_committed (instruction : MirrorInstruction) :
    ofInstruction instruction.committed.toProgram = instruction := by
  obtain ⟨programId, accounts, data⟩ := instruction
  have metas : (accounts.map (fun account : MirrorAccountMeta =>
      (⟨account.pubkey, account.isSigner, account.isWritable⟩ : CommittedAccount))).map
        (ofAccountMeta ∘ CommittedAccount.toProgram) = accounts := by
    rw [List.map_map]
    refine List.map_id'' (fun account => ?_) _
    simp [ofAccountMeta, CommittedAccount.toProgram]
  simp only [ofInstruction, CommittedInstruction.toProgram, MirrorInstruction.committed, Address.ofKey_key, List.map_map,
    MirrorInstruction.mk.injEq, true_and, and_true]
  rwa [List.map_map] at metas
/-- The mirror never looks at the owner of the sysvar, in which the two views differ. -/
theorem evaluateGuard_read (platform : Platform) {c : GuardCase} (fits : c.Fits) :
    evaluateGuard platform (mirrorInvocation c) = evaluateGuard platform c.read.invocation.mirror := by
  have carries := carries_read fits
  have instructions : c.read.invocation.instructions.map ofInstruction = c.instructions := by
    rw [carries.instructions, List.map_map]
    exact List.map_id'' ofInstruction_committed _
  have program : Address.ofKey ID = PROGRAM_ID := Address.ofKey_key PROGRAM_ID
  have sysvar : Address.ofKey INSTRUCTIONS_SYSVAR_ID = SYSVAR_INSTRUCTIONS_ADDRESS := Address.ofKey_key SYSVAR_INSTRUCTIONS_ADDRESS
  have mirror : c.read.invocation.mirror = { mirrorInvocation c with
      accounts := [⟨c.mintKey, c.mintOwner, c.mintData⟩,
        ⟨SYSVAR_INSTRUCTIONS_ADDRESS, .ofKey ⟨List.replicate 32 0, zeros_size⟩, []⟩] } := by
    rw [GuardInvocation.mirror, instructions, carries.program, carries.guardData, carries.accounts, carries.current,
      carries.clock, program]
    simp only [List.map_cons, List.map_nil, Address.ofKey_key, sysvar]
    rfl
  rw [mirror]
  rfl
theorem evaluateGuard_answer {host : Host} (documented : host.Documented) {c : GuardCase} (ordinary : c.Ordinary) :
    evaluateGuard host.platform (mirrorInvocation c) = .ok (verdict (c.answer host)) := by
  rw [evaluateGuard_read host.platform ordinary.toFits]
  exact (models_agree documented c.read.invocation ordinary.exposed).2
theorem evaluate_answer {host : Host} (documented : host.Documented) {c : GuardCase} (ordinary : c.Ordinary) :
    evaluate host c.read.invocation = raised (c.answer host) :=
  (models_agree documented c.read.invocation ordinary.exposed).1

/-! ### A whole run -/

theorem instructionBytes_length (instruction : MirrorInstruction) :
    (instructionBytes instruction).length = 35 + 34 * instruction.accounts.length + instruction.data.length := by
  have metas : (instruction.accounts.flatMap metaBytes).length = instruction.accounts.length * 34 :=
    Framing.length_flatMap (fun account => by simp [metaBytes, key, u8]) _
  simp only [instructionBytes, List.length_append, metas, key, u8, u16, leBytes_length, Chunk.size_eq]
  omega
/-- The length of a record fits its own field. -/
theorem body_length_lt {c : GuardCase} (fits : c.Fits) : (body c).length < 2 ^ 32 := by
  have mint := fits.mintData
  have guard := fits.guardData
  have count := fits.instructions
  have each : ∀ size ∈ c.instructions.map (fun instruction => (instructionBytes instruction).length), size ≤ 80000 := by
    intro size member
    obtain ⟨instruction, inside, rfl⟩ := List.mem_map.mp member
    have bound := fits.each instruction inside
    rw [instructionBytes_length]
    omega
  have total := List.sum_le_card_nsmul _ _ each
  rw [List.length_map, Nat.nsmul_eq_mul] at total
  have instructions : (c.instructions.flatMap instructionBytes).length ≤ c.instructions.length * 80000 := by
    rwa [List.length_flatMap]
  simp only [body, List.length_append, key, u8, u16, u32, i64, leBytes_length, Chunk.size_eq]
  omega
theorem encodeCase_fits {c : GuardCase} (fits : c.Fits) : encodeCase c = .ok (u32 (body c).length ++ body c) := by
  have mint := fits.mintData
  have guard := fits.guardData
  have count := fits.instructions
  exact encodeCase_eq_ok.mpr ⟨by omega, rfl⟩

theorem model_byte_raised (result : Checked Unit) : model_byte (raised result) = .ok (result_byte result) := by
  cases result <;> rfl
/-- The tally after one more case. -/
def Tally.after (host : Host) (tally : Tally) (c : GuardCase) : Tally :=
  let model := result_byte (c.answer host)
  let next : Tally := { tally with
    results := tally.results ++ [model]
    cases := tally.cases + 1
    verdicts := counted tally.verdicts (result_label model) }
  match scored next c.read model with
  | .ok scored => scored
  | .error _ => next
theorem expect_kind_read (c : GuardCase) : (c.read.expect_kind = EXPECT_ALLOW ↔ c.expectKind = .ALLOW) ∧
    (c.read.expect_kind = EXPECT_EXACT ↔ c.expectKind = .BLOCK_EXACT) ∧
    (c.read.expect_kind = EXPECT_ANY ↔ c.expectKind = .BLOCK_ANY) := by
  have value : c.read.expect_kind = UInt8.ofNat c.expectKind.value := rfl
  rw [value]
  cases c.expectKind <;> decide
/-- The evaluator scores a case by the numbers the client judges it by. -/
theorem scored_read {c : GuardCase} (ordinary : c.Ordinary) (result : Checked Unit) (tally : Tally) :
    scored tally c.read (result_byte result) = .ok (
      if c.expectKind = .ALLOW ∧ resultByte (verdict result) ≠ 0 then
        { tally with unexpected_blocks := tally.unexpected_blocks ++
          [((c.read.index, c.read.category), result_label (result_byte result))] }
      else if (c.expectKind = .BLOCK_EXACT ∨ c.expectKind = .BLOCK_ANY) ∧ resultByte (verdict result) = 0 then
        { tally with unexpected_allows := tally.unexpected_allows ++ [(c.read.index, c.read.category)] }
      else if c.expectKind = .BLOCK_EXACT ∧ resultByte (verdict result) ≠ c.expectCode + 1 then
        { tally with exact_mismatches := tally.exact_mismatches ++
          [((c.read.index, c.read.category), result_label (c.read.expect_code + 1), result_label (result_byte result))] }
      else tally) := by
  obtain ⟨allow, block, any⟩ := expect_kind_read c
  have zero : result_byte result = 0 ↔ resultByte (verdict result) = 0 := by
    rw [← result_byte_toNat, ← UInt8.toNat_inj]
    rfl
  simp only [scored, ne_eq, allow, block, any, zero]
  by_cases exact : c.expectKind = .BLOCK_EXACT
  swap
  · simp only [exact, false_and, false_or, ↓reduceIte]
    split_ifs <;> rfl
  have small := ordinary.code
  have other := ordinary.named exact
  have code : c.read.expect_code.toNat = c.expectCode := (carries_read ordinary.toFits).code
  have one : (1 : UInt8).toNat = 1 := rfl
  have sum : (c.read.expect_code + 1).toNat = c.expectCode + 1 := by
    rw [UInt8.toNat_add, code, one]
    omega
  have room : u8_checked_add c.read.expect_code 1 = some (c.read.expect_code + 1) := by
    rw [u8_checked_add, code, one, if_pos (by omega)]
  have mismatch : result_byte result = c.read.expect_code + 1 ↔ resultByte (verdict result) = c.expectCode + 1 := by
    rw [← result_byte_toNat, ← sum, UInt8.toNat_inj]
  simp only [exact, room, ok_or_some, ok_bind, mismatch, true_and, true_or, ↓reduceIte, reduceCtorEq, false_and]
  split_ifs <;> rfl
theorem round_record {host : Host} (documented : host.Documented) {c : GuardCase} (ordinary : c.Ordinary)
    (rest : List UInt8) (tally : Tally) :
    round host (u32 (body c).length ++ body c ++ rest, tally) = .ok (.inl (rest, tally.after host c)) := by
  have header : split_first_chunk 4 (u32 (body c).length ++ body c ++ rest) =
      some (leChunk 4 (body c).length, body c ++ rest) := by
    rw [List.append_assoc]
    exact split_first_chunk_append (leChunk 4 (body c).length) _
  have length : (u32_from_le_bytes (leChunk 4 (body c).length)).toNat = (body c).length := by
    rw [u32_from_le_bytes_toNat]
    exact leNat_leChunk (body_length_lt ordinary.toFits)
  rw [round, header, Tally.after]
  simp only [length, split_at_checked_append, ok_or_some, ok_bind, parse_body ordinary.toFits,
    evaluate_answer documented ordinary, model_byte_raised, scored_read ordinary, pure_eq_ok]
theorem round_end (host : Host) (tally : Tally) : round host ([], tally) = .ok (.inr tally) := rfl
/-- The evaluator ends on every stream of written cases. -/
theorem main_ends {host : Host} (documented : host.Documented) {cases : List GuardCase} (ordinary : ∀ c ∈ cases, c.Ordinary) :
    Ends (fun fuel => main host fuel (cases.flatMap fun c => u32 (body c).length ++ body c))
      (cases.foldl (Tally.after host) ⟨[], 0, [], [], [], []⟩) :=
  ends_records (fun c member rest tally => round_record documented (ordinary c member) rest tally) (round_end host) _

/-- The answer is the one the generator expects. -/
def GuardCase.Met (c : GuardCase) (answer : Option EquityGuardError) : Prop :=
  match c.expectKind with
  | .ALLOW => answer = none
  | .BLOCK_EXACT => ∃ error, answer = some error ∧ codeOf error = c.expectCode
  | .BLOCK_ANY => answer ≠ none
  | .UNSPECIFIED => True
/-- Nothing the client counted went against what was expected. -/
def Typescript.Clean (ts : Typescript) : Prop :=
  ts.unexpectedAllows = 0 ∧ ts.unexpectedBlocks = 0 ∧ ts.exactMismatches = 0
/-- Where the two sides stand after the same cases. -/
structure Agree (host : Host) (seen : List GuardCase) (ts : Typescript) (tally : Tally) : Prop where
  stream : ts.written ++ ts.pending = seen.flatMap fun c => u32 (body c).length ++ body c
  answers : ts.results = seen.map fun c => UInt8.ofNat (resultByte (verdict (c.answer host)))
  results : tally.results = ts.results
  cases : tally.cases = seen.length
  verdicts : tally.verdicts = ts.verdicts
  allows : tally.unexpected_allows.length = ts.unexpectedAllows
  blocks : tally.unexpected_blocks.length = ts.unexpectedBlocks
  mismatches : tally.exact_mismatches.length = ts.exactMismatches
  clean : ts.Clean ↔ ∀ c ∈ seen, c.Met (verdict (c.answer host))

/-- What a flush moves is the stream alone. -/
theorem flush_eq (state : Typescript) :
    ∃ written pending, flush state = { state with written, pending } ∧ written ++ pending = state.written ++ state.pending := by
  unfold flush
  split
  · exact ⟨_, _, rfl, rfl⟩
  · exact ⟨_, _, rfl, List.append_nil _⟩

theorem met_iff (c : GuardCase) (answer : Option EquityGuardError) : c.Met answer ↔
    ¬ (c.expectKind = .ALLOW ∧ resultByte answer ≠ 0) ∧
    ¬ ((c.expectKind = .BLOCK_EXACT ∨ c.expectKind = .BLOCK_ANY) ∧ resultByte answer = 0) ∧
    ¬ (c.expectKind = .BLOCK_EXACT ∧ resultByte answer ≠ c.expectCode + 1) := by
  cases kind : c.expectKind <;> cases answer <;> simp [GuardCase.Met, kind, resultByte]
/-- One case is judged alike, whichever side judges it. -/
theorem judged_alike {c : GuardCase} (ordinary : c.Ordinary) (result : Checked Unit) (ts : Typescript) (tally : Tally)
    (allows : tally.unexpected_allows.length = ts.unexpectedAllows)
    (blocks : tally.unexpected_blocks.length = ts.unexpectedBlocks)
    (mismatches : tally.exact_mismatches.length = ts.exactMismatches) :
    ∃ next, scored tally c.read (result_byte result) = .ok next ∧
      let judged := c.judged ts (resultByte (verdict result))
      next.results = tally.results ∧ next.cases = tally.cases ∧ next.verdicts = tally.verdicts ∧
      judged.written = ts.written ∧ judged.pending = ts.pending ∧ judged.results = ts.results ∧
      judged.verdicts = ts.verdicts ∧
      next.unexpected_allows.length = judged.unexpectedAllows ∧ next.unexpected_blocks.length = judged.unexpectedBlocks ∧
      next.exact_mismatches.length = judged.exactMismatches ∧
      (judged.Clean ↔ ts.Clean ∧ c.Met (verdict result)) := by
  refine ⟨_, scored_read ordinary result tally, ?_⟩
  rw [met_iff]
  simp only [GuardCase.judged]
  split_ifs with block allow mismatch
  · simp [block, allows, blocks, mismatches, Typescript.Clean]
  · simp [allow, allows, blocks, mismatches, Typescript.Clean]
  · simp [mismatch, allows, blocks, mismatches, Typescript.Clean]
  · simp only [block, allow, mismatch, allows, blocks, mismatches, not_false_eq_true, and_self, and_true]

/-- Each case leaves the two sides in agreement. -/
theorem agree_step {host : Host} (documented : host.Documented) {c : GuardCase} (ordinary : c.Ordinary)
    {seen : List GuardCase} {ts : Typescript} {tally : Tally} (agree : Agree host seen ts tally) :
    ∃ next, driven host.platform ts c = .ok next ∧ Agree host (seen ++ [c]) next (tally.after host c) := by
  obtain ⟨written, pending, sent, stream⟩ : ∃ written pending,
      (if (ts.pending ++ (u32 (body c).length ++ body c)).length ≥ 1 <<< 20 then
        flush { ts with pending := ts.pending ++ (u32 (body c).length ++ body c) }
        else { ts with pending := ts.pending ++ (u32 (body c).length ++ body c) }) =
        { ts with written := written, pending := pending } ∧
      written ++ pending = ts.written ++ (ts.pending ++ (u32 (body c).length ++ body c)) := by
    split
    · exact flush_eq _
    · exact ⟨_, _, rfl, rfl⟩
  have label : result_label (result_byte (c.answer host)) = resultName (resultByte (verdict (c.answer host))) :=
    result_label_eq _
  obtain ⟨next, goes, results, cases, verdicts, judgedWritten, judgedPending, judgedResults, judgedVerdicts, allows, blocks,
    mismatches, clean⟩ := judged_alike ordinary (c.answer host)
      { ts with
        written, pending
        results := ts.results ++ [UInt8.ofNat (resultByte (verdict (c.answer host)))]
        verdicts := counted ts.verdicts (resultName (resultByte (verdict (c.answer host)))) }
      { tally with
        results := tally.results ++ [result_byte (c.answer host)]
        cases := tally.cases + 1
        verdicts := counted tally.verdicts (result_label (result_byte (c.answer host))) }
      agree.allows agree.blocks agree.mismatches
  have after : tally.after host c = next := by
    rw [Tally.after]
    simp only [goes]
  have drove : driven host.platform ts c = .ok (c.judged { ts with
      written, pending
      results := ts.results ++ [UInt8.ofNat (resultByte (verdict (c.answer host)))]
      verdicts := counted ts.verdicts (resultName (resultByte (verdict (c.answer host)))) }
        (resultByte (verdict (c.answer host)))) := by
    rw [driven, encodeCase_fits ordinary.toFits, ok_bind, evaluateGuard_answer documented ordinary, ok_bind, sent]
    rfl
  refine ⟨_, drove, ?_⟩
  rw [after]
  constructor
  · rw [judgedWritten, judgedPending, stream, List.flatMap_append, ← agree.stream, List.append_assoc, List.flatMap_singleton]
  · rw [judgedResults, List.map_append, ← agree.answers]
    rfl
  · rw [results, judgedResults, agree.results, result_byte_eq]
  · rw [cases, agree.cases, List.length_append, List.length_singleton]
  · rw [verdicts, judgedVerdicts, agree.verdicts, label]
  · exact allows
  · exact blocks
  · exact mismatches
  · rw [clean, List.forall_mem_append, List.forall_mem_singleton]
    exact and_congr_left fun _ => agree.clean
/-- So do all of them, in whatever batches the stream is written. -/
theorem agree_run {host : Host} (documented : host.Documented) {cases seen : List GuardCase}
    (ordinary : ∀ c ∈ cases, c.Ordinary) {ts : Typescript} {tally : Tally} (agree : Agree host seen ts tally) :
    ∃ last, cases.foldlM (driven host.platform) ts = .ok last ∧
      Agree host (seen ++ cases) last (cases.foldl (Tally.after host) tally) := by
  induction cases generalizing seen ts tally with
  | nil => exact ⟨ts, rfl, by rwa [List.append_nil]⟩
  | cons c rest ih =>
    obtain ⟨next, drove, kept⟩ := agree_step documented (ordinary c List.mem_cons_self) agree
    obtain ⟨last, ran, all⟩ := ih (fun other member => ordinary other (List.mem_cons_of_mem _ member)) kept
    refine ⟨last, ?_, ?_⟩
    · rw [List.foldlM_cons, drove, ok_bind, ran]
    · rwa [List.append_assoc] at all
theorem disagreementCount_self (bytes : List UInt8) : disagreementCount bytes bytes = 0 := by
  rw [disagreementCount, if_pos rfl, Nat.zero_add]
  induction bytes with
  | nil => rfl
  | cons byte rest ih => simpa using ih

/-- What the last flush leaves behind. -/
theorem flush_whole (state : Typescript) :
    (flush state).pending = [] ∧ (flush state).written = state.written ++ state.pending := by
  unfold flush
  split
  · rename_i empty
    have none := List.length_eq_zero_iff.mp empty
    exact ⟨none, by rw [none, List.append_nil]⟩
  · exact ⟨rfl, rfl⟩
theorem transferCase_ordinary : (transferCase 0).Ordinary where
  toFits := transferCase_fits
  exposed := by
    have instructions : (transferCase 0).read.invocation.instructions = Processor.guardedTransfer := by
      rw [(carries_read transferCase_fits).instructions, transferCase, List.map_map]
      exact List.map_id'' committed_ofInstruction _
    rw [instructions]
    exact Processor.guardedTransfer_fits
  named := by
    intro exact
    cases exact
/-- The two halves of a differential run. Over the stream the client writes the evaluator ends, no result differs and both
    sides count alike, whatever the program answers; the counts are clean exactly when it answers every case as expected. -/
theorem differential_agrees {host : Host} (documented : host.Documented) {cases : List GuardCase}
    (ordinary : ∀ c ∈ cases, c.Ordinary) : ∃ ts tally,
      runTypescript host.platform cases = .ok ts ∧ Ends (fun fuel => main host fuel ts.written) tally ∧
      disagreementCount tally.results ts.results = 0 ∧ Agree host cases ts tally := by
  have start : Agree host [] ⟨[], [], [], [], 0, 0, 0⟩ ⟨[], 0, [], [], [], []⟩ :=
    ⟨rfl, rfl, rfl, rfl, rfl, rfl, rfl, rfl, by simp [Typescript.Clean]⟩
  obtain ⟨last, ran, agree⟩ := agree_run documented ordinary start
  rw [List.nil_append] at agree
  obtain ⟨sent, whole⟩ := flush_whole last
  obtain ⟨written, pending, flushed, stream⟩ := flush_eq last
  have kept : Agree host cases (flush last) (cases.foldl (Tally.after host) ⟨[], 0, [], [], [], []⟩) := by
    rw [flushed]
    exact { agree with stream := stream.trans agree.stream, clean := agree.clean }
  refine ⟨flush last, _, by rw [runTypescript, ran]; rfl, ?_, ?_, kept⟩
  · rw [whole, agree.stream]
    exact main_ends documented ordinary
  · rw [kept.results]
    exact disagreementCount_self _
theorem differential_agrees_transfer : ∃ ts tally,
    runTypescript transferHost.platform [transferCase 0] = .ok ts ∧
      Ends (fun fuel => main transferHost fuel ts.written) tally ∧
      disagreementCount tally.results ts.results = 0 ∧ Agree transferHost [transferCase 0] ts tally :=
  differential_agrees transferHost_documented (List.forall_mem_singleton.mpr transferCase_ordinary)

end EquityGuard.GuardCases
