import EquityGuard.Addresses

/-!
Top-level instructions of a transaction, as the program and the client hold them.
The flags are the transaction's: merged over all its instructions.
-/
namespace EquityGuard.Transaction
open EquityGuard.Addresses

@[ext] structure AccountMeta where
  pubkey : Key
  is_signer : Bool
  is_writable : Bool
deriving DecidableEq

@[ext] structure Instruction where
  program_id : Key
  accounts : List AccountMeta
  data : List UInt8
deriving DecidableEq

/-! ### The client's types -/

@[ext] structure CommittedAccount where
  address : Address
  isSigner : Bool
  isWritable : Bool
deriving DecidableEq

@[ext] structure CommittedInstruction where
  programAddress : Address
  accounts : List CommittedAccount
  data : List UInt8
deriving DecidableEq

def CommittedAccount.toProgram (account : CommittedAccount) : AccountMeta where
  pubkey := account.address.key
  is_signer := account.isSigner
  is_writable := account.isWritable
def CommittedInstruction.toProgram (instruction : CommittedInstruction) : Instruction where
  program_id := instruction.programAddress.key
  accounts := instruction.accounts.map CommittedAccount.toProgram
  data := instruction.data

theorem CommittedAccount.toProgram_injective : Function.Injective CommittedAccount.toProgram := by
  intro left right same
  simp only [toProgram, AccountMeta.mk.injEq] at same
  exact CommittedAccount.ext (Address.key_injective same.1) same.2.1 same.2.2
theorem CommittedInstruction.toProgram_injective : Function.Injective CommittedInstruction.toProgram := by
  intro left right same
  simp only [toProgram, Instruction.mk.injEq] at same
  exact CommittedInstruction.ext (Address.key_injective same.1)
    (List.map_injective_iff.mpr CommittedAccount.toProgram_injective same.2.1) same.2.2

end EquityGuard.Transaction
