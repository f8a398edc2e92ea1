import EquityGuard.ClientJupiter

/-!
Which deployment of the guard, if any, can run on the cluster a client talks to, and
what reading its accounts proves about it.
-/
namespace EquityGuard.ClientDeployment
open EquityGuard.Addresses EquityGuard.Bytes EquityGuard.Client EquityGuard.Errors
open EquityGuard.ClientJupiter (hexOf)

def EQUITY_GUARD_DEVNET_PROGRAM_ID : Address := address "EbzHfaoSHdsWuVdatCmmcBnZi5npJBNXmWhFVeEtNnhT" (by decide +kernel)
def BPF_LOADER_UPGRADEABLE_ADDRESS : Address := address "BPFLoaderUpgradeab1e11111111111111111111111" (by decide +kernel)

/-! ### Clusters -/

inductive SolanaCluster where
  | mainnetBeta
  | devnet
  | testnet
  | unknown
deriving DecidableEq
def SolanaCluster.text : SolanaCluster → String
  | .mainnetBeta => "mainnet-beta"
  | .devnet => "devnet"
  | .testnet => "testnet"
  | .unknown => "unknown"
def SOLANA_GENESIS_HASH : List (SolanaCluster × String) := [
  (.mainnetBeta, "5eykt4UsFv8P8NJdTREpY1vzqKqZKvdpKuc147dw2N9d"),
  (.devnet, "EtWTRABZaYq6iMfeYKouRu166VU2xqa1wcaWoxPkrZBG"),
  (.testnet, "4uhcVJyU9pJkvQyS88uRDiswHXSCkY3zQawwpjk2NsNY")]

def clusterFromGenesisHash (genesisHash : String) : SolanaCluster :=
  match SOLANA_GENESIS_HASH.find? (fun entry => decide (entry.2 = genesisHash)) with
  | some (cluster, _) => cluster
  | none => .unknown
def deploymentForCluster (cluster : SolanaCluster) : Option Address :=
  if cluster = .devnet then some EQUITY_GUARD_DEVNET_PROGRAM_ID else none

/-! ### Reviewed deployments -/

structure ReviewedGuardDeployment where
  cluster : SolanaCluster
  programAddress : Address
  programDataAddress : Address
  elfLength : Nat
  elfSha256 : String
def REVIEWED_GUARD_DEPLOYMENTS : List ReviewedGuardDeployment := [
  { cluster := .devnet
    programAddress := EQUITY_GUARD_DEVNET_PROGRAM_ID
    programDataAddress := address "4Zc4TAEYNSXCGUkpD7y7CcEWDS8a9aQBDfYHFu55dPE3" (by decide +kernel)
    elfLength := 63840
    elfSha256 := "d7d59ccd9e96bb3eb3e16893aca638d8e5fdbfaf5032b4b39737ef16a41e4e46" }]
def findReviewedGuardDeployment (programAddress : Address) : Option ReviewedGuardDeployment :=
  REVIEWED_GUARD_DEPLOYMENTS.find? (fun deployment => decide (deployment.programAddress = programAddress))

/-! ### What was proved about a deployment -/

inductive DeploymentMutability where
  | IMMUTABLE
  | NO_USABLE_AUTHORITY
  | UPGRADEABLE
  | UNKNOWN
deriving DecidableEq
inductive GuardDeploymentIdentity where
  | REVIEWED_BINARY
  | CALLER_TRUSTED
deriving DecidableEq
structure GuardDeploymentAttestation where
  programId : Address
  programDataAddress : Option Address
  reviewedElfSha256 : Option String
  deploymentSlot : Option Nat
  upgradeAuthority : Option Address
  mutability : DeploymentMutability
  identity : GuardDeploymentIdentity

inductive GuardFailureReason where
  | MISSING
  | NOT_EXECUTABLE
  | UNEXPECTED_LOADER
  | PROGRAM_DATA_MISMATCH
  | BINARY_MISMATCH
  | MALFORMED_PROGRAM_DATA
deriving DecidableEq
structure GuardFailure where
  reason : GuardFailureReason
  message : Template

structure LoaderAccountView where
  executable : Bool
  owner : Address
  data : List UInt8

/-- Whether the program account can execute at all; the failure if it cannot. -/
def checkGuardProgramAccount (programAddress : Address) (account : Option LoaderAccountView) : Except GuardFailure Unit :=
  match account with
  | none => .error ⟨.MISSING, ["no account exists at ", programAddress, " on this cluster"]⟩
  | some account =>
    if account.executable then .ok ()
    else .error ⟨.NOT_EXECUTABLE,
      [programAddress, " exists but is not executable (owner ", account.owner, ")"]⟩

/-! ### Loader accounts -/

def LOADER_STATE_PROGRAM : Nat := 2
def LOADER_STATE_PROGRAM_DATA : Nat := 3
def PROGRAM_ACCOUNT_LEN : Nat := 36
def PROGRAMDATA_SLOT_OFFSET : Nat := 4
def PROGRAMDATA_AUTHORITY_OPTION_OFFSET : Nat := 12
def PROGRAMDATA_AUTHORITY_OFFSET : Nat := 13
def PROGRAMDATA_HEADER_LEN : Nat := 45
def OPTION_NONE : UInt8 := 0
def OPTION_SOME : UInt8 := 1
def ZERO_AUTHORITY : Address := address "11111111111111111111111111111111" ClientJupiter.isAddress_system

def u32At (data : List UInt8) (offset : Nat) : Option Nat :=
  if data.length ≥ offset + 4 then some (leNat ((data.drop offset).take 4)) else none
/-- `getAddressDecoder().decode` of a slice of 32 bytes. -/
def addressAt (data : List UInt8) (offset : Nat) (inside : offset + 32 ≤ data.length) : Address :=
  .ofKey ⟨(data.drop offset).take 32, by simp; omega⟩

structure ProgramDataHeader where
  deploymentSlot : Nat
  upgradeAuthority : Option Address
  mutability : DeploymentMutability
def decodeProgramDataHeader (data : List UInt8) : Option ProgramDataHeader :=
  if long : PROGRAMDATA_HEADER_LEN ≤ data.length then
    if u32At data 0 ≠ some LOADER_STATE_PROGRAM_DATA then none
    else
      -- a `getBigUint64` inside the header
      let deploymentSlot := leNat ((data.drop PROGRAMDATA_SLOT_OFFSET).take 8)
      if data[PROGRAMDATA_AUTHORITY_OPTION_OFFSET]? = some OPTION_NONE then
        some { deploymentSlot, upgradeAuthority := none, mutability := .IMMUTABLE }
      else if data[PROGRAMDATA_AUTHORITY_OPTION_OFFSET]? ≠ some OPTION_SOME then none
      else
        let upgradeAuthority := addressAt data PROGRAMDATA_AUTHORITY_OFFSET long
        some {
          deploymentSlot
          upgradeAuthority := some upgradeAuthority
          mutability := if upgradeAuthority = ZERO_AUTHORITY then .NO_USABLE_AUTHORITY else .UPGRADEABLE }
  else none

/-- Whether the two accounts hold exactly the reviewed program. -/
def verifyReviewedGuardDeployment (sha256 : List UInt8 → Chunk 32) (deployment : ReviewedGuardDeployment)
    (program programData : Option LoaderAccountView) : Except GuardFailure GuardDeploymentAttestation := do
  checkGuardProgramAccount deployment.programAddress program
  let place := deployment.programAddress
  match program with
  | none => .error ⟨.MISSING, ["no account exists at ", place, " on this cluster"]⟩
  | some program =>
    if size : program.data.length = PROGRAM_ACCOUNT_LEN then
      refuse_if (program.owner ≠ BPF_LOADER_UPGRADEABLE_ADDRESS ∨ u32At program.data 0 ≠ some LOADER_STATE_PROGRAM)
        ⟨.UNEXPECTED_LOADER, [place, " is not an upgradeable-loader Program account (owner ", program.owner, ")"]⟩
      let pointer := addressAt program.data 4 (Nat.le_of_eq size.symm)
      refuse_if (pointer ≠ deployment.programDataAddress)
        ⟨.PROGRAM_DATA_MISMATCH,
          [place, " points at ProgramData ", pointer, ", not the reviewed ", deployment.programDataAddress]⟩
      let finish := PROGRAMDATA_HEADER_LEN + deployment.elfLength
      let absent : GuardFailure := ⟨.PROGRAM_DATA_MISMATCH, ["ProgramData ", deployment.programDataAddress,
        " is missing, not loader-owned ProgramData, or shorter than the reviewed ELF"]⟩
      let programData ← ok_or absent programData
      refuse_if (programData.owner ≠ BPF_LOADER_UPGRADEABLE_ADDRESS ∨
        u32At programData.data 0 ≠ some LOADER_STATE_PROGRAM_DATA ∨ programData.data.length < finish) absent
      let digest := hexOf (sha256 ((programData.data.drop PROGRAMDATA_HEADER_LEN).take deployment.elfLength)).bytes
      refuse_if (digest ≠ deployment.elfSha256)
        ⟨.BINARY_MISMATCH, [place, " holds ELF ", digest, ", not the reviewed ", deployment.elfSha256]⟩
      refuse_if ((programData.data.drop finish).any (fun byte => byte != 0) = true)
        ⟨.BINARY_MISMATCH, ["ProgramData ", deployment.programDataAddress,
          " carries non-zero bytes beyond the reviewed ", deployment.elfLength, "-byte ELF"]⟩
      let header ← ok_or ⟨.MALFORMED_PROGRAM_DATA, ["ProgramData ", deployment.programDataAddress,
        " has an undecodable upgrade-authority header"]⟩ (decodeProgramDataHeader programData.data)
      return {
        programId := place
        programDataAddress := some deployment.programDataAddress
        reviewedElfSha256 := some deployment.elfSha256
        deploymentSlot := some header.deploymentSlot
        upgradeAuthority := header.upgradeAuthority
        mutability := header.mutability
        identity := .REVIEWED_BINARY }
    else .error ⟨.UNEXPECTED_LOADER,
      [place, " is not an upgradeable-loader Program account (owner ", program.owner, ")"]⟩

/-- The attestation for a program this client did not review. -/
def callerTrustedAttestation (programId : Address) : GuardDeploymentAttestation where
  programId := programId
  programDataAddress := none
  reviewedElfSha256 := none
  deploymentSlot := none
  upgradeAuthority := none
  mutability := .UNKNOWN
  identity := .CALLER_TRUSTED

end EquityGuard.ClientDeployment
