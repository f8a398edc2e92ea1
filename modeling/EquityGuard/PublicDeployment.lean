import EquityGuard.DeploymentReads
import EquityGuard.PublicTransfer

/-!
The public page's own check of the deployment, and exactly the accounts on which it and the
client's part: the page reads no authority out of a header that the client cannot decode.
-/
namespace EquityGuard.PublicDeployment
open EquityGuard.Addresses EquityGuard.Bytes EquityGuard.Client EquityGuard.ClientDeployment EquityGuard.DeploymentReads
open EquityGuard.Errors EquityGuard.PublicTransfer EquityGuard.SessionMint
open EquityGuard.ClientJupiter (hexOf)

theorem isAddress_loader : isAddress "BPFLoaderUpgradeab1e11111111111111111111111" = true := by decide +kernel
def BPF_LOADER : Address := address "BPFLoaderUpgradeab1e11111111111111111111111" isAddress_loader
def PROGRAM_DATA_ADDRESS : Address := address "4Zc4TAEYNSXCGUkpD7y7CcEWDS8a9aQBDfYHFu55dPE3" isAddress_programData
def REVIEWED_ELF_SHA256 : String := "d7d59ccd9e96bb3eb3e16893aca638d8e5fdbfaf5032b4b39737ef16a41e4e46"
def REVIEWED_ELF_LENGTH : Nat := 63840
def PROGRAMDATA_HEADER_LEN : Nat := 45
def PUBLIC_GENESIS_MAINNET : String := "5eykt4UsFv8P8NJdTREpY1vzqKqZKvdpKuc147dw2N9d"
def PUBLIC_GENESIS_TESTNET : String := "4uhcVJyU9pJkvQyS88uRDiswHXSCkY3zQawwpjk2NsNY"
def PUBLIC_GENESIS_DEVNET : String := "EtWTRABZaYq6iMfeYKouRu166VU2xqa1wcaWoxPkrZBG"

def assertDevnetCluster (genesisHash : String) : Page Unit := do
  refuse_if (genesisHash = PUBLIC_GENESIS_MAINNET)
    (.Error "Connected to mainnet-beta — refusing all state-changing actions")
  refuse_if (genesisHash = PUBLIC_GENESIS_TESTNET) (.Error "Connected to testnet — only devnet is supported")
  refuse_if (genesisHash ≠ PUBLIC_GENESIS_DEVNET) (.Error "Cluster is not Solana Devnet")

/-- What the page's RPC answers: a genesis hash, and accounts with their data as bytes. -/
structure Connection where
  getGenesisHash : Page String
  getMultipleAccounts : List Address → Page (List (Option LoaderAccountView))
/-- The page's check of the two accounts; the upgrade authority it reports. -/
def verifyAccounts (sha256 : List UInt8 → Chunk 32) (program programData : Option LoaderAccountView) :
    Page (Option Address) := do
  let absent : PageError := .Error "Reviewed StateGuard program is missing or not executable"
  let program ← ok_or absent program
  refuse_if (program.executable = false ∨ program.owner ≠ BPF_LOADER) absent
  let unexpected : PageError := .Error "Reviewed StateGuard program is not an upgradeable loader program"
  if size : program.data.length = 36 then
    refuse_if (leNat (program.data.take 4) ≠ 2) unexpected
    let pointer := addressAt program.data 4 (Nat.le_of_eq size.symm)
    refuse_if (pointer ≠ PROGRAM_DATA_ADDRESS) (.Error "ProgramData does not match the reviewed deployment")
    let programData ← ok_or (.Error "Reviewed ProgramData is missing") programData
    refuse_if (programData.owner ≠ BPF_LOADER) (.Error "Reviewed ProgramData is missing")
    let data := programData.data
    let finish := PROGRAMDATA_HEADER_LEN + REVIEWED_ELF_LENGTH
    if long : finish ≤ data.length then
      refuse_if (leNat (data.take 4) ≠ 3) (.Error "Reviewed ProgramData is malformed")
      let hash := hexOf (sha256 ((data.drop PROGRAMDATA_HEADER_LEN).take REVIEWED_ELF_LENGTH)).bytes
      refuse_if (hash ≠ REVIEWED_ELF_SHA256) (.Error "Deployed ELF does not match the reviewed hash")
      refuse_if ((data.drop finish).any (fun byte => byte != 0) = true)
        (.Error "ProgramData carries bytes beyond the reviewed ELF")
      return if data[12]? = some 1 then some (addressAt data 13 (Nat.le_of_add_right_le long)) else none
    else .error (.Error "Reviewed ProgramData is malformed")
  else .error unexpected
def verifyPublicEnvironment (sha256 : List UInt8 → Chunk 32) (boundProgram : Option Address) (connection : Connection) :
    Page (Option Address) := do
  assertDevnetCluster (← connection.getGenesisHash)
  let accounts ← connection.getMultipleAccounts [← reviewedProgramId boundProgram, PROGRAM_DATA_ADDRESS]
  verifyAccounts sha256 accounts[0]?.join accounts[1]?.join

/-! ### What passes -/

/-- What the page reads of an authority. -/
def pageAuthority (data : List UInt8) (long : ClientDeployment.PROGRAMDATA_HEADER_LEN ≤ data.length) : Option Address :=
  if data[PROGRAMDATA_AUTHORITY_OPTION_OFFSET]? = some OPTION_SOME then
    some (addressAt data PROGRAMDATA_AUTHORITY_OFFSET long)
  else none
/-- The page passes exactly the accounts that hold the reviewed program, whatever their header says. -/
theorem verifyAccounts_eq_ok {sha256 : List UInt8 → Chunk 32} {program programData : Option LoaderAccountView}
    {authority : Option Address} :
    verifyAccounts sha256 program programData = .ok authority ↔
      ∃ programView dataView long, program = some programView ∧ programData = some dataView ∧
        HoldsReviewed sha256 reviewedDevnet programView dataView ∧ authority = pageAuthority dataView.data long := by
  unfold verifyAccounts
  dsimp only
  cases program with
  | none => simp
  | some program =>
    rw [ok_or_some, ok_bind, then_eq_ok]
    by_cases size : program.data.length = 36
    · have whole : (program.data.drop 4).take 32 = program.data.drop 4 :=
        List.take_of_length_le (by rw [List.length_drop, size])
      rw [dif_pos size]
      cases programData with
      | none =>
        simp only [ok_or_none, error_bind, bind_eq_ok, refuse_if_eq_ok, exists_const]
        simp
      | some programData =>
        rw [ok_or_some]
        by_cases long : PROGRAMDATA_HEADER_LEN + REVIEWED_ELF_LENGTH ≤ programData.data.length
        · have fourth : 4 ≤ programData.data.length := Nat.le_trans (by decide) long
          have inside : ClientDeployment.PROGRAMDATA_HEADER_LEN ≤ programData.data.length := Nat.le_of_add_right_le long
          simp only [dif_pos long, ok_bind, bind_eq_ok, exists_const, refuse_if_eq_ok, not_or, not_not, ne_eq, pure_eq_ok, Except.ok.injEq,
            Bool.not_eq_false, List.any_eq_true, not_exists, not_and, bne_iff_ne]
          constructor
          · rintro ⟨⟨executable, owner⟩, state, pointer, dataOwner, dataState, elf, padding, rfl⟩
            refine ⟨program, programData, inside, rfl, rfl, ⟨executable, owner, size, ?_, ?_, dataOwner, ?_, long, elf, padding⟩,
              rfl⟩
            · exact (u32At_zero (by omega)).mpr state
            · exact whole.symm.trans ((addressAt_eq_iff _ _).mp pointer)
            · exact (u32At_zero fourth).mpr dataState
          · rintro ⟨_, _, _, ⟨⟩, ⟨⟩, holds, rfl⟩
            exact ⟨⟨holds.executable, holds.owner⟩, (u32At_zero (by omega)).mp holds.state,
              (addressAt_eq_iff _ _).mpr (whole.trans holds.pointer), holds.dataOwner,
              (u32At_zero fourth).mp holds.dataState, holds.elf, holds.padding, rfl⟩
        · simp only [dif_neg long, ok_bind]
          simp only [bind_eq_ok, refuse_if_eq_ok, exists_const]
          refine iff_of_false (by simp) ?_
          rintro ⟨_, _, _, _, ⟨⟩, holds, _⟩
          exact long holds.dataSize
    · rw [dif_neg size]
      refine iff_of_false ?_ ?_
      · rintro ⟨_, failed⟩
        cases failed
      · rintro ⟨_, _, _, ⟨⟩, _, holds, _⟩
        exact size holds.size

section
variable (sha256 : List UInt8 → Chunk 32) (connection : Connection)

/-- The accounts that a connection to devnet answers with. -/
structure ServesDevnet (program programData : Option LoaderAccountView) : Prop where
  genesis : connection.getGenesisHash = .ok PUBLIC_GENESIS_DEVNET
  accounts : ∃ accounts, connection.getMultipleAccounts [EQUITY_GUARD_DEVNET_PROGRAM_ID, PROGRAM_DATA_ADDRESS] = .ok accounts ∧
    accounts[0]?.join = program ∧ accounts[1]?.join = programData
/-- The page passes what the client passes, with the authority that the client attests. -/
def ChecksAgree (program programData : Option LoaderAccountView) : Prop :=
  ∀ authority, verifyPublicEnvironment sha256 (some EQUITY_GUARD_DEVNET_PROGRAM_ID) connection = .ok authority ↔
    ∃ attestation, verifyReviewedGuardDeployment sha256 reviewedDevnet program programData = .ok attestation ∧
      attestation.upgradeAuthority = authority

end

theorem verifyPublicEnvironment_eq {sha256 : List UInt8 → Chunk 32} {connection : Connection}
    {program programData : Option LoaderAccountView} (serves : ServesDevnet connection program programData) :
    verifyPublicEnvironment sha256 (some EQUITY_GUARD_DEVNET_PROGRAM_ID) connection =
      verifyAccounts sha256 program programData := by
  obtain ⟨accounts, answered, rfl, rfl⟩ := serves.accounts
  have devnet : assertDevnetCluster PUBLIC_GENESIS_DEVNET = .ok () := by decide
  rw [verifyPublicEnvironment, serves.genesis, ok_bind, devnet, ok_bind, reviewedProgramId, ok_or_some, ok_bind, answered,
    ok_bind]

/-- The page and the client agree, unless the accounts hold the reviewed program under a header whose authority has a
    discriminant other than 0 and 1. -/
theorem public_deployment_agrees_iff (sha256 : List UInt8 → Chunk 32) {connection : Connection}
    {program programData : Option LoaderAccountView} (serves : ServesDevnet connection program programData) :
    ChecksAgree sha256 connection program programData ↔
      ∀ programView dataView, program = some programView → programData = some dataView →
        HoldsReviewed sha256 reviewedDevnet programView dataView →
        dataView.data[PROGRAMDATA_AUTHORITY_OPTION_OFFSET]? = some OPTION_NONE ∨
          dataView.data[PROGRAMDATA_AUTHORITY_OPTION_OFFSET]? = some OPTION_SOME := by
  simp only [ChecksAgree, verifyPublicEnvironment_eq serves, verifyAccounts_eq_ok, verifyReviewedGuardDeployment_eq_ok]
  constructor
  · rintro agree programView dataView rfl rfl holds
    have long : ClientDeployment.PROGRAMDATA_HEADER_LEN ≤ dataView.data.length := Nat.le_of_add_right_le holds.dataSize
    obtain ⟨_, ⟨_, _, header, ⟨⟩, ⟨⟩, _, decoded, rfl⟩, _⟩ := (agree _).mp ⟨programView, dataView, long, rfl, rfl, holds, rfl⟩
    obtain ⟨_, _, ⟨none, _⟩ | ⟨some, _⟩⟩ := (decodeProgramDataHeader_eq_some long holds.dataState).mp decoded
    · exact .inl none
    · exact .inr some
  · intro known authority
    constructor
    · rintro ⟨programView, dataView, long, rfl, rfl, holds, rfl⟩
      let header : ProgramDataHeader := {
        deploymentSlot := leNat ((dataView.data.drop PROGRAMDATA_SLOT_OFFSET).take 8)
        upgradeAuthority := pageAuthority dataView.data long
        mutability := mutabilityOf (pageAuthority dataView.data long) }
      have decoded : decodeProgramDataHeader dataView.data = some header := by
        refine (decodeProgramDataHeader_eq_some long holds.dataState).mpr ⟨rfl, rfl, ?_⟩
        rcases known programView dataView rfl rfl holds with none | some
        · exact .inl ⟨none, if_neg (by rw [none]; decide)⟩
        · exact .inr ⟨some, if_pos some⟩
      exact ⟨_, ⟨programView, dataView, header, rfl, rfl, holds, decoded, rfl⟩, rfl⟩
    · rintro ⟨_, ⟨programView, dataView, header, rfl, rfl, holds, decoded, rfl⟩, rfl⟩
      have long : ClientDeployment.PROGRAMDATA_HEADER_LEN ≤ dataView.data.length := Nat.le_of_add_right_le holds.dataSize
      refine ⟨programView, dataView, long, rfl, rfl, holds, ?_⟩
      obtain ⟨_, _, ⟨none, absent⟩ | ⟨some, present⟩⟩ := (decodeProgramDataHeader_eq_some long holds.dataState).mp decoded
      · exact absent.trans (if_neg (by rw [none]; decide)).symm
      · exact present.trans (if_pos some).symm

/-- A devnet whose header holds this discriminant. -/
def devnetWith (option : UInt8) : Connection where
  getGenesisHash := .ok PUBLIC_GENESIS_DEVNET
  getMultipleAccounts _ := .ok [some programView, some (dataView option)]
theorem serves_devnetWith (option : UInt8) :
    ServesDevnet (devnetWith option) (some programView) (some (dataView option)) := ⟨rfl, _, rfl, rfl, rfl⟩
/-- With a discriminant of 1 the two agree. -/
theorem public_deployment_agrees_iff_authority :
    ChecksAgree deployedSha256 (devnetWith 1) (some programView) (some (dataView 1)) := by
  refine (public_deployment_agrees_iff deployedSha256 (serves_devnetWith 1)).mpr ?_
  rintro _ _ ⟨⟩ ⟨⟩ _
  exact .inr (deployed_option 1)
/-- With a discriminant of 2 the page reports that nobody can upgrade the program; the client refuses the header. -/
theorem public_deployment_undecodable :
    verifyPublicEnvironment deployedSha256 (some EQUITY_GUARD_DEVNET_PROGRAM_ID) (devnetWith 2) = .ok none ∧
    (∃ message, verifyReviewedGuardDeployment deployedSha256 reviewedDevnet (some programView) (some (dataView 2)) =
      .error ⟨.MALFORMED_PROGRAM_DATA, message⟩) ∧
    ¬ ChecksAgree deployedSha256 (devnetWith 2) (some programView) (some (dataView 2)) := by
  have holds := holds_deployed 2
  have long : ClientDeployment.PROGRAMDATA_HEADER_LEN ≤ (dataView 2).data.length := Nat.le_of_add_right_le holds.dataSize
  have page : verifyPublicEnvironment deployedSha256 (some EQUITY_GUARD_DEVNET_PROGRAM_ID) (devnetWith 2) = .ok none := by
    rw [verifyPublicEnvironment_eq (serves_devnetWith 2)]
    refine verifyAccounts_eq_ok.mpr ⟨programView, dataView 2, long, rfl, rfl, holds, (if_neg ?_).symm⟩
    rw [deployed_option]
    decide
  have undecodable : decodeProgramDataHeader (dataView 2).data = none := by
    rw [Option.eq_none_iff_forall_ne_some]
    intro header decoded
    obtain ⟨_, _, ⟨none, _⟩ | ⟨some, _⟩⟩ := (decodeProgramDataHeader_eq_some long holds.dataState).mp decoded
    · rw [deployed_option] at none
      exact absurd none (by decide)
    · rw [deployed_option] at some
      exact absurd some (by decide)
  have client := verifyReviewedGuardDeployment_undecodable holds undecodable
  refine ⟨page, ⟨_, client⟩, ?_⟩
  intro agree
  obtain ⟨_, passed, _⟩ := (agree none).mp page
  rw [client] at passed
  cases passed

end EquityGuard.PublicDeployment
