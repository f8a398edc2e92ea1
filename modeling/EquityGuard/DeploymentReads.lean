import EquityGuard.ClientDeployment

/-!
What reading the accounts of a reviewed deployment proves: exactly when the check passes,
and what the header of its ProgramData says then.
-/
namespace EquityGuard.DeploymentReads
open EquityGuard.Addresses EquityGuard.Bytes EquityGuard.Client EquityGuard.ClientDeployment EquityGuard.Errors
open EquityGuard.ClientJupiter (hexOf)

/-- The bytes of a reviewed ELF inside its ProgramData. -/
def elfOf (length : Nat) (data : List UInt8) : List UInt8 := (data.drop PROGRAMDATA_HEADER_LEN).take length
/-- What follows the ELF. -/
def paddingOf (length : Nat) (data : List UInt8) : List UInt8 := data.drop (PROGRAMDATA_HEADER_LEN + length)
/-- The accounts hold the reviewed program, whatever their header says of its upgrade authority. -/
structure HoldsReviewed (sha256 : List UInt8 → Chunk 32) (deployment : ReviewedGuardDeployment)
    (program programData : LoaderAccountView) : Prop where
  executable : program.executable = true
  owner : program.owner = BPF_LOADER_UPGRADEABLE_ADDRESS
  size : program.data.length = PROGRAM_ACCOUNT_LEN
  state : u32At program.data 0 = some LOADER_STATE_PROGRAM
  pointer : program.data.drop 4 = deployment.programDataAddress.key.bytes
  dataOwner : programData.owner = BPF_LOADER_UPGRADEABLE_ADDRESS
  dataState : u32At programData.data 0 = some LOADER_STATE_PROGRAM_DATA
  dataSize : PROGRAMDATA_HEADER_LEN + deployment.elfLength ≤ programData.data.length
  elf : hexOf (sha256 (elfOf deployment.elfLength programData.data)).bytes = deployment.elfSha256
  padding : ∀ byte ∈ paddingOf deployment.elfLength programData.data, byte = 0

/-- What a passing check attests. -/
def reviewedAttestation (deployment : ReviewedGuardDeployment) (header : ProgramDataHeader) : GuardDeploymentAttestation where
  programId := deployment.programAddress
  programDataAddress := some deployment.programDataAddress
  reviewedElfSha256 := some deployment.elfSha256
  deploymentSlot := some header.deploymentSlot
  upgradeAuthority := header.upgradeAuthority
  mutability := header.mutability
  identity := .REVIEWED_BINARY

theorem addressAt_eq_iff {data : List UInt8} {offset : Nat} (inside : offset + 32 ≤ data.length) (address : Address) :
    addressAt data offset inside = address ↔ (data.drop offset).take 32 = address.key.bytes := by
  rw [addressAt]
  constructor
  · rintro rfl
    rw [Address.key_ofKey]
  · intro same
    rw [← Address.key_inj, Address.key_ofKey]
    exact Chunk.ext same
theorem u32At_zero {data : List UInt8} {value : Nat} (long : 4 ≤ data.length) :
    u32At data 0 = some value ↔ leNat (data.take 4) = value := by
  rw [u32At, if_pos long, List.drop_zero, Option.some.injEq]
theorem checkGuardProgramAccount_eq_ok {place : Address} {account : Option LoaderAccountView} :
    checkGuardProgramAccount place account = .ok () ↔ ∃ view, account = some view ∧ view.executable = true := by
  cases account with
  | none => simp [checkGuardProgramAccount]
  | some view => by_cases executable : view.executable <;> simp [checkGuardProgramAccount, executable]
/-- The check of a reviewed deployment passes exactly on the reviewed program, under a header that can be decoded. -/
theorem verifyReviewedGuardDeployment_eq_ok {sha256 : List UInt8 → Chunk 32} {deployment : ReviewedGuardDeployment}
    {program programData : Option LoaderAccountView} {attestation : GuardDeploymentAttestation} :
    verifyReviewedGuardDeployment sha256 deployment program programData = .ok attestation ↔
      ∃ programView dataView header, program = some programView ∧ programData = some dataView ∧
        HoldsReviewed sha256 deployment programView dataView ∧ decodeProgramDataHeader dataView.data = some header ∧
        attestation = reviewedAttestation deployment header := by
  unfold verifyReviewedGuardDeployment
  rw [then_eq_ok, checkGuardProgramAccount_eq_ok]
  cases program with
  | none => simp
  | some program =>
    dsimp only
    by_cases size : program.data.length = PROGRAM_ACCOUNT_LEN
    · have whole : (program.data.drop 4).take 32 = program.data.drop 4 :=
        List.take_of_length_le (by rw [List.length_drop, size]; decide)
      rw [dif_pos size]
      simp only [bind_eq_ok, refuse_if_eq_ok, exists_const, ok_or_eq_ok, not_or, not_not, ne_eq, addressAt_eq_iff, whole,
        pure_eq_ok, Except.ok.injEq, Option.some.injEq, List.any_eq_true, not_exists, not_and, bne_iff_ne]
      constructor
      · rintro ⟨⟨_, rfl, executable⟩, ⟨owner, state⟩, pointer, dataView, rfl, ⟨dataOwner, dataState, dataSize⟩, elf, padding,
          header, decoded, rfl⟩
        exact ⟨program, dataView, header, rfl, rfl, ⟨executable, owner, size, state, pointer, dataOwner, dataState,
          Nat.not_lt.mp dataSize, elf, padding⟩, decoded, rfl⟩
      · rintro ⟨_, dataView, header, rfl, rfl, holds, decoded, rfl⟩
        exact ⟨⟨_, rfl, holds.executable⟩, ⟨holds.owner, holds.state⟩, holds.pointer, dataView, rfl,
          ⟨holds.dataOwner, holds.dataState, Nat.not_lt.mpr holds.dataSize⟩, holds.elf, holds.padding, header, decoded, rfl⟩
    · rw [dif_neg size]
      refine iff_of_false (fun ⟨_, failed⟩ => by cases failed) ?_
      rintro ⟨_, _, _, ⟨⟩, _, holds, _⟩
      exact size holds.size
/-- Under a header that cannot be decoded, the reviewed program is refused. -/
theorem verifyReviewedGuardDeployment_undecodable {sha256 : List UInt8 → Chunk 32} {deployment : ReviewedGuardDeployment}
    {program data : LoaderAccountView} (holds : HoldsReviewed sha256 deployment program data)
    (undecodable : decodeProgramDataHeader data.data = none) :
    verifyReviewedGuardDeployment sha256 deployment (some program) (some data) =
      .error ⟨.MALFORMED_PROGRAM_DATA, ["ProgramData ", deployment.programDataAddress,
        " has an undecodable upgrade-authority header"]⟩ := by
  have whole : (program.data.drop 4).take 32 = program.data.drop 4 :=
    List.take_of_length_le (by rw [List.length_drop, holds.size]; decide)
  have pointer : addressAt program.data 4 (Nat.le_of_eq holds.size.symm) = deployment.programDataAddress :=
    (addressAt_eq_iff _ _).mpr (whole.trans holds.pointer)
  have short : ¬ data.data.length < PROGRAMDATA_HEADER_LEN + deployment.elfLength := Nat.not_lt.mpr holds.dataSize
  have padded : (data.data.drop (PROGRAMDATA_HEADER_LEN + deployment.elfLength)).any (fun byte => byte != 0) = false := by
    rw [List.any_eq_false]
    intro byte member
    simpa using holds.padding byte member
  have digest := holds.elf
  rw [elfOf] at digest
  simp only [verifyReviewedGuardDeployment, checkGuardProgramAccount, holds.executable, ↓reduceIte, ok_bind, dif_pos holds.size,
    refuse_if_bind, holds.owner, holds.state, pointer, ok_or_some, holds.dataOwner, holds.dataState, short, digest, padded,
    undecodable, ne_eq, not_true_eq_false, or_self, Bool.false_eq_true, ok_or_none, error_bind]

/-! ### The header -/

/-- An authority decides how mutable a deployment is. -/
def mutabilityOf : Option Address → DeploymentMutability
  | none => .IMMUTABLE
  | some authority => if authority = ZERO_AUTHORITY then .NO_USABLE_AUTHORITY else .UPGRADEABLE
/-- A well-formed header holds no authority, or one. -/
theorem decodeProgramDataHeader_eq_some {data : List UInt8} {header : ProgramDataHeader}
    (long : PROGRAMDATA_HEADER_LEN ≤ data.length) (state : u32At data 0 = some LOADER_STATE_PROGRAM_DATA) :
    decodeProgramDataHeader data = some header ↔
      header.deploymentSlot = leNat ((data.drop PROGRAMDATA_SLOT_OFFSET).take 8) ∧
      header.mutability = mutabilityOf header.upgradeAuthority ∧
      ((data[PROGRAMDATA_AUTHORITY_OPTION_OFFSET]? = some OPTION_NONE ∧ header.upgradeAuthority = none) ∨
        (data[PROGRAMDATA_AUTHORITY_OPTION_OFFSET]? = some OPTION_SOME ∧
          header.upgradeAuthority = some (addressAt data PROGRAMDATA_AUTHORITY_OFFSET long))) := by
  obtain ⟨slot, authority, mutability⟩ := header
  rw [decodeProgramDataHeader, dif_pos long, if_neg (not_not.mpr state)]
  dsimp only
  by_cases absent : data[PROGRAMDATA_AUTHORITY_OPTION_OFFSET]? = some OPTION_NONE
  · rw [if_pos absent, Option.some.injEq, ProgramDataHeader.mk.injEq, absent]
    constructor
    · rintro ⟨rfl, rfl, rfl⟩
      exact ⟨rfl, rfl, .inl ⟨rfl, rfl⟩⟩
    · rintro ⟨rfl, rfl, ⟨_, rfl⟩ | ⟨other, _⟩⟩
      · exact ⟨rfl, rfl, rfl⟩
      · exact absurd other (by decide)
  · rw [if_neg absent]
    by_cases present : data[PROGRAMDATA_AUTHORITY_OPTION_OFFSET]? = some OPTION_SOME
    · rw [if_neg (not_not.mpr present), Option.some.injEq, ProgramDataHeader.mk.injEq]
      constructor
      · rintro ⟨rfl, rfl, rfl⟩
        exact ⟨rfl, rfl, .inr ⟨present, rfl⟩⟩
      · rintro ⟨rfl, rfl, ⟨none, _⟩ | ⟨_, rfl⟩⟩
        · exact absurd none absent
        · exact ⟨rfl, rfl, rfl⟩
    · rw [if_pos present]
      simp [absent, present]

/-! ### A deployment under some digest -/

theorem isAddress_programData : isAddress "4Zc4TAEYNSXCGUkpD7y7CcEWDS8a9aQBDfYHFu55dPE3" = true := by decide +kernel
def reviewedDevnet : ReviewedGuardDeployment where
  cluster := .devnet
  programAddress := EQUITY_GUARD_DEVNET_PROGRAM_ID
  programDataAddress := address "4Zc4TAEYNSXCGUkpD7y7CcEWDS8a9aQBDfYHFu55dPE3" isAddress_programData
  elfLength := 63840
  elfSha256 := "d7d59ccd9e96bb3eb3e16893aca638d8e5fdbfaf5032b4b39737ef16a41e4e46"
@[irreducible] def deployedElf : List UInt8 := List.replicate 63840 0
theorem deployedElf_length : deployedElf.length = 63840 := by
  unfold deployedElf
  exact List.length_replicate
def reviewedDigest : Chunk 32 := ⟨[0xd7, 0xd5, 0x9c, 0xcd, 0x9e, 0x96, 0xbb, 0x3e, 0xb3, 0xe1, 0x68, 0x93, 0xac, 0xa6, 0x38, 0xd8,
  0xe5, 0xfd, 0xbf, 0xaf, 0x50, 0x32, 0xb4, 0xb3, 0x97, 0x37, 0xef, 0x16, 0xa4, 0x1e, 0x4e, 0x46], rfl⟩
/-- The digest that these bytes would have, were they the reviewed ELF. -/
def deployedSha256 (bytes : List UInt8) : Chunk 32 :=
  if bytes = deployedElf then reviewedDigest else ⟨List.replicate 32 0, List.length_replicate⟩
def programView : LoaderAccountView where
  executable := true
  owner := BPF_LOADER_UPGRADEABLE_ADDRESS
  data := [2, 0, 0, 0] ++ reviewedDevnet.programDataAddress.key.bytes
/-- Slot zero, this discriminant of the authority, and an authority of sevens. -/
def headerBytes (option : UInt8) : List UInt8 := [3, 0, 0, 0] ++ List.replicate 8 0 ++ [option] ++ List.replicate 32 7
theorem headerBytes_length (option : UInt8) : (headerBytes option).length = PROGRAMDATA_HEADER_LEN := rfl
def dataView (option : UInt8) : LoaderAccountView where
  executable := false
  owner := BPF_LOADER_UPGRADEABLE_ADDRESS
  data := headerBytes option ++ deployedElf
/-- These accounts hold the reviewed program, whatever the discriminant says. -/
theorem holds_deployed (option : UInt8) : HoldsReviewed deployedSha256 reviewedDevnet programView (dataView option) where
  executable := rfl
  owner := rfl
  size := by
    rw [programView, List.length_append, reviewedDevnet.programDataAddress.key.size_eq]
    rfl
  state := (u32At_zero (by
    rw [programView, List.length_append]
    exact Nat.le_add_right 4 _)).mpr rfl
  pointer := List.drop_left' rfl
  dataOwner := rfl
  dataState := (u32At_zero (by
    rw [dataView, List.length_append, headerBytes_length]
    exact Nat.le_add_right_of_le (by decide))).mpr rfl
  dataSize := by
    rw [dataView, List.length_append, deployedElf_length]
    exact Nat.le_refl _
  elf := by
    have elf : elfOf reviewedDevnet.elfLength (dataView option).data = deployedElf := by
      have start : (dataView option).data.drop PROGRAMDATA_HEADER_LEN = deployedElf := List.drop_left' rfl
      rw [elfOf, start]
      exact List.take_of_length_le (Nat.le_of_eq deployedElf_length)
    have digest : deployedSha256 deployedElf = reviewedDigest := if_pos rfl
    rw [elf, digest]
    decide
  padding := by
    have rest : paddingOf reviewedDevnet.elfLength (dataView option).data = [] := by
      refine List.drop_eq_nil_of_le ?_
      rw [dataView, List.length_append, deployedElf_length]
      exact Nat.le_refl _
    rw [rest]
    exact nofun
theorem deployed_option (option : UInt8) : (dataView option).data[PROGRAMDATA_AUTHORITY_OPTION_OFFSET]? = some option := rfl

end EquityGuard.DeploymentReads
