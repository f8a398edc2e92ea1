import EquityGuard.ClientMintState
import EquityGuard.ClientOffline

/-!
Which assets are protected, and what a client reads of them: the one resolver of a
mint's economic-state model, the registry of known tokenized equities, and a snapshot
of mint and clock taken at one slot.
-/
namespace EquityGuard.ClientProtection
open EquityGuard.Addresses EquityGuard.Binary64 EquityGuard.Bytes EquityGuard.Client EquityGuard.ClientAbi
open EquityGuard.ClientMintState EquityGuard.Errors

/-! ### Known assets -/

def TOKEN_2022_SCALED_UI_AMOUNT : String := "TOKEN_2022_SCALED_UI_AMOUNT"
def IMPLEMENTED_STATE_MODELS : List String := [TOKEN_2022_SCALED_UI_AMOUNT]

inductive Issuer where
  | xStocks
  | Ondo
deriving DecidableEq
def Issuer.text : Issuer → String
  | .xStocks => "xStocks"
  | .Ondo => "Ondo"
structure KnownProtectedAsset where
  mint : Address
  symbol : String
  issuer : Issuer
  underlying : String
  stateModel : String
deriving DecidableEq

def KNOWN_PROTECTED_ASSETS : List KnownProtectedAsset := [
  { mint := address "XsaBXg8dU5cPM6ehmVctMkVqoiRG2ZjMo1cyBJ3AykQ" (by decide +kernel), symbol := "KOx",
    issuer := .xStocks, underlying := "KO", stateModel := TOKEN_2022_SCALED_UI_AMOUNT },
  { mint := address "XszvaiXGPwvk2nwb3o9C1CX4K6zH8sez11E6uyup6fe" (by decide +kernel), symbol := "UNHx",
    issuer := .xStocks, underlying := "UNH", stateModel := TOKEN_2022_SCALED_UI_AMOUNT },
  { mint := address "XsczbcQ3zfcgAEt9qHQES8pxKAVG5rujPSHQEXi4kaN" (by decide +kernel), symbol := "CRMx",
    issuer := .xStocks, underlying := "CRM", stateModel := TOKEN_2022_SCALED_UI_AMOUNT },
  { mint := address "e6G4pfFcrdKxJuZ4YXixRFfMbpMvgXG2Mjcus71ondo" (by decide +kernel), symbol := "KOon",
    issuer := .Ondo, underlying := "KO", stateModel := TOKEN_2022_SCALED_UI_AMOUNT },
  { mint := address "kPBGL8vAwKN3UGmr9cjkM2dU79SC3nzTC9yu7F8ondo" (by decide +kernel), symbol := "UNHon",
    issuer := .Ondo, underlying := "UNH", stateModel := TOKEN_2022_SCALED_UI_AMOUNT },
  { mint := address "7D7ukbcnUNYt7Et5vtsDZhAy28MKu9pkHka1Hp9ondo" (by decide +kernel), symbol := "CRMon",
    issuer := .Ondo, underlying := "CRM", stateModel := TOKEN_2022_SCALED_UI_AMOUNT }]

/-- The registry entry for a mint. -/
def findKnownProtectedAsset (mint : Address) (registry : List KnownProtectedAsset) : Option KnownProtectedAsset :=
  registry.find? (fun asset => decide (asset.mint = mint))

/-! ### The resolver -/

inductive UnsupportedAssetReason where
  | UNSUPPORTED_STATE_MODEL
  | NO_SUPPORTED_STATE_ADAPTER
deriving DecidableEq
inductive NotProtectedReason where
  | NOT_TOKEN_2022
  | NO_PROTECTED_STATE_MODEL
deriving DecidableEq
inductive ProtectionResolution where
  | NOT_PROTECTED (reason : NotProtectedReason)
  | SUPPORTED (state : ProtectedState) (knownAsset : Option KnownProtectedAsset)
  | KNOWN_PROTECTED_UNSUPPORTED (reason : UnsupportedAssetReason) (message : Template) (knownAsset : KnownProtectedAsset)
  | INVALID_STATE (errorCode : GuardClientErrorCode) (message : Template) (knownAsset : Option KnownProtectedAsset)

/-- `error.message` of a `GuardClientError`. -/
def messageOf (code : GuardClientErrorCode) (message : Template) : Template := code :: ": " :: message

/-- Classifies one mint account. -/
def resolveProtectionAdapter (registry : List KnownProtectedAsset) (mint owner : Address) (data : List UInt8) :
    Js ProtectionResolution :=
  let knownAsset := findKnownProtectedAsset mint registry
  match knownAsset.filter (fun asset => !IMPLEMENTED_STATE_MODELS.contains asset.stateModel) with
  | some asset => .ok (.KNOWN_PROTECTED_UNSUPPORTED .UNSUPPORTED_STATE_MODEL [asset.symbol, " (", asset.issuer.text,
      ") uses economic-state model ", asset.stateModel, ", which this EquityGuard client does not implement"] asset)
  | none =>
    match decodeProtectedState owner.text data with
    | .ok state => .ok (.SUPPORTED state knownAsset)
    | .error (.GuardClientError code message _) =>
      if code = .InvalidMintOwner ∨ code = .MissingScaledUiAmount then
        match knownAsset with
        | some asset => .ok (.KNOWN_PROTECTED_UNSUPPORTED .NO_SUPPORTED_STATE_ADAPTER (([asset.symbol, " (",
            asset.issuer.text, ") is a known tokenized ", asset.underlying,
            " representation, but its mint account does not present ", asset.stateModel, ": "] : Template) ++
            messageOf code message) asset)
        | none => .ok (.NOT_PROTECTED
            (if code = .InvalidMintOwner then .NOT_TOKEN_2022 else .NO_PROTECTED_STATE_MODEL))
      else .ok (.INVALID_STATE code (messageOf code message) knownAsset)
    | .error error => .error error

/-! ### Snapshots -/

def SYSVAR_CLOCK_ADDRESS : Address := address "SysvarC1ock11111111111111111111111111111111" (by decide +kernel)
def CLOCK_LEN : Nat := 40
def CLOCK_UNIX_TIMESTAMP_OFFSET : Nat := 32

structure ChainClock where
  slot : Nat
  unixTimestamp : Int
structure GuardSnapshot where
  mint : Address
  contextSlot : Nat
  clock : ChainClock
  state : ProtectedState
  phase : Number
  hasScheduledChange : Bool

def decodeClock (data : List UInt8) : Js ChainClock := do
  refuse_if (data.length ≠ CLOCK_LEN)
    (guardClientError .InvalidClockData ["expected ", CLOCK_LEN, " bytes, got ", data.length])
  return { slot := ← getBigUint64 data 0, unixTimestamp := ← getBigInt64 data CLOCK_UNIX_TIMESTAMP_OFFSET }

/-- An account as the RPC returns it; `data` is its base64 text. -/
structure RpcAccount where
  executable : Bool
  owner : Address
  data : String
/-- A `getMultipleAccounts` answer. An account that does not exist is null; a short list has no entry. -/
structure AccountsAnswer where
  slot : Nat
  value : List (Option RpcAccount)
/-- `value[index]`, null or missing alike. -/
def AccountsAnswer.account (answer : AccountsAnswer) (index : Nat) : Option RpcAccount := (answer.value[index]?).join

/-- The snapshot in one answer for the mint and the Clock. `base64Data` is `Buffer.from(.., "base64")`. -/
def snapshotOf (base64Data : String → List UInt8) (mint : Address) (answer : AccountsAnswer) : Js GuardSnapshot := do
  let mintAccount ← ok_or (guardClientError .AccountNotFound ["mint ", mint, " not found"]) (answer.account 0)
  let clockAccount ← ok_or (guardClientError .AccountNotFound ["Clock sysvar not returned"]) (answer.account 1)
  let clock ← decodeClock (base64Data clockAccount.data)
  let state ← decodeProtectedState mintAccount.owner.text (base64Data mintAccount.data)
  return {
    mint
    contextSlot := answer.slot
    clock
    state
    phase := phaseAt state clock.unixTimestamp
    hasScheduledChange := hasScheduledChange state }
/-- The expectation an ABI v2 guard is built with. -/
def expectationFromSnapshot (snapshot : GuardSnapshot) (window : ProtectionWindow) : AssertSafeExecutionRequest where
  expected := snapshot.state
  expectedPhase := snapshot.phase
  window := window

/-! ### What a snapshot is -/

/-- Forty bytes are a clock; anything else is refused. -/
theorem decodeClock_cases (data : List UInt8) :
    (∃ slot, ∃ now : I64, decodeClock data = .ok ⟨slot, now.value⟩) ∨ Refuses .InvalidClockData (decodeClock data) := by
  unfold decodeClock
  rw [refuse_if_bind]
  by_cases other : data.length ≠ CLOCK_LEN
  · rw [if_pos other]
    exact .inr ⟨_, rfl⟩
  · have size : data.length = 40 := not_not.mp other
    have tail : CLOCK_UNIX_TIMESTAMP_OFFSET + 8 ≤ data.length := size.ge
    rw [if_neg other, getBigUint64_of_le (by omega), getBigInt64, read_of_le tail]
    exact .inl ⟨_, _, rfl⟩

theorem snapshotOf_throws (base64Data : String → List UInt8) (mint : Address) (answer : AccountsAnswer) :
    Throws JsError.IsGuardClientError (snapshotOf base64Data mint answer) := by
  refine .bind (.ok_or fun _ => trivial) fun mintAccount _ => .bind (.ok_or fun _ => trivial) fun clockAccount _ =>
    .bind ?_ fun clock _ => .bind ?_ fun state _ => .ok _
  · rcases decodeClock_cases (base64Data clockAccount.data) with ⟨slot, now, decoded⟩ | ⟨message, refused⟩
    · rw [decoded]
      exact .ok _
    · rw [refused]
      exact .error trivial
  · rcases decodeProtectedState_cases mintAccount.owner (base64Data mintAccount.data) with
      ⟨state, decoded⟩ | ⟨code, message, refused⟩
    · rw [decoded]
      exact .ok _
    · rw [refused]
      exact .error trivial

/-- A snapshot taken is the program's own reading of the two accounts. -/
theorem snapshotOf_correct {token : Token2022.Interface} (documented : token.Documented) {base64Data : String → List UInt8}
    {mint : Address} {answer : AccountsAnswer} {snapshot : GuardSnapshot}
    (taken : snapshotOf base64Data mint answer = .ok snapshot) :
    ∃ mintAccount clockAccount, ∃ state : State.ProtectedState, ∃ now : I64,
      answer.account 0 = some mintAccount ∧ answer.account 1 = some clockAccount ∧
      State.decode_protected_state token mintAccount.owner.key (base64Data mintAccount.data) = .ok state ∧
      decodeClock (base64Data clockAccount.data) = .ok snapshot.clock ∧ snapshot.clock.unixTimestamp = now.value ∧
      snapshot.mint = mint ∧ snapshot.state = ofProtectedState state ∧
      snapshot.phase = .ofInt (state.phase_at now).as_u8.toNat := by
  obtain ⟨mintAccount, mintFound, taken⟩ := bind_eq_ok.mp taken
  obtain ⟨clockAccount, clockFound, taken⟩ := bind_eq_ok.mp taken
  obtain ⟨clock, clockRead, taken⟩ := bind_eq_ok.mp taken
  obtain ⟨clientState, stateRead, taken⟩ := bind_eq_ok.mp taken
  cases taken
  rcases decodeClock_cases (base64Data clockAccount.data) with ⟨slot, now, decoded⟩ | ⟨message, refused⟩
  swap
  · rw [refused] at clockRead
    cases clockRead
  rw [decoded] at clockRead
  cases clockRead
  have agrees := decodeProtectedState_correct documented mintAccount.owner (base64Data mintAccount.data)
  cases program : State.decode_protected_state token mintAccount.owner.key (base64Data mintAccount.data) with
  | error error =>
    rw [program] at agrees
    obtain ⟨code, _, message, refused⟩ := agrees
    rw [stateRead] at refused
    cases refused
  | ok state =>
    rw [program] at agrees
    have same : clientState = ofProtectedState state := Except.ok.inj (stateRead.symm.trans agrees)
    refine ⟨mintAccount, clockAccount, state, now, ok_or_eq_ok.mp mintFound, ok_or_eq_ok.mp clockFound, program, decoded,
      rfl, rfl, same, ?_⟩
    rw [same]
    exact ClientOffline.phaseAt_of state now

end EquityGuard.ClientProtection
