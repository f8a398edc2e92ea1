import EquityGuard.Base64
import EquityGuard.ChainObservation

/-!
The raw lines of a capture, decoded into observations of mints. What cannot be decoded
is kept as evidence of that, and what cannot be attributed to a mint as a line error.
-/
namespace EquityGuard.Capture
open EquityGuard.Binary64 EquityGuard.Canonical EquityGuard.ChainObservation EquityGuard.Client EquityGuard.JsonText
open EquityGuard.JsValue EquityGuard.Representations

/-! ### Records -/

structure CaptureObservation where
  lineNumber : Nat
  wallclock : Option Text
  slot : Option Int
  blockTime : Option Int
  symbol : Option Text
  issuer : Option Text
  mint : Text
  /-- The state decoded at `blockTime`, or a decode failure kept as evidence. -/
  evidence : ChainEvidence
inductive CaptureLineErrorCode where
  | MalformedJson
  | UnrecognizedRecord
  | MissingMint
deriving DecidableEq
def CaptureLineErrorCode.name : CaptureLineErrorCode → Text
  | MalformedJson => "MalformedJson"
  | UnrecognizedRecord => "UnrecognizedRecord"
  | MissingMint => "MissingMint"
/-- A line, or an account entry of one, that belongs to no mint. -/
structure CaptureLineError where
  lineNumber : Nat
  code : CaptureLineErrorCode
  message : Template
inductive CaptureRecord where
  | observation (observation : CaptureObservation)
  | lineError (error : CaptureLineError)

/-! ### Values of a line -/

/-- What `trim` removes: the white space and the line terminators of the language. -/
def IsWhitespace (unit : UInt16) : Prop :=
  unit ∈ ([9, 10, 11, 12, 13, 32, 0xa0, 0x1680, 0x2028, 0x2029, 0x202f, 0x205f, 0x3000, 0xfeff] : Text) ∨
    (0x2000 ≤ unit ∧ unit ≤ 0x200a)
instance : DecidablePred IsWhitespace := fun _ => instDecidableOr
/-- `text.trim() === ""`. -/
def IsBlank (line : Text) : Prop := ∀ unit ∈ line, IsWhitespace unit
instance : DecidablePred IsBlank := fun line => inferInstanceAs (Decidable (∀ unit ∈ line, IsWhitespace unit))
def stringOrNull : Value → Option Text
  | .string string => some string
  | _ => none
/-- `/^\d+$/`, and the number it spells. -/
def digitsValue (spelled : Text) : Option Int :=
  if spelled ≠ [] ∧ ∀ unit ∈ spelled, IsDigit unit then
    some (spelled.foldl (fun value unit => value * 10 + (unit.toNat - 48 : Nat)) 0)
  else none
/-- Integers only; numbers beyond `2 ^ 53` are not trusted for slots or times. -/
def toBigInt : Value → Option Int
  | .number number => safeInteger number
  | .negativeZero => some 0
  | .string (45 :: spelled) => (digitsValue spelled).map (fun value => -value)
  | .string spelled => digitsValue spelled
  | _ => none
/-- A string by its ASCII letters; every other unit becomes one that no address and no alphabet has. -/
def lettersOf (string : Text) : String := String.ofList (string.map (fun unit => Char.ofNat unit.toNat))
/-- `Buffer.from(string, "base64")`: both alphabets, up to the padding. -/
def bufferFromBase64 (string : Text) : List UInt8 :=
  Base64.decode (lettersOf ((string.takeWhile (fun unit => unit ≠ 61)).map (fun unit =>
    if unit = 45 then 43 else if unit = 95 then 47 else unit)))

/-! ### Decoding -/

structure AccountEntry where
  symbol : Option Text
  issuer : Option Text
  mint : Value
  exists_ : Value
  owner : Value
  data : Value
  encoding : Value
def decodeAccount (lineNumber : Nat) (wallclock : Option Text) (slot blockTime : Option Int) (entry : AccountEntry) :
    Js CaptureRecord :=
  match entry.mint with
  | .string (unit :: units) =>
    let mint : Text := unit :: units
    let base (evidence : ChainEvidence) : CaptureRecord :=
      .observation ⟨lineNumber, wallclock, slot, blockTime, entry.symbol, entry.issuer, mint, evidence⟩
    let failure (code : Text) (message : Template) : Js CaptureRecord :=
      .ok (base (.decodeError ⟨mint, slot, blockTime, wallclock⟩ code message))
    match entry.exists_, entry.owner, entry.data, entry.encoding with
    | .boolean false, _, _, _ => failure "AccountNotFound" ["account did not exist at this slot"]
    | _, .string owner, .string data, .string encoding =>
      if encoding = "base64" then do
        -- The block time of the observed slot is the chain time of the phase.
        return base (← observeMintAccount {
          mint, slot, blockTime
          observedAt := wallclock
          owner := lettersOf owner
          data := bufferFromBase64 data
          chainUnixTimestamp := blockTime })
      else failure "MissingData" ["account data missing or not base64"]
    | _, .string _, _, _ => failure "MissingData" ["account data missing or not base64"]
    | _, _, _, _ => failure "MissingOwner" ["account owner missing"]
  | _ => .ok (.lineError ⟨lineNumber, .MissingMint, ["account entry has no mint address"]⟩)

section
-- `JSON.parse`, with no value for what it throws on.
variable (jsonParse : Text → Option Value)

/-- Decodes one line into any number of records. -/
def decodeCaptureLine (line : Text) (lineNumber : Nat) : Js (List CaptureRecord) :=
  if IsBlank line then .ok []
  else
    match jsonParse line with
    | none => .ok [.lineError ⟨lineNumber, .MalformedJson, ["line is not valid JSON"]⟩]
    | some (.object fields) =>
      let record : Value := .object fields
      let slot := toBigInt (record.get "slot")
      let blockTime := toBigInt (record.get "blockTime")
      match record.get "accounts" with
      | .array accounts =>
        accounts.mapM (fun account => decodeAccount lineNumber (stringOrNull (record.get "wallclock")) slot blockTime {
          symbol := stringOrNull (account.get "symbol")
          issuer := stringOrNull (account.get "issuer")
          mint := account.get "address"
          exists_ := account.get "exists"
          owner := account.get "owner"
          data := account.get "data"
          encoding := account.get "encoding" })
      | _ =>
        if record.get "schemaVersion" matches .number (.finite 1) then do
          return [← decodeAccount lineNumber (stringOrNull (record.get "capturedAt")) slot blockTime {
            symbol := stringOrNull (record.get "symbol")
            issuer := stringOrNull (record.get "issuer")
            mint := record.get "mint"
            exists_ := record.get "exists"
            owner := record.get "owner"
            data := record.get "dataBase64"
            encoding := "base64" }]
        else .ok [.lineError ⟨lineNumber, .UnrecognizedRecord, ["neither poll format nor schema v1"]⟩]
    | some _ => .ok [.lineError ⟨lineNumber, .UnrecognizedRecord, ["line is not a JSON object"]⟩]
/-- No line makes the decoder throw. -/
theorem decodeAccount_returns (lineNumber : Nat) (wallclock : Option Text) (slot blockTime : Option Int) (entry : AccountEntry) :
    ∃ record, decodeAccount lineNumber wallclock slot blockTime entry = .ok record := by
  unfold decodeAccount
  split
  · split
    · exact ⟨_, rfl⟩
    · split
      · exact Errors.bind_returns (observeMintAccount_returns _) fun _ => ⟨_, rfl⟩
      · exact ⟨_, rfl⟩
    · exact ⟨_, rfl⟩
    · exact ⟨_, rfl⟩
  · exact ⟨_, rfl⟩
theorem decodeCaptureLine_returns (line : Text) (lineNumber : Nat) :
    ∃ records, decodeCaptureLine jsonParse line lineNumber = .ok records := by
  unfold decodeCaptureLine
  split
  · exact ⟨_, rfl⟩
  · split
    · exact ⟨_, rfl⟩
    · dsimp only
      split
      · exact Errors.mapM_returns fun account _ => decodeAccount_returns _ _ _ _ _
      · split
        · exact Errors.bind_returns (decodeAccount_returns _ _ _ _ _) fun _ => ⟨_, rfl⟩
        · exact ⟨_, rfl⟩
    · exact ⟨_, rfl⟩
/-- The records of the lines of a capture, each line with its number, the first one being one. -/
def decodeCapture (lines : List Text) : Js (List CaptureRecord) := do
  return (← (lines.zipIdx 1).mapM (fun line => decodeCaptureLine jsonParse line.1 line.2)).flatten
end

end EquityGuard.Capture
