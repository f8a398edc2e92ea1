import EquityGuard.Client

/-!
A Jupiter `/build` response: arbitrary JSON, validated against the documented contract.
What validation establishes is kept in the types of the fields.
-/
namespace EquityGuard.SwapBuild
open EquityGuard.Addresses EquityGuard.Binary64 EquityGuard.Bytes EquityGuard.Client EquityGuard.Errors

/-- A value as `JSON.parse` gives it; no name occurs twice in an object. -/
inductive Json where
  | null
  | bool (value : Bool)
  | number (value : Number)
  | string (value : String)
  | array (items : List Json)
  | object (fields : List (String × Json))

/-- A property; a missing one is `undefined`. -/
def property (record : List (String × Json)) (name : String) : Option Json :=
  (record.find? (fun field => decide (field.1 = name))).map Prod.snd
/-- `value == null`. -/
def isNullish : Option Json → Bool
  | none | some .null => true
  | _ => false

/-! ### Checked reads -/

def contractError (message : Template) : JsError := .JupiterApiError ("unexpected /build response: " :: message)
/-- A field that is not what the contract says of it. -/
def fieldError (name : Template) (text : String) : JsError := contractError (name ++ [.text text])

/-- A field of one kind of value; the checks below differ in the kind and its name. -/
def asKind {α : Type} (kind : Json → Option α) (text : String) (value : Option Json) (name : Template) : Js α :=
  ok_or (fieldError name text) (value.bind kind)
def asRecord : Option Json → Template → Js (List (String × Json)) :=
  asKind (fun | .object fields => some fields | _ => none) " must be an object"
def asArray : Option Json → Template → Js (List Json) :=
  asKind (fun | .array items => some items | _ => none) " must be an array"
def asString : Option Json → Template → Js String :=
  asKind (fun | .string text => some text | _ => none) " must be a string"
/-- A finite number. -/
def asNumber : Option Json → Template → Js ℚ :=
  asKind (fun | .number (.finite number) => some number | _ => none) " must be a number"

/-- `/^\d+$/`. -/
def isIntegerText (text : String) : Bool := !text.toList.isEmpty && text.toList.all Char.isDigit
/-- An unsigned decimal integer. -/
structure IntegerString where
  text : String
  valid : isIntegerText text = true
/-- `BigInt(text)`. -/
def IntegerString.toNat (integer : IntegerString) : Nat :=
  Nat.ofDigits 10 (integer.text.toList.map (fun digit => digit.toNat - '0'.toNat)).reverse

def asIntegerString (value : Option Json) (name : Template) : Js IntegerString := do
  let text ← asString value name
  if valid : isIntegerText text = true then return ⟨text, valid⟩
  else .error (fieldError name " must be an unsigned integer string")
def asAddress (value : Option Json) (name : Template) : Js Address := do
  let text ← asString value name
  if valid : isAddress text = true then return ⟨text, valid⟩
  else .error (fieldError name " is not a valid address")

/-! ### The response -/

structure ApiAccountMeta where
  pubkey : Address
  isSigner : Bool
  isWritable : Bool
structure ApiInstruction where
  programId : Address
  accounts : List ApiAccountMeta
  data : String
structure SwapInfo where
  ammKey : Address
  label : String
  inputMint : Address
  outputMint : Address
  inAmount : IntegerString
  outAmount : IntegerString
structure RoutePlanStep where
  percent : ℚ
  bps : Option ℚ
  swapInfo : SwapInfo
structure BlockhashWithMetadata where
  blockhash : Chunk 32
  lastValidBlockHeight : ℚ
structure BuildResponse where
  inputMint : Address
  outputMint : Address
  inAmount : IntegerString
  outAmount : IntegerString
  otherAmountThreshold : IntegerString
  swapMode : String
  slippageBps : ℚ
  routePlan : List RoutePlanStep
  computeBudgetInstructions : List ApiInstruction
  setupInstructions : List ApiInstruction
  swapInstruction : ApiInstruction
  cleanupInstruction : Option ApiInstruction
  otherInstructions : List ApiInstruction
  tipInstruction : Option ApiInstruction
  addressesByLookupTableAddress : List (Address × List Address)
  blockhashWithMetadata : BlockhashWithMetadata

def BLOCKHASH_LEN : Nat := 32

def parseAccountMeta (value : Json) : Js ApiAccountMeta := do
  let record ← asRecord value ["account meta"]
  match property record "isSigner", property record "isWritable" with
  | some (.bool isSigner), some (.bool isWritable) => do
    return { pubkey := ← asAddress (property record "pubkey") ["account pubkey"], isSigner, isWritable }
  | _, _ => .error (contractError ["account meta flags must be booleans"])
def parseInstruction (value : Option Json) : Js ApiInstruction := do
  let record ← asRecord value ["instruction"]
  return {
    programId := ← asAddress (property record "programId") ["programId"]
    accounts := ← (← asArray (property record "accounts") ["accounts"]).mapM parseAccountMeta
    data := ← asString (property record "data") ["instruction data"] }
/-- `value == null ? null : asNumber(value)`. -/
def asOptionalNumber (value : Option Json) (name : Template) : Js (Option ℚ) :=
  if isNullish value then .ok none else (do return some (← asNumber value name))
def parseRouteStep (value : Json) : Js RoutePlanStep := do
  let step ← asRecord value ["routePlan step"]
  let info ← asRecord (property step "swapInfo") ["swapInfo"]
  return {
    percent := ← asNumber (property step "percent") ["percent"]
    bps := ← asOptionalNumber (property step "bps") ["bps"]
    swapInfo := {
      ammKey := ← asAddress (property info "ammKey") ["ammKey"]
      label := ← asString (property info "label") ["label"]
      inputMint := ← asAddress (property info "inputMint") ["swapInfo.inputMint"]
      outputMint := ← asAddress (property info "outputMint") ["swapInfo.outputMint"]
      inAmount := ← asIntegerString (property info "inAmount") ["swapInfo.inAmount"]
      outAmount := ← asIntegerString (property info "outAmount") ["swapInfo.outAmount"] } }

/-- A byte of the blockhash: an integer in `[0, 255]`. -/
def byteOf : Json → Option UInt8
  | .number (.finite value) =>
    if value.den = 1 ∧ 0 ≤ value ∧ value ≤ 255 then some (UInt8.ofNat value.num.toNat) else none
  | _ => none
def parseBlockhash (items : List Json) : Js (Chunk 32) :=
  match items.mapM byteOf with
  | some bytes =>
    if size : bytes.length = BLOCKHASH_LEN then .ok ⟨bytes, size⟩
    else .error (contractError ["blockhashWithMetadata.blockhash must be 32 bytes"])
  | none => .error (contractError ["blockhashWithMetadata.blockhash must be 32 bytes"])
def parseLookupTable (entry : String × Json) : Js (Address × List Address) := do
  let table ← asAddress (some (.string entry.1)) ["lookup table"]
  let addresses ← asArray entry.2 ["ALT ", entry.1]
  return (table, ← addresses.mapM (fun item : Json => asAddress item ["ALT ", entry.1, " entry"]))
/-- `value == null ? null : parseInstruction(value)`. -/
def parseOptional (value : Option Json) : Js (Option ApiInstruction) :=
  if isNullish value then .ok none else (do return some (← parseInstruction value))

/-- Validates a `/build` response. -/
def parseBuildResponse (value : Json) : Js BuildResponse := do
  let r ← asRecord value ["response"]
  let blockhash ← asRecord (property r "blockhashWithMetadata") ["blockhashWithMetadata"]
  let blockhashBytes ← parseBlockhash (← asArray (property blockhash "blockhash") ["blockhashWithMetadata.blockhash"])
  let alts := if isNullish (property r "addressesByLookupTableAddress") then some (.object [])
    else property r "addressesByLookupTableAddress"
  let altRecord ← asRecord alts ["addressesByLookupTableAddress"]
  let addressesByLookupTableAddress ← altRecord.mapM parseLookupTable
  let others := if isNullish (property r "otherInstructions") then some (.array []) else property r "otherInstructions"
  return {
    inputMint := ← asAddress (property r "inputMint") ["inputMint"]
    outputMint := ← asAddress (property r "outputMint") ["outputMint"]
    inAmount := ← asIntegerString (property r "inAmount") ["inAmount"]
    outAmount := ← asIntegerString (property r "outAmount") ["outAmount"]
    otherAmountThreshold := ← asIntegerString (property r "otherAmountThreshold") ["otherAmountThreshold"]
    swapMode := ← asString (property r "swapMode") ["swapMode"]
    slippageBps := ← asNumber (property r "slippageBps") ["slippageBps"]
    routePlan := ← (← asArray (property r "routePlan") ["routePlan"]).mapM parseRouteStep
    computeBudgetInstructions := ← (← asArray (property r "computeBudgetInstructions")
      ["computeBudgetInstructions"]).mapM (fun item : Json => parseInstruction item)
    setupInstructions := ← (← asArray (property r "setupInstructions")
      ["setupInstructions"]).mapM (fun item : Json => parseInstruction item)
    swapInstruction := ← parseInstruction (property r "swapInstruction")
    cleanupInstruction := ← parseOptional (property r "cleanupInstruction")
    otherInstructions := ← (← asArray others ["otherInstructions"]).mapM (fun item : Json => parseInstruction item)
    tipInstruction := ← parseOptional (property r "tipInstruction")
    addressesByLookupTableAddress
    blockhashWithMetadata := {
      blockhash := blockhashBytes
      lastValidBlockHeight := ← asNumber (property blockhash "lastValidBlockHeight") ["lastValidBlockHeight"] } }

/-! ### Every response can be received -/

def ApiAccountMeta.toJson (account : ApiAccountMeta) : Json :=
  .object [("pubkey", .string account.pubkey.text), ("isSigner", .bool account.isSigner),
    ("isWritable", .bool account.isWritable)]
def ApiInstruction.toJson (instruction : ApiInstruction) : Json :=
  .object [("programId", .string instruction.programId.text),
    ("accounts", .array (instruction.accounts.map ApiAccountMeta.toJson)), ("data", .string instruction.data)]
def RoutePlanStep.toJson (step : RoutePlanStep) : Json :=
  .object [("percent", .number (.finite step.percent)),
    ("bps", (step.bps.map (fun bps => Json.number (.finite bps))).getD .null),
    ("swapInfo", .object [("ammKey", .string step.swapInfo.ammKey.text), ("label", .string step.swapInfo.label),
      ("inputMint", .string step.swapInfo.inputMint.text), ("outputMint", .string step.swapInfo.outputMint.text),
      ("inAmount", .string step.swapInfo.inAmount.text), ("outAmount", .string step.swapInfo.outAmount.text)])]
def optionalJson (instruction : Option ApiInstruction) : Json := (instruction.map ApiInstruction.toJson).getD .null
def lookupTableJson (entry : Address × List Address) : String × Json :=
  (entry.1.text, .array (entry.2.map (fun address => .string address.text)))
/-- The response as Jupiter writes it. -/
def BuildResponse.toJson (build : BuildResponse) : Json :=
  .object [("inputMint", .string build.inputMint.text), ("outputMint", .string build.outputMint.text),
    ("inAmount", .string build.inAmount.text), ("outAmount", .string build.outAmount.text),
    ("otherAmountThreshold", .string build.otherAmountThreshold.text), ("swapMode", .string build.swapMode),
    ("slippageBps", .number (.finite build.slippageBps)), ("routePlan", .array (build.routePlan.map RoutePlanStep.toJson)),
    ("computeBudgetInstructions", .array (build.computeBudgetInstructions.map ApiInstruction.toJson)),
    ("setupInstructions", .array (build.setupInstructions.map ApiInstruction.toJson)),
    ("swapInstruction", build.swapInstruction.toJson), ("cleanupInstruction", optionalJson build.cleanupInstruction),
    ("otherInstructions", .array (build.otherInstructions.map ApiInstruction.toJson)),
    ("tipInstruction", optionalJson build.tipInstruction),
    ("addressesByLookupTableAddress", .object (build.addressesByLookupTableAddress.map lookupTableJson)),
    ("blockhashWithMetadata", .object [
      ("blockhash", .array (build.blockhashWithMetadata.blockhash.bytes.map (fun byte => .number (.ofInt byte.toNat)))),
      ("lastValidBlockHeight", .number (.finite build.blockhashWithMetadata.lastValidBlockHeight))])]

@[simp] theorem asAddress_text (address : Address) (name : Template) :
    asAddress (some (.string address.text)) name = .ok address := by
  simp [asAddress, asString, asKind, address.valid, pure_eq_ok]
@[simp] theorem asIntegerString_text (integer : IntegerString) (name : Template) :
    asIntegerString (some (.string integer.text)) name = .ok integer := by
  simp [asIntegerString, asString, asKind, integer.valid, pure_eq_ok]
/-- A parser that reads back what was written does so for a list. -/
theorem mapM_written {α β : Type} {written : α → β} (parse : β → Js α)
    (reads : ∀ item, parse (written item) = .ok item) (items : List α) : (items.map written).mapM parse = .ok items := by
  induction items with
  | nil => rfl
  | cons item rest ih =>
    rw [List.map_cons, List.mapM_cons, reads, ih]
    rfl
theorem parseAccountMeta_toJson (account : ApiAccountMeta) : parseAccountMeta account.toJson = .ok account := by
  simp [parseAccountMeta, ApiAccountMeta.toJson, asRecord, asKind, property, pure_eq_ok]
theorem parseInstruction_toJson (instruction : ApiInstruction) : parseInstruction instruction.toJson = .ok instruction := by
  simp [parseInstruction, ApiInstruction.toJson, asRecord, asArray, asString, asKind, property, pure_eq_ok,
    mapM_written _ parseAccountMeta_toJson]
theorem parseRouteStep_toJson (step : RoutePlanStep) : parseRouteStep step.toJson = .ok step := by
  obtain ⟨percent, bps, info⟩ := step
  cases bps <;>
    simp [parseRouteStep, RoutePlanStep.toJson, asRecord, asOptionalNumber, asNumber, asString, asKind,
      property, isNullish, pure_eq_ok]
theorem parseOptional_json (instruction : Option ApiInstruction) : parseOptional (optionalJson instruction) = .ok instruction := by
  cases instruction with
  | none => rfl
  | some instruction =>
    show (do return some (← parseInstruction instruction.toJson) : Js _) = _
    rw [parseInstruction_toJson]
    rfl
theorem byteOf_number (byte : UInt8) : byteOf (.number (.ofInt byte.toNat)) = some byte := by
  have small : byte.toNat ≤ 255 := by have := byte.toNat_lt; omega
  have bounded : ((byte.toNat : Int) : ℚ) ≤ 255 := by exact_mod_cast small
  simp only [byteOf, Number.ofInt]
  rw [if_pos ⟨Rat.den_intCast _, by positivity, bounded⟩]
  simp
theorem parseBlockhash_numbers (blockhash : Chunk 32) :
    parseBlockhash (blockhash.bytes.map (fun byte => .number (.ofInt byte.toNat))) = .ok blockhash := by
  have bytes : (blockhash.bytes.map (fun byte => Json.number (.ofInt byte.toNat))).mapM byteOf = some blockhash.bytes := by
    induction blockhash.bytes with
    | nil => rfl
    | cons byte rest ih => rw [List.map_cons, List.mapM_cons, byteOf_number, ih]; rfl
  simp only [parseBlockhash, bytes, BLOCKHASH_LEN, blockhash.size_eq, ↓reduceDIte]
theorem parseLookupTable_json (entry : Address × List Address) : parseLookupTable (lookupTableJson entry) = .ok entry := by
  have read := mapM_written (fun item : Json => asAddress item ["ALT ", entry.1, " entry"])
    (fun address => asAddress_text address _) entry.2
  simp [parseLookupTable, lookupTableJson, asArray, asKind, pure_eq_ok, read]
/-- Validation accepts every response, and reads back exactly what was written. -/
theorem parseBuildResponse_toJson (build : BuildResponse) : parseBuildResponse build.toJson = .ok build := by
  simp [parseBuildResponse, BuildResponse.toJson, asRecord, asArray, asString, asNumber, asKind, property, isNullish,
    pure_eq_ok, parseBlockhash_numbers, parseInstruction_toJson, parseOptional_json, mapM_written _ parseRouteStep_toJson,
    mapM_written _ parseLookupTable_json, mapM_written (fun item : Json => parseInstruction item) parseInstruction_toJson]

/-! ### What validation throws -/

theorem asKind_throws {α : Type} (kind : Json → Option α) (text : String) (value : Option Json) (name : Template) :
    Throws JsError.IsJupiterApiError (asKind kind text value name) := .ok_or fun _ => trivial
theorem asIntegerString_throws (value : Option Json) (name : Template) :
    Throws JsError.IsJupiterApiError (asIntegerString value name) := by
  refine .bind (asKind_throws _ _ value name) fun text _ => ?_
  split
  · exact .ok _
  · exact .error trivial
theorem asAddress_throws (value : Option Json) (name : Template) :
    Throws JsError.IsJupiterApiError (asAddress value name) := by
  refine .bind (asKind_throws _ _ value name) fun text _ => ?_
  split
  · exact .ok _
  · exact .error trivial
theorem asOptionalNumber_throws (value : Option Json) (name : Template) :
    Throws JsError.IsJupiterApiError (asOptionalNumber value name) := by
  unfold asOptionalNumber
  split
  · exact .ok _
  · exact .bind (asKind_throws _ _ value name) fun _ _ => .ok _
theorem parseAccountMeta_throws (value : Json) : Throws JsError.IsJupiterApiError (parseAccountMeta value) := by
  refine .bind (asKind_throws _ _ _ _) fun record _ => ?_
  split
  · exact .bind (asAddress_throws _ _) fun _ _ => .ok _
  · exact .error trivial
theorem parseInstruction_throws (value : Option Json) : Throws JsError.IsJupiterApiError (parseInstruction value) :=
  .bind (asKind_throws _ _ _ _) fun _ _ => .bind (asAddress_throws _ _) fun _ _ =>
    .bind (asKind_throws _ _ _ _) fun _ _ => .bind (.mapM fun item _ => parseAccountMeta_throws item) fun _ _ =>
    .bind (asKind_throws _ _ _ _) fun _ _ => .ok _
theorem parseRouteStep_throws (value : Json) : Throws JsError.IsJupiterApiError (parseRouteStep value) :=
  .bind (asKind_throws _ _ _ _) fun _ _ => .bind (asKind_throws _ _ _ _) fun _ _ =>
    .bind (asKind_throws _ _ _ _) fun _ _ => .bind (asOptionalNumber_throws _ _) fun _ _ =>
    .bind (asAddress_throws _ _) fun _ _ => .bind (asKind_throws _ _ _ _) fun _ _ =>
    .bind (asAddress_throws _ _) fun _ _ => .bind (asAddress_throws _ _) fun _ _ =>
    .bind (asIntegerString_throws _ _) fun _ _ => .bind (asIntegerString_throws _ _) fun _ _ => .ok _
theorem parseBlockhash_throws (items : List Json) : Throws JsError.IsJupiterApiError (parseBlockhash items) := by
  unfold parseBlockhash
  split
  · split
    · exact .ok _
    · exact .error trivial
  · exact .error trivial
theorem parseLookupTable_throws (entry : String × Json) : Throws JsError.IsJupiterApiError (parseLookupTable entry) :=
  .bind (asAddress_throws _ _) fun _ _ => .bind (asKind_throws _ _ _ _) fun _ _ =>
    .bind (.mapM fun _ _ => asAddress_throws _ _) fun _ _ => .ok _
theorem parseOptional_throws (value : Option Json) : Throws JsError.IsJupiterApiError (parseOptional value) := by
  unfold parseOptional
  split
  · exact .ok _
  · exact .bind (parseInstruction_throws value) fun _ _ => .ok _
/-- Whatever the JSON, validation refuses it with its own error or accepts it. -/
theorem parseBuildResponse_throws (value : Json) : Throws JsError.IsJupiterApiError (parseBuildResponse value) :=
  .bind (asKind_throws _ _ _ _) fun _ _ => .bind (asKind_throws _ _ _ _) fun _ _ =>
    .bind (asKind_throws _ _ _ _) fun _ _ => .bind (parseBlockhash_throws _) fun _ _ =>
    .bind (asKind_throws _ _ _ _) fun _ _ => .bind (.mapM fun entry _ => parseLookupTable_throws entry) fun _ _ =>
    .bind (asAddress_throws _ _) fun _ _ => .bind (asAddress_throws _ _) fun _ _ =>
    .bind (asIntegerString_throws _ _) fun _ _ => .bind (asIntegerString_throws _ _) fun _ _ =>
    .bind (asIntegerString_throws _ _) fun _ _ => .bind (asKind_throws _ _ _ _) fun _ _ =>
    .bind (asKind_throws _ _ _ _) fun _ _ => .bind (asKind_throws _ _ _ _) fun _ _ =>
    .bind (.mapM fun item _ => parseRouteStep_throws item) fun _ _ => .bind (asKind_throws _ _ _ _) fun _ _ =>
    .bind (.mapM fun item _ => parseInstruction_throws item) fun _ _ => .bind (asKind_throws _ _ _ _) fun _ _ =>
    .bind (.mapM fun item _ => parseInstruction_throws item) fun _ _ => .bind (parseInstruction_throws _) fun _ _ =>
    .bind (parseOptional_throws _) fun _ _ => .bind (asKind_throws _ _ _ _) fun _ _ =>
    .bind (.mapM fun item _ => parseInstruction_throws item) fun _ _ => .bind (parseOptional_throws _) fun _ _ =>
    .bind (asKind_throws _ _ _ _) fun _ _ => .ok _

end EquityGuard.SwapBuild
