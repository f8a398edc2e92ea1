import EquityGuard.ClientMintState

/-!
The public page's own decoder of a mint account, and exactly the accounts on which it and
the client's part: mints that Token-2022 forbids by a rule that the page does not apply.
-/
namespace EquityGuard.SessionMint
open EquityGuard.Addresses EquityGuard.Binary64 EquityGuard.Bytes EquityGuard.Client EquityGuard.ClientAbi
open EquityGuard.ClientMintState EquityGuard.Errors
open EquityGuard.State (StoredMultiplier)

/-- What the page's functions throw: an `Error` of their own, or what the language and the kit throw. -/
inductive PageError where
  | Error (message : String)
  | thrown (error : JsError)
deriving DecidableEq
abbrev Page := Except PageError
/-- A call of the language or of the kit. -/
def called {α : Type} (result : Js α) : Page α := result.mapError .thrown

def positiveNormalMultiplier (bytes : List UInt8) : Bool :=
  if bytes.length ≠ 8 then false
  else
    let value := ofBits (leNat bytes)
    -- the same literal, `2.2250738585072014e-308`
    value.isFinite && Number.le MIN_POSITIVE_NORMAL_F64 value

structure ScaledEntry where
  valueOffset : Nat
  length : Nat
deriving DecidableEq
/-- The two variables that the walk over the extensions leaves behind. -/
structure Walked where
  seen : List Nat
  scaled : Option ScaledEntry
deriving DecidableEq
structure DecodedMint where
  state : ProtectedState
  decimals : Nat
deriving DecidableEq

/-- The loop of `readSessionMint`, from an offset on. -/
def walkExtensions (data : List UInt8) (walked : Walked) (offset : Nat) : Page Walked :=
  if data.length - offset ≥ 2 then do
    let type ← called (getUint16 data offset)
    if type = 0 then return walked
    else do
      refuse_if (type > 28 ∨ data.length - offset < 4) (.Error "Session mint extension header is truncated")
      let length ← called (getUint16 data (offset + 2))
      let valueOffset := offset + 4
      refuse_if (valueOffset + length > data.length ∨ type ∈ walked.seen)
        (.Error "Session mint extension layout is invalid")
      walkExtensions data
        { seen := type :: walked.seen, scaled := if type = 25 then some ⟨valueOffset, length⟩ else walked.scaled }
        (valueOffset + length)
  else return walked
termination_by data.length - offset
decreasing_by omega
/-- What `readSessionMint` does once the extensions are walked. -/
def readScaled (data : List UInt8) (walked : Walked) : Page ProtectedState := do
  let scaled ← ok_or (.Error "Session mint has no ScaledUiAmount extension") walked.scaled
  refuse_if (10 ∈ walked.seen) (.Error "Session mint combines ScaledUiAmount with InterestBearingConfig")
  refuse_if (scaled.length ≠ 56) (.Error "ScaledUiAmount config has the wrong length")
  let multiplier := slice data (scaled.valueOffset + 32) (scaled.valueOffset + 40)
  let newMultiplier := slice data (scaled.valueOffset + 48) (scaled.valueOffset + 56)
  refuse_if (¬ positiveNormalMultiplier multiplier ∨ ¬ positiveNormalMultiplier newMultiplier)
    (.Error "Stored multiplier is not a positive normal f64")
  let newMultiplierEffectiveTimestamp ← called (getBigInt64 data (scaled.valueOffset + 40))
  return { multiplier, newMultiplier, newMultiplierEffectiveTimestamp }
def checkAuthorityTag (data : List UInt8) (offset : Nat) : Page Unit := do
  let tag ← called (getUint32 data offset)
  refuse_if (tag ≠ 0 ∧ tag ≠ 1) (.Error "Session mint authority tag is invalid")
def readSessionMint (owner : String) (data : List UInt8) : Page DecodedMint := do
  refuse_if (owner ≠ TOKEN_2022_PROGRAM_ADDRESS.text) (.Error "Session mint is not owned by Token-2022")
  refuse_if (data.length < 166 ∨ data.length = 355) (.Error "Session mint data is not a Token-2022 extension mint")
  checkAuthorityTag data 0
  checkAuthorityTag data 46
  refuse_if (data[45]? ≠ some 1) (.Error "Session mint is not initialized")
  let decimals ← ok_or (.Error "Session mint decimals are missing") data[44]?
  refuse_if (((data.drop 82).take (165 - 82)).any (· ≠ 0) = true ∨ data[165]? ≠ some 1)
    (.Error "Session mint extension header is invalid")
  let walked ← walkExtensions data { seen := [], scaled := none } 166
  let state ← readScaled data walked
  return { state, decimals := decimals.toNat }

/-! ### The two walks -/

@[simp] theorem called_ok {α : Type} (value : α) : called (.ok value) = .ok value := rfl
theorem called_eq_ok {α : Type} {result : Js α} {value : α} : called result = .ok value ↔ result = .ok value :=
  mapError_eq_ok
theorem positiveNormalMultiplier_eq (bytes : List UInt8) : positiveNormalMultiplier bytes = isValidStoredMultiplier bytes := rfl

/-- The first ScaledUiAmount entry, which the client looks up when it has them all. -/
def scaledUi (entries : List TlvEntry) : Option TlvEntry :=
  entries.find? (fun entry => decide (entry.type = ExtensionType.ScaledUiAmount))
/-- What the page keeps of the entries that the client collects. -/
def summary (entries : List TlvEntry) : Walked where
  seen := (entries.map TlvEntry.type).reverse
  scaled := (scaledUi entries).map (fun entry => ⟨entry.valueOffset, entry.length⟩)

/-- A type that was not seen yet is the first of its kind. -/
theorem summary_snoc {entries : List TlvEntry} {entry : TlvEntry} (unseen : entry.type ∉ (summary entries).seen) :
    summary (entries ++ [entry]) =
      { seen := entry.type :: (summary entries).seen
        scaled := if entry.type = 25 then some ⟨entry.valueOffset, entry.length⟩ else (summary entries).scaled } := by
  have seen : (summary (entries ++ [entry])).seen = entry.type :: (summary entries).seen := by simp [summary]
  rw [Walked.mk.injEq]
  refine ⟨seen, ?_⟩
  show (scaledUi (entries ++ [entry])).map _ = _
  rw [scaledUi, List.find?_append, ← scaledUi]
  by_cases scaled : entry.type = ExtensionType.ScaledUiAmount
  · have absent : scaledUi entries = none := by
      rw [scaledUi, List.find?_eq_none]
      intro other member same
      apply unseen
      rw [summary, List.mem_reverse, List.mem_map]
      exact ⟨other, member, (of_decide_eq_true same).trans scaled.symm⟩
    rw [if_pos (show entry.type = 25 from scaled), absent, Option.none_or, List.find?_singleton,
      if_pos (decide_eq_true scaled)]
    rfl
  · rw [if_neg (show ¬ entry.type = 25 from scaled), List.find?_singleton,
      if_neg (fun same => scaled (of_decide_eq_true same)), Option.or_none]
    rfl
theorem walkExtensions_step (data : List UInt8) (walked : Walked) (offset : Nat) :
    walkExtensions data walked offset =
      let rest := data.drop offset
      let type := leNat (rest.take 2)
      let length := leNat ((rest.drop 2).take 2)
      if rest.length < 2 then .ok walked
      else if type = 0 then .ok walked
      else if ¬ type < 29 ∨ rest.length < 4 then .error (.Error "Session mint extension header is truncated")
      else if rest.length < 4 + length ∨ type ∈ walked.seen then .error (.Error "Session mint extension layout is invalid")
      else walkExtensions data
        { seen := type :: walked.seen, scaled := if type = 25 then some ⟨offset + 4, length⟩ else walked.scaled }
        (offset + (4 + length)) := by
  rw [walkExtensions]
  simp only [List.length_drop, List.drop_drop]
  by_cases ended : data.length - offset < 2
  · rw [if_neg (by omega), if_pos ended]
    rfl
  rw [if_pos (by omega), if_neg ended, getUint16_of_le (by omega)]
  simp only [called_ok, ok_bind, refuse_if_bind]
  by_cases zero : leNat ((data.drop offset).take 2) = 0
  · simp only [zero, ↓reduceIte]
    rfl
  have bound : leNat ((data.drop offset).take 2) > 28 ↔ ¬ leNat ((data.drop offset).take 2) < 29 := by omega
  simp only [zero, ↓reduceIte, bound]
  by_cases header : ¬ leNat ((data.drop offset).take 2) < 29 ∨ data.length - offset < 4
  · rw [if_pos header, if_pos header]
  have overrun : offset + (4 + leNat ((data.drop (offset + 2)).take 2)) > data.length ↔
      data.length - offset < 4 + leNat ((data.drop (offset + 2)).take 2) := by omega
  rw [if_neg header, if_neg header, getUint16_of_le (by omega), called_ok, ok_bind]
  simp only [overrun, Nat.add_assoc]

/-- The page's walk ends where the client's does, with a summary of its entries. -/
theorem walkExtensions_follows (data : List UInt8) (entries : List TlvEntry) (offset : Nat) :
    (walkExtensions data (summary entries) offset).toOption =
      (readTlvFrom data entries (summary entries).seen offset).toOption.map summary := by
  induction size : data.length - offset using Nat.strong_induction_on generalizing entries offset with
  | h size ih =>
  rw [walkExtensions_step, readTlvFrom_step]
  simp only
  by_cases ended : (data.drop offset).length < 2
  · simp only [ended, ↓reduceIte]
    rfl
  by_cases zero : leNat ((data.drop offset).take 2) = 0
  · simp only [ended, zero, ↓reduceIte]
    rfl
  by_cases unknown : ¬ leNat ((data.drop offset).take 2) < 29
  · simp only [ended, zero, unknown, true_or, not_false_eq_true, ↓reduceIte]
    rfl
  by_cases short : (data.drop offset).length < 4
  · simp only [ended, zero, unknown, short, or_true, ↓reduceIte]
    rfl
  by_cases overrun : (data.drop offset).length < 4 + leNat (((data.drop offset).drop 2).take 2)
  · simp only [ended, zero, unknown, short, overrun, or_false, true_or, ↓reduceIte]
    rfl
  by_cases again : leNat ((data.drop offset).take 2) ∈ (summary entries).seen
  · simp only [ended, zero, unknown, short, overrun, again, or_false, or_true, ↓reduceIte]
    rfl
  simp only [ended, zero, unknown, short, overrun, again, or_false, ↓reduceIte]
  let entry : TlvEntry := ⟨leNat ((data.drop offset).take 2), leNat (((data.drop offset).drop 2).take 2), offset + 4⟩
  have next := @summary_snoc entries entry again
  have later := ih (data.length - (offset + (4 + entry.length))) (by rw [List.length_drop] at ended; omega)
    (entries ++ [entry]) (offset + (4 + entry.length)) rfl
  rw [next] at later
  exact later

/-! ### The layout before the extensions -/

theorem validateBaseMint_eq_ok {data : List UInt8} : validateBaseMint data = .ok () ↔ Token2022.BaseMint data := by
  rcases validateBaseMint_correct data with ⟨base, checked⟩ | ⟨notBase, message, refused⟩
  · exact iff_of_true checked base
  · refine iff_of_false ?_ notBase
    rw [refused]
    exact nofun
theorem dirty_iff (data : List UInt8) :
    ((data.drop 82).take (165 - 82)).any (· ≠ 0) = true ↔ ¬ ∀ byte ∈ (data.drop 82).take 83, byte = 0 := by
  simp [List.any_eq_true]
theorem parseMintAccount_eq_ok {owner : String} {data : List UInt8} {entries : List TlvEntry} (long : 166 ≤ data.length) :
    parseMintAccount owner data = .ok entries ↔ owner = TOKEN_2022_PROGRAM_ADDRESS.text ∧ Token2022.BaseMint data ∧
      Token2022.MintArea data ∧ readTlvEntries data = .ok entries := by
  have bare : data.length ≠ BASE_MINT_LEN := by
    simp only [BASE_MINT_LEN]
    omega
  have started : ¬ data.length < TLV_START := Nat.not_lt.mpr long
  have area : Token2022.MintArea data ↔ (∀ byte ∈ (data.drop 82).take 83, byte = 0) ∧ data[165]? = some 1 := by
    simp only [Token2022.MintArea, long, true_and]
    exact or_iff_right bare
  rw [parseMintAccount, if_neg bare]
  simp only [then_eq_ok, refuse_if_eq_ok, validateBaseMint_eq_ok, started, not_false_eq_true, true_and, area, and_assoc]
  refine and_congr not_not (and_congr_right fun _ => and_congr (not_iff_comm.mp (dirty_iff data).symm) ?_)
  exact and_congr_left' not_not
theorem parseMintAccount_short {owner : String} {data : List UInt8} {entries : List TlvEntry} (short : data.length < 166)
    (parsed : parseMintAccount owner data = .ok entries) : entries = [] := by
  simp only [parseMintAccount, then_eq_ok] at parsed
  obtain ⟨_, _, parsed⟩ := parsed
  by_cases bare : data.length = BASE_MINT_LEN
  · rw [if_pos bare] at parsed
    cases parsed
    rfl
  · rw [if_neg bare, refuse_if_bind, if_pos (show data.length < TLV_START from short)] at parsed
    cases parsed
theorem checkAuthorityTag_eq_ok {data : List UInt8} {offset : Nat} (inside : offset + 4 ≤ data.length) :
    checkAuthorityTag data offset = .ok () ↔
      leNat ((data.drop offset).take 4) = 0 ∨ leNat ((data.drop offset).take 4) = 1 := by
  rw [checkAuthorityTag, getUint32_of_le inside, called_ok, ok_bind, refuse_if_eq_ok]
  tauto
theorem walkExtensions_eq_ok {data : List UInt8} {walked : Walked} :
    walkExtensions data { seen := [], scaled := none } 166 = .ok walked ↔
      ∃ entries, readTlvEntries data = .ok entries ∧ summary entries = walked := by
  have follows := walkExtensions_follows data [] 166
  show walkExtensions data (summary []) 166 = _ ↔ ∃ entries, readTlvFrom data [] (summary []).seen 166 = _ ∧ _
  cases ours : walkExtensions data (summary []) 166 <;> cases theirs : readTlvFrom data [] (summary []).seen 166 <;>
    simp_all [Except.toOption]

/-- The page reads what the client parses, and only then looks at the ScaledUiAmount entry. -/
theorem readSessionMint_eq_ok {owner : String} {data : List UInt8} {mint : DecodedMint} :
    readSessionMint owner data = .ok mint ↔ ∃ entries, parseMintAccount owner data = .ok entries ∧
      readScaled data (summary entries) = .ok mint.state ∧ data[44]?.map UInt8.toNat = some mint.decimals := by
  by_cases long : 166 ≤ data.length
  · have mintTag := @checkAuthorityTag_eq_ok data 0 (by omega)
    have freezeTag := @checkAuthorityTag_eq_ok data 46 (by omega)
    simp only [readSessionMint, then_eq_ok, refuse_if_eq_ok, mintTag, freezeTag, List.drop_zero]
    constructor
    · rintro ⟨owned, size, mintTagged, freezeTagged, initialized, decoded⟩
      obtain ⟨decimals, found, decoded⟩ := bind_eq_ok.mp decoded
      obtain ⟨header, decoded⟩ := then_eq_ok.mp decoded
      obtain ⟨walked, walk, decoded⟩ := bind_eq_ok.mp decoded
      obtain ⟨state, scaled, decoded⟩ := bind_eq_ok.mp decoded
      cases decoded
      obtain ⟨entries, read, rfl⟩ := walkExtensions_eq_ok.mp walk
      rw [refuse_if_eq_ok, not_or, dirty_iff, not_not, not_not] at header
      have base : Token2022.BaseMint data :=
        ⟨by omega, fun same => size (.inr same), mintTagged, freezeTagged, not_not.mp initialized⟩
      refine ⟨entries, (parseMintAccount_eq_ok long).mpr ⟨not_not.mp owned, base, .inr ⟨long, header⟩, read⟩, scaled, ?_⟩
      rw [ok_or_eq_ok.mp found]
      rfl
    · rintro ⟨entries, parsed, scaled, decimals⟩
      obtain ⟨owned, ⟨_, notMultisig, mintTagged, freezeTagged, initialized⟩, area, read⟩ :=
        (parseMintAccount_eq_ok long).mp parsed
      obtain ⟨_, padded, isMint⟩ := area.resolve_left (by omega)
      obtain ⟨byte, found, value⟩ := Option.map_eq_some_iff.mp decimals
      refine ⟨not_not.mpr owned, by omega, mintTagged, freezeTagged, not_not.mpr initialized, ?_⟩
      refine bind_eq_ok.mpr ⟨byte, ok_or_eq_ok.mpr found, then_eq_ok.mpr ⟨refuse_if_eq_ok.mpr ?_, ?_⟩⟩
      · rw [not_or, dirty_iff, not_not, not_not]
        exact ⟨padded, isMint⟩
      · refine bind_eq_ok.mpr ⟨_, walkExtensions_eq_ok.mpr ⟨entries, read, rfl⟩, bind_eq_ok.mpr ⟨_, scaled, ?_⟩⟩
        rw [value]
        rfl
  · refine iff_of_false ?_ ?_
    · intro decoded
      rw [readSessionMint] at decoded
      obtain ⟨_, decoded⟩ := then_eq_ok.mp decoded
      obtain ⟨size, _⟩ := then_eq_ok.mp decoded
      exact refuse_if_eq_ok.mp size (.inl (Nat.lt_of_not_le long))
    · rintro ⟨entries, parsed, scaled, _⟩
      rw [parseMintAccount_short (Nat.lt_of_not_le long) parsed] at scaled
      cases scaled

/-! ### The ScaledUiAmount entry -/

/-- The entry holds this state, with multipliers that both decoders take. -/
def Configured (data : List UInt8) (entry : TlvEntry) (state : ProtectedState) : Prop :=
  entry.length = 56 ∧
  (isValidStoredMultiplier (slice data (entry.valueOffset + 32) (entry.valueOffset + 40)) = true ∧
    isValidStoredMultiplier (slice data (entry.valueOffset + 48) (entry.valueOffset + 56)) = true) ∧
  ∃ timestamp, getBigInt64 data (entry.valueOffset + 40) = .ok timestamp ∧
    state = ⟨slice data (entry.valueOffset + 32) (entry.valueOffset + 40),
      slice data (entry.valueOffset + 48) (entry.valueOffset + 56), timestamp⟩

theorem decodeEntries_eq_ok {data : List UInt8} {entries : List TlvEntry} {state : ProtectedState}
    (extended : data.length ≠ 82) :
    decodeEntries data entries = .ok state ↔ ∃ entry, scaledUi entries = some entry ∧
      assertValidMintExtensionCombination (entries.map TlvEntry.type) = .ok () ∧ Configured data entry state := by
  rw [decodeEntries, refuse_if_bind, if_neg (show ¬ data.length = BASE_MINT_LEN from extended), bind_eq_ok]
  refine exists_congr fun entry => and_congr ok_or_eq_ok ?_
  rw [then_eq_ok, then_eq_ok, refuse_if_eq_ok, not_not, then_eq_ok, refuse_if_eq_ok, not_or, not_not, not_not, bind_eq_ok]
  simp only [pure_eq_ok, Except.ok.injEq, @eq_comm _ _ state]
  rfl
theorem readScaled_eq_ok {data : List UInt8} {entries : List TlvEntry} {state : ProtectedState} :
    readScaled data (summary entries) = .ok state ↔ ∃ entry, scaledUi entries = some entry ∧
      ExtensionType.InterestBearingConfig ∉ entries.map TlvEntry.type ∧ Configured data entry state := by
  rw [readScaled, bind_eq_ok]
  constructor
  · rintro ⟨scaled, met, decoded⟩
    obtain ⟨entry, found, rfl⟩ := Option.map_eq_some_iff.mp (ok_or_eq_ok.mp met)
    obtain ⟨alone, decoded⟩ := then_eq_ok.mp decoded
    obtain ⟨size, decoded⟩ := then_eq_ok.mp decoded
    obtain ⟨valid, decoded⟩ := then_eq_ok.mp decoded
    obtain ⟨timestamp, read, decoded⟩ := bind_eq_ok.mp decoded
    rw [refuse_if_eq_ok, not_or, not_not, not_not] at valid
    refine ⟨entry, found, ?_, not_not.mp (refuse_if_eq_ok.mp size), valid, timestamp, called_eq_ok.mp read, ?_⟩
    · exact fun interest => refuse_if_eq_ok.mp alone (List.mem_reverse.mpr interest)
    · exact (Except.ok.inj decoded).symm
  · rintro ⟨entry, found, alone, size, valid, timestamp, read, rfl⟩
    refine ⟨⟨entry.valueOffset, entry.length⟩, ok_or_eq_ok.mpr ?_, then_eq_ok.mpr ⟨?_, ?_⟩⟩
    · rw [summary, found, Option.map_some]
    · exact refuse_if_eq_ok.mpr fun interest => alone (List.mem_reverse.mp interest)
    refine then_eq_ok.mpr ⟨refuse_if_eq_ok.mpr (not_not.mpr size), then_eq_ok.mpr ⟨refuse_if_eq_ok.mpr ?_, ?_⟩⟩
    · rw [not_or, not_not, not_not]
      exact valid
    · exact bind_eq_ok.mpr ⟨timestamp, called_eq_ok.mpr read, rfl⟩
/-- The client returns what the page returns, unless a combination is forbidden. -/
theorem decodeEntries_iff_readScaled {data : List UInt8} {entries : List TlvEntry} {state : ProtectedState}
    (extended : data.length ≠ 82) :
    decodeEntries data entries = .ok state ↔ readScaled data (summary entries) = .ok state ∧
      assertValidMintExtensionCombination (entries.map TlvEntry.type) = .ok () := by
  rw [decodeEntries_eq_ok extended, readScaled_eq_ok]
  constructor
  · rintro ⟨entry, found, allowed, configured⟩
    have carries : ExtensionType.ScaledUiAmount ∈ entries.map TlvEntry.type :=
      List.mem_map.mpr ⟨entry, List.mem_of_find?_eq_some found, by simpa using List.find?_some found⟩
    refine ⟨⟨entry, found, ?_, configured⟩, allowed⟩
    exact fun interest => refuse_if_eq_ok.mp allowed (.inr (.inr (.inr (.inl ⟨carries, interest⟩))))
  · rintro ⟨⟨entry, found, _, configured⟩, allowed⟩
    exact ⟨entry, found, allowed, configured⟩

/-- An account that is read to its last entry, with a usable ScaledUiAmount config, no InterestBearingConfig and some
    other combination of extensions that Token-2022 forbids. -/
def Overlooked (data : List UInt8) : Prop :=
  Token2022.BaseMint data ∧ Token2022.MintArea data ∧ ∃ entries, Token2022.tlv_entries (data.drop 166) = some entries ∧
    (entries.map Token2022.TlvEntry.type).Nodup ∧
    (∃ config, Token2022.first_config entries = some config ∧ (StoredMultiplier.new config.multiplier).isSome = true ∧
      (StoredMultiplier.new config.new_multiplier).isSome = true) ∧
    Token2022.ExtensionType.InterestBearingConfig ∉ entries.map Token2022.TlvEntry.type ∧
    Token2022.Forbidden (entries.map Token2022.TlvEntry.type)

theorem configured_iff {data : List UInt8} {entry : TlvEntry} {known : Token2022.TlvEntry}
    (same : located data entry = content known) :
    (∃ state, Configured data entry state) ↔ ∃ size : known.value.length = 56,
      (StoredMultiplier.new (Token2022.config_of ⟨known.value, size⟩).multiplier).isSome = true ∧
      (StoredMultiplier.new (Token2022.config_of ⟨known.value, size⟩).new_multiplier).isSome = true := by
  have length : entry.length = known.value.length := congrArg (fun parts => parts.2.1) same
  constructor
  · rintro ⟨state, size, valid, _⟩
    have full : known.value.length = 56 := length.symm.trans size
    rw [slice_field same full (by omega : 32 + 8 ≤ 56), slice_field same full (by omega : 48 + 8 ≤ 56),
      isValidStoredMultiplier_chunk, isValidStoredMultiplier_chunk] at valid
    exact ⟨full, valid⟩
  · rintro ⟨size, valid⟩
    have timestamp := read_field same size (by omega : 40 + 8 ≤ 56)
    refine ⟨_, length.trans size, ?_, _, by rw [getBigInt64, timestamp]; rfl, rfl⟩
    rw [slice_field same size (by omega : 32 + 8 ≤ 56), slice_field same size (by omega : 48 + 8 ≤ 56),
      isValidStoredMultiplier_chunk, isValidStoredMultiplier_chunk]
    exact valid
theorem readScaled_returns {data : List UInt8} {found : List TlvEntry} {known : List Token2022.TlvEntry}
    (same : found.map (located data) = known.map content) :
    (∃ state, readScaled data (summary found) = .ok state) ↔
      (∃ config, Token2022.first_config known = some config ∧ (StoredMultiplier.new config.multiplier).isSome = true ∧
        (StoredMultiplier.new config.new_multiplier).isSome = true) ∧
      Token2022.ExtensionType.InterestBearingConfig ∉ known.map Token2022.TlvEntry.type := by
  have scaled := find_scaledUi same
  have interest := mem_types_iff same Token2022.ExtensionType.InterestBearingConfig
  rw [← scaledUi] at scaled
  constructor
  · rintro ⟨state, read⟩
    obtain ⟨entry, entryFound, alone, configured⟩ := readScaled_eq_ok.mp read
    rw [entryFound, Option.map_some, eq_comm, Option.map_eq_some_iff] at scaled
    obtain ⟨config, configFound, contents⟩ := scaled
    obtain ⟨size, valid⟩ := (configured_iff contents.symm).mp ⟨state, configured⟩
    refine ⟨⟨_, ?_, valid⟩, fun member => alone (interest.mpr member)⟩
    rw [Token2022.first_config, configFound, Option.bind_some, dif_pos size]
  · rintro ⟨⟨config, configFound, valid⟩, alone⟩
    obtain ⟨known, knownFound, fits⟩ := Option.bind_eq_some_iff.mp configFound
    rw [knownFound, Option.map_some, Option.map_eq_some_iff] at scaled
    obtain ⟨entry, entryFound, contents⟩ := scaled
    obtain ⟨size, usable⟩ := Option.dite_none_right_eq_some.mp fits
    cases usable
    obtain ⟨state, configured⟩ := (configured_iff contents).mpr ⟨size, valid⟩
    exact ⟨state, readScaled_eq_ok.mpr ⟨entry, entryFound, fun member => alone (interest.mp member), configured⟩⟩

/-! ### Where the two decoders part -/

theorem parseMintAccount_header {owner : String} {data : List UInt8} {entries : List TlvEntry}
    (parsed : parseMintAccount owner data = .ok entries) :
    owner = TOKEN_2022_PROGRAM_ADDRESS.text ∧ Token2022.BaseMint data := by
  rw [parseMintAccount] at parsed
  obtain ⟨owned, parsed⟩ := then_eq_ok.mp parsed
  exact ⟨not_not.mp (refuse_if_eq_ok.mp owned), validateBaseMint_eq_ok.mp (then_eq_ok.mp parsed).1⟩
theorem parseMintAccount_returns {data : List UInt8} {known : List Token2022.TlvEntry} (base : Token2022.BaseMint data)
    (area : Token2022.MintArea data) (walked : Token2022.tlv_entries (data.drop 166) = some known)
    (nodup : (known.map Token2022.TlvEntry.type).Nodup) :
    ∃ found, parseMintAccount TOKEN_2022_PROGRAM_ADDRESS.text data = .ok found ∧
      found.map (located data) = known.map content := by
  rcases parseMintAccount_correct data with ⟨_, reads⟩ | ⟨badLayout, _⟩
  · rw [walked] at reads
    rcases reads with ⟨_, found, parsed, same⟩ | ⟨stale, _⟩
    · exact ⟨found, parsed, same⟩
    · exact absurd ⟨nodup, by simp⟩ stale
  · exact absurd ⟨base, area⟩ badLayout
theorem parseMintAccount_layout {data : List UInt8} {found : List TlvEntry}
    (parsed : parseMintAccount TOKEN_2022_PROGRAM_ADDRESS.text data = .ok found) :
    Token2022.BaseMint data ∧ Token2022.MintArea data ∧ ∃ known, Token2022.tlv_entries (data.drop 166) = some known ∧
      (known.map Token2022.TlvEntry.type).Nodup ∧ found.map (located data) = known.map content := by
  have accepted (message : Template) :
      parseMintAccount TOKEN_2022_PROGRAM_ADDRESS.text data ≠ .error (guardClientError .InvalidMintData message) := by
    rw [parsed]
    exact nofun
  rcases parseMintAccount_correct data with ⟨⟨base, area⟩, reads⟩ | ⟨_, message, refused⟩
  swap
  · exact absurd refused (accepted message)
  refine ⟨base, area, ?_⟩
  cases walked : Token2022.tlv_entries (data.drop 166) with
  | none =>
    rw [walked] at reads
    obtain ⟨message, refused⟩ := reads
    exact absurd refused (accepted message)
  | some known =>
    rw [walked] at reads
    rcases reads with ⟨fresh, entries, read, same⟩ | ⟨_, message, refused⟩
    · rw [parsed, List.nil_append] at read
      cases read
      exact ⟨known, rfl, fresh.1, same⟩
    · exact absurd refused (accepted message)
theorem decodeProtectedState_eq_ok {owner : String} {data : List UInt8} {state : ProtectedState} :
    decodeProtectedState owner data = .ok state ↔ ∃ entries, parseMintAccount owner data = .ok entries ∧
      readScaled data (summary entries) = .ok state ∧
      assertValidMintExtensionCombination (entries.map TlvEntry.type) = .ok () := by
  rw [decodeProtectedState, bind_eq_ok]
  refine exists_congr fun entries => and_congr_right fun parsed => ?_
  by_cases bare : data.length = 82
  · rw [parseMintAccount_short (by omega) parsed]
    refine iff_of_false ?_ ?_
    · rw [decodeEntries, refuse_if_bind, if_pos (show data.length = BASE_MINT_LEN from bare)]
      intro decoded
      cases decoded
    · rintro ⟨scaled, _⟩
      cases scaled
  · exact decodeEntries_iff_readScaled bare
theorem overlooked_iff (data : List UInt8) :
    Overlooked data ↔ ∃ entries state, parseMintAccount TOKEN_2022_PROGRAM_ADDRESS.text data = .ok entries ∧
      readScaled data (summary entries) = .ok state ∧
      assertValidMintExtensionCombination (entries.map TlvEntry.type) ≠ .ok () := by
  constructor
  · rintro ⟨base, area, known, walked, nodup, config, alone, forbidden⟩
    obtain ⟨found, parsed, same⟩ := parseMintAccount_returns base area walked nodup
    obtain ⟨state, scaled⟩ := (readScaled_returns same).mpr ⟨config, alone⟩
    refine ⟨found, state, parsed, scaled, ?_⟩
    rw [assertValid_eq same]
    exact fun allowed => refuse_if_eq_ok.mp allowed forbidden
  · rintro ⟨found, state, parsed, scaled, refused⟩
    obtain ⟨base, area, known, walked, nodup, same⟩ := parseMintAccount_layout parsed
    obtain ⟨config, alone⟩ := (readScaled_returns same).mp ⟨state, scaled⟩
    rw [assertValid_eq same, ne_eq, refuse_if_eq_ok, not_not] at refused
    exact ⟨base, area, known, walked, nodup, config, alone, refused⟩

/-- Both decode the same state, with the decimals of byte 44, or both refuse. -/
def DecodersAgree (owner : String) (data : List UInt8) : Prop :=
  ((∃ mint, readSessionMint owner data = .ok mint) ↔ ∃ state, decodeProtectedState owner data = .ok state) ∧
  ∀ mint state, readSessionMint owner data = .ok mint → decodeProtectedState owner data = .ok state →
    mint.state = state ∧ data[44]?.map UInt8.toNat = some mint.decimals

/-- The decoders agree on every account but a mint with a forbidden combination that the page overlooks. -/
theorem session_mint_agrees_iff (owner : String) (data : List UInt8) :
    DecodersAgree owner data ↔ ¬ (owner = TOKEN_2022_PROGRAM_ADDRESS.text ∧ Overlooked data) := by
  have decimals (inside : 44 < data.length) : data[44]?.map UInt8.toNat = some data[44].toNat := by
    rw [List.getElem?_eq_getElem inside]
    rfl
  constructor
  · rintro ⟨together, _⟩ ⟨rfl, overlooked⟩
    have byte : 44 < data.length := Nat.lt_of_lt_of_le (by decide) overlooked.1.1
    obtain ⟨entries, state, parsed, scaled, refused⟩ := (overlooked_iff data).mp overlooked
    obtain ⟨_, decoded⟩ := together.mp ⟨⟨state, data[44].toNat⟩,
      readSessionMint_eq_ok.mpr ⟨entries, parsed, scaled, decimals byte⟩⟩
    obtain ⟨others, again, _, allowed⟩ := decodeProtectedState_eq_ok.mp decoded
    rw [parsed] at again
    cases again
    exact refused allowed
  · intro notOverlooked
    refine ⟨⟨?_, ?_⟩, ?_⟩
    · rintro ⟨mint, decoded⟩
      obtain ⟨entries, parsed, scaled, _⟩ := readSessionMint_eq_ok.mp decoded
      have owned := (parseMintAccount_header parsed).1
      refine ⟨mint.state, decodeProtectedState_eq_ok.mpr ⟨entries, parsed, scaled, ?_⟩⟩
      by_contra refused
      rw [owned] at parsed
      exact notOverlooked ⟨owned, (overlooked_iff data).mpr ⟨entries, mint.state, parsed, scaled, refused⟩⟩
    · rintro ⟨state, decoded⟩
      obtain ⟨entries, parsed, scaled, _⟩ := decodeProtectedState_eq_ok.mp decoded
      have byte : 44 < data.length := Nat.lt_of_lt_of_le (by decide) (parseMintAccount_header parsed).2.1
      exact ⟨⟨state, data[44].toNat⟩, readSessionMint_eq_ok.mpr ⟨entries, parsed, scaled, decimals byte⟩⟩
    · intro mint state ours theirs
      obtain ⟨entries, parsed, scaled, decimals⟩ := readSessionMint_eq_ok.mp ours
      obtain ⟨others, again, same, _⟩ := decodeProtectedState_eq_ok.mp theirs
      rw [parsed] at again
      cases again
      rw [scaled] at same
      exact ⟨Except.ok.inj same, decimals⟩
/-- The two-for-one split on a mint that also has NonTransferable and ConfidentialTransferMint, but not the
    ConfidentialMintBurn that Token-2022 then demands. -/
def nonTransferableMint : List UInt8 := Guard.splitMint ++ [9, 0, 0, 0] ++ [4, 0, 65, 0] ++ List.replicate 65 0
theorem session_mint_disagrees :
    readSessionMint TOKEN_2022_PROGRAM_ADDRESS.text nonTransferableMint = .ok ⟨ofProtectedState Guard.twoForOneSplit, 0⟩ ∧
    Refuses .InvalidExtensionCombination (decodeProtectedState TOKEN_2022_PROGRAM_ADDRESS.text nonTransferableMint) ∧
    ¬ DecodersAgree TOKEN_2022_PROGRAM_ADDRESS.text nonTransferableMint := by
  have page : readSessionMint TOKEN_2022_PROGRAM_ADDRESS.text nonTransferableMint =
      .ok ⟨ofProtectedState Guard.twoForOneSplit, 0⟩ := by decide +kernel
  have client : decodeProtectedState TOKEN_2022_PROGRAM_ADDRESS.text nonTransferableMint =
      .error (guardClientError .InvalidExtensionCombination ["mint extension set is forbidden by Token-2022"]) := by
    decide +kernel
  refine ⟨page, ⟨_, client⟩, ?_⟩
  rintro ⟨together, _⟩
  obtain ⟨state, decoded⟩ := together.mp ⟨_, page⟩
  rw [client] at decoded
  cases decoded

end EquityGuard.SessionMint
