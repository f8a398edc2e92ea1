import EquityGuard.Errors
import EquityGuard.JsValue
import Mathlib.Data.List.Forall2
import Mathlib.Data.List.Lex
import Mathlib.Data.List.Perm.Basic
import Mathlib.Data.List.Sort

/-!
`canonicalKey`: one string for a plain value, whatever the order of its keys. Every
binding of the package compares such strings, or digests of them; here they are shown
to determine the value.
-/
namespace EquityGuard.Canonical
open EquityGuard.Binary64 EquityGuard.Errors EquityGuard.JsonText EquityGuard.JsValue

structure QuoteIdentityError where
  message : Message

def MAX_SAFE_INTEGER : Int := 2 ^ 53 - 1
/-- The value of a number that passes `Number.isSafeInteger`. -/
def safeInteger : Number → Option Int
  | .finite value => if value.den = 1 ∧ |value.num| ≤ MAX_SAFE_INTEGER then some value.num else none
  | _ => none

/-- Keys in the order of their code units. -/
def KeyLE {α : Type} (left right : Text × α) : Prop := left.1 ≤ right.1
instance {α : Type} : DecidableRel (@KeyLE α) := fun left right => inferInstanceAs (Decidable (left.1 ≤ right.1))
/-- `Object.keys(record).sort()`, with what belongs to each key. -/
def sortFields {α : Type} (fields : List (Text × α)) : List (Text × α) := fields.insertionSort KeyLE
/-- One `[key, value]` pair. -/
def entryOf (field : Text × Except QuoteIdentityError Json) : Except QuoteIdentityError Json := do
  return .array [.string field.1, ← field.2]

mutual
def encode : Value → Except QuoteIdentityError Json
  | .bigint value => .ok (.array [.string (text "bigint"), .string (decimal value)])
  | .string value => .ok (.array [.string (text "string"), .string value])
  | .boolean value => .ok (.array [.string (text "boolean"), .boolean value])
  | .number value => do
    let integer ← ok_or ⟨["canonical keys accept safe integers only, got ", .number value]⟩ (safeInteger value)
    return .array [.string (text "int"), .number integer]
  | .negativeZero => .error ⟨["canonical keys accept safe integers only, got ", .negativeZero]⟩
  | .undefined => .error ⟨["undefined is not allowed in a canonical key"]⟩
  | .null => .ok (.array [.string (text "null")])
  | .array items => do return .array [.string (text "array"), .array (← (encodeItems items).mapM id)]
  | .object fields => do
    return .array [.string (text "object"), .array (← (sortFields (encodeFields fields)).mapM entryOf)]
  | .classInstance _ => .error ⟨["only plain objects are allowed in a canonical key"]⟩
  | .function _ => .error ⟨["unsupported value in canonical key: function"]⟩
  | .symbol => .error ⟨["unsupported value in canonical key: symbol"]⟩
termination_by structural value => value
def encodeItems : List Value → List (Except QuoteIdentityError Json)
  | [] => []
  | item :: rest => encode item :: encodeItems rest
termination_by structural items => items
def encodeFields : List (Text × Value) → List (Text × Except QuoteIdentityError Json)
  | [] => []
  | field :: rest => encodeField field :: encodeFields rest
termination_by structural fields => fields
def encodeField : Text × Value → Text × Except QuoteIdentityError Json
  | (key, value) => (key, encode value)
termination_by structural field => field
end
/-- Deterministic, type-tagged serialization. -/
def canonicalKey (value : Value) : Except QuoteIdentityError Text := do return stringify (← encode value)

theorem encodeItems_eq (items : List Value) : encodeItems items = items.map encode := by
  induction items with
  | nil => rw [encodeItems, List.map_nil]
  | cons item rest ih => rw [encodeItems, ih, List.map_cons]
theorem encodeFields_eq (fields : List (Text × Value)) :
    encodeFields fields = fields.map (fun field => (field.1, encode field.2)) := by
  induction fields with
  | nil => rw [encodeFields, List.map_nil]
  | cons field rest ih => rw [encodeFields, ih, List.map_cons, encodeField]

/-! ### Sorting by key -/

section
variable {α β : Type}

instance : Std.Total (@KeyLE α) := ⟨fun left right => List.le_total left.1 right.1⟩
instance : IsTrans (Text × α) KeyLE := ⟨fun _ _ _ => List.le_trans⟩

theorem sortFields_perm (fields : List (Text × α)) : (sortFields fields).Perm fields := List.perm_insertionSort _ _
theorem sortFields_map (convert : α → β) (fields : List (Text × α)) :
    sortFields (fields.map (fun field => (field.1, convert field.2))) =
      (sortFields fields).map (fun field => (field.1, convert field.2)) := by
  unfold sortFields
  refine (List.map_insertionSort _ _ _ fields ?_).symm
  intro left _ right _
  rfl
theorem sortFields_sorted (fields : List (Text × α)) : (sortFields fields).Pairwise KeyLE := List.pairwise_insertionSort _ _
theorem eq_of_key {fields : List (Text × α)} (distinct : (fields.map Prod.fst).Nodup) {left right : Text × α}
    (leftMember : left ∈ fields) (rightMember : right ∈ fields) (keys : left.1 = right.1) : left = right :=
  List.inj_on_of_nodup_map distinct leftMember rightMember keys
/-- With distinct keys, the order they are listed in is forgotten. -/
theorem sortFields_eq_of_perm {left right : List (Text × α)} (distinct : (left.map Prod.fst).Nodup)
    (perm : left.Perm right) : sortFields left = sortFields right := by
  have sorted := ((sortFields_perm left).trans perm).trans (sortFields_perm right).symm
  refine sorted.eq_of_pairwise ?_ (sortFields_sorted left) (sortFields_sorted right)
  intro one two oneMember twoMember le ge
  have oneLeft := (sortFields_perm left).mem_iff.mp oneMember
  have twoLeft := perm.mem_iff.mpr ((sortFields_perm right).mem_iff.mp twoMember)
  exact eq_of_key distinct oneLeft twoLeft (List.le_antisymm le ge)
theorem eq_of_perm_of_keys {left right : List (Text × α)} (distinct : (left.map Prod.fst).Nodup)
    (perm : left.Perm right) (keys : left.map Prod.fst = right.map Prod.fst) : left = right := by
  have length := perm.length_eq
  refine List.ext_getElem length fun index leftBound rightBound => ?_
  refine eq_of_key distinct (List.getElem_mem _) (perm.mem_iff.mpr (List.getElem_mem _)) ?_
  have entry := congrArg (fun list => list[index]?) keys
  simpa [leftBound, rightBound] using entry
end

/-! ### The values a key stands for -/

/-- Plain data: the values that have a key. Keys of one object are distinct, as they are in any object. -/
inductive Plain : Value → Prop where
  | null : Plain .null
  | boolean (value : Bool) : Plain (.boolean value)
  | integer {value : Number} {integer : Int} (safe : safeInteger value = some integer) : Plain (.number value)
  | bigint (value : Int) : Plain (.bigint value)
  | string (value : Text) : Plain (.string value)
  | array {items : List Value} (plain : ∀ item ∈ items, Plain item) : Plain (.array items)
  | object {fields : List (Text × Value)} (distinct : (fields.map Prod.fst).Nodup)
      (plain : ∀ field ∈ fields, Plain field.2) : Plain (.object fields)
/-- Structural equality up to the order of object keys. -/
inductive Same : Value → Value → Prop where
  | null : Same .null .null
  | boolean (value : Bool) : Same (.boolean value) (.boolean value)
  | number (value : Number) : Same (.number value) (.number value)
  | bigint (value : Int) : Same (.bigint value) (.bigint value)
  | string (value : Text) : Same (.string value) (.string value)
  | array {left right : List Value} (items : List.Forall₂ Same left right) : Same (.array left) (.array right)
  | object {left reordered right : List (Text × Value)} (perm : left.Perm reordered)
      (keys : reordered.map Prod.fst = right.map Prod.fst)
      (values : List.Forall₂ Same (reordered.map Prod.snd) (right.map Prod.snd)) : Same (.object left) (.object right)

theorem safeInteger_injective {left right : Number} {value : Int} (leftSafe : safeInteger left = some value)
    (rightSafe : safeInteger right = some value) : left = right := by
  have is_value {number : Number} (safe : safeInteger number = some value) : number = .ofInt value := by
    unfold safeInteger at safe
    split at safe
    · split at safe
      · rename_i rational whole
        cases safe
        rw [Number.ofInt, Rat.coe_int_num_of_den_eq_one whole.1]
      · cases safe
    · cases safe
  rw [is_value leftSafe, is_value rightSafe]

/-! ### A key has one value -/

section
variable {α β γ : Type}

theorem mapM_eq_ok {ε : Type} {convert : α → Except ε β} {items : List α} {values : List β} :
    items.mapM convert = .ok values ↔ List.Forall₂ (fun item value => convert item = .ok value) items values := by
  induction items generalizing values with
  | nil => simp [pure_eq_ok, eq_comm]
  | cons item rest ih =>
    rw [List.mapM_cons]
    constructor
    · intro converted
      obtain ⟨value, first, converted⟩ := bind_eq_ok.mp converted
      obtain ⟨others, later, converted⟩ := bind_eq_ok.mp converted
      cases converted
      exact .cons first (ih.mp later)
    · rintro (_ | ⟨first, later⟩)
      rw [first, ok_bind, ih.mpr later]
      rfl
/-- Two lists that were converted to one have items that were converted alike. -/
theorem forall₂_common {leftTo : α → γ → Prop} {rightTo : β → γ → Prop} {left : List α} {right : List β}
    {values : List γ} (lefts : List.Forall₂ leftTo left values) (rights : List.Forall₂ rightTo right values) :
    List.Forall₂ (fun one two => ∃ value, leftTo one value ∧ rightTo two value) left right := by
  induction lefts generalizing right with
  | nil =>
    cases rights
    exact .nil
  | cons head _ ih =>
    cases rights with
    | cons otherHead otherTail => exact .cons ⟨_, head, otherHead⟩ (ih otherTail)
end

/-- The fields of two objects with the same keys in the same order. -/
theorem forall₂_fields {related : Value → Value → Prop} {left right : List (Text × Value)} :
    List.Forall₂ (fun one two => one.1 = two.1 ∧ related one.2 two.2) left right ↔
      left.map Prod.fst = right.map Prod.fst ∧ List.Forall₂ related (left.map Prod.snd) (right.map Prod.snd) := by
  induction left generalizing right with
  | nil => cases right <;> simp
  | cons one left ih =>
    cases right with
    | nil => simp
    | cons two right =>
      rw [List.forall₂_cons, ih]
      simp only [List.map_cons, List.cons.injEq, List.forall₂_cons]
      tauto

inductive Tag where
  | bigint
  | string
  | boolean
  | int
  | null
  | array
  | object
def Tag.name : Tag → Text
  | bigint => text "bigint"
  | string => text "string"
  | boolean => text "boolean"
  | int => text "int"
  | null => text "null"
  | array => text "array"
  | object => text "object"
def tagOf : Value → Option Tag
  | .bigint _ => some .bigint
  | .string _ => some .string
  | .boolean _ => some .boolean
  | .number _ => some .int
  | .null => some .null
  | .array _ => some .array
  | .object _ => some .object
  | _ => none

theorem Tag.name_injective : Function.Injective Tag.name := by
  intro left right same
  cases left <;> cases right <;> first | rfl | exact absurd same (by decide)
theorem encode_number_eq_ok {value : Number} {json : Json} : encode (.number value) = .ok json ↔
    ∃ integer, safeInteger value = some integer ∧ json = .array [.string Tag.int.name, .number integer] := by
  rw [encode]
  cases safeInteger value with
  | none => simp
  | some integer => simp [Tag.name, pure_eq_ok, eq_comm]
theorem encode_array_eq_ok {items : List Value} {json : Json} : encode (.array items) = .ok json ↔
    ∃ jsons, List.Forall₂ (fun item json => encode item = .ok json) items jsons ∧
      json = .array [.string Tag.array.name, .array jsons] := by
  rw [encode, encodeItems_eq]
  constructor
  · intro encoded
    obtain ⟨jsons, converted, encoded⟩ := bind_eq_ok.mp encoded
    cases encoded
    exact ⟨jsons, List.forall₂_map_left_iff.mp (mapM_eq_ok.mp converted), rfl⟩
  · rintro ⟨jsons, items, rfl⟩
    have converted : (List.map encode _).mapM id = .ok jsons := mapM_eq_ok.mpr (List.forall₂_map_left_iff.mpr items)
    rw [converted]
    rfl
theorem entryOf_eq_ok {field : Text × Except QuoteIdentityError Json} {entry : Json} :
    entryOf field = .ok entry ↔ ∃ value, field.2 = .ok value ∧ entry = .array [.string field.1, value] := by
  rw [entryOf, bind_eq_ok]
  simp [pure_eq_ok, eq_comm]
theorem encode_object_eq_ok {fields : List (Text × Value)} {json : Json} : encode (.object fields) = .ok json ↔
    ∃ entries, List.Forall₂ (fun field entry => entryOf (field.1, encode field.2) = .ok entry) (sortFields fields) entries ∧
      json = .array [.string Tag.object.name, .array entries] := by
  rw [encode, encodeFields_eq, sortFields_map]
  constructor
  · intro encoded
    obtain ⟨entries, converted, encoded⟩ := bind_eq_ok.mp encoded
    cases encoded
    exact ⟨entries, List.forall₂_map_left_iff.mp (mapM_eq_ok.mp converted), rfl⟩
  · rintro ⟨entries, fields, rfl⟩
    rw [mapM_eq_ok.mpr (List.forall₂_map_left_iff.mpr fields)]
    rfl
theorem encode_tag {value : Value} {json : Json} (encoded : encode value = .ok json) :
    ∃ tag rest, tagOf value = some tag ∧ json = .array (.string tag.name :: rest) := by
  cases value with
  | number value =>
    obtain ⟨_, _, rfl⟩ := encode_number_eq_ok.mp encoded
    exact ⟨_, _, rfl, rfl⟩
  | array items =>
    obtain ⟨_, _, rfl⟩ := encode_array_eq_ok.mp encoded
    exact ⟨_, _, rfl, rfl⟩
  | object fields =>
    obtain ⟨_, _, rfl⟩ := encode_object_eq_ok.mp encoded
    exact ⟨_, _, rfl, rfl⟩
  | null | boolean _ | bigint _ | string _ =>
    rw [encode] at encoded
    cases encoded
    exact ⟨_, _, rfl, rfl⟩
  | undefined | negativeZero | symbol | classInstance _ | function _ =>
    rw [encode] at encoded
    cases encoded
/-- What was encoded alike has one tag. -/
theorem tag_eq {left right : Value} {json : Json} (leftEncoded : encode left = .ok json)
    (rightEncoded : encode right = .ok json) : tagOf left = tagOf right := by
  obtain ⟨leftTag, leftRest, leftTagged, rfl⟩ := encode_tag leftEncoded
  obtain ⟨rightTag, rightRest, rightTagged, same⟩ := encode_tag rightEncoded
  simp only [Json.array.injEq, List.cons.injEq, Json.string.injEq] at same
  rw [leftTagged, rightTagged, Tag.name_injective same.1]
theorem same_of_encode_scalar {left right : Value} {json : Json} (notArray : ∀ items, left ≠ .array items)
    (notObject : ∀ fields, left ≠ .object fields) (leftEncoded : encode left = .ok json)
    (rightEncoded : encode right = .ok json) : Same left right := by
  have tags := tag_eq leftEncoded rightEncoded
  cases left with
  | array items => exact absurd rfl (notArray items)
  | object fields => exact absurd rfl (notObject fields)
  | null =>
    cases right with
    | null => exact .null
    | _ => cases tags
  | boolean left =>
    cases right with
    | boolean right =>
      simp only [encode, Except.ok.injEq] at leftEncoded rightEncoded
      have values := leftEncoded.trans rightEncoded.symm
      simp only [Json.array.injEq, List.cons.injEq, Json.boolean.injEq, and_true, true_and] at values
      exact values ▸ .boolean left
    | _ => cases tags
  | number left =>
    cases right with
    | number right =>
      obtain ⟨leftInteger, leftSafe, rfl⟩ := encode_number_eq_ok.mp leftEncoded
      obtain ⟨rightInteger, rightSafe, same⟩ := encode_number_eq_ok.mp rightEncoded
      simp only [Json.array.injEq, List.cons.injEq, Json.number.injEq, and_true, true_and] at same
      subst same
      exact safeInteger_injective leftSafe rightSafe ▸ .number left
    | _ => cases tags
  | bigint left =>
    cases right with
    | bigint right =>
      simp only [encode, Except.ok.injEq] at leftEncoded rightEncoded
      have values := leftEncoded.trans rightEncoded.symm
      simp only [Json.array.injEq, List.cons.injEq, Json.string.injEq, and_true, true_and] at values
      exact decimal_injective values ▸ .bigint left
    | _ => cases tags
  | string left =>
    cases right with
    | string right =>
      simp only [encode, Except.ok.injEq] at leftEncoded rightEncoded
      have values := leftEncoded.trans rightEncoded.symm
      simp only [Json.array.injEq, List.cons.injEq, Json.string.injEq, and_true, true_and] at values
      exact values ▸ .string left
    | _ => cases tags
  | undefined | negativeZero | symbol | classInstance _ | function _ =>
    rw [encode] at leftEncoded
    cases leftEncoded
/-- What was encoded alike is the same. -/
theorem same_of_encode : ∀ (left right : Value) (json : Json), encode left = .ok json → encode right = .ok json →
    Same left right := by
  intro left
  induction left using Value.inductionOn with
  | scalar left notArray notObject =>
    intro right json leftEncoded rightEncoded
    exact same_of_encode_scalar notArray notObject leftEncoded rightEncoded
  | array left ih =>
    intro right json leftEncoded rightEncoded
    have tags := tag_eq leftEncoded rightEncoded
    cases right with
    | array right =>
      obtain ⟨leftItems, lefts, rfl⟩ := encode_array_eq_ok.mp leftEncoded
      obtain ⟨rightItems, rights, same⟩ := encode_array_eq_ok.mp rightEncoded
      simp only [Json.array.injEq, List.cons.injEq, and_true, true_and] at same
      subst same
      have pairs := (List.forall₂_and_left _ _).mpr ⟨ih, forall₂_common lefts rights⟩
      refine .array (pairs.imp ?_)
      rintro one two ⟨known, json, oneEncoded, twoEncoded⟩
      exact known two json oneEncoded twoEncoded
    | _ => cases tags
  | object left ih =>
    intro right json leftEncoded rightEncoded
    have tags := tag_eq leftEncoded rightEncoded
    cases right with
    | object right =>
      obtain ⟨leftEntries, lefts, rfl⟩ := encode_object_eq_ok.mp leftEncoded
      obtain ⟨rightEntries, rights, same⟩ := encode_object_eq_ok.mp rightEncoded
      simp only [Json.array.injEq, List.cons.injEq, and_true, true_and] at same
      subst same
      have sortedIh : ∀ field ∈ sortFields left, ∀ right json, encode field.2 = .ok json → encode right = .ok json →
          Same field.2 right := fun field member => ih field ((sortFields_perm left).mem_iff.mp member)
      have pairs := (List.forall₂_and_left _ _).mpr ⟨sortedIh, forall₂_common lefts rights⟩
      have sorted : List.Forall₂ (fun two one => one.1 = two.1 ∧ Same one.2 two.2) (sortFields right) (sortFields left) := by
        refine (pairs.imp ?_).flip
        rintro one two ⟨known, entry, oneEntry, twoEntry⟩
        obtain ⟨oneValue, oneEncoded, rfl⟩ := entryOf_eq_ok.mp oneEntry
        obtain ⟨twoValue, twoEncoded, same⟩ := entryOf_eq_ok.mp twoEntry
        simp only [Json.array.injEq, List.cons.injEq, Json.string.injEq, and_true] at same
        obtain ⟨keys, rfl⟩ := same
        exact ⟨keys, known two.2 oneValue oneEncoded twoEncoded⟩
      obtain ⟨reordered, fields, perm⟩ := List.perm_comp_forall₂ (sortFields_perm right).symm sorted
      obtain ⟨keys, values⟩ := forall₂_fields.mp fields.flip
      exact .object ((sortFields_perm left).symm.trans perm.symm) keys values
    | _ => cases tags

/-! ### A value has one key -/

theorem encode_returns {value : Value} (plain : Plain value) : ∃ json, encode value = .ok json := by
  induction value using Value.inductionOn with
  | scalar value notArray notObject =>
    cases plain with
    | integer safe => exact ⟨_, encode_number_eq_ok.mpr ⟨_, safe, rfl⟩⟩
    | array => exact absurd rfl (notArray _)
    | object => exact absurd rfl (notObject _)
    | null | boolean | bigint | string => exact ⟨_, by rw [encode]⟩
  | array items ih =>
    cases plain with
    | array plain =>
      obtain ⟨jsons, converted⟩ := mapM_returns fun item member => ih item member (plain item member)
      exact ⟨_, encode_array_eq_ok.mpr ⟨jsons, mapM_eq_ok.mp converted, rfl⟩⟩
  | object fields ih =>
    cases plain with
    | object distinct plain =>
      have each : ∀ field ∈ sortFields fields, ∃ entry, entryOf (field.1, encode field.2) = .ok entry := by
        intro field member
        have original := (sortFields_perm fields).mem_iff.mp member
        obtain ⟨json, encoded⟩ := ih field original (plain field original)
        exact ⟨_, entryOf_eq_ok.mpr ⟨json, encoded, rfl⟩⟩
      obtain ⟨entries, converted⟩ := mapM_returns each
      exact ⟨_, encode_object_eq_ok.mpr ⟨entries, mapM_eq_ok.mp converted, rfl⟩⟩
/-- The order of the keys is all that may differ. -/
theorem encode_eq_of_same : ∀ left : Value, Plain left → ∀ right : Value, Same left right →
    encode left = encode right := by
  intro left
  induction left using Value.inductionOn with
  | scalar left notArray notObject =>
    intro plain right same
    cases same with
    | array => exact absurd rfl (notArray _)
    | object => exact absurd rfl (notObject _)
    | _ => rfl
  | array left ih =>
    rintro (_ | _ | _ | _ | _ | plain) right same
    cases same with
    | @array _ right items =>
      have encoded : List.Forall₂ (fun one two => encode one = encode two) left right := by
        refine ((List.forall₂_and_left _ _).mpr ⟨fun item member => ih item member (plain item member), items⟩).imp ?_
        rintro one two ⟨known, same⟩
        exact known two same
      have lists : left.map encode = right.map encode := by
        rw [← List.forall₂_eq_eq_eq, List.forall₂_map_left_iff, List.forall₂_map_right_iff]
        exact encoded
      rw [encode, encode, encodeItems_eq, encodeItems_eq, lists]
  | object left ih =>
    rintro (_ | _ | _ | _ | _ | _ | ⟨distinct, plain⟩) right same
    cases same with
    | @object _ reordered right perm keys values =>
      have fields := forall₂_fields.mpr ⟨keys, values⟩
      have known : ∀ field ∈ reordered, ∀ right, Same field.2 right → encode field.2 = encode right := by
        intro field member
        have original := perm.mem_iff.mpr member
        exact ih field original (plain field original)
      have lists : encodeFields reordered = encodeFields right := by
        rw [encodeFields_eq, encodeFields_eq, ← List.forall₂_eq_eq_eq, List.forall₂_map_left_iff,
          List.forall₂_map_right_iff]
        refine ((List.forall₂_and_left _ _).mpr ⟨known, fields⟩).imp ?_
        rintro one two ⟨known, key, same⟩
        rw [key, known two.2 same]
      have sorted : sortFields (encodeFields left) = sortFields (encodeFields reordered) := by
        rw [encodeFields_eq, encodeFields_eq]
        refine sortFields_eq_of_perm ?_ (perm.map _)
        rw [List.map_map]
        exact distinct
      rw [encode, encode, sorted, lists]

/-! ### Keys -/

theorem canonicalKey_returns {value : Value} (plain : Plain value) : ∃ key, canonicalKey value = .ok key := by
  obtain ⟨json, encoded⟩ := encode_returns plain
  exact ⟨stringify json, by rw [canonicalKey, encoded]; rfl⟩
theorem same_of_key {left right : Value} {key : Text} (leftKey : canonicalKey left = .ok key)
    (rightKey : canonicalKey right = .ok key) : Same left right := by
  obtain ⟨leftJson, leftEncoded, leftText⟩ := bind_eq_ok.mp leftKey
  obtain ⟨rightJson, rightEncoded, rightText⟩ := bind_eq_ok.mp rightKey
  have texts := stringify_injective ((Except.ok.inj leftText).trans (Except.ok.inj rightText).symm)
  exact same_of_encode left right leftJson leftEncoded (texts ▸ rightEncoded)
/-- Two plain values have one key exactly if they are the same up to the order of keys. -/
theorem canonicalKey_eq_iff {left right : Value} (leftPlain : Plain left) :
    canonicalKey left = canonicalKey right ↔ Same left right := by
  constructor
  · intro keys
    obtain ⟨key, leftKey⟩ := canonicalKey_returns leftPlain
    exact same_of_key leftKey (keys ▸ leftKey)
  · intro same
    rw [canonicalKey, canonicalKey, encode_eq_of_same left leftPlain right same]
/-- Records with the same fields in the same order are compared field by field. -/
theorem Same.fields {left right : List (Text × Value)} (same : Same (.object left) (.object right))
    (distinct : (left.map Prod.fst).Nodup) (keys : left.map Prod.fst = right.map Prod.fst) :
    List.Forall₂ Same (left.map Prod.snd) (right.map Prod.snd) := by
  cases same with
  | object perm reorderedKeys values =>
    rw [eq_of_perm_of_keys distinct perm (keys.trans reorderedKeys.symm)]
    exact values

/-! ### Values with a key -/

def Keyed (value : Value) : Prop := ∃ json, encode value = .ok json

theorem keyed_of_key {value : Value} {key : Text} (found : canonicalKey value = .ok key) : Keyed value := by
  obtain ⟨json, encoded, _⟩ := bind_eq_ok.mp found
  exact ⟨json, encoded⟩
theorem Keyed.item {items : List Value} (keyed : Keyed (.array items)) {item : Value} (member : item ∈ items) :
    Keyed item := by
  obtain ⟨_, encoded⟩ := keyed
  obtain ⟨jsons, encodings, _⟩ := encode_array_eq_ok.mp encoded
  obtain ⟨index, bound, rfl⟩ := List.getElem_of_mem member
  exact ⟨_, encodings.get bound (encodings.length_eq ▸ bound)⟩
theorem Keyed.field {fields : List (Text × Value)} (keyed : Keyed (.object fields)) {field : Text × Value}
    (member : field ∈ fields) : Keyed field.2 := by
  obtain ⟨_, encoded⟩ := keyed
  obtain ⟨entries, encodings, _⟩ := encode_object_eq_ok.mp encoded
  obtain ⟨index, bound, rfl⟩ := List.getElem_of_mem ((sortFields_perm fields).mem_iff.mpr member)
  obtain ⟨json, fieldEncoded, _⟩ := entryOf_eq_ok.mp (encodings.get bound (encodings.length_eq ▸ bound))
  exact ⟨json, fieldEncoded⟩

end EquityGuard.Canonical
