import EquityGuard.Canonical

/-!
Records as plain values. A record is written with the names of its fields; two of one
type have the same key exactly if their fields have.
-/
namespace EquityGuard.Records
open EquityGuard.Binary64 EquityGuard.Canonical EquityGuard.JsonText EquityGuard.JsValue

/-! ### Numbers -/

/-- A number, with both zeros. -/
inductive Numeric where
  | negativeZero
  | number (value : Number)
deriving DecidableEq
namespace Numeric
instance (value : Nat) : OfNat Numeric value := ⟨.number (.ofInt value)⟩
/-- Its value: no comparison tells the zeros apart. -/
def value : Numeric → Number
  | negativeZero => 0
  | number value => value
def strictEq (left right : Numeric) : Bool := Number.strictEq left.value right.value
/-- An integer in `[0, bound]`, as `Number.isInteger` and two comparisons find it. -/
def isIntegerUpTo (bound : Number) (numeric : Numeric) : Bool :=
  numeric.value.isInteger && Number.le 0 numeric.value && Number.le numeric.value bound
def toValue : Numeric → Value
  | negativeZero => .negativeZero
  | number value => .number value
end Numeric

/-! ### Fields -/

def record (fields : List (String × Value)) : Value := .object (fields.map (fun field => (text field.1, field.2)))
def orNull {α : Type} (convert : α → Value) : Option α → Value
  | some value => convert value
  | none => .null

theorem record_keys {fields : List (String × Value)} {names : List String} (named : fields.map Prod.fst = names) :
    (fields.map (fun field => (text field.1, field.2))).map Prod.fst = names.map text := by
  rw [← named, List.map_map, List.map_map]
  rfl
theorem record_plain (names : List String) {fields : List (String × Value)} (named : fields.map Prod.fst = names)
    (distinct : (names.map text).Nodup) (plain : ∀ value ∈ fields.map Prod.snd, Plain value) : Plain (record fields) := by
  refine .object (record_keys named ▸ distinct) ?_
  intro field member
  obtain ⟨original, found, rfl⟩ := List.mem_map.mp member
  exact plain original.2 (List.mem_map_of_mem found)
theorem record_same (names : List String) {left right : List (String × Value)} (leftNamed : left.map Prod.fst = names)
    (rightNamed : right.map Prod.fst = names) (distinct : (names.map text).Nodup)
    (same : Same (record left) (record right)) : List.Forall₂ Same (left.map Prod.snd) (right.map Prod.snd) := by
  have fields := same.fields (record_keys leftNamed ▸ distinct) ((record_keys leftNamed).trans (record_keys rightNamed).symm)
  rw [List.map_map, List.map_map] at fields
  exact fields

@[simp] theorem same_string {left right : Text} : Same (.string left) (.string right) ↔ left = right := by
  constructor
  · rintro ⟨⟩
    rfl
  · rintro rfl
    exact .string left
@[simp] theorem same_bigint {left right : Int} : Same (.bigint left) (.bigint right) ↔ left = right := by
  constructor
  · rintro ⟨⟩
    rfl
  · rintro rfl
    exact .bigint left
@[simp] theorem same_boolean {left right : Bool} : Same (.boolean left) (.boolean right) ↔ left = right := by
  constructor
  · rintro ⟨⟩
    rfl
  · rintro rfl
    exact .boolean left
theorem Numeric.same_toValue {left right : Numeric} (same : Same left.toValue right.toValue) : left = right := by
  cases left with
  | negativeZero => cases same
  | number left =>
    cases right with
    | negativeZero => cases same
    | number right =>
      cases same
      rfl
/-- An optional field is told apart from `null`. -/
theorem same_orNull {α : Type} {convert : α → Value} (injective : ∀ left right, Same (convert left) (convert right) → left = right)
    (present : ∀ value, convert value ≠ .null) {left right : Option α}
    (same : Same (orNull convert left) (orNull convert right)) : left = right := by
  have absent {value : Value} (other : value ≠ .null) : ¬ Same value .null ∧ ¬ Same .null value := by
    constructor
    · rintro ⟨⟩
      exact other rfl
    · rintro ⟨⟩
      exact other rfl
  cases left with
  | none =>
    cases right with
    | none => rfl
    | some right => exact absurd same (absent (present right)).2
  | some left =>
    cases right with
    | none => exact absurd same (absent (present left)).1
    | some right => rw [injective left right same]
theorem same_orNull_string {left right : Option Text} (same : Same (orNull .string left) (orNull .string right)) :
    left = right := same_orNull (fun _ _ => same_string.mp) (by simp) same
theorem same_orNull_bigint {left right : Option Int} (same : Same (orNull .bigint left) (orNull .bigint right)) :
    left = right := same_orNull (fun _ _ => same_bigint.mp) (by simp) same
theorem same_orNull_boolean {left right : Option Bool} (same : Same (orNull .boolean left) (orNull .boolean right)) :
    left = right := same_orNull (fun _ _ => same_boolean.mp) (by simp) same
theorem same_array {α : Type} {convert : α → Value} (injective : ∀ left right, Same (convert left) (convert right) → left = right)
    {left right : List α} (same : Same (.array (left.map convert)) (.array (right.map convert))) : left = right := by
  cases same with
  | array items =>
    rw [List.forall₂_map_left_iff, List.forall₂_map_right_iff] at items
    exact List.forall₂_eq_eq_eq ▸ items.imp injective
theorem orNull_plain {α : Type} {convert : α → Value} (plain : ∀ value, Plain (convert value)) (value : Option α) :
    Plain (orNull convert value) := by
  cases value with
  | none => exact .null
  | some value => exact plain value
/-- An integer that is in range, and not the zero with a sign, is plain. -/
theorem Numeric.toValue_plain {numeric : Numeric} (positive : numeric ≠ .negativeZero) {bound : Int}
    (range : numeric.isIntegerUpTo (.ofInt bound) = true) (small : bound ≤ MAX_SAFE_INTEGER) : Plain numeric.toValue := by
  cases numeric with
  | negativeZero => exact absurd rfl positive
  | number value =>
    simp only [isIntegerUpTo, Numeric.value, Bool.and_eq_true] at range
    obtain ⟨⟨integer, low⟩, high⟩ := range
    obtain ⟨whole, rfl⟩ := Number.eq_ofInt_of_isInteger integer
    have low : (0 : ℚ) ≤ (whole : ℚ) := of_decide_eq_true low
    have high : (whole : ℚ) ≤ (bound : ℚ) := of_decide_eq_true high
    have low : 0 ≤ whole := by exact_mod_cast low
    have high : whole ≤ bound := by exact_mod_cast high
    have safe : ((whole : ℚ).den = 1 ∧ |(whole : ℚ).num| ≤ MAX_SAFE_INTEGER) := by
      rw [Rat.den_intCast, Rat.num_intCast, abs_of_nonneg low]
      exact ⟨rfl, high.trans small⟩
    exact .integer (if_pos safe)

/-! ### Records with a key -/

theorem record_plain_of_keyed (names : List String) {fields : List (String × Value)} (named : fields.map Prod.fst = names)
    (distinct : (names.map text).Nodup) (each : ∀ value ∈ fields.map Prod.snd, Keyed value → Plain value)
    (keyed : Keyed (record fields)) : Plain (record fields) := by
  refine record_plain names named distinct fun value member => each value member ?_
  obtain ⟨field, found, rfl⟩ := List.mem_map.mp member
  exact keyed.field (List.mem_map_of_mem found)
/-- The fields of a plain record are plain. -/
theorem field_plain {fields : List (String × Value)} (plain : Plain (record fields)) (name : String) {value : Value}
    (member : (name, value) ∈ fields) : Plain value := by
  cases plain with
  | object _ values => exact values _ (List.mem_map_of_mem member)
theorem Numeric.plain_of_keyed {numeric : Numeric} (keyed : Keyed numeric.toValue) : Plain numeric.toValue := by
  obtain ⟨json, encoded⟩ := keyed
  cases numeric with
  | negativeZero =>
    rw [toValue, encode] at encoded
    cases encoded
  | number value =>
    obtain ⟨integer, safe, _⟩ := encode_number_eq_ok.mp encoded
    exact .integer safe
theorem array_plain_of_keyed {α : Type} {convert : α → Value} {items : List α}
    (each : ∀ item ∈ items, Keyed (convert item) → Plain (convert item)) (keyed : Keyed (.array (items.map convert))) :
    Plain (.array (items.map convert)) := by
  refine .array ?_
  intro value member
  obtain ⟨item, found, rfl⟩ := List.mem_map.mp member
  exact each item found (keyed.item (List.mem_map_of_mem found))

/-! ### Fields of values that are the same -/

theorem lookup_of_mem {fields : List (Text × Value)} {key : Text} {value : Value} (distinct : (fields.map Prod.fst).Nodup)
    (member : (key, value) ∈ fields) : fields.lookup key = some value := by
  induction fields with
  | nil => cases member
  | cons field rest ih =>
    obtain ⟨name, first⟩ := field
    obtain ⟨absent, distinct⟩ := List.nodup_cons.mp distinct
    obtain same | later := List.mem_cons.mp member
    · cases same
      exact List.lookup_cons_self
    · have differs : key ≠ name := by
        intro same
        exact absent (List.mem_map.mpr ⟨_, later, same⟩)
      rw [List.lookup_cons, beq_eq_false_iff_ne.mpr differs]
      exact ih distinct later
theorem record_get {names : List String} {value : String → Value} (distinct : (names.map text).Nodup) {name : String}
    (known : name ∈ names) : (record (names.map (fun name => (name, value name)))).get name = value name := by
  have keys : (names.map (fun name => (text name, value name))).map Prod.fst = names.map text := by
    rw [List.map_map]
    rfl
  have found : (names.map (fun name => (text name, value name))).lookup (text name) = some (value name) :=
    lookup_of_mem (keys ▸ distinct) (List.mem_map_of_mem known)
  rw [Value.get, record, Value.fields, List.map_map]
  exact congrArg (fun found => Option.getD found Value.undefined) found
theorem record_get_of_mem {names : List String} {fields : List (String × Value)} (named : fields.map Prod.fst = names)
    (distinct : (names.map text).Nodup) {name : String} {value : Value} (member : (name, value) ∈ fields) :
    (record fields).get name = value := by
  have keys := record_keys named
  have found : (fields.map (fun field => (text field.1, field.2))).lookup (text name) = some value :=
    lookup_of_mem (keys ▸ distinct) (List.mem_map_of_mem member)
  rw [Value.get, record, Value.fields]
  exact congrArg (fun found => Option.getD found Value.undefined) found
/-- A record is made from what it shows. -/
theorem record_of_get {names : List String} {fields : List (String × Value)} (named : fields.map Prod.fst = names)
    (distinct : (names.map text).Nodup) : record (names.map (fun name => (name, (record fields).get name))) = record fields := by
  have same : names.map (fun name => (name, (record fields).get name)) = fields := by
    rw [← named, List.map_map]
    refine (List.map_congr_left fun field member => ?_).trans (List.map_id fields)
    exact Prod.ext rfl (record_get_of_mem named distinct member)
  rw [same]
/-- What a field holds does not depend on the order of the keys. -/
theorem same_lookup {left right : List (Text × Value)} {key : Text} {value : Value}
    (same : Same (.object left) (.object right)) (distinct : (left.map Prod.fst).Nodup) (member : (key, value) ∈ left) :
    ∃ other, right.lookup key = some other ∧ Same value other := by
  cases same with
  | @object _ reordered _ perm keys values =>
    obtain ⟨position, bound, found⟩ := List.mem_iff_getElem.mp (perm.mem_iff.mp member)
    have rightDistinct : (right.map Prod.fst).Nodup := by
      rw [← keys]
      exact (perm.map Prod.fst).nodup_iff.mp distinct
    have rightBound : position < right.length := by
      have lengths := congrArg List.length keys
      simp only [List.length_map] at lengths
      omega
    have key_eq : right[position].1 = key := by
      have entry := congrArg (fun names => names[position]?) keys
      simp only [List.getElem?_map, List.getElem?_eq_getElem bound, List.getElem?_eq_getElem rightBound, found,
        Option.map_some, Option.some.injEq] at entry
      exact entry.symm
    have value_same : Same value right[position].2 := by
      have entry := values.get (by simpa using bound) (by simpa using rightBound)
      simpa [found] using entry
    refine ⟨right[position].2, lookup_of_mem rightDistinct ?_, value_same⟩
    rw [← key_eq]
    exact List.getElem_mem rightBound

end EquityGuard.Records
