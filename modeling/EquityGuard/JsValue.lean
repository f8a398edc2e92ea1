import EquityGuard.Binary64
import EquityGuard.JsonText

/-!
Values of the language that code can receive without having checked their shape.
-/
namespace EquityGuard.JsValue
open EquityGuard.Binary64 EquityGuard.JsonText

/-- A value, by what the code can tell apart in it. The zero with a sign is the one
    number that `Number` does not have; a class instance and a function may carry any
    properties, but are no plain data. -/
inductive Value where
  | undefined
  | null
  | boolean (value : Bool)
  | number (value : Number)
  | negativeZero
  | bigint (value : Int)
  | string (value : Text)
  | symbol
  | array (items : List Value)
  | object (fields : List (Text × Value))
  | classInstance (fields : List (Text × Value))
  | function (fields : List (Text × Value))

namespace Value

instance : Coe String Value := ⟨fun literal => .string (text literal)⟩
instance : Coe Text Value := ⟨.string⟩
instance : Coe Int Value := ⟨.bigint⟩

/-- The properties of a value. -/
def fields : Value → List (Text × Value)
  | object fields | classInstance fields | function fields => fields
  | _ => []
/-- `value.key`, on a value that is neither `null` nor `undefined`. -/
def get (value : Value) (key : String) : Value := (value.fields.lookup (text key)).getD .undefined
/-- Whether a value is `null` or `undefined`: what `?.` stops at, and what `.` throws on. -/
def isNullish : Value → Bool
  | null | undefined => true
  | _ => false
/-- `typeof value === "object" && value !== null`. -/
def isObject : Value → Bool
  | array _ | object _ | classInstance _ => true
  | _ => false

mutual
theorem inductionOn {motive : Value → Prop}
    (scalar : ∀ value, (∀ items, value ≠ array items) → (∀ fields, value ≠ object fields) → motive value)
    (array : ∀ items, (∀ item ∈ items, motive item) → motive (.array items))
    (object : ∀ fields, (∀ field ∈ fields, motive field.2) → motive (.object fields)) :
    ∀ value, motive value := by
  intro value
  cases value with
  | array items => exact array items (items_inductionOn scalar array object items)
  | object fields => exact object fields (fields_inductionOn scalar array object fields)
  | _ => exact scalar _ (by simp) (by simp)
theorem items_inductionOn {motive : Value → Prop}
    (scalar : ∀ value, (∀ items, value ≠ .array items) → (∀ fields, value ≠ .object fields) → motive value)
    (array : ∀ items, (∀ item ∈ items, motive item) → motive (.array items))
    (object : ∀ fields, (∀ field ∈ fields, motive field.2) → motive (.object fields)) :
    ∀ items : List Value, ∀ item ∈ items, motive item := by
  intro items
  cases items with
  | nil => simp
  | cons first rest =>
    exact List.forall_mem_cons.mpr ⟨inductionOn scalar array object first, items_inductionOn scalar array object rest⟩
theorem fields_inductionOn {motive : Value → Prop}
    (scalar : ∀ value, (∀ items, value ≠ .array items) → (∀ fields, value ≠ .object fields) → motive value)
    (array : ∀ items, (∀ item ∈ items, motive item) → motive (.array items))
    (object : ∀ fields, (∀ field ∈ fields, motive field.2) → motive (.object fields)) :
    ∀ fields : List (Text × Value), ∀ field ∈ fields, motive field.2 := by
  intro fields
  cases fields with
  | nil => simp
  | cons first rest =>
    obtain ⟨key, value⟩ := first
    exact List.forall_mem_cons.mpr
      ⟨inductionOn scalar array object value, fields_inductionOn scalar array object rest⟩
end

end Value

/-- A template literal, as the parts it is made of: how they print is never read. -/
abbrev Message := List Value

end EquityGuard.JsValue
