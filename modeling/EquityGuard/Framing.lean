import Mathlib.Data.List.Basic

/-!
Framed encodings over any alphabet. An encoding is delimited when a value can be
read off the front of any stream in only one way; the usual ways of building a
message out of fields keep that.
-/
namespace EquityGuard.Framing
variable {α β γ : Type*}

/-- Two streams that start with encoded valid values are equal only if the values
    and what follows them are. -/
def Delimited (encode : α → List β) (valid : α → Prop) : Prop :=
  ∀ left right leftRest rightRest, valid left → valid right →
    encode left ++ leftRest = encode right ++ rightRest → left = right ∧ leftRest = rightRest

theorem Delimited.injective {encode : α → List β} {valid : α → Prop} (delimited : Delimited encode valid)
    {left right : α} (leftValid : valid left) (rightValid : valid right) (same : encode left = encode right) :
    left = right :=
  (delimited left right [] [] leftValid rightValid (by rw [same])).1
/-- Fields of one width. -/
theorem delimited_of_length {encode : α → List β} {valid : α → Prop} (width : Nat)
    (length : ∀ value, (encode value).length = width)
    (injective : ∀ left right, valid left → valid right → encode left = encode right → left = right) :
    Delimited encode valid := by
  intro left right leftRest rightRest leftValid rightValid same
  obtain ⟨heads, rests⟩ := List.append_inj same (by rw [length, length])
  exact ⟨injective left right leftValid rightValid heads, rests⟩
/-- One field after another. -/
theorem Delimited.append {first : α → List β} {second : γ → List β} {firstValid : α → Prop} {secondValid : γ → Prop}
    (firstDelimited : Delimited first firstValid) (secondDelimited : Delimited second secondValid) :
    Delimited (fun pair : α × γ => first pair.1 ++ second pair.2)
      (fun pair => firstValid pair.1 ∧ secondValid pair.2) := by
  intro left right leftRest rightRest leftValid rightValid same
  simp only [List.append_assoc] at same
  obtain ⟨firsts, rests⟩ := firstDelimited _ _ _ _ leftValid.1 rightValid.1 same
  obtain ⟨seconds, rest⟩ := secondDelimited _ _ _ _ leftValid.2 rightValid.2 rests
  exact ⟨Prod.ext firsts seconds, rest⟩
/-- A record encoded through its fields. -/
theorem Delimited.comap {encode : α → List β} {valid : α → Prop} (delimited : Delimited encode valid)
    {fields : γ → α} (injective : Function.Injective fields) :
    Delimited (fun record => encode (fields record)) (fun record => valid (fields record)) := by
  intro left right leftRest rightRest leftValid rightValid same
  obtain ⟨sameFields, rest⟩ := delimited _ _ _ _ leftValid rightValid same
  exact ⟨injective sameFields, rest⟩
/-- Equally many items, one after another. -/
theorem Delimited.flatMap {encode : α → List β} {valid : α → Prop} (delimited : Delimited encode valid) :
    ∀ left right : List α, ∀ leftRest rightRest, left.length = right.length →
      (∀ item ∈ left, valid item) → (∀ item ∈ right, valid item) →
      left.flatMap encode ++ leftRest = right.flatMap encode ++ rightRest → left = right ∧ leftRest = rightRest := by
  intro left
  induction left with
  | nil =>
    intro right leftRest rightRest length _ _ same
    obtain rfl := List.length_eq_zero_iff.mp length.symm
    exact ⟨rfl, same⟩
  | cons head tail ih =>
    intro right leftRest rightRest length leftValid rightValid same
    cases right with
    | nil => cases length
    | cons otherHead otherTail =>
      simp only [List.flatMap_cons, List.append_assoc] at same
      obtain ⟨heads, rests⟩ := delimited _ _ _ _ (leftValid head List.mem_cons_self)
        (rightValid otherHead List.mem_cons_self) same
      obtain ⟨tails, rest⟩ := ih otherTail leftRest rightRest (Nat.succ.inj length)
        (fun item member => leftValid item (List.mem_cons_of_mem _ member))
        (fun item member => rightValid item (List.mem_cons_of_mem _ member)) rests
      exact ⟨by rw [heads, tails], rest⟩
/-- A list after its length. -/
theorem Delimited.counted {count : Nat → List β} {fits : Nat → Prop} {encode : α → List β} {valid : α → Prop}
    (countDelimited : Delimited count fits) (delimited : Delimited encode valid) :
    Delimited (fun items : List α => count items.length ++ items.flatMap encode)
      (fun items => fits items.length ∧ ∀ item ∈ items, valid item) := by
  intro left right leftRest rightRest leftValid rightValid same
  simp only [List.append_assoc] at same
  obtain ⟨lengths, rests⟩ := countDelimited _ _ _ _ leftValid.1 rightValid.1 same
  exact delimited.flatMap left right leftRest rightRest lengths leftValid.2 rightValid.2 rests
/-- A string after its length. -/
theorem Delimited.sized {count : Nat → List β} {fits : Nat → Prop} (countDelimited : Delimited count fits) :
    Delimited (fun text : List β => count text.length ++ text) (fun text => fits text.length) := by
  intro left right leftRest rightRest leftValid rightValid same
  simp only [List.append_assoc] at same
  obtain ⟨lengths, rests⟩ := countDelimited _ _ _ _ leftValid rightValid same
  exact List.append_inj rests lengths

/-! ### Records of one width -/

theorem drop_flatMap {encode : α → List β} {width : Nat} (length : ∀ item, (encode item).length = width)
    (items : List α) (index : Nat) : (items.flatMap encode).drop (index * width) = (items.drop index).flatMap encode := by
  induction items generalizing index with
  | nil => simp
  | cons item rest ih =>
    cases index with
    | zero => simp
    | succ index =>
      have step : (index + 1) * width = (encode item).length + index * width := by rw [length, Nat.succ_mul, Nat.add_comm]
      rw [List.flatMap_cons, step, ← List.drop_drop, List.drop_left, ih, List.drop_succ_cons]
theorem length_flatMap {encode : α → List β} {width : Nat} (length : ∀ item, (encode item).length = width)
    (items : List α) : (items.flatMap encode).length = items.length * width := by
  induction items with
  | nil => simp
  | cons item rest ih => rw [List.flatMap_cons, List.length_append, ih, length, List.length_cons, Nat.succ_mul, Nat.add_comm]
/-- Any number of items, up to a letter that none of them starts with. -/
theorem Delimited.terminated {encode : α → List β} {valid : α → Prop} (delimited : Delimited encode valid) {stop : β}
    (starts : ∀ item, valid item → ∃ head tail, encode item = head :: tail ∧ head ≠ stop) :
    ∀ left right : List α, ∀ leftRest rightRest, (∀ item ∈ left, valid item) → (∀ item ∈ right, valid item) →
      left.flatMap encode ++ stop :: leftRest = right.flatMap encode ++ stop :: rightRest →
      left = right ∧ leftRest = rightRest := by
  intro left
  induction left with
  | nil =>
    intro right leftRest rightRest _ rightValid same
    cases right with
    | nil => exact ⟨rfl, (List.cons.inj same).2⟩
    | cons item items =>
      obtain ⟨head, tail, encoded, other⟩ := starts item (rightValid item List.mem_cons_self)
      rw [List.flatMap_cons, encoded] at same
      exact absurd (List.cons.inj same).1.symm other
  | cons first rest ih =>
    intro right leftRest rightRest leftValid rightValid same
    have firstValid := leftValid first List.mem_cons_self
    cases right with
    | nil =>
      obtain ⟨head, tail, encoded, other⟩ := starts first firstValid
      rw [List.flatMap_cons, encoded] at same
      exact absurd (List.cons.inj same).1 other
    | cons item items =>
      simp only [List.flatMap_cons, List.append_assoc] at same
      obtain ⟨rfl, sameRest⟩ := delimited first item _ _ firstValid (rightValid item List.mem_cons_self) same
      obtain ⟨rfl, rests⟩ := ih items leftRest rightRest (fun item member => leftValid item (List.mem_cons_of_mem _ member))
        (fun item member => rightValid item (List.mem_cons_of_mem _ member)) sameRest
      exact ⟨rfl, rests⟩

end EquityGuard.Framing
