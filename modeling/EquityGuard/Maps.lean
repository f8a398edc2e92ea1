import Mathlib.Algebra.BigOperators.Group.List.Basic
import Mathlib.Algebra.GroupWithZero.Nat
import Mathlib.Data.List.Basic

/-!
A `Map` of the language: its entries in the order in which their keys were first set.
-/
namespace EquityGuard.Maps

variable {Key Value : Type} [DecidableEq Key]

abbrev Entries (Key Value : Type) := List (Key × Value)
def Entries.get (entries : Entries Key Value) (key : Key) : Option Value := entries.lookup key
/-- A key that is set again keeps its place. -/
def Entries.set : Entries Key Value → Key → Value → Entries Key Value
  | [], key, value => [(key, value)]
  | (other, old) :: rest, key, value =>
    if other = key then (key, value) :: rest else (other, old) :: Entries.set rest key value

@[simp] theorem get_nil (key : Key) : Entries.get ([] : Entries Key Value) key = none := rfl
theorem get_cons (other : Key) (old : Value) (rest : Entries Key Value) (key : Key) :
    Entries.get ((other, old) :: rest) key = if key = other then some old else Entries.get rest key := by
  unfold Entries.get
  rw [List.lookup_cons]
  by_cases same : key = other
  · rw [if_pos same, beq_iff_eq.mpr same]
  · rw [if_neg same, beq_false_of_ne same]
@[simp] theorem get_set_self (entries : Entries Key Value) (key : Key) (value : Value) :
    (Entries.set entries key value).get key = some value := by
  induction entries with
  | nil => simp [Entries.set, get_cons]
  | cons entry rest ih =>
    unfold Entries.set
    split
    · simp [get_cons]
    · rename_i other
      rw [get_cons, if_neg (Ne.symm other)]
      exact ih
theorem get_set_ne (entries : Entries Key Value) {key other : Key} (value : Value) (different : other ≠ key) :
    (Entries.set entries key value).get other = entries.get other := by
  induction entries with
  | nil => simp [Entries.set, get_cons, different]
  | cons entry rest ih =>
    unfold Entries.set
    split
    · rename_i same
      rw [get_cons, get_cons, if_neg different, same, if_neg different]
    · rw [get_cons, get_cons, ih]
/-- What is found after a key was set was found before, or was set. -/
theorem get_set_eq_some {entries : Entries Key Value} {key other : Key} {value found : Value}
    (lookup : (Entries.set entries key value).get other = some found) :
    (other = key ∧ found = value) ∨ (other ≠ key ∧ entries.get other = some found) := by
  by_cases same : other = key
  · subst same
    rw [get_set_self] at lookup
    exact .inl ⟨rfl, (Option.some.inj lookup).symm⟩
  · rw [get_set_ne entries value same] at lookup
    exact .inr ⟨same, lookup⟩

/-! ### Keys -/

theorem keys_set (entries : Entries Key Value) (key : Key) (value : Value) :
    (Entries.set entries key value).map Prod.fst =
      if key ∈ entries.map Prod.fst then entries.map Prod.fst else entries.map Prod.fst ++ [key] := by
  induction entries with
  | nil => rfl
  | cons entry rest ih =>
    obtain ⟨other, old⟩ := entry
    rw [Entries.set]
    by_cases same : other = key
    · simp [same]
    · rw [if_neg same, List.map_cons, ih]
      by_cases later : key ∈ rest.map Prod.fst <;> simp [later, Ne.symm same]
theorem nodup_set {entries : Entries Key Value} (distinct : (entries.map Prod.fst).Nodup) (key : Key) (value : Value) :
    ((Entries.set entries key value).map Prod.fst).Nodup := by
  rw [keys_set]
  split
  · exact distinct
  · rename_i new
    refine List.nodup_append.mpr ⟨distinct, by simp, ?_⟩
    rintro found member _ last rfl
    rw [List.mem_singleton.mp last] at member
    exact new member
theorem get_eq_none {entries : Entries Key Value} {key : Key} : entries.get key = none ↔ key ∉ entries.map Prod.fst := by
  induction entries with
  | nil => simp
  | cons entry rest ih =>
    obtain ⟨other, old⟩ := entry
    rw [get_cons]
    by_cases same : key = other <;> simp [same, ih]
/-- A key has at most one entry. -/
theorem filter_key {entries : Entries Key Value} (distinct : (entries.map Prod.fst).Nodup) (key : Key) :
    entries.filter (fun entry => entry.1 = key) = (entries.get key).toList.map (fun value => (key, value)) := by
  induction entries with
  | nil => rfl
  | cons entry rest ih =>
    obtain ⟨other, old⟩ := entry
    obtain ⟨fresh, others⟩ := List.nodup_cons.mp distinct
    rw [get_cons, List.filter_cons]
    by_cases same : other = key
    · subst same
      have absent : Entries.get rest other = none := get_eq_none.mpr fresh
      simp [ih others, absent]
    · simp [same, Ne.symm same, ih others]
theorem get_of_mem {entries : Entries Key Value} (distinct : (entries.map Prod.fst).Nodup) {key : Key} {value : Value}
    (member : (key, value) ∈ entries) : entries.get key = some value := by
  have kept : (key, value) ∈ entries.filter (fun entry => entry.1 = key) := by simp [member]
  rw [filter_key distinct] at kept
  obtain ⟨found, present, same⟩ := List.mem_map.mp kept
  cases same
  exact Option.mem_toList.mp present
theorem mem_of_get {entries : Entries Key Value} {key : Key} {value : Value} (present : entries.get key = some value) :
    (key, value) ∈ entries := by
  obtain ⟨before, after, rfl, _⟩ := List.lookup_eq_some_iff.mp present
  exact List.mem_append_right _ List.mem_cons_self
/-- What a list built entry by entry holds of one key, if each entry contributes only to its own. -/
theorem filter_flatMap_key {Item : Type} {entries : Entries Key Value} {key : Key} {items : Key × Value → List Item}
    {kept : Item → Bool} (own : ∀ entry ∈ entries, (items entry).filter kept = if entry.1 = key then items entry else []) :
    (entries.flatMap items).filter kept = (entries.filter (fun entry => entry.1 = key)).flatMap items := by
  induction entries with
  | nil => rfl
  | cons entry rest ih =>
    obtain ⟨first, others⟩ := List.forall_mem_cons.mp own
    rw [List.flatMap_cons, List.filter_append, ih others, first]
    by_cases same : entry.1 = key <;> simp [same]
theorem set_of_absent {entries : Entries Key Value} {key : Key} (absent : key ∉ entries.map Prod.fst) (value : Value) :
    entries.set key value = entries ++ [(key, value)] := by
  induction entries with
  | nil => rfl
  | cons entry rest ih =>
    obtain ⟨other, old⟩ := entry
    rw [List.map_cons, List.mem_cons, not_or] at absent
    obtain ⟨different, later⟩ := absent
    rw [Entries.set, if_neg (Ne.symm different), ih later]
    rfl
/-- Entries are known by their keys, in order, and by what is found under each. -/
theorem eq_of_keys {Item : Type} {entries : Entries Key Value} {items : List Item} {key : Item → Key} {value : Item → Value}
    (distinct : (entries.map Prod.fst).Nodup) (keys : entries.map Prod.fst = items.map key)
    (found : ∀ item ∈ items, entries.get (key item) = some (value item)) :
    entries = items.map (fun item => (key item, value item)) := by
  induction entries generalizing items with
  | nil =>
    cases items with
    | nil => rfl
    | cons _ _ => cases keys
  | cons entry rest ih =>
    obtain ⟨other, old⟩ := entry
    cases items with
    | nil => cases keys
    | cons item items =>
      obtain ⟨rfl, same⟩ := List.cons.inj keys
      obtain ⟨fresh, others⟩ := List.nodup_cons.mp distinct
      obtain ⟨first, later⟩ := List.forall_mem_cons.mp found
      dsimp only at first fresh
      rw [get_cons, if_pos rfl] at first
      rw [Option.some.inj first, List.map_cons]
      refine congrArg _ (ih others same fun other member => ?_)
      have known := later other member
      rw [get_cons, if_neg] at known
      · exact known
      · intro equal
        rw [same] at fresh
        exact fresh (equal ▸ List.mem_map_of_mem member)
theorem sum_indicator {keys : List Key} (distinct : keys.Nodup) {key : Key} (member : key ∈ keys) :
    (keys.map (fun one => if key = one then 1 else 0)).sum = 1 := by
  induction keys with
  | nil => cases member
  | cons one rest ih =>
    obtain ⟨fresh, others⟩ := List.nodup_cons.mp distinct
    rw [List.map_cons, List.sum_cons]
    by_cases same : key = one
    · have none : rest.map (fun one => if key = one then 1 else 0) = rest.map (fun _ => 0) := by
        refine List.map_congr_left fun later inside => ?_
        rw [if_neg]
        rintro rfl
        exact fresh (same ▸ inside)
      rw [if_pos same, none]
      simp
    · rw [if_neg same, Nat.zero_add]
      exact ih others ((List.mem_cons.mp member).resolve_left same)
/-- Items are counted key by key. -/
theorem sum_countP_key {Item : Type} {items : List Item} {keys : List Key} {key : Item → Key} (kept : Item → Bool)
    (distinct : keys.Nodup) (known : ∀ item ∈ items, key item ∈ keys) :
    (keys.map (fun one => items.countP (fun item => kept item && decide (key item = one)))).sum = items.countP kept := by
  induction items with
  | nil => simp
  | cons item rest ih =>
    obtain ⟨first, others⟩ := List.forall_mem_cons.mp known
    have once : (keys.map (fun one => if kept item && decide (key item = one) then 1 else 0)).sum =
        if kept item then 1 else 0 := by
      cases kept item with
      | false => simp
      | true =>
        simpa using sum_indicator distinct first
    simp only [List.countP_cons]
    rw [List.sum_map_add, ih others, once]

/-! ### Assignments in a row -/

/-- The map after assignments, the latest of which stands first. -/
def Entries.ofLatest (items : List (Key × Value)) : Entries Key Value :=
  items.foldr (fun item entries => entries.set item.1 item.2) []
def total (weight : Value → Nat) (entries : List (Key × Value)) : Nat := (entries.map (fun entry => weight entry.2)).sum
/-- What assignments replace. -/
def replaced (weight : Value → Nat) : List (Key × Value) → Nat
  | [] => 0
  | item :: earlier => ((Entries.get earlier item.1).map weight).getD 0 + replaced weight earlier

@[simp] theorem get_ofLatest (items : List (Key × Value)) (key : Key) :
    (Entries.ofLatest items).get key = Entries.get items key := by
  induction items with
  | nil => rfl
  | cons item earlier ih =>
    obtain ⟨other, value⟩ := item
    unfold Entries.ofLatest at *
    rw [List.foldr_cons, get_cons]
    by_cases same : key = other
    · rw [if_pos same, same, get_set_self]
    · rw [if_neg same, get_set_ne _ _ same, ih]
theorem total_set (weight : Value → Nat) (entries : Entries Key Value) (key : Key) (value : Value) :
    total weight (entries.set key value) + ((entries.get key).map weight).getD 0 = total weight entries + weight value := by
  unfold total
  induction entries with
  | nil => simp [Entries.set]
  | cons entry rest ih =>
    obtain ⟨other, old⟩ := entry
    rw [Entries.set, get_cons]
    by_cases same : other = key
    · simp only [if_pos same, if_pos same.symm, List.map_cons, List.sum_cons, Option.map_some, Option.getD_some]
      omega
    · simp only [if_neg same, if_neg (Ne.symm same), List.map_cons, List.sum_cons]
      omega
/-- What is assigned is kept or replaced. -/
theorem total_ofLatest (weight : Value → Nat) (items : List (Key × Value)) :
    total weight (Entries.ofLatest items) + replaced weight items = total weight items := by
  induction items with
  | nil => rfl
  | cons item earlier ih =>
    have set := total_set weight (Entries.ofLatest earlier) item.1 item.2
    rw [get_ofLatest] at set
    have cons : total weight (item :: earlier) = weight item.2 + total weight earlier := by simp [total]
    have step : Entries.ofLatest (item :: earlier) = (Entries.ofLatest earlier).set item.1 item.2 := rfl
    rw [step, replaced, cons]
    omega
/-- Where nothing of weight is replaced and what is assigned to a key is what is found there, only weightless values
    share a key. -/
theorem apart_of_replaced {weight : Value → Nat} {items : List (Key × Value)} (nothing : replaced weight items = 0)
    (same : ∀ item ∈ items, ∀ other ∈ items, item.1 = other.1 → item.2 = other.2) :
    items.Pairwise (fun item other => item.1 = other.1 → weight item.2 = 0 ∧ weight other.2 = 0) := by
  induction items with
  | nil => exact .nil
  | cons item earlier ih =>
    rw [replaced, Nat.add_eq_zero_iff] at nothing
    obtain ⟨latest, before⟩ := nothing
    refine .cons ?_ (ih before fun left member right also => same left (List.mem_cons_of_mem _ member) right
      (List.mem_cons_of_mem _ also))
    intro other member key
    have equal := same item List.mem_cons_self other (List.mem_cons_of_mem _ member) key
    have kept : (Entries.get earlier item.1).isSome := by
      rw [Option.isSome_iff_ne_none, ne_eq, get_eq_none, not_not, key]
      exact List.mem_map_of_mem member
    obtain ⟨found, present⟩ := Option.isSome_iff_exists.mp kept
    have own := same (item.1, found) (List.mem_cons_of_mem _ (mem_of_get present)) item List.mem_cons_self rfl
    rw [present, Option.map_some, Option.getD_some] at latest
    dsimp only at own
    rw [own] at latest
    exact ⟨latest, equal ▸ latest⟩
theorem replaced_eq_zero {weight : Value → Nat} {items : List (Key × Value)}
    (apart : items.Pairwise (fun item other => item.1 = other.1 → weight other.2 = 0)) : replaced weight items = 0 := by
  induction items with
  | nil => rfl
  | cons item earlier ih =>
    obtain ⟨latest, before⟩ := List.pairwise_cons.mp apart
    rw [replaced, ih before, Nat.add_zero]
    cases present : Entries.get earlier item.1 with
    | none => rfl
    | some found => exact latest (item.1, found) (mem_of_get present) rfl

end EquityGuard.Maps
