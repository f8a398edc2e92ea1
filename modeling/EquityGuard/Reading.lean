import EquityGuard.Loops

/-!
Readers over any alphabet: a value is taken off the front of a stream, or the reader fails.
What was written is read back when the reader takes exactly that, whatever follows it.
-/
namespace EquityGuard.Reading
open EquityGuard.Loops (Ends Fueled forever)
variable {α β γ : Type}

/-- A value off the front of a stream and what is left of it; nothing where the reader fails. -/
abbrev Reader (β α : Type) := StateT (List β) Option α
/-- Exactly `count` letters. -/
def take (count : Nat) : Reader β (List β) := fun stream =>
  if count ≤ stream.length then some (stream.take count, stream.drop count) else none
/-- As many values, one after another. -/
def times (item : Reader β α) : Nat → Reader β (List α)
  | 0 => pure []
  | count + 1 => do
    let first ← item
    let rest ← times item count
    return first :: rest

theorem bind_eq_some {first : Reader β α} {next : α → Reader β γ} {stream rest : List β} {result : γ} :
    (first >>= next) stream = some (result, rest) ↔
      ∃ value middle, first stream = some (value, middle) ∧ next value middle = some (result, rest) := by
  constructor
  · intro ran
    obtain ⟨⟨value, middle⟩, before, after⟩ := Option.bind_eq_some_iff.mp ran
    exact ⟨value, middle, before, after⟩
  · rintro ⟨value, middle, before, after⟩
    exact Option.bind_eq_some_iff.mpr ⟨(value, middle), before, after⟩
theorem pure_eq_some {value result : α} {stream rest : List β} :
    (pure value : Reader β α) stream = some (result, rest) ↔ value = result ∧ stream = rest := by
  constructor
  · intro ran
    cases ran
    exact ⟨rfl, rfl⟩
  · rintro ⟨rfl, rfl⟩
    rfl

/-! ### What is read back -/

/-- The reader takes exactly these letters and gives this value. -/
def Yields (reader : Reader β α) (written : List β) (value : α) : Prop :=
  ∀ rest, reader (written ++ rest) = some (value, rest)

theorem Yields.whole {reader : Reader β α} {written : List β} {value : α} (yields : Yields reader written value) :
    reader written = some (value, []) := by
  have all := yields []
  rwa [List.append_nil] at all
theorem Yields.pure (value : α) : Yields (pure value : Reader β α) [] value := fun _ => rfl
theorem Yields.bind {first : Reader β α} {next : α → Reader β γ} {written more : List β} {value : α} {result : γ}
    (before : Yields first written value) (after : Yields (next value) more result) :
    Yields (first >>= next) (written ++ more) result := by
  intro rest
  rw [List.append_assoc]
  exact bind_eq_some.mpr ⟨value, more ++ rest, before _, after rest⟩
/-- A reader that ends with what it made of the last value. -/
theorem Yields.map {first : Reader β α} {convert : α → γ} {written : List β} {value : α}
    (before : Yields first written value) :
    Yields (first >>= fun value => Pure.pure (convert value)) written (convert value) := by
  intro rest
  exact bind_eq_some.mpr ⟨value, rest, before rest, rfl⟩
theorem yields_take (letters : List β) : Yields (take letters.length) letters letters := by
  intro rest
  rw [take, if_pos (by simp), List.take_left, List.drop_left]
theorem yields_times {item : Reader β α} {write : γ → List β} {value : γ → α} {items : List γ}
    (each : ∀ one ∈ items, Yields item (write one) (value one)) :
    Yields (times item items.length) (items.flatMap write) (items.map value) := by
  induction items with
  | nil => exact Yields.pure []
  | cons one others ih =>
    rw [List.flatMap_cons]
    exact (each one List.mem_cons_self).bind (ih fun other member => each other (List.mem_cons_of_mem _ member)).map

/-! ### What a reader gives at all -/

/-- Every value the reader gives is valid. -/
def Gives (reader : Reader β α) (valid : α → Prop) : Prop :=
  ∀ stream value rest, reader stream = some (value, rest) → valid value

theorem Gives.anything (reader : Reader β α) : Gives reader (fun _ => True) := fun _ _ _ _ => trivial
theorem Gives.pure {value : α} {valid : α → Prop} (holds : valid value) : Gives (pure value : Reader β α) valid := by
  intro stream result rest ran
  obtain ⟨rfl, _⟩ := pure_eq_some.mp ran
  exact holds
theorem Gives.bind {first : Reader β α} {next : α → Reader β γ} {between : α → Prop} {valid : γ → Prop}
    (before : Gives first between) (after : ∀ value, between value → Gives (next value) valid) :
    Gives (first >>= next) valid := by
  intro stream result rest ran
  obtain ⟨value, middle, began, ended⟩ := bind_eq_some.mp ran
  exact after value (before _ _ _ began) _ _ _ ended
theorem gives_take (count : Nat) : Gives (take count : Reader β (List β)) (fun letters => letters.length = count) := by
  intro stream letters rest ran
  unfold take at ran
  split at ran
  · rename_i enough
    cases ran
    exact List.length_take_of_le enough
  · cases ran
theorem gives_times {item : Reader β α} {valid : α → Prop} (each : Gives item valid) (count : Nat) :
    Gives (times item count) (fun items => items.length = count ∧ ∀ one ∈ items, valid one) := by
  induction count with
  | zero => exact Gives.pure ⟨rfl, by simp⟩
  | succ count ih =>
    refine each.bind fun first known => ih.bind fun rest others => Gives.pure ⟨?_, ?_⟩
    · rw [List.length_cons, others.1]
    · exact List.forall_mem_cons.mpr ⟨known, others.2⟩

/-! ### A stream of records -/

/-- A loop whose round takes one record off the stream handles them in their order, and ends with the stream. -/
theorem ends_records {σ ρ ε : Type} {round : List β × σ → Except ε ((List β × σ) ⊕ ρ)} {write : α → List β}
    {step : σ → α → σ} {finish : σ → ρ} {items : List α}
    (each : ∀ item ∈ items, ∀ rest state, round (write item ++ rest, state) = .ok (.inl (rest, step state item)))
    (stop : ∀ state, round ([], state) = .ok (.inr (finish state))) (state : σ) :
    Ends (fun fuel => forever round fuel (items.flatMap write, state)) (finish (items.foldl step state)) := by
  induction items generalizing state with
  | nil => exact Ends.leave (stop state)
  | cons item rest ih =>
    rw [List.flatMap_cons, List.foldl_cons]
    exact Ends.goOn (each item List.mem_cons_self _ _)
      (ih (fun other member => each other (List.mem_cons_of_mem _ member)) _)

end EquityGuard.Reading
