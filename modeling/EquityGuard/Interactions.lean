import Mathlib.Data.List.Basic

/-!
Programs that are interrupted by requests, and their runs: each request is answered or
rejected from outside, and a rejection ends the program. What holds of every run holds
whatever the answers are.
-/
namespace EquityGuard.Interactions

inductive Program (Request : Type) (Answer : Request → Type) (Failure Result : Type) where
  | done (result : Result)
  | fail (failure : Failure)
  | ask (request : Request) (next : Answer request → Program Request Answer Failure Result)
structure Exchange (Request : Type) (Answer : Request → Type) (Reason : Type) where
  request : Request
  answer : Except Reason (Answer request)
inductive Ending (Failure Reason Result : Type) where
  | returned (result : Result)
  | failed (failure : Failure)
  | rejected (reason : Reason)

variable {Request : Type} {Answer : Request → Type} {Failure Reason Result Next : Type}

namespace Program

def bind (program : Program Request Answer Failure Result) (next : Result → Program Request Answer Failure Next) :
    Program Request Answer Failure Next :=
  match program with
  | done result => next result
  | fail failure => .fail failure
  | ask request rest => .ask request (fun answer => (rest answer).bind next)
instance : Monad (Program Request Answer Failure) where
  pure := done
  bind := bind
/-- One request, and its answer. -/
def request (request : Request) : Program Request Answer Failure (Answer request) := .ask request .done
/-- `if (!condition) throw failure;`. -/
def require (condition : Prop) [Decidable condition] (failure : Failure) : Program Request Answer Failure Unit :=
  if condition then .done () else .fail failure

/-- A program makes no more than so many of the requests that are counted. -/
def AtMost (counted : Request → Bool) : Nat → Program Request Answer Failure Result → Prop
  | _, done _ => True
  | _, fail _ => True
  | count, ask request next =>
    if counted request then 0 < count ∧ ∀ answer, (next answer).AtMost counted (count - 1)
    else ∀ answer, (next answer).AtMost counted count

variable {counted : Request → Bool}

theorem AtMost.weaken {fewer more : Nat} {program : Program Request Answer Failure Result} (bounded : program.AtMost counted fewer)
    (bound : fewer ≤ more) : program.AtMost counted more := by
  induction program generalizing fewer more with
  | done | fail => trivial
  | ask request next ih =>
    unfold AtMost at bounded ⊢
    split
    · rename_i isCounted
      rw [if_pos isCounted] at bounded
      exact ⟨by omega, fun answer => ih answer (bounded.2 answer) (by omega)⟩
    · rename_i uncounted
      rw [if_neg uncounted] at bounded
      exact fun answer => ih answer (bounded answer) bound
theorem AtMost.bind {before after : Nat} {program : Program Request Answer Failure Result}
    {next : Result → Program Request Answer Failure Next} (first : program.AtMost counted before)
    (rest : ∀ result, (next result).AtMost counted after) : (program >>= next).AtMost counted (before + after) := by
  induction program generalizing before with
  | done result => exact (rest result).weaken (Nat.le_add_left _ _)
  | fail failure => trivial
  | ask request continuation ih =>
    show (ask request (fun answer => (continuation answer).bind next)).AtMost counted (before + after)
    unfold AtMost at first ⊢
    split
    · rename_i isCounted
      rw [if_pos isCounted] at first
      refine ⟨by omega, fun answer => ?_⟩
      have later := ih answer (first.2 answer)
      rwa [show before + after - 1 = before - 1 + after by omega]
    · rename_i uncounted
      rw [if_neg uncounted] at first
      exact fun answer => ih answer (first answer)
theorem AtMost.one {asked : Request} :
    (Program.request asked : Program Request Answer Failure (Answer asked)).AtMost counted 1 := by
  unfold Program.request AtMost
  split
  · exact ⟨Nat.one_pos, fun _ => trivial⟩
  · exact fun _ => trivial
theorem AtMost.none {asked : Request} (uncounted : counted asked = false) {count : Nat} :
    (Program.request asked : Program Request Answer Failure (Answer asked)).AtMost counted count := by
  unfold Program.request AtMost
  rw [if_neg (by rw [uncounted]; exact Bool.false_ne_true)]
  exact fun _ => trivial
theorem AtMost.require {condition : Prop} [Decidable condition] {failure : Failure} {count : Nat} :
    (Program.require condition failure : Program Request Answer Failure Unit).AtMost counted count := by
  unfold Program.require
  split <;> trivial
/-- A request that is not counted, or a check, before the rest. -/
theorem AtMost.ask {asked : Request} {next : Answer asked → Program Request Answer Failure Result} {count : Nat}
    (uncounted : counted asked = false) (rest : ∀ answer, (next answer).AtMost counted count) :
    (Program.request asked >>= next).AtMost counted count := by
  have bounded := @AtMost.bind Request Answer Failure _ _ counted 0 count _ _ (AtMost.none uncounted) rest
  rwa [Nat.zero_add] at bounded
theorem AtMost.check {condition : Prop} [Decidable condition] {failure : Failure}
    {next : Unit → Program Request Answer Failure Result} {count : Nat} (rest : (next ()).AtMost counted count) :
    (Program.require condition failure >>= next).AtMost counted count := by
  have bounded := @AtMost.bind Request Answer Failure _ _ counted 0 count
    (Program.require condition failure) _ AtMost.require (fun _ => rest)
  rwa [Nat.zero_add] at bounded

end Program
open Program

inductive Runs : Program Request Answer Failure Result → List (Exchange Request Answer Reason) → Ending Failure Reason Result → Prop
  | done (result : Result) : Runs (.done result) [] (.returned result)
  | fail (failure : Failure) : Runs (.fail failure) [] (.failed failure)
  | rejected {request : Request} {next : Answer request → Program Request Answer Failure Result} (reason : Reason) :
    Runs (.ask request next) [⟨request, .error reason⟩] (.rejected reason)
  | answered {request : Request} {next : Answer request → Program Request Answer Failure Result} (answer : Answer request)
      {trace : List (Exchange Request Answer Reason)} {ending : Ending Failure Reason Result}
      (rest : Runs (next answer) trace ending) : Runs (.ask request next) (⟨request, .ok answer⟩ :: trace) ending

section
variable {program : Program Request Answer Failure Result} {next : Result → Program Request Answer Failure Next}
  {trace : List (Exchange Request Answer Reason)}

theorem Runs.count_le {counted : Request → Bool} {count : Nat} {ending : Ending Failure Reason Result}
    (run : Runs program trace ending) (bounded : program.AtMost counted count) :
    trace.countP (fun exchange => counted exchange.request) ≤ count := by
  induction run generalizing count with
  | done | fail => exact Nat.zero_le _
  | @rejected request next reason =>
    unfold AtMost at bounded
    rw [List.countP_cons, List.countP_nil]
    split at bounded
    · rename_i isCounted
      rw [if_pos isCounted]
      omega
    · rename_i uncounted
      rw [if_neg uncounted]
      omega
  | @answered request next answer trace ending rest ih =>
    unfold AtMost at bounded
    rw [List.countP_cons]
    split at bounded
    · rename_i isCounted
      have later := ih (bounded.2 answer)
      rw [if_pos isCounted]
      omega
    · rename_i uncounted
      have later := ih (bounded answer)
      rw [if_neg uncounted]
      exact later
/-- A run of one program and then another is a run of both, or it ended in the first. -/
theorem Runs.split {ending : Ending Failure Reason Next} (run : Runs (program >>= next) trace ending) :
    (∃ result first rest, trace = first ++ rest ∧ Runs program first (.returned result) ∧ Runs (next result) rest ending) ∨
    (∃ early : Ending Failure Reason Result, Runs program trace early ∧ ∀ result, ending ≠ .returned result) := by
  induction program generalizing trace with
  | done result => exact .inl ⟨result, [], trace, rfl, .done result, run⟩
  | fail failure =>
    cases run
    exact .inr ⟨.failed failure, .fail failure, by simp⟩
  | ask request continuation ih =>
    cases run with
    | rejected reason => exact .inr ⟨.rejected reason, .rejected reason, by simp⟩
    | answered answer rest =>
      obtain ⟨result, first, later, rfl, ran, rest⟩ | ⟨early, ran, stopped⟩ := ih answer rest
      · exact .inl ⟨result, _, later, rfl, .answered answer ran, rest⟩
      · exact .inr ⟨early, .answered answer ran, stopped⟩
/-- What is counted comes after a piece that makes none of it, if it comes at all. -/
theorem Runs.split_uncounted {counted : Request → Bool} {ending : Ending Failure Reason Next}
    (run : Runs (program >>= next) trace ending) (never : program.AtMost counted 0) :
    trace.countP (fun exchange => counted exchange.request) = 0 ∨
    ∃ result first rest, trace = first ++ rest ∧ first.countP (fun exchange => counted exchange.request) = 0 ∧
      Runs program first (.returned result) ∧ Runs (next result) rest ending := by
  obtain ⟨result, first, rest, same, ran, later⟩ | ⟨early, ran, _⟩ := run.split
  · exact .inr ⟨result, first, rest, same, Nat.le_zero.mp (ran.count_le never), ran, later⟩
  · exact .inl (Nat.le_zero.mp (ran.count_le never))
/-- A program that returned went through the answer of its first request. -/
theorem Runs.asked {asked : Request} {next : Answer asked → Program Request Answer Failure Result} {result : Result}
    (run : Runs (Program.request asked >>= next) trace (.returned result)) :
    ∃ answer rest, trace = ⟨asked, .ok answer⟩ :: rest ∧ Runs (next answer) rest (.returned result) := by
  cases run with
  | answered answer rest => exact ⟨answer, _, rfl, rest⟩
theorem Runs.required {condition : Prop} [Decidable condition] {failure : Failure}
    {next : Unit → Program Request Answer Failure Result} {result : Result}
    (run : Runs (Program.require condition failure >>= next) trace (.returned result)) :
    condition ∧ Runs (next ()) trace (.returned result) := by
  unfold Program.require at run
  split at run
  · rename_i holds
    exact ⟨holds, run⟩
  · cases run
theorem Runs.ended {value result : Result}
    (run : Runs (pure value : Program Request Answer Failure Result) trace (.returned result)) : trace = [] ∧ result = value := by
  cases run
  exact ⟨rfl, rfl⟩

/-- The run in which an oracle answers, knowing everything that was exchanged before. -/
def execute (oracle : List (Exchange Request Answer Reason) → (request : Request) → Except Reason (Answer request)) :
    List (Exchange Request Answer Reason) → Program Request Answer Failure Result →
    List (Exchange Request Answer Reason) × Ending Failure Reason Result
  | _, .done result => ([], .returned result)
  | _, .fail failure => ([], .failed failure)
  | before, .ask request next =>
    match oracle before request with
    | .error reason => ([⟨request, .error reason⟩], .rejected reason)
    | .ok answer =>
      let rest := execute oracle (before ++ [⟨request, .ok answer⟩]) (next answer)
      (⟨request, .ok answer⟩ :: rest.1, rest.2)
/-- Whatever is answered, a program comes to an end. -/
theorem execute_runs (oracle : List (Exchange Request Answer Reason) → (request : Request) → Except Reason (Answer request))
    (before : List (Exchange Request Answer Reason)) (program : Program Request Answer Failure Result) :
    Runs program (execute oracle before program).1 (execute oracle before program).2 := by
  induction program generalizing before with
  | done result => exact .done result
  | fail failure => exact .fail failure
  | ask request next ih =>
    unfold execute
    cases oracle before request with
    | error reason => exact .rejected reason
    | ok answer => exact .answered answer (ih answer _)
end

end EquityGuard.Interactions
