import Mathlib.Logic.Basic

namespace ZepGpu
namespace Foundation

/-!
# Requests that commit or roll back

A request runs one or more database transactions.  The body of a transaction
is a function from the stored state to a value together with the written
state, or an error.  An error discards what the body wrote, and leaves
whatever earlier transactions of the same request have committed.

The rules below reduce a fact about the stored state after a request to one
fact for each transaction, stated for the case in which it commits.
-/

universe u

/-- Fail with `error` when the condition holds. -/
def raiseIf {ε : Type u} (condition : Prop) [Decidable condition] (error : ε) : Except ε Unit :=
  if condition then .error error else .ok ()

section Bodies

variable {ε α β : Type}

theorem raiseIf_eq_ok {condition : Prop} [Decidable condition] {error : ε} {done : Unit} :
    raiseIf condition error = .ok done ↔ ¬ condition := by
  unfold raiseIf
  by_cases holds : condition
  · simp [holds]
  · simp [holds]

theorem bind_eq_ok {first : Except ε α} {next : α -> Except ε β} {value : β} :
    (first >>= next) = .ok value ↔ ∃ middle, first = .ok middle ∧ next middle = .ok value := by
  cases first with
  | error error =>
    constructor
    · intro impossible
      cases impossible
    · rintro ⟨middle, impossible, _⟩
      cases impossible
  | ok middle =>
    constructor
    · intro holds
      exact ⟨middle, rfl, holds⟩
    · rintro ⟨other, same, holds⟩
      cases same
      exact holds

theorem raiseIf_bind_eq_ok {condition : Prop} [Decidable condition] {error : ε}
    {next : Unit -> Except ε β} {value : β} :
    (raiseIf condition error >>= next) = .ok value ↔ ¬ condition ∧ next () = .ok value := by
  rw [bind_eq_ok]
  constructor
  · rintro ⟨_, passed, holds⟩
    exact ⟨raiseIf_eq_ok.mp passed, holds⟩
  · rintro ⟨passed, holds⟩
    exact ⟨(), raiseIf_eq_ok.mpr passed, holds⟩

theorem ok_of_toOption {result : Except ε α} {value : α} (same : result.toOption = some value) :
    result = .ok value := by
  cases result with
  | error error => cases same
  | ok other => rw [Option.some.inj same]

end Bodies

/-- The result of a request and the state it leaves committed. -/
structure Outcome (σ ε α : Type) where
  result : Except ε α
  state : σ

section Transactions

variable {σ ε α β : Type}

/-- Run a body as one transaction: commit what it wrote, or roll back. -/
def transaction (body : σ -> Except ε (α × σ)) (state : σ) : Outcome σ ε α :=
  match body state with
  | .ok (value, written) => ⟨.ok value, written⟩
  | .error error => ⟨.error error, state⟩

/-- Go on after a committed transaction.  A failed one ends the request. -/
def Outcome.andThen (first : Outcome σ ε α) (next : α -> σ -> Outcome σ ε β) : Outcome σ ε β :=
  match first.result with
  | .ok value => next value first.state
  | .error error => ⟨.error error, first.state⟩

variable {body : σ -> Except ε (α × σ)} {state : σ}

theorem transaction_of_ok {state written : σ} {value : α}
    (committed : body state = .ok (value, written)) :
    transaction body state = ⟨.ok value, written⟩ := by
  rw [transaction, committed]

theorem transaction_of_error {error : ε} (failed : body state = .error error) :
    transaction body state = ⟨.error error, state⟩ := by
  rw [transaction, failed]

theorem transaction_cases (body : σ -> Except ε (α × σ)) (state : σ) :
    (∃ error, transaction body state = ⟨.error error, state⟩) ∨
      ∃ value written, body state = .ok (value, written) ∧
        transaction body state = ⟨.ok value, written⟩ := by
  cases run : body state with
  | error error => exact Or.inl ⟨error, transaction_of_error run⟩
  | ok pair => exact Or.inr ⟨pair.1, pair.2, rfl, transaction_of_ok run⟩

theorem transaction_result_eq_ok {value : α} :
    (transaction body state).result = .ok value ↔ ∃ written, body state = .ok (value, written) := by
  rcases transaction_cases body state with ⟨error, same⟩ | ⟨other, written, run, same⟩
  · constructor
    · intro impossible
      rw [same] at impossible
      cases impossible
    · rintro ⟨written, run⟩
      rw [transaction_of_ok run]
  · rw [same, run]
    constructor
    · intro equal
      cases equal
      exact ⟨written, rfl⟩
    · rintro ⟨later, equal⟩
      cases equal
      rfl

theorem transaction_rejects (never : ∀ value written, body state ≠ .ok (value, written)) :
    (transaction body state).result.toOption = none ∧ (transaction body state).state = state := by
  rcases transaction_cases body state with ⟨error, same⟩ | ⟨value, written, run, _⟩
  · rw [same]
    exact ⟨rfl, rfl⟩
  · exact absurd run (never value written)

theorem transaction_preserves {invariant : σ -> Prop} {body : σ -> Except ε (α × σ)} {state : σ}
    (holds : invariant state)
    (kept : ∀ value written, body state = .ok (value, written) -> invariant written) :
    invariant (transaction body state).state := by
  rcases transaction_cases body state with ⟨error, same⟩ | ⟨value, written, run, same⟩
  · rw [same]
    exact holds
  · rw [same]
    exact kept value written run

/-- The session of a request: what it wrote is committed when it returns, and
rolled back when an exception passes through the session. -/
def session (request : σ -> Outcome σ ε α) (state : σ) : Outcome σ ε α :=
  match (request state).result with
  | .ok value => ⟨.ok value, (request state).state⟩
  | .error error => ⟨.error error, state⟩

theorem session_of_error {request : σ -> Outcome σ ε α} {error : ε}
    (raised : (request state).result = .error error) :
    session request state = ⟨.error error, state⟩ := by
  rw [session, raised]

end Transactions

end Foundation
end ZepGpu
