import ZepGpu.Foundation.Requests

namespace ZepGpu
namespace Foundation

/-!
# Calls that raise and leave no trace

A call that changes its state in place may raise after some of its writes.  It
keeps a part of the state when, in the case that it raises, that part is what
it was before the call.  The part is given by a view of the state, the
identity for the whole of it.

For calls made of consecutive parts this is decided by the part that raises: an
exception of the first part must come before its writes, and one of a later
part must come with all earlier writes undone.
-/

def Fails {ε α : Type} (read : Except ε α) : Prop :=
  ∃ error, read = .error error

theorem not_fails_ok {ε α : Type} {read : Except ε α} {value : α} (isRead : read = .ok value) :
    ¬ Fails read := by
  rintro ⟨error, raised⟩
  rw [isRead] at raised
  cases raised

namespace Outcome

variable {σ τ ε α β : Type} {view : σ -> τ} {before state : σ}

/-- A call that fails leaves what is viewed as it was. -/
def KeepsOnError (view : σ -> τ) (before : σ) (call : Outcome σ ε α) : Prop :=
  ∀ error, call.result = .error error -> view call.state = view before

theorem keepsOnError_ok {value : α} : KeepsOnError view before (⟨.ok value, state⟩ : Outcome σ ε α) := by
  intro error raised
  cases raised

theorem keepsOnError_error {error : ε} :
    KeepsOnError view before (⟨.error error, state⟩ : Outcome σ ε α) ↔ view state = view before :=
  ⟨fun keeps => keeps error rfl, fun same _ _ => same⟩

variable {next : α -> σ -> Outcome σ ε β}

theorem exists_of_andThen {first : Outcome σ ε α} {value : β} {later : σ}
    (returns : first.andThen next = ⟨.ok value, later⟩) :
    ∃ found middle, first = ⟨.ok found, middle⟩ ∧ next found middle = ⟨.ok value, later⟩ := by
  obtain ⟨result, middle⟩ := first
  cases result with
  | error error => cases returns
  | ok found => exact ⟨found, middle, rfl, returns⟩

theorem andThen_eq_ok {read : Except ε α} {value : β} {later : σ} :
    andThen ⟨read, state⟩ next = ⟨.ok value, later⟩ ↔
      ∃ found, read = .ok found ∧ next found state = ⟨.ok value, later⟩ := by
  cases read with
  | error error => simp [andThen]
  | ok found => simp [andThen]

theorem keepsOnError_andThen {first : Outcome σ ε α} :
    KeepsOnError view before (first.andThen next) ↔
      KeepsOnError view before first ∧
        ∀ value, first.result = .ok value -> KeepsOnError view before (next value first.state) := by
  obtain ⟨result, state⟩ := first
  rw [andThen]
  cases result with
  | error error =>
    dsimp only
    rw [keepsOnError_error, keepsOnError_error]
    refine ⟨fun same => ⟨same, ?_⟩, And.left⟩
    intro value impossible
    cases impossible
  | ok value =>
    dsimp only
    constructor
    · intro keeps
      refine ⟨keepsOnError_ok, ?_⟩
      intro other same
      cases same
      exact keeps
    · rintro ⟨_, later⟩
      exact later value rfl

theorem keepsOnError_read {read : Except ε α} :
    KeepsOnError view before (andThen ⟨read, state⟩ next) ↔
      (Fails read -> view state = view before) ∧
        ∀ value, read = .ok value -> KeepsOnError view before (next value state) := by
  rw [keepsOnError_andThen]
  refine and_congr_left fun _ => ?_
  exact ⟨fun keeps ⟨error, raised⟩ => keeps error raised, fun keeps error raised => keeps ⟨error, raised⟩⟩

end Outcome

end Foundation
end ZepGpu
