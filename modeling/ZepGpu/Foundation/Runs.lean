import Mathlib.Data.List.Basic

namespace ZepGpu
namespace Foundation

/-!
# Runs of a system that takes calls

A run folds a step function over a list of calls.  A condition on the calls
looks at each call together with the state that it finds.  What every call that
meets the condition preserves holds in every state of a run whose calls all
meet it.
-/

variable {σ ι : Type} {step : σ -> ι -> σ} {condition : σ -> ι -> Prop} {state : σ}
  {front back calls : List ι} {call : ι}

/-- Every call of a run meets the condition in the state that it finds. -/
def Meets (step : σ -> ι -> σ) (condition : σ -> ι -> Prop) : σ -> List ι -> Prop
  | _, [] => True
  | state, call :: rest => condition state call ∧ Meets step condition (step state call) rest

instance Meets.decidable [∀ state call, Decidable (condition state call)] (state : σ) :
    (calls : List ι) -> Decidable (Meets step condition state calls)
  | [] => isTrue trivial
  | call :: rest =>
    haveI := Meets.decidable (step state call) rest
    inferInstanceAs (Decidable (condition state call ∧ Meets step condition (step state call) rest))

theorem meets_append :
    Meets step condition state (front ++ back) ↔
      Meets step condition state front ∧ Meets step condition (front.foldl step state) back := by
  induction front generalizing state with
  | nil => exact (and_iff_right trivial).symm
  | cons call rest ih =>
    rw [List.cons_append, Meets, Meets, ih, List.foldl_cons, and_assoc]

theorem meets_and {other : σ -> ι -> Prop} :
    Meets step (fun state call => condition state call ∧ other state call) state calls ↔
      Meets step condition state calls ∧ Meets step other state calls := by
  induction calls generalizing state with
  | nil => exact (and_iff_left trivial).symm
  | cons call rest ih =>
    rw [Meets, Meets, Meets, ih]
    exact and_and_and_comm

theorem Meets.at (meets : Meets step condition state (front ++ call :: back)) :
    condition (front.foldl step state) call :=
  (meets_append.mp meets).2.1

theorem exists_of_not_meets (fails : ¬ Meets step condition state calls) :
    ∃ front call back, calls = front ++ call :: back ∧
      ¬ condition (front.foldl step state) call := by
  induction calls generalizing state with
  | nil => exact absurd trivial fails
  | cons call rest ih =>
    by_cases holds : condition state call
    · rcases ih (fun later => fails ⟨holds, later⟩) with ⟨front, other, back, split, broken⟩
      exact ⟨call :: front, other, back, congrArg (call :: ·) split, broken⟩
    · exact ⟨[], call, rest, rfl, holds⟩

theorem Meets.invariant {invariant : σ -> Prop} (meets : Meets step condition state calls)
    (holds : invariant state)
    (kept : ∀ state call, invariant state -> condition state call -> invariant (step state call)) :
    invariant (calls.foldl step state) := by
  induction calls generalizing state with
  | nil => exact holds
  | cons call rest ih => exact ih meets.2 (kept state call holds meets.1)

/-- What the calls of a run give as long as they meet the condition, when the
condition also keeps the invariant that this rests on. -/
theorem Meets.gives {invariant : σ -> Prop} {result : σ -> ι -> Prop}
    (meets : Meets step condition state calls) (holds : invariant state)
    (kept : ∀ state call, invariant state -> condition state call -> invariant (step state call))
    (gives : ∀ state call, invariant state -> condition state call -> result state call) :
    Meets step result state calls := by
  induction calls generalizing state with
  | nil => trivial
  | cons call rest ih =>
    exact ⟨gives state call holds meets.1, ih meets.2 (kept state call holds meets.1)⟩

theorem meets_of_forall (all : ∀ state call, condition state call) :
    Meets step condition state calls := by
  induction calls generalizing state with
  | nil => trivial
  | cons call rest ih => exact ⟨all state call, ih⟩

theorem Meets.imp {result : σ -> ι -> Prop} (meets : Meets step condition state calls)
    (gives : ∀ state call, condition state call -> result state call) :
    Meets step result state calls :=
  @Meets.gives _ _ _ _ _ _ (fun _ => True) _ meets trivial (fun _ _ _ _ => trivial)
    (fun state call _ => gives state call)

theorem Meets.congr {invariant : σ -> Prop} {left right : σ -> ι -> Prop}
    (meets : Meets step condition state calls) (holds : invariant state)
    (kept : ∀ state call, invariant state -> condition state call -> invariant (step state call))
    (same : ∀ state call, invariant state -> condition state call -> (left state call ↔ right state call)) :
    Meets step left state calls ↔ Meets step right state calls := by
  induction calls generalizing state with
  | nil => rfl
  | cons call rest ih =>
    rw [Meets, Meets, same state call holds meets.1, ih meets.2 (kept state call holds meets.1)]

theorem Meets.and_of_forall {allowed : ι -> Prop} (meets : Meets step condition state calls)
    (all : ∀ call, call ∈ calls -> allowed call) :
    Meets step (fun state call => condition state call ∧ allowed call) state calls := by
  induction calls generalizing state with
  | nil => trivial
  | cons call rest ih =>
    refine ⟨⟨meets.1, all call (List.mem_cons_self ..)⟩, ih meets.2 ?_⟩
    exact fun later member => all later (List.mem_cons_of_mem _ member)

theorem foldl_invariant {invariant : σ -> Prop} (holds : invariant state)
    (kept : ∀ state call, invariant state -> invariant (step state call)) :
    invariant (calls.foldl step state) := by
  induction calls generalizing state with
  | nil => exact holds
  | cons call rest ih => exact ih (kept state call holds)

/-- Where the condition on a call says exactly when the property survives it, it
holds at every call exactly when the property holds after every part of the run. -/
theorem meets_iff_throughout {invariant property : σ -> Prop} {allowed : ι -> Prop}
    (kept : ∀ state call, invariant state -> allowed call -> invariant (step state call))
    (exact : ∀ state call, invariant state -> property state -> allowed call ->
      (property (step state call) ↔ condition state call))
    (holds : invariant state) (first : property state) (all : ∀ call, call ∈ calls -> allowed call) :
    (∀ front back, calls = front ++ back -> property (front.foldl step state)) ↔
      Meets step condition state calls := by
  induction calls generalizing state with
  | nil =>
    constructor
    · intro throughout
      trivial
    · intro meets front back split
      rw [List.nil_eq_append_iff] at split
      rw [split.1]
      exact first
  | cons call rest ih =>
    have now := exact state call holds first (all call (List.mem_cons_self ..))
    have later : ∀ call, call ∈ rest -> allowed call :=
      fun call member => all call (List.mem_cons_of_mem _ member)
    constructor
    · intro throughout
      have next : property (step state call) := throughout [call] rest rfl
      refine ⟨now.mp next, (ih (kept state call holds (all call (List.mem_cons_self ..))) next later).mp ?_⟩
      intro front back split
      exact throughout (call :: front) back (congrArg (call :: ·) split)
    · intro meets front back split
      have next : property (step state call) := now.mpr meets.1
      rcases front with _ | ⟨first', front⟩
      · exact first
      · rw [List.cons_append, List.cons.injEq] at split
        rw [← split.1]
        exact (ih (kept state call holds (all call (List.mem_cons_self ..))) next later).mpr meets.2 front back split.2

end Foundation
end ZepGpu
