import ZepGpu.Core.PipelineSteps

namespace ZepGpu
namespace Core

open Foundation List

/-!
# When a completed pipeline is complete

The loop returns as soon as nothing is ready and nothing is in flight, also when
stages are left that failed for good or that can never become ready.  Only an
exception that leaves the loop makes the pipeline a failed one.
-/

namespace PipelineRun

variable {V : Type} {pipeline : Pipeline V} {run after : PipelineRun V} {order : List String}

/-- Every stage of the pipeline has its result. -/
def AllResults (pipeline : Pipeline V) (run : PipelineRun V) : Prop :=
  ∀ stage, stage ∈ pipeline.stages -> stage.name ∈ run.completed

/-- The loop has returned or raised. -/
def Ended (run : PipelineRun V) : Prop :=
  run.phase = .returned ∨ ∃ error, run.phase = .raised error

/-- The loop takes in a task that raised. -/
def SomeRaised (run : PipelineRun V) (order : List String) : Prop :=
  ∃ name, name ∈ order ∧ name ≠ "" ∧ ∃ error, run.resultOf name = some (.error error)

/-- Not a wake-up that takes in a stage task that has raised. -/
def Quiet (run : PipelineRun V) : PipelineEvent V -> Prop
  | .wake order => run.Wakes order -> ¬ SomeRaised run order
  | .attempt _ _ => True

/-! ## Runs without exceptions -/

theorem allResults_of_length (placed : Placed pipeline run)
    (all : pipeline.stages.length ≤ run.completed.length) :
    ∀ stage, stage ∈ pipeline.stages -> stage.name ∈ run.completed := by
  have within : run.completed.Subperm (pipeline.stages.map PipelineStage.name) :=
    subperm_of_subset placed.completedNodup placed.completed
  have same := within.perm_of_length_le (by rw [length_map]; exact all)
  intro stage member
  exact same.mem_iff.mpr (mem_map_of_mem member)

theorem failed_collect (quiet : ¬ SomeRaised run order) (distinct : order.Nodup) :
    (collect pipeline order run).2.failedStages = run.failedStages := by
  induction order generalizing run with
  | nil => rfl
  | cons name rest ih =>
    rcases nodup_cons.mp distinct with ⟨fresh, distinct⟩
    have passed : (collect pipeline rest run).2.failedStages = run.failedStages := by
      apply ih _ distinct
      rintro ⟨other, member, raised⟩
      exact quiet ⟨other, mem_cons_of_mem _ member, raised⟩
    unfold collect
    split
    · exact passed
    · next named =>
        split
        · exact passed
        · next value found =>
            apply (ih _ distinct).trans rfl
            rintro ⟨other, member, otherNamed, error, raised⟩
            rw [@resultOf_erase _ run name other (run.collectResult name value) rfl rfl
              (by rintro rfl; exact fresh member)] at raised
            exact quiet ⟨other, mem_cons_of_mem _ member, otherNamed, error, raised⟩
        · next error found =>
            exact absurd ⟨name, mem_cons_self .., named, error, found⟩ quiet

/-- The stages that can become ready: their dependencies can all be completed
first. -/
inductive Reachable (pipeline : Pipeline V) : String -> Prop
  | stage (stage : PipelineStage V) (member : stage ∈ pipeline.stages)
      (deps : ∀ dep, dep ∈ stage.dependsOn -> Reachable pipeline dep) :
      Reachable pipeline stage.name

/-- Nothing has failed, and all that was started or completed is reachable. -/
structure Reached (pipeline : Pipeline V) (run : PipelineRun V) : Prop where
  failed : run.failedStages = []
  completed : ∀ name, name ∈ run.completed -> Reachable pipeline name
  known : ∀ name, name ∈ run.stageTasks.keys -> Reachable pipeline name
  phase : ∀ error, run.phase ≠ .raised error

theorem reached_turned (reached : Reached pipeline run) (turned : Turned pipeline run after) :
    Reached pipeline after := by
  cases turned with
  | counted all =>
    refine ⟨reached.failed, reached.completed, reached.known, ?_⟩
    rintro error ⟨⟩
  | exhausted none idle =>
    refine ⟨reached.failed, reached.completed, reached.known, ?_⟩
    rintro error ⟨⟩
  | launched after phase goes new waits =>
    refine ⟨new.failed.trans reached.failed, ?_, ?_, ?_⟩
    · show ∀ name, name ∈ after.completed -> Reachable pipeline name
      rw [new.completed]
      exact reached.completed
    · intro name member
      rcases (new.mem_keys name).mp member with old | ⟨stage, chosen, rfl⟩
      · exact reached.known name old
      · rcases mem_getReadyStages.mp (mem_ready_of_toLaunch chosen) with ⟨inside, -, deps⟩
        exact .stage stage inside fun dep needed => reached.completed dep (deps dep needed)
    · intro error
      show phase ≠ .raised error
      rw [waits]
      split <;> rintro ⟨⟩

theorem reached_collect (reached : Reached pipeline run) (quiet : ¬ SomeRaised run order)
    (distinct : order.Nodup) : Reached pipeline (collect pipeline order run).2 := by
  have places : (∀ name, name ∈ (collect pipeline order run).2.completed ->
      Reachable pipeline name) ∧
      (∀ name, name ∈ (collect pipeline order run).2.stageTasks.keys ->
        Reachable pipeline name) ∧
      ∀ error, (collect pipeline order run).2.phase ≠ .raised error := by
    refine @collect_keeps _ pipeline run
      (fun now => (∀ name, name ∈ now.completed -> Reachable pipeline name) ∧
        (∀ name, name ∈ now.stageTasks.keys -> Reachable pipeline name) ∧
        ∀ error, now.phase ≠ .raised error) ?_ ?_ order
      ⟨reached.completed, reached.known, reached.phase⟩
    · rintro now name value ⟨completed, known, phase⟩ - found
      refine ⟨?_, ?_, phase⟩
      · intro other member
        rcases mem_insert_iff.mp member with rfl | old
        · exact known other (mem_keys_of_resultOf found)
        · exact completed other old
      · exact fun other member => known other (mem_keys_erase.mp member).2
    · rintro now name error ⟨completed, known, phase⟩ - found
      exact ⟨completed, fun other member => known other (mem_keys_erase.mp member).2, phase⟩
  exact ⟨(failed_collect quiet distinct).trans reached.failed, places.1, places.2.1, places.2.2⟩

theorem reached_step (reached : Reached pipeline run) {event : PipelineEvent V}
    (quiet : Quiet run event) : Reached pipeline (run.step pipeline event) := by
  cases event with
  | attempt task outcome =>
    have attempted := run.attempt_attempted task outcome
    refine ⟨attempted.failed.trans reached.failed, ?_, ?_, ?_⟩
    · show ∀ name, name ∈ (run.attempt task outcome).completed -> Reachable pipeline name
      rw [attempted.completed]
      exact reached.completed
    · show ∀ name, name ∈ (run.attempt task outcome).stageTasks.keys -> Reachable pipeline name
      rw [attempted.stageTasks]
      exact reached.known
    · show ∀ error, (run.attempt task outcome).phase ≠ .raised error
      rw [attempted.phase]
      exact reached.phase
  | wake order =>
    by_cases wakes : run.Wakes order
    · have collected := reached_collect reached (quiet wakes) wakes.spec.1
      have woken := wake_woken pipeline wakes
      revert woken
      show Woken pipeline run order (run.wake pipeline order) ->
        Reached pipeline (run.wake pipeline order)
      generalize run.wake pipeline order = after
      intro woken
      cases woken with
      | raised error answer =>
        have none := @collect_completes _ pipeline run order wakes.spec.1 (Or.inr
          fun name member named error found => quiet wakes ⟨name, member, named, error, found⟩)
        rw [none] at answer
        cases answer
      | turned after answer next => exact reached_turned collected next
    · rw [show run.step pipeline (.wake order) = run from wake_of_not wakes]
      exact reached

theorem allResults_turned (placed : Placed pipeline run) (failed : run.failedStages = [])
    (reachable : ∀ stage, stage ∈ pipeline.stages -> Reachable pipeline stage.name)
    (turned : Turned pipeline run after) (returned : after.phase = .returned) :
    AllResults pipeline after := by
  cases turned with
  | counted all =>
    rw [failed] at all
    have covered := allResults_of_length placed all
    exact covered
  | exhausted none idle =>
    intro stage member
    have completed : ∀ name, Reachable pipeline name -> name ∈ run.completed := by
      intro name path
      induction path with
      | stage stage inside deps ih =>
        by_contra missing
        have ready : stage ∈ getReadyStages pipeline run.completed run.failedStages := by
          rw [mem_getReadyStages, failed]
          exact ⟨inside, ⟨missing, not_mem_nil⟩, ih⟩
        rw [none] at ready
        cases ready
    exact completed stage.name (reachable stage member)
  | launched after phase goes new waits =>
    rw [show phase = .returned from returned] at waits
    split at waits <;> cases waits

section Runs

variable (pipeline : Pipeline V) (retryCounts : Nat -> Int) (initialInputs : String -> Option V)
  {events : List (PipelineEvent V)}

end Runs

end PipelineRun

end Core
end ZepGpu
