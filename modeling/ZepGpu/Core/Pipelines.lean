import ZepGpu.Foundation.Dict
import ZepGpu.Foundation.Runs
import ZepGpu.Foundation.Slices

namespace ZepGpu
namespace Core

open Function Foundation

/-!
# Running a pipeline

The loop of `_execute_stages` starts stages that are ready, waits until at least
one of the tasks it knows is done, collects the ones that are, and looks again
for ready stages.  Between two of its turns the started stages go on by
themselves: each attempt at a stage's function returns or raises, and a stage
that raises tries again or asks its handler.  A run is the list of what happens
outside the loop, in the order in which it happens.
-/

inductive PipelineStageStatus
  | pending
  | waiting
  | running
  | completed
  | failed
  | skipped
  deriving DecidableEq

/-- `object` is the identity of the stage, whose count of retries outlives a run.
The handler of an error returns a result or raises itself. -/
structure PipelineStage (V : Type) where
  object : Nat
  name : String
  dependsOn : List String
  maxRetries : Int
  onError : Option (String -> Except String V)

/-- The stages in the order of the list, with the settings of the loop. -/
structure Pipeline (V : Type) where
  stages : List (PipelineStage V)
  maxConcurrentStages : Int
  enableRetry : Bool

/-- A task that executes a stage, with the stages that were completed when it was
started, and its result once it is done. -/
structure Execution (V : Type) where
  stage : PipelineStage V
  startedAfter : List String
  result : Option (Except String V)

/-- Where the loop is: it waits for a task, turns without waiting, or has ended. -/
inductive LoopPhase
  | waiting
  | spinning
  | returned
  | raised (error : String)
  deriving DecidableEq

/-- The local variables of `_execute_stages` and the tasks it has created. -/
structure PipelineRun (V : Type) where
  stageTasks : Dict String Nat
  executions : List (Execution V)
  retryCounts : Nat -> Int
  completed : List String
  failedStages : List String
  context : String -> Option V
  stageStatuses : String -> PipelineStageStatus
  stageResults : String -> Option V
  errors : String -> Option String
  completedStages : Nat
  phase : LoopPhase

namespace PipelineRun

variable {V : Type}

/-- Stages in flight are among the ready ones. -/
def getReadyStages (pipeline : Pipeline V) (completed failed : List String) :
    List (PipelineStage V) :=
  pipeline.stages.filter fun stage =>
    !decide (stage.name ∈ completed ∨ stage.name ∈ failed) &&
      stage.dependsOn.all fun dep => decide (dep ∈ completed)

/-- `create_task`, under the name of the stage. -/
def launch (run : PipelineRun V) (stage : PipelineStage V) : PipelineRun V :=
  { run with
    stageTasks := run.stageTasks.set stage.name run.executions.length
    executions := run.executions ++ [⟨stage, run.completed, none⟩]
    stageStatuses := update run.stageStatuses stage.name .running }

def freeSlots (pipeline : Pipeline V) (run : PipelineRun V) : Int :=
  pipeline.maxConcurrentStages - run.stageTasks.keys.length

def toLaunch (pipeline : Pipeline V) (run : PipelineRun V) : List (PipelineStage V) :=
  sliceTo (getReadyStages pipeline run.completed run.failedStages) (run.freeSlots pipeline)

def iterate (pipeline : Pipeline V) (run : PipelineRun V) : PipelineRun V :=
  if run.completed.length + run.failedStages.length < pipeline.stages.length then
    if getReadyStages pipeline run.completed run.failedStages = [] ∧ run.stageTasks.keys = [] then
      { run with phase := .returned }
    else
      let launched := (run.toLaunch pipeline).foldl launch run
      if launched.stageTasks.keys = [] then { launched with phase := .spinning }
      else { launched with phase := .waiting }
  else { run with phase := .returned }

/-- The result of the task that is known under a name, once it is done. -/
def resultOf (run : PipelineRun V) (name : String) : Option (Except String V) :=
  (run.stageTasks.get? name).bind fun task => (run.executions[task]?).bind Execution.result

def doneNames (run : PipelineRun V) : List String :=
  run.stageTasks.keys.filter fun name => (run.resultOf name).isSome

def collectResult (run : PipelineRun V) (name : String) (value : V) : PipelineRun V :=
  { run with
    stageTasks := run.stageTasks.erase name
    context := update run.context name (some value)
    completed := run.completed.insert name
    completedStages := run.completedStages + 1 }

def collectError (run : PipelineRun V) (name error : String) : PipelineRun V :=
  { run with
    stageTasks := run.stageTasks.erase name
    failedStages := run.failedStages.insert name
    errors := update run.errors name (some error) }

/-- Take in the tasks that are done.  The task of a stage without a name is passed
over and stays among the known ones.  Without retries the first exception leaves
the loop. -/
def collect (pipeline : Pipeline V) : List String -> PipelineRun V -> Option String × PipelineRun V
  | [], run => (none, run)
  | name :: rest, run =>
    -- `if stage_name:`
    if name = "" then collect pipeline rest run
    else
      match run.resultOf name with
      | none => collect pipeline rest run
      | some (.ok value) => collect pipeline rest (run.collectResult name value)
      | some (.error error) =>
        if pipeline.enableRetry then collect pipeline rest (run.collectError name error)
        else (some error, run.collectError name error)

def finish (run : PipelineRun V) (task : Nat) (result : Except String V) : PipelineRun V :=
  { run with
    executions := run.executions.modify task fun execution => { execution with result := some result } }

/-- An attempt of a task that is not done returns or raises. -/
def attempt (run : PipelineRun V) (task : Nat) (outcome : Except String V) : PipelineRun V :=
  match run.executions[task]? with
  | none => run
  | some execution =>
    if execution.result.isSome then run
    else
      let stage := execution.stage
      match outcome with
      | .ok value =>
        { run.finish task (.ok value) with
          stageStatuses := update run.stageStatuses stage.name .completed
          stageResults := update run.stageResults stage.name (some value) }
      | .error error =>
        if run.retryCounts stage.object < stage.maxRetries then
          { run with
            retryCounts := update run.retryCounts stage.object
              (run.retryCounts stage.object + 1)
            stageStatuses := update run.stageStatuses stage.name .running }
        else
          let result := match stage.onError with
            | some handler => handler error
            | none => .error error
          { run.finish task result with
            stageStatuses := update run.stageStatuses stage.name .failed }

/-- `asyncio.wait` returns the done tasks, in any order. -/
def Wakes (run : PipelineRun V) (order : List String) : Prop :=
  run.phase = .waiting ∧ order ≠ [] ∧ order.Perm run.doneNames

instance (run : PipelineRun V) (order : List String) : Decidable (run.Wakes order) :=
  inferInstanceAs (Decidable (_ ∧ _ ∧ _))

def wake (pipeline : Pipeline V) (run : PipelineRun V) (order : List String) : PipelineRun V :=
  if run.Wakes order then
    match collect pipeline order run with
    | (some error, run) => { run with phase := .raised error }
    | (none, run) => run.iterate pipeline
  else run

end PipelineRun

/-- An attempt of a task that returns or raises, or a return of `asyncio.wait`. -/
inductive PipelineEvent (V : Type)
  | attempt (task : Nat) (outcome : Except String V)
  | wake (order : List String)

namespace PipelineRun

variable {V : Type}

def step (pipeline : Pipeline V) (run : PipelineRun V) : PipelineEvent V -> PipelineRun V
  | .attempt task outcome => run.attempt task outcome
  | .wake order => run.wake pipeline order

/-- `run_pipeline` before its loop. -/
def blank (retryCounts : Nat -> Int) (initialInputs : String -> Option V) : PipelineRun V where
  stageTasks := Dict.empty
  executions := []
  retryCounts := retryCounts
  completed := []
  failedStages := []
  context := initialInputs
  stageStatuses := fun _ => .pending
  stageResults := fun _ => none
  errors := fun _ => none
  completedStages := 0
  phase := .waiting

/-- `run_pipeline` up to its first wait. -/
def start (pipeline : Pipeline V) (retryCounts : Nat -> Int) (initialInputs : String -> Option V) :
    PipelineRun V :=
  iterate pipeline (blank retryCounts initialInputs)

def status (run : PipelineRun V) : PipelineStageStatus :=
  match run.phase with
  | .waiting => .running
  | .spinning => .running
  | .returned => .completed
  | .raised _ => .failed

end PipelineRun

end Core
end ZepGpu
