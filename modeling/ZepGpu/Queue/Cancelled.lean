import ZepGpu.Queue.TaskSteps

namespace ZepGpu
namespace Queue

open Foundation Rooms List

/-!
# Cancelled tasks

A worker does not look at the status of the row that its message names, and the
report of a failure does not either.  As long as neither of them meets a cancelled
row, the row stays cancelled until its owner retries the task.
-/

namespace QueueState

variable {settings : Settings} {state start : QueueState} {taskId : Uuid} {call : TaskCall}
  {calls : List TaskCall}

def statusOf (state : QueueState) (taskId : Uuid) : Option TaskStatus :=
  (state.store.rooms.tasks.get? taskId).map Task.status

/-- The call retries the task. -/
def Retries (taskId : Uuid) : TaskCall -> Prop
  | .retryTask target _ _ => target = taskId
  | _ => False

/-- From a state in which a task is cancelled, and until a retry, its row stays
cancelled and no worker attempts its operation. -/
def CancelFinal (settings : Settings) (start : QueueState) (calls : List TaskCall) : Prop :=
  ∀ front middle back, calls = front ++ (middle ++ back) -> ∀ taskId,
    (∀ call, call ∈ middle -> ¬ Retries taskId call) ->
    (front.foldl (step settings) start).statusOf taskId = some .cancelled ->
      ((front ++ middle).foldl (step settings) start).statusOf taskId = some .cancelled ∧
        ((front ++ middle).foldl (step settings) start).attempted.count taskId =
          (front.foldl (step settings) start).attempted.count taskId

/-- No message is delivered and no failure is reported while the row is cancelled. -/
def Respects (state : QueueState) : TaskCall -> Prop
  | .executeTask taskId _ _ =>
    taskId ∈ state.messages -> state.statusOf taskId ≠ some .cancelled
  | .onFailure taskId _ _ _ =>
    taskId ∈ state.unreported -> state.statusOf taskId ≠ some .cancelled
  | _ => True

theorem statusOf_eq_some {status : TaskStatus} (is : state.statusOf taskId = some status) :
    ∃ task, state.store.rooms.tasks.get? taskId = some task ∧ task.status = status :=
  Option.map_eq_some_iff.mp is

theorem statusOf_eq {task : Task} (found : state.store.rooms.tasks.get? taskId = some task) :
    state.statusOf taskId = some task.status := by
  unfold statusOf
  rw [found]
  rfl

theorem step_of_respects (cancelled : state.statusOf taskId = some .cancelled)
    (respects : state.Respects call) (notRetried : ¬ Retries taskId call)
    (touches : Touches taskId call) : state.step settings call = state := by
  cases call with
  | retryTask target userId now => exact absurd touches.symm notRetried
  | executeTask target attempt clock =>
    obtain rfl : taskId = target := touches
    exact if_neg fun sent => respects sent cancelled
  | onFailure target error traceback now =>
    obtain rfl : taskId = target := touches
    exact if_neg fun raised => respects raised cancelled
  | createTask => exact touches.elim
  | createDelayedTask => exact touches.elim
  | cancelTask => exact touches.elim
  | executeDelayedTask => exact touches.elim
  | preemptTask => exact touches.elim
  | interrupted => exact touches.elim

theorem cancelled_step (cancelled : state.statusOf taskId = some .cancelled)
    (respects : state.Respects call) (notRetried : ¬ Retries taskId call) :
    (state.step settings call).statusOf taskId = some .cancelled ∧
      (state.step settings call).attempted.count taskId = state.attempted.count taskId := by
  by_cases touches : Touches taskId call
  · rw [step_of_respects cancelled respects notRetried touches]
    exact ⟨cancelled, rfl⟩
  · rcases statusOf_eq_some cancelled with ⟨task, found, isCancelled⟩
    rcases step_rows settings state call taskId task found with ⟨later, here, row⟩
    constructor
    · rw [statusOf_eq here, (row.cancelled isCancelled).resolve_right touches]
    · apply count_attempted_step
      rintro attempt clock rfl
      exact touches rfl

theorem executeTask_of_cancelled (cancelled : state.statusOf taskId = some .cancelled)
    (attempt : Attempt) (clock : Nat -> Time) :
    ¬ ((state.executeTask taskId attempt clock).statusOf taskId = some .cancelled ∧
      (state.executeTask taskId attempt clock).attempted.count taskId =
        state.attempted.count taskId) := by
  rcases statusOf_eq_some cancelled with ⟨task, found, isCancelled⟩
  have prepared := state.store.prepare_cases taskId clock
  rintro ⟨still, same⟩
  rw [executeTask_attempted] at same
  cases result : state.store.prepare taskId clock with
  | inl done =>
    rcases done with ⟨reply, after⟩
    rcases statusOf_eq_some still with ⟨last, isLast, cancelledAgain⟩
    rw [executeTask_store_of_inl result] at isLast
    rw [result] at prepared
    cases prepared with
    | notFound missing =>
      rw [missing] at found
      cases found
    | deferred here waits =>
      obtain rfl := Option.some.inj (here.symm.trans found)
      exact absurd (isCancelled.symm.trans waits.2) nofun
    | noGpu here due lacks rows written failed =>
      obtain rfl := Option.some.inj (written.symm.trans isLast)
      exact absurd (failed.symm.trans cancelledAgain) nofun
  | inr goes =>
    rw [result, if_pos Sum.isRight_inr, count_append, count_singleton_self] at same
    omega

theorem onFailure_of_cancelled (cancelled : state.statusOf taskId = some .cancelled)
    (error traceback : String) (now : Time) (raised : taskId ∈ state.unreported) :
    (state.step settings (.onFailure taskId error traceback now)).statusOf taskId = some .failed := by
  rcases statusOf_eq_some cancelled with ⟨task, found, -⟩
  simp only [step]
  rw [if_pos raised]
  have written := @TaskStore.updateStatus_task _ taskId _ .failed now
    (fun task => { task with error := some error })
    (fun columns => { columns with traceback := some traceback }) found
  unfold statusOf TaskStore.markFailed
  rw [written]
  rfl

theorem respects_of_cancelFinal (final : CancelFinal settings start calls) :
    Meets (step settings) Respects start calls := by
  by_contra fails
  rcases exists_of_not_meets fails with ⟨front, call, back, split, broken⟩
  have now := final front [call] back split
  simp only [mem_singleton, forall_eq, foldl_append, foldl_cons, foldl_nil] at now
  generalize front.foldl (step settings) start = state at now broken
  cases call with
  | executeTask taskId attempt clock =>
    simp only [Respects, ne_eq, Classical.not_imp, not_not] at broken
    have kept := now taskId id broken.2
    simp only [step] at kept
    rw [if_pos broken.1] at kept
    exact executeTask_of_cancelled broken.2 attempt clock kept
  | onFailure taskId error traceback time =>
    simp only [Respects, ne_eq, Classical.not_imp, not_not] at broken
    have kept := (now taskId id broken.2).1
    rw [onFailure_of_cancelled broken.2 error traceback time broken.1] at kept
    cases kept
  | createTask => exact broken trivial
  | createDelayedTask => exact broken trivial
  | cancelTask => exact broken trivial
  | retryTask => exact broken trivial
  | executeDelayedTask => exact broken trivial
  | preemptTask => exact broken trivial
  | interrupted => exact broken trivial

theorem cancelled_run (meets : Meets (step settings) Respects state calls)
    (notRetried : ∀ call, call ∈ calls -> ¬ Retries taskId call)
    (cancelled : state.statusOf taskId = some .cancelled) :
    (calls.foldl (step settings) state).statusOf taskId = some .cancelled ∧
      (calls.foldl (step settings) state).attempted.count taskId = state.attempted.count taskId := by
  induction calls generalizing state with
  | nil => exact ⟨cancelled, rfl⟩
  | cons call rest ih =>
    rw [forall_mem_cons] at notRetried
    have now := @cancelled_step settings _ _ _ cancelled meets.1 notRetried.1
    have later := ih meets.2 notRetried.2 now.1
    exact ⟨later.1, later.2.trans now.2⟩

/-- A task that is cancelled stays cancelled and is not run until it is retried,
exactly when no message is delivered and no failure reported for a cancelled row. -/
theorem cancelled_final_iff (settings : Settings) (start : QueueState) (calls : List TaskCall) :
    CancelFinal settings start calls ↔ Meets (step settings) Respects start calls := by
  constructor
  · exact respects_of_cancelFinal
  · intro meets front middle back split taskId notRetried cancelled
    rw [split] at meets
    have later := (meets_append.mp (meets_append.mp meets).2).1
    rw [foldl_append]
    exact cancelled_run later notRetried cancelled

def empty : QueueState where
  store := { rooms := Sample.idleRoom, columns := fun _ => {}, gpus := Dict.empty }

def createLocal : TaskCall :=
  .createTask Sample.userId Sample.taskId Sample.assignmentId { requirements := { requiredMemoryMb := 1024 } }
    true (fun _ => true) 0

def cancel : TaskCall :=
  .cancelTask Sample.taskId Sample.userId 1 1 1

def deliver : TaskCall :=
  .executeTask Sample.taskId (.raised "math domain error") fun _ => 2

def report : TaskCall :=
  .onFailure Sample.taskId "math domain error" "" 3

/-- A worker takes the message of a task that its owner has cancelled.  It runs the
operation, which raises, and the report of this makes the cancelled task a failed
one. -/
theorem cancelled_task_run :
    ¬ ∀ (settings : Settings) (start : QueueState) (calls : List TaskCall),
      CancelFinal settings start calls := by
  intro final
  have notRetried : ∀ call, call ∈ [deliver, report] -> ¬ Retries Sample.taskId call := by
    intro call member
    rcases mem_pair.mp member with rfl | rfl
    · exact id
    · exact id
  have kept := final Sample.settings empty [createLocal, cancel, deliver, report]
    [createLocal, cancel] [deliver, report] [] rfl Sample.taskId notRetried rfl
  have failed : ([createLocal, cancel, deliver, report].foldl (step Sample.settings)
      empty).statusOf Sample.taskId = some .failed := rfl
  exact absurd (failed.symm.trans kept.1) nofun

end QueueState

end Queue
end ZepGpu
