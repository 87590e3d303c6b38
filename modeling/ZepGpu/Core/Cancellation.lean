import ZepGpu.Core.FailedPass

namespace ZepGpu
namespace Core

open Foundation Dict

/-!
# What a cancellation settles

A task that is cancelled while it waits goes to the failed tasks, where no later
call finds it.  One that is cancelled while it runs gives back its device and
stays among the running ones: it keeps its slot, and the next notification
overwrites its status.
-/

namespace TaskScheduler

open Container

variable {hash : String -> Int} {s after : TaskScheduler} {id : String} {task : Task}

def statusOf (s : TaskScheduler) (id : String) : Option TaskStatus :=
  (s.getTask id).map Task.status

theorem failed_schedule (faults : Nat -> Option PoolFault) :
    (s.schedulePendingTasks hash faults).2.failedTasks = s.failedTasks := by
  unfold schedulePendingTasks
  dsimp only
  split
  · rfl
  · refine @scheduleTurns_ends hash (fun _ now => now.failedTasks = s.failedTasks)
      (fun _ now => now.failedTasks = s.failedTasks) ?_ ?_ ?_ _ faults s rfl
    · intro turns now after same turned
      cases turned with
      | dispatched item rest task manager pool popped _ => exact same
    · intro turns now after same turned
      cases turned with
      | idle => exact same
      | returned queue pool kept => exact same
    · intro turns now after error same turned
      cases turned with
      | raised item rest error pool popped => exact same

section

variable (distinct : (allIds s).Nodup) (found : s.failedTasks.get? id = some task)

include distinct found

theorem failed_ended {other : String} (ended : Ended s other after) :
    after.failedTasks.get? id = some task := by
  cases ended with
  | completed ran ended manager pool running => exact found
  | failed ran ended manager pool running =>
    have different : id ≠ other := by
      rintro rfl
      exact @alone _ _ distinct .running .failed (mem_keys_of_get? running) (by rintro ⟨⟩)
        (mem_keys_of_get? found)
    exact (get?_set_of_ne different).trans found
  | unknown => exact found

theorem failed_cancelled {other : String} {done : Bool} (cancelled : Cancelled s other done after) :
    after.failedTasks.get? id = some task := by
  cases cancelled with
  | waiting item rest queue same taken kept =>
    have different : id ≠ other := by
      rintro rfl
      exact @alone _ _ distinct .pending .failed (same ▸ mem_of_popped taken) (by rintro ⟨⟩)
        (mem_keys_of_get? found)
    exact (get?_set_of_ne different).trans found
  | released ran freed manager pool missing running status => exact found
  | unknown => exact found

theorem failed_step (call : SchedulerCall) :
    (s.step hash call).failedTasks.get? id = some task := by
  cases call with
  | submit other =>
    unfold step submitTask
    by_cases allowed : s.checkUserQuota other.userId = true
    · simp only [allowed, if_true]
      exact found
    · simp only [allowed]
      exact found
  | schedule faults =>
    show (s.schedulePendingTasks hash faults).2.failedTasks.get? id = some task
    rw [failed_schedule]
    exact found
  | cancel other => exact failed_cancelled distinct found (s.cancelTask_cancelled other)
  | markRunning other =>
    rcases s.markTaskRunning_keys other with ⟨running, same, equal⟩
    simp only [step, equal]
    exact found
  | markCompleted other => exact failed_ended distinct found (s.markTaskCompleted_ended other)
  | markFailed other error traceback =>
    exact failed_ended distinct found (s.markTaskFailed_ended other error traceback)
  | setQuota user quota => exact found
  | refresh remoteGpus =>
    rcases s.refreshRemoteGpus_spec remoteGpus with ⟨pool, equal⟩
    simp only [step, equal]
    exact found
  | redis redis =>
    rcases s.redisChanges_spec redis with ⟨pool, equal⟩
    simp only [step, equal]
    exact found

theorem getTask_failed : s.getTask id = some task ∧ id ∉ ids s .running := by
  have member : id ∈ ids s .failed := mem_keys_of_get? found
  have waiting := @alone _ _ distinct .failed .pending member (by rintro ⟨⟩)
  have running := @alone _ _ distinct .failed .running member (by rintro ⟨⟩)
  have completed := @alone _ _ distinct .failed .completed member (by rintro ⟨⟩)
  refine ⟨?_, running⟩
  unfold getTask
  split
  · next item rest taken =>
      rcases takeItem_eq_some taken with ⟨same, perm⟩
      exact absurd (same ▸ mem_of_popped perm) waiting
  · have notRunning : s.runningTasks.get? id = none := get?_eq_none_iff.mpr running
    have notCompleted : s.completedTasks.get? id = none := get?_eq_none_iff.mpr completed
    rw [notRunning, notCompleted, found]
    rfl

end

theorem cancelTask_pending (waiting : id ∈ ids s .pending) :
    ∃ task, (s.cancelTask id).2.failedTasks.get? id = some task ∧ task.status = .cancelled := by
  unfold cancelTask
  split
  · exact ⟨_, get?_set_self, rfl⟩
  · next missing => exact absurd waiting (takeItem_eq_none missing)

theorem cancelTask_running (waiting : id ∉ ids s .pending) (done : (s.cancelTask id).1 = true) :
    id ∈ ids (s.cancelTask id).2 .running := by
  have cancelled := s.cancelTask_cancelled id
  rw [done] at cancelled
  revert cancelled
  generalize (s.cancelTask id).2 = after
  intro cancelled
  cases cancelled with
  | waiting item rest queue same taken kept => exact absurd (same ▸ mem_of_popped taken) waiting
  | released task freed manager pool missing found status =>
    exact mem_keys_set.mpr (Or.inl rfl)

theorem submittedIds_append (front back : List SchedulerCall) :
    submittedIds (front ++ back) = submittedIds front ++ submittedIds back :=
  List.flatMap_append

/-- Whatever calls follow, the status of a task stays cancelled and the task holds
no slot, exactly when the task was pending when it was cancelled. -/
theorem cancellation_final_iff (hash : String -> Int) (manager : GPUManager) (pool : Option GpuPool)
    (limit : Int) (calls : List SchedulerCall) (id : String) (distinct : (submittedIds calls).Nodup)
    (done : ((calls.foldl (step hash) (initial manager pool limit)).cancelTask id).1 = true) :
    (∀ later, (submittedIds (calls ++ later)).Nodup ->
      let now := later.foldl (step hash)
        ((calls.foldl (step hash) (initial manager pool limit)).cancelTask id).2
      now.statusOf id = some .cancelled ∧ id ∉ ids now .running) ↔
      id ∈ ids (calls.foldl (step hash) (initial manager pool limit)) .pending := by
  constructor
  · intro final
    by_contra waiting
    have now := final [] (by rw [List.append_nil]; exact distinct)
    exact now.2 (cancelTask_running waiting done)
  · intro waiting later fresh
    rcases cancelTask_pending waiting with ⟨task, found, cancelled⟩
    -- every state after the cancellation is reached by a run from the start
    have reached : ∀ front, (submittedIds (calls ++ front)).Nodup ->
        (allIds (front.foldl (step hash)
          ((calls.foldl (step hash) (initial manager pool limit)).cancelTask id).2)).Nodup := by
      intro front fresh
      have run := @nodup_run hash manager pool limit (calls ++ SchedulerCall.cancel id :: front)
      rw [List.foldl_append, submittedIds_append] at run
      rw [submittedIds_append] at fresh
      exact run fresh
    have kept : (later.foldl (step hash)
        ((calls.foldl (step hash) (initial manager pool limit)).cancelTask id).2).failedTasks.get? id =
          some task := by
      induction later using List.reverseRecOn with
      | nil => exact found
      | append_singleton front call ih =>
        have before : (submittedIds (calls ++ front)).Nodup := by
          rw [← List.append_assoc, submittedIds_append] at fresh
          exact (List.nodup_append.mp fresh).1
        rw [List.foldl_append]
        exact failed_step (reached front before) (ih before) call
    rcases getTask_failed (reached later fresh) kept with ⟨same, running⟩
    refine ⟨?_, running⟩
    unfold statusOf
    rw [same, Option.map_some, cancelled]

def dispatchedRun : List SchedulerCall :=
  [.submit { taskId := "a", createdAt := 0 }, .schedule (fun _ => none), .markRunning "a"]

def pendingRun : List SchedulerCall :=
  [.submit { taskId := "a", createdAt := 0 }, .submit { taskId := "b", createdAt := 1 }]

/-- The other task gets the device, and notifications arrive for both. -/
def laterCalls : List SchedulerCall :=
  [.schedule (fun _ => none), .markRunning "b", .markCompleted "a", .markFailed "a" "late" none,
    .markCompleted "b"]

/-- A waiting task is cancelled, and stays so in all later calls. -/
theorem cancellation_final_pendingRun :
    let now := laterCalls.foldl (step fun _ => 0)
      ((pendingRun.foldl (step fun _ => 0) (initial singleDevice none 1)).cancelTask "a").2
    (now.statusOf "a" = some .cancelled ∧ "a" ∉ ids now .running) ∧
      now.statusOf "b" = some .completed := by
  refine ⟨?_, by with_unfolding_all rfl⟩
  exact (cancellation_final_iff (fun _ => 0) singleDevice none 1 pendingRun "a" (by decide)
    (by with_unfolding_all rfl)).mpr (by with_unfolding_all exact List.mem_cons_self) laterCalls
    (by decide)

/-- The executor's late notification makes a cancelled task a completed one. -/
theorem cancellation_not_final :
    ¬ ∀ (hash : String -> Int) (manager : GPUManager) (pool : Option GpuPool) (limit : Int)
      (calls : List SchedulerCall) (id : String), (submittedIds calls).Nodup ->
      ((calls.foldl (step hash) (initial manager pool limit)).cancelTask id).1 = true ->
      ∀ later, (submittedIds (calls ++ later)).Nodup ->
        let now := later.foldl (step hash)
          ((calls.foldl (step hash) (initial manager pool limit)).cancelTask id).2
        now.statusOf id = some .cancelled ∧ id ∉ ids now .running := by
  intro final
  have kept := (final (fun _ => 0) singleDevice none 1 dispatchedRun "a" (by decide)
    (by with_unfolding_all rfl) [.markCompleted "a"] (by decide)).1
  have overwritten : (some TaskStatus.completed) = some TaskStatus.cancelled := by
    with_unfolding_all exact kept
  cases overwritten

end TaskScheduler

end Core
end ZepGpu
