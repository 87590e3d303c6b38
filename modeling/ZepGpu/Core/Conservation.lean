import ZepGpu.Core.SchedulerSteps

namespace ZepGpu
namespace Core

open Foundation Dict List

/-!
# No task is lost or doubled

A task is in one of four containers.  Every operation moves it from one to
another and leaves the others in place, and the counters follow.  Only a pass
that an exception ends takes a task out without putting it anywhere.
-/

/-- The collections of the scheduler that a task can be in. -/
inductive Container
  | pending
  | running
  | completed
  | failed

namespace Container

def ids (s : TaskScheduler) : Container -> List String
  | .pending => s.pendingQueue.map PriorityTaskItem.taskId
  | .running => s.runningTasks.keys
  | .completed => s.completedTasks.keys
  | .failed => s.failedTasks.keys

def counter (s : TaskScheduler) : Container -> Int
  | .pending => s.stats.pendingTasks
  | .running => s.stats.runningTasks
  | .completed => s.stats.completedTasks
  | .failed => s.stats.failedTasks

end Container

namespace TaskScheduler

open Container

variable {hash : String -> Int} {s after : TaskScheduler} {id : String}

def allIds (s : TaskScheduler) : List String :=
  ids s .pending ++ ids s .running ++ ids s .completed ++ ids s .failed

def acceptedBy (s : TaskScheduler) : SchedulerCall -> List String
  | .submit task => if s.checkUserQuota task.userId then [task.taskId] else []
  | _ => []

def acceptedIds (hash : String -> Int) : TaskScheduler -> List SchedulerCall -> List String
  | _, [] => []
  | s, call :: rest => s.acceptedBy call ++ acceptedIds hash (s.step hash call) rest

def submittedIds (calls : List SchedulerCall) : List String :=
  calls.flatMap fun
    | .submit task => [task.taskId]
    | _ => []

/-! ## Containers -/

theorem perm_keys_set {d : Dict String Task} {task : Task} (fresh : id ∉ d.keys) :
    (d.set id task).keys.Perm (id :: d.keys) := by
  rw [keys_set_of_not_mem fresh]
  exact perm_append_singleton id d.keys

theorem alone (distinct : (allIds s).Nodup) {here there : Container} (member : id ∈ ids s here)
    (differ : here ≠ there) : id ∉ ids s there := by
  have once := nodup_iff_count_le_one.mp distinct id
  have found := count_pos_iff.mpr member
  rw [← count_eq_zero]
  simp only [allIds, count_append] at once
  cases here <;> cases there <;> first | exact absurd rfl differ | omega

theorem mem_of_popped {item : PriorityTaskItem} {rest : List PriorityTaskItem}
    (popped : s.pendingQueue.Perm (item :: rest)) : item.taskId ∈ ids s .pending :=
  (popped.map PriorityTaskItem.taskId).mem_iff.mpr (mem_cons_self ..)

theorem turned_next_ids (distinct : (allIds s).Nodup) (turned : Turned s .next after) :
    (allIds after).Perm (allIds s) := by
  cases turned with
  | dispatched item rest task manager pool popped same =>
    have taken := popped.map PriorityTaskItem.taskId
    have fresh : task.taskId ∉ s.runningTasks.keys := by
      rw [same]
      exact @alone _ _ distinct .pending .running (mem_of_popped popped) (by rintro ⟨⟩)
    have added := @perm_keys_set _ _ task fresh
    apply perm_iff_count.mpr
    intro other
    have left := taken.count_eq other
    have right := added.count_eq other
    simp only [allIds, ids, count_append, map_cons, count_cons, same] at left right ⊢
    omega

theorem turned_stop_ids (turned : Turned s .stop after) : (allIds after).Perm (allIds s) := by
  cases turned with
  | idle => exact List.Perm.refl _
  | returned queue pool kept =>
    exact (((kept.map PriorityTaskItem.taskId).append_right _).append_right _).append_right _

theorem turned_raised_ids {error : String} (turned : Turned s (.raised error) after) :
    ∃ lost, lost ∈ ids s .pending ∧ (allIds s).Perm (lost :: allIds after) := by
  cases turned with
  | raised item rest error pool popped =>
    refine ⟨item.taskId, mem_of_popped popped, ?_⟩
    exact (((popped.map PriorityTaskItem.taskId).append_right _).append_right _).append_right _

theorem turned_next_pending (turned : Turned s .next after) :
    ids after .pending ⊆ ids s .pending := by
  cases turned with
  | dispatched item rest task manager pool popped same =>
    intro other member
    apply (popped.map PriorityTaskItem.taskId).mem_iff.mpr
    exact mem_cons_of_mem _ member

/-- A pass either keeps all tasks, or an exception ends it and one task that was
pending is in no container any more. -/
inductive PassOutcome (before : TaskScheduler) : Option String -> TaskScheduler -> Prop
  | kept (after : TaskScheduler) (perm : (allIds after).Perm (allIds before)) :
      PassOutcome before none after
  | lost (after : TaskScheduler) (error id : String) (member : id ∈ ids before .pending)
      (perm : (allIds before).Perm (id :: allIds after)) : PassOutcome before (some error) after

theorem schedule_outcome (distinct : (allIds s).Nodup) (faults : Nat -> Option PoolFault) :
    PassOutcome s (s.schedulePendingTasks hash faults).1 (s.schedulePendingTasks hash faults).2 := by
  unfold schedulePendingTasks
  dsimp only
  split
  · exact .kept s (List.Perm.refl _)
  · refine @scheduleTurns_ends hash
      (fun _ now => (allIds now).Perm (allIds s) ∧ ids now .pending ⊆ ids s .pending)
      (PassOutcome s) ?_ ?_ ?_ _ faults s ⟨List.Perm.refl _, List.Subset.refl _⟩
    · rintro turns now after ⟨perm, within⟩ turned
      refine ⟨(turned_next_ids (perm.nodup_iff.mpr distinct) turned).trans perm, ?_⟩
      exact List.Subset.trans (turned_next_pending turned) within
    · rintro turns now after ⟨perm, -⟩ turned
      exact .kept after ((turned_stop_ids turned).trans perm)
    · rintro turns now after error ⟨perm, within⟩ turned
      rcases turned_raised_ids turned with ⟨id, member, taken⟩
      exact .lost after error id (within member) (perm.symm.trans taken)

theorem ended_ids (distinct : (allIds s).Nodup) (ended : Ended s id after) :
    (allIds after).Perm (allIds s) := by
  cases ended with
  | completed task ended manager pool found =>
    have member := mem_keys_of_get? found
    have taken := perm_keys_erase member
    have added := @perm_keys_set _ s.completedTasks ended
      (@alone _ _ distinct .running .completed member (by rintro ⟨⟩))
    apply perm_iff_count.mpr
    intro other
    have left := taken.count_eq other
    have right := added.count_eq other
    simp only [allIds, ids, count_append, count_cons] at left right ⊢
    omega
  | failed task ended manager pool found =>
    have member := mem_keys_of_get? found
    have taken := perm_keys_erase member
    have added := @perm_keys_set _ s.failedTasks ended
      (@alone _ _ distinct .running .failed member (by rintro ⟨⟩))
    apply perm_iff_count.mpr
    intro other
    have left := taken.count_eq other
    have right := added.count_eq other
    simp only [allIds, ids, count_append, count_cons] at left right ⊢
    omega
  | unknown => exact List.Perm.refl _

theorem cancelled_ids {done : Bool} (distinct : (allIds s).Nodup)
    (cancelled : Cancelled s id done after) : (allIds after).Perm (allIds s) := by
  cases cancelled with
  | waiting item rest queue same perm kept =>
    have taken := (perm.trans (kept.symm.cons item)).map PriorityTaskItem.taskId
    have added := @perm_keys_set _ s.failedTasks { item.task with status := .cancelled }
      (@alone _ _ distinct .pending .failed (same ▸ mem_of_popped perm) (by rintro ⟨⟩))
    apply perm_iff_count.mpr
    intro other
    have left := taken.count_eq other
    have right := added.count_eq other
    simp only [allIds, ids, count_append, map_cons, count_cons, same] at left right ⊢
    omega
  | released task freed manager pool missing found status =>
    have same : (s.runningTasks.set id freed).keys = s.runningTasks.keys :=
      keys_set_of_mem (mem_keys_of_get? found)
    simp only [allIds, ids, same]
    exact List.Perm.refl _
  | unknown => exact List.Perm.refl _

theorem length_keys_set {d : Dict String Task} {task : Task} (fresh : id ∉ d.keys) :
    (d.set id task).keys.length = d.keys.length + 1 :=
  perm_keys_set fresh |>.length_eq

/-! ## Counters and slots -/

/-- Every counter is the size of its collection. -/
def Counted (s : TaskScheduler) : Prop :=
  ∀ c : Container, c.counter s = (c.ids s).length

/-- The limit stays, and one below zero lets nothing run. -/
def WithinSlots (limit : Int) (s : TaskScheduler) : Prop :=
  s.maxConcurrentTasks = limit ∧ (s.runningTasks.keys.length : Int) ≤ max limit 0

theorem turned_next_counted (distinct : (allIds s).Nodup) (counted : Counted s)
    (turned : Turned s .next after) : Counted after := by
  cases turned with
  | dispatched item rest task manager pool popped same =>
    have fresh : task.taskId ∉ s.runningTasks.keys := by
      rw [same]
      exact @alone _ _ distinct .pending .running (mem_of_popped popped) (by rintro ⟨⟩)
    have taken := popped.length_eq
    have added := @length_keys_set _ _ task fresh
    have pending := counted .pending
    have running := counted .running
    rw [length_cons] at taken
    intro c
    cases c with
    | pending =>
      simp only [counter, ids, length_map] at pending ⊢
      omega
    | running =>
      simp only [counter, ids] at running ⊢
      omega
    | completed => exact counted .completed
    | failed => exact counted .failed

theorem turned_stop_counted (counted : Counted s) (turned : Turned s .stop after) :
    Counted after := by
  cases turned with
  | idle => exact counted
  | returned queue pool kept =>
    have pending := counted .pending
    have same := kept.length_eq
    intro c
    cases c with
    | pending =>
      simp only [counter, ids, length_map] at pending ⊢
      omega
    | running => exact counted .running
    | completed => exact counted .completed
    | failed => exact counted .failed

theorem ended_counted (distinct : (allIds s).Nodup) (counted : Counted s)
    (ended : Ended s id after) : Counted after := by
  cases ended with
  | completed task ended manager pool found =>
    have member := mem_keys_of_get? found
    have taken := length_keys_erase member
    have added := @length_keys_set _ s.completedTasks ended
      (@alone _ _ distinct .running .completed member (by rintro ⟨⟩))
    have running := counted .running
    have completed := counted .completed
    intro c
    cases c with
    | pending => exact counted .pending
    | running =>
      simp only [counter, ids] at running ⊢
      omega
    | completed =>
      simp only [counter, ids] at completed ⊢
      omega
    | failed => exact counted .failed
  | failed task ended manager pool found =>
    have member := mem_keys_of_get? found
    have taken := length_keys_erase member
    have added := @length_keys_set _ s.failedTasks ended
      (@alone _ _ distinct .running .failed member (by rintro ⟨⟩))
    have running := counted .running
    have failed := counted .failed
    intro c
    cases c with
    | pending => exact counted .pending
    | running =>
      simp only [counter, ids] at running ⊢
      omega
    | completed => exact counted .completed
    | failed =>
      simp only [counter, ids] at failed ⊢
      omega
  | unknown => exact counted

theorem cancelled_counted {done : Bool} (distinct : (allIds s).Nodup) (counted : Counted s)
    (cancelled : Cancelled s id done after) : Counted after := by
  cases cancelled with
  | waiting item rest queue same perm kept =>
    have taken := (perm.trans (kept.symm.cons item)).length_eq
    have fresh : id ∉ s.failedTasks.keys :=
      @alone _ _ distinct .pending .failed (same ▸ mem_of_popped perm) (by rintro ⟨⟩)
    have pending := counted .pending
    have failed := counted .failed
    rw [length_cons] at taken
    intro c
    cases c with
    | pending =>
      simp only [counter, ids, length_map] at pending ⊢
      omega
    | running => exact counted .running
    | completed => exact counted .completed
    | failed =>
      simp only [counter, ids, length_keys_set fresh] at failed ⊢
      omega
  | released task freed manager pool missing found status =>
    have same : (s.runningTasks.set id freed).keys = s.runningTasks.keys :=
      keys_set_of_mem (mem_keys_of_get? found)
    intro c
    cases c with
    | running =>
      simp only [ids, same]
      exact counted .running
    | pending => exact counted .pending
    | completed => exact counted .completed
    | failed => exact counted .failed
  | unknown => exact counted

theorem length_set_le {d : Dict String Task} {task : Task} :
    (d.set id task).keys.length ≤ d.keys.length + 1 := by
  by_cases member : id ∈ d.keys
  · rw [keys_set_of_mem member]
    exact Nat.le_succ _
  · rw [keys_set_of_not_mem member]
    exact Nat.le_of_eq (length_append ..)

theorem length_erase_le {d : Dict String Task} : (d.erase id).keys.length ≤ d.keys.length :=
  length_keys_filter_le

variable {accepted : List String} {limit : Int}

theorem schedule_withinSlots (within : WithinSlots limit s) (faults : Nat -> Option PoolFault) :
    WithinSlots limit (s.schedulePendingTasks hash faults).2 := by
  have same := within.1
  unfold schedulePendingTasks
  dsimp only
  split
  · exact within
  · next free =>
      refine @scheduleTurns_ends hash
        (fun turns now => now.maxConcurrentTasks = limit ∧
          (now.runningTasks.keys.length : Int) + turns ≤ limit)
        (fun _ now => WithinSlots limit now) ?_ ?_ ?_ _ faults s ⟨same, by omega⟩
      · rintro turns now after ⟨limited, room⟩ turned
        cases turned with
        | dispatched item rest task manager pool popped same =>
          refine ⟨limited, ?_⟩
          have := @length_set_le task.taskId now.runningTasks task
          dsimp only
          omega
      · rintro turns now after ⟨limited, room⟩ turned
        cases turned with
        | idle => exact ⟨limited, by omega⟩
        | returned queue pool kept => exact ⟨limited, by dsimp only; omega⟩
      · rintro turns now after error ⟨limited, room⟩ turned
        cases turned with
        | raised item rest error pool popped => exact ⟨limited, by dsimp only; omega⟩

theorem schedule_counted (distinct : (allIds s).Nodup) (counted : Counted s)
    {faults : Nat -> Option PoolFault} (done : (s.schedulePendingTasks hash faults).1 = none) :
    Counted (s.schedulePendingTasks hash faults).2 ∧
      (s.schedulePendingTasks hash faults).2.stats.totalTasks = s.stats.totalTasks := by
  revert done
  unfold schedulePendingTasks
  dsimp only
  split
  · exact fun _ => ⟨counted, rfl⟩
  · refine @scheduleTurns_ends hash
      (fun _ now => (allIds now).Nodup ∧ Counted now ∧ now.stats.totalTasks = s.stats.totalTasks)
      (fun outcome now => outcome = none ->
        Counted now ∧ now.stats.totalTasks = s.stats.totalTasks)
      ?_ ?_ ?_ _ faults s ⟨distinct, counted, rfl⟩
    · rintro turns now after ⟨distinct, counted, total⟩ turned
      refine ⟨(turned_next_ids distinct turned).nodup_iff.mpr distinct,
        turned_next_counted distinct counted turned, ?_⟩
      cases turned with
      | dispatched item rest task manager pool popped same => exact total
    · rintro turns now after ⟨distinct, counted, total⟩ turned -
      refine ⟨turned_stop_counted counted turned, ?_⟩
      cases turned with
      | idle => exact total
      | returned queue pool kept => exact total
    · rintro turns now after error _ turned ⟨⟩

/-! ## Runs -/

theorem refreshRemoteGpus_spec (s : TaskScheduler) (remoteGpus : List RegistryEntry) :
    ∃ pool, s.refreshRemoteGpus remoteGpus = { s with gpuPool := pool } := by
  unfold refreshRemoteGpus
  split
  · exact ⟨s.gpuPool, rfl⟩
  · split
    · exact ⟨s.gpuPool, rfl⟩
    · exact ⟨_, rfl⟩

theorem redisChanges_spec (s : TaskScheduler) (redis : Redis) :
    ∃ pool, s.redisChanges redis = { s with gpuPool := pool } := by
  unfold redisChanges
  split
  · exact ⟨_, rfl⟩
  · exact ⟨s.gpuPool, rfl⟩

theorem markTaskRunning_keys (s : TaskScheduler) (id : String) :
    ∃ running, running.keys = s.runningTasks.keys ∧
      s.markTaskRunning id = { s with runningTasks := running } := by
  unfold markTaskRunning
  split
  · exact ⟨s.runningTasks, rfl, rfl⟩
  · next task found =>
      exact ⟨_, keys_set_of_mem (mem_keys_of_get? found), rfl⟩

/-- The call is no pass that raises. -/
def Unfailing (hash : String -> Int) (s : TaskScheduler) : SchedulerCall -> Prop
  | .schedule faults => (s.schedulePendingTasks hash faults).1 = none
  | _ => True

/-- The accepted tasks are in the containers, each once, and the counters count
them. -/
structure Conserved (limit : Int) (accepted : List String) (s : TaskScheduler) : Prop where
  ids : (allIds s).Perm accepted
  counted : Counted s
  total : s.stats.totalTasks = accepted.length
  slots : WithinSlots limit s

theorem conserved_submit (conserved : Conserved limit accepted s) (task : Task) :
    Conserved limit (s.acceptedBy (.submit task) ++ accepted) (s.step hash (.submit task)) := by
  unfold acceptedBy step submitTask
  by_cases allowed : s.checkUserQuota task.userId = true
  · simp only [allowed, if_true]
    have pushed := @Heap.push_perm _ s.pendingQueue
      (PriorityTaskItem.ofTask { task with status := .queued }) PriorityTaskItem.before
    have length := pushed.length_eq
    refine ⟨?_, ?_, ?_, conserved.slots⟩
    · have added := pushed.map PriorityTaskItem.taskId
      exact (((added.append_right _).append_right _).append_right _).trans
        (conserved.ids.cons task.taskId)
    · have pending := conserved.counted .pending
      rw [length_cons] at length
      intro c
      cases c with
      | pending =>
        simp only [counter, ids, length_map] at pending ⊢
        omega
      | running => exact conserved.counted .running
      | completed => exact conserved.counted .completed
      | failed => exact conserved.counted .failed
    · have total := conserved.total
      simp only [length_append, length_singleton]
      omega
  · simp only [allowed]
    exact conserved

theorem conserved_ended (distinct : accepted.Nodup) (conserved : Conserved limit accepted s)
    (ended : Ended s id after) : Conserved limit accepted after := by
  have once : (allIds s).Nodup := conserved.ids.nodup_iff.mpr distinct
  refine ⟨(ended_ids once ended).trans conserved.ids, ended_counted once conserved.counted ended,
    ?_, ?_⟩
  · cases ended <;> exact conserved.total
  · have fewer := @length_erase_le id s.runningTasks
    have slots := conserved.slots
    rcases slots with ⟨limited, room⟩
    cases ended with
    | completed task ended manager pool found => exact ⟨limited, by dsimp only; omega⟩
    | failed task ended manager pool found => exact ⟨limited, by dsimp only; omega⟩
    | unknown => exact ⟨limited, room⟩

theorem conserved_cancelled {done : Bool} (distinct : accepted.Nodup)
    (conserved : Conserved limit accepted s) (cancelled : Cancelled s id done after) :
    Conserved limit accepted after := by
  have once : (allIds s).Nodup := conserved.ids.nodup_iff.mpr distinct
  refine ⟨(cancelled_ids once cancelled).trans conserved.ids,
    cancelled_counted once conserved.counted cancelled, ?_, ?_⟩
  · cases cancelled <;> exact conserved.total
  · cases cancelled with
    | waiting item rest queue same taken kept => exact conserved.slots
    | released task freed manager pool missing found cancelled =>
      have same : (s.runningTasks.set id freed).keys = s.runningTasks.keys :=
        keys_set_of_mem (mem_keys_of_get? found)
      simp only [WithinSlots, same]
      exact conserved.slots
    | unknown => exact conserved.slots

theorem conserved_step (distinct : accepted.Nodup) (conserved : Conserved limit accepted s)
    {call : SchedulerCall} (unfailing : Unfailing hash s call) :
    Conserved limit (s.acceptedBy call ++ accepted) (s.step hash call) := by
  have once : (allIds s).Nodup := conserved.ids.nodup_iff.mpr distinct
  cases call with
  | submit task => exact conserved_submit conserved task
  | schedule faults =>
    rcases schedule_counted once conserved.counted unfailing with ⟨counted, total⟩
    refine ⟨?_, counted, total.trans conserved.total, schedule_withinSlots conserved.slots faults⟩
    have outcome := @schedule_outcome hash s once faults
    rw [show (s.schedulePendingTasks hash faults).1 = none from unfailing] at outcome
    cases outcome with
    | kept _ perm => exact perm.trans conserved.ids
  | cancel id =>
    exact conserved_cancelled distinct conserved (s.cancelTask_cancelled id)
  | markRunning id =>
    rcases s.markTaskRunning_keys id with ⟨running, same, equal⟩
    simp only [step, equal, acceptedBy]
    refine ⟨?_, ?_, conserved.total, ?_⟩
    · rw [nil_append]
      simpa only [allIds, ids, same] using conserved.ids
    · intro c
      have counted := conserved.counted c
      cases c <;> simpa only [counter, ids, same] using counted
    · simpa only [WithinSlots, same] using conserved.slots
  | markCompleted id =>
    have ended := s.markTaskCompleted_ended id
    exact conserved_ended distinct conserved ended
  | markFailed id error traceback =>
    have ended := s.markTaskFailed_ended id error traceback
    exact conserved_ended distinct conserved ended
  | setQuota user quota => exact ⟨conserved.ids, conserved.counted, conserved.total, conserved.slots⟩
  | refresh remoteGpus =>
    rcases s.refreshRemoteGpus_spec remoteGpus with ⟨pool, equal⟩
    simp only [step, equal]
    exact ⟨conserved.ids, conserved.counted, conserved.total, conserved.slots⟩
  | redis redis =>
    rcases s.redisChanges_spec redis with ⟨pool, equal⟩
    simp only [step, equal]
    exact ⟨conserved.ids, conserved.counted, conserved.total, conserved.slots⟩

theorem acceptedIds_sublist (s : TaskScheduler) (calls : List SchedulerCall) :
    (acceptedIds hash s calls).Sublist (submittedIds calls) := by
  induction calls generalizing s with
  | nil => exact List.Sublist.refl _
  | cons call rest ih =>
    unfold acceptedIds submittedIds
    rw [flatMap_cons]
    refine List.Sublist.append ?_ (ih _)
    cases call <;> simp only [acceptedBy] <;> try exact nil_sublist _
    split
    · exact List.Sublist.refl _
    · exact nil_sublist _

theorem conserved_run {calls : List SchedulerCall} (conserved : Conserved limit accepted s)
    (distinct : (accepted ++ acceptedIds hash s calls).Nodup)
    (unfailing : Meets (step hash) (Unfailing hash) s calls) :
    Conserved limit (accepted ++ acceptedIds hash s calls) (calls.foldl (step hash) s) := by
  induction calls generalizing s accepted with
  | nil => simpa [acceptedIds] using conserved
  | cons call rest ih =>
    have now : accepted.Nodup := (nodup_append.mp distinct).1
    have next := conserved_step now conserved unfailing.1
    have regroup : (s.acceptedBy call ++ accepted ++ acceptedIds hash (s.step hash call) rest).Perm
        (accepted ++ acceptedIds hash s (call :: rest)) := by
      rw [acceptedIds, ← append_assoc]
      exact perm_append_comm.append_right _
    have later := ih next (regroup.nodup_iff.mpr distinct) unfailing.2
    exact ⟨later.ids.trans regroup, later.counted, later.total.trans (by rw [regroup.length_eq]),
      later.slots⟩

theorem conserved_initial (manager : GPUManager) (pool : Option GpuPool) (limit : Int) :
    Conserved limit [] (initial manager pool limit) := by
  refine ⟨List.Perm.refl _, ?_, rfl, ?_⟩
  · intro c
    cases c <;> rfl
  · exact ⟨rfl, le_max_right limit 0⟩

/-- In every run of calls whose passes raise nothing, every accepted task is in
exactly one container and there once, the counters are the sizes of the
containers and add up, and no more tasks run than the limit allows. -/
theorem tasks_conserved (hash : String -> Int) (manager : GPUManager) (pool : Option GpuPool)
    (limit : Int) (calls : List SchedulerCall) (distinct : (submittedIds calls).Nodup)
    (unfailing : Meets (step hash) (Unfailing hash) (initial manager pool limit) calls) :
    let s := calls.foldl (step hash) (initial manager pool limit)
    (∀ id, id ∈ acceptedIds hash (initial manager pool limit) calls ->
      ∃ c : Container, (c.ids s).count id = 1 ∧
        ∀ other : Container, other ≠ c -> id ∉ other.ids s) ∧
      (∀ c : Container, c.counter s = (c.ids s).length) ∧
      s.stats.pendingTasks + s.stats.runningTasks + s.stats.completedTasks + s.stats.failedTasks =
        s.stats.totalTasks ∧
      (s.runningTasks.keys.length : Int) ≤ max limit 0 := by
  intro s
  have once : (acceptedIds hash (initial manager pool limit) calls).Nodup :=
    (acceptedIds_sublist _ calls).nodup distinct
  have conserved : Conserved limit (acceptedIds hash (initial manager pool limit) calls) s :=
    conserved_run (conserved_initial manager pool limit) once unfailing
  have single : (allIds s).Nodup := conserved.ids.nodup_iff.mpr once
  refine ⟨?_, conserved.counted, ?_, conserved.slots.2⟩
  · intro id member
    have somewhere : ∃ c : Container, id ∈ c.ids s := by
      have present := conserved.ids.mem_iff.mpr member
      simp only [allIds, mem_append] at present
      rcases present with ((pending | running) | completed) | failed
      · exact ⟨.pending, pending⟩
      · exact ⟨.running, running⟩
      · exact ⟨.completed, completed⟩
      · exact ⟨.failed, failed⟩
    rcases somewhere with ⟨c, member⟩
    refine ⟨c, ?_, fun other differ => alone single member differ.symm⟩
    have most := nodup_iff_count_le_one.mp single id
    have least := count_pos_iff.mpr member
    simp only [allIds, count_append] at most
    cases c <;> omega
  · have pending := conserved.counted .pending
    have running := conserved.counted .running
    have completed := conserved.counted .completed
    have failed := conserved.counted .failed
    have length := conserved.ids.length_eq
    have total := conserved.total
    simp only [counter, allIds, length_append] at pending running completed failed length total
    omega

def singleDevice : GPUManager where
  devices := Dict.empty.set 0 ⟨0, .nvidia, 4096, .idle, none⟩
  keyed := by
    intro id device found
    by_cases same : id = 0
    · subst same
      rw [get?_set_self] at found
      rw [← Option.some.inj found]
    · rw [get?_set_of_ne same] at found
      cases found

def oneTaskRun : List SchedulerCall :=
  [.submit { taskId := "a", createdAt := 0 }, .schedule (fun _ => none), .markRunning "a",
    .markCompleted "a"]

/-- The sums after one task has been submitted, run and completed. -/
theorem tasks_conserved_oneTaskRun :
    Counted (oneTaskRun.foldl (step fun _ => 0) (initial singleDevice none 1)) :=
  (tasks_conserved (fun _ => 0) singleDevice none 1 oneTaskRun (by decide)
    ⟨trivial, by with_unfolding_all rfl, trivial, trivial, trivial⟩).2.1

/-- With a limit below zero even no running task is one too many. -/
theorem running_exceeds_negative_limit :
    ¬ ∀ (hash : String -> Int) (manager : GPUManager) (pool : Option GpuPool) (limit : Int)
      (calls : List SchedulerCall), (submittedIds calls).Nodup ->
      Meets (step hash) (Unfailing hash) (initial manager pool limit) calls ->
      (((calls.foldl (step hash) (initial manager pool limit)).runningTasks.keys.length : Nat) : Int) ≤
        limit := by
  intro bounded
  have empty := bounded (fun _ => 0) singleDevice none (-1) [] nodup_nil trivial
  have zero : (0 : Int) ≤ -1 := empty
  omega

end TaskScheduler

end Core
end ZepGpu
