import ZepGpu.Core.Conservation

namespace ZepGpu
namespace Core

open Foundation List

/-!
# A pass that an exception ends

The loop that runs the passes swallows what a pass raises and goes on with the
scheduler as the pass left it.  A turn takes its task out of the heap before it
asks the pool for anything, so the task of the turn that raises is gone.
-/

namespace TaskScheduler

open Container

variable {hash : String -> Int} {s : TaskScheduler}

/-- What a pass must leave: every task that was pending is pending or running, and
whoever holds a device is running. -/
structure PassSafe (before after : TaskScheduler) : Prop where
  tasks : ∀ id, id ∈ ids before .pending -> id ∈ ids after .pending ∨ id ∈ ids after .running
  machine : ∀ number device holder, after.gpuManager.devices.get? number = some device ->
    device.currentTaskId = some holder -> holder ∈ ids after .running
  remote : ∀ pool share device holder, after.gpuPool = some pool ->
    pool.remoteDevices.devices.get? share = some device ->
    device.currentTaskId = some holder -> holder ∈ ids after .running

theorem PassOutcome.subperm {result : Option String} {after : TaskScheduler}
    (outcome : PassOutcome s result after) : (allIds after).Subperm (allIds s) := by
  cases outcome with
  | kept _ perm => exact perm.subperm
  | lost _ error id member perm =>
    exact (sublist_cons_self ..).subperm.trans perm.symm.subperm

theorem subperm_step (distinct : (allIds s).Nodup) (call : SchedulerCall) :
    (allIds (s.step hash call)).Subperm (s.acceptedBy call ++ allIds s) := by
  cases call with
  | submit task =>
    unfold acceptedBy step submitTask
    by_cases allowed : s.checkUserQuota task.userId = true
    · simp only [allowed, if_true]
      have pushed := @Heap.push_perm _ s.pendingQueue
        (PriorityTaskItem.ofTask { task with status := .queued }) PriorityTaskItem.before
      have added := pushed.map PriorityTaskItem.taskId
      exact (((added.append_right _).append_right _).append_right _).subperm
    · simp only [allowed]
      exact List.Subperm.refl _
  | schedule faults =>
    exact (schedule_outcome distinct faults).subperm
  | cancel id => exact (cancelled_ids distinct (s.cancelTask_cancelled id)).subperm
  | markRunning id =>
    rcases s.markTaskRunning_keys id with ⟨running, same, equal⟩
    simp only [step, equal, acceptedBy, allIds, ids, same]
    exact List.Subperm.refl _
  | markCompleted id => exact (ended_ids distinct (s.markTaskCompleted_ended id)).subperm
  | markFailed id error traceback =>
    exact (ended_ids distinct (s.markTaskFailed_ended id error traceback)).subperm
  | setQuota user quota => exact List.Subperm.refl _
  | refresh remoteGpus =>
    rcases s.refreshRemoteGpus_spec remoteGpus with ⟨pool, equal⟩
    simp only [step, equal]
    exact List.Subperm.refl _
  | redis redis =>
    rcases s.redisChanges_spec redis with ⟨pool, equal⟩
    simp only [step, equal]
    exact List.Subperm.refl _

theorem nodup_of_subperm {l all : List String} (within : l.Subperm all) (distinct : all.Nodup) :
    l.Nodup := by
  rcases within with ⟨same, perm, sublist⟩
  exact perm.nodup_iff.mp (sublist.nodup distinct)

theorem subperm_run {calls : List SchedulerCall} {accepted : List String}
    (within : (allIds s).Subperm accepted)
    (distinct : (accepted ++ acceptedIds hash s calls).Nodup) :
    (allIds (calls.foldl (step hash) s)).Subperm (accepted ++ acceptedIds hash s calls) := by
  induction calls generalizing s accepted with
  | nil => simpa [acceptedIds] using within
  | cons call rest ih =>
    have now : accepted.Nodup := (nodup_append.mp distinct).1
    have next := @subperm_step hash s (nodup_of_subperm within now) call
    have regroup : (s.acceptedBy call ++ accepted ++ acceptedIds hash (s.step hash call) rest).Perm
        (accepted ++ acceptedIds hash s (call :: rest)) := by
      rw [acceptedIds, ← append_assoc]
      exact perm_append_comm.append_right _
    have wider : (allIds (s.step hash call)).Subperm (s.acceptedBy call ++ accepted) :=
      next.trans ((subperm_append_left _).mpr within)
    exact (ih wider (regroup.nodup_iff.mpr distinct)).trans regroup.subperm

theorem nodup_run (manager : GPUManager) (pool : Option GpuPool) (limit : Int)
    {calls : List SchedulerCall} (distinct : (submittedIds calls).Nodup) :
    (allIds (calls.foldl (step hash) (initial manager pool limit))).Nodup := by
  have once : (acceptedIds hash (initial manager pool limit) calls).Nodup :=
    (acceptedIds_sublist _ calls).nodup distinct
  have first : (allIds (initial manager pool limit)).Subperm [] := List.Subperm.refl _
  exact nodup_of_subperm (subperm_run first once) once

/-- Whatever run came before, a pass that the pool ends by an exception loses a
task that was pending. -/
theorem failed_pass_loses_task (hash : String -> Int) (manager : GPUManager)
    (pool : Option GpuPool) (limit : Int) (calls : List SchedulerCall)
    (distinct : (submittedIds calls).Nodup) (faults : Nat -> Option PoolFault) (error : String)
    (raised : ((calls.foldl (step hash) (initial manager pool limit)).schedulePendingTasks hash
      faults).1 = some error) :
    let before := calls.foldl (step hash) (initial manager pool limit)
    let after := (before.schedulePendingTasks hash faults).2
    (∃ id, id ∈ ids before .pending ∧ id ∉ allIds after) ∧ ¬ PassSafe before after := by
  intro before after
  have single : (allIds before).Nodup := nodup_run manager pool limit distinct
  have outcome : PassOutcome before (some error) after := raised ▸ schedule_outcome single faults
  cases outcome with
  | lost _ _ id member perm =>
    have gone : id ∉ allIds after :=
      (nodup_cons.mp (perm.nodup_iff.mp single)).1
    refine ⟨⟨id, member, gone⟩, ?_⟩
    intro safe
    apply gone
    simp only [allIds, mem_append]
    rcases safe.tasks id member with pending | running
    · exact Or.inl (Or.inl (Or.inl pending))
    · exact Or.inl (Or.inl (Or.inr running))

def noDevice : GPUManager where
  devices := Dict.empty
  keyed := by
    intro id device found
    cases found

def listedShare : RegistryEntry where
  peerId := some "p"
  shareId := some "s"
  deviceIndex := some 0
  gpuType := some "nvidia"
  totalMemoryMb := some 8192
  availableMemoryMb := some 8192
  computeCapability := some "8.0"
  state := some "idle"
  currentTaskId := none
  utilizationPercent := none
  vpnIp := some "10.0.0.2"
  vpnNetworkId := some "n"

def lockedPool : GpuPool where
  remoteDevices := RemoteDevices.empty
  remoteLock := some (some ⟨0, fun _ => none⟩)

def remoteTaskRun : List SchedulerCall :=
  [.refresh [listedShare], .submit { taskId := "a", createdAt := 0 }]

def lockUnreachable : Nat -> Option PoolFault :=
  fun _ => some (.lock false "Connection refused")

theorem remoteTaskRun_raises :
    ((remoteTaskRun.foldl (step fun _ => 0) (initial noDevice (some lockedPool) 10)).schedulePendingTasks
      (fun _ => 0) lockUnreachable).1 = some "Connection refused" := by
  with_unfolding_all rfl

/-- Redis fails while a share is locked for the task. -/
theorem failed_pass_loses_task_remoteTaskRun :
    let before := remoteTaskRun.foldl (step fun _ => 0) (initial noDevice (some lockedPool) 10)
    ¬ PassSafe before (before.schedulePendingTasks (fun _ => 0) lockUnreachable).2 :=
  (failed_pass_loses_task (fun _ => 0) noDevice (some lockedPool) 10 remoteTaskRun (by decide)
    lockUnreachable "Connection refused" remoteTaskRun_raises).2

/-- A task that was in the queue before a failed pass is nowhere after it. -/
theorem failed_pass_unsafe :
    ¬ ∀ (hash : String -> Int) (manager : GPUManager) (pool : Option GpuPool) (limit : Int)
      (calls : List SchedulerCall), (submittedIds calls).Nodup ->
      ∀ (faults : Nat -> Option PoolFault) (error : String),
      ((calls.foldl (step hash) (initial manager pool limit)).schedulePendingTasks hash faults).1 =
        some error ->
      PassSafe (calls.foldl (step hash) (initial manager pool limit))
        ((calls.foldl (step hash) (initial manager pool limit)).schedulePendingTasks hash faults).2 := by
  intro safe
  have kept := (safe (fun _ => 0) noDevice (some lockedPool) 10 remoteTaskRun (by decide)
    lockUnreachable "Connection refused" remoteTaskRun_raises).tasks "a"
    (by with_unfolding_all exact mem_singleton.mpr rfl)
  have gone : "a" ∈ ([] : List String) ∨ "a" ∈ ([] : List String) := by
    with_unfolding_all exact kept
  simp at gone

end TaskScheduler

end Core
end ZepGpu
