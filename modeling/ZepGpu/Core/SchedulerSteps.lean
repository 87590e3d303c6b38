import ZepGpu.Core.Scheduler

namespace ZepGpu
namespace Core

open Foundation

/-!
# What the operations of the scheduler can do

Each operation changes the containers, the devices and the counters.  The
lemmas here say what a turn of the pass, a release, a cancellation and a
notification each can do; the invariants of the scheduler are derived from them.
-/

namespace TaskScheduler

variable {hash : String -> Int} {fault : Option PoolFault} {manager : GPUManager}
  {pool : Option GpuPool} {task placed : Task} {s after : TaskScheduler} {id : String}

theorem placeTask_placed {newManager : GPUManager} {newPool : Option GpuPool}
    (done : placeTask hash fault manager pool task = .placed placed newManager newPool) :
    placed.taskId = task.taskId ∧ placed.status = .scheduled := by
  unfold placeTask at done
  split at done
  · cases done
  · split at done
    · cases done
    · cases done
      exact ⟨rfl, rfl⟩
    · unfold placeOnRemote at done
      split at done
      · cases done
      · cases done
      · cases done
        exact ⟨rfl, rfl⟩
    · cases done

/-- What one turn of the loop of a pass does, by the branch that it takes. -/
inductive Turned (s : TaskScheduler) : Turn -> TaskScheduler -> Prop
  | idle : Turned s .stop s
  | raised (item : PriorityTaskItem) (rest : List PriorityTaskItem) (error : String)
      (pool : Option GpuPool) (popped : s.pendingQueue.Perm (item :: rest)) :
      Turned s (.raised error) { s with pendingQueue := rest, gpuPool := pool }
  | returned (queue : List PriorityTaskItem) (pool : Option GpuPool)
      (kept : queue.Perm s.pendingQueue) :
      Turned s .stop { s with pendingQueue := queue, gpuPool := pool }
  | dispatched (item : PriorityTaskItem) (rest : List PriorityTaskItem) (task : Task)
      (manager : GPUManager) (pool : Option GpuPool)
      (popped : s.pendingQueue.Perm (item :: rest)) (same : task.taskId = item.taskId) :
      Turned s .next { s with
        gpuManager := manager
        gpuPool := pool
        pendingQueue := rest
        runningTasks := s.runningTasks.set task.taskId task
        stats := { s.stats with
          pendingTasks := s.stats.pendingTasks - 1
          runningTasks := s.stats.runningTasks + 1 } }

theorem scheduleNext_turned (hash : String -> Int) (fault : Option PoolFault) (s : TaskScheduler) :
    Turned s (scheduleNext hash fault s).1 (scheduleNext hash fault s).2 := by
  unfold scheduleNext
  split
  · exact .idle
  · next item rest popped =>
      have taken := Heap.pop_perm popped
      split
      · next error pool _ => exact .raised item rest error pool taken
      · next pool _ => exact .returned _ pool (Heap.push_perm.trans taken.symm)
      · next placed manager pool done =>
          exact .dispatched item rest placed manager pool taken (placeTask_placed done).1

theorem scheduleTurns_ends {inside : Nat -> TaskScheduler -> Prop}
    {ended : Option String -> TaskScheduler -> Prop}
    (next : ∀ turns s after, inside (turns + 1) s -> Turned s .next after -> inside turns after)
    (stop : ∀ turns s after, inside turns s -> Turned s .stop after -> ended none after)
    (raised : ∀ turns s after error, inside turns s -> Turned s (.raised error) after ->
      ended (some error) after)
    (turns : Nat) (faults : Nat -> Option PoolFault) (s : TaskScheduler) (holds : inside turns s) :
    ended (scheduleTurns hash turns faults s).1 (scheduleTurns hash turns faults s).2 := by
  induction turns generalizing faults s with
  | zero => exact stop 0 s s holds .idle
  | succ turns ih =>
    have turned := scheduleNext_turned hash (faults 0) s
    unfold scheduleTurns
    split
    · next after equal =>
        rw [equal] at turned
        exact ih _ after (next turns s after holds turned)
    · next after equal =>
        rw [equal] at turned
        exact stop (turns + 1) s after holds turned
    · next error after equal =>
        rw [equal] at turned
        exact raised (turns + 1) s after error holds turned

theorem releaseGpuForTask_spec (s : TaskScheduler) (task : Task) :
    (s.releaseGpuForTask task).1.taskId = task.taskId ∧
      (s.releaseGpuForTask task).1.status = task.status ∧
      ∃ manager pool, (s.releaseGpuForTask task).2 =
        { s with gpuManager := manager, gpuPool := pool } := by
  unfold releaseGpuForTask
  split
  · exact ⟨rfl, rfl, _, _, rfl⟩
  · split
    · exact ⟨rfl, rfl, _, _, rfl⟩
    · exact ⟨rfl, rfl, _, _, rfl⟩

theorem takeItem_eq_some {queue rest : List PriorityTaskItem} {item : PriorityTaskItem}
    (taken : takeItem id queue = some (item, rest)) :
    item.taskId = id ∧ queue.Perm (item :: rest) := by
  induction queue generalizing rest with
  | nil => cases taken
  | cons head tail ih =>
    unfold takeItem at taken
    split at taken
    · next same =>
        cases taken
        exact ⟨same, List.Perm.refl _⟩
    · rcases Option.map_eq_some_iff.mp taken with ⟨⟨found, others⟩, inside, equal⟩
      cases equal
      rcases ih inside with ⟨same, perm⟩
      exact ⟨same, (perm.cons head).trans (List.Perm.swap ..)⟩

theorem takeItem_eq_none {queue : List PriorityTaskItem} (missing : takeItem id queue = none) :
    id ∉ queue.map PriorityTaskItem.taskId := by
  induction queue with
  | nil => exact List.not_mem_nil
  | cons head tail ih =>
    unfold takeItem at missing
    split at missing
    · cases missing
    · next different =>
        rw [Option.map_eq_none_iff] at missing
        rw [List.map_cons, List.mem_cons, not_or]
        exact ⟨fun same => different same.symm, ih missing⟩

/-- A cancellation takes the item out of the heap, or gives back the device of a
running task, or finds nothing. -/
inductive Cancelled (s : TaskScheduler) (id : String) : Bool -> TaskScheduler -> Prop
  | waiting (item : PriorityTaskItem) (rest queue : List PriorityTaskItem) (same : item.taskId = id)
      (taken : s.pendingQueue.Perm (item :: rest)) (kept : queue.Perm rest) :
      Cancelled s id true { s with
        pendingQueue := queue
        failedTasks := s.failedTasks.set id { item.task with status := .cancelled }
        stats := { s.stats with
          pendingTasks := s.stats.pendingTasks - 1
          failedTasks := s.stats.failedTasks + 1 } }
  | released (task freed : Task) (manager : GPUManager) (pool : Option GpuPool)
      (missing : id ∉ s.pendingQueue.map PriorityTaskItem.taskId)
      (found : s.runningTasks.get? id = some task) (cancelled : freed.status = .cancelled) :
      Cancelled s id true { s with
        gpuManager := manager
        gpuPool := pool
        runningTasks := s.runningTasks.set id freed }
  | unknown : Cancelled s id false s

theorem cancelTask_cancelled (s : TaskScheduler) (id : String) :
    Cancelled s id (s.cancelTask id).1 (s.cancelTask id).2 := by
  unfold cancelTask
  split
  · next item rest taken =>
      rcases takeItem_eq_some taken with ⟨same, perm⟩
      exact .waiting item rest _ same perm Heap.heapify_perm
  · next missing =>
      split
      · next task found =>
          rcases s.releaseGpuForTask_spec { task with status := .cancelled } with
            ⟨-, status, manager, pool, equal⟩
          dsimp only
          rw [equal]
          exact .released task _ manager pool (takeItem_eq_none missing) found status
      · exact .unknown

/-- A notification of the end of a running task moves the task to a map of ended
tasks; any other notification of an end does nothing. -/
inductive Ended (s : TaskScheduler) (id : String) : TaskScheduler -> Prop
  | completed (task ended : Task) (manager : GPUManager) (pool : Option GpuPool)
      (found : s.runningTasks.get? id = some task) :
      Ended s id { s with
        gpuManager := manager
        gpuPool := pool
        runningTasks := s.runningTasks.erase id
        completedTasks := s.completedTasks.set id ended
        stats := { s.stats with
          runningTasks := s.stats.runningTasks - 1
          completedTasks := s.stats.completedTasks + 1 } }
  | failed (task ended : Task) (manager : GPUManager) (pool : Option GpuPool)
      (found : s.runningTasks.get? id = some task) :
      Ended s id { s with
        gpuManager := manager
        gpuPool := pool
        runningTasks := s.runningTasks.erase id
        failedTasks := s.failedTasks.set id ended
        stats := { s.stats with
          runningTasks := s.stats.runningTasks - 1
          failedTasks := s.stats.failedTasks + 1 } }
  | unknown : Ended s id s

theorem markTaskCompleted_ended (s : TaskScheduler) (id : String) :
    Ended s id (s.markTaskCompleted id) := by
  unfold markTaskCompleted
  split
  · exact .unknown
  · next task found =>
      rcases s.releaseGpuForTask_spec { task with status := .completed } with
        ⟨-, -, manager, pool, equal⟩
      dsimp only
      rw [equal]
      exact .completed task _ manager pool found

theorem markTaskFailed_ended (s : TaskScheduler) (id error : String) (traceback : Option String) :
    Ended s id (s.markTaskFailed id error traceback) := by
  unfold markTaskFailed
  split
  · exact .unknown
  · next task found =>
      rcases s.releaseGpuForTask_spec
        { task with status := .failed, error := some error, traceback := traceback } with
        ⟨-, -, manager, pool, equal⟩
      dsimp only
      rw [equal]
      exact .failed task _ manager pool found

end TaskScheduler

end Core
end ZepGpu
