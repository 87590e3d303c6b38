import ZepGpu.Core.GpuPool
import ZepGpu.Foundation.Heap
import Mathlib.Data.Rat.Defs
import Mathlib.Algebra.Order.Ring.Rat

namespace ZepGpu
namespace Core

open Foundation

/-!
# The task scheduler

A task waits in a heap, is dispatched to a device, and ends completed or failed.
The scheduler counts the tasks as it moves them.  A dispatched task records its
device in its own fields and the device records the task, and for a remote
share the lock records it too.
-/

inductive TaskStatus
  | pending
  | queued
  | scheduled
  | assigned
  | running
  | completed
  | failed
  | cancelled
  | timeout
  deriving DecidableEq

inductive TaskPriority
  | low
  | normal
  | high
  | urgent
  | critical

def TaskPriority.value : TaskPriority -> Int
  | .low => 1
  | .normal => 2
  | .high => 3
  | .urgent => 4
  | .critical => 5

structure TaskResources where
  gpuMemoryMb : Int := 1024
  gpuType : Option String := none
  allowFallbackCpu : Bool := true

structure Task where
  taskId : String
  userId : Option String := none
  priority : TaskPriority := .normal
  createdAt : Rat
  resources : TaskResources := {}
  status : TaskStatus := .pending
  error : Option String := none
  traceback : Option String := none
  gpuDeviceId : Option Int := none
  remotePeerVpnIp : Option String := none
  remoteGpuShareId : Option String := none
  roomId : Option String := none

/-- Timestamps are exact numbers here. -/
structure PriorityTaskItem where
  priority : Rat
  createdAt : Rat
  task : Task

namespace PriorityTaskItem

def taskId (item : PriorityTaskItem) : String := item.task.taskId

/-- Items compare as pairs of their priority and their time. -/
def before (first second : PriorityTaskItem) : Bool :=
  if first.priority == second.priority then decide (first.createdAt < second.createdAt)
  else decide (first.priority < second.priority)

def ofTask (task : Task) : PriorityTaskItem where
  priority := (6 - task.priority.value) * 1000000000 + task.createdAt
  createdAt := task.createdAt
  task := task

end PriorityTaskItem

/-- The counters that `get_stats` reports. -/
structure QueueStats where
  totalTasks : Int := 0
  pendingTasks : Int := 0
  runningTasks : Int := 0
  completedTasks : Int := 0
  failedTasks : Int := 0

structure UserQuota where
  maxTasks : Int := 100
  maxGpuHours : Rat := 24

/-- What is counted for a user; nothing reads it to refuse a task. -/
structure UserUsage where
  tasksSubmitted : Int := 0
  gpuSeconds : Rat := 0

/-- The queue, the tasks by their state, the devices and the counters. -/
structure TaskScheduler where
  gpuManager : GPUManager
  gpuPool : Option GpuPool
  maxConcurrentTasks : Int
  pendingQueue : List PriorityTaskItem
  runningTasks : Dict String Task
  completedTasks : Dict String Task
  failedTasks : Dict String Task
  userQuotas : String -> UserQuota
  userUsage : String -> UserUsage
  stats : QueueStats

namespace TaskScheduler

def initial (gpuManager : GPUManager) (gpuPool : Option GpuPool) (maxConcurrentTasks : Int) :
    TaskScheduler where
  gpuManager := gpuManager
  gpuPool := gpuPool
  maxConcurrentTasks := maxConcurrentTasks
  pendingQueue := []
  runningTasks := Dict.empty
  completedTasks := Dict.empty
  failedTasks := Dict.empty
  userQuotas := fun _ => {}
  userUsage := fun _ => {}
  stats := {}

def userKey (userId : Option String) : String :=
  match userId with
  | none => "default"
  | some user => if user = "" then "default" else user

def checkUserQuota (s : TaskScheduler) (userId : Option String) : Bool :=
  let usage := s.userUsage (userKey userId)
  let quota := s.userQuotas (userKey userId)
  decide (usage.tasksSubmitted < quota.maxTasks) &&
    decide (usage.gpuSeconds < quota.maxGpuHours * 3600)

def setUserQuota (s : TaskScheduler) (user : String) (quota : UserQuota) : TaskScheduler :=
  { s with userQuotas := Function.update s.userQuotas user quota }

def submitTask (s : TaskScheduler) (task : Task) : Except String (String × TaskScheduler) :=
  if s.checkUserQuota task.userId then
    let usage := s.userUsage (userKey task.userId)
    let item := PriorityTaskItem.ofTask { task with status := .queued }
    .ok (task.taskId, { s with
      pendingQueue := Heap.push PriorityTaskItem.before s.pendingQueue item
      stats := { s.stats with
        pendingTasks := s.stats.pendingTasks + 1
        totalTasks := s.stats.totalTasks + 1 }
      userUsage := Function.update s.userUsage (userKey task.userId)
        { usage with tasksSubmitted := usage.tasksSubmitted + 1 } })
  else .error "User has exceeded quota"

/-- The device for a task: what the pool or the manager offers, or else a
processor of the machine when the task accepts one. -/
def findDevice (manager : GPUManager) (pool : Option GpuPool) (task : Task) : Option Device :=
  let offered := match pool with
    | some pool =>
      pool.getAvailableDevice manager task.resources.gpuMemoryMb task.resources.gpuType task.roomId
        (present task.roomId)
    | none =>
      (manager.getAvailableDevice task.resources.gpuMemoryMb task.resources.gpuType).map .machine
  match offered with
  | some device => some device
  | none =>
    if task.resources.allowFallbackCpu then
      (manager.getAvailableDevice 0 (some "cpu")).map .machine
    else none

/-- How an attempt to place a task ends. -/
inductive Placement
  | raised (error : String) (pool : Option GpuPool)
  | refused (pool : Option GpuPool)
  | placed (task : Task) (manager : GPUManager) (pool : Option GpuPool)

/-- The answer of the manager is not looked at. -/
def placeOnMachine (manager : GPUManager) (pool : Option GpuPool) (task : Task)
    (device : GPUDevice) : Placement :=
  .placed { task with
    gpuDeviceId := some device.deviceId
    remotePeerVpnIp := none
    remoteGpuShareId := none
    status := .scheduled } (manager.allocateDevice device.deviceId task.taskId).2 pool

def placeOnRemote (hash : String -> Int) (fault : Option PoolFault) (manager : GPUManager)
    (pool : GpuPool) (task : Task) (device : RemoteGPUDevice) : Placement :=
  match pool.allocateDevice manager (device.deviceId hash) task.taskId true (some device.shareId)
    fault with
  | (.error error, _, pool) => .raised error (some pool)
  | (.ok false, _, pool) => .refused (some pool)
  | (.ok true, manager, pool) =>
    .placed { task with
      gpuDeviceId := some (device.deviceId hash)
      remotePeerVpnIp := some device.vpnIp
      remoteGpuShareId := some device.shareId
      status := .scheduled } manager (some pool)

/-- The pool can raise in its search, which runs before everything else. -/
def placeTask (hash : String -> Int) (fault : Option PoolFault) (manager : GPUManager)
    (pool : Option GpuPool) (task : Task) : Placement :=
  match pool, fault with
  | some pool, some (.search error) => .raised error (some pool)
  | pool, fault =>
    match findDevice manager pool task, pool with
    | none, pool => .refused pool
    | some (.machine device), pool => placeOnMachine manager pool task device
    | some (.remote device), some pool => placeOnRemote hash fault manager pool task device
    | some (.remote _), none => .refused none

/-- What the loop of a pass does after a turn. -/
inductive Turn
  | next
  | stop
  | raised (error : String)

def scheduleNext (hash : String -> Int) (fault : Option PoolFault) (s : TaskScheduler) :
    Turn × TaskScheduler :=
  match Heap.pop PriorityTaskItem.before s.pendingQueue with
  | none => (.stop, s)
  | some (item, rest) =>
    match placeTask hash fault s.gpuManager s.gpuPool item.task with
    | .raised error pool => (.raised error, { s with pendingQueue := rest, gpuPool := pool })
    | .refused pool =>
      (.stop, { s with
        pendingQueue := Heap.push PriorityTaskItem.before rest item
        gpuPool := pool })
    | .placed task manager pool =>
      (.next, { s with
        gpuManager := manager
        gpuPool := pool
        pendingQueue := rest
        runningTasks := s.runningTasks.set task.taskId task
        stats := { s.stats with
          pendingTasks := s.stats.pendingTasks - 1
          runningTasks := s.stats.runningTasks + 1 } })

/-- The loop of a pass, with the fault that each of its turns meets and the
exception that ends it. -/
def scheduleTurns (hash : String -> Int) :
    Nat -> (Nat -> Option PoolFault) -> TaskScheduler -> Option String × TaskScheduler
  | 0, _, s => (none, s)
  | turns + 1, faults, s =>
    match scheduleNext hash (faults 0) s with
    | (.next, s) => scheduleTurns hash turns (fun turn => faults (turn + 1)) s
    | (.stop, s) => (none, s)
    | (.raised error, s) => (some error, s)

/-- One pass.  `_schedule_loop` goes on with the state that an exception leaves. -/
def schedulePendingTasks (hash : String -> Int) (faults : Nat -> Option PoolFault)
    (s : TaskScheduler) : Option String × TaskScheduler :=
  let availableSlots := s.maxConcurrentTasks - s.runningTasks.keys.length
  if availableSlots ≤ 0 then (none, s)
  else scheduleTurns hash (min availableSlots.toNat s.pendingQueue.length) faults s

/-- The task and the scheduler after the task has given its device back. -/
def releaseGpuForTask (s : TaskScheduler) (task : Task) : Task × TaskScheduler :=
  match s.gpuPool, present task.remoteGpuShareId with
  | some pool, true =>
    let answer := pool.releaseDevice s.gpuManager (task.gpuDeviceId.getD 0) true
      task.remoteGpuShareId (some task.taskId)
    ({ task with remoteGpuShareId := none, remotePeerVpnIp := none, gpuDeviceId := none },
      { s with gpuManager := answer.1, gpuPool := some answer.2 })
  | _, _ =>
    match task.gpuDeviceId with
    | some device =>
      ({ task with gpuDeviceId := none },
        { s with gpuManager := s.gpuManager.releaseDevice device })
    | none => (task, s)

def markTaskRunning (s : TaskScheduler) (id : String) : TaskScheduler :=
  match s.runningTasks.get? id with
  | none => s
  | some task =>
    { s with runningTasks := s.runningTasks.set id { task with status := .running } }

def markTaskCompleted (s : TaskScheduler) (id : String) : TaskScheduler :=
  match s.runningTasks.get? id with
  | none => s
  | some task =>
    let answer := s.releaseGpuForTask { task with status := .completed }
    { answer.2 with
      runningTasks := s.runningTasks.erase id
      completedTasks := s.completedTasks.set id answer.1
      stats := { s.stats with
        runningTasks := s.stats.runningTasks - 1
        completedTasks := s.stats.completedTasks + 1 } }

def markTaskFailed (s : TaskScheduler) (id error : String) (traceback : Option String) :
    TaskScheduler :=
  match s.runningTasks.get? id with
  | none => s
  | some task =>
    let answer := s.releaseGpuForTask
      { task with status := .failed, error := some error, traceback := traceback }
    { answer.2 with
      runningTasks := s.runningTasks.erase id
      failedTasks := s.failedTasks.set id answer.1
      stats := { s.stats with
        runningTasks := s.stats.runningTasks - 1
        failedTasks := s.stats.failedTasks + 1 } }

def takeItem (id : String) : List PriorityTaskItem -> Option (PriorityTaskItem × List PriorityTaskItem)
  | [] => none
  | item :: rest =>
    if item.taskId = id then some (item, rest)
    else (takeItem id rest).map fun found => (found.1, item :: found.2)

/-- A running task that is cancelled stays among the running ones. -/
def cancelTask (s : TaskScheduler) (id : String) : Bool × TaskScheduler :=
  match takeItem id s.pendingQueue with
  | some (item, rest) =>
    (true, { s with
      pendingQueue := Heap.heapify PriorityTaskItem.before rest
      failedTasks := s.failedTasks.set id { item.task with status := .cancelled }
      stats := { s.stats with
        pendingTasks := s.stats.pendingTasks - 1
        failedTasks := s.stats.failedTasks + 1 } })
  | none =>
    match s.runningTasks.get? id with
    | some task =>
      let answer := s.releaseGpuForTask { task with status := .cancelled }
      (true, { answer.2 with runningTasks := s.runningTasks.set id answer.1 })
    | none => (false, s)

/-- `a or b` of the lookups. -/
def getTask (s : TaskScheduler) (id : String) : Option Task :=
  match takeItem id s.pendingQueue with
  | some (item, _) => some item.task
  | none =>
    (s.runningTasks.get? id).or ((s.completedTasks.get? id).or (s.failedTasks.get? id))

/-- The registry is read and the lock's Redis changes between the calls of the
scheduler's users. -/
def refreshRemoteGpus (s : TaskScheduler) (remoteGpus : List RegistryEntry) : TaskScheduler :=
  match s.gpuPool with
  | none => s
  | some pool =>
    match pool.refreshRemoteGpus remoteGpus with
    | .error _ => s
    | .ok pool => { s with gpuPool := some pool }

def redisChanges (s : TaskScheduler) (redis : Redis) : TaskScheduler :=
  match s.gpuPool with
  | some { remoteDevices := devices, remoteLock := some (some _) } =>
    { s with gpuPool := some { remoteDevices := devices, remoteLock := some (some redis) } }
  | _ => s

end TaskScheduler

/-- A call of the scheduler from outside. -/
inductive SchedulerCall
  | submit (task : Task)
  | schedule (faults : Nat -> Option PoolFault)
  | cancel (id : String)
  | markRunning (id : String)
  | markCompleted (id : String)
  | markFailed (id error : String) (traceback : Option String)
  | setQuota (user : String) (quota : UserQuota)
  | refresh (remoteGpus : List RegistryEntry)
  | redis (redis : Redis)

namespace TaskScheduler

def step (hash : String -> Int) (s : TaskScheduler) : SchedulerCall -> TaskScheduler
  | .submit task => match s.submitTask task with
      | .error _ => s
      | .ok (_, s) => s
  | .schedule faults => (s.schedulePendingTasks hash faults).2
  | .cancel id => (s.cancelTask id).2
  | .markRunning id => s.markTaskRunning id
  | .markCompleted id => s.markTaskCompleted id
  | .markFailed id error traceback => s.markTaskFailed id error traceback
  | .setQuota user quota => s.setUserQuota user quota
  | .refresh remoteGpus => s.refreshRemoteGpus remoteGpus
  | .redis redis => s.redisChanges redis

end TaskScheduler

end Core
end ZepGpu
