import ZepGpu.Core.SchedulerSteps

namespace ZepGpu
namespace Core

open Foundation

/-!
# Who holds a device

A running task names the device that it holds: a device of the machine by its
number, or a remote one by its share.  For the machine the device's own record
says that it is taken.  For a share that record comes from the registry, which
may list a held share as idle, and then only the lock still says it.
-/

def shareState (pool : Option GpuPool) (share : String) : Option GPUState :=
  pool.bind fun pool => pool.remoteDevices.stateOf share

/-- The lock of a share, when the pool has a lock and the lock a Redis. -/
def lockOf (pool : Option GpuPool) (share : String) : Option (String × Nat) :=
  (pool.bind GpuPool.remoteLock).join.bind fun redis => redis.live (lockKey share)

namespace Task

def HoldsMachine (task : Task) (number : Int) : Prop :=
  present task.remoteGpuShareId = false ∧ task.gpuDeviceId = some number

def HoldsShare (task : Task) (share : String) : Prop :=
  task.remoteGpuShareId = some share ∧ share ≠ ""

variable {task : Task} {share other : String}

theorem HoldsShare.present (holds : task.HoldsShare share) :
    Core.present task.remoteGpuShareId = true := by
  rw [holds.1]
  simp [Core.present, holds.2]

theorem exists_holdsShare (share : Core.present task.remoteGpuShareId = true) :
    ∃ share, task.HoldsShare share := by
  cases named : task.remoteGpuShareId with
  | none =>
    rw [named] at share
    cases share
  | some name =>
    rw [named] at share
    exact ⟨name, named, by simpa [Core.present] using share⟩

theorem HoldsShare.unique (first : task.HoldsShare share) (second : task.HoldsShare other) :
    share = other :=
  Option.some.inj (first.1.symm.trans second.1)

end Task

namespace GpuPool

variable {pool : GpuPool} {share other task : String}

theorem lockKey_injective : Function.Injective lockKey :=
  fun _ _ same => (String.append_right_inj lockPrefix).mp same

theorem acquireLock_spec (pool : GpuPool) (share task : String) (fault : Option PoolFault) :
    (pool.acquireLock share task fault).2.remoteDevices = pool.remoteDevices ∧
      (∀ other, (lockOf (some pool) other).isSome = true ->
        (lockOf (some (pool.acquireLock share task fault).2) other).isSome = true) ∧
      ((pool.acquireLock share task fault).1 = .ok true -> lockOf (some pool) share = none) := by
  rcases pool with ⟨devices, lock⟩
  rcases lock with _ | _ | redis
  · exact ⟨rfl, fun _ held => held, fun _ => rfl⟩
  · refine ⟨?_, ?_, fun _ => rfl⟩
    · unfold acquireLock RemoteGpuLock.acquire
      rcases fault with _ | _ | ⟨_ | _, error⟩ <;> rfl
    · intro other held
      cases held
  · have command : RemoteGpuLock.acquire (some redis) share task 7200 =
        .ok ((redis.setIfAbsent (lockKey share) task 7200).1,
          some (redis.setIfAbsent (lockKey share) task 7200).2) := rfl
    have kept : ∀ other, (redis.live (lockKey other)).isSome = true ->
        ((redis.setIfAbsent (lockKey share) task 7200).2.live (lockKey other)).isSome = true := by
      intro other held
      rcases redis.setIfAbsent_cases (lockKey share) task (show 0 < 7200 by decide) with
        ⟨present, -, answer⟩ | ⟨free, written, answer, -, now, rest⟩
      · rw [answer]
        exact held
      · rw [answer]
        by_cases same : lockKey other = lockKey share
        · rw [same, now]
          rfl
        · rw [rest _ same]
          exact held
    have granted : (redis.setIfAbsent (lockKey share) task 7200).1 = true ->
        redis.live (lockKey share) = none := by
      intro answered
      rcases redis.setIfAbsent_cases (lockKey share) task (show 0 < 7200 by decide) with
        ⟨present, -, answer⟩ | ⟨free, -⟩
      · rw [answer] at answered
        cases answered
      · exact free
    unfold acquireLock
    simp only [command]
    split
    · exact ⟨rfl, kept, by rintro ⟨⟩⟩
    · exact ⟨rfl, fun _ held => held, by rintro ⟨⟩⟩
    · refine ⟨rfl, kept, ?_⟩
      intro answered
      exact granted (Except.ok.inj answered)

theorem releaseLock_spec (pool : GpuPool) (share task : String) :
    (pool.releaseLock share task).remoteDevices = pool.remoteDevices ∧
      ∀ other, other ≠ share ->
        lockOf (some (pool.releaseLock share task)) other = lockOf (some pool) other := by
  rcases pool with ⟨devices, lock⟩
  rcases lock with _ | _ | redis
  · exact ⟨rfl, fun _ _ => rfl⟩
  · exact ⟨rfl, fun _ _ => rfl⟩
  · refine ⟨rfl, ?_⟩
    intro other different
    by_cases held : redis.get (lockKey share) = some task
    · simp only [releaseLock, RemoteGpuLock.release_of_get held]
      exact Expiring.live_delete_of_ne fun same => different (lockKey_injective same)
    · simp only [releaseLock, RemoteGpuLock.release_of_not_get held]

theorem shareState_congr {later : GpuPool} (same : later.remoteDevices = pool.remoteDevices) :
    shareState (some later) share = shareState (some pool) share := by
  unfold shareState
  rw [Option.bind_some, Option.bind_some, same]

theorem lockOf_congr {later : GpuPool} (same : later.remoteLock = pool.remoteLock) :
    lockOf (some later) share = lockOf (some pool) share := by
  unfold lockOf
  rw [Option.bind_some, Option.bind_some, same]

end GpuPool

/-- The shares keep their states, and a locked share stays locked. -/
structure PoolKept (before after : Option GpuPool) : Prop where
  states : ∀ share, shareState after share = shareState before share
  locks : ∀ share, (lockOf before share).isSome = true -> (lockOf after share).isSome = true
  pooled : after = none -> before = none

/-- A local device that was idle is now allocated, and no other has changed. -/
structure MachineTaken (number : Int) (before after : GPUManager) : Prop where
  idle : before.stateOf number = some .idle
  taken : after.stateOf number = some .allocated
  others : ∀ other, other ≠ number -> after.devices.get? other = before.devices.get? other

/-- A share that was idle and unlocked is now allocated, and no other has changed. -/
structure ShareTaken (share : String) (before after : Option GpuPool) : Prop where
  idle : shareState before share = some .idle
  free : lockOf before share = none
  taken : shareState after share = some .allocated
  others : ∀ other, other ≠ share -> shareState after other = shareState before other
  locks : ∀ other, (lockOf before other).isSome = true -> (lockOf after other).isSome = true
  pooled : after ≠ none

theorem PoolKept.refl (pool : Option GpuPool) : PoolKept pool pool :=
  ⟨fun _ => rfl, fun _ held => held, fun none => none⟩

theorem poolKept_of_acquire (pool : GpuPool) (share task : String) (fault : Option PoolFault) :
    PoolKept (some pool) (some (pool.acquireLock share task fault).2) := by
  rcases pool.acquireLock_spec share task fault with ⟨same, locks, -⟩
  refine ⟨fun _ => GpuPool.shareState_congr same, locks, ?_⟩
  rintro ⟨⟩

theorem machineTaken_of_allocate {manager : GPUManager} {number : Int} {task : String}
    {device : GPUDevice} (found : manager.devices.get? number = some device)
    (fits : device.canAllocate 0 = true) :
    MachineTaken number manager (manager.allocateDevice number task).2 := by
  rcases manager.allocateDevice_cases number task with
    ⟨other, same, -, -, taken, others⟩ | ⟨refused, -⟩
  · refine ⟨?_, taken, others⟩
    unfold GPUManager.stateOf
    rw [found, Option.map_some, (GPUDevice.canAllocate_iff.mp fits).1]
  · rw [refused device found] at fits
    cases fits

/-- What the pool's `allocate_device` does for a share with a name. -/
inductive ShareAnswer (pool : GpuPool) (manager : GPUManager) (share : String) :
    Except String Bool × GPUManager × GpuPool -> Prop
  | taken (after : GpuPool) (new : ShareTaken share (some pool) (some after)) :
      ShareAnswer pool manager share (.ok true, manager, after)
  | refused (after : GpuPool) (kept : PoolKept (some pool) (some after)) :
      ShareAnswer pool manager share (.ok false, manager, after)
  | raised (error : String) (after : GpuPool) (kept : PoolKept (some pool) (some after)) :
      ShareAnswer pool manager share (.error error, manager, after)

theorem allocateDevice_share (pool : GpuPool) (manager : GPUManager) (number : Int)
    (task share : String) (fault : Option PoolFault) (named : share ≠ "") :
    ShareAnswer pool manager share
      (pool.allocateDevice manager number task true (some share) fault) := by
  have remote : (if true && present (some share) then some share else none) = some share := by
    simp [present, named]
  unfold GpuPool.allocateDevice
  rw [remote]
  dsimp only
  cases found : pool.remoteDevices.devices.get? share with
  | none => exact .refused pool (PoolKept.refl _)
  | some device =>
    dsimp only
    by_cases fits : device.canAllocate 0 = true
    · rw [if_pos fits]
      have kept := poolKept_of_acquire pool share task fault
      rcases pool.acquireLock_spec share task fault with ⟨same, locks, granted⟩
      revert kept same locks granted
      rcases pool.acquireLock share task fault with ⟨error | _ | _, after⟩
      · intro kept same locks granted
        exact .raised error after kept
      · intro kept same locks granted
        exact .refused after kept
      · intro kept same locks granted
        have idle := (RemoteGPUDevice.canAllocate_iff.mp fits).1
        have key := pool.remoteDevices.keyed share device found
        have allocated : device.allocate task =
            (true, { device with state := .allocated, currentTaskId := some task }) := by
          simp [RemoteGPUDevice.allocate, idle]
        simp only [allocated]
        refine .taken _ ⟨?_, granted rfl, ?_, ?_, ?_, ?_⟩
        · simp [shareState, RemoteDevices.stateOf, found, idle]
        · exact RemoteDevices.stateOf_put_self key
        · intro other different
          have others := @RemoteDevices.stateOf_put_of_ne after.remoteDevices other
            { device with state := .allocated, currentTaskId := some task } (key.symm ▸ different)
          exact others.trans (GpuPool.shareState_congr same)
        · exact locks
        · rintro ⟨⟩
    · rw [if_neg fits]
      exact .refused pool (PoolKept.refl _)

/-- An idle device of the machine that has the memory the task asks for has no
negative amount of it. -/
def MemorySound (manager : GPUManager) (task : Task) : Prop :=
  ∀ number device, manager.devices.get? number = some device -> device.state = .idle ->
    task.resources.gpuMemoryMb ≤ device.availableMemoryMb -> 0 ≤ device.availableMemoryMb

/-- What an attempt to place a task can do to the devices. -/
inductive Placed (manager : GPUManager) (pool : Option GpuPool) : TaskScheduler.Placement -> Prop
  | raised (error : String) (after : Option GpuPool) (kept : PoolKept pool after) :
      Placed manager pool (.raised error after)
  | refused (after : Option GpuPool) (kept : PoolKept pool after) :
      Placed manager pool (.refused after)
  | machine (number : Int) (placed : Task) (afterManager : GPUManager) (after : Option GpuPool)
      (holds : placed.HoldsMachine number) (taken : MachineTaken number manager afterManager)
      (kept : PoolKept pool after) :
      Placed manager pool (.placed placed afterManager after)
  | share (share : String) (placed : Task) (after : Option GpuPool)
      (holds : placed.HoldsShare share) (taken : ShareTaken share pool after) :
      Placed manager pool (.placed placed manager after)

namespace TaskScheduler

variable {hash : String -> Int} {fault : Option PoolFault} {manager : GPUManager}
  {pool : Option GpuPool} {task : Task}

theorem fits_of_machine {required : Int} {gpuType : Option String} {device : GPUDevice}
    (found : manager.getAvailableDevice required gpuType = some device)
    (enough : 0 ≤ device.availableMemoryMb) :
    manager.devices.get? device.deviceId = some device ∧ device.canAllocate 0 = true := by
  rcases GPUManager.of_getAvailableDevice found with ⟨listed, idle, -⟩
  exact ⟨listed, GPUDevice.canAllocate_iff.mpr ⟨idle, enough⟩⟩

theorem findDevice_machine {device : GPUDevice} (memory : MemorySound manager task)
    (found : findDevice manager pool task = some (.machine device)) :
    manager.devices.get? device.deviceId = some device ∧ device.canAllocate 0 = true := by
  have offered : ∀ device,
      manager.getAvailableDevice task.resources.gpuMemoryMb task.resources.gpuType = some device ->
      manager.devices.get? device.deviceId = some device ∧ device.canAllocate 0 = true := by
    intro device available
    rcases GPUManager.of_getAvailableDevice available with ⟨listed, idle, enough⟩
    exact fits_of_machine available (memory _ device listed idle enough)
  have fallback : ∀ device, manager.getAvailableDevice 0 (some "cpu") = some device ->
      manager.devices.get? device.deviceId = some device ∧ device.canAllocate 0 = true := by
    intro device available
    exact fits_of_machine available (GPUManager.of_getAvailableDevice available).2.2
  unfold findDevice at found
  dsimp only at found
  split at found
  · next device' searched =>
      cases found
      cases pool with
      | none =>
        rcases Option.map_eq_some_iff.mp searched with ⟨other, available, same⟩
        cases same
        exact offered _ available
      | some pool => exact offered _ (GpuPool.of_getAvailableDevice searched)
  · split at found
    · rcases Option.map_eq_some_iff.mp found with ⟨other, available, same⟩
      cases same
      exact fallback _ available
    · cases found

theorem placeOnRemote_placed (pool : GpuPool) (device : RemoteGPUDevice) :
    Placed manager (some pool) (placeOnRemote hash fault manager pool task device) := by
  unfold placeOnRemote
  by_cases named : device.shareId = ""
  · -- a share without a name is asked of the machine
    have answer : pool.allocateDevice manager (device.deviceId hash) task.taskId true
        (some device.shareId) fault =
          (.ok (manager.allocateDevice (device.deviceId hash) task.taskId).1,
            (manager.allocateDevice (device.deviceId hash) task.taskId).2, pool) := by
      simp [GpuPool.allocateDevice, present, named]
    rw [answer]
    rcases manager.allocateDevice_cases (device.deviceId hash) task.taskId with
      ⟨local', found, fits, done, -⟩ | ⟨-, refused⟩
    · rw [done]
      refine .machine (device.deviceId hash) _ _ _ ⟨?_, rfl⟩ (machineTaken_of_allocate found fits)
        (PoolKept.refl _)
      simp [present, named]
    · rw [refused]
      exact .refused _ (PoolKept.refl _)
  · have answer := allocateDevice_share pool manager (device.deviceId hash) task.taskId
      device.shareId fault named
    revert answer
    rcases pool.allocateDevice manager (device.deviceId hash) task.taskId true
      (some device.shareId) fault with ⟨result, manager', after⟩
    intro answer
    cases answer with
    | taken after new => exact .share device.shareId _ _ ⟨rfl, named⟩ new
    | refused after kept => exact .refused _ kept
    | raised error after kept => exact .raised error _ kept

theorem placeTask_devices (memory : MemorySound manager task) :
    Placed manager pool (placeTask hash fault manager pool task) := by
  unfold placeTask
  split
  · exact .raised _ _ (PoolKept.refl _)
  · split
    · exact .refused _ (PoolKept.refl _)
    · next device _ found =>
        rcases findDevice_machine memory found with ⟨listed, fits⟩
        exact .machine device.deviceId _ _ _ ⟨rfl, rfl⟩ (machineTaken_of_allocate listed fits)
          (PoolKept.refl _)
    · exact placeOnRemote_placed _ _
    · exact .refused _ ⟨fun _ => rfl, fun _ held => held, fun _ => rfl⟩

end TaskScheduler

end Core
end ZepGpu
