import ZepGpu.Core.Devices

namespace ZepGpu
namespace Core

open Foundation Dict

/-!
# The pool of local and remote devices

The pool reaches the devices of the machine through their manager, and keeps
the remote ones by share.  It may have a lock, and the lock may have a Redis.
A command to Redis can fail before or after Redis has executed it, and the pool
can fail while it searches.
-/

/-- What Redis can do in the middle of a pass. -/
inductive PoolFault
  | search (error : String)
  | lock (executed : Bool) (error : String)

structure RemoteDevices where
  devices : Dict String RemoteGPUDevice
  keyed : ∀ share device, devices.get? share = some device -> device.shareId = share

namespace RemoteDevices

variable {remote : RemoteDevices} {share other : String} {device : RemoteGPUDevice}

def empty : RemoteDevices where
  devices := Dict.empty
  keyed := by
    intro share device found
    cases found

def put (remote : RemoteDevices) (device : RemoteGPUDevice) : RemoteDevices where
  devices := remote.devices.set device.shareId device
  keyed := by
    intro other found at_other
    by_cases equal : other = device.shareId
    · subst equal
      rw [get?_set_self] at at_other
      rw [← Option.some.inj at_other]
    · rw [get?_set_of_ne equal] at at_other
      exact remote.keyed other found at_other

def list (remote : RemoteDevices) : List RemoteGPUDevice :=
  remote.devices.keys.filterMap remote.devices.get?

def stateOf (remote : RemoteDevices) (share : String) : Option GPUState :=
  (remote.devices.get? share).map RemoteGPUDevice.state

theorem stateOf_put_self (same : device.shareId = share) :
    (remote.put device).stateOf share = some device.state := by
  subst same
  simp [stateOf, put, get?_set_self]

theorem stateOf_put_of_ne (different : other ≠ device.shareId) :
    (remote.put device).stateOf other = remote.stateOf other := by
  simp [stateOf, put, get?_set_of_ne different]

theorem get?_of_mem_list (member : device ∈ remote.list) :
    remote.devices.get? device.shareId = some device := by
  rcases List.mem_filterMap.mp member with ⟨share, -, found⟩
  rw [remote.keyed share device found]
  exact found

end RemoteDevices

/-- A device of this machine or of the pool. -/
inductive Device
  | machine (device : GPUDevice)
  | remote (device : RemoteGPUDevice)

/-- The shares of the peers and the lock that guards them, when there is one. -/
structure GpuPool where
  remoteDevices : RemoteDevices
  remoteLock : Option (Option Redis)

namespace GpuPool

/-- The map is replaced only when every entry could be read. -/
def refreshRemoteGpus (pool : GpuPool) (remoteGpus : List RegistryEntry) : Except String GpuPool := do
  let devices ← remoteGpus.mapM RegistryEntry.toDevice
  return { pool with remoteDevices := devices.foldl RemoteDevices.put RemoteDevices.empty }

def isBetter (device best : RemoteGPUDevice) : Bool :=
  decide (best.availableMemoryMb < device.availableMemoryMb) ||
    (device.availableMemoryMb == best.availableMemoryMb &&
      decide (device.utilizationPercent < best.utilizationPercent))

/-- `room_id` and `gpu_type` do not rule the device out and it can be allocated. -/
def fits (requiredMemoryMb : Int) (gpuType roomId : Option String) (device : RemoteGPUDevice) : Bool :=
  (!present roomId || roomId == some device.vpnNetworkId) && hasType gpuType device.gpuType &&
    device.canAllocate requiredMemoryMb

def choose (device : RemoteGPUDevice) : Option RemoteGPUDevice -> RemoteGPUDevice
  | none => device
  | some best => if isBetter device best then device else best

def bestRemote (fits : RemoteGPUDevice -> Bool) :
    Option RemoteGPUDevice -> List RemoteGPUDevice -> Option RemoteGPUDevice
  | best, [] => best
  | best, device :: rest =>
    bestRemote fits (if fits device then some (choose device best) else best) rest

def getAvailableDevice (pool : GpuPool) (manager : GPUManager) (requiredMemoryMb : Int)
    (gpuType roomId : Option String) (remoteOnly : Bool) : Option Device :=
  match if remoteOnly then none else manager.getAvailableDevice requiredMemoryMb gpuType with
  | some device => some (.machine device)
  | none =>
    (bestRemote (fits requiredMemoryMb gpuType roomId) none pool.remoteDevices.list).map .remote

/-- The command of `acquire`, or its failure. -/
def acquireLock (pool : GpuPool) (share task : String) (fault : Option PoolFault) :
    Except String Bool × GpuPool :=
  match pool.remoteLock with
  | none => (.ok true, pool)
  | some conn =>
    match RemoteGpuLock.acquire conn share task 7200 with
    | .error error => (.error error, pool)
    | .ok (granted, conn) =>
      match fault with
      | some (.lock true error) => (.error error, { pool with remoteLock := some conn })
      | some (.lock false error) => (.error error, pool)
      | _ => (.ok granted, { pool with remoteLock := some conn })

def releaseLock (pool : GpuPool) (share task : String) : GpuPool :=
  match pool.remoteLock with
  | none => pool
  | some conn => { pool with remoteLock := some (RemoteGpuLock.release conn share task).2 }

def allocateDevice (pool : GpuPool) (manager : GPUManager) (deviceId : Int) (task : String)
    (isRemote : Bool) (shareId : Option String) (fault : Option PoolFault) :
    Except String Bool × GPUManager × GpuPool :=
  match if isRemote && present shareId then shareId else none with
  | some share =>
    match pool.remoteDevices.devices.get? share with
    | none => (.ok false, manager, pool)
    | some device =>
      if device.canAllocate 0 then
        match pool.acquireLock share task fault with
        | (.error error, pool) => (.error error, manager, pool)
        | (.ok false, pool) => (.ok false, manager, pool)
        | (.ok true, pool) =>
          match device.allocate task with
          | (false, _) => (.ok false, manager, pool.releaseLock share task)
          | (true, device) =>
            (.ok true, manager,
              { pool with remoteDevices := pool.remoteDevices.put device })
      else (.ok false, manager, pool)
  | none =>
    let answer := manager.allocateDevice deviceId task
    (.ok answer.1, answer.2, pool)

def releaseDevice (pool : GpuPool) (manager : GPUManager) (deviceId : Int) (isRemote : Bool)
    (shareId taskId : Option String) : GPUManager × GpuPool :=
  match if isRemote && present shareId then shareId else none with
  | some share =>
    let found := pool.remoteDevices.devices.get? share
    let holder := match taskId with
      | some task => some task
      | none => found.bind RemoteGPUDevice.currentTaskId
    let released : GpuPool := match found with
      | none => pool
      | some device => { pool with remoteDevices := pool.remoteDevices.put device.release }
    match holder with
    | some task => (manager, if task = "" then released else released.releaseLock share task)
    | none => (manager, released)
  | none => (manager.releaseDevice deviceId, pool)

variable {pool : GpuPool} {manager : GPUManager} {share other task : String}
  {device : RemoteGPUDevice}

theorem choose_eq (device : RemoteGPUDevice) (best : Option RemoteGPUDevice) :
    choose device best = device ∨ best = some (choose device best) := by
  cases best with
  | none => exact Or.inl rfl
  | some best =>
    by_cases better : isBetter device best = true
    · left
      simp [choose, better]
    · right
      simp [choose, better]

theorem of_bestRemote {test : RemoteGPUDevice -> Bool} {best : Option RemoteGPUDevice}
    {devices : List RemoteGPUDevice} (found : bestRemote test best devices = some device) :
    best = some device ∨ device ∈ devices := by
  induction devices generalizing best with
  | nil => exact Or.inl found
  | cons head rest ih =>
    rcases ih found with now | later
    · split at now
      · rcases choose_eq head best with same | same
        · right
          rw [← Option.some.inj now, same]
          exact List.mem_cons_self ..
        · exact Or.inl (same.trans now)
      · exact Or.inl now
    · exact Or.inr (List.mem_cons_of_mem _ later)

theorem of_getAvailableDevice {required : Int} {gpuType roomId : Option String} {remoteOnly : Bool}
    {found : Device}
    (available : pool.getAvailableDevice manager required gpuType roomId remoteOnly = some found) :
    match found with
    | .machine device => manager.getAvailableDevice required gpuType = some device
    | .remote device => pool.remoteDevices.devices.get? device.shareId = some device := by
  unfold getAvailableDevice at available
  cases searched : (if remoteOnly then none else manager.getAvailableDevice required gpuType) with
  | some device =>
    rw [searched] at available
    cases available
    cases remoteOnly with
    | true => cases searched
    | false => exact searched
  | none =>
    rw [searched] at available
    rcases Option.map_eq_some_iff.mp available with ⟨device, best, rfl⟩
    rcases of_bestRemote best with impossible | member
    · cases impossible
    · exact RemoteDevices.get?_of_mem_list member

end GpuPool

end Core
end ZepGpu
