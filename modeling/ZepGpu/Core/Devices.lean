import ZepGpu.Core.RemoteGpuLock
import ZepGpu.Foundation.Dict
import ZepGpu.Foundation.Text

namespace ZepGpu
namespace Core

open Foundation Dict

/-!
# Local and remote devices

The manager has the devices of the machine.  The pool adds the shares of
remote peers as the registry last listed them, and guards each of them by a
lock when it has one.  A device is taken by changing its own record from idle to
allocated; what the record says of a remote device lasts until the registry is
read again.
-/

inductive GPUState
  | idle
  | allocated
  | reserved
  | error
  | unavailable
  deriving DecidableEq

inductive GPUType
  | nvidia
  | amd
  | cpu
  deriving DecidableEq

def GPUState.ofValue? : String -> Option GPUState
  | "idle" => some .idle
  | "allocated" => some .allocated
  | "reserved" => some .reserved
  | "error" => some .error
  | "unavailable" => some .unavailable
  | _ => none

def GPUType.value : GPUType -> String
  | .nvidia => "nvidia"
  | .amd => "amd"
  | .cpu => "cpu"

def GPUType.ofValue? : String -> Option GPUType
  | "nvidia" => some .nvidia
  | "amd" => some .amd
  | "cpu" => some .cpu
  | _ => none

/-- A text that Python takes for true. -/
def present (text : Option String) : Bool :=
  text.any (· ≠ "")

/-- `gpu_type and device.gpu_type.value != gpu_type` does not hold. -/
def hasType (wanted : Option String) (actual : GPUType) : Bool :=
  !present wanted || wanted == some actual.value

/-! ## The devices of the machine -/

/-- A local device, with the fields that placement reads. -/
structure GPUDevice where
  deviceId : Int
  gpuType : GPUType
  availableMemoryMb : Int
  state : GPUState
  currentTaskId : Option String

namespace GPUDevice

def canAllocate (device : GPUDevice) (requiredMemoryMb : Int) : Bool :=
  device.state == .idle && decide (requiredMemoryMb ≤ device.availableMemoryMb)

def allocate (device : GPUDevice) (task : String) : Bool × GPUDevice :=
  if device.state ≠ .idle then (false, device)
  else (true, { device with state := .allocated, currentTaskId := some task })

def release (device : GPUDevice) : GPUDevice :=
  { device with state := .idle, currentTaskId := none }

theorem canAllocate_iff {device : GPUDevice} {required : Int} :
    device.canAllocate required = true ↔
      device.state = .idle ∧ required ≤ device.availableMemoryMb := by
  simp [canAllocate]

theorem deviceId_allocate (device : GPUDevice) (task : String) :
    (device.allocate task).2.deviceId = device.deviceId := by
  unfold allocate
  split <;> rfl

end GPUDevice

/-- The local devices by their ids. -/
structure GPUManager where
  devices : Dict Int GPUDevice
  keyed : ∀ id device, devices.get? id = some device -> device.deviceId = id

namespace GPUManager

variable {manager : GPUManager} {id other : Int} {device : GPUDevice} {task : String}

def list (manager : GPUManager) : List GPUDevice :=
  manager.devices.keys.filterMap manager.devices.get?

def getAvailableDevice (manager : GPUManager) (requiredMemoryMb : Int)
    (gpuType : Option String) : Option GPUDevice :=
  manager.list.find? fun device =>
    hasType gpuType device.gpuType && device.canAllocate requiredMemoryMb

def put (manager : GPUManager) (id : Int) (device : GPUDevice) (same : device.deviceId = id) :
    GPUManager where
  devices := manager.devices.set id device
  keyed := by
    intro other found at_other
    by_cases equal : other = id
    · subst equal
      rw [get?_set_self] at at_other
      rw [← Option.some.inj at_other]
      exact same
    · rw [get?_set_of_ne equal] at at_other
      exact manager.keyed other found at_other

def allocateDevice (manager : GPUManager) (id : Int) (task : String) : Bool × GPUManager :=
  match found : manager.devices.get? id with
  | none => (false, manager)
  | some device =>
    if device.canAllocate 0 then
      (true, manager.put id (device.allocate task).2
        ((device.deviceId_allocate task).trans (manager.keyed id device found)))
    else (false, manager)

def releaseDevice (manager : GPUManager) (id : Int) : GPUManager :=
  match found : manager.devices.get? id with
  | none => manager
  | some device => manager.put id device.release (manager.keyed id device found)

def stateOf (manager : GPUManager) (id : Int) : Option GPUState :=
  (manager.devices.get? id).map GPUDevice.state

theorem stateOf_put_self {same : device.deviceId = id} :
    (manager.put id device same).stateOf id = some device.state := by
  simp [stateOf, put, get?_set_self]

theorem stateOf_put_of_ne {same : device.deviceId = id} (different : other ≠ id) :
    (manager.put id device same).stateOf other = manager.stateOf other := by
  simp [stateOf, put, get?_set_of_ne different]

theorem of_getAvailableDevice {required : Int} {gpuType : Option String}
    (found : manager.getAvailableDevice required gpuType = some device) :
    manager.devices.get? device.deviceId = some device ∧ device.state = .idle ∧
      required ≤ device.availableMemoryMb := by
  have fits := List.find?_some found
  rw [Bool.and_eq_true, GPUDevice.canAllocate_iff] at fits
  rcases List.mem_filterMap.mp (List.mem_of_find?_eq_some found) with ⟨id, -, at_id⟩
  rw [manager.keyed id device at_id]
  exact ⟨at_id, fits.2⟩

theorem allocateDevice_cases (manager : GPUManager) (id : Int) (task : String) :
    (∃ device, manager.devices.get? id = some device ∧ device.canAllocate 0 = true ∧
      (manager.allocateDevice id task).1 = true ∧
      (manager.allocateDevice id task).2.stateOf id = some .allocated ∧
      ∀ other, other ≠ id ->
        (manager.allocateDevice id task).2.devices.get? other = manager.devices.get? other) ∨
    ((∀ device, manager.devices.get? id = some device -> device.canAllocate 0 = false) ∧
      manager.allocateDevice id task = (false, manager)) := by
  unfold allocateDevice
  split
  · next absent =>
      right
      refine ⟨?_, rfl⟩
      intro device found
      rw [absent] at found
      cases found
  · next device found =>
      split
      · next fits =>
          left
          refine ⟨device, found, fits, rfl, ?_, ?_⟩
          · have idle := (GPUDevice.canAllocate_iff.mp fits).1
            rw [stateOf_put_self]
            simp [GPUDevice.allocate, idle]
          · intro other different
            exact get?_set_of_ne different
      · next refused =>
          right
          refine ⟨?_, rfl⟩
          intro other at_id
          rw [found] at at_id
          rw [← Option.some.inj at_id]
          exact Bool.not_eq_true _ ▸ refused

theorem stateOf_releaseDevice_of_ne (different : other ≠ id) :
    (manager.releaseDevice id).stateOf other = manager.stateOf other := by
  unfold releaseDevice
  split
  · rfl
  · exact stateOf_put_of_ne different

end GPUManager

/-! ## The shares of remote peers -/

/-- A shared device of a peer, with the fields that placement reads. -/
structure RemoteGPUDevice where
  peerId : String
  shareId : String
  gpuType : GPUType
  availableMemoryMb : Int
  state : GPUState
  currentTaskId : Option String
  utilizationPercent : Float
  vpnIp : String
  vpnNetworkId : String

namespace RemoteGPUDevice

/-- A number for the scheduler, from Python's hash of the share. -/
def deviceId (hash : String -> Int) (device : RemoteGPUDevice) : Int :=
  ((hash device.shareId).natAbs % 1000000 : Nat)

def canAllocate (device : RemoteGPUDevice) (requiredMemoryMb : Int) : Bool :=
  device.state == .idle && decide (requiredMemoryMb ≤ device.availableMemoryMb)

def allocate (device : RemoteGPUDevice) (task : String) : Bool × RemoteGPUDevice :=
  if device.state ≠ .idle then (false, device)
  else (true, { device with state := .allocated, currentTaskId := some task })

def release (device : RemoteGPUDevice) : RemoteGPUDevice :=
  { device with state := .idle, currentTaskId := none }

theorem canAllocate_iff {device : RemoteGPUDevice} {required : Int} :
    device.canAllocate required = true ↔
      device.state = .idle ∧ required ≤ device.availableMemoryMb := by
  simp [canAllocate]

end RemoteGPUDevice

/-- What the registry lists of a share, as far as a device is made of it. -/
structure RegistryEntry where
  peerId : Option String
  shareId : Option String
  deviceIndex : Option Int
  gpuType : Option String
  totalMemoryMb : Option Int
  availableMemoryMb : Option Int
  computeCapability : Option String
  state : Option String
  currentTaskId : Option String
  utilizationPercent : Option Float
  vpnIp : Option String
  vpnNetworkId : Option String

namespace RegistryEntry

def required {α : Type} (key : String) : Option α -> Except String α
  | none => .error key
  | some value => .ok value

/-- The first two parts of a version must be numbers. -/
def readCapability (text : String) : Except String (Int × Int) := do
  let read (part : List Char) : Except String Int :=
    required "invalid literal for int() with base 10" (readInt? part)
  match text.toList.splitOn '.' with
  | [] => return (0, 0)
  | [major] => return (← read major, 0)
  | major :: minor :: _ => return (← read major, ← read minor)

def toDevice (entry : RegistryEntry) : Except String RemoteGPUDevice := do
  let shareId ← required "share_id" entry.shareId
  let _ ← readCapability (entry.computeCapability.getD "0.0")
  let peerId ← required "peer_id" entry.peerId
  let _ ← required "device_index" entry.deviceIndex
  let gpuType ← required "not a valid GPUType" (GPUType.ofValue? (entry.gpuType.getD "nvidia"))
  let _ ← required "total_memory_mb" entry.totalMemoryMb
  let availableMemoryMb ← required "available_memory_mb" entry.availableMemoryMb
  let state ← required "not a valid GPUState" (GPUState.ofValue? (entry.state.getD "idle"))
  return {
    peerId := peerId
    shareId := shareId
    gpuType := gpuType
    availableMemoryMb := availableMemoryMb
    state := state
    currentTaskId := entry.currentTaskId
    utilizationPercent := entry.utilizationPercent.getD 0
    vpnIp := entry.vpnIp.getD ""
    vpnNetworkId := entry.vpnNetworkId.getD "" }

end RegistryEntry

end Core
end ZepGpu
