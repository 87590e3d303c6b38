import Mathlib.Data.List.Dedup
import ZepGpu.Foundation.Dict
import ZepGpu.Foundation.Slices

namespace ZepGpu
namespace Queue

open Foundation Dict List

/-!
# The table of local GPUs

The rows of the workers' own devices, each under its index.  A row names the
task or the gang task that it is allocated to.  A gang takes devices with
consecutive indices, all of them in one transaction, and gives back every device
that names it.
-/

inductive GpuState
  | idle
  | allocated
  | gangAllocated
  | reserved
  | error
  | unavailable
  | preempting
  deriving DecidableEq

/-- The row of a device. -/
structure GpuDevice where
  gpuType : String := "nvidia"
  totalMemoryMb : Option Int := none
  availableMemoryMb : Option Int := none
  state : GpuState := .idle
  currentTaskId : Option String := none
  isAvailable : Bool := true
  deriving DecidableEq

namespace GpuDevice

/-- The filter that every query for free devices has. -/
def isFree (device : GpuDevice) : Bool :=
  device.state = .idle ∧ device.isAvailable

def freed (device : GpuDevice) : GpuDevice :=
  { device with state := .idle, currentTaskId := none }

/-- A missing or zero memory holds nothing. -/
def canHold (memoryMb : Int) (device : GpuDevice) : Bool :=
  device.totalMemoryMb.any (· ≠ 0) ∧
    device.availableMemoryMb.any (fun available => available ≠ 0 ∧ memoryMb ≤ available)

def fitsGang (memoryPerGpuMb : Int) (gpuType : Option String) (device : GpuDevice) : Bool :=
  device.isFree ∧ device.availableMemoryMb.any (fun available => memoryPerGpuMb ≤ available) ∧
    -- the empty name of a type asks for nothing
    (gpuType.filter (· ≠ "")).all (fun wanted => device.gpuType = wanted)

end GpuDevice

abbrev GpuTable := Dict Int GpuDevice

namespace GpuTable

variable {gpus after : GpuTable} {index : Int} {device : GpuDevice} {holder : String}

/-- The indices of the devices that pass a test, in ascending order. -/
def listWhere (test : GpuDevice -> Bool) (gpus : GpuTable) : List Int :=
  (gpus.keys.filter fun index => (gpus.get? index).any test).insertionSort (· ≤ ·)

def listAvailable (gpus : GpuTable) : List Int :=
  listWhere GpuDevice.isFree gpus

def consecutiveFrom (numGpus : Int) : List Int -> List Int -> List Int
  | [], consecutive => consecutive
  | index :: rest, consecutive =>
    match consecutive.getLast? with
    | none => consecutiveFrom numGpus rest [index]
    | some last =>
      if index = last + 1 then consecutiveFrom numGpus rest (consecutive ++ [index])
      else if numGpus ≤ consecutive.length then consecutive
      else consecutiveFrom numGpus rest [index]

def listAvailableForGang (numGpus memoryPerGpuMb : Int) (gpuType : Option String)
    (gpus : GpuTable) : List Int :=
  let devices := gpus.listWhere (GpuDevice.fitsGang memoryPerGpuMb gpuType)
  let consecutive := consecutiveFrom numGpus devices []
  if numGpus ≤ consecutive.length then sliceTo consecutive numGpus else []

/-- `allocate`: no table when the device is not free -/
def allocate (index : Int) (taskId : String) (gpus : GpuTable) : Option GpuTable :=
  match (gpus.get? index).filter GpuDevice.isFree with
  | none => none
  | some device =>
    some (gpus.set index { device with state := .allocated, currentTaskId := some taskId })

/-- The loop of `allocate_gang` over the rows that it has locked.  What it has
written stays written when it gives up. -/
def takeEach (gangTaskId : String) (locked : List Int) :
    List Int -> GpuTable -> Option (List Int) × GpuTable
  | [], gpus => (some [], gpus)
  | index :: rest, gpus =>
    match (gpus.get? index).filter fun device => index ∈ locked ∧ device.state = .idle with
    | none => (none, gpus)
    | some device =>
      let (taken, gpus) := takeEach gangTaskId locked rest
        (gpus.set index { device with state := .gangAllocated, currentTaskId := some gangTaskId })
      (taken.map (index :: ·), gpus)

def allocateGang (deviceIndices : List Int) (gangTaskId : String) (gpus : GpuTable) :
    Option (List Int) × GpuTable :=
  let locked := gpus.listAvailable.filter (· ∈ deviceIndices)
  if locked.length = deviceIndices.dedup.length then takeEach gangTaskId locked deviceIndices gpus
  else (none, gpus)

def release (index : Int) (gpus : GpuTable) : GpuTable :=
  match gpus.get? index with
  | none => gpus
  | some device => gpus.set index device.freed

def releaseGang (gangTaskId : String) (gpus : GpuTable) : GpuTable :=
  gpus.adjust fun _ device => if device.currentTaskId = some gangTaskId then device.freed else device

/-- No device is held by the holder. -/
def Clear (holder : String) (gpus : GpuTable) : Prop :=
  ∀ index device, gpus.get? index = some device -> device.currentTaskId ≠ some holder

theorem clear_releaseGang (holder : String) (gpus : GpuTable) :
    Clear holder (gpus.releaseGang holder) := by
  intro index device found
  rcases Option.map_eq_some_iff.mp found with ⟨old, -, rfl⟩
  dsimp only
  split_ifs with held
  · rintro ⟨⟩
  · exact held

theorem mem_listWhere {test : GpuDevice -> Bool} : index ∈ gpus.listWhere test ↔
    ∃ device, gpus.get? index = some device ∧ test device = true := by
  unfold listWhere
  rw [mem_insertionSort, mem_filter, Option.any_eq_true]
  constructor
  · rintro ⟨-, device, found, passes⟩
    exact ⟨device, found, passes⟩
  · rintro ⟨device, found, passes⟩
    exact ⟨mem_keys_of_get? found, device, found, passes⟩

theorem nodup_listWhere {test : GpuDevice -> Bool} : (gpus.listWhere test).Nodup :=
  (perm_insertionSort _ _).nodup_iff.mpr (gpus.nodup.filter _)

theorem consecutiveFrom_sublist (numGpus : Int) (devices consecutive : List Int) :
    (consecutiveFrom numGpus devices consecutive).Sublist (consecutive ++ devices) := by
  induction devices generalizing consecutive with
  | nil =>
    rw [append_nil]
    exact List.Sublist.refl _
  | cons index rest ih =>
    have fresh : (consecutiveFrom numGpus rest [index]).Sublist (consecutive ++ index :: rest) :=
      (ih [index]).trans (sublist_append_right consecutive (index :: rest))
    unfold consecutiveFrom
    split
    · exact fresh
    · split_ifs
      · have longer := ih (consecutive ++ [index])
        rw [append_assoc] at longer
        exact longer
      · exact sublist_append_left _ _
      · exact fresh

theorem listAvailableForGang_spec {numGpus memoryPerGpuMb : Int} {gpuType : Option String} :
    (gpus.listAvailableForGang numGpus memoryPerGpuMb gpuType).Nodup ∧
      ∀ index, index ∈ gpus.listAvailableForGang numGpus memoryPerGpuMb gpuType ->
        ∃ device, gpus.get? index = some device ∧ device.isFree = true := by
  unfold listAvailableForGang
  dsimp only
  split_ifs
  · have sublist := (sliceTo_sublist _ numGpus).trans (consecutiveFrom_sublist numGpus
      (gpus.listWhere (GpuDevice.fitsGang memoryPerGpuMb gpuType)) [])
    refine ⟨sublist.nodup nodup_listWhere, ?_⟩
    intro index member
    rcases mem_listWhere.mp (sublist.subset member) with ⟨device, found, passes⟩
    simp only [GpuDevice.fitsGang, decide_eq_true_eq] at passes
    exact ⟨device, found, passes.1⟩
  · exact ⟨nodup_nil, fun index member => absurd member not_mem_nil⟩

theorem takeEach_all {locked indices : List Int} (distinct : indices.Nodup)
    (ready : ∀ index, index ∈ indices -> index ∈ locked ∧
      ∃ device, gpus.get? index = some device ∧ device.state = .idle) :
    (takeEach holder locked indices gpus).1 = some indices := by
  induction indices generalizing gpus with
  | nil => rfl
  | cons index rest ih =>
    rw [nodup_cons] at distinct
    rcases ready index (mem_cons_self ..) with ⟨inside, device, found, idle⟩
    unfold takeEach
    rw [found, Option.filter_some, if_pos (by simp [inside, idle])]
    dsimp only
    rw [ih distinct.2]
    · rfl
    · intro other member
      rcases ready other (mem_cons_of_mem _ member) with ⟨known, otherDevice, here, waits⟩
      refine ⟨known, otherDevice, ?_, waits⟩
      have different : other ≠ index := by
        rintro rfl
        exact distinct.1 member
      rw [get?_set_of_ne different]
      exact here

theorem allocateGang_all {indices : List Int} (distinct : indices.Nodup)
    (free : ∀ index, index ∈ indices ->
      ∃ device, gpus.get? index = some device ∧ device.isFree = true) :
    (gpus.allocateGang indices holder).1 = some indices := by
  have locks : ∀ index, index ∈ gpus.listAvailable.filter (· ∈ indices) ↔ index ∈ indices := by
    intro index
    rw [mem_filter, decide_eq_true_eq]
    constructor
    · exact And.right
    · intro member
      exact ⟨mem_listWhere.mpr (free index member), member⟩
  have same : (gpus.listAvailable.filter (· ∈ indices)).Perm indices :=
    (perm_ext_iff_of_nodup (nodup_listWhere.filter _) distinct).mpr locks
  unfold allocateGang
  dsimp only
  rw [dedup_eq_self.mpr distinct, if_pos same.length_eq]
  apply takeEach_all distinct
  intro index member
  rcases free index member with ⟨device, found, passes⟩
  simp only [GpuDevice.isFree, decide_eq_true_eq] at passes
  exact ⟨(locks index).mpr member, device, found, passes.1⟩

theorem allocateGang_nil : gpus.allocateGang [] holder = (some [], gpus) := by
  unfold allocateGang
  dsimp only
  rw [if_pos]
  · rfl
  · simp

/-- No idle device names a task. -/
def IdleUnnamed (gpus : GpuTable) : Prop :=
  ∀ index device, gpus.get? index = some device -> device.state = .idle ->
    device.currentTaskId = none

theorem releaseGang_of_clear (clear : Clear holder gpus) : gpus.releaseGang holder = gpus := by
  refine eq_of_lookups rfl (funext fun index => ?_)
  rw [releaseGang, get?_adjust]
  cases found : gpus.get? index with
  | none => rfl
  | some device => rw [Option.map_some, if_neg (clear index device found)]

theorem releaseGang_set (unnamed : IdleUnnamed gpus) (found : gpus.get? index = some device)
    (idle : device.state = .idle) :
    releaseGang holder (gpus.set index
      { device with state := .gangAllocated, currentTaskId := some holder }) =
        gpus.releaseGang holder := by
  have none := unnamed index device found idle
  refine eq_of_lookups (if_pos (mem_keys_of_get? found)) (funext fun other => ?_)
  rw [releaseGang, releaseGang, get?_adjust, get?_adjust]
  by_cases same : other = index
  · subst same
    rw [get?_set_self, found, Option.map_some, Option.map_some, if_pos rfl, none,
      if_neg (by rintro ⟨⟩), GpuDevice.freed]
    cases device
    cases none
    cases idle
    rfl
  · rw [get?_set_of_ne same]

theorem releaseGang_takeEach {locked indices : List Int} (unnamed : IdleUnnamed gpus) :
    (takeEach holder locked indices gpus).2.releaseGang holder = gpus.releaseGang holder := by
  induction indices generalizing gpus with
  | nil => rfl
  | cons index rest ih =>
    unfold takeEach
    split
    · rfl
    · next device found =>
        obtain ⟨present, passes⟩ := Option.filter_eq_some_iff.mp found
        have idle : device.state = .idle := (of_decide_eq_true passes).2
        refine (ih ?_).trans (releaseGang_set unnamed present idle)
        intro other taken there waits
        by_cases same : other = index
        · subst same
          obtain rfl := Option.some.inj (get?_set_self.symm.trans there)
          cases waits
        · exact unnamed other taken ((get?_set_of_ne same).symm.trans there) waits

theorem releaseGang_allocateGang {indices : List Int} (unnamed : IdleUnnamed gpus)
    (clear : Clear holder gpus) :
    (gpus.allocateGang indices holder).2.releaseGang holder = gpus := by
  unfold allocateGang
  dsimp only
  split_ifs
  · rw [releaseGang_takeEach unnamed, releaseGang_of_clear clear]
  · exact releaseGang_of_clear clear

end GpuTable

end Queue
end ZepGpu
