import ZepGpu.Foundation.ConsecutiveRuns
import ZepGpu.Queue.GpuTable

namespace ZepGpu
namespace Queue

open Foundation NumberRun List

/-!
# Blocks of devices

A gang runs on devices with consecutive indices.  The repository walks through
the free devices in ascending order, once to find devices for one gang, and once
to count how many gangs there is room for.
-/

namespace GpuTable

variable {gpus : GpuTable} {numGpus memoryPerGpuMb first : Int} {gpuType : Option String}
  {size : Nat} {rest : List Int}

theorem sorted_listWhere (test : GpuDevice -> Bool) (gpus : GpuTable) :
    (gpus.listWhere test).Pairwise (· < ·) := by
  have sorted : (gpus.listWhere test).Pairwise (· ≤ ·) := pairwise_insertionSort _ _
  exact (sorted.and (@nodup_listWhere gpus test)).imp (fun pair => lt_of_le_of_ne pair.1 pair.2)

/-- A block of devices that all pass the test. -/
def DeviceBlock (test : GpuDevice -> Bool) (gpus : GpuTable) (size : Nat) (first : Int) : Prop :=
  ∀ index, index ∈ block first size ->
    ∃ device, gpus.get? index = some device ∧ test device = true

theorem hasBlock_listWhere {test : GpuDevice -> Bool} :
    HasBlock (gpus.listWhere test) size first ↔ DeviceBlock test gpus size first := by
  unfold HasBlock DeviceBlock
  simp only [mem_listWhere]

/-- What is returned for the devices that the loop ends with. -/
def offered (numGpus : Int) (consecutive : List Int) : List Int :=
  if numGpus ≤ consecutive.length then sliceTo consecutive numGpus else []

/-- The loop of `count_available_for_gang`.  The device before this one, which
the source looks up in the list, has index `last`. -/
def blocksFrom (numGpus : Int) : List Int -> Int -> Nat -> Nat -> Nat
  | [], _, blocks, consecutive => if numGpus ≤ consecutive then blocks + 1 else blocks
  | index :: rest, last, blocks, consecutive =>
    if consecutive = 0 then blocksFrom numGpus rest index blocks 1
    else if index = last + 1 then blocksFrom numGpus rest index blocks (consecutive + 1)
    else blocksFrom numGpus rest index (if numGpus ≤ consecutive then blocks + 1 else blocks) 1

def countAvailableForGang (numGpus : Int) (gpus : GpuTable) : Nat :=
  blocksFrom numGpus gpus.listAvailable 0 0 0

theorem blocksFrom_eq (run : NumberRun) (rest : List Int) (blocks : Nat) :
    blocksFrom size rest (run.first + run.length - 1) blocks run.length =
      blocks + (extend run rest).countP (fun part => size ≤ part.length) := by
  induction rest generalizing run blocks with
  | nil =>
    rw [blocksFrom, extend, countP_singleton]
    simp only [Int.ofNat_le, decide_eq_true_eq]
    split_ifs
    · rfl
    · rfl
  | cons index rest ih =>
    unfold blocksFrom extend
    rw [if_neg run.pos.ne', sub_add_cancel]
    by_cases joins : index = run.first + run.length
    · rw [if_pos joins, if_pos joins, ← ih ⟨run.first, run.length + 1, Nat.succ_pos _⟩]
      dsimp only
      congr 1
      omega
    · rw [if_neg joins, if_neg joins, countP_cons]
      have fresh := ih ⟨index, 1, Nat.one_pos⟩ (if (size : Int) ≤ run.length then blocks + 1 else blocks)
      dsimp only at fresh
      rw [Nat.cast_one, add_sub_cancel_right] at fresh
      rw [fresh]
      simp only [Int.ofNat_le, decide_eq_true_eq]
      split_ifs
      · omega
      · rfl

theorem countAvailableForGang_eq (pos : 0 < size) : gpus.countAvailableForGang size =
    (runsOf gpus.listAvailable).countP (fun run => size ≤ run.length) := by
  unfold countAvailableForGang
  cases gpus.listAvailable with
  | nil =>
    have none : ¬ (size : Int) ≤ (0 : Nat) := by omega
    rw [blocksFrom, if_neg none, runsOf, countP_nil]
  | cons index rest =>
    have begun := @blocksFrom_eq size ⟨index, 1, Nat.one_pos⟩ rest 0
    dsimp only at begun
    rw [Nat.cast_one, add_sub_cancel_right, Nat.zero_add] at begun
    rw [blocksFrom, if_pos rfl, runsOf]
    exact begun

/-- The count is the greatest number of gangs that can be scheduled at once exactly
when nowhere twice as many devices in a row are free as one gang takes. -/
theorem countAvailableForGang_isGreatest_iff (gpus : GpuTable) (numGpus : Int)
    (positive : 1 ≤ numGpus) :
    IsGreatest {count | ∃ starts, Packs gpus.listAvailable numGpus.toNat starts ∧
        starts.card = count} (gpus.countAvailableForGang numGpus) ↔
      ¬ ∃ first, DeviceBlock GpuDevice.isFree gpus (2 * numGpus.toNat) first := by
  obtain ⟨size, rfl⟩ := Int.eq_ofNat_of_zero_le (Int.le_of_lt (Int.lt_of_lt_of_le Int.one_pos positive))
  have pos : 0 < size := by omega
  have sorted := sorted_listWhere GpuDevice.isFree gpus
  have greatest := isGreatest_room sorted pos
  have exact : IsGreatest {count | ∃ starts, Packs gpus.listAvailable size starts ∧
      starts.card = count} (gpus.countAvailableForGang size) ↔
        gpus.countAvailableForGang size = room size (runsOf gpus.listAvailable) :=
    ⟨fun other => other.unique greatest, fun same => by rw [same]; exact greatest⟩
  have twice : 0 < 2 * size := by omega
  rw [Int.toNat_natCast, exact, countAvailableForGang_eq pos, countP_eq_room_iff _ pos]
  simp only [← hasBlock_listWhere]
  exact forall_short_iff sorted twice

def idleDevices (indices : List Int) : GpuTable :=
  indices.foldl (fun gpus index => gpus.set index { availableMemoryMb := some 1024 }) Dict.empty

/-- Devices 0, 1 and 3 have room for one pair. -/
theorem idleDevices_room :
    IsGreatest {count | ∃ starts, Packs (idleDevices [0, 1, 3]).listAvailable 2 starts ∧
      starts.card = count} ((idleDevices [0, 1, 3]).countAvailableForGang 2) := by
  apply (countAvailableForGang_isGreatest_iff (idleDevices [0, 1, 3]) 2 (by decide)).mpr
  rintro ⟨first, has⟩
  have listed : (idleDevices [0, 1, 3]).listWhere GpuDevice.isFree = [0, 1, 3] := by decide
  have among := hasBlock_listWhere.mpr has
  rw [listed] at among
  have bottom := among first (mem_block.mpr (by dsimp only [Int.toNat]; omega))
  have low := among (first + 1) (mem_block.mpr (by dsimp only [Int.toNat]; omega))
  have high := among (first + 2) (mem_block.mpr (by dsimp only [Int.toNat]; omega))
  simp only [mem_cons, not_mem_nil, or_false] at bottom low high
  omega

/-- Four devices in a row have room for two pairs, and are counted as one. -/
theorem four_devices_counted_once :
    (idleDevices [0, 1, 2, 3]).countAvailableForGang 2 = 1 ∧
      ¬ IsGreatest {count | ∃ starts, Packs (idleDevices [0, 1, 2, 3]).listAvailable 2 starts ∧
        starts.card = count} ((idleDevices [0, 1, 2, 3]).countAvailableForGang 2) := by
  constructor
  · decide
  · rintro ⟨-, greatest⟩
    have listed : (idleDevices [0, 1, 2, 3]).listAvailable = [0, 1, 2, 3] := by decide
    have pairs : Packs (idleDevices [0, 1, 2, 3]).listAvailable 2 {0, 2} := by
      rw [listed]
      constructor
      · intro first isFirst number member
        rw [mem_block] at member
        simp only [Finset.mem_insert, Finset.mem_singleton] at isFirst
        simp only [mem_cons, not_mem_nil, or_false]
        omega
      · intro first other isFirst isOther different number
        rw [mem_block, mem_block]
        simp only [Finset.mem_insert, Finset.mem_singleton] at isFirst isOther
        omega
    have bound := greatest ⟨_, pairs, rfl⟩
    revert bound
    decide

end GpuTable

end Queue
end ZepGpu
