import ZepGpu.Foundation.Ranking
import ZepGpu.TrainingRuns.Tables

namespace ZepGpu
namespace TrainingRuns
namespace DistributedTrainingLauncher

open Foundation Dict List
open Rooms (Uuid strOfUuid)
open Placement (SelectedGpu)

/-!
# The ranks of a launch

The selected GPUs are gone through by island.  Each is counted twice, in the run
and in its island, and its assignment is filed under its provider.
-/

structure IslandRankAssignment where
  workerId : String
  providerId : String
  gpuShareId : String
  deviceIndex : Int
  globalRank : Nat
  islandRank : Nat
  worldSize : Nat
  islandWorldSize : Nat
  islandId : String
  deriving DecidableEq

/-- The key by which the selected GPUs are sorted. -/
def rankKey (item : SelectedGpu) : String ×ₗ String ×ₗ Int ×ₗ String :=
  toLex (item.islandId, toLex (item.providerId, toLex (item.deviceIndex, item.gpuShareId)))

/-- `counts[key] = counts.get(key, 0) + 1` -/
def counted (counts : Dict String Nat) (key : String) : Dict String Nat :=
  counts.set key ((counts.get? key).getD 0 + 1)

def islandSizes (ordered : List SelectedGpu) : Dict String Nat :=
  ordered.foldl (fun sizes item => counted sizes item.islandId) Dict.empty

/-- `d[key]` -/
def subscript {α : Type} (d : Dict String α) (key : String) : Except RunError α :=
  match d.get? key with
  | none => .error (.keyError key)
  | some value => .ok value

/-- What the loop of `_assign_ranks` changes. -/
structure Assigning where
  islandOffsets : Dict String Nat
  output : Dict String (List IslandRankAssignment)

def assignRank (workers : Dict String (Uuid × TrainingWorker)) (sizes : Dict String Nat)
    (worldSize : Nat) (before : Assigning) (turn : SelectedGpu × Nat) :
    Except RunError Assigning := do
  let (item, globalRank) := turn
  let islandRank := (before.islandOffsets.get? item.islandId).getD 0
  let worker ← subscript workers item.providerId
  let assignments ← subscript before.output item.providerId
  let islandWorldSize ← subscript sizes item.islandId
  let assignment :=
    { workerId := strOfUuid worker.1, providerId := item.providerId, gpuShareId := item.gpuShareId
      deviceIndex := item.deviceIndex, globalRank, islandRank, worldSize, islandWorldSize
      islandId := item.islandId }
  .ok ⟨counted before.islandOffsets item.islandId,
    before.output.set item.providerId (assignments ++ [assignment])⟩

/-- `{str(worker.peer_id): worker for worker in workers}` -/
def workersByProvider (workers : List (Uuid × TrainingWorker)) : Dict String (Uuid × TrainingWorker) :=
  Dict.empty.setAll (workers.map (fun worker => (strOfUuid worker.2.peerId, worker)))

/-- `_assign_ranks`, for workers with their identifiers and the selected GPUs of
the plan -/
def assignGpus (workers : List (Uuid × TrainingWorker)) (selectedGpus : List SelectedGpu) :
    Except RunError (Dict String (List IslandRankAssignment)) := do
  let ordered := sortedBy rankKey selectedGpus
  let assigned ← ordered.zipIdx.foldlM
    (assignRank (workersByProvider workers) (islandSizes ordered) ordered.length)
    ⟨Dict.empty, (workersByProvider workers).adjust (fun _ _ => [])⟩
  raiseIf (assigned.output.keys.any (fun provider => assigned.output.get? provider = some []) = true)
    (.launch "every selected worker requires at least one GPU assignment")
  .ok assigned.output

def assignRanks (workers : List (Uuid × TrainingWorker)) (plan : Placement.PlacementPlan) :
    Except RunError (Dict String (List IslandRankAssignment)) :=
  assignGpus workers plan.selectedGpus

theorem getD_counted (counts : Dict String Nat) (key other : String) :
    ((counted counts key).get? other).getD 0 =
      (counts.get? other).getD 0 + if key = other then 1 else 0 := by
  rcases eq_or_ne key other with rfl | different
  · rw [counted, get?_set_self, if_pos rfl, Option.getD_some]
  · rw [counted, get?_set_of_ne different.symm, if_neg different, Nat.add_zero]

def islandSize (items : List SelectedGpu) (islandId : String) : Nat :=
  items.countP (fun item => item.islandId = islandId)

theorem islandSize_concat (items : List SelectedGpu) (item : SelectedGpu)
    (islandId : String) : islandSize (items ++ [item]) islandId =
      islandSize items islandId + if item.islandId = islandId then 1 else 0 := by
  simp [islandSize, countP_append, countP_singleton]

theorem getD_islandSizes (items : List SelectedGpu) (islandId : String) :
    ((islandSizes items).get? islandId).getD 0 = islandSize items islandId := by
  induction items using List.reverseRecOn with
  | nil => rfl
  | append_singleton items item ih =>
    rw [islandSize_concat, ← ih, islandSizes, foldl_append]
    exact getD_counted _ _ _

theorem get?_islandSizes {items : List SelectedGpu} {item : SelectedGpu} (listed : item ∈ items) :
    (islandSizes items).get? item.islandId = some (islandSize items item.islandId) := by
  have size := getD_islandSizes items item.islandId
  have positive : 0 < islandSize items item.islandId :=
    countP_pos_iff.mpr ⟨item, listed, decide_eq_true rfl⟩
  cases found : (islandSizes items).get? item.islandId with
  | none =>
    rw [found, Option.getD_none] at size
    omega
  | some count =>
    rw [found, Option.getD_some] at size
    rw [size]

theorem workersByProvider_spec (workers : List (Uuid × TrainingWorker)) :
    (∀ worker, worker ∈ workers ->
      strOfUuid worker.2.peerId ∈ (workersByProvider workers).keys) ∧
    ∀ provider worker, (workersByProvider workers).get? provider = some worker ->
      worker ∈ workers ∧ strOfUuid worker.2.peerId = provider := by
  induction workers using List.reverseRecOn with
  | nil => exact ⟨fun worker member => absurd member not_mem_nil, fun _ _ found => nomatch found⟩
  | append_singleton workers last ih =>
    have entered : workersByProvider (workers ++ [last]) =
        (workersByProvider workers).set (strOfUuid last.2.peerId) last := by
      rw [workersByProvider, Dict.setAll, map_append, foldl_append]
      rfl
    rw [entered]
    constructor
    · intro worker member
      rw [mem_keys_set]
      rcases mem_append.mp member with early | late
      · exact Or.inr (ih.1 worker early)
      · exact Or.inl (mem_singleton.mp late ▸ rfl)
    · intro provider worker found
      rcases eq_or_ne provider (strOfUuid last.2.peerId) with rfl | different
      · rw [get?_set_self, Option.some.injEq] at found
        exact ⟨mem_append_right _ (mem_singleton.mpr found.symm), found ▸ rfl⟩
      · rw [get?_set_of_ne different] at found
        exact ⟨mem_append_left _ (ih.2 provider worker found).1, (ih.2 provider worker found).2⟩

section Loop

variable {workers : Dict String (Uuid × TrainingWorker)} {sizes : Dict String Nat} {worldSize : Nat}
  {front rest : List SelectedGpu} {item : SelectedGpu} {before : Assigning}

def assignmentOf (workers : Dict String (Uuid × TrainingWorker)) (sizes : Dict String Nat)
    (worldSize : Nat) (entry : Ranked SelectedGpu) : IslandRankAssignment where
  workerId := ((workers.get? entry.value.providerId).map (fun worker => strOfUuid worker.1)).getD ""
  providerId := entry.value.providerId
  gpuShareId := entry.value.gpuShareId
  deviceIndex := entry.value.deviceIndex
  globalRank := entry.overall
  islandRank := entry.within
  worldSize := worldSize
  islandWorldSize := (sizes.get? entry.value.islandId).getD 0
  islandId := entry.value.islandId

/-- The counters and the ranks after a part of the devices. -/
structure Numbered (workers : Dict String (Uuid × TrainingWorker)) (sizes : Dict String Nat)
    (worldSize : Nat) (front : List SelectedGpu) (reached : Assigning) : Prop where
  offsets : ∀ islandId,
    (reached.islandOffsets.get? islandId).getD 0 = islandSize front islandId
  keys : reached.output.keys = workers.keys
  filed : ∀ provider, provider ∈ workers.keys -> reached.output.get? provider =
    some (((ranked SelectedGpu.islandId [] front).filter
      (fun entry => entry.value.providerId = provider)).map (assignmentOf workers sizes worldSize))

theorem numbered_start : Numbered workers sizes worldSize []
    ⟨Dict.empty, workers.adjust (fun _ _ => [])⟩ where
  offsets := fun _ => rfl
  keys := rfl
  filed := by
    intro provider listed
    rcases exists_get?_of_mem listed with ⟨worker, found⟩
    rw [get?_adjust, found]
    rfl

theorem assignRank_numbered (numbered : Numbered workers sizes worldSize front before)
    (known : item.providerId ∈ workers.keys) (sized : (sizes.get? item.islandId).isSome = true) :
    ∃ after, assignRank workers sizes worldSize before (item, front.length) = .ok after ∧
      Numbered workers sizes worldSize (front ++ [item]) after := by
  rcases exists_get?_of_mem known with ⟨worker, isWorker⟩
  rcases Option.isSome_iff_exists.mp sized with ⟨size, isSize⟩
  have filed := numbered.filed item.providerId known
  have listed : item.providerId ∈ before.output.keys := numbered.keys ▸ known
  unfold assignRank subscript
  dsimp only
  rw [isWorker, filed, isSize]
  refine ⟨_, rfl, ?_, (keys_set_of_mem listed).trans numbered.keys, ?_⟩
  · intro islandId
    rw [getD_counted, numbered.offsets, islandSize_concat]
  · intro provider inside
    rw [ranked_concat, filter_append, map_append, nil_append]
    rcases eq_or_ne provider item.providerId with rfl | different
    · rw [get?_set_self, numbered.offsets, filter_singleton, decide_eq_true rfl, cond_true,
        map_singleton, assignmentOf, isWorker, isSize]
      rfl
    · rw [get?_set_of_ne different, numbered.filed provider inside, filter_singleton,
        decide_eq_false different.symm, cond_false, map_nil, append_nil]

theorem assignAll_numbered (numbered : Numbered workers sizes worldSize front before)
    (known : ∀ item, item ∈ rest -> item.providerId ∈ workers.keys)
    (sized : ∀ item, item ∈ rest -> (sizes.get? item.islandId).isSome = true) :
    ∃ after, (rest.zipIdx front.length).foldlM (assignRank workers sizes worldSize) before =
        .ok after ∧ Numbered workers sizes worldSize (front ++ rest) after := by
  induction rest generalizing front before with
  | nil => exact ⟨before, rfl, (append_nil front).symm ▸ numbered⟩
  | cons item rest ih =>
    rcases assignRank_numbered numbered (known item mem_cons_self) (sized item mem_cons_self)
      with ⟨middle, here, next⟩
    rcases ih next (fun other member => known other (mem_cons_of_mem _ member))
      (fun other member => sized other (mem_cons_of_mem _ member)) with ⟨after, later, all⟩
    rw [length_append, length_singleton] at later
    rw [append_assoc] at all
    refine ⟨after, ?_, all⟩
    rw [zipIdx_cons, foldlM_cons, here]
    exact later

end Loop

def assignments (output : Dict String (List IslandRankAssignment)) : List IslandRankAssignment :=
  output.keys.flatMap (fun provider => (output.get? provider).getD [])

def IslandRankAssignment.gpu (assignment : IslandRankAssignment) : String ×ₗ String ×ₗ Int ×ₗ String :=
  toLex (assignment.islandId,
    toLex (assignment.providerId, toLex (assignment.deviceIndex, assignment.gpuShareId)))

/-- Every selected GPU has one assignment, and the two ranks number the run and each
of its islands, which are consecutive in the run. -/
structure Bijective (workers : List (Uuid × TrainingWorker)) (items : List SelectedGpu)
    (output : Dict String (List IslandRankAssignment)) : Prop where
  filed : ∀ provider assigned, output.get? provider = some assigned ->
    ∀ assignment, assignment ∈ assigned -> assignment.providerId = provider ∧
      ∃ worker, worker ∈ workers ∧ strOfUuid worker.2.peerId = provider ∧
        assignment.workerId = strOfUuid worker.1
  gpus : ((assignments output).map IslandRankAssignment.gpu).Perm (items.map rankKey)
  globalRanks : ((assignments output).map IslandRankAssignment.globalRank).Perm
    (List.range items.length)
  islandRanks : ∀ islandId, (((assignments output).filter
    (fun assignment => assignment.islandId = islandId)).map IslandRankAssignment.islandRank).Perm
      (List.range (islandSize items islandId))
  contiguous : ∀ islandId, ∃ first, ∀ assignment, assignment ∈ assignments output ->
    assignment.islandId = islandId -> assignment.globalRank = first + assignment.islandRank
  sizes : ∀ assignment, assignment ∈ assignments output -> assignment.worldSize = items.length ∧
    assignment.islandWorldSize = islandSize items assignment.islandId

section Launch

variable {workers : Dict String (Uuid × TrainingWorker)} {sizes : Dict String Nat} {worldSize : Nat}
  {ordered : List SelectedGpu} {reached : Assigning}

theorem Numbered.perm (numbered : Numbered workers sizes worldSize ordered reached)
    (known : ∀ item, item ∈ ordered -> item.providerId ∈ workers.keys) :
    (assignments reached.output).Perm ((ranked SelectedGpu.islandId [] ordered).map
      (assignmentOf workers sizes worldSize)) := by
  have regrouped : assignments reached.output = (workers.keys.flatMap (fun provider =>
      (ranked SelectedGpu.islandId [] ordered).filter
        (fun entry => entry.value.providerId = provider))).map (assignmentOf workers sizes worldSize) := by
    rw [assignments, numbered.keys, map_flatMap]
    apply flatMap_congr
    intro provider listed
    rw [numbered.filed provider listed, Option.getD_some]
  rw [regrouped]
  apply List.Perm.map
  apply perm_flatMap_filter workers.nodup
  intro entry member
  apply known
  have value := mem_map_of_mem (f := Ranked.value) member
  rw [map_value_ranked] at value
  exact value

theorem islandSize_sortedBy (items : List SelectedGpu) (islandId : String) :
    islandSize (sortedBy rankKey items) islandId = islandSize items islandId :=
  perm_sortedBy.countP_eq _

theorem sorted_by_island (items : List SelectedGpu) :
    (sortedBy rankKey items).Pairwise (fun left right => left.islandId ≤ right.islandId) := by
  apply pairwise_sortedBy.imp
  intro left right below
  exact Prod.Lex.monotone_fst _ _ below

theorem Numbered.bijective {launched : List (Uuid × TrainingWorker)} {items : List SelectedGpu}
    (numbered : Numbered workers (islandSizes (sortedBy rankKey items)) (sortedBy rankKey items).length
      (sortedBy rankKey items) reached)
    (known : ∀ item, item ∈ sortedBy rankKey items -> item.providerId ∈ workers.keys)
    (launches : ∀ provider, provider ∈ workers.keys -> ∃ worker, worker ∈ launched ∧
      strOfUuid worker.2.peerId = provider ∧ workers.get? provider = some worker) :
    Bijective launched items reached.output where
  filed := by
    intro provider assigned found assignment member
    have listed : provider ∈ workers.keys := numbered.keys ▸ mem_keys_of_get? found
    rw [numbered.filed provider listed, Option.some.injEq] at found
    rw [← found] at member
    rcases mem_map.mp member with ⟨entry, inside, rfl⟩
    have own := of_decide_eq_true (mem_filter.mp inside).2
    rcases launches provider listed with ⟨worker, launch, peer, isWorker⟩
    refine ⟨own, worker, launch, peer, ?_⟩
    rw [assignmentOf, own, isWorker, Option.map_some, Option.getD_some]
  gpus := by
    have all := (numbered.perm known).map IslandRankAssignment.gpu
    rw [map_map] at all
    have values : (ranked SelectedGpu.islandId [] (sortedBy rankKey items)).map
        (rankKey ∘ Ranked.value) = (sortedBy rankKey items).map rankKey := by
      rw [← map_map, map_value_ranked]
    exact all.trans (values ▸ perm_sortedBy.map rankKey)
  globalRanks := by
    have all := (numbered.perm known).map IslandRankAssignment.globalRank
    rw [map_map] at all
    have numbers := @map_overall_ranked _ _ _ SelectedGpu.islandId [] (sortedBy rankKey items)
    rw [length_sortedBy] at numbers
    rw [range_eq_range', ← length_nil, ← numbers]
    exact all
  islandRanks := by
    intro islandId
    have all := ((numbered.perm known).filter (fun assignment => assignment.islandId = islandId)).map
      IslandRankAssignment.islandRank
    rw [filter_map, map_map] at all
    have numbers := @map_within_ranked _ _ _ SelectedGpu.islandId [] (sortedBy rankKey items) islandId
    rw [range_eq_range', ← islandSize_sortedBy]
    exact numbers ▸ all
  contiguous := by
    intro islandId
    refine ⟨(sortedBy rankKey items).countP (fun item => item.islandId < islandId), ?_⟩
    intro assignment member same
    rcases mem_map.mp ((numbered.perm known).mem_iff.mp member) with ⟨entry, listed, rfl⟩
    rw [← same]
    exact overall_eq_of_sorted (sorted_by_island items) listed
  sizes := by
    intro assignment member
    rcases mem_map.mp ((numbered.perm known).mem_iff.mp member) with ⟨entry, listed, rfl⟩
    refine ⟨length_sortedBy, ?_⟩
    exact (getD_islandSizes _ _).trans (islandSize_sortedBy _ _)

end Launch

/-- With the selected GPUs on the workers' providers, and at least one for each
worker, the assignments are a numbering of the GPUs. -/
theorem assignRanks_bijective (workers : List (Uuid × TrainingWorker)) (plan : Placement.PlacementPlan)
    (belongs : ∀ item, item ∈ plan.selectedGpus ->
      ∃ worker, worker ∈ workers ∧ strOfUuid worker.2.peerId = item.providerId)
    (supplied : ∀ worker, worker ∈ workers ->
      ∃ item, item ∈ plan.selectedGpus ∧ item.providerId = strOfUuid worker.2.peerId) :
    ∃ output, assignRanks workers plan = .ok output ∧
      Bijective workers plan.selectedGpus output := by
  have spec := workersByProvider_spec workers
  have known : ∀ item, item ∈ sortedBy rankKey plan.selectedGpus ->
      item.providerId ∈ (workersByProvider workers).keys := by
    intro item listed
    rcases belongs item (mem_sortedBy.mp listed) with ⟨worker, inside, same⟩
    exact same ▸ spec.1 worker inside
  have launches : ∀ provider, provider ∈ (workersByProvider workers).keys ->
      ∃ worker, worker ∈ workers ∧ strOfUuid worker.2.peerId = provider ∧
        (workersByProvider workers).get? provider = some worker := by
    intro provider listed
    rcases exists_get?_of_mem listed with ⟨worker, found⟩
    exact ⟨worker, (spec.2 provider worker found).1, (spec.2 provider worker found).2, found⟩
  rcases assignAll_numbered numbered_start known
    (fun item listed => Option.isSome_iff_exists.mpr ⟨_, get?_islandSizes listed⟩) with
    ⟨reached, run, numbered⟩
  rw [nil_append] at numbered
  refine ⟨reached.output, ?_, numbered.bijective known launches⟩
  refine bind_eq_ok.mpr ⟨reached, run, raiseIf_bind_eq_ok.mpr ⟨?_, rfl⟩⟩
  -- A worker has a GPU, whose assignment is filed.
  rw [any_eq_true]
  rintro ⟨provider, listed, nothing⟩
  rw [numbered.keys] at listed
  rcases launches provider listed with ⟨worker, inside, peer, _⟩
  rcases supplied worker inside with ⟨item, selected, own⟩
  have value : item ∈ (ranked SelectedGpu.islandId []
      (sortedBy rankKey plan.selectedGpus)).map Ranked.value := by
    rw [map_value_ranked]
    exact mem_sortedBy.mpr selected
  rcases mem_map.mp value with ⟨entry, counts, rfl⟩
  have empty := of_decide_eq_true nothing
  rw [numbered.filed provider listed, Option.some.injEq, map_eq_nil_iff, filter_eq_nil_iff] at empty
  exact empty entry counts (decide_eq_true (own.trans peer))

def twoWorkers : List (Uuid × TrainingWorker) :=
  [(11, { peerId := 1 }), (12, { peerId := 2 })]

/-- The second provider has its GPU on the island of the first one's second GPU. -/
def twoIslands : Placement.PlacementPlan where
  planId := "plan"
  roomId := "room"
  strategy := .diloco
  status := .capable
  selectedProviderIds := [strOfUuid 1, strOfUuid 2]
  selectedGpus :=
    [⟨strOfUuid 2, "c", 0, 8192, "lan"⟩, ⟨strOfUuid 1, "a", 0, 8192, "host"⟩,
      ⟨strOfUuid 1, "b", 1, 8192, "lan"⟩]
  selectedIslandIds := ["host", "lan"]
  candidateIslands := []
  rejectedCandidates := []
  warnings := []
  actionableReasons := []
  strategyEligibility := []
  networkMeasurements := []
  explanation := ""

/-- Two islands, one of them shared by two workers. -/
theorem twoIslands_ranked : ∃ output, assignRanks twoWorkers twoIslands = .ok output ∧
    Bijective twoWorkers twoIslands.selectedGpus output := by
  apply assignRanks_bijective twoWorkers twoIslands
  · intro item listed
    simp only [twoIslands, mem_cons, not_mem_nil, or_false] at listed
    rcases listed with rfl | rfl | rfl
    · exact ⟨(12, { peerId := 2 }), by simp [twoWorkers], rfl⟩
    · exact ⟨(11, { peerId := 1 }), by simp [twoWorkers], rfl⟩
    · exact ⟨(11, { peerId := 1 }), by simp [twoWorkers], rfl⟩
  · intro worker listed
    simp only [twoWorkers, mem_cons, not_mem_nil, or_false] at listed
    rcases listed with rfl | rfl
    · exact ⟨⟨strOfUuid 1, "a", 0, 8192, "host"⟩, by simp [twoIslands], rfl⟩
    · exact ⟨⟨strOfUuid 2, "c", 0, 8192, "lan"⟩, by simp [twoIslands], rfl⟩

end DistributedTrainingLauncher
end TrainingRuns
end ZepGpu
