import Mathlib.Data.List.Dedup
import Mathlib.Data.List.Flatten
import ZepGpu.Placement.IslandMembers
import ZepGpu.Placement.Normalization
import ZepGpu.Placement.OrderIndependence

namespace ZepGpu
namespace Placement

open Foundation List

/-!
# What is selected

The accepted providers have exactly the GPUs that a node is to have.  Whichever
way a job selects, it takes all GPUs of some of the accepted providers, so that
a selection is large enough when it has enough providers.
-/

structure Valid (config : TrainingRunConfig) (job : Phase18TrainingConfig) : Prop where
  validated : ∃ (S : Scalars) (json : Json), TrainingRunConfig.modelValidate S json = .ok config
  job : config.phase18 = some job

/-- What validation says about the size of a job, its scope and its requirements. -/
structure Sized (job : Phase18TrainingConfig) : Prop where
  nodes : 1 ≤ job.requestedNodeCount
  gpus : 1 ≤ job.gpusPerNode
  total : job.totalGpus = job.requestedNodeCount * job.gpusPerNode
  scope : job.strategy ∈ DistributedStrategy.tightlyCoupled ->
    ∃ scope, job.networkScope = some scope ∧ scope ≠ .wan
  requires : job.strategy = .fsdp2 -> job.runtimeRequirements.requiresCuda = true ∧
    job.runtimeRequirements.requiresP2p = true ∧ job.runtimeRequirements.requiresFsdp2 = true

theorem Phase18TrainingConfig.Readable.sized {job : Phase18TrainingConfig} (readable : job.Readable) :
    Sized job := by
  obtain ⟨total, rest⟩ := raiseIf_bind_eq_ok.mp readable.validated
  obtain ⟨_, rest⟩ := raiseIf_bind_eq_ok.mp rest
  obtain ⟨_, rest⟩ := raiseIf_bind_eq_ok.mp rest
  obtain ⟨_, rest⟩ := raiseIf_bind_eq_ok.mp rest
  obtain ⟨near, same⟩ := raiseIf_bind_eq_ok.mp rest
  refine ⟨readable.declared.1.1, readable.declared.2.1.1, not_not.mp total, ?_, ?_⟩
  · intro coupled
    have filled := congrArg Phase18TrainingConfig.networkScope (Except.ok.inj same)
    rw [Phase18TrainingConfig.filled, if_pos coupled] at filled
    exact ⟨_, filled.symm, fun wide => near ⟨coupled, by rw [← filled, wide]⟩⟩
  · intro strategy
    have filled := congrArg Phase18TrainingConfig.runtimeRequirements (Except.ok.inj same)
    have coupled : job.strategy ∈ DistributedStrategy.tightlyCoupled := by
      rw [strategy]
      exact mem_cons_self
    rw [Phase18TrainingConfig.filled, if_pos coupled] at filled
    dsimp only at filled
    rw [if_pos strategy] at filled
    rw [← filled]
    exact ⟨rfl, rfl, rfl⟩

theorem Valid.sized {config : TrainingRunConfig} {job : Phase18TrainingConfig}
    (valid : Valid config job) : Sized job := by
  obtain ⟨S, json, accepted⟩ := valid.validated
  exact ((TrainingRunConfig.partsReadable_of_modelValidate accepted).phase18 job valid.job).sized

/-- What holds of the candidates that passed the checks. -/
structure Accepted (job : Phase18TrainingConfig) (accepted : List ProviderCandidate) : Prop where
  unique : UniqueIds accepted
  count : ∀ provider, provider ∈ accepted -> provider.gpuShares.length = job.gpusPerNode
  owner : ∀ provider, provider ∈ accepted -> ∀ gpu, gpu ∈ provider.gpuShares ->
    gpu.providerId = provider.providerId
  sorted : accepted.Pairwise (fun left right => left.providerId ≤ right.providerId)

namespace PlacementPlanner

variable (self : PlacementPlanner) (roomId : String) (job : Phase18TrainingConfig)

variable {provider : ProviderCandidate}

theorem mem_accepted {providers : List ProviderCandidate} :
    provider ∈ (self.filter roomId job providers).accepted ↔
      ∃ candidate, candidate ∈ providers ∧ self.rejection roomId job candidate = none ∧
        clean roomId job candidate = provider := by
  unfold filter
  rw [mem_map]
  constructor
  · rintro ⟨candidate, member, same⟩
    obtain ⟨inside, passes⟩ := mem_filter.mp member
    exact ⟨candidate, mem_sortedBy.mp inside, of_decide_eq_true passes, same⟩
  · rintro ⟨candidate, member, passes, same⟩
    exact ⟨candidate, mem_filter.mpr ⟨mem_sortedBy.mpr member, decide_eq_true passes⟩, same⟩

theorem rejection_eq_none (passes : self.rejection roomId job provider = none) :
    self.providerRejection roomId job provider = none ∧
      job.gpusPerNode ≤ (viableGpus roomId job provider).length := by
  obtain ⟨first, second⟩ := Option.or_eq_none_iff.mp passes
  refine ⟨first, ?_⟩
  by_contra few
  rw [if_pos (Nat.lt_of_not_le few)] at second
  cases second

theorem mem_clean {gpu : GpuCandidate} (member : gpu ∈ (clean roomId job provider).gpuShares) :
    gpu ∈ provider.gpuShares ∧ viable roomId job provider gpu := by
  obtain ⟨inside, good⟩ := mem_filter.mp (mem_of_mem_take member)
  exact ⟨mem_sortedBy.mp inside, of_decide_eq_true good⟩

theorem clean_sublist (provider : ProviderCandidate) :
    (clean roomId job provider).gpuShares.Sublist (sortedBy shareKey provider.gpuShares) :=
  (take_sublist _ _).trans filter_sublist

theorem clean_ids_nodup (distinct : (provider.gpuShares.map GpuCandidate.gpuShareId).Nodup) :
    ((clean roomId job provider).gpuShares.map GpuCandidate.gpuShareId).Nodup := by
  have ordered : ((sortedBy shareKey provider.gpuShares).map GpuCandidate.gpuShareId).Nodup :=
    (perm_sortedBy.map _).nodup_iff.mpr distinct
  exact ordered.sublist ((clean_sublist roomId job provider).map _)

theorem clean_ids_subset (provider : ProviderCandidate) :
    (clean roomId job provider).gpuShares.map GpuCandidate.gpuShareId ⊆
      provider.gpuShares.map GpuCandidate.gpuShareId := by
  apply map_subset
  intro gpu member
  exact (mem_clean roomId job member).1

theorem accepted_filter {providers : List ProviderCandidate} (unique : UniqueIds providers) :
    Accepted job (self.filter roomId job providers).accepted := by
  have perm : (sortedBy ProviderCandidate.providerId providers).Perm providers := perm_sortedBy
  have ordered := unique.perm perm.symm
  refine ⟨⟨?_, ?_⟩, ?_, ?_, ?_⟩
  · unfold filter
    rw [map_map]
    exact ordered.providers.sublist (filter_sublist.map _)
  · have shares := ordered.shares
    rw [map_flatMap, nodup_flatMap] at shares ⊢
    constructor
    · intro provider member
      obtain ⟨candidate, inside, _, rfl⟩ := (self.mem_accepted roomId job).mp member
      have distinct := shares.1 candidate (perm.mem_iff.mpr inside)
      exact clean_ids_nodup roomId job distinct
    · unfold filter
      rw [pairwise_map]
      apply (shares.2.filter _).imp
      intro first second apart id inFirst inSecond
      exact apart (clean_ids_subset roomId job first inFirst)
        (clean_ids_subset roomId job second inSecond)
  · intro provider member
    obtain ⟨candidate, _, passes, rfl⟩ := (self.mem_accepted roomId job).mp member
    have enough := (self.rejection_eq_none roomId job passes).2
    exact (length_take ..).trans (min_eq_left enough)
  · intro provider member gpu inside
    obtain ⟨candidate, _, _, rfl⟩ := (self.mem_accepted roomId job).mp member
    exact (mem_clean roomId job inside).2.2.1
  · unfold filter
    rw [pairwise_map]
    exact pairwise_sortedBy.filter _

end PlacementPlanner

def GpuCandidate.figures (gpu : GpuCandidate) : String × String × Int × Nat :=
  (gpu.providerId, gpu.gpuShareId, gpu.deviceIndex, gpu.totalMemoryMb)

def SelectedGpu.figures (gpu : SelectedGpu) : String × String × Int × Nat :=
  (gpu.providerId, gpu.gpuShareId, gpu.deviceIndex, gpu.perGpuVramMb)

/-- The selected devices are all the shares of the members. -/
def Takes (members : List ProviderCandidate) (gpus : List SelectedGpu) : Prop :=
  (gpus.map SelectedGpu.figures).Perm
    ((members.flatMap ProviderCandidate.gpuShares).map GpuCandidate.figures)

section Takes

variable {job : Phase18TrainingConfig} {accepted members : List ProviderCandidate}
  {gpus : List SelectedGpu}

theorem Accepted.length_shares (facts : Accepted job accepted) (inside : members ⊆ accepted) :
    (members.flatMap ProviderCandidate.gpuShares).length = members.length * job.gpusPerNode := by
  induction members with
  | nil => simp
  | cons first rest ih =>
    rw [flatMap_cons, length_append, ih (subset_of_cons_subset inside),
      facts.count first (inside mem_cons_self), length_cons]
    ring

theorem Takes.length (takes : Takes members gpus) (facts : Accepted job accepted)
    (inside : members ⊆ accepted) : gpus.length = members.length * job.gpusPerNode := by
  have same := takes.length_eq
  rw [length_map, length_map, facts.length_shares inside] at same
  exact same

theorem Takes.mem_providerIds (takes : Takes members gpus) (facts : Accepted job accepted)
    (sized : Sized job) (inside : members ⊆ accepted) {id : String} :
    id ∈ gpus.map SelectedGpu.providerId ↔ id ∈ members.map ProviderCandidate.providerId := by
  have left : gpus.map SelectedGpu.providerId = (gpus.map SelectedGpu.figures).map Prod.fst := by
    rw [map_map]
    rfl
  rw [left, (takes.map Prod.fst).mem_iff, map_map]
  constructor
  · intro member
    obtain ⟨gpu, found, rfl⟩ := mem_map.mp member
    obtain ⟨provider, ours, held⟩ := mem_flatMap.mp found
    exact mem_map.mpr ⟨provider, ours, (facts.owner provider (inside ours) gpu held).symm⟩
  · intro member
    obtain ⟨provider, ours, rfl⟩ := mem_map.mp member
    have some : provider.gpuShares ≠ [] := by
      intro none
      have count := facts.count provider (inside ours)
      rw [none] at count
      exact absurd sized.gpus (by rw [← count]; decide)
    obtain ⟨gpu, held⟩ := exists_mem_of_ne_nil _ some
    exact mem_map.mpr ⟨gpu, mem_flatMap.mpr ⟨provider, ours, held⟩,
      facts.owner provider (inside ours) gpu held⟩

theorem Takes.dedup_providerIds (takes : Takes members gpus) (facts : Accepted job accepted)
    (sized : Sized job) (inside : members ⊆ accepted)
    (distinct : (members.map ProviderCandidate.providerId).Nodup) :
    (gpus.map SelectedGpu.providerId).dedup.Perm (members.map ProviderCandidate.providerId) := by
  apply (perm_ext_iff_of_nodup (nodup_dedup _) distinct).mpr
  intro id
  rw [mem_dedup, takes.mem_providerIds facts sized inside]

theorem Takes.enough_iff (takes : Takes members gpus) (facts : Accepted job accepted)
    (sized : Sized job) (inside : members ⊆ accepted)
    (distinct : (members.map ProviderCandidate.providerId).Nodup) :
    enough job gpus ↔ members.length = job.requestedNodeCount := by
  unfold enough
  rw [(takes.dedup_providerIds facts sized inside distinct).length_eq, length_map,
    takes.length facts inside, sized.total]
  constructor
  · exact fun both => both.1
  · exact fun same => ⟨same, by rw [same]⟩

end Takes

section LastWith

variable {α : Type} {values : List α} {matching : α -> Bool} {value : α}

theorem exists_lastWith (member : value ∈ values) (good : matching value = true) :
    ∃ last, lastWith values matching = some last ∧ last ∈ values ∧ matching last = true := by
  unfold lastWith
  cases found : values.reverse.find? matching with
  | none => exact absurd good (find?_eq_none.mp found value (mem_reverse.mpr member))
  | some last =>
    exact ⟨last, rfl, mem_reverse.mp (mem_of_find?_eq_some found), find?_some found⟩

theorem lastWith_eq_some (member : value ∈ values) (good : matching value = true)
    (only : ∀ other, other ∈ values -> matching other = true -> other = value) :
    lastWith values matching = some value := by
  obtain ⟨last, found, inside, goodToo⟩ := exists_lastWith member good
  rw [found, only last inside goodToo]

end LastWith

section Islands

variable {job : Phase18TrainingConfig} {accepted members : List ProviderCandidate}
  {island : GpuIsland} {islands : List GpuIsland}

/-- An island over some of the accepted providers, with all of their devices. -/
structure Covers (accepted members : List ProviderCandidate) (island : GpuIsland) : Prop where
  inside : members.Sublist accepted
  providerIds : island.providerIds.Perm (members.map ProviderCandidate.providerId)
  gpuShareIds : ∃ shares : List GpuCandidate,
    shares.Perm (members.flatMap ProviderCandidate.gpuShares) ∧
      island.gpuShareIds = shares.map GpuCandidate.gpuShareId

theorem UniqueIds.sublist {some all : List ProviderCandidate} (unique : UniqueIds all)
    (fewer : some.Sublist all) : UniqueIds some := by
  refine ⟨unique.providers.sublist (fewer.map _), ?_⟩
  exact unique.shares.sublist ((fewer.flatMap _).map _)

theorem Accepted.sortedBy_eq (facts : Accepted job accepted) :
    sortedBy ProviderCandidate.providerId accepted = accepted :=
  sortedBy_eq_self facts.sorted

theorem Accepted.shares_ne_nil (facts : Accepted job accepted) (sized : Sized job)
    {provider : ProviderCandidate} (member : provider ∈ accepted) : provider.gpuShares ≠ [] := by
  apply ne_nil_of_length_pos
  rw [facts.count provider member]
  exact sized.gpus

theorem IsSameHost.covers {provider : ProviderCandidate} (host : IsSameHost provider island)
    (member : provider ∈ accepted) : Covers accepted [provider] island := by
  refine ⟨singleton_sublist.mpr member, ?_, ?_⟩
  · rw [host.providerIds]
    exact List.Perm.refl _
  · refine ⟨sortedBy shareKey provider.gpuShares, ?_, host.gpuShareIds⟩
    rw [flatMap_singleton]
    exact perm_sortedBy

theorem IsLan.covers {L : Library} {now maxAge : Time} (lan : IsLan L now maxAge members island)
    (inside : members.Sublist accepted) : Covers accepted members island := by
  obtain ⟨_, evidence, _, rfl⟩ := lan
  refine ⟨inside, perm_sortedBy.map _, _, ?_, rfl⟩
  exact perm_sortedBy.trans (perm_sortedBy.flatMap_right _)

theorem groupOf_sublist (L : Library) (signature : Signature) (facts : Accepted job accepted) :
    (groupOf L signature (sortedBy ProviderCandidate.providerId accepted)).Sublist accepted := by
  rw [facts.sortedBy_eq]
  exact filter_sublist

theorem exists_covers {L : Library} {now maxAge : Time} (facts : Accepted job accepted)
    (built : buildGpuIslands L now maxAge accepted = .ok islands) (member : island ∈ islands) :
    ∃ members, Covers accepted members island ∧
      CompleteEvidence L now maxAge members island.pairwiseEvidence := by
  rcases (mem_buildGpuIslands L now maxAge built).mp member with
    ⟨provider, inside, _, made⟩ | ⟨signature, lan⟩
  · refine ⟨[provider], (sameHostIsland_spec made).covers inside, ?_⟩
    intro source here target there different
    rw [mem_singleton.mp here, mem_singleton.mp there] at different
    exact absurd rfl different
  · refine ⟨_, lan.covers (groupOf_sublist L signature facts), ?_⟩
    obtain ⟨_, evidence, complete, rfl⟩ := lan
    exact completePairwiseEvidence_spec L now maxAge complete

theorem Covers.length_providerIds (covers : Covers accepted members island) :
    island.providerIds.length = members.length := by
  rw [covers.providerIds.length_eq, length_map]

theorem Covers.length_gpuShareIds (covers : Covers accepted members island)
    (facts : Accepted job accepted) :
    island.gpuShareIds.length = members.length * job.gpusPerNode := by
  obtain ⟨shares, perm, same⟩ := covers.gpuShareIds
  rw [same, length_map, perm.length_eq, facts.length_shares covers.inside.subset]

theorem lookupShares_eq {shares wanted : List GpuCandidate}
    (distinct : (shares.map GpuCandidate.gpuShareId).Nodup) (inside : wanted ⊆ shares) :
    lookupShares shares island (wanted.map GpuCandidate.gpuShareId) =
      .ok (wanted.map (fun gpu => selectedGpu gpu.providerId gpu island)) := by
  induction wanted with
  | nil => rfl
  | cons gpu rest ih =>
    have found : lastWith shares (fun other => other.gpuShareId = gpu.gpuShareId) = some gpu := by
      apply lastWith_eq_some (inside mem_cons_self) (decide_eq_true rfl)
      intro other member same
      exact inj_on_of_nodup_map distinct member (inside mem_cons_self) (of_decide_eq_true same)
    rw [map_cons, lookupShares, found, ih (subset_of_cons_subset inside)]
    rfl

/-- The devices of a placement that lies within one island. -/
structure TakesIsland (members : List ProviderCandidate) (island : GpuIsland)
    (gpus : List SelectedGpu) : Prop where
  takes : Takes members gpus
  island : ∀ gpu, gpu ∈ gpus -> gpu.islandId = island.islandId ∧
    gpu.gpuShareId ∈ island.gpuShareIds

theorem Covers.takesIsland (covers : Covers accepted members island) (facts : Accepted job accepted)
    (sized : Sized job) (count : members.length = job.requestedNodeCount) :
    ∃ gpus,
      lookupShares
        ((accepted.filter (fun provider => provider.providerId ∈ island.providerIds)).flatMap
          ProviderCandidate.gpuShares) island (island.gpuShareIds.take job.totalGpus) = .ok gpus ∧
      TakesIsland members island gpus := by
  have all : island.gpuShareIds.take job.totalGpus = island.gpuShareIds := by
    apply take_of_length_le
    rw [covers.length_gpuShareIds facts, sized.total, count]
  obtain ⟨shares, perm, same⟩ := covers.gpuShareIds
  have distinct := (facts.unique.sublist (filter_sublist
    (p := fun provider => decide (provider.providerId ∈ island.providerIds)))).shares
  have inside : shares ⊆ (accepted.filter (fun provider =>
      provider.providerId ∈ island.providerIds)).flatMap ProviderCandidate.gpuShares := by
    intro gpu member
    obtain ⟨provider, ours, held⟩ := mem_flatMap.mp (perm.mem_iff.mp member)
    apply mem_flatMap.mpr
    refine ⟨provider, mem_filter.mpr ⟨covers.inside.subset ours, decide_eq_true ?_⟩, held⟩
    exact covers.providerIds.mem_iff.mpr (mem_map_of_mem ours)
  refine ⟨shares.map (fun gpu => selectedGpu gpu.providerId gpu island), ?_, ?_, ?_⟩
  · rw [all, same]
    exact lookupShares_eq distinct inside
  · unfold Takes
    rw [map_map]
    exact perm.map _
  · intro gpu member
    obtain ⟨share, held, rfl⟩ := mem_map.mp member
    refine ⟨rfl, ?_⟩
    rw [same]
    exact mem_map_of_mem held

theorem selectIsland_none (none : ∀ island, island ∈ islands -> eligible job island = false) :
    selectIsland job accepted islands = .ok {} := by
  have empty : islands.filter (eligible job) = [] :=
    filter_eq_nil_iff.mpr (fun island member => by rw [none island member]; decide)
  rw [selectIsland, empty]
  rfl

theorem eligible_providerIds (good : eligible job island = true) :
    island.providerIds.length = job.requestedNodeCount := by
  unfold eligible at good
  simp only [Bool.and_eq_true, decide_eq_true_eq] at good
  exact good.1.1.1.1.2

theorem selectIsland_some {L : Library} {now maxAge : Time} (facts : Accepted job accepted)
    (sized : Sized job) (built : buildGpuIslands L now maxAge accepted = .ok islands)
    (member : island ∈ islands) (good : eligible job island = true) :
    ∃ best members selection, selectIsland job accepted islands = .ok selection ∧
      best ∈ islands ∧ eligible job best = true ∧ Covers accepted members best ∧
      CompleteEvidence L now maxAge members best.pairwiseEvidence ∧
      TakesIsland members best selection.gpus := by
  cases found : sortedBy islandRank (islands.filter (eligible job)) with
  | nil =>
    have inside : island ∈ sortedBy islandRank (islands.filter (eligible job)) :=
      mem_sortedBy.mpr (mem_filter.mpr ⟨member, good⟩)
    rw [found] at inside
    cases inside
  | cons best rest =>
    have inside : best ∈ sortedBy islandRank (islands.filter (eligible job)) := by
      rw [found]
      exact mem_cons_self
    obtain ⟨here, goodToo⟩ := mem_filter.mp (mem_sortedBy.mp inside)
    obtain ⟨members, covers, evidence⟩ := exists_covers facts built here
    have count := covers.length_providerIds.symm.trans (eligible_providerIds goodToo)
    obtain ⟨gpus, lookup, takes⟩ := covers.takesIsland facts sized count
    refine ⟨best, members, ⟨[best],
      accepted.filter (fun provider => provider.providerId ∈ best.providerIds), gpus⟩, ?_, here,
      goodToo, covers, evidence, takes⟩
    rw [selectIsland, found]
    dsimp only
    rw [lookup]
    rfl

end Islands

section Workers

variable {job : Phase18TrainingConfig} {accepted : List ProviderCandidate}
  {islands : List GpuIsland}

theorem exists_islandOfProvider {island : GpuIsland} {id : String} (member : island ∈ islands)
    (ours : island.providerIds = [id]) :
    ∃ own, islandOfProvider islands id = some own ∧ own ∈ islands ∧
      own.providerIds.head? = some id := by
  have good : decide (island.providerIds.head? = some id) = true := by
    rw [ours]
    exact decide_eq_true rfl
  obtain ⟨own, found, inside, same⟩ := @exists_lastWith _ islands
    (fun island => island.providerIds.head? = some id) _ member good
  exact ⟨own, found, inside, of_decide_eq_true same⟩

theorem exists_ownIsland {L : Library} {now maxAge : Time} (facts : Accepted job accepted)
    (sized : Sized job) (built : buildGpuIslands L now maxAge accepted = .ok islands)
    {provider : ProviderCandidate} (member : provider ∈ accepted) :
    ∃ island, island ∈ ownIslands islands ∧ island.providerIds = [provider.providerId] := by
  have filled := facts.shares_ne_nil sized member
  obtain ⟨island, made⟩ :=
    ((exists_buildGpuIslands_iff L now maxAge).mp ⟨islands, built⟩).1 provider member filled
  have host := sameHostIsland_spec made
  have inside := (mem_buildGpuIslands L now maxAge built).mpr
    (Or.inl ⟨provider, member, filled, made⟩)
  refine ⟨island, mem_filter.mpr ⟨inside, decide_eq_true ⟨host.classification, ?_⟩⟩,
    host.providerIds⟩
  rw [host.providerIds]
  rfl

theorem exists_workerIsland {L : Library} {now maxAge : Time} (facts : Accepted job accepted)
    (sized : Sized job) (built : buildGpuIslands L now maxAge accepted = .ok islands)
    {provider : ProviderCandidate} (member : provider ∈ workers job accepted) :
    ∃ island, islandOfProvider ((workerIslands job accepted islands).filter
      (fun island => island.providerIds.length = 1)) provider.providerId = some island := by
  have ours : provider ∈ accepted := mem_sortedBy.mp (mem_of_mem_take member)
  obtain ⟨island, inside, alone⟩ := exists_ownIsland facts sized built ours
  obtain ⟨own, found, ownInside, head⟩ := exists_islandOfProvider inside alone
  have single := (of_decide_eq_true (mem_filter.mp ownInside).2).2
  have ownIds : own.providerIds = [provider.providerId] := by
    obtain ⟨id, same⟩ := length_eq_one_iff.mp single
    rw [same, head?_cons] at head
    rw [same, Option.some.inj head]
  have chosen : own ∈ (workerIslands job accepted islands).filter
      (fun island => island.providerIds.length = 1) := by
    apply mem_filter.mpr
    exact ⟨mem_filterMap.mpr ⟨provider, member, found⟩, decide_eq_true single⟩
  obtain ⟨last, foundLast, _, _⟩ := exists_islandOfProvider chosen ownIds
  exact ⟨last, foundLast⟩

theorem selectWorkers_takes {L : Library} {now maxAge : Time} (facts : Accepted job accepted)
    (sized : Sized job) (built : buildGpuIslands L now maxAge accepted = .ok islands) :
    Takes (workers job accepted) (selectWorkers job accepted islands).gpus := by
  unfold Takes selectWorkers
  dsimp only
  rw [map_flatMap, map_flatMap]
  apply List.Perm.of_eq
  apply flatMap_congr
  intro provider member
  obtain ⟨island, found⟩ := exists_workerIsland facts sized built member
  have ours : provider ∈ accepted := mem_sortedBy.mp (mem_of_mem_take member)
  rw [found]
  dsimp only
  rw [← facts.count provider ours, take_length, map_map]
  apply map_congr_left
  intro gpu held
  exact congrArg (fun id => (id, gpu.gpuShareId, gpu.deviceIndex, gpu.totalMemoryMb))
    (facts.owner provider ours gpu held).symm

theorem workers_nodup (facts : Accepted job accepted) :
    ((workers job accepted).map ProviderCandidate.providerId).Nodup := by
  have all : ((sortedBy workerKey accepted).map ProviderCandidate.providerId).Nodup :=
    (perm_sortedBy.map _).nodup_iff.mpr facts.unique.providers
  exact all.sublist ((take_sublist _ _).map _)

theorem workers_subset : workers job accepted ⊆ accepted := by
  intro provider member
  exact mem_sortedBy.mp (mem_of_mem_take member)

end Workers

end Placement
end ZepGpu
