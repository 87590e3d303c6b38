import ZepGpu.Placement.Readiness
import ZepGpu.Placement.Selections

namespace ZepGpu
namespace Placement

open Foundation List

/-!
# Placements are sound

A plan that is not insufficient names as many nodes as the job asks for.  Each
node is a ready provider with as many usable GPUs as the job asks for.  The GPUs
of a tightly coupled job lie in one island of the job's network scope, and there
is fresh evidence for the path from each of its nodes to every other.
-/

/-- A provider of the plan with the shares that are taken from it. -/
structure Node where
  provider : ProviderCandidate
  shares : List GpuCandidate

def Node.id (node : Node) : String :=
  node.provider.providerId

namespace PlacementPlanner

section Specification

variable (L : Library) (planner : PlacementPlanner) (roomId : String) (job : Phase18TrainingConfig)
  (providers : List ProviderCandidate) (plan : PlacementPlan)

/-- The provider is a candidate that is ready, and the shares are its own. -/
structure Usable (node : Node) : Prop where
  candidate : node.provider ∈ providers
  ready : planner.Ready roomId job node.provider
  shares : node.shares ⊆ node.provider.gpuShares
  distinct : (node.shares.map GpuCandidate.gpuShareId).Nodup
  count : node.shares.length = job.gpusPerNode
  viable : ∀ gpu, gpu ∈ node.shares -> viable roomId job node.provider gpu

/-- A job whose workers talk to each other lies within one candidate island. -/
structure Coupled (nodes : List Node) (island : GpuIsland) : Prop where
  candidate : island ∈ plan.candidateIslands
  selected : ∀ gpu, gpu ∈ plan.selectedGpus ->
    gpu.islandId = island.islandId ∧ gpu.gpuShareId ∈ island.gpuShareIds
  scope : ∃ scope, job.networkScope = some scope ∧
    island.classification.value = Enumeration.value scope
  evidence : ∀ source, source ∈ nodes -> ∀ target, target ∈ nodes ->
    source.id ≠ target.id -> ∃ entry, entry ∈ island.pairwiseEvidence ∧
      EvidenceFor L planner.now planner.capabilityMaxAge source.provider target.id entry

/-- A capable plan consists of the nodes that the job asks for. -/
structure Placed (nodes : List Node) : Prop where
  count : nodes.length = job.requestedNodeCount
  distinct : (nodes.map Node.id).Nodup
  usable : ∀ node, node ∈ nodes -> planner.Usable roomId job providers node
  gpus : (plan.selectedGpus.map SelectedGpu.figures).Perm
    ((nodes.flatMap Node.shares).map GpuCandidate.figures)
  providerIds : plan.selectedProviderIds.Perm (nodes.map Node.id)
  coupled : job.strategy ∈ DistributedStrategy.tightlyCoupled ->
    ∃ island, Coupled L planner job plan nodes island

end Specification

variable {L : Library} {planner : PlacementPlanner} {roomId : String} {job : Phase18TrainingConfig}
  {config : TrainingRunConfig} {providers members : List ProviderCandidate} {plan : PlacementPlan}

/-- The plan writes down the selection that was made. -/
structure Records (L : Library) (planner : PlacementPlanner) (job : Phase18TrainingConfig)
    (accepted : List ProviderCandidate) (plan : PlacementPlan) (islands : List GpuIsland)
    (selection : Selection) : Prop where
  built : buildGpuIslands L planner.now planner.capabilityMaxAge accepted = .ok islands
  selected : select job accepted islands = .ok selection
  islands : plan.candidateIslands = islands
  gpus : plan.selectedGpus = selection.gpus
  providerIds : plan.selectedProviderIds =
    sortedBy id (selection.gpus.map SelectedGpu.providerId).dedup
  status : plan.status ≠ .insufficient ↔ enough job selection.gpus

theorem planFrom_records {filtered : Filtered}
    (run : planner.planFrom L roomId config job filtered = .ok plan) :
    ∃ islands selection, Records L planner job filtered.accepted plan islands selection := by
  obtain ⟨islands, built, rest⟩ := bind_eq_ok.mp run
  obtain ⟨selection, selected, same⟩ := bind_eq_ok.mp rest
  cases Except.ok.inj same
  refine ⟨islands, selection, built, selected, rfl, rfl, rfl, ?_⟩
  dsimp only
  split_ifs with large
  · exact ⟨fun _ => large, fun _ impossible => nomatch impossible⟩
  · exact ⟨fun _ => large, fun _ impossible => nomatch impossible⟩
  · exact ⟨fun wrong => absurd rfl wrong, fun right => absurd right large⟩

theorem plan_eq (present : config.phase18 = some job)
    (run : planner.plan L roomId config providers = .ok plan) (others : List ProviderCandidate) :
    planner.plan L roomId config others =
      planner.planFrom L roomId config job (planner.filter roomId job others) := by
  unfold PlacementPlanner.plan at run ⊢
  rw [present] at run ⊢
  have version := (raiseIf_bind_eq_ok.mp run).1
  dsimp only
  unfold raiseIf
  rw [if_neg version]
  rfl

section Placed

variable {accepted : List ProviderCandidate} {islands : List GpuIsland} {selection : Selection}

theorem Records.placed_iff_eligible
    (records : Records L planner job accepted plan islands selection)
    (facts : Accepted job accepted) (sized : Sized job)
    (coupled : job.strategy ∈ DistributedStrategy.tightlyCoupled) :
    plan.status ≠ .insufficient ↔ ∃ island, island ∈ islands ∧ eligible job island = true := by
  have selected := records.selected
  unfold select at selected
  rw [if_pos coupled] at selected
  rw [records.status]
  constructor
  · intro large
    by_contra none
    have nothing : selectIsland job accepted islands = .ok {} := by
      apply selectIsland_none
      intro island member
      exact Bool.eq_false_of_not_eq_true (fun good => none ⟨island, member, good⟩)
    cases Except.ok.inj (nothing.symm.trans selected)
    exact absurd large.1 (Nat.ne_of_lt sized.nodes)
  · rintro ⟨island, member, good⟩
    obtain ⟨best, members, choice, chosen, _, bestGood, covers, _, taken⟩ :=
      selectIsland_some facts sized records.built member good
    cases Except.ok.inj (chosen.symm.trans selected)
    have distinct := facts.unique.providers.sublist (covers.inside.map _)
    apply (taken.takes.enough_iff facts sized covers.inside.subset distinct).mpr
    exact covers.length_providerIds.symm.trans (eligible_providerIds bestGood)

theorem Records.placed_iff_length (records : Records L planner job accepted plan islands selection)
    (facts : Accepted job accepted) (sized : Sized job)
    (independent : job.strategy ∉ DistributedStrategy.tightlyCoupled) :
    plan.status ≠ .insufficient ↔ job.requestedNodeCount ≤ accepted.length := by
  have selected := records.selected
  unfold select at selected
  rw [if_neg independent] at selected
  cases Except.ok.inj selected
  rw [records.status, (selectWorkers_takes facts sized records.built).enough_iff facts sized
    workers_subset (workers_nodup facts), workers, length_take, length_sortedBy]
  exact min_eq_left_iff

end Placed

theorem exists_nodes (unique : UniqueIds providers)
    (inside : members ⊆ (planner.filter roomId job providers).accepted) :
    ∃ nodes : List Node,
      nodes.map Node.id = members.map ProviderCandidate.providerId ∧
      nodes.flatMap Node.shares = members.flatMap ProviderCandidate.gpuShares ∧
      ∀ node, node ∈ nodes -> planner.Usable roomId job providers node ∧
        ∃ member, member ∈ members ∧ member = { node.provider with gpuShares := node.shares } := by
  induction members with
  | nil => exact ⟨[], rfl, rfl, fun _ member => nomatch member⟩
  | cons first rest ih =>
    obtain ⟨nodes, ids, shares, usable⟩ := ih (subset_of_cons_subset inside)
    obtain ⟨candidate, member, passes, rfl⟩ :=
      (planner.mem_accepted roomId job).mp (inside mem_cons_self)
    obtain ⟨accepted, enoughGpus⟩ := planner.rejection_eq_none roomId job passes
    refine ⟨⟨candidate, (clean roomId job candidate).gpuShares⟩ :: nodes, ?_, ?_, ?_⟩
    · rw [map_cons, ids]
      rfl
    · rw [flatMap_cons, shares]
      rfl
    · intro node inNodes
      rcases mem_cons.mp inNodes with rfl | later
      · refine ⟨?_, _, mem_cons_self, rfl⟩
        exact {
          candidate := member
          ready := (planner.providerRejection_eq_none_iff roomId job).mp accepted
          shares := fun _ held => (mem_clean roomId job held).1
          distinct := clean_ids_nodup roomId job (unique.sharesOf member)
          count := (length_take ..).trans (min_eq_left enoughGpus)
          viable := fun _ held => (mem_clean roomId job held).2 }
      · obtain ⟨good, original, found, same⟩ := usable node later
        exact ⟨good, original, mem_cons_of_mem _ found, same⟩

theorem eligible_scope {island : GpuIsland} (sized : Sized job) (good : eligible job island = true)
    (coupled : job.strategy ∈ DistributedStrategy.tightlyCoupled) :
    ∃ scope, job.networkScope = some scope ∧
      island.classification.value = Enumeration.value scope := by
  obtain ⟨scope, present, _⟩ := sized.scope coupled
  refine ⟨scope, present, ?_⟩
  unfold eligible at good
  have fits := (Bool.and_eq_true_iff.mp good).2
  unfold scopeMatches at fits
  rw [present] at fits
  rcases Bool.or_eq_true_iff.mp fits with same | both
  · exact of_decide_eq_true same
  · obtain ⟨here, there⟩ := Bool.and_eq_true_iff.mp both
    rw [of_decide_eq_true here, of_decide_eq_true there]
    rfl

theorem placed_of_takes {islands : List GpuIsland} {selection : Selection} (sized : Sized job)
    (unique : UniqueIds providers)
    (records : Records L planner job (planner.filter roomId job providers).accepted plan islands selection)
    (inside : members ⊆ (planner.filter roomId job providers).accepted)
    (distinct : (members.map ProviderCandidate.providerId).Nodup)
    (takes : Takes members selection.gpus) (large : enough job selection.gpus)
    (coupled : job.strategy ∈ DistributedStrategy.tightlyCoupled -> ∃ island,
      island ∈ islands ∧ eligible job island = true ∧
        CompleteEvidence L planner.now planner.capabilityMaxAge members island.pairwiseEvidence ∧
        TakesIsland members island selection.gpus) :
    ∃ nodes, Placed L planner roomId job providers plan nodes := by
  have facts := planner.accepted_filter roomId job unique
  obtain ⟨nodes, ids, shares, usable⟩ := exists_nodes unique inside
  have count : nodes.length = job.requestedNodeCount := by
    rw [← (takes.enough_iff facts sized inside distinct).mp large,
      ← length_map Node.id, ids, length_map]
  refine ⟨nodes, count, ids ▸ distinct, fun node member => (usable node member).1, ?_, ?_, ?_⟩
  · rw [records.gpus, shares]
    exact takes
  · rw [records.providerIds, ids]
    apply perm_sortedBy.trans
    exact takes.dedup_providerIds facts sized inside distinct
  · intro strategy
    obtain ⟨island, built, good, evidence, taken⟩ := coupled strategy
    refine ⟨island, ?_, ?_, eligible_scope sized good strategy, ?_⟩
    · rw [records.islands]
      exact built
    · rw [records.gpus]
      exact taken.island
    · intro source sourceMember target targetMember different
      obtain ⟨_, _, sourceInside, rfl⟩ := usable source sourceMember
      obtain ⟨_, _, targetInside, rfl⟩ := usable target targetMember
      obtain ⟨entry, member, origin, goal, sample⟩ := evidence _ sourceInside _ targetInside different
      exact ⟨entry, member, origin, goal, sample⟩

/-- A plan that is not insufficient is a sound placement. -/
theorem plan_sound (L : Library) (planner : PlacementPlanner) (roomId : String)
    (valid : Valid config job) (unique : UniqueIds providers)
    (run : planner.plan L roomId config providers = .ok plan) (placed : plan.status ≠ .insufficient) :
    ∃ nodes, Placed L planner roomId job providers plan nodes := by
  have sized := valid.sized
  have facts := planner.accepted_filter roomId job unique
  obtain ⟨islands, selection, records⟩ := planFrom_records
    ((plan_eq valid.job run providers).symm.trans run)
  have large := records.status.mp placed
  by_cases coupled : job.strategy ∈ DistributedStrategy.tightlyCoupled
  · have selected := records.selected
    unfold select at selected
    rw [if_pos coupled] at selected
    obtain ⟨island, member, good⟩ := (records.placed_iff_eligible facts sized coupled).mp placed
    obtain ⟨best, members, choice, chosen, built, bestGood, covers, evidence, taken⟩ :=
      selectIsland_some facts sized records.built member good
    cases Except.ok.inj (chosen.symm.trans selected)
    have distinct := facts.unique.providers.sublist (covers.inside.map _)
    exact placed_of_takes sized unique records covers.inside.subset distinct taken.takes large
      (fun _ => ⟨best, built, bestGood, evidence, taken⟩)
  · have selected := records.selected
    unfold select at selected
    rw [if_neg coupled] at selected
    cases Except.ok.inj selected
    exact placed_of_takes sized unique records workers_subset (workers_nodup facts)
      (selectWorkers_takes facts sized records.built) large
      (fun impossible => absurd impossible coupled)

end PlacementPlanner

namespace LanRoom

def submission : Json :=
  .obj [("schema_version", .int 3),
    ("phase18", .obj [("strategy", .str "fsdp2"), ("network_scope", .str "lan")])]

theorem valid : Valid config job := by
  refine ⟨⟨Submissions.exactScalars, submission, ?_⟩, rfl⟩
  apply ok_of_toOption
  decide +kernel

theorem first_two_capable : ∃ plan,
    planner.plan library roomId config [first, second] = .ok plan ∧ plan.status = .capable := by
  apply map_eq_ok_iff.mp
  decide +kernel

/-- A capable plan over two providers. -/
theorem first_two_sound : ∃ plan,
    planner.plan library roomId config [first, second] = .ok plan ∧ plan.status = .capable ∧
      ∃ nodes, PlacementPlanner.Placed library planner roomId job [first, second] plan nodes := by
  obtain ⟨plan, run, capable⟩ := first_two_capable
  refine ⟨plan, run, capable, ?_⟩
  apply PlacementPlanner.plan_sound library planner roomId valid uniqueIds run
  rw [capable]
  decide

end LanRoom

end Placement
end ZepGpu
