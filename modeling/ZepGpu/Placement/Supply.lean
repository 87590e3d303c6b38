import ZepGpu.Placement.Soundness

namespace ZepGpu
namespace Placement

open Foundation List

/-!
# One more provider

A job on independent workers needs enough accepted providers, so that one more
does no harm.  A tightly coupled job needs an island of the requested size, and
a group of providers on a LAN makes one island of all its members.  A newcomer
that joins such a group makes it too large.
-/

namespace PlacementPlanner

section Eligibility

variable (L : Library) (planner : PlacementPlanner) (job : Phase18TrainingConfig)

/-- A provider whose own island a tightly coupled job could use. -/
def ServesAlone (provider : ProviderCandidate) : Prop :=
  ∃ island, sameHostIsland L provider = .ok island ∧ eligible job island = true

def Serves (members : List ProviderCandidate) : Prop :=
  ∃ island, lanIslandOf L planner.now planner.capabilityMaxAge members = .ok (some island) ∧
    eligible job island = true

variable {L planner job} {accepted members : List ProviderCandidate} {island : GpuIsland}
  {islands : List GpuIsland} {plan : PlacementPlan} {selection : Selection}

theorem exists_eligible_iff (facts : Accepted job accepted) (sized : Sized job)
    (built : buildGpuIslands L planner.now planner.capabilityMaxAge accepted = .ok islands) :
    (∃ island, island ∈ islands ∧ eligible job island = true) ↔
      (∃ provider, provider ∈ accepted ∧ ServesAlone L job provider) ∨
        ∃ signature, Serves L planner job (groupOf L signature accepted) := by
  constructor
  · rintro ⟨island, member, good⟩
    rcases (mem_buildGpuIslands L _ _ built).mp member with
      ⟨provider, inside, _, made⟩ | ⟨signature, lan⟩
    · exact Or.inl ⟨provider, inside, island, made, good⟩
    · rw [facts.sortedBy_eq] at lan
      exact Or.inr ⟨signature, island, (lanIslandOf_eq_some_iff L _ _).mpr lan, good⟩
  · rintro (⟨provider, inside, island, made, good⟩ | ⟨signature, island, lan, good⟩)
    · refine ⟨island, (mem_buildGpuIslands L _ _ built).mpr (Or.inl ?_), good⟩
      exact ⟨provider, inside, facts.shares_ne_nil sized inside, made⟩
    · refine ⟨island, (mem_buildGpuIslands L _ _ built).mpr (Or.inr ⟨signature, ?_⟩), good⟩
      rw [facts.sortedBy_eq]
      exact (lanIslandOf_eq_some_iff L _ _).mp lan

/-! ## What an eligible island is like -/

theorem ServesAlone.scope {provider : ProviderCandidate} (serves : ServesAlone L job provider)
    (sized : Sized job) (coupled : job.strategy ∈ DistributedStrategy.tightlyCoupled) :
    job.networkScope = some .sameHost := by
  obtain ⟨island, made, good⟩ := serves
  obtain ⟨scope, present, same⟩ := eligible_scope sized good coupled
  rw [(sameHostIsland_spec made).classification] at same
  rw [present]
  cases scope with
  | sameHost => rfl
  | lan => exact absurd same (by decide)
  | wan => exact absurd same (by decide)

theorem Serves.scope (serves : Serves L planner job members) (sized : Sized job)
    (coupled : job.strategy ∈ DistributedStrategy.tightlyCoupled) :
    job.networkScope = some .lan := by
  obtain ⟨island, made, good⟩ := serves
  obtain ⟨_, evidence, _, rfl⟩ := (lanIslandOf_eq_some_iff L _ _).mp made
  obtain ⟨scope, present, same⟩ := eligible_scope sized good coupled
  change IslandClass.value .lan = Enumeration.value scope at same
  rw [present]
  cases scope with
  | sameHost => exact absurd same (by decide)
  | lan => rfl
  | wan => exact absurd same (by decide)

theorem Serves.count (serves : Serves L planner job members) :
    members.length = job.requestedNodeCount := by
  obtain ⟨island, made, good⟩ := serves
  obtain ⟨_, evidence, _, rfl⟩ := (lanIslandOf_eq_some_iff L _ _).mp made
  rw [← eligible_providerIds good]
  exact (length_sortedBy.symm.trans (length_map _).symm)

theorem Serves.strategy (serves : Serves L planner job members)
    (coupled : job.strategy ∈ DistributedStrategy.tightlyCoupled) : job.strategy = .fsdp2 := by
  obtain ⟨island, made, good⟩ := serves
  obtain ⟨_, evidence, _, rfl⟩ := (lanIslandOf_eq_some_iff L _ _).mp made
  have supported : eligibility (lanIsland L members evidence) job.strategy = true := by
    unfold eligible at good
    simp only [Bool.and_eq_true] at good
    exact good.1.1.1.1.1
  rcases mem_cons.mp coupled with same | other
  · exact same
  · rw [mem_singleton.mp other] at supported
    cases supported

/-! ## Groups that can be used -/

variable (L planner job) in
/-- A group of the requested size with fresh evidence for all its paths, none of
them beyond the limits of the job. -/
structure Connected (members : List ProviderCandidate) : Prop where
  several : 1 < members.length
  count : members.length = job.requestedNodeCount
  evidence : ∃ evidence,
    completePairwiseEvidence L planner.now planner.capabilityMaxAge members =
      .ok (some evidence) ∧
    atMost (evidence.map PairwiseEvidence.rttMs).max?
      job.runtimeRequirements.maximumRttMs = true ∧
    atLeast (evidence.map PairwiseEvidence.bandwidthMbps).min?
      job.runtimeRequirements.minimumBandwidthMbps = true

theorem Serves.connected (serves : Serves L planner job members) : Connected L planner job members := by
  have count := serves.count
  obtain ⟨island, made, good⟩ := serves
  obtain ⟨several, evidence, complete, rfl⟩ := (lanIslandOf_eq_some_iff L _ _).mp made
  unfold eligible at good
  simp only [Bool.and_eq_true] at good
  exact ⟨several, count, evidence, complete, good.1.1.2, good.1.2⟩

/-- The reports of a provider that FSDP2 asks for. -/
structure ReportsFsdp2 (provider : ProviderCandidate) : Prop where
  runtime : provider.hasRuntime = true
  p2p : saysTrue (get provider.topology "p2p_access") = true
  fsdp2 : saysTrue (get provider.runtime "fsdp_available") = true

theorem Ready.reportsFsdp2 {roomId : String} {provider : ProviderCandidate}
    (ready : planner.Ready roomId job provider) (sized : Sized job) (strategy : job.strategy = .fsdp2) :
    ReportsFsdp2 provider := by
  obtain ⟨cuda, p2p, fsdp2⟩ := sized.requires strategy
  refine ⟨?_, saysTrue_iff.mpr (ready.runtime.p2p p2p), saysTrue_iff.mpr (ready.runtime.fsdp2 fsdp2)⟩
  apply all_eq_true.mpr
  intro name member
  rcases mem_cons.mp member with rfl | member
  · exact (ready.runtime.cuda cuda).1.reported
  · rcases mem_cons.mp member with rfl | member
    · exact ready.runtime.pytorch.1.reported
    · rw [mem_singleton.mp member]
      exact (ready.runtime.nccl.1 (Or.inl fsdp2)).reported

theorem evidence_ne_nil {now maxAge : Time} {evidence : List PairwiseEvidence}
    (complete : CompleteEvidence L now maxAge members evidence)
    (distinct : (members.map ProviderCandidate.providerId).Nodup) (several : 1 < members.length) :
    evidence ≠ [] := by
  match members, several with
  | first :: second :: rest, _ =>
    have different : first.providerId ≠ second.providerId := by
      intro same
      exact (nodup_cons.mp distinct).1 (by rw [same]; exact mem_cons_self)
    obtain ⟨entry, member, _⟩ := complete first mem_cons_self second
      (mem_cons_of_mem _ mem_cons_self) different
    exact ne_nil_of_mem member

theorem lanIsland_fsdp2 {signature : Signature} {evidence : List PairwiseEvidence}
    (filled : members ≠ []) (found : evidence ≠ [])
    (ours : ∀ provider, provider ∈ members -> provider.joinsLan = true ∧
      runtimeSignature L provider = signature)
    (reports : ∀ provider, provider ∈ members -> ReportsFsdp2 provider) :
    (lanIsland L members evidence).eligibility.fsdp2 = true := by
  have all {check : ProviderCandidate -> Bool}
      (holds : ∀ provider, provider ∈ members -> check provider = true) :
      (sortedBy ProviderCandidate.providerId members).all check = true :=
    all_eq_true.mpr (fun provider member => holds provider (mem_sortedBy.mp member))
  have one : ((sortedBy ProviderCandidate.providerId members).map
      (runtimeSignature L)).dedup.length = 1 := by
    have same : (sortedBy ProviderCandidate.providerId members).map (runtimeSignature L) =
        List.replicate members.length signature := by
      apply eq_replicate_iff.mpr
      refine ⟨by rw [length_map, length_sortedBy], ?_⟩
      intro value member
      obtain ⟨provider, inside, rfl⟩ := mem_map.mp member
      exact (ours provider (mem_sortedBy.mp inside)).2
    rw [same, replicate_dedup (length_pos_iff.mpr filled).ne']
    rfl
  have collective : ∀ provider, provider ∈ members ->
      saysTrue (get provider.topology "lan_collective_compatible") = true := by
    intro provider member
    exact (Bool.and_eq_true_iff.mp (ours provider member).1).2
  have runtimes := all (fun provider member => (reports provider member).runtime)
  have p2p := all (fun provider member => (reports provider member).p2p)
  have fsdp2 := all (fun provider member => (reports provider member).fsdp2)
  simp only [lanIsland, one, runtimes, p2p, fsdp2, all collective, found, decide_true, ne_eq,
    not_false_eq_true, Bool.and_self]

theorem serves_groupOf_iff {roomId : String} {providers : List ProviderCandidate}
    (unique : UniqueIds providers) (sized : Sized job) (strategy : job.strategy = .fsdp2)
    (scope : job.networkScope = some .lan) (signature : Signature) :
    Serves L planner job (groupOf L signature (planner.filter roomId job providers).accepted) ↔
      Connected L planner job
        (groupOf L signature (planner.filter roomId job providers).accepted) := by
  constructor
  · exact Serves.connected
  · rintro ⟨several, count, evidence, complete, rtt, bandwidth⟩
    have facts := planner.accepted_filter roomId job unique
    have lan : IsLan L planner.now planner.capabilityMaxAge
        (groupOf L signature (planner.filter roomId job providers).accepted)
        (lanIsland L (groupOf L signature (planner.filter roomId job providers).accepted)
          evidence) :=
      ⟨several, evidence, complete, rfl⟩
    refine ⟨_, (lanIslandOf_eq_some_iff L _ _).mpr lan, ?_⟩
    have covers := lan.covers (filter_sublist : List.Sublist _
      (planner.filter roomId job providers).accepted)
    have supported : eligibility (lanIsland L (groupOf L signature
        (planner.filter roomId job providers).accepted) evidence) job.strategy = true := by
      rw [strategy]
      apply lanIsland_fsdp2 (ne_nil_of_length_pos (Nat.lt_of_succ_lt several))
      · apply evidence_ne_nil (completePairwiseEvidence_spec L _ _ complete) _ several
        exact facts.unique.providers.sublist (covers.inside.map _)
      · intro provider member
        exact of_decide_eq_true (mem_filter.mp member).2
      · intro provider member
        obtain ⟨candidate, _, passes, rfl⟩ :=
          (planner.mem_accepted roomId job).mp (covers.inside.subset member)
        have ready := (planner.providerRejection_eq_none_iff roomId job).mp
          (planner.rejection_eq_none roomId job passes).1
        obtain ⟨runtime, p2p, fsdp2⟩ := ready.reportsFsdp2 sized strategy
        exact ⟨runtime, p2p, fsdp2⟩
    have providersCount := covers.length_providerIds.trans count
    have sharesCount : job.totalGpus ≤ (lanIsland L (groupOf L signature
        (planner.filter roomId job providers).accepted) evidence).gpuShareIds.length := by
      rw [covers.length_gpuShareIds facts, count, sized.total]
    have near : scopeMatches job (lanIsland L (groupOf L signature
        (planner.filter roomId job providers).accepted) evidence) = true := by
      unfold scopeMatches
      rw [scope]
      rfl
    unfold eligible
    rw [supported, decide_eq_true providersCount, decide_eq_true sharesCount, near]
    exact Bool.and_eq_true_iff.mpr ⟨Bool.and_eq_true_iff.mpr ⟨rtt, bandwidth⟩, rfl⟩

/-! ## When an island is built -/

theorem exists_lanIslandOf {now maxAge : Time} {evidence : Option (List PairwiseEvidence)}
    (complete : completePairwiseEvidence L now maxAge members = .ok evidence) :
    ∃ island, lanIslandOf L now maxAge members = .ok island := by
  unfold lanIslandOf
  rw [complete, ok_bind]
  split_ifs
  · exact ⟨_, rfl⟩
  · exact ⟨none, rfl⟩

theorem exists_lanIslandOf_iff {now maxAge : Time} (several : 1 < members.length) :
    (∃ island, lanIslandOf L now maxAge members = .ok island) ↔
      ∃ evidence, completePairwiseEvidence L now maxAge members = .ok evidence := by
  constructor
  · rintro ⟨island, made⟩
    unfold lanIslandOf at made
    rw [if_pos several] at made
    obtain ⟨evidence, complete, _⟩ := bind_eq_ok.mp made
    exact ⟨evidence, complete⟩
  · rintro ⟨evidence, complete⟩
    exact exists_lanIslandOf complete

theorem exists_sameHostIsland_iff {provider : ProviderCandidate} :
    (∃ island, sameHostIsland L provider = .ok island) ↔
      (∃ generation, pcieGeneration L provider.topology = .ok generation) ∧
        ∃ hint, topologyHint provider.topology = .ok hint := by
  constructor
  · rintro ⟨island, made⟩
    unfold sameHostIsland at made
    obtain ⟨generation, read, rest⟩ := bind_eq_ok.mp made
    obtain ⟨hint, readToo, _⟩ := bind_eq_ok.mp rest
    exact ⟨⟨generation, read⟩, hint, readToo⟩
  · rintro ⟨⟨generation, read⟩, hint, readToo⟩
    unfold sameHostIsland
    dsimp only
    rw [read, ok_bind, readToo, ok_bind]
    exact ⟨_, rfl⟩

end Eligibility

/-! ## The newcomer -/

section Newcomer

variable (L : Library) (planner : PlacementPlanner) (roomId : String)
  (job : Phase18TrainingConfig) {config : TrainingRunConfig}
  {providers enlarged : List ProviderCandidate} {newcomer : ProviderCandidate}
  {before : PlacementPlan}

/-- The newcomer joins the only group that the job could use, and its report can be
read. -/
structure Outgrown (providers enlarged : List ProviderCandidate) (newcomer : ProviderCandidate) :
    Prop where
  strategy : job.strategy = .fsdp2
  scope : job.networkScope = some .lan
  accepted : planner.rejection roomId job newcomer = none
  joins : (clean roomId job newcomer).joinsLan = true
  only : ∀ signature, signature ≠ runtimeSignature L newcomer ->
    ¬ Connected L planner job (groupOf L signature (planner.filter roomId job providers).accepted)
  generation : ∃ generation, pcieGeneration L newcomer.topology = .ok generation
  hint : ∃ hint, topologyHint newcomer.topology = .ok hint
  evidence : ∃ evidence, completePairwiseEvidence L planner.now planner.capabilityMaxAge
    (groupOf L (runtimeSignature L newcomer) (planner.filter roomId job enlarged).accepted) =
      .ok evidence

theorem exists_accepted (unique : UniqueIds (newcomer :: providers))
    (perm : enlarged.Perm (newcomer :: providers)) : ∃ front back,
      (planner.filter roomId job providers).accepted = front ++ back ∧
      (planner.filter roomId job enlarged).accepted =
        if planner.rejection roomId job newcomer = none then
          front ++ clean roomId job newcomer :: back
        else front ++ back := by
  obtain ⟨smaller, larger, withNewcomer, without⟩ :=
    @exists_sortedBy_cons _ _ _ ProviderCandidate.providerId newcomer providers
  have sorted : sortedBy ProviderCandidate.providerId enlarged = smaller ++ newcomer :: larger := by
    rw [← withNewcomer]
    exact sortedBy_eq_of_perm perm ((perm.map _).nodup_iff.mpr unique.providers)
  refine ⟨(smaller.filter (fun provider => planner.rejection roomId job provider = none)).map
      (clean roomId job),
    (larger.filter (fun provider => planner.rejection roomId job provider = none)).map
      (clean roomId job), ?_, ?_⟩
  · unfold filter
    dsimp only
    rw [without, filter_append, map_append]
  · unfold filter
    dsimp only
    rw [sorted, filter_append, map_append, filter_cons]
    by_cases passes : planner.rejection roomId job newcomer = none
    · rw [if_pos (decide_eq_true passes), if_pos passes, map_cons]
    · rw [if_neg (by rw [decide_eq_true_eq]; exact passes), if_neg passes]

theorem groupOf_insert (signature : Signature) (front back : List ProviderCandidate)
    (provider : ProviderCandidate) :
    groupOf L signature (front ++ provider :: back) =
      if provider.joinsLan = true ∧ runtimeSignature L provider = signature then
        groupOf L signature front ++ provider :: groupOf L signature back
      else groupOf L signature (front ++ back) := by
  unfold groupOf
  rw [filter_append, filter_append, filter_cons]
  by_cases belongs : provider.joinsLan = true ∧ runtimeSignature L provider = signature
  · rw [if_pos (decide_eq_true belongs), if_pos belongs]
  · rw [if_neg (by rw [decide_eq_true_eq]; exact belongs), if_neg belongs]

variable {L planner roomId job}

section

variable (unique : UniqueIds (newcomer :: providers)) (perm : enlarged.Perm (newcomer :: providers))

include unique perm

theorem mem_accepted_enlarged {provider : ProviderCandidate} :
    provider ∈ (planner.filter roomId job enlarged).accepted ↔
      provider ∈ (planner.filter roomId job providers).accepted ∨
        planner.rejection roomId job newcomer = none ∧ provider = clean roomId job newcomer := by
  obtain ⟨front, back, same, withNewcomer⟩ := exists_accepted planner roomId job unique perm
  rw [same, withNewcomer]
  by_cases passes : planner.rejection roomId job newcomer = none
  · rw [if_pos passes, mem_append, mem_append, mem_cons]
    constructor
    · rintro (left | here | right)
      · exact Or.inl (Or.inl left)
      · exact Or.inr ⟨passes, here⟩
      · exact Or.inl (Or.inr right)
    · rintro ((left | right) | ⟨_, here⟩)
      · exact Or.inl left
      · exact Or.inr (Or.inr right)
      · exact Or.inr (Or.inl here)
  · rw [if_neg passes]
    constructor
    · exact Or.inl
    · rintro (member | ⟨impossible, _⟩)
      · exact member
      · exact absurd impossible passes

theorem length_accepted_le :
    (planner.filter roomId job providers).accepted.length ≤
      (planner.filter roomId job enlarged).accepted.length := by
  obtain ⟨front, back, same, withNewcomer⟩ := exists_accepted planner roomId job unique perm
  rw [same, withNewcomer]
  split_ifs
  · rw [length_append, length_append, length_cons]
    omega
  · exact le_refl _

theorem length_groupOf_enlarged (passes : planner.rejection roomId job newcomer = none)
    (joins : (clean roomId job newcomer).joinsLan = true) :
    (groupOf L (runtimeSignature L newcomer) (planner.filter roomId job enlarged).accepted).length =
      (groupOf L (runtimeSignature L newcomer)
        (planner.filter roomId job providers).accepted).length + 1 := by
  obtain ⟨front, back, same, withNewcomer⟩ := exists_accepted planner roomId job unique perm
  rw [same, withNewcomer, if_pos passes, groupOf_insert, if_pos ⟨joins, rfl⟩]
  unfold groupOf
  rw [filter_append, length_append, length_append, length_cons]
  omega

theorem groupOf_enlarged {signature : Signature}
    (other : ¬ (planner.rejection roomId job newcomer = none ∧
      (clean roomId job newcomer).joinsLan = true ∧ runtimeSignature L newcomer = signature)) :
    groupOf L signature (planner.filter roomId job enlarged).accepted =
      groupOf L signature (planner.filter roomId job providers).accepted := by
  obtain ⟨front, back, same, withNewcomer⟩ := exists_accepted planner roomId job unique perm
  rw [same, withNewcomer]
  split_ifs with passes
  · rw [groupOf_insert, if_neg]
    exact fun belongs => other ⟨passes, belongs⟩
  · rfl

end

/-! ## Plans with the newcomer -/

theorem outgrown_of_insufficient {after : PlacementPlan} (sized : Sized job)
    (unique : UniqueIds (newcomer :: providers)) (perm : enlarged.Perm (newcomer :: providers))
    {islands more : List GpuIsland} {selection choice : Selection}
    (records : Records L planner job (planner.filter roomId job providers).accepted before islands
      selection)
    (recordsToo : Records L planner job (planner.filter roomId job enlarged).accepted after more choice)
    (placed : before.status ≠ .insufficient) (insufficient : after.status = .insufficient) :
    Outgrown L planner roomId job providers enlarged newcomer := by
  have former := unique.sublist (sublist_cons_self newcomer providers)
  have facts := planner.accepted_filter roomId job former
  have factsToo := planner.accepted_filter roomId job (unique.perm perm.symm)
  by_cases coupled : job.strategy ∈ DistributedStrategy.tightlyCoupled
  · have fails : ¬ ((∃ provider, provider ∈ (planner.filter roomId job enlarged).accepted ∧
        ServesAlone L job provider) ∨ ∃ signature, Serves L planner job
          (groupOf L signature (planner.filter roomId job enlarged).accepted)) := by
      rw [← exists_eligible_iff factsToo sized recordsToo.built,
        ← recordsToo.placed_iff_eligible factsToo sized coupled]
      exact not_not.mpr insufficient
    have served := (records.placed_iff_eligible facts sized coupled).mp placed
    rcases (exists_eligible_iff facts sized records.built).mp served with
      ⟨provider, member, alone⟩ | ⟨signature, serves⟩
    · have still := (mem_accepted_enlarged unique perm).mpr (Or.inl member)
      exact absurd (Or.inl ⟨provider, still, alone⟩) fails
    · have changed : planner.rejection roomId job newcomer = none ∧
          (clean roomId job newcomer).joinsLan = true ∧ runtimeSignature L newcomer = signature := by
        by_contra other
        apply fails
        refine Or.inr ⟨signature, ?_⟩
        rw [groupOf_enlarged unique perm other]
        exact serves
      obtain ⟨passes, joins, rfl⟩ := changed
      have member : clean roomId job newcomer ∈ (planner.filter roomId job enlarged).accepted :=
        (mem_accepted_enlarged unique perm).mpr (Or.inr ⟨passes, rfl⟩)
      obtain ⟨hosts, groups⟩ := (exists_buildGpuIslands_iff L _ _).mp ⟨more, recordsToo.built⟩
      obtain ⟨generation, hint⟩ := exists_sameHostIsland_iff.mp
        (hosts _ member (factsToo.shares_ne_nil sized member))
      have strategy := serves.strategy coupled
      have scope := serves.scope sized coupled
      refine ⟨strategy, scope, passes, joins, ?_, generation, hint, ?_⟩
      · intro signature different connected
        apply fails
        refine Or.inr ⟨signature, ?_⟩
        rw [groupOf_enlarged unique perm (fun both => different both.2.2.symm)]
        exact (serves_groupOf_iff former sized strategy scope signature).mpr connected
      · have returned := groups (runtimeSignature L newcomer)
        rw [factsToo.sortedBy_eq] at returned
        have several : 1 < (groupOf L (runtimeSignature L newcomer)
            (planner.filter roomId job enlarged).accepted).length := by
          rw [length_groupOf_enlarged unique perm passes joins]
          exact Nat.lt_succ_of_lt serves.connected.several
        exact (exists_lanIslandOf_iff several).mp returned
  · have enoughBefore := (records.placed_iff_length facts sized coupled).mp placed
    have enoughAfter := enoughBefore.trans (length_accepted_le unique perm)
    exact absurd insufficient ((recordsToo.placed_iff_length factsToo sized coupled).mpr enoughAfter)

theorem Outgrown.built (outgrown : Outgrown L planner roomId job providers enlarged newcomer)
    (unique : UniqueIds (newcomer :: providers)) (perm : enlarged.Perm (newcomer :: providers))
    {islands : List GpuIsland} {selection : Selection}
    (records : Records L planner job (planner.filter roomId job providers).accepted before islands
      selection) :
    ∃ more, buildGpuIslands L planner.now planner.capabilityMaxAge
      (planner.filter roomId job enlarged).accepted = .ok more := by
  have facts := planner.accepted_filter roomId job (unique.sublist (sublist_cons_self _ _))
  have factsToo := planner.accepted_filter roomId job (unique.perm perm.symm)
  obtain ⟨hosts, groups⟩ := (exists_buildGpuIslands_iff L _ _).mp ⟨islands, records.built⟩
  apply (exists_buildGpuIslands_iff L _ _).mpr
  constructor
  · intro provider member filled
    rcases (mem_accepted_enlarged unique perm).mp member with former | ⟨_, rfl⟩
    · exact hosts provider former filled
    · exact exists_sameHostIsland_iff.mpr ⟨outgrown.generation, outgrown.hint⟩
  · intro signature
    rw [factsToo.sortedBy_eq]
    by_cases same : signature = runtimeSignature L newcomer
    · rw [same]
      obtain ⟨evidence, complete⟩ := outgrown.evidence
      exact exists_lanIslandOf complete
    · rw [groupOf_enlarged unique perm (fun both => same both.2.2.symm)]
      have returned := groups signature
      rw [facts.sortedBy_eq] at returned
      exact returned

theorem Outgrown.not_eligible (outgrown : Outgrown L planner roomId job providers enlarged newcomer)
    (sized : Sized job) (unique : UniqueIds (newcomer :: providers))
    (perm : enlarged.Perm (newcomer :: providers))
    {islands more : List GpuIsland} {selection : Selection}
    (records : Records L planner job (planner.filter roomId job providers).accepted before islands
      selection)
    (built : buildGpuIslands L planner.now planner.capabilityMaxAge
      (planner.filter roomId job enlarged).accepted = .ok more)
    (placed : before.status ≠ .insufficient) :
    ¬ ∃ island, island ∈ more ∧ eligible job island = true := by
  have smaller := unique.sublist (sublist_cons_self newcomer providers)
  have facts := planner.accepted_filter roomId job smaller
  have factsToo := planner.accepted_filter roomId job (unique.perm perm.symm)
  have coupled : job.strategy ∈ DistributedStrategy.tightlyCoupled := by
    rw [outgrown.strategy]
    exact mem_cons_self
  have wide : ∀ provider, ¬ ServesAlone L job provider := by
    intro provider alone
    have scope := alone.scope sized coupled
    rw [outgrown.scope] at scope
    cases scope
  have former : (groupOf L (runtimeSignature L newcomer)
      (planner.filter roomId job providers).accepted).length = job.requestedNodeCount := by
    have served := (records.placed_iff_eligible facts sized coupled).mp placed
    rcases (exists_eligible_iff facts sized records.built).mp served with
      ⟨provider, _, alone⟩ | ⟨signature, serves⟩
    · exact absurd alone (wide provider)
    · have same : signature = runtimeSignature L newcomer := by
        by_contra different
        exact outgrown.only signature different serves.connected
      rw [← same]
      exact serves.count
  rw [exists_eligible_iff factsToo sized built]
  rintro (⟨provider, _, alone⟩ | ⟨signature, serves⟩)
  · exact wide provider alone
  · by_cases same : signature = runtimeSignature L newcomer
    · have count := serves.count
      rw [same, length_groupOf_enlarged unique perm outgrown.accepted outgrown.joins, former] at count
      exact absurd count (Nat.succ_ne_self _)
    · rw [groupOf_enlarged unique perm (fun both => same both.2.2.symm)] at serves
      exact outgrown.only signature same serves.connected

theorem exists_insufficient_iff (valid : Valid config job)
    (unique : UniqueIds (newcomer :: providers)) (perm : enlarged.Perm (newcomer :: providers))
    (run : planner.plan L roomId config providers = .ok before)
    (placed : before.status ≠ .insufficient) :
    (∃ after, planner.plan L roomId config enlarged = .ok after ∧
        after.status = .insufficient) ↔
      Outgrown L planner roomId job providers enlarged newcomer := by
  have sized := valid.sized
  have same := plan_eq valid.job run
  obtain ⟨islands, selection, records⟩ := planFrom_records ((same providers).symm.trans run)
  constructor
  · rintro ⟨after, runToo, insufficient⟩
    obtain ⟨more, choice, recordsToo⟩ := planFrom_records ((same enlarged).symm.trans runToo)
    exact outgrown_of_insufficient sized unique perm records recordsToo placed insufficient
  · intro outgrown
    obtain ⟨more, built⟩ := outgrown.built unique perm records
    have fails := outgrown.not_eligible sized unique perm records built placed
    have selected : select job (planner.filter roomId job enlarged).accepted more = .ok {} := by
      unfold select
      rw [if_pos (by rw [outgrown.strategy]; exact mem_cons_self)]
      apply selectIsland_none
      intro island member
      exact Bool.eq_false_of_not_eq_true (fun good => fails ⟨island, member, good⟩)
    have returns : ∃ after, planner.planFrom L roomId config job
        (planner.filter roomId job enlarged) = .ok after := by
      unfold planFrom
      rw [built, ok_bind, selected, ok_bind]
      exact ⟨_, rfl⟩
    obtain ⟨after, runToo⟩ := returns
    obtain ⟨others, choice, recordsToo⟩ := planFrom_records runToo
    refine ⟨after, (same enlarged).trans runToo, ?_⟩
    by_contra placedToo
    have factsToo := planner.accepted_filter roomId job (unique.perm perm.symm)
    have coupled : job.strategy ∈ DistributedStrategy.tightlyCoupled := by
      rw [outgrown.strategy]
      exact mem_cons_self
    exact outgrown.not_eligible sized unique perm records recordsToo.built placed
      ((recordsToo.placed_iff_eligible factsToo sized coupled).mp placedToo)

/-- A newcomer leaves a job placed unless it joins the only group that the job
could use. -/
theorem stays_placed_iff (L : Library) (planner : PlacementPlanner) (roomId : String)
    (valid : Valid config job) (unique : UniqueIds (newcomer :: providers))
    (perm : enlarged.Perm (newcomer :: providers))
    (run : planner.plan L roomId config providers = .ok before)
    (placed : before.status ≠ .insufficient) :
    (∀ after, planner.plan L roomId config enlarged = .ok after ->
        after.status ≠ .insufficient) ↔
      ¬ Outgrown L planner roomId job providers enlarged newcomer := by
  rw [← exists_insufficient_iff valid unique perm run placed]
  constructor
  · rintro never ⟨after, runToo, insufficient⟩
    exact never after runToo insufficient
  · intro never after runToo insufficient
    exact never ⟨after, runToo, insufficient⟩

end Newcomer

end PlacementPlanner

namespace LanRoom

/-- A third provider on the LAN, which has measured no paths yet. -/
def third : ProviderCandidate :=
  provider "provider-c" [] [gpu "provider-c" "gpu-c0" 0]

theorem uniqueIdsWithThird : UniqueIds [third, first, second] := by
  refine ⟨?_, ?_⟩
  · decide
  · decide

theorem insufficient_with_third : ∃ plan,
    planner.plan library roomId config [third, first, second] = .ok plan ∧
      plan.status = .insufficient := by
  apply map_eq_ok_iff.mp
  decide +kernel

/-- The group of the third provider has no complete evidence. -/
theorem third_displaces :
    ¬ ∀ (L : Library) (planner : PlacementPlanner) (roomId : String)
      (config : TrainingRunConfig) (job : Phase18TrainingConfig)
      (providers enlarged : List ProviderCandidate) (newcomer : ProviderCandidate)
      (before after : PlacementPlan),
      Valid config job -> UniqueIds (newcomer :: providers) ->
        enlarged.Perm (newcomer :: providers) ->
          planner.plan L roomId config providers = .ok before -> before.status ≠ .insufficient ->
            planner.plan L roomId config enlarged = .ok after -> after.status ≠ .insufficient := by
  intro always
  obtain ⟨before, run, capable⟩ := first_two_capable
  obtain ⟨after, runToo, insufficient⟩ := insufficient_with_third
  have placed : before.status ≠ .insufficient := by
    rw [capable]
    decide
  exact always library planner roomId config job [first, second] [third, first, second] third before
    after valid uniqueIdsWithThird (List.Perm.refl _) run placed runToo insufficient

/-- A third provider on the LAN with another version of PyTorch. -/
def otherRuntime : ProviderCandidate :=
  { third with
    capabilities := [
      ("runtime", .obj [("cuda_version", .str "12.4"), ("pytorch_version", .str "2.6.0"),
        ("nccl_version", .str "2.21.5"), ("fsdp_available", .bool true)]),
      ("topology", .obj [("p2p_access", .bool true), ("lan_collective_compatible", .bool true)]),
      ("pairwise_paths", .arr [])] }

theorem first_two_connected : PlacementPlanner.Connected library planner job
    (groupOf library (runtimeSignature library first)
      (planner.filter roomId job [first, second]).accepted) := by
  have measured : (completePairwiseEvidence library planner.now planner.capabilityMaxAge
      (groupOf library (runtimeSignature library first)
        (planner.filter roomId job [first, second]).accepted)).map (Option.map fun evidence =>
          (atMost (evidence.map PairwiseEvidence.rttMs).max?
              job.runtimeRequirements.maximumRttMs,
            atLeast (evidence.map PairwiseEvidence.bandwidthMbps).min?
              job.runtimeRequirements.minimumBandwidthMbps)) = .ok (some (true, true)) := by
    decide +kernel
  obtain ⟨found, complete, bounds⟩ := map_eq_ok_iff.mp measured
  obtain ⟨evidence, rfl, within⟩ := Option.map_eq_some_iff.mp bounds
  refine ⟨by decide +kernel, by decide +kernel, evidence, complete, ?_⟩
  exact Prod.mk.inj within

/-- A provider that joins a group of its own leaves the two others selected. -/
theorem stays_placed_with_other_runtime : ∃ before,
    planner.plan library roomId config [first, second] = .ok before ∧ before.status = .capable ∧
      planner.rejection roomId job otherRuntime = none ∧
      (PlacementPlanner.clean roomId job otherRuntime).joinsLan = true ∧
      ∀ after, planner.plan library roomId config [otherRuntime, first, second] = .ok after ->
        after.status ≠ .insufficient := by
  obtain ⟨before, run, capable⟩ := first_two_capable
  refine ⟨before, run, capable, by decide +kernel, by decide +kernel, ?_⟩
  have placed : before.status ≠ .insufficient := by
    rw [capable]
    decide
  apply (PlacementPlanner.stays_placed_iff library planner roomId valid ⟨by decide, by decide⟩
    (List.Perm.refl _) run placed).mpr
  intro outgrown
  exact outgrown.only (runtimeSignature library first) (by decide +kernel) first_two_connected

end LanRoom

end Placement
end ZepGpu
