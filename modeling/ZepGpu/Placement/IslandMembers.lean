import ZepGpu.Placement.Planner

namespace ZepGpu
namespace Placement

open Foundation Dict List

/-!
# Which islands there are

Each provider with GPUs has an island of its own, and each group with complete
evidence has one.  A group is the providers of one runtime that join the LAN.
The evidence of a group has a sample of a fresh measured path from every
provider of the group to every other.
-/

section SameHost

variable {L : Library} {provider : ProviderCandidate} {island : GpuIsland}

/-- The island of the devices of one provider. -/
structure IsSameHost (provider : ProviderCandidate) (island : GpuIsland) : Prop where
  classification : island.classification = .sameHost
  providerIds : island.providerIds = [provider.providerId]
  gpuShareIds : island.gpuShareIds =
    (sortedBy shareKey provider.gpuShares).map GpuCandidate.gpuShareId
  tensorParallel : island.eligibility.tensorParallel = false

theorem sameHostIsland_spec (built : sameHostIsland L provider = .ok island) :
    IsSameHost provider island := by
  unfold sameHostIsland at built
  obtain ⟨generation, _, rest⟩ := bind_eq_ok.mp built
  obtain ⟨hint, _, same⟩ := bind_eq_ok.mp rest
  cases Except.ok.inj same
  exact ⟨rfl, rfl, rfl, rfl⟩

end SameHost

section Groups

variable (L : Library)

def groupOf (signature : Signature) (providers : List ProviderCandidate) :
    List ProviderCandidate :=
  providers.filter (fun provider => provider.joinsLan = true ∧ runtimeSignature L provider = signature)

theorem get?_lanGroups (signature : Signature) (providers : List ProviderCandidate) :
    (lanGroups L providers).get? signature =
      if groupOf L signature providers = [] then none else some (groupOf L signature providers) := by
  induction providers using List.reverseRecOn with
  | nil => rfl
  | append_singleton before provider ih =>
    have step : lanGroups L (before ++ [provider]) =
        if provider.joinsLan = true then
          (lanGroups L before).set (runtimeSignature L provider)
            (((lanGroups L before).get? (runtimeSignature L provider)).getD [] ++ [provider])
        else lanGroups L before := by
      rw [lanGroups, foldl_append]
      rfl
    have split : groupOf L signature (before ++ [provider]) =
        groupOf L signature before ++ groupOf L signature [provider] :=
      filter_append _ _
    rw [step, split]
    by_cases joins : provider.joinsLan = true
    · rw [if_pos joins]
      by_cases same : runtimeSignature L provider = signature
      · have alone : groupOf L signature [provider] = [provider] :=
          filter_cons_of_pos (decide_eq_true ⟨joins, same⟩)
        have former : ((lanGroups L before).get? signature).getD [] =
            groupOf L signature before := by
          rw [ih]
          split_ifs with empty
          · exact empty.symm
          · rfl
        have filled : groupOf L signature before ++ [provider] ≠ [] := by simp
        rw [same, get?_set_self, former, alone, if_neg filled]
      · have alone : groupOf L signature [provider] = [] :=
          filter_cons_of_neg (by simp [same])
        rw [get?_set_of_ne (Ne.symm same), ih, alone, append_nil]
    · have alone : groupOf L signature [provider] = [] :=
        filter_cons_of_neg (by simp [joins])
      rw [if_neg joins, ih, alone, append_nil]

variable (now maxAge : Time)

/-- A measured LAN path to a target, recent enough to count. -/
structure FreshSample (targetId : String) (sample : Json.Fields) : Prop where
  target : isText (get sample "target_provider_id") targetId = true
  kind : isText (get sample "measurement_kind") "measured" = true
  lan : ∃ lanClass, lanClass? sample = some lanClass
  rtt : ∃ rtt, number? sample "rtt_ms" = some rtt ∧ 0 ≤ rtt
  bandwidth : ∃ bandwidth, number? sample "bandwidth_mbps" = some bandwidth ∧ 0 < bandwidth
  fresh : ∃ measuredAt, L.fromisoformat (str L (get sample "measured_at")) = some measuredAt ∧
    now - measuredAt.aware.instant ≤ maxAge

/-- The evidence that a provider has reported about another. -/
structure EvidenceFor (provider : ProviderCandidate) (targetId : String)
    (entry : PairwiseEvidence) : Prop where
  source : entry.sourceProviderId = provider.providerId
  target : entry.targetProviderId = targetId
  sample : ∃ sample, sample ∈ provider.pairwisePaths ∧ FreshSample L now maxAge targetId sample

def CompleteEvidence (providers : List ProviderCandidate) (evidence : List PairwiseEvidence) : Prop :=
  ∀ source, source ∈ providers -> ∀ target, target ∈ providers ->
    source.providerId ≠ target.providerId ->
      ∃ entry, entry ∈ evidence ∧ EvidenceFor L now maxAge source target.providerId entry

theorem evidenceOf_spec {source : ProviderCandidate} {targetId : String} {sample : Json.Fields}
    {measuredAt : Datetime} {entry : PairwiseEvidence}
    (made : evidenceOf L source targetId sample measuredAt = .ok entry) :
    entry.sourceProviderId = source.providerId ∧ entry.targetProviderId = targetId := by
  obtain ⟨rtt, _, rest⟩ := bind_eq_ok.mp made
  obtain ⟨bandwidth, _, same⟩ := bind_eq_ok.mp rest
  cases Except.ok.inj same
  exact ⟨rfl, rfl⟩

theorem acceptable_spec {sample : Json.Fields} {measuredAt : Datetime}
    (good : acceptable now maxAge sample measuredAt = true) :
    (∃ lanClass, lanClass? sample = some lanClass) ∧
      (∃ rtt, number? sample "rtt_ms" = some rtt ∧ 0 ≤ rtt) ∧
      (∃ bandwidth, number? sample "bandwidth_mbps" = some bandwidth ∧ 0 < bandwidth) ∧
      now - measuredAt.instant ≤ maxAge := by
  unfold acceptable at good
  split at good
  next lanClass rtt bandwidth lanFound rttFound bandwidthFound =>
      simp only [Bool.and_eq_true, decide_eq_true_eq] at good
      exact ⟨⟨lanClass, lanFound⟩, ⟨rtt, rttFound, good.1.1⟩,
        ⟨bandwidth, bandwidthFound, good.1.2⟩, good.2⟩
  next => cases good

theorem pairwiseSample_spec {source : ProviderCandidate} {targetId : String}
    {entry : PairwiseEvidence} {samples : List Json.Fields}
    (found : pairwiseSample L now maxAge source targetId samples = .ok (some entry)) :
    entry.sourceProviderId = source.providerId ∧ entry.targetProviderId = targetId ∧
      ∃ sample, sample ∈ samples ∧ FreshSample L now maxAge targetId sample := by
  induction samples with
  | nil => cases found
  | cons sample rest ih =>
    have further (later : pairwiseSample L now maxAge source targetId rest = .ok (some entry)) :
        entry.sourceProviderId = source.providerId ∧ entry.targetProviderId = targetId ∧
          ∃ other, other ∈ sample :: rest ∧ FreshSample L now maxAge targetId other := by
      obtain ⟨origin, goal, other, member, fresh⟩ := ih later
      exact ⟨origin, goal, other, mem_cons_of_mem _ member, fresh⟩
    unfold pairwiseSample at found
    split at found
    next => exact further found
    next target =>
      split at found
      next => exact further found
      next measuredAt read =>
        split at found
        next => exact further found
        next kind =>
          split at found
          next => cases found
          next =>
            split at found
            next good =>
              obtain ⟨made, evidence, same⟩ := bind_eq_ok.mp found
              cases Except.ok.inj same
              obtain ⟨origin, goal⟩ := evidenceOf_spec L evidence
              obtain ⟨lan, rtt, bandwidth, age⟩ := acceptable_spec now maxAge good
              refine ⟨origin, goal, sample, mem_cons_self, ?_⟩
              exact ⟨Bool.eq_true_of_not_eq_false target, Bool.eq_true_of_not_eq_false kind, lan,
                rtt, bandwidth, measuredAt, read, age⟩
            next => exact further found

theorem evidenceFrom_spec {source : ProviderCandidate} {targets : List ProviderCandidate}
    {evidence : List PairwiseEvidence}
    (found : evidenceFrom L now maxAge source targets = .ok (some evidence)) :
    ∀ target, target ∈ targets -> source.providerId ≠ target.providerId ->
      ∃ entry, entry ∈ evidence ∧ EvidenceFor L now maxAge source target.providerId entry := by
  induction targets generalizing evidence with
  | nil => exact fun _ member => nomatch member
  | cons first rest ih =>
    unfold evidenceFrom at found
    intro target member different
    split at found
    next same =>
      rcases mem_cons.mp member with rfl | later
      · exact absurd same different
      · exact ih found target later different
    next =>
      obtain ⟨sample, here, found⟩ := bind_eq_ok.mp found
      cases sample with
      | none => cases Except.ok.inj found
      | some sample =>
        obtain ⟨others, later, same⟩ := bind_eq_ok.mp found
        obtain ⟨entries, isSome, joined⟩ := Option.map_eq_some_iff.mp (Except.ok.inj same)
        rw [isSome] at later
        rw [← joined]
        rcases mem_cons.mp member with rfl | further
        · obtain ⟨origin, goal, fresh⟩ := pairwiseSample_spec L now maxAge here
          exact ⟨sample, mem_cons_self, origin, goal, fresh⟩
        · obtain ⟨entry, found, evidenceFor⟩ := ih later target further different
          exact ⟨entry, mem_cons_of_mem _ found, evidenceFor⟩

theorem evidenceAmong_spec {targets sources : List ProviderCandidate}
    {evidence : List PairwiseEvidence}
    (found : evidenceAmong L now maxAge targets sources = .ok (some evidence)) :
    ∀ source, source ∈ sources -> ∀ target, target ∈ targets ->
      source.providerId ≠ target.providerId ->
        ∃ entry, entry ∈ evidence ∧ EvidenceFor L now maxAge source target.providerId entry := by
  induction sources generalizing evidence with
  | nil => exact fun _ member => nomatch member
  | cons first rest ih =>
    unfold evidenceAmong at found
    intro source member target inside different
    obtain ⟨here, complete, found⟩ := bind_eq_ok.mp found
    cases here with
    | none => cases Except.ok.inj found
    | some here =>
      obtain ⟨others, later, same⟩ := bind_eq_ok.mp found
      obtain ⟨entries, isSome, joined⟩ := Option.map_eq_some_iff.mp (Except.ok.inj same)
      rw [isSome] at later
      rw [← joined]
      rcases mem_cons.mp member with rfl | further
      · obtain ⟨entry, entryMember, evidenceFor⟩ :=
          evidenceFrom_spec L now maxAge complete target inside different
        exact ⟨entry, mem_append_left _ entryMember, evidenceFor⟩
      · obtain ⟨entry, entryMember, evidenceFor⟩ := ih later source further target inside different
        exact ⟨entry, mem_append_right _ entryMember, evidenceFor⟩

theorem completePairwiseEvidence_spec {providers : List ProviderCandidate}
    {evidence : List PairwiseEvidence}
    (found : completePairwiseEvidence L now maxAge providers = .ok (some evidence)) :
    CompleteEvidence L now maxAge providers evidence := by
  intro source member target inside
  exact evidenceAmong_spec L now maxAge found source (mem_sortedBy.mpr member) target
    (mem_sortedBy.mpr inside)

/-- The island of several providers with complete evidence of a LAN path. -/
structure IsLan (members : List ProviderCandidate) (island : GpuIsland) : Prop where
  several : 1 < members.length
  evidence : ∃ evidence,
    completePairwiseEvidence L now maxAge members = .ok (some evidence) ∧
      island = lanIsland L members evidence

theorem lanIslandOf_eq_some_iff {members : List ProviderCandidate} {island : GpuIsland} :
    lanIslandOf L now maxAge members = .ok (some island) ↔ IsLan L now maxAge members island := by
  unfold lanIslandOf
  split_ifs with several
  · constructor
    · intro made
      obtain ⟨evidence, complete, same⟩ := bind_eq_ok.mp made
      obtain ⟨entries, isSome, rfl⟩ := Option.map_eq_some_iff.mp (Except.ok.inj same)
      rw [isSome] at complete
      exact ⟨several, entries, complete, rfl⟩
    · rintro ⟨_, evidence, complete, rfl⟩
      rw [complete]
      rfl
  · constructor
    · intro made
      cases Except.ok.inj made
    · exact fun lan => absurd lan.several several

theorem mem_lanIslands {groups : List (List ProviderCandidate)} {islands : List GpuIsland}
    (run : lanIslands L now maxAge groups = .ok islands) {island : GpuIsland} :
    island ∈ islands ↔ ∃ members, members ∈ groups ∧ IsLan L now maxAge members island := by
  induction groups generalizing islands with
  | nil =>
    cases Except.ok.inj run
    simp
  | cons members rest ih =>
    obtain ⟨here, made, same⟩ := bind_eq_ok.mp run
    obtain ⟨others, later, same⟩ := bind_eq_ok.mp same
    cases Except.ok.inj same
    rw [mem_append, ih later, Option.mem_toList]
    constructor
    · rintro (isSome | ⟨other, member, lan⟩)
      · rw [isSome] at made
        exact ⟨members, mem_cons_self, (lanIslandOf_eq_some_iff L now maxAge).mp made⟩
      · exact ⟨other, mem_cons_of_mem _ member, lan⟩
    · rintro ⟨other, member, lan⟩
      rcases mem_cons.mp member with rfl | further
      · have same := (lanIslandOf_eq_some_iff L now maxAge).mpr lan
        exact Or.inl (Except.ok.inj (made.symm.trans same))
      · exact Or.inr ⟨other, further, lan⟩

theorem exists_lanIslands_iff {groups : List (List ProviderCandidate)} :
    (∃ islands, lanIslands L now maxAge groups = .ok islands) ↔
      ∀ members, members ∈ groups ->
        ∃ island, lanIslandOf L now maxAge members = .ok island := by
  induction groups with
  | nil =>
    constructor
    · exact fun _ _ member => nomatch member
    · exact fun _ => ⟨[], rfl⟩
  | cons members rest ih =>
    rw [forall_mem_cons, ← ih]
    constructor
    · rintro ⟨islands, run⟩
      obtain ⟨here, made, same⟩ := bind_eq_ok.mp run
      obtain ⟨others, later, _⟩ := bind_eq_ok.mp same
      exact ⟨⟨here, made⟩, others, later⟩
    · rintro ⟨⟨here, made⟩, others, later⟩
      refine ⟨here.toList ++ others, ?_⟩
      rw [lanIslands, made, ok_bind, later]
      rfl

theorem mem_groups {providers members : List ProviderCandidate} :
    members ∈ (lanGroups L providers).keys.filterMap (lanGroups L providers).get? ↔
      ∃ signature, members = groupOf L signature providers ∧ members ≠ [] := by
  rw [mem_filterMap]
  constructor
  · rintro ⟨signature, _, found⟩
    rw [get?_lanGroups] at found
    split_ifs at found with empty
    cases Option.some.inj found
    exact ⟨signature, rfl, empty⟩
  · rintro ⟨signature, rfl, filled⟩
    have found : (lanGroups L providers).get? signature = some (groupOf L signature providers) := by
      rw [get?_lanGroups, if_neg filled]
    exact ⟨signature, mem_keys_of_get? found, found⟩

theorem mem_buildGpuIslands {providers : List ProviderCandidate} {islands : List GpuIsland}
    (built : buildGpuIslands L now maxAge providers = .ok islands) {island : GpuIsland} :
    island ∈ islands ↔
      (∃ provider, provider ∈ providers ∧ provider.gpuShares ≠ [] ∧
        sameHostIsland L provider = .ok island) ∨
      ∃ signature, IsLan L now maxAge
        (groupOf L signature (sortedBy ProviderCandidate.providerId providers)) island := by
  obtain ⟨hosts, run, rest⟩ := bind_eq_ok.mp built
  obtain ⟨lan, groups, same⟩ := bind_eq_ok.mp rest
  cases Except.ok.inj same
  rw [mem_sortedBy, mem_append, mem_of_mapM run, mem_lanIslands L now maxAge groups]
  constructor
  · rintro (⟨provider, member, made⟩ | ⟨members, member, isLan⟩)
    · obtain ⟨inside, filled⟩ := mem_filter.mp member
      exact Or.inl ⟨provider, mem_sortedBy.mp inside, of_decide_eq_true filled, made⟩
    · obtain ⟨signature, rfl, _⟩ := (mem_groups L).mp member
      exact Or.inr ⟨signature, isLan⟩
  · rintro (⟨provider, member, filled, made⟩ | ⟨signature, isLan⟩)
    · refine Or.inl ⟨provider, mem_filter.mpr ⟨mem_sortedBy.mpr member, ?_⟩, made⟩
      exact decide_eq_true filled
    · refine Or.inr ⟨_, (mem_groups L).mpr ⟨signature, rfl, ?_⟩, isLan⟩
      exact ne_nil_of_length_pos (Nat.lt_of_succ_lt isLan.several)

theorem exists_buildGpuIslands_iff {providers : List ProviderCandidate} :
    (∃ islands, buildGpuIslands L now maxAge providers = .ok islands) ↔
      (∀ provider, provider ∈ providers -> provider.gpuShares ≠ [] ->
        ∃ island, sameHostIsland L provider = .ok island) ∧
      ∀ signature, ∃ island, lanIslandOf L now maxAge
        (groupOf L signature (sortedBy ProviderCandidate.providerId providers)) = .ok island := by
  constructor
  · rintro ⟨islands, built⟩
    obtain ⟨hosts, run, rest⟩ := bind_eq_ok.mp built
    obtain ⟨lan, groups, _⟩ := bind_eq_ok.mp rest
    constructor
    · intro provider member filled
      apply exists_mapM_eq_ok_iff.mp ⟨hosts, run⟩
      exact mem_filter.mpr ⟨mem_sortedBy.mpr member, decide_eq_true filled⟩
    · intro signature
      by_cases empty : groupOf L signature (sortedBy ProviderCandidate.providerId providers) = []
      · rw [empty]
        exact ⟨none, rfl⟩
      · apply (exists_lanIslands_iff L now maxAge).mp ⟨lan, groups⟩
        exact (mem_groups L).mpr ⟨signature, rfl, empty⟩
  · rintro ⟨hosts, groups⟩
    have each : ∀ provider, provider ∈ (sortedBy ProviderCandidate.providerId providers).filter
        (fun provider => provider.gpuShares ≠ []) ->
          ∃ island, sameHostIsland L provider = .ok island := by
      intro provider member
      obtain ⟨inside, filled⟩ := mem_filter.mp member
      exact hosts provider (mem_sortedBy.mp inside) (of_decide_eq_true filled)
    obtain ⟨hostIslands, run⟩ := exists_mapM_eq_ok_iff.mpr each
    obtain ⟨lanIslands, lan⟩ := (exists_lanIslands_iff L now maxAge).mpr (fun members member => by
      obtain ⟨signature, rfl, _⟩ := (mem_groups L).mp member
      exact groups signature)
    refine ⟨sortedBy islandKey (hostIslands ++ lanIslands), ?_⟩
    exact bind_eq_ok.mpr ⟨hostIslands, run, bind_eq_ok.mpr ⟨lanIslands, lan, rfl⟩⟩

end Groups

end Placement
end ZepGpu
