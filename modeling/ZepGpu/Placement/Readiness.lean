import ZepGpu.Placement.Planner

namespace ZepGpu
namespace Placement

open Foundation
open Foundation.Json (Fields)

/-!
# Ready providers

What it means that a provider is not rejected: it is in the room and online, its
heartbeat and its report are recent, and the runtime that it reports fits the
requirements of the job.
-/

/-! ## Compatible runtimes -/

/-- A reported version: a text that is not blank. -/
def Reported (actual : Option Json) : Prop :=
  ∃ text, actual = some (.str text) ∧ ¬ blank text

/-- The version that is asked for, if one is, or one below it. -/
def Fits (required : Option String) (actual : Option Json) : Prop :=
  ∀ wanted, required = some wanted -> ∃ text, actual = some (.str text) ∧ ¬ blank text ∧
    (text = wanted ∨ (wanted ++ ".").toList <+: text.toList)

theorem versionReported_iff {actual : Option Json} : versionReported actual = true ↔ Reported actual := by
  constructor
  · intro reported
    unfold versionReported at reported
    split at reported
    next text => exact ⟨text, rfl, of_decide_eq_true reported⟩
    next => cases reported
  · rintro ⟨text, rfl, filled⟩
    exact decide_eq_true filled

theorem Reported.reported {actual : Option Json} (given : Reported actual) :
    reported actual = true := by
  obtain ⟨text, rfl, filled⟩ := given
  apply decide_eq_true
  constructor
  · rintro rfl
    exact filled (by decide)
  · rintro rfl
    exact filled (by decide)

theorem versionMatches_iff {required : Option String} {actual : Option Json} :
    versionMatches required actual = true ↔ Fits required actual := by
  cases required with
  | none =>
    constructor
    · exact fun _ _ impossible => nomatch impossible
    · exact fun _ => rfl
  | some wanted =>
    constructor
    · intro fits _ same
      cases Option.some.inj same
      dsimp only [versionMatches] at fits
      split at fits
      next text =>
          obtain ⟨filled, matched⟩ := Bool.and_eq_true_iff.mp fits
          exact ⟨text, rfl, of_decide_eq_true filled, of_decide_eq_true matched⟩
      next => cases fits
    · intro fits
      obtain ⟨text, rfl, filled, matched⟩ := fits wanted rfl
      exact Bool.and_eq_true_iff.mpr ⟨decide_eq_true filled, decide_eq_true matched⟩

theorem saysTrue_iff {value : Option Json} : saysTrue value = true ↔ value = some (.bool true) := by
  constructor
  · intro yes
    unfold saysTrue at yes
    split at yes
    · rfl
    · cases yes
  · rintro rfl
    rfl

theorem atMost_iff {figure limit : Option Rat} :
    atMost figure limit = true ↔
      ∀ bound, limit = some bound -> ∃ value, figure = some value ∧ value ≤ bound := by
  cases limit with
  | none =>
    constructor
    · exact fun _ _ impossible => nomatch impossible
    · exact fun _ => rfl
  | some bound =>
    cases figure with
    | none =>
      constructor
      · exact fun impossible => nomatch impossible
      · intro reached
        obtain ⟨_, impossible, _⟩ := reached bound rfl
        cases impossible
    | some value =>
      constructor
      · rintro below _ ⟨⟩
        exact ⟨value, rfl, of_decide_eq_true below⟩
      · intro reached
        obtain ⟨_, ⟨⟩, below⟩ := reached bound rfl
        exact decide_eq_true below

theorem atLeast_iff {figure limit : Option Rat} :
    atLeast figure limit = true ↔
      ∀ bound, limit = some bound -> ∃ value, figure = some value ∧ bound ≤ value := by
  cases limit with
  | none =>
    constructor
    · exact fun _ _ impossible => nomatch impossible
    · exact fun _ => rfl
  | some bound =>
    cases figure with
    | none =>
      constructor
      · exact fun impossible => nomatch impossible
      · intro reached
        obtain ⟨_, impossible, _⟩ := reached bound rfl
        cases impossible
    | some value =>
      constructor
      · rintro above _ ⟨⟩
        exact ⟨value, rfl, of_decide_eq_true above⟩
      · intro reached
        obtain ⟨_, ⟨⟩, above⟩ := reached bound rfl
        exact decide_eq_true above

/-- The reported runtime and paths of a provider fit the requirements of a job. -/
structure RuntimeCompatible (provider : ProviderCandidate) (requirements : RuntimeRequirements) :
    Prop where
  cuda : requirements.requiresCuda = true ->
    Reported (get provider.runtime "cuda_version") ∧
      Fits requirements.cudaVersion (get provider.runtime "cuda_version")
  pytorch : Reported (get provider.runtime "pytorch_version") ∧
    Fits requirements.pytorchVersion (get provider.runtime "pytorch_version")
  nccl : (requirements.requiresFsdp2 = true ∨ requirements.requiresTensorParallel = true ->
      Reported (get provider.runtime "nccl_version")) ∧
    Fits requirements.ncclVersion (get provider.runtime "nccl_version")
  fsdp2 : requirements.requiresFsdp2 = true ->
    get provider.runtime "fsdp_available" = some (.bool true)
  tensorParallel : requirements.requiresTensorParallel = true ->
    get provider.runtime "tensor_parallel_available" = some (.bool true)
  p2p : requirements.requiresP2p = true -> get provider.topology "p2p_access" = some (.bool true)
  nvlink : requirements.requiresNvlink = true -> get provider.topology "nvlink" = some (.bool true)
  rtt : ∀ bound, requirements.maximumRttMs = some bound ->
    ∃ rtt, provider.rttMs = some rtt ∧ rtt ≤ bound
  bandwidth : ∀ bound, requirements.minimumBandwidthMbps = some bound ->
    ∃ bandwidth, provider.bandwidthMbps = some bandwidth ∧ bound ≤ bandwidth

section Runtime

variable {provider : ProviderCandidate} {requirements : RuntimeRequirements}

theorem reject_eq_none {α : Type} {p : Prop} [Decidable p] {reason : α} {rest : Option α} :
    (if p then some reason else rest) = none ↔ ¬ p ∧ rest = none := by
  split_ifs with fails
  · constructor
    · exact fun impossible => nomatch impossible
    · exact fun both => absurd fails both.1
  · constructor
    · exact fun passes => ⟨fails, passes⟩
    · exact fun both => both.2

theorem truthyPart_eq_some {key : String} {fields : Fields}
    (found : truthyPart provider key = some fields) : fields = provider.part key := by
  unfold truthyPart at found
  unfold ProviderCandidate.part
  split at found
  next same => rw [same, Option.some.inj found]
  next value notDict same =>
      rw [same]
      split_ifs at found
      cases Option.some.inj found
      split
      next inner equal => exact absurd (Option.some.inj equal) (notDict inner)
      next => rfl
  next missing =>
      rw [missing]
      exact (Option.some.inj found).symm

theorem truthyPart_getD (key : String) : (truthyPart provider key).getD [] = provider.part key := by
  cases found : truthyPart provider key with
  | some fields => exact truthyPart_eq_some found
  | none =>
    unfold truthyPart at found
    unfold ProviderCandidate.part
    split at found
    next => cases found
    next value notDict same =>
        rw [same]
        split
        next inner equal => exact absurd (Option.some.inj equal) (notDict inner)
        next => rfl
    next => cases found

theorem truthyPart_of_get {key name : String} {value : Json}
    (found : get (provider.part key) name = some value) :
    truthyPart provider key = some (provider.part key) := by
  unfold ProviderCandidate.part at found ⊢
  unfold truthyPart
  split at found
  next fields same => rw [same]
  next => cases found

theorem runtimeRejection_eq_none_iff :
    runtimeRejection provider requirements = none ↔ RuntimeCompatible provider requirements := by
  have versions (runtime : Fields) : versionRejection requirements runtime = none ↔
      (requirements.requiresCuda = true -> Reported (get runtime "cuda_version") ∧
        Fits requirements.cudaVersion (get runtime "cuda_version")) ∧
      (Reported (get runtime "pytorch_version") ∧
        Fits requirements.pytorchVersion (get runtime "pytorch_version")) ∧
      (requirements.requiresFsdp2 = true ∨ requirements.requiresTensorParallel = true ->
        Reported (get runtime "nccl_version")) ∧
      Fits requirements.ncclVersion (get runtime "nccl_version") := by
    unfold versionRejection
    simp only [reject_eq_none, not_and, Bool.not_eq_false, versionReported_iff, versionMatches_iff]
    constructor
    · rintro ⟨cuda, fits, pytorch, fitsToo, reported, nccl, _⟩
      exact ⟨fun needed => ⟨cuda needed, fits needed⟩, ⟨pytorch, fitsToo⟩, reported, nccl⟩
    · rintro ⟨cuda, ⟨pytorch, fitsToo⟩, reported, nccl⟩
      exact ⟨fun needed => (cuda needed).1, fun needed => (cuda needed).2, pytorch, fitsToo,
        reported, nccl, trivial⟩
  have support (runtime topology : Fields) : supportRejection requirements runtime topology = none ↔
      (requirements.requiresFsdp2 = true -> get runtime "fsdp_available" = some (.bool true)) ∧
      (requirements.requiresTensorParallel = true ->
        get runtime "tensor_parallel_available" = some (.bool true)) ∧
      (requirements.requiresP2p = true -> get topology "p2p_access" = some (.bool true)) ∧
      (requirements.requiresNvlink = true -> get topology "nvlink" = some (.bool true)) := by
    unfold supportRejection
    simp only [reject_eq_none, not_and, Bool.not_eq_false, saysTrue_iff, and_true]
  have path : pathRejection provider requirements = none ↔
      (∀ bound, requirements.maximumRttMs = some bound ->
        ∃ rtt, provider.rttMs = some rtt ∧ rtt ≤ bound) ∧
      (∀ bound, requirements.minimumBandwidthMbps = some bound ->
        ∃ bandwidth, provider.bandwidthMbps = some bandwidth ∧ bound ≤ bandwidth) := by
    unfold pathRejection
    simp only [reject_eq_none, Bool.not_eq_false, atMost_iff, atLeast_iff, and_true]
  constructor
  · intro passes
    unfold runtimeRejection at passes
    split at passes
    next => cases passes
    next runtime found =>
        cases truthyPart_eq_some found
        rw [Option.or_eq_none_iff, Option.or_eq_none_iff, truthyPart_getD, versions, support, path]
          at passes
        obtain ⟨⟨cuda, pytorch, reported, nccl⟩, ⟨fsdp2, parallel, p2p, nvlink⟩, rtt, bandwidth⟩ :=
          passes
        exact ⟨cuda, pytorch, ⟨reported, nccl⟩, fsdp2, parallel, p2p, nvlink, rtt, bandwidth⟩
  · intro fits
    obtain ⟨text, reported, _⟩ := fits.pytorch.1
    unfold runtimeRejection
    rw [truthyPart_of_get reported]
    dsimp only
    rw [Option.or_eq_none_iff, Option.or_eq_none_iff, truthyPart_getD, versions, support, path]
    exact ⟨⟨fits.cuda, fits.pytorch, fits.nccl⟩,
      ⟨fits.fsdp2, fits.tensorParallel, fits.p2p, fits.nvlink⟩, fits.rtt, fits.bandwidth⟩

end Runtime

/-! ## Ready providers -/

namespace PlacementPlanner

variable (planner : PlacementPlanner) (roomId : String) (job : Phase18TrainingConfig)

/-- A provider that a job can be placed on, its GPUs apart. -/
structure Ready (provider : ProviderCandidate) : Prop where
  room : provider.roomId = roomId
  unrevoked : provider.revoked = false
  online : provider.online = true
  heartbeat : ∃ lastSeen, provider.lastSeen = some lastSeen ∧
    planner.now - lastSeen.aware.instant ≤
      (max 90 (provider.heartbeatIntervalSeconds * 3) : Nat) * 1000000
  capabilities : ∃ reportedAt, provider.capabilitiesReportedAt = some reportedAt ∧
    planner.now - reportedAt.aware.instant ≤ planner.capabilityMaxAge
  health : ∀ state, state ∈ unhealthyStates -> provider.healthState ≠ some state
  runtime : RuntimeCompatible provider job.runtimeRequirements

variable {provider : ProviderCandidate}

theorem heartbeatIsStale_eq_false_iff {now : Time} :
    heartbeatIsStale provider now = false ↔
      ∃ lastSeen, provider.lastSeen = some lastSeen ∧ now - lastSeen.aware.instant ≤
        (max 90 (provider.heartbeatIntervalSeconds * 3) : Nat) * 1000000 := by
  unfold heartbeatIsStale
  cases provider.lastSeen with
  | none =>
    constructor
    · exact fun impossible => nomatch impossible
    · rintro ⟨_, impossible, _⟩
      cases impossible
  | some lastSeen =>
    dsimp only
    rw [decide_eq_false_iff_not, not_lt]
    constructor
    · exact fun recent => ⟨lastSeen, rfl, recent⟩
    · rintro ⟨_, ⟨⟩, recent⟩
      exact recent

theorem capabilitiesAreStale_eq_false_iff {reportedAt : Option Datetime} {now maxAge : Time} :
    capabilitiesAreStale reportedAt now maxAge = false ↔
      ∃ reported, reportedAt = some reported ∧ now - reported.aware.instant ≤ maxAge := by
  unfold capabilitiesAreStale
  cases reportedAt with
  | none =>
    constructor
    · exact fun impossible => nomatch impossible
    · rintro ⟨_, impossible, _⟩
      cases impossible
  | some reported =>
    dsimp only
    rw [decide_eq_false_iff_not, not_lt]
    constructor
    · exact fun recent => ⟨reported, rfl, recent⟩
    · rintro ⟨_, ⟨⟩, recent⟩
      exact recent

theorem providerRejection_eq_none_iff :
    planner.providerRejection roomId job provider = none ↔ planner.Ready roomId job provider := by
  unfold providerRejection
  simp only [reject_eq_none, Option.map_eq_none_iff, runtimeRejection_eq_none_iff, not_not,
    Bool.not_eq_true, Bool.not_eq_false, heartbeatIsStale_eq_false_iff,
    capabilitiesAreStale_eq_false_iff, not_exists, not_and]
  constructor
  · rintro ⟨room, unrevoked, online, heartbeat, capabilities, health, runtime⟩
    exact ⟨room, unrevoked, online, heartbeat, capabilities, health, runtime⟩
  · rintro ⟨room, unrevoked, online, heartbeat, capabilities, health, runtime⟩
    exact ⟨room, unrevoked, online, heartbeat, capabilities, health, runtime⟩

end PlacementPlanner

end Placement
end ZepGpu
