import ZepGpu.Placement.Planner

namespace ZepGpu
namespace Placement

open Foundation

/-!
# The order of the candidates

The filter sorts the providers by their identifiers and the shares of each by
device and identifier.  With unique identifiers what it returns is the same for
any order of the input, and the plan depends on nothing else.
-/

/-- The same provider with its shares in another order. -/
def SameButShares (left right : ProviderCandidate) : Prop :=
  ∃ shares : List GpuCandidate, left.gpuShares.Perm shares ∧
    right = { left with gpuShares := shares }

/-- The providers in another order, and the shares of each in another order. -/
def Rearranged (left right : List ProviderCandidate) : Prop :=
  ∃ middle : List ProviderCandidate, left.Perm middle ∧ List.Forall₂ SameButShares middle right

/-- No identifier of a provider and none of a share occurs twice. -/
structure UniqueIds (candidates : List ProviderCandidate) : Prop where
  providers : (candidates.map ProviderCandidate.providerId).Nodup
  shares : ((candidates.flatMap ProviderCandidate.gpuShares).map GpuCandidate.gpuShareId).Nodup

theorem SameButShares.providerId {left right : ProviderCandidate} (same : SameButShares left right) :
    left.providerId = right.providerId := by
  obtain ⟨shares, _, rfl⟩ := same
  rfl

theorem UniqueIds.sharesOf {providers : List ProviderCandidate} (unique : UniqueIds providers)
    {provider : ProviderCandidate} (member : provider ∈ providers) :
    (provider.gpuShares.map GpuCandidate.gpuShareId).Nodup := by
  have shares := unique.shares
  rw [List.map_flatMap, List.nodup_flatMap] at shares
  exact shares.1 provider member

theorem UniqueIds.perm {left right : List ProviderCandidate} (unique : UniqueIds left)
    (perm : left.Perm right) : UniqueIds right :=
  ⟨(perm.map _).nodup_iff.mp unique.providers,
    ((perm.flatMap_right _).map _).nodup_iff.mp unique.shares⟩

theorem nodup_shareKey {shares : List GpuCandidate}
    (distinct : (shares.map GpuCandidate.gpuShareId).Nodup) : (shares.map shareKey).Nodup := by
  have second : shares.map GpuCandidate.gpuShareId =
      (shares.map shareKey).map (fun key => (ofLex key).2) := by
    rw [List.map_map]
    rfl
  rw [second] at distinct
  exact List.Nodup.of_map _ distinct

namespace PlacementPlanner

variable (self : PlacementPlanner) (roomId : String) (job : Phase18TrainingConfig)

section SameProvider

variable {left right : ProviderCandidate}

section

variable (distinct : (left.gpuShares.map GpuCandidate.gpuShareId).Nodup)
  (same : SameButShares left right)

include distinct same

theorem viableGpus_sameButShares : viableGpus roomId job left = viableGpus roomId job right := by
  obtain ⟨shares, perm, rfl⟩ := same
  unfold viableGpus
  rw [sortedBy_eq_of_perm perm (nodup_shareKey distinct)]
  rfl

theorem rejection_sameButShares :
    self.rejection roomId job left = self.rejection roomId job right := by
  unfold rejection
  rw [viableGpus_sameButShares roomId job distinct same]
  obtain ⟨shares, _, rfl⟩ := same
  rfl

theorem clean_sameButShares : clean roomId job left = clean roomId job right := by
  unfold clean
  rw [viableGpus_sameButShares roomId job distinct same]
  obtain ⟨shares, _, rfl⟩ := same
  rfl

end

end SameProvider

/-- What the planner makes of one candidate, whatever its position. -/
structure Summary where
  providerId : String
  rejection : Option (String × String)
  clean : ProviderCandidate
  warnings : List String

def summary (provider : ProviderCandidate) : Summary where
  providerId := provider.providerId
  rejection := self.rejection roomId job provider
  clean := clean roomId job provider
  warnings := warningsOf provider

def ofSummaries (summaries : List Summary) : Filtered :=
  let passing := summaries.filter (fun summary => summary.rejection = none)
  { accepted := passing.map Summary.clean
    rejected := summaries.filterMap (fun summary =>
      summary.rejection.map (fun codeAndReason =>
        ⟨summary.providerId, codeAndReason.1, codeAndReason.2⟩))
    warnings := sortedBy id (passing.flatMap Summary.warnings).dedup }

theorem filter_eq_ofSummaries (providers : List ProviderCandidate) :
    self.filter roomId job providers =
      ofSummaries ((sortedBy ProviderCandidate.providerId providers).map
        (self.summary roomId job)) := by
  unfold filter ofSummaries
  simp only [List.filter_map, List.map_map, List.filterMap_map, List.flatMap_map]
  rfl

theorem filter_rearranged {left right : List ProviderCandidate} (unique : UniqueIds left)
    (same : Rearranged left right) :
    self.filter roomId job right = self.filter roomId job left := by
  obtain ⟨middle, perm, related⟩ := same
  have middleUnique := unique.perm perm
  rw [filter_eq_ofSummaries, filter_eq_ofSummaries, sortedBy_eq_of_perm perm unique.providers]
  symm
  apply congrArg ofSummaries
  apply map_eq_of_forall₂ (forall₂_sortedBy related (fun _ _ => SameButShares.providerId))
  intro first second member alike
  have distinct := middleUnique.sharesOf (mem_sortedBy.mp member)
  unfold summary
  rw [self.rejection_sameButShares roomId job distinct alike,
    clean_sameButShares roomId job distinct alike, alike.providerId]
  obtain ⟨shares, _, rfl⟩ := alike
  rfl

/-- A plan does not depend on the order of the providers, nor on that of their
shares. -/
theorem plan_rearranged (L : Library) (config : TrainingRunConfig)
    {left right : List ProviderCandidate} (unique : UniqueIds left) (same : Rearranged left right) :
    self.plan L roomId config right = self.plan L roomId config left := by
  unfold plan
  split
  · rfl
  · rw [self.filter_rearranged roomId _ unique same]

end PlacementPlanner

namespace LanRoom

def islandNames : List (String × String) :=
  [("zepgpu-island:same_host:provider-a:gpu-a0",
    "73d79789-77e0-50f0-8d1d-84f3e1d2d32d"),
  ("zepgpu-island:same_host:provider-b:gpu-b0",
    "f27c2c06-290d-5c35-87b5-ec951e0b2435"),
  ("zepgpu-island:same_host:provider-c:gpu-c0",
    "705e051b-7d6a-57fb-bb3b-2cbf67b73285"),
  ("zepgpu-island:lan:provider-a:provider-b:gpu-a0:gpu-b0",
    "5f8c7f15-46f0-5ad2-99bc-e19bc032c51d")]

def floatTexts : List (Rat × String) :=
  [(5 / 100, "0.05"), (2 / 10000, "0.0002"), (1 / 100000000, "1e-08"), (9 / 10, "0.9"),
    (999 / 1000, "0.999"), (0, "0.0"), (1, "1.0"), (4, "4.0"), (120, "120.0")]

/-- The first moment of the year 2026. -/
def measuredAt : Datetime where
  wall := 1767225600000000
  offset := some 0

def measuredAtText : String :=
  "2026-01-01T00:00:00+00:00"

def library : Library where
  strOfJson := fun _ => "None"
  uuid5 := fun name => ((islandNames.find? (fun entry => entry.1 = name)).map Prod.snd).getD ""
  fromisoformat := fun text => if text = measuredAtText then some measuredAt else none
  isoformat := fun _ => measuredAtText
  reprFloat := fun value => ((floatTexts.find? (fun entry => entry.1 = value)).map Prod.snd).getD ""
  strOrInt := some

def planner : PlacementPlanner where
  now := 1767225660000000

def roomId : String :=
  "room"

/-- Two nodes with a GPU each, which exchange data on a LAN. -/
def job : Phase18TrainingConfig where
  strategy := .fsdp2
  networkScope := some .lan
  runtimeRequirements := { requiresP2p := true, requiresFsdp2 := true }

def config : TrainingRunConfig where
  schemaVersion := 3
  maxSteps := 2
  distributed := { enabled := true }
  phase18 := some job

def gpu (providerId shareId : String) (deviceIndex : Int) : GpuCandidate where
  gpuShareId := shareId
  providerId := providerId
  roomId := roomId
  deviceIndex := deviceIndex
  totalMemoryMb := 24576
  availableMemoryMb := 24576

def pathTo (providerId : String) : Json :=
  .obj [("target_provider_id", .str providerId), ("measurement_kind", .str "measured"),
    ("path_class", .str "lan"), ("rtt_ms", .float (1 / 2)), ("bandwidth_mbps", .int 10000),
    ("measured_at", .str measuredAtText)]

def provider (providerId : String) (paths : List Json) (gpus : List GpuCandidate) :
    ProviderCandidate where
  providerId := providerId
  roomId := roomId
  online := true
  healthState := some "healthy"
  lastSeen := some measuredAt
  capabilities := [
    ("runtime", .obj [("cuda_version", .str "12.4"), ("pytorch_version", .str "2.5.1"),
      ("nccl_version", .str "2.21.5"), ("fsdp_available", .bool true)]),
    ("topology", .obj [("p2p_access", .bool true), ("lan_collective_compatible", .bool true)]),
    ("pairwise_paths", .arr paths)]
  capabilitiesReportedAt := some measuredAt
  pathClass := some "lan"
  rttMs := some (1 / 2)
  bandwidthMbps := some 10000
  pathMeasurementKind := some "measured"
  gpuShares := gpus

def first : ProviderCandidate :=
  provider "provider-a" [pathTo "provider-b"]
    [gpu "provider-a" "gpu-a0" 0, gpu "provider-a" "gpu-a1" 1]

def second : ProviderCandidate :=
  provider "provider-b" [pathTo "provider-a"] [gpu "provider-b" "gpu-b0" 0]

/-- The first provider with its shares the other way around. -/
def firstReversed : ProviderCandidate :=
  provider "provider-a" [pathTo "provider-b"]
    [gpu "provider-a" "gpu-a1" 1, gpu "provider-a" "gpu-a0" 0]

theorem uniqueIds : UniqueIds [first, second] := by
  refine ⟨?_, ?_⟩
  · decide
  · decide

/-- The providers, and the shares of one of them, in the other order. -/
theorem plan_reversed :
    planner.plan library roomId config [second, firstReversed] =
      planner.plan library roomId config [first, second] := by
  apply PlacementPlanner.plan_rearranged planner roomId library config uniqueIds
  refine ⟨[second, first], List.Perm.swap _ _ _, ?_⟩
  refine List.Forall₂.cons ⟨_, List.Perm.refl _, rfl⟩ (List.Forall₂.cons ⟨_, ?_, rfl⟩ List.Forall₂.nil)
  exact List.Perm.swap _ _ _

end LanRoom

end Placement
end ZepGpu
