import Mathlib.Order.WithBot
import ZepGpu.Foundation.Sha256
import ZepGpu.Placement.Islands

namespace ZepGpu
namespace Placement

open Foundation
open Foundation.Json (Fields)

/-!
# The placement planner

Providers are filtered, the islands of the accepted ones are built, and the
GPUs are selected: for a tightly coupled strategy all from one island of the
requested size, otherwise from the best ranked providers.  The plan records the
selection, the rejections and a digest of both.
-/

inductive PlacementStatus where
  | capable
  | marginal
  | insufficient
  deriving DecidableEq, Repr

/-- A provider that is left out, with the reason. -/
structure RejectedCandidate where
  providerId : String
  code : String
  reason : String
  deriving DecidableEq

/-- A device of the plan and where it stands in the order of workers. -/
structure SelectedGpu where
  providerId : String
  gpuShareId : String
  deviceIndex : Int
  perGpuVramMb : Nat
  islandId : String
  deriving DecidableEq

/-- The plan that `plan` returns. -/
structure PlacementPlan where
  schemaVersion : Nat := 1
  planId : String
  roomId : String
  strategy : DistributedStrategy
  status : PlacementStatus
  selectedProviderIds : List String
  selectedGpus : List SelectedGpu
  selectedIslandIds : List String
  candidateIslands : List GpuIsland
  rejectedCandidates : List RejectedCandidate
  warnings : List String
  actionableReasons : List String
  strategyEligibility : List (String × Bool)
  networkMeasurements : List (String × String)
  explanation : String

def RejectedCandidate.modelDump (candidate : RejectedCandidate) : Json :=
  .obj [("provider_id", .str candidate.providerId), ("code", .str candidate.code),
    ("reason", .str candidate.reason)]

def SelectedGpu.modelDump (gpu : SelectedGpu) : Json :=
  .obj [("provider_id", .str gpu.providerId), ("gpu_share_id", .str gpu.gpuShareId),
    ("device_index", .int gpu.deviceIndex), ("per_gpu_vram_mb", .int gpu.perGpuVramMb),
    ("island_id", .str gpu.islandId)]

/-- `actual in {"", "unknown", "unavailable"}` -/
def blank (actual : String) : Prop :=
  actual ∈ ["", "unknown", "unavailable"]

instance (actual : String) : Decidable (blank actual) :=
  inferInstanceAs (Decidable (_ ∈ _))

def versionMatches (required : Option String) (actual : Option Json) : Bool :=
  match required with
  | none => true
  | some required =>
    match actual with
    | some (.str actual) =>
      decide (¬ blank actual) &&
        decide (actual = required ∨ (required ++ ".").toList <+: actual.toList)
    | _ => false

/-- A version that is a text and not blank. -/
def versionReported (actual : Option Json) : Bool :=
  match actual with
  | some (.str actual) => decide (¬ blank actual)
  | _ => false

/-- `capabilities.get(key) or {}`, none when it is no dictionary. -/
def truthyPart (provider : ProviderCandidate) (key : String) : Option Fields :=
  match get provider.capabilities key with
  | some (.obj fields) => some fields
  | some value => if value.truthy = true then none else some []
  | none => some []

section Runtime

variable (provider : ProviderCandidate) (requirements : RuntimeRequirements)

/-- The checks of `_runtime_rejection` on the versions of a runtime. -/
def versionRejection (runtime : Fields) : Option String :=
  if requirements.requiresCuda = true ∧ versionReported (get runtime "cuda_version") = false then
    some "required CUDA capability/version was not reported"
  else if requirements.requiresCuda = true ∧
      versionMatches requirements.cudaVersion (get runtime "cuda_version") = false then
    some "reported CUDA version is incompatible"
  else if versionReported (get runtime "pytorch_version") = false then
    some "required PyTorch capability/version was not reported"
  else if versionMatches requirements.pytorchVersion (get runtime "pytorch_version") = false then
    some "reported PyTorch version is incompatible"
  else if (requirements.requiresFsdp2 = true ∨ requirements.requiresTensorParallel = true) ∧
      versionReported (get runtime "nccl_version") = false then
    some "required NCCL capability/version was not reported"
  else if versionMatches requirements.ncclVersion (get runtime "nccl_version") = false then
    some "reported NCCL version is incompatible"
  else none

def supportRejection (runtime topology : Fields) : Option String :=
  if requirements.requiresFsdp2 = true ∧ saysTrue (get runtime "fsdp_available") = false then
    some "provider did not explicitly report FSDP2 support"
  else if requirements.requiresTensorParallel = true ∧
      saysTrue (get runtime "tensor_parallel_available") = false then
    some "provider did not explicitly report tensor-parallel support"
  else if requirements.requiresP2p = true ∧ saysTrue (get topology "p2p_access") = false then
    some "provider did not explicitly report GPU P2P support"
  else if requirements.requiresNvlink = true ∧ saysTrue (get topology "nvlink") = false then
    some "provider did not explicitly report NVLink support"
  else none

/-- A figure of a path is reported and no more than a limit, if there is one. -/
def atMost (figure limit : Option Rat) : Bool :=
  match limit with
  | none => true
  | some bound =>
    match figure with
    | none => false
    | some value => decide (value ≤ bound)

/-- A figure of a path is reported and no less than a limit, if there is one. -/
def atLeast (figure limit : Option Rat) : Bool :=
  match limit with
  | none => true
  | some bound =>
    match figure with
    | none => false
    | some value => decide (bound ≤ value)

def pathRejection : Option String :=
  if atMost provider.rttMs requirements.maximumRttMs = false then
    some "path RTT is missing or above the configured maximum"
  else if atLeast provider.bandwidthMbps requirements.minimumBandwidthMbps = false then
    some "path bandwidth is missing or below the configured minimum"
  else none

def runtimeRejection : Option String :=
  match truthyPart provider "runtime" with
  | none => some "runtime capability record is missing"
  | some runtime =>
    (versionRejection requirements runtime).or
      ((supportRejection requirements runtime
          ((truthyPart provider "topology").getD [])).or
        (pathRejection provider requirements))

end Runtime

/-- The clock and the limits of the planner. -/
structure PlacementPlanner where
  now : Time
  /-- `CAPABILITY_STALE_AFTER`, ten minutes -/
  capabilityMaxAge : Time := 600 * 1000000

def capabilitiesAreStale (reportedAt : Option Datetime) (now maxAge : Time) : Bool :=
  match reportedAt with
  | none => true
  | some reportedAt => decide (maxAge < now - reportedAt.aware.instant)

/-- No heartbeat, or none within three intervals, and ninety seconds at least. -/
def heartbeatIsStale (provider : ProviderCandidate) (now : Time) : Bool :=
  match provider.lastSeen with
  | none => true
  | some lastSeen =>
    decide ((max 90 (provider.heartbeatIntervalSeconds * 3) : Nat) * 1000000 <
      now - lastSeen.aware.instant)

/-- `float("inf")` for a figure that is missing. -/
def orInfinity (figure : Option Rat) : WithTop Rat :=
  match figure with
  | some value => (value : WithTop Rat)
  | none => ⊤

def unhealthyStates : List String :=
  ["offline", "failed", "unhealthy", "revoked"]

namespace PlacementPlanner

variable (self : PlacementPlanner) (roomId : String) (job : Phase18TrainingConfig)

/-- Why a provider itself is rejected: a code and a reason. -/
def providerRejection (provider : ProviderCandidate) : Option (String × String) :=
  if provider.roomId ≠ roomId then
    some ("wrong_room", "provider does not belong to the requested room")
  else if provider.revoked = true then
    some ("revoked", "provider membership has been revoked")
  else if provider.online = false then
    some ("offline", "provider is offline")
  else if heartbeatIsStale provider self.now = true then
    some ("stale_heartbeat", "provider heartbeat is stale")
  else if capabilitiesAreStale provider.capabilitiesReportedAt self.now self.capabilityMaxAge =
      true then
    some ("stale_capabilities", "provider capability record is stale")
  else if ∃ state ∈ unhealthyStates, provider.healthState = some state then
    some ("unhealthy", "provider health is " ++ provider.healthState.getD "")
  else
    (runtimeRejection provider job.runtimeRequirements).map
      (fun reason => ("incompatible_runtime", reason))

/-- The share can be used by the job. -/
def viable (provider : ProviderCandidate) (gpu : GpuCandidate) : Prop :=
  gpu.roomId = roomId ∧ gpu.providerId = provider.providerId ∧ gpu.active = true ∧
    gpu.state = "idle" ∧ gpu.currentTaskId = none ∧
    job.minimumVramPerGpuMb ≤ gpu.totalMemoryMb ∧
    (job.runtimeRequirements.computeCapability = none ∨
      gpu.computeCapability = job.runtimeRequirements.computeCapability)

instance (provider : ProviderCandidate) (gpu : GpuCandidate) :
    Decidable (viable roomId job provider gpu) :=
  inferInstanceAs (Decidable (_ ∧ _))

def viableGpus (provider : ProviderCandidate) : List GpuCandidate :=
  (sortedBy shareKey provider.gpuShares).filter (viable roomId job provider)

def rejection (provider : ProviderCandidate) : Option (String × String) :=
  (self.providerRejection roomId job provider).or
    (if (viableGpus roomId job provider).length < job.gpusPerNode then
      some ("insufficient_gpu_capacity",
        "requires " ++ toString job.gpusPerNode ++ " idle GPU(s) with at least " ++
          toString job.minimumVramPerGpuMb ++ " MiB per GPU")
    else none)

/-- `provider.model_copy(update={"gpu_shares": ...})` -/
def clean (provider : ProviderCandidate) : ProviderCandidate :=
  { provider with gpuShares := (viableGpus roomId job provider).take job.gpusPerNode }

def warningsOf (provider : ProviderCandidate) : List String :=
  (if provider.healthState ∈ [none, some "unknown", some "degraded"] then
    ["provider " ++ provider.providerId ++ " health is " ++
      match provider.healthState with
      | none => "unreported"
      | some state => state]
  else []) ++
    (if provider.pathMeasurementKind ≠ some "measured" then
      ["provider " ++ provider.providerId ++ " network figures are estimated or unavailable"]
    else [])

/-- What `_filter` returns. -/
structure Filtered where
  accepted : List ProviderCandidate
  rejected : List RejectedCandidate
  warnings : List String

def filter (providers : List ProviderCandidate) : Filtered :=
  let ordered := sortedBy ProviderCandidate.providerId providers
  let passing := ordered.filter (fun provider => self.rejection roomId job provider = none)
  { accepted := passing.map (clean roomId job)
    rejected := ordered.filterMap (fun provider =>
      (self.rejection roomId job provider).map (fun codeAndReason =>
        ⟨provider.providerId, codeAndReason.1, codeAndReason.2⟩))
    warnings := sortedBy id (passing.flatMap warningsOf).dedup }

end PlacementPlanner

def StrategyEligibility.of (eligibility : StrategyEligibility) : DistributedStrategy -> Bool
  | .single => eligibility.single
  | .diloco => eligibility.diloco
  | .fsdp2 => eligibility.fsdp2
  | .tensorParallel => eligibility.tensorParallel

def eligibility (island : GpuIsland) (strategy : DistributedStrategy) : Bool :=
  island.eligibility.of strategy

def classificationRank : IslandClass -> Nat
  | .sameHost => 0
  | .lan => 1
  | .wanWorker => 2

def islandRank (island : GpuIsland) : Nat ×ₗ Int ×ₗ String :=
  toLex (classificationRank island.classification,
    toLex (-(island.aggregateCapacityMb : Int), island.islandId))

def pathRank (provider : ProviderCandidate) : Nat :=
  if provider.pathClass ∈ [some "same_host", some "lan", some "high_bandwidth_lan"] then 0 else 1

def workerKey (provider : ProviderCandidate) : Nat ×ₗ Nat ×ₗ WithTop Rat ×ₗ String :=
  toLex (provider.recentFailures, toLex (pathRank provider,
    toLex (orInfinity provider.rttMs, provider.providerId)))

section Selection

variable (job : Phase18TrainingConfig)

/-- `island.classification == job.network_scope.value` and its special case. -/
def scopeMatches (island : GpuIsland) : Bool :=
  match job.networkScope with
  | none => true
  | some scope =>
    decide (island.classification.value = Enumeration.value scope) ||
      (decide (scope = .sameHost) && decide (island.classification = .sameHost))

def eligible (island : GpuIsland) : Bool :=
  eligibility island job.strategy &&
    decide (island.providerIds.length = job.requestedNodeCount) &&
    decide (job.totalGpus ≤ island.gpuShareIds.length) &&
    atMost island.rttMs job.runtimeRequirements.maximumRttMs &&
    atLeast island.bandwidthMbps job.runtimeRequirements.minimumBandwidthMbps &&
    scopeMatches job island

/-- The value of a key in a dictionary comprehension: the last one wins. -/
def lastWith {α : Type} (values : List α) (matching : α -> Bool) : Option α :=
  values.reverse.find? matching

/-- `SelectedGpu(...)` -/
def selectedGpu (providerId : String) (gpu : GpuCandidate) (island : GpuIsland) : SelectedGpu where
  providerId := providerId
  gpuShareId := gpu.gpuShareId
  deviceIndex := gpu.deviceIndex
  perGpuVramMb := gpu.totalMemoryMb
  islandId := island.islandId

/-- `shares_by_id[share_id]` for the shares of the island. -/
def lookupShares (shares : List GpuCandidate) (island : GpuIsland) :
    List String -> Except PlanError (List SelectedGpu)
  | [] => .ok []
  | shareId :: rest =>
    match lastWith shares (fun gpu => gpu.gpuShareId = shareId) with
    | none => .error (.keyError shareId)
    | some gpu => do
        .ok (selectedGpu gpu.providerId gpu island :: (<- lookupShares shares island rest))

/-- The islands, providers and devices that were taken. -/
structure Selection where
  islands : List GpuIsland := []
  providers : List ProviderCandidate := []
  gpus : List SelectedGpu := []

def selectIsland (accepted : List ProviderCandidate) (islands : List GpuIsland) :
    Except PlanError Selection :=
  match sortedBy islandRank (islands.filter (eligible job)) with
  | [] => .ok {}
  | island :: _ => do
      let providers := accepted.filter (fun provider => provider.providerId ∈ island.providerIds)
      let shares := providers.flatMap ProviderCandidate.gpuShares
      let gpus <- lookupShares shares island (island.gpuShareIds.take job.totalGpus)
      .ok { islands := [island], providers := providers, gpus := gpus }

def islandOfProvider (islands : List GpuIsland) (providerId : String) : Option GpuIsland :=
  lastWith islands (fun island => island.providerIds.head? = some providerId)

def ownIslands (islands : List GpuIsland) : List GpuIsland :=
  islands.filter (fun island =>
    island.classification = .sameHost ∧ island.providerIds.length = 1)

def workers (accepted : List ProviderCandidate) : List ProviderCandidate :=
  (sortedBy workerKey accepted).take job.requestedNodeCount

def workerIslands (accepted : List ProviderCandidate) (islands : List GpuIsland) :
    List GpuIsland :=
  (workers job accepted).filterMap
    (fun provider => islandOfProvider (ownIslands islands) provider.providerId)

def selectWorkers (accepted : List ProviderCandidate) (islands : List GpuIsland) : Selection :=
  let alone := (workerIslands job accepted islands).filter
    (fun island => island.providerIds.length = 1)
  { islands := workerIslands job accepted islands
    providers := workers job accepted
    gpus := (workers job accepted).flatMap (fun provider =>
      match islandOfProvider alone provider.providerId with
      | none => []
      | some island =>
        (provider.gpuShares.take job.gpusPerNode).map
          (fun gpu => selectedGpu provider.providerId gpu island)) }

def select (accepted : List ProviderCandidate) (islands : List GpuIsland) :
    Except PlanError Selection :=
  if job.strategy ∈ DistributedStrategy.tightlyCoupled then selectIsland job accepted islands
  else .ok (selectWorkers job accepted islands)

/-- `enough`: the requested number of providers, and of GPUs. -/
def enough (gpus : List SelectedGpu) : Prop :=
  (gpus.map SelectedGpu.providerId).dedup.length = job.requestedNodeCount ∧
    gpus.length = job.totalGpus

instance (gpus : List SelectedGpu) : Decidable (enough job gpus) :=
  inferInstanceAs (Decidable (_ ∧ _))

def explanation (gpus : List SelectedGpu) : String :=
  if enough job gpus then
    "selected " ++ toString job.totalGpus ++ " GPU(s) across " ++
      toString job.requestedNodeCount ++ " provider(s) for " ++ Enumeration.value job.strategy ++
      "; ranking preferred same-host/LAN capacity and then reliability/path quality"
  else
    "no eligible " ++ Enumeration.value job.strategy ++ " placement provides " ++
      toString job.totalGpus ++ " GPU(s) across " ++ toString job.requestedNodeCount ++
      " provider(s)"

def actionableReasons (gpus : List SelectedGpu) : List String :=
  if enough job gpus then []
  else
    ["bring additional room providers online with fresh capability reports",
      "ensure every selected GPU has at least " ++ toString job.minimumVramPerGpuMb ++
        " MiB VRAM"] ++
      (if job.strategy ∈ DistributedStrategy.tightlyCoupled then
        "report explicit P2P/runtime/topology compatibility on a same-host or measured LAN island" ::
          (if job.networkScope = some .lan then ["pairwise LAN topology not measured"] else [])
      else [])

end Selection

/-- The plan's identifier: a digest of the room, the configuration, the
selection and the rejections. -/
def planId (L : Library) (roomId : String) (config : TrainingRunConfig) (gpus : List SelectedGpu)
    (rejected : List RejectedCandidate) : String :=
  let material := Json.obj [("room_id", .str roomId), ("config", config.toPublicDict),
    ("selected", .arr (gpus.map SelectedGpu.modelDump)),
    ("rejected", .arr (rejected.map RejectedCandidate.modelDump))]
  hexText (sha256 (utf8Chars (material.encode L.reprFloat)))

namespace PlacementPlanner

variable (L : Library) (self : PlacementPlanner) (roomId : String) (config : TrainingRunConfig)

def planFrom (job : Phase18TrainingConfig) (filtered : Filtered) : Except PlanError PlacementPlan := do
  let islands <- buildGpuIslands L self.now self.capabilityMaxAge filtered.accepted
  let selection <- select job filtered.accepted islands
  .ok {
    planId := planId L roomId config selection.gpus filtered.rejected
    roomId := roomId
    strategy := job.strategy
    status :=
      if enough job selection.gpus then
        if filtered.warnings ≠ [] then .marginal else .capable
      else .insufficient
    selectedProviderIds :=
      sortedBy id (selection.gpus.map SelectedGpu.providerId).dedup
    selectedGpus := selection.gpus
    selectedIslandIds := selection.islands.map GpuIsland.islandId
    candidateIslands := islands
    rejectedCandidates := filtered.rejected
    warnings := filtered.warnings
    actionableReasons := actionableReasons job selection.gpus
    strategyEligibility := Enumeration.members.map (fun strategy : DistributedStrategy =>
      (Enumeration.value strategy, islands.any (fun island => eligibility island strategy)))
    networkMeasurements := selection.providers.map (fun provider =>
      (provider.providerId,
        if provider.pathMeasurementKind = some "measured" then "measured" else "estimated"))
    explanation := explanation job selection.gpus }

def plan (providers : List ProviderCandidate) : Except PlanError PlacementPlan :=
  match config.phase18 with
  | none => .error (.valueError
      "placement planning requires a schema-version 3 Phase 18 config")
  | some job => do
      raiseIf (config.schemaVersion ≠ 3) (.valueError
        "placement planning requires a schema-version 3 Phase 18 config")
      self.planFrom L roomId config job (self.filter roomId job providers)

end PlacementPlanner

end Placement
end ZepGpu
