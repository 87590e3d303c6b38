import Mathlib.Data.Prod.Lex
import Mathlib.Data.String.Basic
import ZepGpu.Foundation.Dict
import ZepGpu.Foundation.Sorting
import ZepGpu.Placement.Validation

namespace ZepGpu
namespace Placement

open Foundation
open Foundation.Json (Fields)

/-!
# GPU islands

An island is the GPUs of one provider, or those of a group of providers with the
same reported runtime and measured paths between any two of them.  Whatever a
provider has not reported counts against it.

Capabilities are decoded JSON.  What the library makes of a value as a text, of
a name as a UUID and of a text as a datetime is given from outside, and nothing
is assumed of it.  A report can make the construction fail: a path class that
cannot be looked up in a set, a number beyond the floats, or a hint of the wrong
type.
-/

/-- A time or a span of time, in microseconds. -/
abbrev Time := Int

/-- A datetime by its wall clock and its offset from UTC, if it has one. -/
structure Datetime where
  wall : Time
  offset : Option Time := none
  deriving DecidableEq

def Datetime.aware (value : Datetime) : Datetime :=
  { value with offset := some (value.offset.getD 0) }

/-- The time of an aware datetime. -/
def Datetime.instant (value : Datetime) : Time :=
  value.wall - value.offset.getD 0

/-- The texts and hashes of the standard library that the planner uses. -/
structure Library where
  /-- `str(value)` of a value that is not a string -/
  strOfJson : Json -> String
  /-- `str(uuid.uuid5(uuid.NAMESPACE_URL, name))` -/
  uuid5 : String -> String
  fromisoformat : String -> Option Datetime
  isoformat : Datetime -> String
  reprFloat : Rat -> String
  /-- What a field of type `str | int` makes of a value. -/
  strOrInt : Json -> Option Json

inductive PlanError where
  | valueError (message : String)
  | typeError (message : String)
  | overflowError (message : String)
  | keyError (key : String)
  /-- A field of an island refuses what was reported. -/
  | validationError (field : String)
  deriving DecidableEq, Repr

/-! ## Candidates -/

/-- A share that a provider offers. -/
structure GpuCandidate where
  gpuShareId : String
  providerId : String
  roomId : String
  deviceIndex : Int
  totalMemoryMb : Nat
  availableMemoryMb : Nat
  computeCapability : Option String := none
  active : Bool := true
  state : String := "idle"
  currentTaskId : Option String := none
  deriving DecidableEq

/-- A provider with its shares and its reports. -/
structure ProviderCandidate where
  providerId : String
  roomId : String
  nodeName : Option String := none
  revoked : Bool := false
  online : Bool := false
  healthState : Option String := none
  lastSeen : Option Datetime := none
  heartbeatIntervalSeconds : Nat := 30
  capabilities : Fields := []
  capabilitiesReportedAt : Option Datetime := none
  pathType : Option String := none
  pathClass : Option String := none
  rttMs : Option Rat := none
  bandwidthMbps : Option Rat := none
  pathMeasurementKind : Option String := none
  recentFailures : Nat := 0
  gpuShares : List GpuCandidate := []

inductive IslandClass where
  | sameHost
  | lan
  | wanWorker
  deriving DecidableEq, Repr

def IslandClass.value : IslandClass -> String
  | .sameHost => "same_host"
  | .lan => "lan"
  | .wanWorker => "wan_worker"

structure StrategyEligibility where
  single : Bool := false
  diloco : Bool := false
  fsdp2 : Bool := false
  tensorParallel : Bool := false
  reasons : List (String × String) := []
  deriving DecidableEq

/-- A measured path between two providers. -/
structure PairwiseEvidence where
  sourceProviderId : String
  targetProviderId : String
  pathClass : String
  measurementKind : String
  rttMs : Rat
  bandwidthMbps : Rat
  measuredAt : String
  provenance : String
  deriving DecidableEq

/-- Devices that can be used together, and for which strategies. -/
structure GpuIsland where
  islandId : String
  classification : IslandClass
  providerIds : List String
  gpuShareIds : List String
  deviceIndices : List (String × List Int)
  interconnectClass : Option String := none
  pathType : Option String := none
  pathClass : Option String := none
  pathMeasurementKind : Option String := none
  rttMs : Option Rat := none
  bandwidthMbps : Option Rat := none
  pairwiseEvidence : List PairwiseEvidence := []
  p2pSupport : Option Bool := none
  nvlink : Option Bool := none
  pcieGeneration : Option Json := none
  topologyHint : Option String := none
  cudaVersion : Option String := none
  pytorchVersion : Option String := none
  ncclVersion : Option String := none
  perGpuVramMb : List Nat
  aggregateCapacityMb : Nat
  runtimeCompatible : Bool
  eligibility : StrategyEligibility
  explanation : String

/-! ## Reports -/

def unavailable : String := "unavailable"

/-- `fields.get(key)` -/
def get (fields : Fields) (key : String) : Option Json :=
  (Json.obj fields).get? key

/-- `_reported`.  A missing key and `None` are the same to it. -/
def reported : Option Json -> Bool
  | none => false
  | some .null => false
  | some (.str text) => decide (text ≠ unavailable ∧ text ≠ "unknown")
  | some _ => true

/-- `value is True` -/
def saysTrue (value : Option Json) : Bool :=
  match value with
  | some (.bool true) => true
  | _ => false

def boolOrNone (value : Option Json) : Option Bool :=
  match value with
  | some (.bool value) => some value
  | _ => none

def versionNames : List String :=
  ["cuda_version", "pytorch_version", "nccl_version"]

/-- A reported text is one of a list. -/
scoped instance optionalText_lawfulBEq : LawfulBEq (Option String) :=
  inferInstance

namespace ProviderCandidate

variable (provider : ProviderCandidate)

def part (key : String) : Fields :=
  match get provider.capabilities key with
  | some (.obj fields) => fields
  | _ => []

def runtime : Fields :=
  provider.part "runtime"

def topology : Fields :=
  provider.part "topology"

def pairwisePaths : List Fields :=
  match get provider.capabilities "pairwise_paths" with
  | some (.arr items) =>
    items.filterMap (fun item =>
      match item with
      | .obj fields => some fields
      | _ => none)
  | _ => []

/-- Every version of the runtime is reported. -/
def hasRuntime : Bool :=
  versionNames.all (fun name => reported (get provider.runtime name))

/-- `provider.path_class in {"lan", "high_bandwidth_lan", "same_site"}` and what
else a provider needs to be in a group. -/
def joinsLan : Bool :=
  decide (provider.gpuShares ≠ []) &&
    decide (provider.pathClass ∈
      [some "lan", some "high_bandwidth_lan", some "same_site"]) &&
    decide (provider.pathMeasurementKind = some "measured") &&
    saysTrue (get provider.topology "lan_collective_compatible")

end ProviderCandidate

/-! ## Islands -/

section Islands

variable (L : Library)

/-- `str(value)`; a missing key is `None`. -/
def str : Option Json -> String
  | some (.str text) => text
  | some value => L.strOfJson value
  | none => L.strOfJson .null

abbrev Signature := String × String × String

def runtimeSignature (provider : ProviderCandidate) : Signature :=
  (str L (some ((get provider.runtime "cuda_version").getD (.str unavailable))),
    str L (some ((get provider.runtime "pytorch_version").getD (.str unavailable))),
    str L (some ((get provider.runtime "nccl_version").getD (.str unavailable))))

def islandId (classification : IslandClass) (providers shares : List String) : String :=
  L.uuid5 ("zepgpu-island:" ++ ":".intercalate
    (classification.value :: (sortedBy id providers ++ sortedBy id shares)))

/-- Shares are sorted by device within a provider. -/
def shareKey (gpu : GpuCandidate) : Int ×ₗ String :=
  toLex (gpu.deviceIndex, gpu.gpuShareId)

/-- Shares are sorted by provider across a group. -/
def groupKey (gpu : GpuCandidate) : String ×ₗ Int ×ₗ String :=
  toLex (gpu.providerId, shareKey gpu)

def reportedStr (value : Option Json) : Option String :=
  if reported value = true then some (str L value) else none

/-- The field `pcie_generation: str | int | None` of an island. -/
def pcieGeneration (topology : Fields) : Except PlanError (Option Json) :=
  if reported (get topology "pcie_generation") = true then
    match L.strOrInt ((get topology "pcie_generation").getD .null) with
    | some value => .ok (some value)
    | none => .error (.validationError "pcie_generation")
  else .ok none

/-- The field `topology_hint: str | None` of an island. -/
def topologyHint (topology : Fields) : Except PlanError (Option String) :=
  if reported (get topology "topology_hint") = true then
    match get topology "topology_hint" with
    | some (.str text) => .ok (some text)
    | _ => .error (.validationError "topology_hint")
  else .ok none

def sameHostIsland (provider : ProviderCandidate) : Except PlanError GpuIsland := do
  let shares := sortedBy shareKey provider.gpuShares
  let runtime := provider.runtime
  let topology := provider.topology
  let p2p := boolOrNone (get topology "p2p_access")
  let nvlink := boolOrNone (get topology "nvlink")
  let multiGpu := decide (1 < shares.length)
  let fsdp2 := multiGpu && provider.hasRuntime && decide (p2p = some true) &&
    saysTrue (get runtime "fsdp_available")
  let tpHardwareCapable := multiGpu && provider.hasRuntime && decide (p2p = some true) &&
    decide (nvlink = some true) && saysTrue (get runtime "tensor_parallel_available")
  let pcieGeneration <- pcieGeneration L topology
  let topologyHint <- topologyHint topology
  .ok {
    islandId := islandId L .sameHost [provider.providerId] (shares.map GpuCandidate.gpuShareId)
    classification := .sameHost
    providerIds := [provider.providerId]
    gpuShareIds := shares.map GpuCandidate.gpuShareId
    deviceIndices := [(provider.providerId, shares.map GpuCandidate.deviceIndex)]
    interconnectClass :=
      if nvlink = some true then some "nvlink" else if p2p = some true then some "pcie" else none
    pathType := provider.pathType
    pathClass := provider.pathClass
    pathMeasurementKind := provider.pathMeasurementKind
    rttMs := provider.rttMs
    bandwidthMbps := provider.bandwidthMbps
    p2pSupport := p2p
    nvlink := nvlink
    pcieGeneration := pcieGeneration
    topologyHint := topologyHint
    cudaVersion := reportedStr L (get runtime "cuda_version")
    pytorchVersion := reportedStr L (get runtime "pytorch_version")
    ncclVersion := reportedStr L (get runtime "nccl_version")
    perGpuVramMb := shares.map GpuCandidate.totalMemoryMb
    aggregateCapacityMb := (shares.map GpuCandidate.totalMemoryMb).sum
    runtimeCompatible := provider.hasRuntime
    eligibility := {
      single := decide (shares ≠ [])
      diloco := decide (shares ≠ [])
      fsdp2 := fsdp2
      -- No parallelization plan is registered for any model.
      tensorParallel := false
      reasons := [
        ("single", "at least one reported GPU is available"),
        ("diloco", "provider can act as an independent DiLoCo worker"),
        ("fsdp2",
          if fsdp2 = true then
            "explicit same-host FSDP2, P2P, CUDA, PyTorch, and NCCL support reported"
          else "missing explicit multi-GPU FSDP2/P2P/runtime compatibility evidence"),
        ("tensor_parallel",
          if tpHardwareCapable = true then
            "hardware/topology reports TP capability, but no supported model-specific " ++
              "tensor-parallel execution plan is registered"
          else "missing explicit TP/P2P/NVLink/runtime compatibility evidence")] }
    explanation := toString shares.length ++ " GPU(s) reported by provider " ++
      provider.providerId ++
      "; tightly coupled strategies are enabled only from explicit capability evidence" }

def lanIsland (providers : List ProviderCandidate) (pairwiseEvidence : List PairwiseEvidence) :
    GpuIsland :=
  let ordered := sortedBy ProviderCandidate.providerId providers
  let shares := sortedBy groupKey (ordered.flatMap ProviderCandidate.gpuShares)
  let runtimeCompatible := decide ((ordered.map (runtimeSignature L)).dedup.length = 1) &&
    ordered.all ProviderCandidate.hasRuntime
  let explicitLan := decide (pairwiseEvidence ≠ []) &&
    ordered.all (fun provider => saysTrue (get provider.topology "lan_collective_compatible"))
  let p2p := ordered.all (fun provider => saysTrue (get provider.topology "p2p_access"))
  let fsdp := ordered.all (fun provider => saysTrue (get provider.runtime "fsdp_available"))
  let tp := ordered.all (fun provider => saysTrue (get provider.runtime "tensor_parallel_available"))
  let nvlink := ordered.all (fun provider => saysTrue (get provider.topology "nvlink"))
  let fsdp2 := runtimeCompatible && explicitLan && p2p && fsdp
  let tpHardwareCapable := runtimeCompatible && explicitLan && p2p && nvlink && tp
  let firstRuntime := (ordered.map ProviderCandidate.runtime).headD []
  let versionOf := fun name =>
    if runtimeCompatible = true then some (str L (get firstRuntime name)) else none
  { islandId := islandId L .lan (ordered.map ProviderCandidate.providerId)
      (shares.map GpuCandidate.gpuShareId)
    classification := .lan
    providerIds := ordered.map ProviderCandidate.providerId
    gpuShareIds := shares.map GpuCandidate.gpuShareId
    deviceIndices := ordered.map (fun provider =>
      (provider.providerId, provider.gpuShares.map GpuCandidate.deviceIndex))
    interconnectClass := if explicitLan = true then some "explicit_lan_collective" else none
    pathType := if explicitLan = true then some "direct" else none
    pathClass := some "lan"
    pathMeasurementKind := if explicitLan = true then some "measured" else none
    rttMs := (pairwiseEvidence.map PairwiseEvidence.rttMs).max?
    bandwidthMbps := (pairwiseEvidence.map PairwiseEvidence.bandwidthMbps).min?
    pairwiseEvidence := pairwiseEvidence
    p2pSupport :=
      if ordered.all (fun provider => (get provider.topology "p2p_access").isSome) = true then
        some p2p
      else none
    nvlink :=
      if ordered.all (fun provider => (get provider.topology "nvlink").isSome) = true then
        some nvlink
      else none
    cudaVersion := versionOf "cuda_version"
    pytorchVersion := versionOf "pytorch_version"
    ncclVersion := versionOf "nccl_version"
    perGpuVramMb := shares.map GpuCandidate.totalMemoryMb
    aggregateCapacityMb := (shares.map GpuCandidate.totalMemoryMb).sum
    runtimeCompatible := runtimeCompatible
    eligibility := {
      diloco := decide (shares ≠ [])
      fsdp2 := fsdp2
      tensorParallel := false
      reasons := [
        ("single", "multi-provider LAN islands are not ordinary single-device placements"),
        ("diloco", "providers may also run as independent DiLoCo workers"),
        ("fsdp2",
          if fsdp2 = true then
            "all LAN peers explicitly report collective, P2P, FSDP2, and matching runtimes"
          else "LAN collective/FSDP2/P2P/runtime evidence is incomplete or incompatible"),
        ("tensor_parallel",
          if tpHardwareCapable = true then
            "LAN hardware/topology reports TP capability, but no supported model-specific " ++
              "tensor-parallel execution plan is registered"
          else "LAN TP/P2P/NVLink/runtime evidence is incomplete or incompatible")] }
    explanation := "LAN island requires fresh measured provider-to-provider paths in both " ++
      "directions, explicit collective compatibility, and matching reported runtime versions " ++
      "on every provider" }

end Islands

end Placement
end ZepGpu
