import ZepGpu.Placement.Topology

namespace ZepGpu
namespace Placement

open Foundation
open Foundation.Json (Fields)

/-!
# Building islands

A group of providers is an island of its own when every provider of the group
has reported a fresh measured path to every other.  The loop over the pairs
stops at the first pair without one.
-/

/-- `float(value)` of an integer: the nearest double, with ties to the even one,
or none beyond the largest. -/
def floatOfInt (value : Int) : Option Rat :=
  let unit := 2 ^ (value.natAbs.log2 - 52)
  let low := value.natAbs / unit
  let rest := value.natAbs % unit
  let rounded := if unit < 2 * rest ∨ unit = 2 * rest ∧ low % 2 = 1 then low + 1 else low
  if rounded * unit < 2 ^ 1024 then some (value.sign * (rounded * unit : Nat) : Int) else none

section Evidence

variable (L : Library) (now maxAge : Time)

/-- `float(value)` of a number. -/
def float : Json -> Except PlanError Rat
  | .float value => .ok value
  | .bool value => .ok (if value then 1 else 0)
  | .int value =>
    match floatOfInt value with
    | some value => .ok value
    | none => .error (.overflowError "int too large to convert to float")
  | _ => .error (.typeError "float() argument must be a string or a real number")

/-- `value == text` -/
def isText (value : Option Json) (text : String) : Bool :=
  match value with
  | some (.str other) => decide (other = text)
  | _ => false

/-- A value that a set of strings can be asked for. -/
def hashable : Option Json -> Bool
  | some (.arr _) => false
  | some (.obj _) => false
  | _ => true

def lanClasses : List String :=
  ["lan", "high_bandwidth_lan", "same_site"]

/-- The path class of a sample, when it is one of a LAN. -/
def lanClass? (sample : Fields) : Option String :=
  match get sample "path_class" with
  | some (.str text) => if text ∈ lanClasses then some text else none
  | _ => none

/-- `isinstance(value, int | float)` and the number itself. -/
def number? (sample : Fields) (key : String) : Option Rat :=
  (get sample key).bind Json.number?

/-- `sample.get("provenance") or "provider_report"` -/
def provenance (sample : Fields) : String :=
  match get sample "provenance" with
  | some value => if value.truthy = true then str L (some value) else "provider_report"
  | none => "provider_report"

/-- A sample of a fresh measured path that is good enough for a LAN. -/
def acceptable (sample : Fields) (measuredAt : Datetime) : Bool :=
  match lanClass? sample, number? sample "rtt_ms", number? sample "bandwidth_mbps" with
  | some _, some rtt, some bandwidth =>
    decide (0 ≤ rtt) && decide (0 < bandwidth) && decide (now - measuredAt.instant ≤ maxAge)
  | _, _, _ => false

def evidenceOf (source : ProviderCandidate) (targetId : String) (sample : Fields)
    (measuredAt : Datetime) : Except PlanError PairwiseEvidence := do
  let rtt <- float ((get sample "rtt_ms").getD .null)
  let bandwidth <- float ((get sample "bandwidth_mbps").getD .null)
  .ok {
    sourceProviderId := source.providerId
    targetProviderId := targetId
    pathClass := str L (get sample "path_class")
    measurementKind := "measured"
    rttMs := rtt
    bandwidthMbps := bandwidth
    measuredAt := L.isoformat measuredAt
    provenance := provenance L sample }

/-- The loop of `_pairwise_evidence` over the samples of a provider. -/
def pairwiseSample (source : ProviderCandidate) (targetId : String) :
    List Fields -> Except PlanError (Option PairwiseEvidence)
  | [] => .ok none
  | sample :: rest =>
    if isText (get sample "target_provider_id") targetId = false then
      pairwiseSample source targetId rest
    else
      match L.fromisoformat (str L (get sample "measured_at")) with
      | none => pairwiseSample source targetId rest
      | some measuredAt =>
        if isText (get sample "measurement_kind") "measured" = false then
          pairwiseSample source targetId rest
        else if hashable (get sample "path_class") = false then
          .error (.typeError "unhashable type")
        else if acceptable now maxAge sample measuredAt.aware = true then do
          .ok (some (<- evidenceOf L source targetId sample measuredAt.aware))
        else pairwiseSample source targetId rest

def pairwiseEvidence (source : ProviderCandidate) (targetId : String) :
    Except PlanError (Option PairwiseEvidence) :=
  pairwiseSample L now maxAge source targetId source.pairwisePaths

/-- The inner loop of `_complete_pairwise_evidence`. -/
def evidenceFrom (source : ProviderCandidate) :
    List ProviderCandidate -> Except PlanError (Option (List PairwiseEvidence))
  | [] => .ok (some [])
  | target :: rest =>
    if source.providerId = target.providerId then evidenceFrom source rest
    else do
      match <- pairwiseEvidence L now maxAge source target.providerId with
      | none => .ok none
      | some sample => .ok ((<- evidenceFrom source rest).map (List.cons sample))

/-- The outer loop of `_complete_pairwise_evidence`. -/
def evidenceAmong (targets : List ProviderCandidate) :
    List ProviderCandidate -> Except PlanError (Option (List PairwiseEvidence))
  | [] => .ok (some [])
  | source :: rest => do
      match <- evidenceFrom L now maxAge source targets with
      | none => .ok none
      | some here => .ok ((<- evidenceAmong targets rest).map (here ++ ·))

def completePairwiseEvidence (providers : List ProviderCandidate) :
    Except PlanError (Option (List PairwiseEvidence)) :=
  evidenceAmong L now maxAge (sortedBy ProviderCandidate.providerId providers)
    (sortedBy ProviderCandidate.providerId providers)

/-! ## `build_gpu_islands` -/

/-- `lan_groups`: a provider is appended to the group of its runtime. -/
def lanGroups (ordered : List ProviderCandidate) : Dict Signature (List ProviderCandidate) :=
  ordered.foldl (fun groups provider =>
    if provider.joinsLan = true then
      groups.set (runtimeSignature L provider)
        ((groups.get? (runtimeSignature L provider)).getD [] ++ [provider])
    else groups) Dict.empty

def lanIslandOf (group : List ProviderCandidate) : Except PlanError (Option GpuIsland) :=
  if 1 < group.length then do
    .ok ((<- completePairwiseEvidence L now maxAge group).map (lanIsland L group))
  else .ok none

def lanIslands : List (List ProviderCandidate) -> Except PlanError (List GpuIsland)
  | [] => .ok []
  | group :: rest => do
      let island <- lanIslandOf L now maxAge group
      .ok (island.toList ++ (<- lanIslands rest))

/-- Islands of one host come first. -/
def islandKey (island : GpuIsland) : Bool ×ₗ String :=
  toLex (decide (island.classification ≠ .sameHost), island.islandId)

def buildGpuIslands (providers : List ProviderCandidate) : Except PlanError (List GpuIsland) := do
  let ordered := sortedBy ProviderCandidate.providerId providers
  let islands <-
    (ordered.filter (fun provider => provider.gpuShares ≠ [])).mapM (sameHostIsland L)
  let groups := lanGroups L ordered
  let lan <- lanIslands L now maxAge (groups.keys.filterMap groups.get?)
  .ok (sortedBy islandKey (islands ++ lan))

end Evidence

end Placement
end ZepGpu
