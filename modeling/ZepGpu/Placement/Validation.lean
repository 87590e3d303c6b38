import ZepGpu.Placement.Config

namespace ZepGpu
namespace Placement

open Foundation
open Foundation.Json (record field setField)
open Foundation.FieldReader (nullable optional list enumeration)

/-!
# Validation and the public form

Reading a configuration reads its fields, the parts first, and runs the
validators of each record after its fields have been read.  The public form is
written from the validated configuration, and it is what the repository stores.
-/

def DatasetConfig.validateTexts (self : DatasetConfig) : Except ValidationError DatasetConfig := do
  raiseIf (self.texts = some []) (.value "dataset texts cannot be empty")
  raiseIf (∃ text ∈ self.texts.getD [], strip text.toList = [])
    (.value "dataset texts cannot contain blank samples")
  .ok self

def RuntimeConfig.validateSecurity (self : RuntimeConfig) : Except ValidationError RuntimeConfig := do
  raiseIf (self.privileged = true)
    (.value "privileged containers are disabled by default and not allowed")
  .ok self

/-- Strategies whose GPUs exchange data within a step. -/
def DistributedStrategy.tightlyCoupled : List DistributedStrategy :=
  [.fsdp2, .tensorParallel]

namespace Phase18TrainingConfig

variable (self : Phase18TrainingConfig)

/-- What the validator fills in: the network scope, and for the tightly coupled
strategies what they require of the runtime. -/
def filled : Phase18TrainingConfig :=
  if self.strategy ∈ DistributedStrategy.tightlyCoupled then
    { self with
      networkScope := some (self.networkScope.getD .sameHost)
      runtimeRequirements :=
        { self.runtimeRequirements with
          requiresCuda := true
          requiresP2p := true
          requiresFsdp2 :=
            if self.strategy = .fsdp2 then true else self.runtimeRequirements.requiresFsdp2
          requiresTensorParallel :=
            if self.strategy = .fsdp2 then self.runtimeRequirements.requiresTensorParallel
            else true } }
  else { self with networkScope := some (self.networkScope.getD .wan) }

def validateJob : Except ValidationError Phase18TrainingConfig := do
  let expectedTotal := self.requestedNodeCount * self.gpusPerNode
  raiseIf (self.totalGpus ≠ expectedTotal)
    (.value ("total_gpus must equal requested_node_count * gpus_per_node (" ++
      toString expectedTotal ++ ")"))
  raiseIf (self.minK > self.requestedNodeCount) (.value "min_k cannot exceed requested_node_count")
  raiseIf (self.strategy = .single ∧ (self.requestedNodeCount ≠ 1 ∨ self.totalGpus ≠ 1))
    (.value "strategy='single' requires exactly one node and one GPU")
  raiseIf (self.strategy = .single ∧ self.minK ≠ 1) (.value "strategy='single' requires min_k=1")
  raiseIf (self.strategy ∈ DistributedStrategy.tightlyCoupled ∧ self.networkScope = some .wan)
    (.value ("strategy='" ++ Enumeration.value self.strategy ++ "' cannot span WAN links"))
  .ok self.filled

end Phase18TrainingConfig

/-- `text.lower()`, as far as it has ASCII letters. -/
def lowerChar (c : Char) : List Char :=
  if 'A' ≤ c ∧ c ≤ 'Z' then [Char.ofNat (c.toNat + 32)]
  else if c.toNat = 0x212a then ['k']
  else if c.toNat = 0x130 then ['i', Char.ofNat 0x307]
  else [c]

def lower (text : String) : List Char :=
  text.toList.flatMap lowerChar

namespace TrainingRunConfig

variable (self : TrainingRunConfig)

def impliedBase : TrainingRunConfig :=
  if self.adapterMode = .qlora ∧ self.loadIn4bit = false then { self with loadIn4bit := true }
  else self

def copied (job : Phase18TrainingConfig) : TrainingRunConfig :=
  { self with
    schemaVersion := 3
    distributed :=
      { self.distributed with
        enabled := true
        workerCount := job.requestedNodeCount
        localStepsPerRound := job.dilocoH }
    startupTimeoutSeconds := job.startupTimeoutSeconds }

def applyPhase18 : Except ValidationError TrainingRunConfig :=
  match self.phase18 with
  | some job => do
      raiseIf (self.precision = .fp16 ∧ job.runtimeRequirements.requiresCuda = false)
        (.value "fp16 Phase 18 training requires CUDA")
      raiseIf (self.adapterMode = .qlora ∧ job.runtimeRequirements.requiresCuda = false)
        (.value "QLoRA Phase 18 training requires CUDA")
      .ok (self.copied job)
  | none => do
      raiseIf (self.schemaVersion = 3)
        (.value "schema_version=3 requires a phase18 training specification")
      raiseIf (self.distributed.enabled = true ∧ self.distributed.workerCount ≠ 2)
        (.value "Phase 17 supports exactly two workers")
      if self.distributed.enabled = true ∧ self.schemaVersion < 2 then
        .ok { self with schemaVersion := 2 }
      else .ok self

def countSteps : TrainingRunConfig :=
  if self.distributed.enabled = true then
    { self with maxSteps := self.distributed.localStepsPerRound * self.distributed.maxRounds }
  else self

/-- The limits of a smoke run, in the order in which they are written. -/
def capSteps : TrainingRunConfig :=
  { self with
    maxSteps := min self.maxSteps 2
    checkpointEverySteps := min self.checkpointEverySteps (min self.maxSteps 2)
    sequenceLength := min self.sequenceLength 64 }

def capRounds : TrainingRunConfig :=
  if self.distributed.enabled = true then
    { self with
      distributed :=
        { self.distributed with
          maxRounds := min self.distributed.maxRounds 2
          localStepsPerRound := min self.distributed.localStepsPerRound 1 }
      phase18 := self.phase18.map (fun job =>
        { job with dilocoH := min self.distributed.localStepsPerRound 1 })
      maxSteps := min self.distributed.localStepsPerRound 1 * min self.distributed.maxRounds 2 }
  else self

/-- The layers of a GPT-2 model are transposed. -/
def markTransposed : TrainingRunConfig :=
  if occursIn "gpt2".toList (lower self.modelName) = true then
    { self with lora := { self.lora with fanInFanOut := true } }
  else self

def applySmoke : TrainingRunConfig :=
  if self.smokeRun = true then self.capSteps.capRounds.markTransposed else self

def validateQuantization : Except ValidationError TrainingRunConfig := do
  let self := self.impliedBase
  raiseIf (self.loadIn4bit = true ∧ self.adapterMode ≠ .qlora)
    (.value "4-bit base loading requires adapter_mode='qlora'")
  let self <- self.applyPhase18
  .ok self.countSteps.applySmoke

end TrainingRunConfig

def DatasetConfig.modelDump (self : DatasetConfig) : Json :=
  .obj [("name", .str self.name),
    ("texts", nullable (fun texts => .arr (texts.map Json.str)) self.texts)]

def LoraConfig.modelDump (self : LoraConfig) : Json :=
  .obj [("rank", .int self.rank), ("alpha", .int self.alpha), ("dropout", .float self.dropout),
    ("target_modules", nullable (fun modules => .arr (modules.map Json.str)) self.targetModules),
    ("fan_in_fan_out", .bool self.fanInFanOut)]

def CompressionConfig.modelDump (self : CompressionConfig) : Json :=
  .obj [("backend", .str (Enumeration.value self.backend)), ("top_k", .int self.topK),
    ("chunk_size", .int self.chunkSize), ("quant_bits", .int self.quantBits),
    ("error_feedback", .bool self.errorFeedback)]

def RuntimeConfig.modelDump (self : RuntimeConfig) : Json :=
  .obj [("mode", .str (Enumeration.value self.mode)), ("image", .str self.image),
    ("privileged", .bool self.privileged), ("network_enabled", .bool self.networkEnabled),
    ("memory_limit_mb", .int self.memoryLimitMb), ("cpu_limit", .float self.cpuLimit),
    ("timeout_seconds", .int self.timeoutSeconds),
    ("gpu_devices", .arr (self.gpuDevices.map Json.int)),
    ("environment", .obj (self.environment.map (fun entry => (entry.1, .str entry.2))))]

def RuntimeRequirements.modelDump (self : RuntimeRequirements) : Json :=
  .obj [("requires_cuda", .bool self.requiresCuda),
    ("cuda_version", nullable Json.str self.cudaVersion),
    ("pytorch_version", nullable Json.str self.pytorchVersion),
    ("nccl_version", nullable Json.str self.ncclVersion),
    ("compute_capability", nullable Json.str self.computeCapability),
    ("requires_p2p", .bool self.requiresP2p), ("requires_nvlink", .bool self.requiresNvlink),
    ("requires_fsdp2", .bool self.requiresFsdp2),
    ("requires_tensor_parallel", .bool self.requiresTensorParallel),
    ("minimum_bandwidth_mbps", nullable Json.float self.minimumBandwidthMbps),
    ("maximum_rtt_ms", nullable Json.float self.maximumRttMs)]

def OuterOptimizerConfig.modelDump (self : OuterOptimizerConfig) : Json :=
  .obj [("kind", .str (Enumeration.value self.kind)), ("learning_rate", .float self.learningRate),
    ("momentum", .float self.momentum), ("beta1", .float self.beta1), ("beta2", .float self.beta2),
    ("epsilon", .float self.epsilon)]

def Phase18TrainingConfig.modelDump (self : Phase18TrainingConfig) : Json :=
  .obj [("strategy", .str (Enumeration.value self.strategy)),
    ("requested_node_count", .int self.requestedNodeCount),
    ("gpus_per_node", .int self.gpusPerNode), ("total_gpus", .int self.totalGpus),
    ("minimum_vram_per_gpu_mb", .int self.minimumVramPerGpuMb), ("diloco_h", .int self.dilocoH),
    ("min_k", .int self.minK), ("sync_deadline_seconds", .float self.syncDeadlineSeconds),
    ("readiness_timeout_seconds", .int self.readinessTimeoutSeconds),
    ("startup_timeout_seconds", .int self.startupTimeoutSeconds),
    ("checkpoint_interval_rounds", .int self.checkpointIntervalRounds),
    ("maximum_runtime_seconds", .int self.maximumRuntimeSeconds),
    ("reservation_ttl_seconds", .int self.reservationTtlSeconds),
    ("resume_policy", .str (Enumeration.value self.resumePolicy)),
    ("network_scope", nullable (fun scope => .str (Enumeration.value scope)) self.networkScope),
    ("runtime_requirements", self.runtimeRequirements.modelDump),
    ("outer_optimizer", self.outerOptimizer.modelDump)]

def DistributedTrainingConfig.modelDump (self : DistributedTrainingConfig) : Json :=
  .obj [("enabled", .bool self.enabled), ("worker_count", .int self.workerCount),
    ("local_steps_per_round", .int self.localStepsPerRound), ("max_rounds", .int self.maxRounds),
    ("compression", self.compression.modelDump),
    ("direct_backend", .str (Enumeration.value self.directBackend)),
    ("overlap_mode", .str (Enumeration.value self.overlapMode)),
    ("runtime", self.runtime.modelDump), ("worker_seed_offset", .int self.workerSeedOffset)]

def TrainingRunConfig.modelDump (self : TrainingRunConfig) : Json :=
  .obj [("schema_version", .int self.schemaVersion), ("run_name", .str self.runName),
    ("model_name", .str self.modelName), ("dataset", self.dataset.modelDump),
    ("adapter_mode", .str (Enumeration.value self.adapterMode)),
    ("precision", .str (Enumeration.value self.precision)),
    ("load_in_4bit", .bool self.loadIn4bit), ("device", .str self.device),
    ("sequence_length", .int self.sequenceLength), ("batch_size", .int self.batchSize),
    ("gradient_accumulation_steps", .int self.gradientAccumulationSteps),
    ("learning_rate", .float self.learningRate), ("max_steps", .int self.maxSteps),
    ("checkpoint_every_steps", .int self.checkpointEverySteps),
    ("startup_timeout_seconds", .int self.startupTimeoutSeconds),
    ("gradient_checkpointing", .bool self.gradientCheckpointing), ("seed", .int self.seed),
    ("output_dir", .str self.outputDir.str),
    ("resume_from", nullable (fun path => .str path.str) self.resumeFrom),
    ("smoke_run", .bool self.smokeRun), ("lora", self.lora.modelDump),
    ("distributed", self.distributed.modelDump),
    ("phase18", nullable Phase18TrainingConfig.modelDump self.phase18)]

def secretParts : List String :=
  ["secret", "token", "password", "private_key", "credential", "api_key"]

def isSecret (key : String) : Bool :=
  secretParts.any (fun part => occursIn part.toList (lower key))

mutual

def filterSecrets : Json -> Json
  | .obj fields => .obj (filterFields fields)
  | .arr items => .arr (filterItems items)
  | value => value

def filterItems : List Json -> List Json
  | [] => []
  | item :: rest => filterSecrets item :: filterItems rest

def filterFields : List (String × Json) -> List (String × Json)
  | [] => []
  | (key, item) :: rest =>
    (key, if isSecret key = true then .str "[REDACTED]" else filterSecrets item) ::
      filterFields rest

end

def TrainingRunConfig.toPublicDict (self : TrainingRunConfig) : Json :=
  match filterSecrets self.modelDump with
  | .obj payload =>
    match (Json.obj payload).get? "distributed" with
    | some (.obj distributed) =>
      match (Json.obj distributed).get? "runtime" with
      | some (.obj runtime) =>
        .obj (setField payload "distributed"
          (.obj (setField distributed "runtime"
            (.obj (setField runtime "environment" (.obj []))))))
      | _ => .obj payload
    | _ => .obj payload
  | other => other

section Reading

variable (S : Scalars)

def declared {α : Type} (Declared : α -> Prop) [DecidablePred Declared] (value : α) :
    Except ValidationError α := do
  raiseIf (¬ Declared value) .refused
  .ok value

def DatasetConfig.modelValidate (json : Json) : Except ValidationError DatasetConfig := do
  let fields <- record ["name", "texts"] json
  let default : DatasetConfig := {}
  let self <- declared DatasetConfig.Declared {
    name := <- field fields S.str "name" default.name
    texts := <- field fields (optional (list S.str)) "texts" default.texts }
  self.validateTexts

def LoraConfig.modelValidate (json : Json) : Except ValidationError LoraConfig := do
  let fields <- record ["rank", "alpha", "dropout", "target_modules", "fan_in_fan_out"] json
  let default : LoraConfig := {}
  declared LoraConfig.Declared {
    rank := <- field fields S.nat "rank" default.rank
    alpha := <- field fields S.nat "alpha" default.alpha
    dropout := <- field fields S.float "dropout" default.dropout
    targetModules := <- field fields (optional (list S.str)) "target_modules" default.targetModules
    fanInFanOut := <- field fields S.bool "fan_in_fan_out" default.fanInFanOut }

def CompressionConfig.modelValidate (json : Json) : Except ValidationError CompressionConfig := do
  let fields <- record ["backend", "top_k", "chunk_size", "quant_bits", "error_feedback"] json
  let default : CompressionConfig := {}
  declared CompressionConfig.Declared {
    backend := <- field fields (enumeration _) "backend" default.backend
    topK := <- field fields S.nat "top_k" default.topK
    chunkSize := <- field fields S.nat "chunk_size" default.chunkSize
    quantBits := <- field fields S.nat "quant_bits" default.quantBits
    errorFeedback := <- field fields S.bool "error_feedback" default.errorFeedback }

def RuntimeConfig.modelValidate (json : Json) : Except ValidationError RuntimeConfig := do
  let fields <- record ["mode", "image", "privileged", "network_enabled", "memory_limit_mb",
    "cpu_limit", "timeout_seconds", "gpu_devices", "environment"] json
  let default : RuntimeConfig := {}
  let self <- declared RuntimeConfig.Declared {
    mode := <- field fields (enumeration _) "mode" default.mode
    image := <- field fields S.str "image" default.image
    privileged := <- field fields S.bool "privileged" default.privileged
    networkEnabled := <- field fields S.bool "network_enabled" default.networkEnabled
    memoryLimitMb := <- field fields S.nat "memory_limit_mb" default.memoryLimitMb
    cpuLimit := <- field fields S.float "cpu_limit" default.cpuLimit
    timeoutSeconds := <- field fields S.nat "timeout_seconds" default.timeoutSeconds
    gpuDevices := <- field fields (list S.int) "gpu_devices" default.gpuDevices
    environment := <- field fields S.strDict "environment" default.environment }
  self.validateSecurity

def RuntimeRequirements.modelValidate (json : Json) :
    Except ValidationError RuntimeRequirements := do
  let fields <- record ["requires_cuda", "cuda_version", "pytorch_version", "nccl_version",
    "compute_capability", "requires_p2p", "requires_nvlink", "requires_fsdp2",
    "requires_tensor_parallel", "minimum_bandwidth_mbps", "maximum_rtt_ms"] json
  let default : RuntimeRequirements := {}
  declared RuntimeRequirements.Declared {
    requiresCuda := <- field fields S.bool "requires_cuda" default.requiresCuda
    cudaVersion := <- field fields (optional S.str) "cuda_version" default.cudaVersion
    pytorchVersion := <- field fields (optional S.str) "pytorch_version" default.pytorchVersion
    ncclVersion := <- field fields (optional S.str) "nccl_version" default.ncclVersion
    computeCapability := <-
      field fields (optional S.str) "compute_capability" default.computeCapability
    requiresP2p := <- field fields S.bool "requires_p2p" default.requiresP2p
    requiresNvlink := <- field fields S.bool "requires_nvlink" default.requiresNvlink
    requiresFsdp2 := <- field fields S.bool "requires_fsdp2" default.requiresFsdp2
    requiresTensorParallel := <-
      field fields S.bool "requires_tensor_parallel" default.requiresTensorParallel
    minimumBandwidthMbps := <-
      field fields (optional S.float) "minimum_bandwidth_mbps" default.minimumBandwidthMbps
    maximumRttMs := <- field fields (optional S.float) "maximum_rtt_ms" default.maximumRttMs }

def OuterOptimizerConfig.modelValidate (json : Json) :
    Except ValidationError OuterOptimizerConfig := do
  let fields <- record ["kind", "learning_rate", "momentum", "beta1", "beta2", "epsilon"] json
  let default : OuterOptimizerConfig := {}
  declared OuterOptimizerConfig.Declared {
    kind := <- field fields (enumeration _) "kind" default.kind
    learningRate := <- field fields S.float "learning_rate" default.learningRate
    momentum := <- field fields S.float "momentum" default.momentum
    beta1 := <- field fields S.float "beta1" default.beta1
    beta2 := <- field fields S.float "beta2" default.beta2
    epsilon := <- field fields S.float "epsilon" default.epsilon }

def Phase18TrainingConfig.modelValidate (json : Json) :
    Except ValidationError Phase18TrainingConfig := do
  let fields <- record ["strategy", "requested_node_count", "gpus_per_node", "total_gpus",
    "minimum_vram_per_gpu_mb", "diloco_h", "min_k", "sync_deadline_seconds",
    "readiness_timeout_seconds", "startup_timeout_seconds", "checkpoint_interval_rounds",
    "maximum_runtime_seconds", "reservation_ttl_seconds", "resume_policy", "network_scope",
    "runtime_requirements", "outer_optimizer"] json
  let default : Phase18TrainingConfig := {}
  let self <- declared Phase18TrainingConfig.Declared {
    strategy := <- field fields (enumeration _) "strategy" default.strategy
    requestedNodeCount := <- field fields S.nat "requested_node_count" default.requestedNodeCount
    gpusPerNode := <- field fields S.nat "gpus_per_node" default.gpusPerNode
    totalGpus := <- field fields S.nat "total_gpus" default.totalGpus
    minimumVramPerGpuMb := <-
      field fields S.nat "minimum_vram_per_gpu_mb" default.minimumVramPerGpuMb
    dilocoH := <- field fields S.nat "diloco_h" default.dilocoH
    minK := <- field fields S.nat "min_k" default.minK
    syncDeadlineSeconds := <-
      field fields S.float "sync_deadline_seconds" default.syncDeadlineSeconds
    readinessTimeoutSeconds := <-
      field fields S.nat "readiness_timeout_seconds" default.readinessTimeoutSeconds
    startupTimeoutSeconds := <-
      field fields S.nat "startup_timeout_seconds" default.startupTimeoutSeconds
    checkpointIntervalRounds := <-
      field fields S.nat "checkpoint_interval_rounds" default.checkpointIntervalRounds
    maximumRuntimeSeconds := <-
      field fields S.nat "maximum_runtime_seconds" default.maximumRuntimeSeconds
    reservationTtlSeconds := <-
      field fields S.nat "reservation_ttl_seconds" default.reservationTtlSeconds
    resumePolicy := <- field fields (enumeration _) "resume_policy" default.resumePolicy
    networkScope := <-
      field fields (optional (enumeration _)) "network_scope" default.networkScope
    runtimeRequirements := <-
      field fields (RuntimeRequirements.modelValidate S) "runtime_requirements"
        default.runtimeRequirements
    outerOptimizer := <-
      field fields (OuterOptimizerConfig.modelValidate S) "outer_optimizer"
        default.outerOptimizer }
  self.validateJob

def DistributedTrainingConfig.modelValidate (json : Json) :
    Except ValidationError DistributedTrainingConfig := do
  let fields <- record ["enabled", "worker_count", "local_steps_per_round", "max_rounds",
    "compression", "direct_backend", "overlap_mode", "runtime", "worker_seed_offset"] json
  let default : DistributedTrainingConfig := {}
  declared DistributedTrainingConfig.Declared {
    enabled := <- field fields S.bool "enabled" default.enabled
    workerCount := <- field fields S.nat "worker_count" default.workerCount
    localStepsPerRound := <- field fields S.nat "local_steps_per_round" default.localStepsPerRound
    maxRounds := <- field fields S.nat "max_rounds" default.maxRounds
    compression := <-
      field fields (CompressionConfig.modelValidate S) "compression" default.compression
    directBackend := <- field fields (enumeration _) "direct_backend" default.directBackend
    overlapMode := <- field fields (enumeration _) "overlap_mode" default.overlapMode
    runtime := <- field fields (RuntimeConfig.modelValidate S) "runtime" default.runtime
    workerSeedOffset := <- field fields S.nat "worker_seed_offset" default.workerSeedOffset }

/-- The fields of a configuration as they are read, before the validator of the
whole runs. -/
def TrainingRunConfig.readFields (json : Json) : Except ValidationError TrainingRunConfig := do
  let fields <- record ["schema_version", "run_name", "model_name", "dataset", "adapter_mode",
    "precision", "load_in_4bit", "device", "sequence_length", "batch_size",
    "gradient_accumulation_steps", "learning_rate", "max_steps", "checkpoint_every_steps",
    "startup_timeout_seconds", "gradient_checkpointing", "seed", "output_dir", "resume_from",
    "smoke_run", "lora", "distributed", "phase18"] json
  let default : TrainingRunConfig := {}
  declared TrainingRunConfig.Declared {
    schemaVersion := <- field fields FieldReader.literal "schema_version" default.schemaVersion
    runName := <- field fields S.str "run_name" default.runName
    modelName := <- field fields S.str "model_name" default.modelName
    dataset := <- field fields (DatasetConfig.modelValidate S) "dataset" default.dataset
    adapterMode := <- field fields (enumeration _) "adapter_mode" default.adapterMode
    precision := <- field fields (enumeration _) "precision" default.precision
    loadIn4bit := <- field fields S.bool "load_in_4bit" default.loadIn4bit
    device := <- field fields S.str "device" default.device
    sequenceLength := <- field fields S.nat "sequence_length" default.sequenceLength
    batchSize := <- field fields S.nat "batch_size" default.batchSize
    gradientAccumulationSteps := <-
      field fields S.nat "gradient_accumulation_steps" default.gradientAccumulationSteps
    learningRate := <- field fields S.float "learning_rate" default.learningRate
    maxSteps := <- field fields S.nat "max_steps" default.maxSteps
    checkpointEverySteps := <-
      field fields S.nat "checkpoint_every_steps" default.checkpointEverySteps
    startupTimeoutSeconds := <-
      field fields S.nat "startup_timeout_seconds" default.startupTimeoutSeconds
    gradientCheckpointing := <-
      field fields S.bool "gradient_checkpointing" default.gradientCheckpointing
    seed := <- field fields S.nat "seed" default.seed
    outputDir := <- field fields FieldReader.path "output_dir" default.outputDir
    resumeFrom := <- field fields (optional FieldReader.path) "resume_from" default.resumeFrom
    smokeRun := <- field fields S.bool "smoke_run" default.smokeRun
    lora := <- field fields (LoraConfig.modelValidate S) "lora" default.lora
    distributed := <-
      field fields (DistributedTrainingConfig.modelValidate S) "distributed" default.distributed
    phase18 := <-
      field fields (optional (Phase18TrainingConfig.modelValidate S)) "phase18" default.phase18 }

def TrainingRunConfig.modelValidate (json : Json) : Except ValidationError TrainingRunConfig := do
  let self <- TrainingRunConfig.readFields S json
  self.validateQuantization

end Reading

end Placement
end ZepGpu
