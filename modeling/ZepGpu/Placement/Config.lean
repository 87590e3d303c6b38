import ZepGpu.Foundation.JsonRecords

namespace ZepGpu
namespace Placement

open Foundation

/-!
# Configuration of training runs

A configuration is read from JSON and then rewritten by its validators: the
schema version, the steps, the rounds, the checkpoint interval and the copies of
what the training job says are brought into agreement.  The validators write
without checking the declarations of the fields again.  What is stored is the
public form, without the environment of the runtime and without secrets.

Decimal defaults stand for themselves.
-/

/-! ## Enumerations -/

inductive AdapterMode where
  | lora
  | qlora
  deriving DecidableEq, Repr

instance : Enumeration AdapterMode where
  members := [.lora, .qlora]
  value := fun
    | .lora => "lora"
    | .qlora => "qlora"
  found := by
    intro member
    cases member <;> rfl

inductive Precision where
  | bf16
  | fp16
  | fp32
  deriving DecidableEq, Repr

instance : Enumeration Precision where
  members := [.bf16, .fp16, .fp32]
  value := fun
    | .bf16 => "bf16"
    | .fp16 => "fp16"
    | .fp32 => "fp32"
  found := by
    intro member
    cases member <;> rfl

inductive CompressorBackend where
  | none
  | zep
  | demo
  deriving DecidableEq, Repr

instance : Enumeration CompressorBackend where
  members := [.none, .zep, .demo]
  value := fun
    | .none => "none"
    | .zep => "zep"
    | .demo => "demo"
  found := by
    intro member
    cases member <;> rfl

inductive DirectBackend where
  | memory
  | lan
  | pccl
  deriving DecidableEq, Repr

instance : Enumeration DirectBackend where
  members := [.memory, .lan, .pccl]
  value := fun
    | .memory => "memory"
    | .lan => "lan"
    | .pccl => "pccl"
  found := by
    intro member
    cases member <;> rfl

inductive RuntimeMode where
  | process
  | docker
  deriving DecidableEq, Repr

instance : Enumeration RuntimeMode where
  members := [.process, .docker]
  value := fun
    | .process => "process"
    | .docker => "docker"
  found := by
    intro member
    cases member <;> rfl

inductive OverlapMode where
  | blocking
  | eager
  deriving DecidableEq, Repr

instance : Enumeration OverlapMode where
  members := [.blocking, .eager]
  value := fun
    | .blocking => "blocking"
    | .eager => "eager"
  found := by
    intro member
    cases member <;> rfl

inductive DistributedStrategy where
  | single
  | diloco
  | fsdp2
  | tensorParallel
  deriving DecidableEq, Repr

instance : Enumeration DistributedStrategy where
  members := [.single, .diloco, .fsdp2, .tensorParallel]
  value := fun
    | .single => "single"
    | .diloco => "diloco"
    | .fsdp2 => "fsdp2"
    | .tensorParallel => "tensor_parallel"
  found := by
    intro member
    cases member <;> rfl

inductive NetworkScope where
  | sameHost
  | lan
  | wan
  deriving DecidableEq, Repr

instance : Enumeration NetworkScope where
  members := [.sameHost, .lan, .wan]
  value := fun
    | .sameHost => "same_host"
    | .lan => "lan"
    | .wan => "wan"
  found := by
    intro member
    cases member <;> rfl

inductive ResumePolicy where
  | never
  | latest
  | required
  deriving DecidableEq, Repr

instance : Enumeration ResumePolicy where
  members := [.never, .latest, .required]
  value := fun
    | .never => "never"
    | .latest => "latest"
    | .required => "required"
  found := by
    intro member
    cases member <;> rfl

inductive OuterOptimizerKind where
  | sgd
  | adam
  deriving DecidableEq, Repr

instance : Enumeration OuterOptimizerKind where
  members := [.sgd, .adam]
  value := fun
    | .sgd => "sgd"
    | .adam => "adam"
  found := by
    intro member
    cases member <;> rfl

/-! ## Parts of a configuration -/

/-- The texts to train on, by name or inline. -/
structure DatasetConfig where
  name : String := "zepgpu-inline-v1"
  texts : Option (List String) := none
  deriving DecidableEq

structure LoraConfig where
  rank : Nat := 8
  alpha : Nat := 16
  dropout : Rat := 5 / 100
  targetModules : Option (List String) := none
  fanInFanOut : Bool := false
  deriving DecidableEq

structure CompressionConfig where
  backend : CompressorBackend := .zep
  topK : Nat := 32
  chunkSize : Nat := 64
  quantBits : Nat := 4
  errorFeedback : Bool := true
  deriving DecidableEq

structure RuntimeConfig where
  mode : RuntimeMode := .process
  image : String := "zepgpu-training:local"
  privileged : Bool := false
  networkEnabled : Bool := true
  memoryLimitMb : Nat := 8192
  cpuLimit : Rat := 4
  timeoutSeconds : Nat := 3600
  gpuDevices : List Int := [0]
  environment : List (String × String) := []
  deriving DecidableEq

structure RuntimeRequirements where
  requiresCuda : Bool := true
  cudaVersion : Option String := none
  pytorchVersion : Option String := none
  ncclVersion : Option String := none
  computeCapability : Option String := none
  requiresP2p : Bool := false
  requiresNvlink : Bool := false
  requiresFsdp2 : Bool := false
  requiresTensorParallel : Bool := false
  minimumBandwidthMbps : Option Rat := none
  maximumRttMs : Option Rat := none
  deriving DecidableEq

structure OuterOptimizerConfig where
  kind : OuterOptimizerKind := .sgd
  learningRate : Rat := 1
  momentum : Rat := 0
  beta1 : Rat := 9 / 10
  beta2 : Rat := 999 / 1000
  epsilon : Rat := 1 / 100000000
  deriving DecidableEq

/-- The distributed block of a submission. -/
structure Phase18TrainingConfig where
  strategy : DistributedStrategy := .diloco
  requestedNodeCount : Nat := 2
  gpusPerNode : Nat := 1
  totalGpus : Nat := 2
  minimumVramPerGpuMb : Nat := 1024
  dilocoH : Nat := 1
  minK : Nat := 2
  syncDeadlineSeconds : Rat := 120
  readinessTimeoutSeconds : Nat := 300
  startupTimeoutSeconds : Nat := 300
  checkpointIntervalRounds : Nat := 1
  maximumRuntimeSeconds : Nat := 3600
  reservationTtlSeconds : Nat := 900
  resumePolicy : ResumePolicy := .latest
  networkScope : Option NetworkScope := none
  runtimeRequirements : RuntimeRequirements := {}
  outerOptimizer : OuterOptimizerConfig := {}
  deriving DecidableEq

structure DistributedTrainingConfig where
  enabled : Bool := false
  workerCount : Nat := 2
  localStepsPerRound : Nat := 1
  maxRounds : Nat := 2
  compression : CompressionConfig := {}
  directBackend : DirectBackend := .memory
  overlapMode : OverlapMode := .blocking
  runtime : RuntimeConfig := {}
  workerSeedOffset : Nat := 1
  deriving DecidableEq

/-- A submission after validation. -/
structure TrainingRunConfig where
  schemaVersion : Nat := 1
  runName : String := "local-baseline"
  modelName : String := "hf-internal-testing/tiny-random-gpt2"
  dataset : DatasetConfig := {}
  adapterMode : AdapterMode := .lora
  precision : Precision := .fp16
  loadIn4bit : Bool := false
  device : String := "cuda:0"
  sequenceLength : Nat := 128
  batchSize : Nat := 1
  gradientAccumulationSteps : Nat := 4
  learningRate : Rat := 2 / 10000
  maxSteps : Nat := 20
  checkpointEverySteps : Nat := 10
  startupTimeoutSeconds : Nat := 300
  gradientCheckpointing : Bool := true
  seed : Nat := 42
  outputDir : PosixPath := PosixPath.parse "artifacts/training/local-baseline"
  resumeFrom : Option PosixPath := none
  smokeRun : Bool := false
  lora : LoraConfig := {}
  distributed : DistributedTrainingConfig := {}
  phase18 : Option Phase18TrainingConfig := none
  deriving DecidableEq

/-! ## What the declarations of the fields demand -/

section Declarations

/-- `pattern=r"^(?:cpu|cuda:[0-9]+)$"` -/
def deviceMatches (device : String) : Prop :=
  device = "cpu" ∨
    "cuda:".toList <+: device.toList ∧ device.toList.drop 5 ≠ [] ∧
      (device.toList.drop 5).all Char.isDigit = true

def DatasetConfig.Declared (self : DatasetConfig) : Prop :=
  1 ≤ self.name.length ∧ self.name.length ≤ 255

def LoraConfig.Declared (self : LoraConfig) : Prop :=
  (1 ≤ self.rank ∧ self.rank ≤ 256) ∧ 1 ≤ self.alpha ∧ 0 ≤ self.dropout ∧ self.dropout < 1

def CompressionConfig.Declared (self : CompressionConfig) : Prop :=
  (1 ≤ self.topK ∧ self.topK ≤ 65536) ∧ (8 ≤ self.chunkSize ∧ self.chunkSize ≤ 4096) ∧
    2 ≤ self.quantBits ∧ self.quantBits ≤ 8

def RuntimeConfig.Declared (self : RuntimeConfig) : Prop :=
  (1 ≤ self.image.length ∧ self.image.length ≤ 512) ∧
    (256 ≤ self.memoryLimitMb ∧ self.memoryLimitMb ≤ 1048576) ∧
    (0 < self.cpuLimit ∧ self.cpuLimit ≤ 256) ∧
    30 ≤ self.timeoutSeconds ∧ self.timeoutSeconds ≤ 86400

def RuntimeRequirements.Declared (self : RuntimeRequirements) : Prop :=
  (∀ version, self.cudaVersion = some version -> version.length ≤ 64) ∧
    (∀ version, self.pytorchVersion = some version -> version.length ≤ 64) ∧
    (∀ version, self.ncclVersion = some version -> version.length ≤ 64) ∧
    (∀ capability, self.computeCapability = some capability -> capability.length ≤ 32) ∧
    (∀ bandwidth, self.minimumBandwidthMbps = some bandwidth -> 0 < bandwidth) ∧
    ∀ rtt, self.maximumRttMs = some rtt -> 0 < rtt

def OuterOptimizerConfig.Declared (self : OuterOptimizerConfig) : Prop :=
  0 < self.learningRate ∧ (0 ≤ self.momentum ∧ self.momentum < 1) ∧
    (0 ≤ self.beta1 ∧ self.beta1 < 1) ∧ (0 ≤ self.beta2 ∧ self.beta2 < 1) ∧ 0 < self.epsilon

def Phase18TrainingConfig.Declared (self : Phase18TrainingConfig) : Prop :=
  (1 ≤ self.requestedNodeCount ∧ self.requestedNodeCount ≤ 256) ∧
    (1 ≤ self.gpusPerNode ∧ self.gpusPerNode ≤ 64) ∧
    (1 ≤ self.totalGpus ∧ self.totalGpus ≤ 4096) ∧ 1 ≤ self.minimumVramPerGpuMb ∧
    (1 ≤ self.dilocoH ∧ self.dilocoH ≤ 1000000) ∧ (1 ≤ self.minK ∧ self.minK ≤ 256) ∧
    (0 < self.syncDeadlineSeconds ∧ self.syncDeadlineSeconds ≤ 86400) ∧
    (1 ≤ self.readinessTimeoutSeconds ∧ self.readinessTimeoutSeconds ≤ 86400) ∧
    (1 ≤ self.startupTimeoutSeconds ∧ self.startupTimeoutSeconds ≤ 86400) ∧
    (1 ≤ self.checkpointIntervalRounds ∧ self.checkpointIntervalRounds ≤ 100000) ∧
    (30 ≤ self.maximumRuntimeSeconds ∧ self.maximumRuntimeSeconds ≤ 604800) ∧
    30 ≤ self.reservationTtlSeconds ∧ self.reservationTtlSeconds ≤ 86400

def DistributedTrainingConfig.Declared (self : DistributedTrainingConfig) : Prop :=
  (1 ≤ self.workerCount ∧ self.workerCount ≤ 256) ∧
    (1 ≤ self.localStepsPerRound ∧ self.localStepsPerRound ≤ 10000) ∧
    (1 ≤ self.maxRounds ∧ self.maxRounds ≤ 10000) ∧ self.workerSeedOffset ≤ 1000000

def TrainingRunConfig.Declared (self : TrainingRunConfig) : Prop :=
  (self.schemaVersion = 1 ∨ self.schemaVersion = 2 ∨ self.schemaVersion = 3) ∧
    (1 ≤ self.runName.length ∧ self.runName.length ≤ 128) ∧
    (1 ≤ self.modelName.length ∧ self.modelName.length ≤ 1024) ∧ deviceMatches self.device ∧
    (8 ≤ self.sequenceLength ∧ self.sequenceLength ≤ 32768) ∧ 1 ≤ self.batchSize ∧
    1 ≤ self.gradientAccumulationSteps ∧ 0 < self.learningRate ∧ 1 ≤ self.maxSteps ∧
    1 ≤ self.checkpointEverySteps ∧
    10 ≤ self.startupTimeoutSeconds ∧ self.startupTimeoutSeconds ≤ 86400

instance (device : String) : Decidable (deviceMatches device) := by
  unfold deviceMatches
  infer_instance

instance (self : DatasetConfig) : Decidable self.Declared :=
  inferInstanceAs (Decidable (_ ∧ _))

instance (self : LoraConfig) : Decidable self.Declared :=
  inferInstanceAs (Decidable (_ ∧ _))

instance (self : CompressionConfig) : Decidable self.Declared :=
  inferInstanceAs (Decidable (_ ∧ _))

instance (self : RuntimeConfig) : Decidable self.Declared :=
  inferInstanceAs (Decidable (_ ∧ _))

instance (self : RuntimeRequirements) : Decidable self.Declared :=
  inferInstanceAs (Decidable (_ ∧ _))

instance (self : OuterOptimizerConfig) : Decidable self.Declared :=
  inferInstanceAs (Decidable (_ ∧ _))

instance (self : Phase18TrainingConfig) : Decidable self.Declared :=
  inferInstanceAs (Decidable (_ ∧ _))

instance (self : DistributedTrainingConfig) : Decidable self.Declared :=
  inferInstanceAs (Decidable (_ ∧ _))

instance (self : TrainingRunConfig) : Decidable self.Declared :=
  inferInstanceAs (Decidable (_ ∧ _))

end Declarations

end Placement
end ZepGpu
