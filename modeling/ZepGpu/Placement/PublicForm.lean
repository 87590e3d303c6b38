import ZepGpu.Placement.Validation

namespace ZepGpu
namespace Placement

open Foundation List
open Foundation.Json (setField get?_cons_self get?_cons_ne)
open Foundation.FieldReader (nullable)

/-!
# The public form of a configuration

No field of a configuration has the name of a secret, so that filtering secrets
changes nothing but the environment of the runtime, which the public form leaves
empty.
-/

/-- `runtime["environment"] = {}` -/
def TrainingRunConfig.withoutEnvironment (self : TrainingRunConfig) : TrainingRunConfig :=
  { self with
    distributed :=
      { self.distributed with runtime := { self.distributed.runtime with environment := [] } } }

theorem filterFields_eq {fields : List (String × Json)} {names : List String}
    (named : fields.map Prod.fst = names) (plain : names.all (fun name => !isSecret name) = true) :
    filterFields fields = fields.map (fun field => (field.1, filterSecrets field.2)) := by
  rw [← named] at plain
  clear named
  induction fields with
  | nil => rfl
  | cons field rest ih =>
    rw [map_cons, all_cons, Bool.and_eq_true] at plain
    have ordinary : isSecret field.1 = false := (Bool.not_eq_true' _).mp plain.1
    rw [filterFields, if_neg (ordinary ▸ Bool.false_ne_true), ih plain.2]
    rfl

example : isSecret "registry_token" = true := by
  decide +kernel

theorem filterItems_map {α : Type} {write : α -> Json}
    (plain : ∀ value, filterSecrets (write value) = write value) (values : List α) :
    filterItems (values.map write) = values.map write := by
  induction values with
  | nil => rfl
  | cons value rest ih => rw [map_cons, filterItems, plain, ih]

theorem filterSecrets_nullable {α : Type} {write : α -> Json}
    (plain : ∀ value, filterSecrets (write value) = write value) (value : Option α) :
    filterSecrets (nullable write value) = nullable write value := by
  cases value with
  | none => simp only [nullable, Option.elim_none, filterSecrets]
  | some inner => exact plain inner

theorem filterSecrets_str (value : String) : filterSecrets (.str value) = .str value := by
  simp only [filterSecrets]

theorem filterSecrets_int (value : Int) : filterSecrets (.int value) = .int value := by
  simp only [filterSecrets]

theorem filterSecrets_float (value : Rat) : filterSecrets (.float value) = .float value := by
  simp only [filterSecrets]

theorem filterSecrets_texts (values : List String) :
    filterSecrets (.arr (values.map Json.str)) = .arr (values.map Json.str) := by
  rw [filterSecrets, filterItems_map filterSecrets_str]

theorem filterSecrets_scope (value : NetworkScope) :
    filterSecrets (.str (Enumeration.value value)) = .str (Enumeration.value value) :=
  filterSecrets_str _

theorem filterSecrets_path (value : PosixPath) : filterSecrets (.str value.str) = .str value.str :=
  filterSecrets_str _

def DatasetConfig.fieldNames : List String :=
  ["name", "texts"]

def LoraConfig.fieldNames : List String :=
  ["rank", "alpha", "dropout", "target_modules", "fan_in_fan_out"]

def CompressionConfig.fieldNames : List String :=
  ["backend", "top_k", "chunk_size", "quant_bits", "error_feedback"]

def RuntimeRequirements.fieldNames : List String :=
  ["requires_cuda", "cuda_version", "pytorch_version", "nccl_version", "compute_capability",
    "requires_p2p", "requires_nvlink", "requires_fsdp2", "requires_tensor_parallel",
    "minimum_bandwidth_mbps", "maximum_rtt_ms"]

def OuterOptimizerConfig.fieldNames : List String :=
  ["kind", "learning_rate", "momentum", "beta1", "beta2", "epsilon"]

def Phase18TrainingConfig.fieldNames : List String :=
  ["strategy", "requested_node_count", "gpus_per_node", "total_gpus", "minimum_vram_per_gpu_mb",
    "diloco_h", "min_k", "sync_deadline_seconds", "readiness_timeout_seconds",
    "startup_timeout_seconds", "checkpoint_interval_rounds", "maximum_runtime_seconds",
    "reservation_ttl_seconds", "resume_policy", "network_scope", "runtime_requirements",
    "outer_optimizer"]

def RuntimeConfig.fieldNames : List String :=
  ["mode", "image", "privileged", "network_enabled", "memory_limit_mb", "cpu_limit",
    "timeout_seconds", "gpu_devices", "environment"]

def DistributedTrainingConfig.fieldNames : List String :=
  ["enabled", "worker_count", "local_steps_per_round", "max_rounds", "compression",
    "direct_backend", "overlap_mode", "runtime", "worker_seed_offset"]

def TrainingRunConfig.fieldNames : List String :=
  ["schema_version", "run_name", "model_name", "dataset", "adapter_mode", "precision",
    "load_in_4bit", "device", "sequence_length", "batch_size", "gradient_accumulation_steps",
    "learning_rate", "max_steps", "checkpoint_every_steps", "startup_timeout_seconds",
    "gradient_checkpointing", "seed", "output_dir", "resume_from", "smoke_run", "lora",
    "distributed", "phase18"]

/-- The records of a configuration, by the names that `modelDump` gives their fields. -/
def recordFields : List (List String) :=
  [DatasetConfig.fieldNames, LoraConfig.fieldNames, CompressionConfig.fieldNames,
    RuntimeRequirements.fieldNames, OuterOptimizerConfig.fieldNames, Phase18TrainingConfig.fieldNames,
    RuntimeConfig.fieldNames, DistributedTrainingConfig.fieldNames, TrainingRunConfig.fieldNames]

theorem recordFields_plain :
    recordFields.all (fun names => names.all fun name => !isSecret name) = true := by
  decide +kernel

theorem filterFields_record {fields : List (String × Json)} (names : List String)
    (named : fields.map Prod.fst = names) (record : names ∈ recordFields) :
    filterFields fields = fields.map (fun field => (field.1, filterSecrets field.2)) :=
  filterFields_eq named (all_eq_true.mp recordFields_plain names record)

theorem DatasetConfig.filterSecrets_modelDump (self : DatasetConfig) :
    filterSecrets self.modelDump = self.modelDump := by
  rw [DatasetConfig.modelDump, filterSecrets,
    filterFields_record DatasetConfig.fieldNames rfl (by simp [recordFields])]
  simp only [map_cons, map_nil, filterSecrets, filterSecrets_nullable filterSecrets_texts]

theorem LoraConfig.filterSecrets_modelDump (self : LoraConfig) :
    filterSecrets self.modelDump = self.modelDump := by
  rw [LoraConfig.modelDump, filterSecrets,
    filterFields_record LoraConfig.fieldNames rfl (by simp [recordFields])]
  simp only [map_cons, map_nil, filterSecrets, filterSecrets_nullable filterSecrets_texts]

theorem CompressionConfig.filterSecrets_modelDump (self : CompressionConfig) :
    filterSecrets self.modelDump = self.modelDump := by
  rw [CompressionConfig.modelDump, filterSecrets,
    filterFields_record CompressionConfig.fieldNames rfl (by simp [recordFields])]
  simp only [map_cons, map_nil, filterSecrets]

theorem RuntimeRequirements.filterSecrets_modelDump (self : RuntimeRequirements) :
    filterSecrets self.modelDump = self.modelDump := by
  rw [RuntimeRequirements.modelDump, filterSecrets,
    filterFields_record RuntimeRequirements.fieldNames rfl (by simp [recordFields])]
  simp only [map_cons, map_nil, filterSecrets, filterSecrets_nullable filterSecrets_str,
    filterSecrets_nullable filterSecrets_float]

theorem OuterOptimizerConfig.filterSecrets_modelDump (self : OuterOptimizerConfig) :
    filterSecrets self.modelDump = self.modelDump := by
  rw [OuterOptimizerConfig.modelDump, filterSecrets,
    filterFields_record OuterOptimizerConfig.fieldNames rfl (by simp [recordFields])]
  simp only [map_cons, map_nil, filterSecrets]

theorem Phase18TrainingConfig.filterSecrets_modelDump (self : Phase18TrainingConfig) :
    filterSecrets self.modelDump = self.modelDump := by
  rw [Phase18TrainingConfig.modelDump, filterSecrets,
    filterFields_record Phase18TrainingConfig.fieldNames rfl (by simp [recordFields])]
  simp only [map_cons, map_nil, filterSecrets, RuntimeRequirements.filterSecrets_modelDump,
    OuterOptimizerConfig.filterSecrets_modelDump, filterSecrets_nullable filterSecrets_scope]

theorem RuntimeConfig.filterSecrets_modelDump (self : RuntimeConfig) :
    ∃ fields, filterSecrets self.modelDump = .obj fields ∧
      Json.obj (setField fields "environment" (.obj [])) =
        RuntimeConfig.modelDump { self with environment := [] } := by
  rw [RuntimeConfig.modelDump, filterSecrets,
    filterFields_record RuntimeConfig.fieldNames rfl (by simp [recordFields])]
  simp only [map_cons, map_nil, filterSecrets, filterItems_map filterSecrets_int]
  refine ⟨_, rfl, ?_⟩
  simp [setField, RuntimeConfig.modelDump]

theorem DistributedTrainingConfig.filterSecrets_modelDump (self : DistributedTrainingConfig) :
    ∃ fields, filterSecrets self.modelDump = .obj fields ∧
      ∃ runtime, (Json.obj fields).get? "runtime" = some (.obj runtime) ∧
      Json.obj (setField fields "runtime" (.obj (setField runtime "environment" (.obj [])))) =
        DistributedTrainingConfig.modelDump
          { self with runtime := { self.runtime with environment := [] } } := by
  obtain ⟨runtime, filtered, emptied⟩ := RuntimeConfig.filterSecrets_modelDump self.runtime
  rw [DistributedTrainingConfig.modelDump, filterSecrets,
    filterFields_record DistributedTrainingConfig.fieldNames rfl (by simp [recordFields])]
  simp only [map_cons, map_nil, filterSecrets, CompressionConfig.filterSecrets_modelDump, filtered]
  refine ⟨_, rfl, runtime, ?_, ?_⟩
  · simp [get?_cons_self, get?_cons_ne]
  · rw [emptied]
    simp [setField, DistributedTrainingConfig.modelDump]

theorem TrainingRunConfig.toPublicDict_eq (self : TrainingRunConfig) :
    self.toPublicDict = self.withoutEnvironment.modelDump := by
  obtain ⟨distributed, filtered, runtime, found, emptied⟩ :=
    DistributedTrainingConfig.filterSecrets_modelDump self.distributed
  rw [TrainingRunConfig.toPublicDict, TrainingRunConfig.modelDump, filterSecrets,
    filterFields_record TrainingRunConfig.fieldNames rfl (by simp [recordFields])]
  simp only [map_cons, map_nil, filterSecrets, DatasetConfig.filterSecrets_modelDump,
    LoraConfig.filterSecrets_modelDump, filtered, filterSecrets_nullable filterSecrets_path,
    filterSecrets_nullable Phase18TrainingConfig.filterSecrets_modelDump]
  simp (disch := decide) only [get?_cons_self, get?_cons_ne, found, emptied]
  simp [setField, TrainingRunConfig.modelDump, withoutEnvironment]

end Placement
end ZepGpu
