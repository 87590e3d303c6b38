import ZepGpu.Placement.Validation

namespace ZepGpu
namespace Placement

open Foundation
open Foundation.Json (record field record_obj field_cons_self field_cons_ne)
open Foundation.FieldReader (nullable optional list enumeration)

/-!
# Reading what was written

The parts of a configuration that was read satisfy their declarations and are
left alone by their validators, so that each part is read back from its own
form.  Of the configuration as a whole only the declarations are in question.
-/

def DatasetConfig.Readable (self : DatasetConfig) : Prop :=
  self.Declared ∧ self.validateTexts = .ok self

def RuntimeConfig.Readable (self : RuntimeConfig) : Prop :=
  self.Declared ∧ self.validateSecurity = .ok self

/-- Every field is as its declaration allows, so that the dump is read back. -/
structure Phase18TrainingConfig.Readable (job : Phase18TrainingConfig) : Prop where
  declared : job.Declared
  runtimeRequirements : job.runtimeRequirements.Declared
  outerOptimizer : job.outerOptimizer.Declared
  validated : job.validateJob = .ok job

structure DistributedTrainingConfig.PartsReadable (config : DistributedTrainingConfig) : Prop where
  compression : config.compression.Declared
  runtime : config.runtime.Readable

structure TrainingRunConfig.PartsReadable (config : TrainingRunConfig) : Prop where
  dataset : config.dataset.Readable
  lora : config.lora.Declared
  distributed : config.distributed.PartsReadable
  phase18 : ∀ job, config.phase18 = some job -> job.Readable

/-- The declarations that the last validator may leave violated. -/
def TrainingRunConfig.WhollyDeclared (self : TrainingRunConfig) : Prop :=
  self.distributed.Declared ∧ self.Declared

instance (self : TrainingRunConfig) : Decidable self.WhollyDeclared :=
  inferInstanceAs (Decidable (_ ∧ _))

section RoundTrip

variable (S : Scalars)

theorem declared_eq_ok {α : Type} {Declared : α -> Prop} [DecidablePred Declared] {value : α}
    (holds : Declared value) : declared Declared value = .ok value := by
  rw [declared, raiseIf, if_neg (not_not_intro holds)]
  rfl

theorem declared_eq_error {α : Type} {Declared : α -> Prop} [DecidablePred Declared] {value : α}
    (fails : ¬ Declared value) : declared Declared value = .error .refused := by
  rw [declared, raiseIf, if_pos fails]
  rfl

theorem ensures_declared {α : Type} {Declared : α -> Prop} [DecidablePred Declared] {value : α} :
    Ensures (declared Declared value) (fun result => result = value ∧ Declared result) := by
  intro result checked
  obtain ⟨holds, same⟩ := raiseIf_bind_eq_ok.mp checked
  cases Except.ok.inj same
  exact ⟨rfl, not_not.mp holds⟩

theorem DatasetConfig.modelValidate_modelDump {self : DatasetConfig} (readable : self.Readable) :
    DatasetConfig.modelValidate S self.modelDump = .ok self := by
  rw [DatasetConfig.modelValidate, DatasetConfig.modelDump, record_obj (by simp)]
  simp [field_cons_self, field_cons_ne, ok_bind, declared_eq_ok readable.1, readable.2]

theorem LoraConfig.modelValidate_modelDump {self : LoraConfig} (holds : self.Declared) :
    LoraConfig.modelValidate S self.modelDump = .ok self := by
  rw [LoraConfig.modelValidate, LoraConfig.modelDump, record_obj (by simp)]
  simp [field_cons_self, field_cons_ne, ok_bind, declared_eq_ok holds]

theorem CompressionConfig.modelValidate_modelDump {self : CompressionConfig} (holds : self.Declared) :
    CompressionConfig.modelValidate S self.modelDump = .ok self := by
  rw [CompressionConfig.modelValidate, CompressionConfig.modelDump, record_obj (by simp)]
  simp [field_cons_self, field_cons_ne, ok_bind, declared_eq_ok holds]

theorem RuntimeConfig.modelValidate_modelDump {self : RuntimeConfig} (readable : self.Readable) :
    RuntimeConfig.modelValidate S self.modelDump = .ok self := by
  rw [RuntimeConfig.modelValidate, RuntimeConfig.modelDump, record_obj (by simp)]
  simp [field_cons_self, field_cons_ne, ok_bind, declared_eq_ok readable.1, readable.2]

theorem RuntimeRequirements.modelValidate_modelDump {self : RuntimeRequirements}
    (holds : self.Declared) : RuntimeRequirements.modelValidate S self.modelDump = .ok self := by
  rw [RuntimeRequirements.modelValidate, RuntimeRequirements.modelDump, record_obj (by simp)]
  simp [field_cons_self, field_cons_ne, ok_bind, declared_eq_ok holds]

theorem OuterOptimizerConfig.modelValidate_modelDump {self : OuterOptimizerConfig}
    (holds : self.Declared) : OuterOptimizerConfig.modelValidate S self.modelDump = .ok self := by
  rw [OuterOptimizerConfig.modelValidate, OuterOptimizerConfig.modelDump, record_obj (by simp)]
  simp [field_cons_self, field_cons_ne, ok_bind, declared_eq_ok holds]

theorem optional_scope (value : Option NetworkScope) :
    optional (enumeration NetworkScope)
      (nullable (fun scope => .str (Enumeration.value scope)) value) = .ok value :=
  FieldReader.optional_nullable (fun _ same => Json.noConfusion same)
    (fun scope _ => FieldReader.enumeration_value scope)

theorem optional_path (value : Option PosixPath) :
    optional FieldReader.path (nullable (fun path => .str path.str) value) = .ok value :=
  FieldReader.optional_nullable (fun _ same => Json.noConfusion same) (fun path _ => FieldReader.path_str path)

theorem Phase18TrainingConfig.modelValidate_modelDump {self : Phase18TrainingConfig}
    (readable : self.Readable) : Phase18TrainingConfig.modelValidate S self.modelDump = .ok self := by
  rw [Phase18TrainingConfig.modelValidate, Phase18TrainingConfig.modelDump, record_obj (by simp)]
  simp [field_cons_self, field_cons_ne, ok_bind, optional_scope,
    RuntimeRequirements.modelValidate_modelDump S readable.runtimeRequirements,
    OuterOptimizerConfig.modelValidate_modelDump S readable.outerOptimizer,
    declared_eq_ok readable.declared, readable.validated]

theorem DistributedTrainingConfig.modelValidate_modelDump {self : DistributedTrainingConfig}
    (readable : self.PartsReadable) : DistributedTrainingConfig.modelValidate S self.modelDump =
      declared DistributedTrainingConfig.Declared self := by
  rw [DistributedTrainingConfig.modelValidate, DistributedTrainingConfig.modelDump,
    record_obj (by simp)]
  simp [field_cons_self, field_cons_ne, ok_bind,
    CompressionConfig.modelValidate_modelDump S readable.compression,
    RuntimeConfig.modelValidate_modelDump S readable.runtime]

theorem optional_phase18 {value : Option Phase18TrainingConfig}
    (readable : ∀ job, value = some job -> job.Readable) :
    optional (Phase18TrainingConfig.modelValidate S)
      (nullable Phase18TrainingConfig.modelDump value) = .ok value :=
  FieldReader.optional_nullable (fun _ same => Json.noConfusion same)
    (fun job present => Phase18TrainingConfig.modelValidate_modelDump S (readable job present))

theorem TrainingRunConfig.readFields_modelDump {self : TrainingRunConfig}
    (readable : self.PartsReadable) : TrainingRunConfig.readFields S self.modelDump =
      declared TrainingRunConfig.WhollyDeclared self := by
  rw [TrainingRunConfig.readFields, TrainingRunConfig.modelDump, record_obj (by simp)]
  by_cases parts : self.distributed.Declared
  · have same : declared TrainingRunConfig.WhollyDeclared self =
        declared TrainingRunConfig.Declared self := by
      by_cases whole : self.Declared
      · rw [declared_eq_ok whole, declared_eq_ok ⟨parts, whole⟩]
      · rw [declared_eq_error whole, declared_eq_error (fun both => whole both.2)]
    simp [field_cons_self, field_cons_ne, ok_bind, optional_path, optional_phase18 S readable.phase18,
      DatasetConfig.modelValidate_modelDump S readable.dataset,
      LoraConfig.modelValidate_modelDump S readable.lora,
      DistributedTrainingConfig.modelValidate_modelDump S readable.distributed,
      declared_eq_ok parts, same]
  · rw [declared_eq_error (fun both => parts both.1)]
    simp [field_cons_self, field_cons_ne, ok_bind, optional_path,
      DatasetConfig.modelValidate_modelDump S readable.dataset,
      LoraConfig.modelValidate_modelDump S readable.lora,
      DistributedTrainingConfig.modelValidate_modelDump S readable.distributed,
      declared_eq_error parts]
    rfl

theorem DatasetConfig.ensures_readable (json : Json) :
    Ensures (DatasetConfig.modelValidate S json) DatasetConfig.Readable := by
  unfold DatasetConfig.modelValidate
  iterate 3
    apply Ensures.skip
    intro _
  apply Ensures.bind
  · exact Placement.ensures_declared
  rintro self ⟨_, holds⟩ result validated
  obtain ⟨filled, rest⟩ := raiseIf_bind_eq_ok.mp validated
  obtain ⟨spoken, same⟩ := raiseIf_bind_eq_ok.mp rest
  cases Except.ok.inj same
  exact ⟨holds, validated⟩

theorem RuntimeConfig.ensures_readable (json : Json) :
    Ensures (RuntimeConfig.modelValidate S json) RuntimeConfig.Readable := by
  unfold RuntimeConfig.modelValidate
  iterate 10
    apply Ensures.skip
    intro _
  apply Ensures.bind
  · exact Placement.ensures_declared
  rintro self ⟨_, holds⟩ result validated
  obtain ⟨plain, same⟩ := raiseIf_bind_eq_ok.mp validated
  cases Except.ok.inj same
  exact ⟨holds, validated⟩

theorem LoraConfig.ensures_declared (json : Json) :
    Ensures (LoraConfig.modelValidate S json) LoraConfig.Declared := by
  unfold LoraConfig.modelValidate
  iterate 6
    apply Ensures.skip
    intro _
  apply Ensures.mono
  · exact Placement.ensures_declared
  exact fun _ both => both.2

theorem CompressionConfig.ensures_declared (json : Json) :
    Ensures (CompressionConfig.modelValidate S json) CompressionConfig.Declared := by
  unfold CompressionConfig.modelValidate
  iterate 6
    apply Ensures.skip
    intro _
  apply Ensures.mono
  · exact Placement.ensures_declared
  exact fun _ both => both.2

theorem RuntimeRequirements.ensures_declared (json : Json) :
    Ensures (RuntimeRequirements.modelValidate S json) RuntimeRequirements.Declared := by
  unfold RuntimeRequirements.modelValidate
  iterate 12
    apply Ensures.skip
    intro _
  apply Ensures.mono
  · exact Placement.ensures_declared
  exact fun _ both => both.2

theorem OuterOptimizerConfig.ensures_declared (json : Json) :
    Ensures (OuterOptimizerConfig.modelValidate S json) OuterOptimizerConfig.Declared := by
  unfold OuterOptimizerConfig.modelValidate
  iterate 7
    apply Ensures.skip
    intro _
  apply Ensures.mono
  · exact Placement.ensures_declared
  exact fun _ both => both.2

end RoundTrip

namespace Phase18TrainingConfig

variable (self : Phase18TrainingConfig)

@[simp] theorem filled_strategy : self.filled.strategy = self.strategy := by
  unfold filled
  split_ifs <;> rfl

@[simp] theorem filled_requestedNodeCount :
    self.filled.requestedNodeCount = self.requestedNodeCount := by
  unfold filled
  split_ifs <;> rfl

@[simp] theorem filled_gpusPerNode : self.filled.gpusPerNode = self.gpusPerNode := by
  unfold filled
  split_ifs <;> rfl

@[simp] theorem filled_totalGpus : self.filled.totalGpus = self.totalGpus := by
  unfold filled
  split_ifs <;> rfl

@[simp] theorem filled_minK : self.filled.minK = self.minK := by
  unfold filled
  split_ifs <;> rfl

theorem filled_filled : self.filled.filled = self.filled := by
  unfold filled
  by_cases coupled : self.strategy ∈ DistributedStrategy.tightlyCoupled
  · simp only [if_pos coupled, Option.getD_some]
    by_cases fsdp2 : self.strategy = .fsdp2
    · simp only [if_pos fsdp2]
    · simp only [if_neg fsdp2]
  · simp only [if_neg coupled, Option.getD_some]

variable {self}

theorem filled_declared (holds : self.Declared) : self.filled.Declared := by
  unfold filled
  by_cases coupled : self.strategy ∈ DistributedStrategy.tightlyCoupled
  · rw [if_pos coupled]
    exact holds
  · rw [if_neg coupled]
    exact holds

theorem filled_requirements (holds : self.runtimeRequirements.Declared) :
    self.filled.runtimeRequirements.Declared := by
  unfold filled
  by_cases coupled : self.strategy ∈ DistributedStrategy.tightlyCoupled
  · rw [if_pos coupled]
    exact holds
  · rw [if_neg coupled]
    exact holds

theorem filled_outerOptimizer : self.filled.outerOptimizer = self.outerOptimizer := by
  unfold filled
  split_ifs <;> rfl

theorem filled_networkScope (near : ¬ (self.strategy ∈ DistributedStrategy.tightlyCoupled ∧
    self.networkScope = some .wan)) :
    ¬ (self.strategy ∈ DistributedStrategy.tightlyCoupled ∧
      self.filled.networkScope = some .wan) := by
  rintro ⟨coupled, wide⟩
  rw [filled, if_pos coupled] at wide
  cases scope : self.networkScope with
  | none =>
    rw [scope] at wide
    cases wide
  | some scope' =>
    rw [scope] at wide near
    exact near ⟨coupled, wide⟩

theorem validateJob_again {result : Phase18TrainingConfig} (validated : self.validateJob = .ok result) :
    result = self.filled ∧ result.validateJob = .ok result := by
  obtain ⟨total, rest⟩ := raiseIf_bind_eq_ok.mp validated
  obtain ⟨few, rest⟩ := raiseIf_bind_eq_ok.mp rest
  obtain ⟨alone, rest⟩ := raiseIf_bind_eq_ok.mp rest
  obtain ⟨one, rest⟩ := raiseIf_bind_eq_ok.mp rest
  obtain ⟨near, same⟩ := raiseIf_bind_eq_ok.mp rest
  cases Except.ok.inj same
  refine ⟨rfl, ?_⟩
  apply raiseIf_bind_eq_ok.mpr
  refine ⟨by simpa using total, ?_⟩
  apply raiseIf_bind_eq_ok.mpr
  refine ⟨by simpa using few, ?_⟩
  apply raiseIf_bind_eq_ok.mpr
  refine ⟨by simpa using alone, ?_⟩
  apply raiseIf_bind_eq_ok.mpr
  refine ⟨by simpa using one, ?_⟩
  apply raiseIf_bind_eq_ok.mpr
  refine ⟨?_, congrArg Except.ok self.filled_filled⟩
  rw [filled_strategy]
  exact filled_networkScope near

end Phase18TrainingConfig

theorem DatasetConfig.default_readable : DatasetConfig.Readable {} :=
  ⟨by decide, rfl⟩

theorem RuntimeConfig.default_readable : RuntimeConfig.Readable {} :=
  ⟨by decide, rfl⟩

theorem LoraConfig.default_declared : LoraConfig.Declared {} := by
  norm_num [LoraConfig.Declared]

theorem CompressionConfig.default_declared : CompressionConfig.Declared {} := by
  decide

theorem RuntimeRequirements.default_declared : RuntimeRequirements.Declared {} := by
  decide

theorem OuterOptimizerConfig.default_declared : OuterOptimizerConfig.Declared {} := by
  norm_num [OuterOptimizerConfig.Declared]

theorem DistributedTrainingConfig.default_readable :
    DistributedTrainingConfig.Declared {} ∧ DistributedTrainingConfig.PartsReadable {} :=
  ⟨by decide, CompressionConfig.default_declared, RuntimeConfig.default_readable⟩

section Ensuring

variable (S : Scalars)

theorem Phase18TrainingConfig.ensures_readable (json : Json) :
    Ensures (Phase18TrainingConfig.modelValidate S json) Phase18TrainingConfig.Readable := by
  unfold Phase18TrainingConfig.modelValidate
  iterate 16
    apply Ensures.skip
    intro _
  refine Ensures.bind (Ensures.field (RuntimeRequirements.ensures_declared S)
    RuntimeRequirements.default_declared) ?_
  intro requirements requirementsDeclared
  refine Ensures.bind (Ensures.field (OuterOptimizerConfig.ensures_declared S)
    OuterOptimizerConfig.default_declared) ?_
  intro optimizer optimizerDeclared
  apply Ensures.bind
  · exact Placement.ensures_declared
  rintro self ⟨same, holds⟩ result validated
  obtain ⟨filled, again⟩ := Phase18TrainingConfig.validateJob_again validated
  have requirementsSame : self.runtimeRequirements = requirements := by rw [same]
  have optimizerSame : self.outerOptimizer = optimizer := by rw [same]
  rw [filled] at again ⊢
  refine ⟨filled_declared holds, filled_requirements ?_, ?_, again⟩
  · rw [requirementsSame]
    exact requirementsDeclared
  · rw [filled_outerOptimizer, optimizerSame]
    exact optimizerDeclared

theorem DistributedTrainingConfig.ensures_partsReadable (json : Json) :
    Ensures (DistributedTrainingConfig.modelValidate S json)
      (fun self => self.Declared ∧ self.PartsReadable) := by
  unfold DistributedTrainingConfig.modelValidate
  iterate 5
    apply Ensures.skip
    intro _
  refine Ensures.bind (Ensures.field (CompressionConfig.ensures_declared S)
    CompressionConfig.default_declared) ?_
  intro compression compressionDeclared
  iterate 2
    apply Ensures.skip
    intro _
  refine Ensures.bind (Ensures.field (RuntimeConfig.ensures_readable S) RuntimeConfig.default_readable) ?_
  intro runtime runtimeReadable
  apply Ensures.skip
  intro _
  apply Ensures.mono
  · exact Placement.ensures_declared
  rintro self ⟨same, holds⟩
  refine ⟨holds, ⟨?_, ?_⟩⟩
  · rw [same]
    exact compressionDeclared
  · rw [same]
    exact runtimeReadable

theorem TrainingRunConfig.ensures_readable (json : Json) :
    Ensures (TrainingRunConfig.readFields S json)
      (fun self => self.WhollyDeclared ∧ self.PartsReadable) := by
  unfold TrainingRunConfig.readFields
  iterate 4
    apply Ensures.skip
    intro _
  refine Ensures.bind (Ensures.field (DatasetConfig.ensures_readable S) DatasetConfig.default_readable) ?_
  intro dataset datasetReadable
  iterate 16
    apply Ensures.skip
    intro _
  refine Ensures.bind (Ensures.field (LoraConfig.ensures_declared S) LoraConfig.default_declared) ?_
  intro lora loraDeclared
  refine Ensures.bind (Ensures.field (DistributedTrainingConfig.ensures_partsReadable S)
    DistributedTrainingConfig.default_readable) ?_
  rintro distributed ⟨distributedDeclared, distributedReadable⟩
  refine Ensures.bind (Ensures.field (Ensures.optional (Phase18TrainingConfig.ensures_readable S))
    (fun _ missing => nomatch missing)) ?_
  intro phase18 phase18Readable
  apply Ensures.mono
  · exact Placement.ensures_declared
  rintro self ⟨same, holds⟩
  refine ⟨⟨?_, holds⟩, ⟨?_, ?_, ?_, ?_⟩⟩
  · rw [same]
    exact distributedDeclared
  · rw [same]
    exact datasetReadable
  · rw [same]
    exact loraDeclared
  · rw [same]
    exact distributedReadable
  · rw [same]
    exact phase18Readable

end Ensuring

end Placement
end ZepGpu
