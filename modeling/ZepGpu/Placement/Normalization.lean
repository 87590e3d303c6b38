import ZepGpu.Placement.ConfigRoundTrip
import ZepGpu.Placement.PublicForm

namespace ZepGpu
namespace Placement

open Foundation

/-!
# Validating a stored configuration again

Validating what was stored repeats the validators on their own result.  The
fields that follow the training job are as they were, and so are the steps.
Two things can go wrong: a copied field is outside of its declaration, or a
smoke run has capped its checkpoint interval before it capped its rounds.
-/

namespace TrainingRunConfig

variable {self base config : TrainingRunConfig}

/-! ## Agreement with the training job -/

/-- The fields say what the training job says. -/
structure FollowsJob (config : TrainingRunConfig) (job : Phase18TrainingConfig) : Prop where
  version : config.schemaVersion = 3
  enabled : config.distributed.enabled = true
  workers : config.distributed.workerCount = job.requestedNodeCount
  steps : config.distributed.localStepsPerRound = job.dilocoH
  startup : config.startupTimeoutSeconds = job.startupTimeoutSeconds
  half : ¬ (config.precision = .fp16 ∧ job.runtimeRequirements.requiresCuda = false)
  quantized : ¬ (config.adapterMode = .qlora ∧ job.runtimeRequirements.requiresCuda = false)

/-- The fields of a configuration without a training job. -/
structure StandsAlone (config : TrainingRunConfig) : Prop where
  version : config.schemaVersion ≠ 3
  workers : ¬ (config.distributed.enabled = true ∧ config.distributed.workerCount ≠ 2)
  raised : ¬ (config.distributed.enabled = true ∧ config.schemaVersion < 2)

/-- The validators up to the counting of the steps leave the configuration
alone. -/
structure Agreed (config : TrainingRunConfig) : Prop where
  loading : config.loadIn4bit = decide (config.adapterMode = .qlora)
  job : ∀ job, config.phase18 = some job -> config.FollowsJob job
  alone : config.phase18 = none -> config.StandsAlone

theorem Agreed.impliedBase_eq_self (agreed : config.Agreed) : config.impliedBase = config := by
  apply if_neg
  rintro ⟨quantized, unloaded⟩
  rw [agreed.loading, decide_eq_true quantized] at unloaded
  cases unloaded

theorem FollowsJob.copied_eq_self {job : Phase18TrainingConfig} (follows : config.FollowsJob job) :
    config.copied job = config := by
  rw [copied, ← follows.workers, ← follows.steps, ← follows.startup, ← follows.enabled,
    ← follows.version]

theorem Agreed.applyPhase18_eq_self (agreed : config.Agreed) :
    config.applyPhase18 = .ok config := by
  unfold applyPhase18
  split
  next job present =>
      have follows := agreed.job job present
      apply raiseIf_bind_eq_ok.mpr
      refine ⟨follows.half, ?_⟩
      apply raiseIf_bind_eq_ok.mpr
      exact ⟨follows.quantized, congrArg Except.ok follows.copied_eq_self⟩
  next absent =>
      have alone := agreed.alone absent
      apply raiseIf_bind_eq_ok.mpr
      refine ⟨alone.version, ?_⟩
      apply raiseIf_bind_eq_ok.mpr
      exact ⟨alone.workers, if_neg alone.raised⟩

theorem Agreed.validateQuantization (agreed : config.Agreed) :
    config.validateQuantization = .ok config.countSteps.applySmoke := by
  unfold TrainingRunConfig.validateQuantization
  rw [agreed.impliedBase_eq_self]
  apply raiseIf_bind_eq_ok.mpr
  constructor
  · rintro ⟨loaded, other⟩
    rw [agreed.loading] at loaded
    exact other (of_decide_eq_true loaded)
  · rw [agreed.applyPhase18_eq_self]
    rfl

theorem impliedBase_eq (self : TrainingRunConfig) :
    self.impliedBase =
      { self with loadIn4bit := self.loadIn4bit || decide (self.adapterMode = .qlora) } := by
  unfold impliedBase
  cases loaded : self.loadIn4bit with
  | true =>
    rw [if_neg (fun both => Bool.noConfusion both.2), Bool.true_or, ← loaded]
  | false =>
    by_cases quantized : self.adapterMode = .qlora
    · rw [if_pos ⟨quantized, rfl⟩, Bool.false_or, decide_eq_true quantized]
    · rw [if_neg (fun both => quantized both.1), Bool.false_or, decide_eq_false quantized, ← loaded]

/-- The fields after the validators up to the counting of the steps. -/
def settled (self : TrainingRunConfig) : TrainingRunConfig :=
  match self.phase18 with
  | some job => self.impliedBase.copied job
  | none =>
    if self.distributed.enabled = true ∧ self.schemaVersion < 2 then
      { self.impliedBase with schemaVersion := 2 }
    else self.impliedBase

theorem impliedBase_loading
    (loading : ¬ (self.impliedBase.loadIn4bit = true ∧ self.impliedBase.adapterMode ≠ .qlora)) :
    self.impliedBase.loadIn4bit = decide (self.impliedBase.adapterMode = .qlora) := by
  rw [impliedBase_eq] at loading ⊢
  by_cases quantized : self.adapterMode = .qlora
  · simp [quantized]
  · simpa [quantized] using loading

theorem settled_agreed_of_job {job : Phase18TrainingConfig} (present : self.phase18 = some job)
    (loading : ¬ (self.impliedBase.loadIn4bit = true ∧ self.impliedBase.adapterMode ≠ .qlora))
    (half : ¬ (self.precision = .fp16 ∧ job.runtimeRequirements.requiresCuda = false))
    (quantized : ¬ (self.adapterMode = .qlora ∧ job.runtimeRequirements.requiresCuda = false)) :
    (self.impliedBase.copied job).Agreed := by
  have loaded := impliedBase_loading loading
  rw [impliedBase_eq] at loaded ⊢
  refine ⟨loaded, ?_, ?_⟩
  · intro other found
    cases Option.some.inj (present.symm.trans found)
    exact ⟨rfl, rfl, rfl, rfl, rfl, half, quantized⟩
  · intro absent
    cases present.symm.trans absent

theorem settled_agreed_of_none (absent : self.phase18 = none)
    (loading : ¬ (self.impliedBase.loadIn4bit = true ∧ self.impliedBase.adapterMode ≠ .qlora))
    (old : self.schemaVersion ≠ 3)
    (two : ¬ (self.distributed.enabled = true ∧ self.distributed.workerCount ≠ 2)) :
    self.settled.Agreed := by
  have loaded := impliedBase_loading loading
  rw [settled, absent]
  rw [impliedBase_eq] at loaded ⊢
  by_cases first : self.distributed.enabled = true ∧ self.schemaVersion < 2
  · rw [if_pos first]
    refine ⟨loaded, ?_, ?_⟩
    · intro job present
      cases absent.symm.trans present
    · intro _
      have second : (2 : Nat) ≠ 3 := by decide
      exact ⟨second, two, fun both => Nat.lt_irrefl 2 both.2⟩
  · rw [if_neg first]
    refine ⟨loaded, ?_, ?_⟩
    · intro job present
      cases absent.symm.trans present
    · intro _
      exact ⟨old, two, first⟩

theorem validateQuantization_eq (validated : self.validateQuantization = .ok config) :
    config = self.settled.countSteps.applySmoke ∧ self.settled.Agreed := by
  obtain ⟨loading, rest⟩ := raiseIf_bind_eq_ok.mp validated
  obtain ⟨base, applied, same⟩ := bind_eq_ok.mp rest
  cases Except.ok.inj same
  have phase18 : self.impliedBase.phase18 = self.phase18 := by
    rw [impliedBase_eq]
  have adapter : self.impliedBase.adapterMode = self.adapterMode := by
    rw [impliedBase_eq]
  have precision : self.impliedBase.precision = self.precision := by
    rw [impliedBase_eq]
  have version : self.impliedBase.schemaVersion = self.schemaVersion := by
    rw [impliedBase_eq]
  have distributed : self.impliedBase.distributed = self.distributed := by
    rw [impliedBase_eq]
  unfold applyPhase18 at applied
  split at applied
  next job found =>
      have present : self.phase18 = some job := phase18 ▸ found
      obtain ⟨half, rest⟩ := raiseIf_bind_eq_ok.mp applied
      obtain ⟨quantized, same⟩ := raiseIf_bind_eq_ok.mp rest
      have settledSame : self.settled = self.impliedBase.copied job := by
        rw [settled, present]
      rw [precision] at half
      rw [adapter] at quantized
      rw [← Except.ok.inj same, settledSame]
      exact ⟨rfl, settled_agreed_of_job present loading half quantized⟩
  next missing =>
      have absent : self.phase18 = none := phase18 ▸ missing
      obtain ⟨old, rest⟩ := raiseIf_bind_eq_ok.mp applied
      obtain ⟨two, same⟩ := raiseIf_bind_eq_ok.mp rest
      have settledSame : self.settled = base := by
        rw [settled, absent, ← distributed, ← version]
        split at same
        next first => exact (if_pos first).trans (Except.ok.inj same)
        next other => exact (if_neg other).trans (Except.ok.inj same)
      rw [version] at old
      rw [distributed] at two
      rw [← settledSame]
      exact ⟨rfl, settled_agreed_of_none absent loading old two⟩

/-! ## Counting the steps again -/

theorem Agreed.countSteps (agreed : config.Agreed) : config.countSteps.Agreed := by
  unfold TrainingRunConfig.countSteps
  split_ifs
  · exact ⟨agreed.loading,
      fun job present => { agreed.job job present with },
      fun absent => { agreed.alone absent with }⟩
  · exact agreed

theorem Agreed.capSteps (agreed : config.Agreed) : config.capSteps.Agreed :=
  ⟨agreed.loading, fun job present => { agreed.job job present with },
    fun absent => { agreed.alone absent with }⟩

theorem Agreed.capRounds (agreed : config.Agreed) : config.capRounds.Agreed := by
  unfold TrainingRunConfig.capRounds
  split_ifs with enabled
  · refine ⟨agreed.loading, ?_, ?_⟩
    · intro job present
      obtain ⟨whole, found, same⟩ := Option.map_eq_some_iff.mp present
      have follows := agreed.job whole found
      cases same
      exact { follows with steps := rfl }
    · intro absent
      exact { agreed.alone (Option.map_eq_none_iff.mp absent) with }
  · exact agreed

theorem Agreed.markTransposed (agreed : config.Agreed) : config.markTransposed.Agreed := by
  unfold TrainingRunConfig.markTransposed
  split_ifs
  · exact ⟨agreed.loading,
      fun job present => { agreed.job job present with },
      fun absent => { agreed.alone absent with }⟩
  · exact agreed

theorem Agreed.applySmoke (agreed : config.Agreed) : config.applySmoke.Agreed := by
  unfold TrainingRunConfig.applySmoke
  split_ifs
  · exact agreed.capSteps.capRounds.markTransposed
  · exact agreed

theorem Agreed.withoutEnvironment (agreed : config.Agreed) : config.withoutEnvironment.Agreed :=
  ⟨agreed.loading, fun job present => { agreed.job job present with },
    fun absent => { agreed.alone absent with }⟩

/-- The steps are counted and the limits of a smoke run are kept. -/
structure Limited (config : TrainingRunConfig) : Prop where
  counted : config.distributed.enabled = true ->
    config.maxSteps = config.distributed.localStepsPerRound * config.distributed.maxRounds
  sequence : config.smokeRun = true -> config.sequenceLength ≤ 64
  steps : config.smokeRun = true -> config.maxSteps ≤ 2
  rounds : config.smokeRun = true -> config.distributed.enabled = true ->
    config.distributed.maxRounds ≤ 2
  stepsPerRound : config.smokeRun = true -> config.distributed.enabled = true ->
    config.distributed.localStepsPerRound ≤ 1
  transposed : config.smokeRun = true ->
    occursIn "gpt2".toList (lower config.modelName) = true -> config.lora.fanInFanOut = true

theorem Limited.countSteps_eq_self (limited : config.Limited) : config.countSteps = config := by
  unfold TrainingRunConfig.countSteps
  split_ifs with enabled
  · rw [← limited.counted enabled]
  · rfl

theorem Limited.markTransposed_eq_self (limited : config.Limited) (smoke : config.smokeRun = true) :
    config.markTransposed = config := by
  unfold TrainingRunConfig.markTransposed
  split_ifs with named
  · rw [← limited.transposed smoke named]
  · rfl

theorem Limited.capRounds_eq_self (limited : config.Limited) (agreed : config.Agreed)
    (smoke : config.smokeRun = true) : config.capRounds = config := by
  unfold TrainingRunConfig.capRounds
  split_ifs with enabled
  · have jobs : (config.phase18.map fun job =>
        { job with dilocoH := config.distributed.localStepsPerRound }) = config.phase18 := by
      cases present : config.phase18 with
      | none => rfl
      | some job => rw [Option.map_some, (agreed.job job present).steps]
    rw [min_eq_left (limited.rounds smoke enabled), min_eq_left (limited.stepsPerRound smoke enabled),
      jobs, ← limited.counted enabled]
  · rfl

theorem Limited.capSteps_eq (limited : config.Limited) (smoke : config.smokeRun = true) :
    config.capSteps =
      { config with checkpointEverySteps := min config.checkpointEverySteps config.maxSteps } := by
  rw [TrainingRunConfig.capSteps, min_eq_left (limited.steps smoke),
    min_eq_left (limited.sequence smoke)]

theorem Limited.applySmoke_eq (limited : config.Limited) (agreed : config.Agreed) :
    config.countSteps.applySmoke =
      { config with
        checkpointEverySteps :=
          if config.smokeRun = true then min config.checkpointEverySteps config.maxSteps
          else config.checkpointEverySteps } := by
  rw [limited.countSteps_eq_self]
  unfold TrainingRunConfig.applySmoke
  split_ifs with smoke
  · have again : Limited { config with
        checkpointEverySteps := min config.checkpointEverySteps config.maxSteps } :=
      { limited with }
    rw [limited.capSteps_eq smoke, again.capRounds_eq_self _ smoke, again.markTransposed_eq_self smoke]
    exact ⟨agreed.loading, fun job present => { agreed.job job present with },
      fun absent => { agreed.alone absent with }⟩
  · rfl

theorem Limited.withoutEnvironment (limited : config.Limited) : config.withoutEnvironment.Limited :=
  { limited with }

theorem limited_markTransposed
    (counted : config.distributed.enabled = true ->
      config.maxSteps = config.distributed.localStepsPerRound * config.distributed.maxRounds)
    (sequence : config.sequenceLength ≤ 64) (steps : config.maxSteps ≤ 2)
    (rounds : config.distributed.enabled = true -> config.distributed.maxRounds ≤ 2)
    (stepsPerRound : config.distributed.enabled = true -> config.distributed.localStepsPerRound ≤ 1) :
    config.markTransposed.Limited := by
  unfold markTransposed
  split_ifs with named
  · exact ⟨counted, fun _ => sequence, fun _ => steps, fun _ => rounds, fun _ => stepsPerRound,
      fun _ _ => rfl⟩
  · exact ⟨counted, fun _ => sequence, fun _ => steps, fun _ => rounds, fun _ => stepsPerRound,
      fun _ other => absurd other named⟩

theorem limited_capRounds (config : TrainingRunConfig) :
    config.capSteps.capRounds.markTransposed.Limited := by
  have sequence : config.capSteps.sequenceLength ≤ 64 := min_le_right _ _
  have steps : config.capSteps.maxSteps ≤ 2 := min_le_right _ _
  unfold capRounds
  split_ifs with enabled
  · apply limited_markTransposed
    · exact fun _ => rfl
    · exact sequence
    · exact Nat.mul_le_mul (min_le_right _ 1) (min_le_right _ 2)
    · exact fun _ => min_le_right _ _
    · exact fun _ => min_le_right _ _
  · apply limited_markTransposed
    · exact fun other => absurd other enabled
    · exact sequence
    · exact steps
    · exact fun other => absurd other enabled
    · exact fun other => absurd other enabled

theorem limited_applySmoke (base : TrainingRunConfig) : base.countSteps.applySmoke.Limited := by
  unfold applySmoke
  split_ifs with smoke
  · exact limited_capRounds base.countSteps
  · refine ⟨?_, fun other => absurd other smoke, fun other => absurd other smoke,
      fun other => absurd other smoke, fun other => absurd other smoke,
      fun other => absurd other smoke⟩
    intro enabled
    unfold countSteps at enabled ⊢
    split_ifs at enabled ⊢ with counted
    · rfl
    · exact absurd enabled counted

/-! ## What the validators write -/

section Written

variable (self)

theorem final_startup :
    self.countSteps.applySmoke.startupTimeoutSeconds = self.startupTimeoutSeconds := by
  unfold applySmoke markTransposed capRounds capSteps countSteps
  split_ifs <;> rfl

theorem final_smoke : self.countSteps.applySmoke.smokeRun = self.smokeRun := by
  unfold applySmoke markTransposed capRounds capSteps countSteps
  split_ifs <;> rfl

theorem final_stepsPerRound :
    self.countSteps.applySmoke.distributed.localStepsPerRound =
      if self.smokeRun = true ∧ self.distributed.enabled = true then
        min self.distributed.localStepsPerRound 1
      else self.distributed.localStepsPerRound := by
  unfold applySmoke markTransposed capRounds capSteps countSteps
  split_ifs <;> simp_all

theorem final_checkpoint (smoke : self.smokeRun = true) :
    self.countSteps.applySmoke.checkpointEverySteps =
      min self.checkpointEverySteps
        (min (if self.distributed.enabled = true then
          self.distributed.localStepsPerRound * self.distributed.maxRounds else self.maxSteps) 2) := by
  unfold applySmoke markTransposed capRounds capSteps countSteps
  split_ifs <;> simp_all

theorem final_steps (smoke : self.smokeRun = true) :
    self.countSteps.applySmoke.maxSteps =
      if self.distributed.enabled = true then
        min self.distributed.localStepsPerRound 1 * min self.distributed.maxRounds 2
      else min self.maxSteps 2 := by
  unfold applySmoke markTransposed capRounds capSteps countSteps
  split_ifs <;> simp_all

end Written

/-- The declarations that no validator violates. -/
structure AlmostDeclared (config : TrainingRunConfig) : Prop where
  workers : 1 ≤ config.distributed.workerCount ∧ config.distributed.workerCount ≤ 256
  stepsPerRound : 1 ≤ config.distributed.localStepsPerRound
  rounds : 1 ≤ config.distributed.maxRounds ∧ config.distributed.maxRounds ≤ 10000
  offset : config.distributed.workerSeedOffset ≤ 1000000
  version : config.schemaVersion = 1 ∨ config.schemaVersion = 2 ∨ config.schemaVersion = 3
  runName : 1 ≤ config.runName.length ∧ config.runName.length ≤ 128
  modelName : 1 ≤ config.modelName.length ∧ config.modelName.length ≤ 1024
  device : deviceMatches config.device
  sequence : 8 ≤ config.sequenceLength ∧ config.sequenceLength ≤ 32768
  batch : 1 ≤ config.batchSize
  accumulation : 1 ≤ config.gradientAccumulationSteps
  rate : 0 < config.learningRate
  steps : 1 ≤ config.maxSteps
  checkpoint : 1 ≤ config.checkpointEverySteps
  startup : config.startupTimeoutSeconds ≤ 86400

theorem AlmostDeclared.whollyDeclared_iff (almost : config.AlmostDeclared) :
    config.WhollyDeclared ↔
      config.distributed.localStepsPerRound ≤ 10000 ∧ 10 ≤ config.startupTimeoutSeconds := by
  constructor
  · rintro ⟨⟨_, steps, _⟩, _, _, _, _, _, _, _, _, _, _, startup⟩
    exact ⟨steps.2, startup.1⟩
  · rintro ⟨steps, startup⟩
    exact ⟨⟨almost.workers, ⟨almost.stepsPerRound, steps⟩, almost.rounds, almost.offset⟩,
      almost.version, almost.runName, almost.modelName, almost.device, almost.sequence,
      almost.batch, almost.accumulation, almost.rate, almost.steps, almost.checkpoint, startup,
      almost.startup⟩

theorem WhollyDeclared.almostDeclared (whole : config.WhollyDeclared) : config.AlmostDeclared := by
  obtain ⟨⟨workers, steps, rounds, offset⟩, version, runName, modelName, device, sequence, batch,
    accumulation, rate, maxSteps, checkpoint, startup⟩ := whole
  exact ⟨workers, steps.1, rounds, offset, version, runName, modelName, device, sequence, batch,
    accumulation, rate, maxSteps, checkpoint, startup.2⟩

theorem AlmostDeclared.countSteps (almost : config.AlmostDeclared) :
    config.countSteps.AlmostDeclared := by
  unfold TrainingRunConfig.countSteps
  split_ifs
  · exact { almost with steps := Nat.mul_pos almost.stepsPerRound almost.rounds.1 }
  · exact almost

theorem AlmostDeclared.capSteps (almost : config.AlmostDeclared) : config.capSteps.AlmostDeclared := by
  have steps : 1 ≤ min config.maxSteps 2 := le_min almost.steps (by decide)
  exact { almost with
    steps := steps
    checkpoint := le_min almost.checkpoint steps
    sequence := ⟨le_min almost.sequence.1 (by decide), (min_le_left _ _).trans almost.sequence.2⟩ }

theorem AlmostDeclared.capRounds (almost : config.AlmostDeclared) :
    config.capRounds.AlmostDeclared := by
  unfold TrainingRunConfig.capRounds
  split_ifs
  · have steps : 1 ≤ min config.distributed.localStepsPerRound 1 :=
      le_min almost.stepsPerRound (le_refl 1)
    have rounds : 1 ≤ min config.distributed.maxRounds 2 := le_min almost.rounds.1 (by decide)
    exact { almost with
      stepsPerRound := steps
      rounds := ⟨rounds, (min_le_left _ _).trans almost.rounds.2⟩
      steps := Nat.mul_pos steps rounds }
  · exact almost

theorem AlmostDeclared.applySmoke (almost : config.AlmostDeclared) :
    config.applySmoke.AlmostDeclared := by
  unfold TrainingRunConfig.applySmoke
  split_ifs
  · unfold TrainingRunConfig.markTransposed
    split_ifs
    · exact { almost.capSteps.capRounds with }
    · exact almost.capSteps.capRounds
  · exact almost

theorem impliedBase_almostDeclared (almost : self.AlmostDeclared) :
    self.impliedBase.AlmostDeclared := by
  rw [impliedBase_eq]
  exact { almost with }

theorem settled_almostDeclared (whole : self.WhollyDeclared)
    (jobs : ∀ job, self.phase18 = some job -> job.Readable) : self.settled.AlmostDeclared := by
  have base := impliedBase_almostDeclared whole.almostDeclared
  unfold settled
  split
  next job present =>
      have declared := (jobs job present).declared
      exact { base with
        workers := declared.1
        stepsPerRound := declared.2.2.2.2.1.1
        version := Or.inr (Or.inr rfl)
        startup := declared.2.2.2.2.2.2.2.2.1.2 }
  next absent =>
      split_ifs
      · exact { base with version := Or.inr (Or.inl rfl) }
      · exact base

end TrainingRunConfig

/-! ## The parts stay readable -/

theorem Phase18TrainingConfig.filled_dilocoH (job : Phase18TrainingConfig) (steps : Nat) :
    Phase18TrainingConfig.filled { job with dilocoH := steps } =
      { job.filled with dilocoH := steps } := by
  unfold filled
  split_ifs <;> rfl

theorem Phase18TrainingConfig.Readable.dilocoH {job : Phase18TrainingConfig} (readable : job.Readable)
    {steps : Nat} (some : 1 ≤ steps) (few : steps ≤ 1000000) :
    Phase18TrainingConfig.Readable { job with dilocoH := steps } := by
  have declared := readable.declared
  have validated := readable.validated
  refine ⟨?_, readable.runtimeRequirements, readable.outerOptimizer, ?_⟩
  · exact ⟨declared.1, declared.2.1, declared.2.2.1, declared.2.2.2.1, ⟨some, few⟩,
      declared.2.2.2.2.2⟩
  · obtain ⟨total, rest⟩ := raiseIf_bind_eq_ok.mp validated
    obtain ⟨many, rest⟩ := raiseIf_bind_eq_ok.mp rest
    obtain ⟨alone, rest⟩ := raiseIf_bind_eq_ok.mp rest
    obtain ⟨one, rest⟩ := raiseIf_bind_eq_ok.mp rest
    obtain ⟨near, same⟩ := raiseIf_bind_eq_ok.mp rest
    apply raiseIf_bind_eq_ok.mpr
    refine ⟨total, ?_⟩
    apply raiseIf_bind_eq_ok.mpr
    refine ⟨many, ?_⟩
    apply raiseIf_bind_eq_ok.mpr
    refine ⟨alone, ?_⟩
    apply raiseIf_bind_eq_ok.mpr
    refine ⟨one, ?_⟩
    apply raiseIf_bind_eq_ok.mpr
    refine ⟨near, ?_⟩
    rw [filled_dilocoH, Except.ok.inj same]

namespace TrainingRunConfig

variable {self config : TrainingRunConfig}

theorem PartsReadable.settled (readable : self.PartsReadable) : self.settled.PartsReadable := by
  have base : self.impliedBase.PartsReadable := by
    rw [impliedBase_eq]
    exact { readable with }
  unfold TrainingRunConfig.settled
  split
  · exact { base with distributed := { base.distributed with } }
  · split_ifs
    · exact { base with }
    · exact base

theorem PartsReadable.countSteps (readable : config.PartsReadable) :
    config.countSteps.PartsReadable := by
  unfold TrainingRunConfig.countSteps
  split_ifs
  · exact { readable with }
  · exact readable

theorem PartsReadable.capRounds (readable : config.PartsReadable)
    (some : 1 ≤ config.distributed.localStepsPerRound) : config.capRounds.PartsReadable := by
  unfold TrainingRunConfig.capRounds
  split_ifs
  · refine ⟨readable.dataset, readable.lora, { readable.distributed with }, ?_⟩
    intro job present
    obtain ⟨whole, found, same⟩ := Option.map_eq_some_iff.mp present
    cases same
    have few : min config.distributed.localStepsPerRound 1 ≤ 1 := min_le_right _ _
    exact (readable.phase18 whole found).dilocoH (le_min some (le_refl 1)) (few.trans (by decide))
  · exact readable

theorem PartsReadable.applySmoke (readable : config.PartsReadable)
    (some : 1 ≤ config.distributed.localStepsPerRound) : config.applySmoke.PartsReadable := by
  have capped : config.capSteps.PartsReadable := { readable with }
  unfold TrainingRunConfig.applySmoke
  split_ifs
  · unfold TrainingRunConfig.markTransposed
    split_ifs
    · exact { capped.capRounds some with lora := (capped.capRounds some).lora }
    · exact capped.capRounds some
  · exact readable

theorem PartsReadable.withoutEnvironment (readable : config.PartsReadable) :
    config.withoutEnvironment.PartsReadable := by
  obtain ⟨declared, secure⟩ := readable.distributed.runtime
  obtain ⟨plain, _⟩ := raiseIf_bind_eq_ok.mp secure
  have kept : RuntimeConfig.Readable { config.distributed.runtime with environment := [] } :=
    ⟨declared, raiseIf_bind_eq_ok.mpr ⟨plain, rfl⟩⟩
  exact { readable with distributed := { readable.distributed with runtime := kept } }

theorem partsReadable_of_modelValidate {S : Scalars} {json : Json}
    (accepted : TrainingRunConfig.modelValidate S json = .ok config) : config.PartsReadable := by
  obtain ⟨raw, read, validated⟩ := bind_eq_ok.mp accepted
  obtain ⟨whole, readable⟩ := TrainingRunConfig.ensures_readable S json raw read
  obtain ⟨rfl, _⟩ := validateQuantization_eq validated
  have almost := settled_almostDeclared whole readable.phase18
  exact readable.settled.countSteps.applySmoke almost.countSteps.stepsPerRound

/-! ## Which configurations keep their meaning -/

/-- What was stored is accepted again and means what was submitted. -/
def KeepsMeaning (S : Scalars) (config : TrainingRunConfig) : Prop :=
  TrainingRunConfig.modelValidate S config.toPublicDict = .ok config.withoutEnvironment ∧
    (config.smokeRun = true -> config.checkpointEverySteps ≤ config.maxSteps)

def stepsOfRound (raw : TrainingRunConfig) : Nat :=
  raw.phase18.elim raw.distributed.localStepsPerRound Phase18TrainingConfig.dilocoH

/-- On the fields as they were read: what is copied from the training job is
within the bounds of the field that it is copied to, and a smoke run of a single
round has no checkpoint interval that its first cap leaves at two. -/
structure Renewable (raw : TrainingRunConfig) : Prop where
  startup : ∀ job, raw.phase18 = some job -> 10 ≤ job.startupTimeoutSeconds
  steps : ∀ job, raw.phase18 = some job -> raw.smokeRun = true ∨ job.dilocoH ≤ 10000
  checkpoint : ¬ (raw.smokeRun = true ∧
    (raw.distributed.enabled = true ∨ raw.phase18.isSome = true) ∧
    raw.distributed.maxRounds = 1 ∧ 2 ≤ raw.stepsOfRound ∧ 2 ≤ raw.checkpointEverySteps)

theorem settled_of_job {raw : TrainingRunConfig} {job : Phase18TrainingConfig}
    (present : raw.phase18 = some job) : raw.settled = raw.impliedBase.copied job := by
  rw [settled, present]

theorem settled_facts (raw : TrainingRunConfig) :
    raw.settled.smokeRun = raw.smokeRun ∧
      raw.settled.checkpointEverySteps = raw.checkpointEverySteps ∧
      raw.settled.distributed.maxRounds = raw.distributed.maxRounds ∧
      raw.settled.distributed.localStepsPerRound = raw.stepsOfRound ∧
      (raw.settled.distributed.enabled = true ↔
        raw.distributed.enabled = true ∨ raw.phase18.isSome = true) := by
  unfold settled stepsOfRound
  rw [impliedBase_eq]
  cases present : raw.phase18 with
  | some job => simp [copied]
  | none => split_ifs <;> simp

/-- What is stored is within its declared bounds when the values that are copied from
the training job are. -/
theorem declared_iff {raw : TrainingRunConfig} (whole : raw.WhollyDeclared)
    (readable : raw.PartsReadable) :
    raw.settled.countSteps.applySmoke.WhollyDeclared ↔
      (∀ job, raw.phase18 = some job -> 10 ≤ job.startupTimeoutSeconds) ∧
        ∀ job, raw.phase18 = some job -> raw.smokeRun = true ∨ job.dilocoH ≤ 10000 := by
  have almost := settled_almostDeclared whole readable.phase18
  rw [almost.countSteps.applySmoke.whollyDeclared_iff, final_startup, final_stepsPerRound]
  obtain ⟨smoke, _, _, steps, enabled⟩ := settled_facts raw
  rw [smoke, steps]
  obtain ⟨⟨_, rawSteps, _⟩, _, _, _, _, _, _, _, _, _, _, rawStartup⟩ := whole
  cases present : raw.phase18 with
  | some job =>
    have startup : raw.settled.startupTimeoutSeconds = job.startupTimeoutSeconds := by
      rw [settled_of_job present]
      rfl
    have count : raw.stepsOfRound = job.dilocoH := by
      rw [stepsOfRound, present]
      rfl
    have spread : raw.settled.distributed.enabled = true := by
      apply enabled.mpr
      rw [present]
      exact Or.inr rfl
    rw [startup, count]
    by_cases capped : raw.smokeRun = true
    · have few : min job.dilocoH 1 ≤ 10000 := (min_le_right _ _).trans (by decide)
      simp [capped, spread, few]
    · simp [capped, and_comm]
  | none =>
    have startup : raw.settled.startupTimeoutSeconds = raw.startupTimeoutSeconds := by
      rw [settled, present, impliedBase_eq]
      split_ifs <;> rfl
    have count : raw.stepsOfRound = raw.distributed.localStepsPerRound := by
      rw [stepsOfRound, present]
      rfl
    rw [startup, count]
    have few : (if raw.smokeRun = true ∧ raw.settled.distributed.enabled = true then
          min raw.distributed.localStepsPerRound 1
        else raw.distributed.localStepsPerRound) ≤ 10000 := by
      split_ifs
      · exact (min_le_left _ _).trans rawSteps.2
      · exact rawSteps.2
    simp [few, rawStartup.1]

/-- The interval of checkpoints of a smoke run is at most its steps, unless the first
cap lets two steps pass and the single round then has one. -/
theorem checkpoint_iff {raw : TrainingRunConfig} (whole : raw.WhollyDeclared)
    (readable : raw.PartsReadable) :
    (raw.smokeRun = true ->
      raw.settled.countSteps.applySmoke.checkpointEverySteps ≤
        raw.settled.countSteps.applySmoke.maxSteps) ↔
      ¬ (raw.smokeRun = true ∧
        (raw.distributed.enabled = true ∨ raw.phase18.isSome = true) ∧
        raw.distributed.maxRounds = 1 ∧ 2 ≤ raw.stepsOfRound ∧ 2 ≤ raw.checkpointEverySteps) := by
  have almost := settled_almostDeclared whole readable.phase18
  obtain ⟨smoke, checkpoint, rounds, steps, enabled⟩ := settled_facts raw
  have someSteps := almost.stepsPerRound
  have someRounds := almost.rounds.1
  rw [steps] at someSteps
  rw [rounds] at someRounds
  by_cases capped : raw.smokeRun = true
  · rw [← smoke] at capped
    rw [final_checkpoint _ capped, final_steps _ capped, checkpoint, rounds, steps]
    rw [smoke] at capped
    by_cases spread : raw.distributed.enabled = true ∨ raw.phase18.isSome = true
    · rw [if_pos (enabled.mpr spread), if_pos (enabled.mpr spread)]
      simp only [capped, spread, true_and, forall_const]
      rw [min_eq_right someSteps, Nat.one_mul]
      rcases eq_or_lt_of_le someRounds with single | several
      · rw [← single, Nat.mul_one]
        omega
      · have room : 2 ≤ raw.distributed.maxRounds := several
        rw [min_eq_right room]
        constructor
        · rintro _ ⟨single, _⟩
          exact absurd single (ne_of_gt several)
        · exact fun _ => (min_le_right _ _).trans (min_le_right _ _)
    · rw [if_neg (fun other => spread (enabled.mp other)),
        if_neg (fun other => spread (enabled.mp other))]
      simp [spread]
  · simp [capped]

theorem keepsMeaning_iff (S : Scalars) (agreed : config.Agreed) (limited : config.Limited)
    (readable : config.PartsReadable) :
    config.KeepsMeaning S ↔
      config.WhollyDeclared ∧
        (config.smokeRun = true -> config.checkpointEverySteps ≤ config.maxSteps) := by
  have again := agreed.withoutEnvironment.validateQuantization
  rw [limited.withoutEnvironment.applySmoke_eq agreed.withoutEnvironment] at again
  unfold KeepsMeaning TrainingRunConfig.modelValidate
  rw [toPublicDict_eq, readFields_modelDump S readable.withoutEnvironment]
  constructor
  · rintro ⟨read, kept⟩
    obtain ⟨other, passed, _⟩ := bind_eq_ok.mp read
    obtain ⟨same, holds⟩ := ensures_declared other passed
    rw [same] at holds
    exact ⟨holds, kept⟩
  · rintro ⟨holds, kept⟩
    have stored : config.withoutEnvironment.WhollyDeclared := holds
    have interval : (if config.withoutEnvironment.smokeRun = true then
          min config.withoutEnvironment.checkpointEverySteps config.withoutEnvironment.maxSteps
        else config.withoutEnvironment.checkpointEverySteps) =
          config.withoutEnvironment.checkpointEverySteps := by
      split_ifs with smoke
      · exact min_eq_left (kept smoke)
      · rfl
    rw [interval] at again
    exact ⟨by rw [declared_eq_ok stored, ok_bind, again], kept⟩

/-- A stored configuration keeps its meaning exactly when the fields it was read
from are renewable. -/
theorem keepsMeaning_iff_renewable (S : Scalars) {json : Json} {config : TrainingRunConfig}
    (accepted : TrainingRunConfig.modelValidate S json = .ok config) :
    ∃ raw, TrainingRunConfig.readFields S json = .ok raw ∧
      (config.KeepsMeaning S ↔ raw.Renewable) := by
  obtain ⟨raw, read, validated⟩ := bind_eq_ok.mp accepted
  refine ⟨raw, read, ?_⟩
  obtain ⟨whole, readable⟩ := TrainingRunConfig.ensures_readable S json raw read
  obtain ⟨rfl, agreed⟩ := validateQuantization_eq validated
  have almost := settled_almostDeclared whole readable.phase18
  rw [keepsMeaning_iff S agreed.countSteps.applySmoke (limited_applySmoke raw.settled)
    (readable.settled.countSteps.applySmoke almost.countSteps.stepsPerRound), final_smoke,
    (settled_facts raw).1, declared_iff whole readable, checkpoint_iff whole readable]
  constructor
  · rintro ⟨⟨startup, steps⟩, checkpoint⟩
    exact ⟨startup, steps, checkpoint⟩
  · rintro ⟨startup, steps, checkpoint⟩
    exact ⟨⟨startup, steps⟩, checkpoint⟩

end TrainingRunConfig

/-! ## Two submissions -/

namespace Submissions

/-- Scalar fields that take values of their own type only. -/
def exactScalars : Scalars where
  int := fun
    | .int value => .ok value
    | _ => .error .refused
  float := fun
    | .float value => .ok value
    | _ => .error .refused
  bool := fun
    | .bool value => .ok value
    | _ => .error .refused
  str := fun
    | .str value => .ok value
    | _ => .error .refused
  int_int := fun _ => rfl
  float_float := fun _ => rfl
  bool_bool := fun _ => rfl
  str_str := fun _ => rfl

def singleRound : Json :=
  .obj [("smoke_run", .bool true),
    ("distributed", .obj [("enabled", .bool true), ("max_rounds", .int 1),
      ("local_steps_per_round", .int 2)])]

def singleRoundConfig : TrainingRunConfig where
  schemaVersion := 2
  sequenceLength := 64
  maxSteps := 1
  checkpointEverySteps := 2
  smokeRun := true
  lora := { fanInFanOut := true }
  distributed := { enabled := true, maxRounds := 1, localStepsPerRound := 1 }

theorem singleRound_accepted :
    TrainingRunConfig.modelValidate exactScalars singleRound = .ok singleRoundConfig := by
  apply ok_of_toOption
  decide +kernel

/-- The stored interval of two steps is beyond the single step of the run. -/
theorem singleRound_loses_meaning :
    ¬ ∀ (S : Scalars) (json : Json) (config : TrainingRunConfig),
      TrainingRunConfig.modelValidate S json = .ok config -> config.KeepsMeaning S := by
  intro always
  have kept := always exactScalars singleRound singleRoundConfig singleRound_accepted
  exact absurd (kept.2 rfl) (by decide)

/-- A smoke run that asks for more of everything than the profile allows. -/
def cappedRun : Json :=
  .obj [("smoke_run", .bool true), ("checkpoint_every_steps", .int 5), ("max_steps", .int 100),
    ("distributed", .obj [("enabled", .bool true), ("max_rounds", .int 4),
      ("local_steps_per_round", .int 3)])]

def cappedRunRaw : TrainingRunConfig where
  maxSteps := 100
  checkpointEverySteps := 5
  smokeRun := true
  distributed := { enabled := true, maxRounds := 4, localStepsPerRound := 3 }

def cappedRunConfig : TrainingRunConfig where
  schemaVersion := 2
  sequenceLength := 64
  maxSteps := 2
  checkpointEverySteps := 2
  smokeRun := true
  lora := { fanInFanOut := true }
  distributed := { enabled := true, maxRounds := 2, localStepsPerRound := 1 }

theorem cappedRun_read :
    TrainingRunConfig.readFields exactScalars cappedRun = .ok cappedRunRaw := by
  apply ok_of_toOption
  decide +kernel

theorem cappedRun_accepted :
    TrainingRunConfig.modelValidate exactScalars cappedRun = .ok cappedRunConfig := by
  apply ok_of_toOption
  decide +kernel

/-- The steps, the rounds and the checkpoint interval are all rewritten, and what is
stored is a fixed point. -/
theorem cappedRun_keepsMeaning : cappedRunConfig.KeepsMeaning exactScalars := by
  obtain ⟨raw, read, same⟩ := TrainingRunConfig.keepsMeaning_iff_renewable exactScalars
    cappedRun_accepted
  rw [cappedRun_read] at read
  cases read
  refine same.mpr ⟨?_, ?_, ?_⟩
  · intro job absent
    cases absent
  · intro job absent
    cases absent
  · rintro ⟨-, -, single, -⟩
    exact absurd single (by decide)

end Submissions

end Placement
end ZepGpu
