import ZepGpu.Foundation.FailureAtomicity
import ZepGpu.Training.Rounds

namespace ZepGpu
namespace Training

open Foundation OuterOptimizer Outcome

/-!
# A restore that stops half way

A checkpoint is restored part by part, and each part is read right before it is
assigned.  When a part cannot be read, the parts before it stay replaced: the
tensors of the checkpoint may end up beside the optimizer and the round of the
coordinator.
-/

variable {N : Numpy}

/-- `state.get("kind") != self.config.kind.value` -/
def OuterOptimizer.checkKind (optimizer : OuterOptimizer N) (state : Json) :
    Except TrainingError Unit :=
  match state.get? "kind" with
  | some (.str kind) =>
    raiseIf (kind ≠ optimizer.config.kind.value)
      (.diLoCoError "outer optimizer kind does not match checkpoint")
  | _ => .error (.diLoCoError "outer optimizer kind does not match checkpoint")

/-- `int(state.get("step_count", 0))` -/
def savedStepCount (state : Json) : Except TrainingError Int :=
  intOfJson ((state.get? "step_count").getD (.int 0))

/-- `_arrays_from_json(state.get(key, {}))` -/
def savedArrays (N : Numpy) (state : Json) (key : String) : Except TrainingError (Tensors N) :=
  arraysFromJson N ((state.get? key).getD (.obj []))

/-- `load_state_dict`, with the optimizer it leaves behind when it raises -/
def OuterOptimizer.loadInPlace (optimizer : OuterOptimizer N) (state : Json) :
    Outcome (OuterOptimizer N) TrainingError Unit :=
  Outcome.andThen ⟨optimizer.checkKind state, optimizer⟩ fun _ optimizer =>
  Outcome.andThen ⟨savedStepCount state, optimizer⟩ fun stepCount optimizer =>
  Outcome.andThen ⟨savedArrays N state "velocity", { optimizer with stepCount }⟩
    fun velocity optimizer =>
  Outcome.andThen ⟨savedArrays N state "first_moment", { optimizer with velocity }⟩
    fun firstMoment optimizer =>
  Outcome.andThen ⟨savedArrays N state "second_moment", { optimizer with firstMoment }⟩
    fun secondMoment optimizer =>
  ⟨.ok (), { optimizer with secondMoment }⟩

namespace Coordinator

variable (c : Coordinator N)

/-- `self.outer_optimizer.load_state_dict(state)` -/
def loadOptimizer (state : Json) : Outcome (Coordinator N) TrainingError Unit :=
  ⟨(c.outerOptimizer.loadInPlace state).result,
    { c with outerOptimizer := (c.outerOptimizer.loadInPlace state).state }⟩

/-- `restore_checkpoint`, with the coordinator it leaves behind when it raises -/
def restoreInPlace (checkpoint : Checkpoint) : Outcome (Coordinator N) TrainingError Unit :=
  Outcome.andThen ⟨raiseIf (checkpoint.runId ≠ c.runId)
    (.diLoCoError "checkpoint belongs to a different run"), c⟩ fun _ c =>
  Outcome.andThen ⟨arraysFromJson N checkpoint.modelState, c⟩ fun globalState c =>
  (loadOptimizer { c with globalState } checkpoint.outerOptimizerState).andThen fun _ c =>
  ⟨.ok (), { c with
    currentRound := checkpoint.outerRound
    latestCheckpoint := some checkpoint
    activeRound := none
    members := c.members.adjust (fun worker (member : WorkerMembership) => { member with
      bootstrappedRound := checkpoint.outerRound
      state := if worker ∈ checkpoint.activeMembership then .active else .bootstrapping }) }⟩

end Coordinator

section Results

variable {optimizer loaded : OuterOptimizer N} {state : Json}

theorem loadStateDict_eq : optimizer.loadStateDict state =
    (optimizer.checkKind state >>= fun _ =>
      savedStepCount state >>= fun stepCount =>
      savedArrays N state "velocity" >>= fun velocity =>
      savedArrays N state "first_moment" >>= fun firstMoment =>
      savedArrays N state "second_moment" >>= fun secondMoment =>
      .ok { optimizer with stepCount, velocity, firstMoment, secondMoment }) := by
  rw [OuterOptimizer.loadStateDict, OuterOptimizer.checkKind]
  rcases state.get? "kind" with _ | (_ | _ | _ | _ | _ | _ | _)
  all_goals rfl

theorem loadInPlace_eq_ok : optimizer.loadInPlace state = ⟨.ok (), loaded⟩ ↔
    optimizer.loadStateDict state = .ok loaded := by
  rw [loadStateDict_eq, OuterOptimizer.loadInPlace]
  simp only [andThen_eq_ok, bind_eq_ok, Outcome.mk.injEq, true_and, Except.ok.injEq]

end Results

/-- What an optimizer holds, whatever the order of the names. -/
structure OptimizerContents (N : Numpy) where
  config : OuterOptimizerConfig N
  stepCount : Int
  velocity : String -> Option N.Array
  firstMoment : String -> Option N.Array
  secondMoment : String -> Option N.Array

def OuterOptimizer.contents (optimizer : OuterOptimizer N) : OptimizerContents N :=
  ⟨optimizer.config, optimizer.stepCount, optimizer.velocity.get?, optimizer.firstMoment.get?,
    optimizer.secondMoment.get?⟩

/-- What a restore overwrites. -/
structure Restorable (N : Numpy) where
  globalState : String -> Option N.Array
  outerOptimizer : OptimizerContents N
  currentRound : Int
  activeRound : Option (Round N)
  members : Dict String WorkerMembership

def Coordinator.restorable (c : Coordinator N) : Restorable N :=
  ⟨c.globalState.get?, c.outerOptimizer.contents, c.currentRound, c.activeRound, c.members⟩

def ReadsAs (read : Except TrainingError (Tensors N)) (present : Tensors N) : Prop :=
  ∃ values, read = .ok values ∧ values.get? = present.get?

/-- A part of a saved optimizer cannot be read, and the parts before it are
those that the optimizer has. -/
inductive FailsUnchanged (optimizer : OuterOptimizer N) (state : Json) : Prop
  | kind (fails : Fails (optimizer.checkKind state))
  | stepCount (fails : Fails (savedStepCount state))
  | velocity (count : savedStepCount state = .ok optimizer.stepCount)
      (fails : Fails (savedArrays N state "velocity"))
  | firstMoment (count : savedStepCount state = .ok optimizer.stepCount)
      (velocity : ReadsAs (savedArrays N state "velocity") optimizer.velocity)
      (fails : Fails (savedArrays N state "first_moment"))
  | secondMoment (count : savedStepCount state = .ok optimizer.stepCount)
      (velocity : ReadsAs (savedArrays N state "velocity") optimizer.velocity)
      (firstMoment : ReadsAs (savedArrays N state "first_moment") optimizer.firstMoment)
      (fails : Fails (savedArrays N state "second_moment"))

/-- A checkpoint is of another run, or its tensors cannot be read, or its
optimizer can be loaded, or what is read of it before the failing part is what
the coordinator has. -/
inductive RestoresWhole (c : Coordinator N) (checkpoint : Checkpoint) : Prop
  | otherRun (other : checkpoint.runId ≠ c.runId)
  | unreadable (fails : Fails (arraysFromJson N checkpoint.modelState))
  | loads (loaded : OuterOptimizer N)
      (loads : c.outerOptimizer.loadStateDict checkpoint.outerOptimizerState = .ok loaded)
  | unchanged (same : ReadsAs (arraysFromJson N checkpoint.modelState) c.globalState)
      (fails : FailsUnchanged c.outerOptimizer checkpoint.outerOptimizerState)

section Keeping

variable {optimizer : OuterOptimizer N} {state : Json}

theorem FailsUnchanged.keeps (fails : FailsUnchanged optimizer state) :
    Outcome.KeepsOnError contents optimizer (optimizer.loadInPlace state) := by
  rw [OuterOptimizer.loadInPlace]
  refine keepsOnError_read.mpr ⟨fun _ => rfl, fun _ kind => ?_⟩
  refine keepsOnError_read.mpr ⟨fun _ => rfl, fun count isCount => ?_⟩
  cases fails with
  | kind fails => exact absurd fails (not_fails_ok kind)
  | stepCount fails => exact absurd fails (not_fails_ok isCount)
  | velocity same fails =>
    obtain rfl := Except.ok.inj (isCount.symm.trans same)
    exact keepsOnError_read.mpr ⟨fun _ => rfl, fun _ isRead => absurd fails (not_fails_ok isRead)⟩
  | firstMoment same velocity fails =>
    obtain rfl := Except.ok.inj (isCount.symm.trans same)
    obtain ⟨values, isVelocity, sameVelocity⟩ := velocity
    refine keepsOnError_read.mpr ⟨fun _ => rfl, fun _ isRead => ?_⟩
    obtain rfl := Except.ok.inj (isVelocity.symm.trans isRead)
    refine keepsOnError_read.mpr ⟨fun _ => ?_, fun _ isRead => absurd fails (not_fails_ok isRead)⟩
    rw [contents, sameVelocity]
    rfl
  | secondMoment same velocity first fails =>
    obtain rfl := Except.ok.inj (isCount.symm.trans same)
    obtain ⟨values, isVelocity, sameVelocity⟩ := velocity
    obtain ⟨moments, isFirst, sameFirst⟩ := first
    refine keepsOnError_read.mpr ⟨fun _ => rfl, fun _ isRead => ?_⟩
    obtain rfl := Except.ok.inj (isVelocity.symm.trans isRead)
    refine keepsOnError_read.mpr ⟨fun _ => ?_, fun _ isRead => ?_⟩
    · rw [contents, sameVelocity]
      rfl
    · obtain rfl := Except.ok.inj (isFirst.symm.trans isRead)
      refine keepsOnError_read.mpr ⟨fun _ => ?_, fun _ isRead => absurd fails (not_fails_ok isRead)⟩
      rw [contents, sameVelocity, sameFirst]
      rfl

theorem loads_or_failsUnchanged
    (keeps : Outcome.KeepsOnError contents optimizer (optimizer.loadInPlace state)) :
    (∃ loaded, optimizer.loadStateDict state = .ok loaded) ∨ FailsUnchanged optimizer state := by
  rw [OuterOptimizer.loadInPlace, keepsOnError_read] at keeps
  cases isKind : optimizer.checkKind state with
  | error error => exact Or.inr (.kind ⟨error, isKind⟩)
  | ok done =>
  have keeps := keepsOnError_read.mp (keeps.2 done isKind)
  cases isCount : savedStepCount state with
  | error error => exact Or.inr (.stepCount ⟨error, isCount⟩)
  | ok count =>
  have keeps := keepsOnError_read.mp (keeps.2 count isCount)
  cases isVelocity : savedArrays N state "velocity" with
  | error error =>
    have same := congrArg OptimizerContents.stepCount (keeps.1 ⟨error, isVelocity⟩)
    obtain rfl : count = optimizer.stepCount := same
    exact Or.inr (.velocity isCount ⟨error, isVelocity⟩)
  | ok velocity =>
  have keeps := keepsOnError_read.mp (keeps.2 velocity isVelocity)
  cases isFirst : savedArrays N state "first_moment" with
  | error error =>
    have same := keeps.1 ⟨error, isFirst⟩
    obtain rfl : count = optimizer.stepCount := congrArg OptimizerContents.stepCount same
    exact Or.inr (.firstMoment isCount
      ⟨velocity, isVelocity, congrArg OptimizerContents.velocity same⟩ ⟨error, isFirst⟩)
  | ok firstMoment =>
  have keeps := keepsOnError_read.mp (keeps.2 firstMoment isFirst)
  cases isSecond : savedArrays N state "second_moment" with
  | error error =>
    have same := keeps.1 ⟨error, isSecond⟩
    obtain rfl : count = optimizer.stepCount := congrArg OptimizerContents.stepCount same
    exact Or.inr (.secondMoment isCount
      ⟨velocity, isVelocity, congrArg OptimizerContents.velocity same⟩
      ⟨firstMoment, isFirst, congrArg OptimizerContents.firstMoment same⟩ ⟨error, isSecond⟩)
  | ok secondMoment =>
    left
    refine ⟨{ optimizer with
      stepCount := count
      velocity, firstMoment, secondMoment }, ?_⟩
    rw [loadStateDict_eq, isKind, isCount, isVelocity, isFirst, isSecond]
    rfl

end Keeping

namespace Coordinator

variable (c : Coordinator N) (checkpoint : Checkpoint)

/-- A restore that raises leaves everything as it was, exactly when the
checkpoint is of another run, or its tensors cannot be read, or its optimizer
can be loaded, or what is read before the failing part is there already. -/
theorem restore_keepsOnError_iff :
    Outcome.KeepsOnError restorable c (c.restoreInPlace checkpoint) ↔ RestoresWhole c checkpoint := by
  rw [restoreInPlace, keepsOnError_read]
  constructor
  · rintro ⟨_, keeps⟩
    by_cases sameRun : checkpoint.runId ≠ c.runId
    · exact .otherRun sameRun
    have keeps := keepsOnError_read.mp (keeps () (raiseIf_eq_ok.mpr sameRun))
    cases isRead : arraysFromJson N checkpoint.modelState with
    | error error => exact .unreadable ⟨error, isRead⟩
    | ok globalState =>
    have keeps := (keepsOnError_andThen.mp (keeps.2 globalState isRead)).1
    by_cases loads : ∃ loaded,
        c.outerOptimizer.loadStateDict checkpoint.outerOptimizerState = .ok loaded
    · obtain ⟨loaded, loads⟩ := loads
      exact .loads loaded loads
    have fails : ∃ error,
        (c.outerOptimizer.loadInPlace checkpoint.outerOptimizerState).result = .error error := by
      cases load : c.outerOptimizer.loadInPlace checkpoint.outerOptimizerState with
      | mk result state =>
        cases result with
        | error error => exact ⟨error, rfl⟩
        | ok done => exact absurd ⟨state, loadInPlace_eq_ok.mp load⟩ loads
    obtain ⟨error, raised⟩ := fails
    have same := keeps error raised
    have unchanged : Outcome.KeepsOnError contents c.outerOptimizer
        (c.outerOptimizer.loadInPlace checkpoint.outerOptimizerState) :=
      fun _ _ => congrArg Restorable.outerOptimizer same
    exact .unchanged ⟨globalState, isRead, congrArg Restorable.globalState same⟩
      ((loads_or_failsUnchanged unchanged).resolve_left loads)
  · intro whole
    refine ⟨fun _ => rfl, fun _ sameRun => ?_⟩
    refine keepsOnError_read.mpr ⟨fun _ => rfl, fun globalState isRead => ?_⟩
    refine keepsOnError_andThen.mpr ⟨fun error raised => ?_, fun _ _ => keepsOnError_ok⟩
    cases whole with
    | otherRun other => exact absurd other (raiseIf_eq_ok.mp sameRun)
    | unreadable fails => exact absurd fails (not_fails_ok isRead)
    | loads loaded loads =>
      have impossible := raised
      rw [loadOptimizer, loadInPlace_eq_ok.mpr loads] at impossible
      cases impossible
    | unchanged same fails =>
      obtain ⟨values, isSame, equal⟩ := same
      obtain rfl := Except.ok.inj (isSame.symm.trans isRead)
      have kept := fails.keeps error raised
      rw [restorable, loadOptimizer]
      dsimp only
      rw [kept, equal]
      rfl

/-- The tensors of a later round, with the state of another optimizer. -/
def otherCheckpoint : Checkpoint :=
  { (Reference.start false).createCheckpoint 0 with
    outerRound := 1
    modelState := arraysToJson (Reference.tensors 1)
    outerOptimizerState := .obj [("kind", .str "adam")] }

/-- It is refused, and its tensors stay. -/
theorem other_checkpoint_half_restored :
    ¬ Outcome.KeepsOnError restorable (Reference.start false)
      ((Reference.start false).restoreInPlace otherCheckpoint) := by
  have raised : ((Reference.start false).restoreInPlace otherCheckpoint).result =
      .error (.diLoCoError "outer optimizer kind does not match checkpoint") := by
    rfl
  have tensors : ((Reference.start false).restoreInPlace otherCheckpoint).state.globalState.get? "w" =
      some (Reference.single 1) := by
    rfl
  have present : (Reference.start false).globalState.get? "w" = some (Reference.single 0) := rfl
  intro keeps
  have same := congrFun (congrArg Restorable.globalState (keeps _ raised)) "w"
  have equal : ([1] : List Rat) = [0] := Option.some.inj (tensors.symm.trans (same.trans present))
  exact absurd equal (by decide)

end Coordinator

end Training
end ZepGpu
