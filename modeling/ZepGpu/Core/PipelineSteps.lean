import ZepGpu.Core.Pipelines

namespace ZepGpu
namespace Core

open Foundation Dict List

/-!
# What a turn of the pipeline's loop can do

The loop keeps a name in at most one of three places: among the tasks it knows,
among the completed stages or among the failed ones.  The lemmas here follow the
collection of results, the launch of stages and the end of the loop.
-/

namespace PipelineRun

variable {V : Type} {pipeline : Pipeline V} {run : PipelineRun V} {name other : String}
  {stage : PipelineStage V} {order : List String}

/-! ## Launches -/

theorem mem_getReadyStages {completed failed : List String} :
    stage ∈ getReadyStages pipeline completed failed ↔
      stage ∈ pipeline.stages ∧ (stage.name ∉ completed ∧ stage.name ∉ failed) ∧
        ∀ dep, dep ∈ stage.dependsOn -> dep ∈ completed := by
  simp [getReadyStages]

theorem mem_ready_of_toLaunch (member : stage ∈ run.toLaunch pipeline) :
    stage ∈ getReadyStages pipeline run.completed run.failedStages :=
  (sliceTo_sublist _ _).subset member

/-- The run after tasks were created for some stages. -/
structure Launched (run : PipelineRun V) (stages : List (PipelineStage V)) (after : PipelineRun V) :
    Prop where
  executions : after.executions = run.executions ++ stages.map (⟨·, run.completed, none⟩)
  mem_keys : ∀ name, name ∈ after.stageTasks.keys ↔
    name ∈ run.stageTasks.keys ∨ ∃ stage, stage ∈ stages ∧ stage.name = name
  length_keys : after.stageTasks.keys.length ≤ run.stageTasks.keys.length + stages.length
  tasks : ∀ name task, after.stageTasks.get? name = some task ->
    run.stageTasks.get? name = some task ∨
      ∃ stage, after.executions[task]? = some ⟨stage, run.completed, none⟩ ∧ stage.name = name
  completed : after.completed = run.completed
  failed : after.failedStages = run.failedStages
  phase : after.phase = run.phase

theorem foldl_launch (run : PipelineRun V) (stages : List (PipelineStage V)) :
    Launched run stages (stages.foldl launch run) := by
  induction stages generalizing run with
  | nil =>
    refine ⟨?_, ?_, Nat.le_refl _, fun _ _ known => Or.inl known, rfl, rfl, rfl⟩
    · simp
    · simp
  | cons head rest ih =>
    have later := ih (run.launch head)
    refine ⟨?_, ?_, ?_, ?_, later.completed, later.failed, later.phase⟩
    · rw [foldl_cons, later.executions]
      simp [launch]
    · intro name
      rw [foldl_cons, later.mem_keys]
      unfold launch
      rw [mem_keys_set]
      constructor
      · rintro ((rfl | old) | ⟨stage, member, same⟩)
        · exact Or.inr ⟨head, mem_cons_self .., rfl⟩
        · exact Or.inl old
        · exact Or.inr ⟨stage, mem_cons_of_mem _ member, same⟩
      · rintro (old | ⟨stage, member, same⟩)
        · exact Or.inl (Or.inr old)
        · rcases mem_cons.mp member with rfl | inside
          · exact Or.inl (Or.inl same.symm)
          · exact Or.inr ⟨stage, inside, same⟩
    · have length : (run.launch head).stageTasks.keys.length ≤ run.stageTasks.keys.length + 1 := by
        unfold launch
        by_cases member : head.name ∈ run.stageTasks.keys
        · rw [keys_set_of_mem member]
          exact Nat.le_succ _
        · rw [keys_set_of_not_mem member]
          exact Nat.le_of_eq (length_append ..)
      have := later.length_keys
      rw [foldl_cons, length_cons]
      omega
    · intro name task known
      rcases later.tasks name task known with old | new
      · by_cases same : name = head.name
        · right
          refine ⟨head, ?_, same.symm⟩
          unfold launch at old
          rw [same, get?_set_self] at old
          rw [foldl_cons, later.executions, ← Option.some.inj old]
          simp [launch]
        · left
          unfold launch at old
          rw [get?_set_of_ne same] at old
          exact old
      · exact Or.inr new

/-- What one turn of the loop does, by the branch that it takes. -/
inductive Turned (pipeline : Pipeline V) (run : PipelineRun V) : PipelineRun V -> Prop
  | counted (all : pipeline.stages.length ≤ run.completed.length + run.failedStages.length) :
      Turned pipeline run { run with phase := .returned }
  | exhausted (none : getReadyStages pipeline run.completed run.failedStages = [])
      (idle : run.stageTasks.keys = []) :
      Turned pipeline run { run with phase := .returned }
  | launched (after : PipelineRun V) (phase : LoopPhase)
      (goes : getReadyStages pipeline run.completed run.failedStages = [] -> run.stageTasks.keys ≠ [])
      (new : Launched run (run.toLaunch pipeline) after)
      (waits : phase = if after.stageTasks.keys = [] then .spinning else .waiting) :
      Turned pipeline run { after with phase := phase }

theorem iterate_turned (pipeline : Pipeline V) (run : PipelineRun V) :
    Turned pipeline run (run.iterate pipeline) := by
  unfold iterate
  split
  · split
    · next ended => exact .exhausted ended.1 ended.2
    · next goes =>
        have new := foldl_launch run (run.toLaunch pipeline)
        have busy : getReadyStages pipeline run.completed run.failedStages = [] ->
            run.stageTasks.keys ≠ [] := fun ready idle => goes ⟨ready, idle⟩
        dsimp only
        split
        · next empty => exact .launched _ .spinning busy new (if_pos empty).symm
        · next known => exact .launched _ .waiting busy new (if_neg known).symm
  · next all => exact .counted (Nat.le_of_not_lt all)

variable {after : PipelineRun V}

theorem Turned.completed (turned : Turned pipeline run after) :
    after.completed = run.completed := by
  cases turned with
  | counted all => rfl
  | exhausted none idle => rfl
  | launched after phase goes new waits => exact new.completed

/-! ## Collection -/

theorem collect_keeps {P : PipelineRun V -> Prop}
    (result : ∀ run name value, P run -> name ≠ "" ->
      run.resultOf name = some (.ok value) -> P (run.collectResult name value))
    (error : ∀ run name error, P run -> name ≠ "" ->
      run.resultOf name = some (.error error) -> P (run.collectError name error))
    (order : List String) (holds : P run) : P (collect pipeline order run).2 := by
  induction order generalizing run with
  | nil => exact holds
  | cons name rest ih =>
    unfold collect
    split
    · exact ih holds
    · next named =>
        split
        · exact ih holds
        · next value found => exact ih (result run name value holds named found)
        · next message found =>
            split
            · exact ih (error run name message holds named found)
            · exact error run name message holds named found

theorem resultOf_eq_some {result : Except String V} (found : run.resultOf name = some result) :
    ∃ task execution, run.stageTasks.get? name = some task ∧
      run.executions[task]? = some execution ∧ execution.result = some result := by
  unfold resultOf at found
  rcases Option.bind_eq_some_iff.mp found with ⟨task, known, inside⟩
  rcases Option.bind_eq_some_iff.mp inside with ⟨execution, here, done⟩
  exact ⟨task, execution, known, here, done⟩

theorem mem_keys_of_resultOf {result : Except String V} (found : run.resultOf name = some result) :
    name ∈ run.stageTasks.keys := by
  rcases resultOf_eq_some found with ⟨task, execution, known, -⟩
  exact mem_keys_of_get? known

theorem resultOf_erase {later : PipelineRun V}
    (tasks : later.stageTasks = run.stageTasks.erase name)
    (executions : later.executions = run.executions) (different : other ≠ name) :
    later.resultOf other = run.resultOf other := by
  unfold resultOf
  rw [tasks, executions, get?_erase_of_ne different]

theorem Wakes.spec (wakes : run.Wakes order) :
    order.Nodup ∧ ∀ name, name ∈ order ↔ (run.resultOf name).isSome = true := by
  constructor
  · exact wakes.2.2.nodup_iff.mpr (run.stageTasks.nodup.filter _)
  · intro name
    rw [wakes.2.2.mem_iff, doneNames, mem_filter]
    constructor
    · exact And.right
    · intro done
      rcases Option.isSome_iff_exists.mp done with ⟨result, found⟩
      exact ⟨mem_keys_of_resultOf found, done⟩

theorem collect_completes (distinct : order.Nodup)
    (quiet : pipeline.enableRetry = true ∨ ∀ name, name ∈ order -> name ≠ "" ->
      ∀ error, run.resultOf name ≠ some (.error error)) :
    (collect pipeline order run).1 = none := by
  induction order generalizing run with
  | nil => rfl
  | cons name rest ih =>
    rcases nodup_cons.mp distinct with ⟨fresh, distinct⟩
    have later : ∀ after : PipelineRun V,
        after.stageTasks = run.stageTasks.erase name -> after.executions = run.executions ->
        (collect pipeline rest after).1 = none := by
      intro after tasks executions
      apply ih distinct
      rcases quiet with retries | quiet
      · exact Or.inl retries
      · right
        intro other member named error
        rw [resultOf_erase tasks executions (by rintro rfl; exact fresh member)]
        exact quiet other (mem_cons_of_mem _ member) named error
    have passed : (collect pipeline rest run).1 = none := by
      apply ih distinct
      rcases quiet with retries | quiet
      · exact Or.inl retries
      · exact Or.inr fun other member => quiet other (mem_cons_of_mem _ member)
    unfold collect
    split
    · exact passed
    · next named =>
        split
        · exact passed
        · exact later _ rfl rfl
        · next message found =>
            rcases quiet with retries | quiet
            · rw [if_pos retries]
              exact later _ rfl rfl
            · exact absurd found (quiet name (mem_cons_self ..) named message)

/-- A stage is completed or failed at most once, and only if it is in the pipeline. -/
structure Placed (pipeline : Pipeline V) (run : PipelineRun V) : Prop where
  completedNodup : run.completed.Nodup
  failedNodup : run.failedStages.Nodup
  completed : ∀ name, name ∈ run.completed -> name ∈ pipeline.stages.map PipelineStage.name
  failed : ∀ name, name ∈ run.failedStages ->
    name ∈ pipeline.stages.map PipelineStage.name ∧ name ∉ run.completed
  known : ∀ name, name ∈ run.stageTasks.keys ->
    name ∈ pipeline.stages.map PipelineStage.name ∧ name ∉ run.completed ∧ name ∉ run.failedStages

theorem mem_keys_erase {tasks : Dict String Nat} :
    other ∈ (tasks.erase name).keys ↔ other ≠ name ∧ other ∈ tasks.keys := by
  rw [keys_erase, mem_filter, decide_eq_true_eq, and_comm]

theorem placed_collectResult (placed : Placed pipeline run) {value : V}
    (found : run.resultOf name = some (.ok value)) :
    Placed pipeline (run.collectResult name value) := by
  have known := placed.known name (mem_keys_of_resultOf found)
  refine ⟨placed.completedNodup.insert, placed.failedNodup, ?_, ?_, ?_⟩
  · intro other member
    rcases mem_insert_iff.mp member with rfl | old
    · exact known.1
    · exact placed.completed other old
  · intro other member
    refine ⟨(placed.failed other member).1, ?_⟩
    intro inserted
    rcases mem_insert_iff.mp inserted with rfl | old
    · exact known.2.2 member
    · exact (placed.failed other member).2 old
  · intro other member
    rcases mem_keys_erase.mp member with ⟨different, old⟩
    rcases placed.known other old with ⟨stage, fresh, notFailed⟩
    refine ⟨stage, ?_, notFailed⟩
    intro inserted
    rcases mem_insert_iff.mp inserted with same | old
    · exact different same
    · exact fresh old

theorem placed_collectError (placed : Placed pipeline run) {error : String}
    (found : run.resultOf name = some (.error error)) :
    Placed pipeline (run.collectError name error) := by
  have known := placed.known name (mem_keys_of_resultOf found)
  refine ⟨placed.completedNodup, placed.failedNodup.insert, placed.completed, ?_, ?_⟩
  · intro other member
    rcases mem_insert_iff.mp member with rfl | old
    · exact ⟨known.1, known.2.1⟩
    · exact placed.failed other old
  · intro other member
    rcases mem_keys_erase.mp member with ⟨different, old⟩
    rcases placed.known other old with ⟨stage, fresh, notFailed⟩
    refine ⟨stage, fresh, ?_⟩
    intro inserted
    rcases mem_insert_iff.mp inserted with same | old
    · exact different same
    · exact notFailed old

theorem placed_turned (placed : Placed pipeline run) (turned : Turned pipeline run after) :
    Placed pipeline after := by
  cases turned with
  | counted all => exact ⟨placed.1, placed.2, placed.3, placed.4, placed.5⟩
  | exhausted none idle => exact ⟨placed.1, placed.2, placed.3, placed.4, placed.5⟩
  | launched after phase goes new waits =>
    refine ⟨?_, ?_, ?_, ?_, ?_⟩
    · exact new.completed.symm ▸ placed.completedNodup
    · exact new.failed.symm ▸ placed.failedNodup
    · exact new.completed.symm ▸ placed.completed
    · show ∀ name, name ∈ after.failedStages -> _ ∧ name ∉ after.completed
      rw [new.completed, new.failed]
      exact placed.failed
    · show ∀ name, name ∈ after.stageTasks.keys ->
        _ ∧ name ∉ after.completed ∧ name ∉ after.failedStages
      rw [new.completed, new.failed]
      intro name member
      rcases (new.mem_keys name).mp member with old | ⟨stage, chosen, rfl⟩
      · exact placed.known name old
      · rcases mem_getReadyStages.mp (mem_ready_of_toLaunch chosen) with ⟨inside, fresh, -⟩
        exact ⟨mem_map_of_mem inside, fresh⟩

/-- An attempt of a task changes nothing that the loop keeps. -/
structure Attempted (run after : PipelineRun V) : Prop where
  stageTasks : after.stageTasks = run.stageTasks
  completed : after.completed = run.completed
  failed : after.failedStages = run.failedStages
  phase : after.phase = run.phase

theorem attempt_attempted (run : PipelineRun V) (task : Nat) (outcome : Except String V) :
    Attempted run (run.attempt task outcome) := by
  unfold attempt
  split
  · exact ⟨rfl, rfl, rfl, rfl⟩
  · split
    · exact ⟨rfl, rfl, rfl, rfl⟩
    · dsimp only
      split
      · exact ⟨rfl, rfl, rfl, rfl⟩
      · split
        · exact ⟨rfl, rfl, rfl, rfl⟩
        · exact ⟨rfl, rfl, rfl, rfl⟩

theorem placed_attempted (placed : Placed pipeline run) (attempted : Attempted run after) :
    Placed pipeline after := by
  refine ⟨?_, ?_, ?_, ?_, ?_⟩
  · exact attempted.completed ▸ placed.completedNodup
  · exact attempted.failed ▸ placed.failedNodup
  · rw [attempted.completed]
    exact placed.completed
  · rw [attempted.completed, attempted.failed]
    exact placed.failed
  · rw [attempted.stageTasks, attempted.completed, attempted.failed]
    exact placed.known

/-- A wake that the loop takes notice of raises, or collects and turns. -/
inductive Woken (pipeline : Pipeline V) (run : PipelineRun V) (order : List String) :
    PipelineRun V -> Prop
  | raised (error : String) (answer : (collect pipeline order run).1 = some error) :
      Woken pipeline run order { (collect pipeline order run).2 with phase := .raised error }
  | turned (after : PipelineRun V) (answer : (collect pipeline order run).1 = none)
      (next : Turned pipeline (collect pipeline order run).2 after) :
      Woken pipeline run order after

theorem wake_woken (pipeline : Pipeline V) (wakes : run.Wakes order) :
    Woken pipeline run order (run.wake pipeline order) := by
  unfold wake
  rw [if_pos wakes]
  rcases answer : collect pipeline order run with ⟨_ | error, after⟩
  · have next := iterate_turned pipeline after
    refine .turned _ (by rw [answer]) ?_
    rw [answer]
    exact next
  · have woken : Woken pipeline run order { (collect pipeline order run).2 with phase := .raised error } :=
      .raised error (by rw [answer])
    rw [answer] at woken
    exact woken

theorem wake_of_not (sleeps : ¬ run.Wakes order) : run.wake pipeline order = run :=
  if_neg sleeps

theorem placed_collect (placed : Placed pipeline run) (order : List String) :
    Placed pipeline (collect pipeline order run).2 :=
  collect_keeps (fun _ _ _ placed _ found => placed_collectResult placed found)
    (fun _ _ _ placed _ found => placed_collectError placed found) order placed

theorem placed_blank (pipeline : Pipeline V) (retryCounts : Nat -> Int)
    (initialInputs : String -> Option V) : Placed pipeline (blank retryCounts initialInputs) := by
  refine ⟨nodup_nil, nodup_nil, ?_, ?_, ?_⟩
  · intro name impossible
    cases impossible
  · intro name impossible
    cases impossible
  · intro name impossible
    cases impossible

end PipelineRun

end Core
end ZepGpu
