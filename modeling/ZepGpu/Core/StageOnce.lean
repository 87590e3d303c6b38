import ZepGpu.Core.PipelineHonesty

namespace ZepGpu
namespace Core

open Foundation Dict List

/-!
# Whether each stage runs once

The ready stages are the ones that are neither completed nor failed, so they
include the ones in flight.  As long as no turn starts one of these, the tasks
that are in progress are the ones that the loop knows, and each stage is started
once.  A turn starts one of these unless enough other stages are ready before it
to fill the slots.  The stages here have distinct names and no attempt raises.
-/

namespace PipelineRun

variable {V : Type} {pipeline : Pipeline V} {run after : PipelineRun V} {order : List String}
  {name : String}

/-- Dependencies are stages of the pipeline, without a cycle. -/
def Acyclic (pipeline : Pipeline V) : Prop :=
  ∃ rank : String -> Nat, ∀ stage, stage ∈ pipeline.stages ->
    ∀ dep, dep ∈ stage.dependsOn ->
      dep ∈ pipeline.stages.map PipelineStage.name ∧ rank dep < rank stage.name

def startsOf (run : PipelineRun V) (name : String) : Nat :=
  (run.executions.map fun execution => execution.stage.name).count name

/-- How many tasks are in progress, whether the loop knows them or not. -/
def inProgress (run : PipelineRun V) : Nat :=
  (run.executions.filter fun execution => execution.result.isNone).length

/-- No stage is started twice or before the ones that it depends on are completed,
no more tasks are in progress than the limit allows, the loop does not get stuck,
and when it has ended each stage was started. -/
structure RunsOnce (pipeline : Pipeline V) (run : PipelineRun V) : Prop where
  once : ∀ name, run.startsOf name ≤ 1
  deps : ∀ execution, execution ∈ run.executions ->
    ∀ dep, dep ∈ execution.stage.dependsOn -> dep ∈ execution.startedAfter
  slots : (run.inProgress : Int) ≤ pipeline.maxConcurrentStages
  waits : run.phase = .waiting -> run.stageTasks.keys ≠ []
  turns : run.phase ≠ .spinning
  ended : Ended run -> ∀ stage, stage ∈ pipeline.stages -> run.startsOf stage.name = 1

/-- Not an attempt that raises. -/
def Returns : PipelineEvent V -> Prop
  | .attempt _ outcome => ∃ value, outcome = .ok value
  | .wake _ => True

/-- A turn of the loop takes in the stages that are done. -/
def TakesIn (pipeline : Pipeline V) (run : PipelineRun V) : PipelineEvent V -> Prop
  | .wake order => run.Wakes order ->
      ∀ name, name ∈ order -> name ∈ (run.wake pipeline order).completed
  | .attempt _ _ => True

/-- The known tasks that are not done when the ones of `order` are. -/
def stillInFlight (run : PipelineRun V) (order : List String) : List String :=
  run.stageTasks.keys.filter fun name => decide (name ∉ order)

/-- Those of some stages that are ready once the ones of `order` are completed. -/
def readyAfter (pipeline : Pipeline V) (run : PipelineRun V) (order : List String)
    (stages : List (PipelineStage V)) : List (PipelineStage V) :=
  getReadyStages { pipeline with stages := stages } (run.completed ++ order) run.failedStages

/-- The stages that are done have names, and before each stage that is still in
flight the pipeline lists enough ready stages to fill the free slots. -/
def Undoubled (pipeline : Pipeline V) (run : PipelineRun V) : PipelineEvent V -> Prop
  | .wake order => run.Wakes order -> "" ∉ order ∧
      ∀ before stage rest, pipeline.stages = before ++ stage :: rest ->
        stage.name ∈ run.stillInFlight order ->
        pipeline.maxConcurrentStages ≤
          (run.stillInFlight order).length + (readyAfter pipeline run order before).length
  | .attempt _ _ => True

/-- When the loop turns it starts no stage that is in flight. -/
def StartsNew (pipeline : Pipeline V) (run : PipelineRun V) : PipelineEvent V -> Prop
  | .wake order => run.Wakes order ->
      ∀ stage, stage ∈ (collect pipeline order run).2.toLaunch pipeline ->
        stage.name ∉ (collect pipeline order run).2.stageTasks.keys
  | .attempt _ _ => True

theorem reachable_of_acyclic (acyclic : Acyclic pipeline) (stage : PipelineStage V)
    (member : stage ∈ pipeline.stages) : Reachable pipeline stage.name := by
  rcases acyclic with ⟨rank, below⟩
  induction bound : rank stage.name using Nat.strongRecOn generalizing stage with
  | ind n ih =>
    apply Reachable.stage stage member
    intro dep needed
    rcases below stage member dep needed with ⟨known, lower⟩
    rcases mem_map.mp known with ⟨other, inside, rfl⟩
    exact ih (rank other.name) (bound ▸ lower) other inside rfl

/-- The tasks, their results and the completed stages agree with each other. -/
structure Booked (pipeline : Pipeline V) (run : PipelineRun V) : Prop where
  tasks : ∀ name task, run.stageTasks.get? name = some task ->
    ∃ execution, run.executions[task]? = some execution ∧ execution.stage.name = name
  known : ∀ execution, execution ∈ run.executions ->
    execution.stage.name ∈ run.stageTasks.keys ∨ execution.stage.name ∈ run.completed
  done : ∀ name, name ∈ run.completed -> ∃ execution, execution ∈ run.executions ∧
    execution.stage.name = name ∧ execution.result.isSome = true
  results : ∀ execution, execution ∈ run.executions -> ∀ error,
    execution.result ≠ some (.error error)
  stages : ∀ execution, execution ∈ run.executions -> execution.stage ∈ pipeline.stages
  deps : ∀ execution, execution ∈ run.executions ->
    ∀ dep, dep ∈ execution.stage.dependsOn -> dep ∈ execution.startedAfter
  before : ∀ execution, execution ∈ run.executions ->
    ∀ name, name ∈ execution.startedAfter -> name ∈ run.completed
  room : (run.stageTasks.keys.length : Int) ≤ pipeline.maxConcurrentStages

/-- The invariant of the loop as long as no stage was started again. -/
structure Tracked (pipeline : Pipeline V) (run : PipelineRun V) : Prop where
  placed : Placed pipeline run
  reached : Reached pipeline run
  booked : Booked pipeline run
  named : "" ∉ run.completed
  waits : run.phase = .waiting -> run.stageTasks.keys ≠ []
  turns : run.phase ≠ .spinning
  returned : run.phase = .returned -> AllResults pipeline run

theorem not_someRaised (booked : Booked pipeline run) : ¬ SomeRaised run order := by
  rintro ⟨name, -, -, error, found⟩
  rcases resultOf_eq_some found with ⟨task, execution, -, here, done⟩
  exact booked.results execution (mem_of_getElem? here) error done

theorem startsOf_pos {execution : Execution V} (member : execution ∈ run.executions) :
    0 < run.startsOf execution.stage.name :=
  count_pos_iff.mpr (mem_map_of_mem member)

theorem index_unique (once : ∀ name, run.startsOf name ≤ 1) {first second : Nat}
    {left right : Execution V} (atFirst : run.executions[first]? = some left)
    (atSecond : run.executions[second]? = some right)
    (same : left.stage.name = right.stage.name) : first = second := by
  have distinct : (run.executions.map fun execution => execution.stage.name).Nodup :=
    nodup_iff_count_le_one.mpr once
  have bound : first < (run.executions.map fun execution => execution.stage.name).length := by
    simpa using (List.getElem?_eq_some_iff.mp atFirst).1
  apply (getElem?_inj bound distinct).mp
  simp only [getElem?_map, atFirst, atSecond, Option.map_some, same]

theorem inProgress_le (tracked : Tracked pipeline run) (once : ∀ name, run.startsOf name ≤ 1) :
    (run.inProgress : Int) ≤ pipeline.maxConcurrentStages := by
  have distinct : (run.executions.map fun execution => execution.stage.name).Nodup :=
    nodup_iff_count_le_one.mpr once
  have names : ((run.executions.filter fun execution => execution.result.isNone).map
      fun execution => execution.stage.name).Nodup :=
    (filter_sublist.map _).nodup distinct
  have within : ((run.executions.filter fun execution => execution.result.isNone).map
      fun execution => execution.stage.name) ⊆ run.stageTasks.keys := by
    intro name member
    rcases mem_map.mp member with ⟨execution, inside, rfl⟩
    rcases mem_filter.mp inside with ⟨started, running⟩
    rcases tracked.booked.known execution started with known | completed
    · exact known
    · -- the one execution of a completed stage is done
      rcases tracked.booked.done _ completed with ⟨other, also, same, done⟩
      rcases getElem?_of_mem started with ⟨first, atFirst⟩
      rcases getElem?_of_mem also with ⟨second, atSecond⟩
      have equal := index_unique once atFirst atSecond same.symm
      rw [equal, atSecond] at atFirst
      rw [← Option.some.inj atFirst, Option.isNone_iff_eq_none] at running
      rw [running] at done
      cases done
  have length := (subperm_of_subset names within).length_le
  rw [length_map] at length
  have room := tracked.booked.room
  unfold inProgress
  omega

theorem runsOnce_of_once (tracked : Tracked pipeline run)
    (once : ∀ name, run.startsOf name ≤ 1) : RunsOnce pipeline run := by
  refine ⟨once, tracked.booked.deps, inProgress_le tracked once, tracked.waits, tracked.turns, ?_⟩
  intro ended stage member
  have returned : run.phase = .returned := by
    rcases ended with returned | ⟨error, raised⟩
    · exact returned
    · exact absurd raised (tracked.reached.phase error)
  rcases tracked.booked.done stage.name (tracked.returned returned stage member) with
    ⟨execution, started, same, -⟩
  have some := startsOf_pos started
  have most := once stage.name
  rw [same] at some
  omega

theorem executions_attempt (run : PipelineRun V) (task : Nat) (value : V) (index : Nat) :
    (run.attempt task (.ok value)).executions[index]? = (run.executions[index]?).map fun execution =>
      if index = task ∧ execution.result = none then
        { execution with result := some (.ok value) }
      else execution := by
  unfold attempt
  split
  · next missing =>
      cases here : run.executions[index]? with
      | none => rfl
      | some execution =>
        have different : index ≠ task := by
          rintro rfl
          rw [missing] at here
          cases here
        simp [different]
  · next execution here =>
      split
      · next done =>
          cases at_index : run.executions[index]? with
          | none => rfl
          | some other =>
            by_cases same : index = task
            · subst same
              rw [here] at at_index
              have pending : execution.result ≠ none := Option.isSome_iff_ne_none.mp done
              rw [← Option.some.inj at_index]
              simp [pending]
            · simp [same]
      · next running =>
          simp only [finish, getElem?_modify]
          by_cases same : index = task
          · subst same
            have pending : execution.result = none := by simpa using running
            rw [here]
            simp [pending]
          · have other : ¬ task = index := fun equal => same equal.symm
            simp [same, other]

theorem mem_attempt {task : Nat} {value : V} {execution : Execution V}
    (member : execution ∈ (run.attempt task (.ok value)).executions) :
    ∃ old, old ∈ run.executions ∧ execution.stage = old.stage ∧
      execution.startedAfter = old.startedAfter ∧
      (execution.result = old.result ∨ execution.result = some (.ok value)) := by
  rcases getElem?_of_mem member with ⟨index, here⟩
  rw [executions_attempt] at here
  rcases Option.map_eq_some_iff.mp here with ⟨old, before, rfl⟩
  refine ⟨old, mem_of_getElem? before, ?_⟩
  split
  · exact ⟨rfl, rfl, Or.inr rfl⟩
  · exact ⟨rfl, rfl, Or.inl rfl⟩

theorem startsOf_attempt (run : PipelineRun V) (task : Nat) (value : V) (name : String) :
    (run.attempt task (.ok value)).startsOf name = run.startsOf name := by
  unfold startsOf
  apply congrArg (List.count name)
  apply ext_getElem?
  intro index
  rw [getElem?_map, getElem?_map, executions_attempt, Option.map_map]
  congr 1
  funext execution
  dsimp only [Function.comp]
  split <;> rfl

theorem booked_attempt (booked : Booked pipeline run) (task : Nat) (value : V) :
    Booked pipeline (run.attempt task (.ok value)) := by
  have attempted := run.attempt_attempted task (.ok value)
  refine ⟨?_, ?_, ?_, ?_, ?_, ?_, ?_, ?_⟩
  · intro name other known
    rw [attempted.stageTasks] at known
    rcases booked.tasks name other known with ⟨execution, here, same⟩
    rw [executions_attempt, here]
    refine ⟨_, rfl, ?_⟩
    dsimp only
    split <;> exact same
  · intro execution member
    rcases mem_attempt member with ⟨old, started, stage, -⟩
    rw [attempted.stageTasks, attempted.completed, stage]
    exact booked.known old started
  · intro name member
    rw [attempted.completed] at member
    rcases booked.done name member with ⟨execution, started, same, done⟩
    rcases getElem?_of_mem started with ⟨index, here⟩
    refine ⟨execution, ?_, same, done⟩
    have pending : execution.result ≠ none := Option.isSome_iff_ne_none.mp done
    have kept : (run.attempt task (.ok value)).executions[index]? = some execution := by
      rw [executions_attempt, here]
      simp [pending]
    exact mem_of_getElem? kept
  · intro execution member error
    rcases mem_attempt member with ⟨old, started, -, -, same | same⟩
    · rw [same]
      exact booked.results old started error
    · rw [same]
      rintro ⟨⟩
  · intro execution member
    rcases mem_attempt member with ⟨old, started, stage, -⟩
    rw [stage]
    exact booked.stages old started
  · intro execution member dep needed
    rcases mem_attempt member with ⟨old, started, stage, after, -⟩
    rw [after]
    exact booked.deps old started dep (stage ▸ needed)
  · intro execution member name earlier
    rcases mem_attempt member with ⟨old, started, -, after, -⟩
    rw [attempted.completed]
    exact booked.before old started name (after ▸ earlier)
  · rw [attempted.stageTasks]
    exact booked.room

theorem tracked_attempt (tracked : Tracked pipeline run) (task : Nat) (value : V) :
    Tracked pipeline (run.attempt task (.ok value)) := by
  have attempted := run.attempt_attempted task (.ok value)
  refine ⟨placed_attempted tracked.placed attempted, ?_, booked_attempt tracked.booked task value,
    attempted.completed ▸ tracked.named, ?_, ?_, ?_⟩
  · exact @reached_step _ pipeline run tracked.reached (.attempt task (.ok value)) trivial
  · rw [attempted.stageTasks, attempted.phase]
    exact tracked.waits
  · rw [attempted.phase]
    exact tracked.turns
  · intro returned stage member
    rw [attempted.completed]
    exact tracked.returned (attempted.phase ▸ returned) stage member

theorem booked_collectResult (booked : Booked pipeline run) {value : V}
    (found : run.resultOf name = some (.ok value)) :
    Booked pipeline (run.collectResult name value) := by
  refine ⟨?_, ?_, ?_, booked.results, booked.stages, booked.deps, ?_, ?_⟩
  · intro other task known
    exact booked.tasks other task (get?_erase_eq_some known).2
  · intro execution started
    by_cases same : execution.stage.name = name
    · right
      rw [same]
      exact mem_insert_self ..
    · rcases booked.known execution started with known | completed
      · exact Or.inl (mem_keys_erase.mpr ⟨same, known⟩)
      · exact Or.inr (mem_insert_of_mem completed)
  · intro other member
    rcases mem_insert_iff.mp member with rfl | old
    · rcases resultOf_eq_some found with ⟨task, execution, known, here, done⟩
      rcases booked.tasks other task known with ⟨also, alsoHere, same⟩
      rw [here] at alsoHere
      rw [← Option.some.inj alsoHere] at same
      exact ⟨execution, mem_of_getElem? here, same, by rw [done]; rfl⟩
    · exact booked.done other old
  · intro execution started other earlier
    exact mem_insert_of_mem (booked.before execution started other earlier)
  · have fewer : (run.stageTasks.erase name).keys.length ≤ run.stageTasks.keys.length :=
      length_keys_filter_le
    have room := booked.room
    unfold collectResult
    dsimp only
    omega

theorem booked_collect (booked : Booked pipeline run) (order : List String) :
    Booked pipeline (collect pipeline order run).2 := by
  refine collect_keeps ?_ ?_ order booked
  · intro run name value booked named found
    exact booked_collectResult booked found
  · intro run name error booked named found
    rcases resultOf_eq_some found with ⟨task, execution, -, here, done⟩
    exact absurd done (booked.results execution (mem_of_getElem? here) error)

theorem booked_turned (booked : Booked pipeline run) (turned : Turned pipeline run after) :
    Booked pipeline after := by
  cases turned with
  | counted all =>
    exact ⟨booked.1, booked.2, booked.3, booked.4, booked.5, booked.6, booked.7, booked.8⟩
  | exhausted none idle =>
    exact ⟨booked.1, booked.2, booked.3, booked.4, booked.5, booked.6, booked.7, booked.8⟩
  | launched after phase goes new waits =>
    have started : ∀ execution, execution ∈ after.executions ->
        execution ∈ run.executions ∨ ∃ stage, stage ∈ run.toLaunch pipeline ∧
          execution = ⟨stage, run.completed, none⟩ := by
      intro execution member
      rw [new.executions, mem_append] at member
      rcases member with old | fresh
      · exact Or.inl old
      · rcases mem_map.mp fresh with ⟨stage, chosen, rfl⟩
        exact Or.inr ⟨stage, chosen, rfl⟩
    refine ⟨?_, ?_, ?_, ?_, ?_, ?_, ?_, ?_⟩
    · intro name task known
      rcases new.tasks name task known with old | ⟨stage, here, same⟩
      · rcases booked.tasks name task old with ⟨execution, here, same⟩
        refine ⟨execution, ?_, same⟩
        show after.executions[task]? = some execution
        rw [new.executions, List.getElem?_append_left (List.getElem?_eq_some_iff.mp here).1]
        exact here
      · exact ⟨_, here, same⟩
    · intro execution member
      show execution.stage.name ∈ after.stageTasks.keys ∨ execution.stage.name ∈ after.completed
      rw [new.mem_keys, new.completed]
      rcases started execution member with old | ⟨stage, chosen, rfl⟩
      · rcases booked.known execution old with known | completed
        · exact Or.inl (Or.inl known)
        · exact Or.inr completed
      · exact Or.inl (Or.inr ⟨stage, chosen, rfl⟩)
    · intro name member
      rcases booked.done name (new.completed ▸ member) with ⟨execution, old, same, done⟩
      refine ⟨execution, ?_, same, done⟩
      show execution ∈ after.executions
      rw [new.executions]
      exact mem_append_left _ old
    · intro execution member error
      rcases started execution member with old | ⟨stage, chosen, rfl⟩
      · exact booked.results execution old error
      · rintro ⟨⟩
    · intro execution member
      rcases started execution member with old | ⟨stage, chosen, rfl⟩
      · exact booked.stages execution old
      · exact (mem_getReadyStages.mp (mem_ready_of_toLaunch chosen)).1
    · intro execution member dep needed
      rcases started execution member with old | ⟨stage, chosen, rfl⟩
      · exact booked.deps execution old dep needed
      · exact (mem_getReadyStages.mp (mem_ready_of_toLaunch chosen)).2.2 dep needed
    · intro execution member name earlier
      show name ∈ after.completed
      rw [new.completed]
      rcases started execution member with old | ⟨stage, chosen, rfl⟩
      · exact booked.before execution old name earlier
      · exact earlier
    · have room := booked.room
      have length := new.length_keys
      have free : (0 : Int) ≤ run.freeSlots pipeline := by
        unfold freeSlots
        omega
      have chosen := @length_sliceTo_le _
        (getReadyStages pipeline run.completed run.failedStages) _ free
      show (after.stageTasks.keys.length : Int) ≤ pipeline.maxConcurrentStages
      unfold toLaunch at length
      unfold freeSlots at chosen length
      omega

theorem turned_waits (positive : 1 ≤ pipeline.maxConcurrentStages)
    (turned : Turned pipeline run after) :
    (after.phase = .waiting -> after.stageTasks.keys ≠ []) ∧ after.phase ≠ .spinning := by
  cases turned with
  | counted all => exact ⟨by rintro ⟨⟩, by rintro ⟨⟩⟩
  | exhausted none idle => exact ⟨by rintro ⟨⟩, by rintro ⟨⟩⟩
  | launched after phase goes new waits =>
    have some : after.stageTasks.keys ≠ [] := by
      intro empty
      have idle : run.stageTasks.keys = [] := by
        apply eq_nil_iff_forall_not_mem.mpr
        intro name known
        have kept := (new.mem_keys name).mpr (Or.inl known)
        rw [empty] at kept
        cases kept
      have chosen : run.toLaunch pipeline ≠ [] := by
        have ready : getReadyStages pipeline run.completed run.failedStages ≠ [] :=
          fun none => goes none idle
        have slots : 0 < run.freeSlots pipeline := by
          have same : (run.stageTasks.keys.length : Int) = 0 := by
            rw [idle]
            rfl
          unfold freeSlots
          omega
        unfold toLaunch sliceTo
        rw [if_pos (Int.le_of_lt slots)]
        intro none
        rcases take_eq_nil_iff.mp none with zero | none
        · omega
        · exact ready none
      rcases exists_mem_of_ne_nil _ chosen with ⟨stage, member⟩
      have known := (new.mem_keys stage.name).mpr (Or.inr ⟨stage, member, rfl⟩)
      rw [empty] at known
      cases known
    rw [if_neg some] at waits
    subst waits
    exact ⟨fun _ => some, by rintro ⟨⟩⟩

theorem tracked_turned (positive : 1 ≤ pipeline.maxConcurrentStages)
    (reachable : ∀ stage, stage ∈ pipeline.stages -> Reachable pipeline stage.name)
    (placed : Placed pipeline run) (reached : Reached pipeline run) (booked : Booked pipeline run)
    (named : "" ∉ run.completed) (turned : Turned pipeline run after) : Tracked pipeline after :=
  ⟨placed_turned placed turned, reached_turned reached turned, booked_turned booked turned,
    turned.completed ▸ named, (turned_waits positive turned).1, (turned_waits positive turned).2,
    allResults_turned placed reached.failed reachable turned⟩

theorem named_collect (named : "" ∉ run.completed) (order : List String) :
    "" ∉ (collect pipeline order run).2.completed := by
  refine @collect_keeps _ pipeline run (fun run => "" ∉ run.completed) ?_ ?_ order named
  · intro run name value named other found inserted
    rcases mem_insert_iff.mp inserted with same | old
    · exact other same.symm
    · exact named old
  · intro run name error named other found
    exact named

theorem wake_turned (tracked : Tracked pipeline run) (wakes : run.Wakes order) :
    Turned pipeline (collect pipeline order run).2 (run.wake pipeline order) := by
  have quiet := @not_someRaised _ pipeline run order tracked.booked
  have woken := wake_woken pipeline wakes
  generalize run.wake pipeline order = after at woken
  cases woken with
  | raised error answer =>
    have none := @collect_completes _ pipeline run order wakes.spec.1 (Or.inr
      fun name member named error found => quiet ⟨name, member, named, error, found⟩)
    rw [none] at answer
    cases answer
  | turned after answer next => exact next

theorem tracked_step (positive : 1 ≤ pipeline.maxConcurrentStages)
    (reachable : ∀ stage, stage ∈ pipeline.stages -> Reachable pipeline stage.name)
    (tracked : Tracked pipeline run) {event : PipelineEvent V} (returns : Returns event) :
    Tracked pipeline (run.step pipeline event) := by
  cases event with
  | attempt task outcome =>
    rcases returns with ⟨value, rfl⟩
    exact tracked_attempt tracked task value
  | wake order =>
    by_cases wakes : run.Wakes order
    · exact tracked_turned positive reachable (placed_collect tracked.placed order)
        (reached_collect tracked.reached (not_someRaised tracked.booked) wakes.spec.1)
        (booked_collect tracked.booked order) (named_collect tracked.named order)
        (wake_turned tracked wakes)
    · rw [show run.step pipeline (.wake order) = run from wake_of_not wakes]
      exact tracked

theorem startsOf_launched {stages : List (PipelineStage V)} (new : Launched run stages after)
    (name : String) :
    after.startsOf name = run.startsOf name + (stages.map PipelineStage.name).count name := by
  unfold startsOf
  rw [new.executions, map_append, count_append, map_map]
  rfl

theorem once_turned (distinct : (pipeline.stages.map PipelineStage.name).Nodup)
    (placed : Placed pipeline run) (failed : run.failedStages = []) (booked : Booked pipeline run)
    (once : ∀ name, run.startsOf name ≤ 1) (turned : Turned pipeline run after) :
    (∀ name, after.startsOf name ≤ 1) ↔
      ∀ stage, stage ∈ run.toLaunch pipeline -> stage.name ∉ run.stageTasks.keys := by
  cases turned with
  | counted all =>
    refine iff_of_true once ?_
    intro stage chosen
    rw [failed] at all
    rcases mem_getReadyStages.mp (mem_ready_of_toLaunch chosen) with ⟨inside, fresh, -⟩
    exact absurd (allResults_of_length placed all stage inside) fresh.1
  | exhausted none idle =>
    refine iff_of_true once ?_
    intro stage chosen
    have ready := mem_ready_of_toLaunch chosen
    rw [none] at ready
    cases ready
  | launched after phase goes new waits =>
    have starts : ∀ name, ({ after with phase := phase } : PipelineRun V).startsOf name =
        run.startsOf name + ((run.toLaunch pipeline).map PipelineStage.name).count name := by
      intro name
      have counted := startsOf_launched new name
      exact counted
    constructor
    · intro still stage chosen known
      rcases exists_get?_of_mem known with ⟨task, found⟩
      rcases booked.tasks stage.name task found with ⟨execution, here, same⟩
      have old := startsOf_pos (mem_of_getElem? here)
      have again : 0 < ((run.toLaunch pipeline).map PipelineStage.name).count stage.name :=
        count_pos_iff.mpr (mem_map_of_mem chosen)
      have most := still stage.name
      rw [starts] at most
      rw [same] at old
      omega
    · intro undoubled name
      rw [starts]
      by_cases chosen : name ∈ (run.toLaunch pipeline).map PipelineStage.name
      · rcases mem_map.mp chosen with ⟨stage, member, rfl⟩
        have ready := (mem_getReadyStages.mp (mem_ready_of_toLaunch member)).2.1
        have fresh : run.startsOf stage.name = 0 := by
          apply count_eq_zero.mpr
          intro started
          rcases mem_map.mp started with ⟨execution, inside, same⟩
          rcases booked.known execution inside with known | completed
          · exact undoubled stage member (same ▸ known)
          · exact ready.1 (same ▸ completed)
        have sublist : ((run.toLaunch pipeline).map PipelineStage.name).Sublist
            (pipeline.stages.map PipelineStage.name) :=
          ((sliceTo_sublist _ _).trans filter_sublist).map _
        have single := nodup_iff_count_le_one.mp (sublist.nodup distinct) stage.name
        omega
      · have none := count_eq_zero.mpr chosen
        have most := once name
        omega

theorem startsOf_collect (order : List String) (name : String) :
    (collect pipeline order run).2.startsOf name = run.startsOf name := by
  have same : (collect pipeline order run).2.executions = run.executions :=
    @collect_keeps _ pipeline run (fun now => now.executions = run.executions)
      (fun _ _ _ same _ _ => same) (fun _ _ _ same _ _ => same) order rfl
  unfold startsOf
  rw [same]

theorem once_step (distinct : (pipeline.stages.map PipelineStage.name).Nodup)
    (tracked : Tracked pipeline run) (once : ∀ name, run.startsOf name ≤ 1)
    {event : PipelineEvent V} (returns : Returns event) :
    (∀ name, (run.step pipeline event).startsOf name ≤ 1) ↔ StartsNew pipeline run event := by
  cases event with
  | attempt task outcome =>
    rcases returns with ⟨value, rfl⟩
    refine iff_of_true ?_ trivial
    intro name
    rw [show (run.step pipeline (.attempt task (.ok value))).startsOf name = run.startsOf name from
      startsOf_attempt run task value name]
    exact once name
  | wake order =>
    by_cases wakes : run.Wakes order
    · have collected : ∀ name, (collect pipeline order run).2.startsOf name ≤ 1 :=
        fun name => (startsOf_collect order name).trans_le (once name)
      have reached := reached_collect tracked.reached (not_someRaised tracked.booked) wakes.spec.1
      show (∀ name, (run.wake pipeline order).startsOf name ≤ 1) ↔ _
      rw [once_turned distinct (placed_collect tracked.placed order) reached.failed
        (booked_collect tracked.booked order) collected (wake_turned tracked wakes)]
      exact ⟨fun undoubled _ => undoubled, fun undoubled => undoubled wakes⟩
    · rw [show run.step pipeline (.wake order) = run from wake_of_not wakes]
      exact iff_of_true once fun awake => absurd awake wakes

/-! ## Which stages a turn starts -/

/-- What the loop knows after it has taken in stages that are done, when no task
raised and every one has a name. -/
theorem collect_taken (booked : Booked pipeline run) (named : "" ∉ order) (distinct : order.Nodup)
    (done : ∀ name, name ∈ order -> (run.resultOf name).isSome = true) :
    (collect pipeline order run).2.stageTasks.keys = run.stillInFlight order ∧
      ∀ name, name ∈ (collect pipeline order run).2.completed ↔
        name ∈ run.completed ∨ name ∈ order := by
  induction order generalizing run with
  | nil => exact ⟨(filter_eq_self.mpr fun _ _ => by simp).symm, fun name => by simp [collect]⟩
  | cons head rest ih =>
    rcases nodup_cons.mp distinct with ⟨fresh, distinct⟩
    rcases ne_and_not_mem_of_not_mem_cons named with ⟨headNamed, named⟩
    rcases Option.isSome_iff_exists.mp (done head (mem_cons_self ..)) with ⟨result, found⟩
    rcases result with error | value
    · rcases resultOf_eq_some found with ⟨task, execution, -, here, raised⟩
      exact absurd raised (booked.results execution (mem_of_getElem? here) error)
    · have later := ih (booked_collectResult booked found) named distinct fun other member => by
        rw [@resultOf_erase _ run head other (run.collectResult head value) rfl rfl
          (by rintro rfl; exact fresh member)]
        exact done other (mem_cons_of_mem _ member)
      have step : collect pipeline (head :: rest) run =
          collect pipeline rest (run.collectResult head value) := by
        rw [collect, if_neg headNamed.symm]
        simp only [found]
      rw [step]
      refine ⟨later.1.trans ?_, ?_⟩
      · show (run.stageTasks.erase head).keys.filter _ = run.stageTasks.keys.filter _
        rw [keys_erase, filter_filter]
        apply filter_congr
        intro name member
        simp [Bool.and_comm]
      · intro name
        rw [later.2, show (run.collectResult head value).completed = run.completed.insert head from
          rfl, mem_insert_iff, mem_cons]
        tauto

/-- A stage in flight counts as a ready one. -/
theorem ready_of_known (distinct : (pipeline.stages.map PipelineStage.name).Nodup)
    (placed : Placed pipeline run) (booked : Booked pipeline run) {stage : PipelineStage V}
    (member : stage ∈ pipeline.stages) (known : stage.name ∈ run.stageTasks.keys) :
    stage ∈ getReadyStages pipeline run.completed run.failedStages := by
  rcases exists_get?_of_mem known with ⟨task, found⟩
  rcases booked.tasks stage.name task found with ⟨execution, here, same⟩
  have started := mem_of_getElem? here
  have itself : execution.stage = stage :=
    inj_on_of_nodup_map distinct (booked.stages execution started) member same
  refine mem_getReadyStages.mpr ⟨member, (placed.known stage.name known).2, ?_⟩
  intro dep needed
  exact booked.before execution started dep (booked.deps execution started dep (itself.symm ▸ needed))

theorem startsNew_turned_iff (distinct : (pipeline.stages.map PipelineStage.name).Nodup)
    (placed : Placed pipeline run) (booked : Booked pipeline run) :
    (∀ stage, stage ∈ run.toLaunch pipeline -> stage.name ∉ run.stageTasks.keys) ↔
      ∀ before stage rest, pipeline.stages = before ++ stage :: rest ->
        stage.name ∈ run.stageTasks.keys ->
        pipeline.maxConcurrentStages ≤ run.stageTasks.keys.length +
          (getReadyStages { pipeline with stages := before } run.completed run.failedStages).length := by
  have free : (0 : Int) ≤ run.freeSlots pipeline := by
    have room := booked.room
    unfold freeSlots
    omega
  have chosen : run.toLaunch pipeline =
      (getReadyStages pipeline run.completed run.failedStages).take (run.freeSlots pipeline).toNat :=
    if_pos free
  rw [chosen, getReadyStages]
  refine (forall_take_filter_iff
    (P := fun stage : PipelineStage V => stage.name ∈ run.stageTasks.keys) ?_).trans ?_
  · intro stage member known
    exact (mem_filter.mp (ready_of_known distinct placed booked member known)).2
  · have enough : ∀ ready : Nat, (run.freeSlots pipeline).toNat ≤ ready ↔
        pipeline.maxConcurrentStages ≤ run.stageTasks.keys.length + (ready : Int) := by
      intro ready
      unfold freeSlots
      omega
    simp only [enough]
    exact Iff.rfl

theorem undoubled_iff (distinct : (pipeline.stages.map PipelineStage.name).Nodup)
    (positive : 1 ≤ pipeline.maxConcurrentStages)
    (reachable : ∀ stage, stage ∈ pipeline.stages -> Reachable pipeline stage.name)
    (tracked : Tracked pipeline run) (event : PipelineEvent V) :
    (StartsNew pipeline run event ∧ TakesIn pipeline run event) ↔ Undoubled pipeline run event := by
  cases event with
  | attempt task outcome => exact iff_of_true ⟨trivial, trivial⟩ trivial
  | wake order =>
    by_cases wakes : run.Wakes order
    · have turned := wake_turned tracked wakes
      have after := tracked_turned positive reachable (placed_collect tracked.placed order)
        (reached_collect tracked.reached (not_someRaised tracked.booked) wakes.spec.1)
        (booked_collect tracked.booked order) (named_collect tracked.named order) turned
      by_cases unnamed : "" ∈ order
      · refine iff_of_false ?_ fun undoubled => (undoubled wakes).1 unnamed
        rintro ⟨-, takes⟩
        exact after.named (takes wakes "" unnamed)
      · have taken := @collect_taken _ pipeline run order tracked.booked unnamed wakes.spec.1
          fun name member => (wakes.spec.2 name).mp member
        have failed := @failed_collect _ pipeline run order (not_someRaised tracked.booked)
          wakes.spec.1
        have same : ∀ stages : List (PipelineStage V),
            getReadyStages { pipeline with stages := stages }
              (collect pipeline order run).2.completed (collect pipeline order run).2.failedStages =
            readyAfter pipeline run order stages := by
          intro stages
          unfold readyAfter getReadyStages
          simp only [taken.2, failed, mem_append]
        have starts := startsNew_turned_iff distinct (placed_collect tracked.placed order)
          (booked_collect tracked.booked order)
        simp only [taken.1, same] at starts
        have takes : TakesIn pipeline run (.wake order) := by
          intro _ name member
          rw [turned.completed]
          exact (taken.2 name).mpr (Or.inr member)
        constructor
        · rintro ⟨new, -⟩ _
          exact ⟨unnamed, starts.mp (taken.1 ▸ new wakes)⟩
        · intro undoubled
          exact ⟨fun _ => taken.1.symm ▸ starts.mpr (undoubled wakes).2, takes⟩
    · exact iff_of_true ⟨fun awake => absurd awake wakes, fun awake => absurd awake wakes⟩
        fun awake => absurd awake wakes

/-- Over any order in which the tasks of an acyclic pipeline finish, each stage is
started once, after its dependencies and within the limit, and each turn of the
loop takes in what is done, exactly when the stages that are done have names and
the stages listed before one in flight leave no slot for it. -/
theorem stages_run_once_iff (pipeline : Pipeline V) (retryCounts : Nat -> Int)
    (initialInputs : String -> Option V) (events : List (PipelineEvent V))
    (distinct : (pipeline.stages.map PipelineStage.name).Nodup) (acyclic : Acyclic pipeline)
    (positive : 1 ≤ pipeline.maxConcurrentStages)
    (returns : ∀ event, event ∈ events -> Returns event) :
    ((∀ front back, events = front ++ back ->
      RunsOnce pipeline (front.foldl (step pipeline) (start pipeline retryCounts initialInputs))) ∧
      Meets (step pipeline) (TakesIn pipeline) (start pipeline retryCounts initialInputs) events) ↔
      Meets (step pipeline) (Undoubled pipeline) (start pipeline retryCounts initialInputs)
        events := by
  have reachable := reachable_of_acyclic acyclic
  have blankBooked : Booked pipeline (blank retryCounts initialInputs : PipelineRun V) := by
    refine ⟨?_, ?_, ?_, ?_, ?_, ?_, ?_, ?_⟩
    · rintro name task ⟨⟩
    · rintro execution ⟨⟩
    · rintro name ⟨⟩
    · rintro execution ⟨⟩
    · rintro execution ⟨⟩
    · rintro execution ⟨⟩
    · rintro execution ⟨⟩
    · show (0 : Int) ≤ pipeline.maxConcurrentStages
      omega
  have placed := placed_blank pipeline retryCounts initialInputs
  have reached : Reached pipeline (blank retryCounts initialInputs) := by
    refine ⟨rfl, ?_, ?_, ?_⟩
    · rintro name ⟨⟩
    · rintro name ⟨⟩
    · rintro error ⟨⟩
  have first : Tracked pipeline (start pipeline retryCounts initialInputs) :=
    tracked_turned positive reachable placed reached blankBooked not_mem_nil
      (iterate_turned pipeline _)
  have once : ∀ name, (start pipeline retryCounts initialInputs).startsOf name ≤ 1 :=
    (once_turned distinct placed rfl blankBooked (fun _ => Nat.zero_le 1)
      (iterate_turned pipeline _)).mpr fun stage _ => not_mem_nil
  have started := @meets_iff_throughout _ _ _ _ _ _ (Tracked pipeline)
    (fun run => ∀ name, run.startsOf name ≤ 1) Returns
    (fun _ _ tracked returns => tracked_step positive reachable tracked returns)
    (fun _ _ tracked once returns => once_step distinct tracked once returns) first once returns
  have allReturn : Meets (step pipeline) (fun _ event => Returns event)
      (start pipeline retryCounts initialInputs) events := by
    have trivially : Meets (step pipeline) (fun _ _ => True)
        (start pipeline retryCounts initialInputs) events := meets_of_forall fun _ _ => trivial
    exact (trivially.and_of_forall returns).imp fun _ _ both => both.2
  have undoubled : Meets (step pipeline)
      (fun run event => StartsNew pipeline run event ∧ TakesIn pipeline run event)
      (start pipeline retryCounts initialInputs) events ↔ _ :=
    allReturn.congr first (fun _ _ tracked returns => tracked_step positive reachable tracked returns)
      fun _ event tracked _ => undoubled_iff distinct positive reachable tracked event
  rw [← undoubled, meets_and, ← started]
  refine and_congr_left fun _ => ⟨?_, ?_⟩
  · intro runs front back split
    exact (runs front back split).once
  · intro single front back split
    refine runsOnce_of_once ?_ (single front back split)
    rw [split] at allReturn
    exact (meets_append.mp allReturn).1.invariant first
      fun _ _ tracked returns => tracked_step positive reachable tracked returns

def stageAfter (object : Nat) (name : String) (dependsOn : List String) : PipelineStage Unit where
  object := object
  name := name
  dependsOn := dependsOn
  maxRetries := 0
  onError := none

/-- The stage "c" is listed before "b" and becomes ready while "b" is in flight. -/
def overtaking : Pipeline Unit where
  stages := [stageAfter 0 "c" ["a"], stageAfter 1 "a" [], stageAfter 2 "b" []]
  maxConcurrentStages := 2
  enableRetry := true

def overtakingRun : List (PipelineEvent Unit) :=
  [.attempt 0 (.ok ()), .wake ["a"], .attempt 2 (.ok ()), .attempt 1 (.ok ()), .wake ["c", "b"]]

theorem overtakingRun_undoubled :
    Meets (step overtaking) (Undoubled overtaking) (start overtaking (fun _ => 0) fun _ => none)
      overtakingRun := by
  refine ⟨trivial, fun _ => ⟨by decide, ?_⟩, trivial, trivial, fun _ => ⟨by decide, ?_⟩, trivial⟩
  · intro before stage rest split inFlight
    have other : stage.name = "b" := mem_singleton.mp inFlight
    rcases before with _ | ⟨first, _ | ⟨second, _ | ⟨third, before⟩⟩⟩ <;>
      simp only [overtaking, cons_append, nil_append, List.cons.injEq] at split
    · rcases split with ⟨rfl, -⟩
      exact absurd other (by decide)
    · rcases split with ⟨-, rfl, -⟩
      exact absurd other (by decide)
    · rcases split with ⟨rfl, rfl, rfl, -⟩
      decide
    · simp at split
  · intro before stage rest split inFlight
    cases inFlight

/-- A stage overtakes another that was started before it. -/
theorem stages_run_once_overtakingRun :
    RunsOnce overtaking
      (overtakingRun.foldl (step overtaking) (start overtaking (fun _ => 0) fun _ => none)) := by
  refine ((stages_run_once_iff overtaking (fun _ => 0) (fun _ => none) overtakingRun (by decide) ?_
    (by decide) ?_).mpr overtakingRun_undoubled).1 overtakingRun [] rfl
  · refine ⟨fun name => if name = "c" then 1 else 0, ?_⟩
    intro stage member dep needed
    simp only [overtaking, mem_cons, not_mem_nil, or_false] at member
    rcases member with rfl | rfl | rfl
    · rw [mem_singleton.mp needed]
      exact ⟨by decide, by decide⟩
    · cases needed
    · cases needed
  · intro event member
    simp only [overtakingRun, mem_cons, not_mem_nil, or_false] at member
    rcases member with rfl | rfl | rfl | rfl | rfl
    · exact ⟨(), rfl⟩
    · exact trivial
    · exact ⟨(), rfl⟩
    · exact ⟨(), rfl⟩
    · exact trivial

def threeFree : Pipeline Unit where
  stages := [stageAfter 0 "a" [], stageAfter 1 "b" [], stageAfter 2 "c" []]
  maxConcurrentStages := 2
  enableRetry := true

/-- The first two stages are started and the second is done.  The slot that is
free goes to the first of the ready stages, which still runs. -/
theorem running_stage_started_again :
    ¬ ∀ (V : Type) (pipeline : Pipeline V) (retryCounts : Nat -> Int)
      (initialInputs : String -> Option V) (events : List (PipelineEvent V)),
      (pipeline.stages.map PipelineStage.name).Nodup -> Acyclic pipeline ->
      1 ≤ pipeline.maxConcurrentStages -> (∀ event, event ∈ events -> Returns event) ->
      ∀ front back, events = front ++ back ->
        RunsOnce pipeline
          (front.foldl (step pipeline) (start pipeline retryCounts initialInputs)) := by
  intro claimed
  have runs := claimed Unit threeFree (fun _ => 0) (fun _ => none)
    [.attempt 1 (.ok ()), .wake ["b"]] (by decide) ?_ (by decide) ?_ _ [] (append_nil _).symm
  · have twice := runs.once "a"
    revert twice
    decide
  · refine ⟨fun _ => 0, ?_⟩
    intro stage member dep needed
    simp only [threeFree, mem_cons, not_mem_nil, or_false] at member
    rcases member with rfl | rfl | rfl
    · cases needed
    · cases needed
    · cases needed
  · intro event member
    rcases mem_pair.mp member with rfl | rfl
    · exact ⟨(), rfl⟩
    · exact trivial

end PipelineRun

end Core
end ZepGpu
