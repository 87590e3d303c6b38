import Mathlib.Algebra.BigOperators.Group.List.Basic
import ZepGpu.Queue.FairShare

namespace ZepGpu
namespace Queue

open Foundation Rooms Dict List

/-!
# How often a task is charged

Between two runs of the job tasks are added and tasks complete.  A run charges
every task of its page, also those that an earlier run has charged, so that the
buckets hold the sums over the distinct tasks only as long as no page meets an
earlier one in a task that is charged.

The sums of the code are sums of doubles.  They are the sums of the times when, in
addition, no charge is rounded on the way.
-/

/-- The tables in one period, with the tasks that the job has processed in it, in the
order in which it first found them. -/
structure FairShareRun where
  tables : FairShareTables
  processed : List Uuid := []

/-- What happens between two runs of the job, or such a run. -/
inductive FairShareCall where
  /-- A row is added. -/
  | create (taskId : Uuid) (task : Task) (columns : TaskColumns) (createdAt : Time)
  /-- A task completes, which it does once. -/
  | complete (taskId : Uuid) (executionTimeMs : Option Int) (now : Time)
  /-- The job runs. -/
  | update (clock : Nat -> Time)

namespace FairShareTables

variable (tables : FairShareTables)

def withTasks (tasks : TaskStore) : FairShareTables :=
  { tables with store := { tables.store with tasks := tasks } }

def create (taskId : Uuid) (task : Task) (columns : TaskColumns) (createdAt : Time) :
    FairShareTables :=
  let tasks := tables.store.tasks
  { tables.withTasks { tasks with
      rooms := tasks.rooms.setTask taskId task
      columns := Function.update tasks.columns taskId columns } with
    createdAt := Function.update tables.createdAt taskId createdAt }

def IsCompleted (taskId : Uuid) : Prop :=
  (tables.store.tasks.rooms.tasks.get? taskId).any (fun task => task.status = .completed) = true

instance (taskId : Uuid) : Decidable (tables.IsCompleted taskId) :=
  inferInstanceAs (Decidable (_ = true))

variable {tables} {taskId : Uuid}

theorem isCompleted_of_mem_page (member : taskId ∈ tables.page) : tables.IsCompleted taskId := by
  have selected := mem_of_mem_take member
  rw [mem_insertionSort] at selected
  rcases Database.mem_select.mp selected with ⟨task, found, status⟩
  unfold IsCompleted
  rw [found]
  exact status

end FairShareTables

namespace FairShareRun

variable (state : FairShareRun)

def fresh : List Uuid :=
  state.tables.page.filter (· ∉ state.processed)

def step : FairShareCall -> FairShareRun
  | .create taskId task columns createdAt =>
    if taskId ∈ state.tables.store.tasks.rooms.tasks.keys then state
    else { state with tables := state.tables.create taskId task columns createdAt }
  | .complete taskId executionTimeMs now =>
    if state.tables.IsCompleted taskId then state
    else { state with
      tables := state.tables.withTasks
        (state.tables.store.tasks.markCompleted taskId executionTimeMs now) }
  | .update clock =>
    match state.tables.updateFairShareUsage clock with
    | .error _ => state
    | .ok (_, tables) =>
      { tables := tables, processed := state.processed ++ state.fresh }

/-- The times of the processed tasks of a user. -/
def timesOf (userId : Uuid) : List Int :=
  state.tables.store.timesFor userId state.processed

/-- Every bucket counts the processed tasks of its user, and its seconds are right for
their times. -/
def Charged (right : Float -> List Int -> Prop) : Prop :=
  ∀ userId bucketId bucket, state.tables.store.bucketsOf userId = [bucketId] ->
    state.tables.store.buckets.get? bucketId = some bucket ->
    right bucket.gpuSecondsUsed (state.timesOf userId) ∧
    bucket.tasksCompleted = (state.timesOf userId).length

/-- Every bucket holds the number of the processed tasks of its user and the sum of
their times in doubles, each task added once and in the order of processing. -/
def ChargedInOrder : Prop :=
  state.Charged fun seconds times =>
    seconds = (times.map GangStore.thousandth).foldl (· + ·) 0

/-- The exact sum of some times, in seconds. -/
def exactSeconds (times : List Int) : Rat :=
  (times.map (fun (executionTimeMs : Int) => (executionTimeMs : Rat) / 1000)).sum

theorem exactSeconds_append (front back : List Int) :
    exactSeconds (front ++ back) = exactSeconds front + exactSeconds back := by
  unfold exactSeconds
  rw [map_append, sum_append]

/-- Every bucket holds the sum and the number of the processed tasks of its user. -/
def ChargedOnce : Prop :=
  state.Charged fun seconds times => Double.toRat? seconds = some (exactSeconds times)

/-- The job does not find a task that it has processed before and whose time it
would charge to a bucket, or it fails. -/
def FindsNew (state : FairShareRun) : FairShareCall -> Prop
  | .update _ =>
    state.tables.store.Chargeable state.tables.page ->
    ∀ taskId, taskId ∈ state.tables.page -> ∀ userId executionTimeMs bucketId,
      state.tables.store.chargeOf taskId = some (userId, executionTimeMs) ->
      state.tables.store.bucketsOf userId = [bucketId] -> taskId ∉ state.processed
  | _ => True

/-- The charges of the page leave in every bucket what it held and the times of the
page, without rounding.  A job that fails charges nothing. -/
def AddsExactly (state : FairShareRun) : FairShareCall -> Prop
  | .update _ =>
    state.tables.store.Chargeable state.tables.page ->
    ∀ userId bucketId bucket held, state.tables.store.bucketsOf userId = [bucketId] ->
      state.tables.store.buckets.get? bucketId = some bucket ->
      Double.toRat? bucket.gpuSecondsUsed = some held ->
      Double.toRat? ((state.tables.store.chargesFor userId state.tables.page).foldl (· + ·)
        bucket.gpuSecondsUsed) =
        some (held + exactSeconds (state.tables.store.timesFor userId state.tables.page))
  | _ => True

variable {state} {userId taskId : Uuid}

/-- All that was processed is completed. -/
def Settled (state : FairShareRun) : Prop :=
  ∀ taskId, taskId ∈ state.processed -> state.tables.IsCompleted taskId

/-- Completed tasks and buckets are as they were. -/
structure SameCompleted (tables later : FairShareTables) : Prop where
  rows : ∀ taskId, tables.IsCompleted taskId ->
    later.store.tasks.rooms.tasks.get? taskId = tables.store.tasks.rooms.tasks.get? taskId ∧
    later.store.tasks.columns taskId = tables.store.tasks.columns taskId
  buckets : later.store.buckets = tables.store.buckets

variable {later : FairShareTables}

section

variable (same : SameCompleted state.tables later)

include same

theorem SameCompleted.settled (settled : state.Settled) :
    Settled { state with tables := later } := by
  intro taskId member
  unfold FairShareTables.IsCompleted
  dsimp only
  rw [(same.rows taskId (settled taskId member)).1]
  exact settled taskId member

theorem SameCompleted.timeFor (completed : state.tables.IsCompleted taskId) :
    later.store.timeFor userId taskId = state.tables.store.timeFor userId taskId := by
  rcases same.rows taskId completed with ⟨row, columns⟩
  unfold GangStore.timeFor GangStore.chargeOf
  rw [row, columns]

theorem SameCompleted.timesOf (settled : state.Settled) :
    timesOf { state with tables := later } userId = state.timesOf userId :=
  filterMap_congr (fun taskId member => same.timeFor (settled taskId member))

theorem SameCompleted.bucketsOf :
    later.store.bucketsOf userId = state.tables.store.bucketsOf userId := by
  unfold GangStore.bucketsOf
  rw [same.buckets]

theorem SameCompleted.charged {right : Float -> List Int -> Prop} (settled : state.Settled)
    (charged : state.Charged right) : Charged { state with tables := later } right := by
  intro userId bucketId bucket owned found
  rw [same.timesOf settled]
  exact charged userId bucketId bucket (same.bucketsOf.symm.trans owned) (same.buckets ▸ found)

end

theorem sameCompleted_create {tables : FairShareTables} {task : Task} {columns : TaskColumns}
    {createdAt : Time} (fresh : taskId ∉ tables.store.tasks.rooms.tasks.keys) :
    SameCompleted tables (tables.create taskId task columns createdAt) where
  rows := by
    intro other completed
    have different : other ≠ taskId := by
      rintro rfl
      rw [← get?_eq_none_iff] at fresh
      unfold FairShareTables.IsCompleted at completed
      rw [fresh] at completed
      cases completed
    exact ⟨get?_set_of_ne different, Function.update_of_ne different _ _⟩
  buckets := rfl

theorem sameCompleted_complete {tables : FairShareTables} {executionTimeMs : Option Int} {now : Time}
    (running : ¬ tables.IsCompleted taskId) :
    SameCompleted tables (tables.withTasks
      (tables.store.tasks.markCompleted taskId executionTimeMs now)) where
  rows := by
    intro other completed
    have different : other ≠ taskId := by
      rintro rfl
      exact running completed
    unfold FairShareTables.withTasks TaskStore.markCompleted TaskStore.updateStatus
    dsimp only
    split
    · exact ⟨rfl, rfl⟩
    · exact ⟨get?_set_of_ne different, Function.update_of_ne different _ _⟩
  buckets := rfl

/-- The tasks of the page that are new have the times of the whole page just when no
task with a time was processed before. -/
theorem timesFor_fresh_iff {timeFor : Uuid -> Option Int} {processed page : List Uuid} :
    (page.filter (· ∉ processed)).filterMap timeFor = page.filterMap timeFor ↔
      ∀ taskId, taskId ∈ page -> (timeFor taskId).isSome = true -> taskId ∉ processed := by
  induction page with
  | nil => exact iff_of_true rfl (fun taskId member => absurd member not_mem_nil)
  | cons taskId rest ih =>
    rw [forall_mem_cons, filterMap_cons]
    by_cases before : taskId ∈ processed
    · rw [filter_cons_of_neg (by simpa using before)]
      cases time : timeFor taskId with
      | none =>
        dsimp only
        exact ih.trans (and_iff_right (fun timed => by cases timed)).symm
      | some executionTimeMs =>
        refine iff_of_false (fun same => ?_) (fun apart => apart.1 rfl before)
        -- the page has one time more than the new tasks can have
        have shorter : ((rest.filter (· ∉ processed)).filterMap timeFor).length ≤
            (rest.filterMap timeFor).length :=
          (filter_sublist.filterMap timeFor).length_le
        have length := congrArg List.length same
        rw [length_cons] at length
        omega
    · rw [filter_cons_of_pos (by simpa using before), filterMap_cons]
      refine Iff.trans ?_ (and_iff_right (fun _ => before)).symm
      cases timeFor taskId with
      | none => exact ih
      | some executionTimeMs => exact (cons_inj_right executionTimeMs).trans ih

theorem findsNew_update_iff {clock : Nat -> Time}
    (chargeable : state.tables.store.Chargeable state.tables.page) :
    FindsNew state (.update clock) ↔ ∀ userId bucketId,
      state.tables.store.bucketsOf userId = [bucketId] ->
      state.tables.store.timesFor userId state.fresh =
        state.tables.store.timesFor userId state.tables.page := by
  unfold GangStore.timesFor fresh
  simp only [timesFor_fresh_iff]
  constructor
  · intro new userId bucketId owned taskId member timed
    unfold GangStore.timeFor at timed
    cases charge : state.tables.store.chargeOf taskId with
    | none =>
      rw [charge] at timed
      cases timed
    | some charge' =>
      rw [charge, Option.bind_some] at timed
      split_ifs at timed with owner
      · subst owner
        exact new chargeable taskId member charge'.1 charge'.2 bucketId charge owned
      · cases timed
  · intro apart _ taskId member userId executionTimeMs bucketId charge owned
    have timed : (state.tables.store.timeFor userId taskId).isSome = true := by
      unfold GangStore.timeFor
      rw [charge, Option.bind_some, if_pos rfl]
      rfl
    exact apart userId bucketId owned taskId member timed

/-! ## A run of the job that succeeds -/

def updated (state : FairShareRun) (after : GangStore) : FairShareRun where
  tables := { state.tables with store := after }
  processed := state.processed ++ state.fresh

section Updated

variable {after : GangStore}
  (grown : GangStore.Charged state.tables.store after
    (fun userId => state.tables.store.chargesFor userId state.tables.page))

include grown

theorem timesOf_updated (userId : Uuid) :
    (state.updated after).timesOf userId =
      state.timesOf userId ++ state.tables.store.timesFor userId state.fresh := by
  unfold updated timesOf GangStore.timesFor
  rw [grown.timeFor_eq, filterMap_append]

/-- The bucket of a user after the run. -/
theorem bucket_updated {bucketId : Uuid} {row : FairShareBucket}
    (owned : (state.updated after).tables.store.bucketsOf userId = [bucketId])
    (there : (state.updated after).tables.store.buckets.get? bucketId = some row) :
    state.tables.store.bucketsOf userId = [bucketId] ∧
    ∃ bucket, state.tables.store.buckets.get? bucketId = some bucket ∧
      row.gpuSecondsUsed = (state.tables.store.chargesFor userId state.tables.page).foldl (· + ·)
        bucket.gpuSecondsUsed ∧
      row.tasksCompleted = bucket.tasksCompleted +
        (state.tables.store.timesFor userId state.tables.page).length := by
  have before : state.tables.store.bucketsOf userId = [bucketId] :=
    (grown.owners userId).symm.trans owned
  have member : bucketId ∈ state.tables.store.bucketsOf userId :=
    before ▸ mem_singleton_self bucketId
  rcases Database.mem_select.mp member with ⟨bucket, found, -⟩
  rcases grown.grown userId bucketId bucket before found with ⟨later, last, seconds, number⟩
  have same : row = later := Option.some.inj (there.symm.trans last)
  rw [GangStore.chargesFor, length_map] at number
  rw [same]
  exact ⟨before, bucket, found, seconds, number⟩

theorem exists_bucket_updated {bucketId : Uuid}
    (owned : state.tables.store.bucketsOf userId = [bucketId]) :
    (state.updated after).tables.store.bucketsOf userId = [bucketId] ∧
      ∃ row, (state.updated after).tables.store.buckets.get? bucketId = some row := by
  have member : bucketId ∈ state.tables.store.bucketsOf userId :=
    owned ▸ mem_singleton_self bucketId
  rcases Database.mem_select.mp member with ⟨bucket, found, -⟩
  rcases grown.grown userId bucketId bucket owned found with ⟨row, there, -, -⟩
  exact ⟨(grown.owners userId).trans owned, row, there⟩

/-- The numbers are right after the run only if all that it charged was new. -/
theorem fresh_of_charged {right : Float -> List Int -> Prop} (charged : state.Charged right)
    (later : (state.updated after).Charged right) (userId bucketId : Uuid)
    (owned : state.tables.store.bucketsOf userId = [bucketId]) :
    state.tables.store.timesFor userId state.fresh =
      state.tables.store.timesFor userId state.tables.page := by
  have part : (state.tables.store.timesFor userId state.fresh).Sublist
      (state.tables.store.timesFor userId state.tables.page) :=
    filter_sublist.filterMap _
  refine part.eq_of_length ?_
  rcases exists_bucket_updated grown owned with ⟨ownedLater, row, there⟩
  rcases bucket_updated grown ownedLater there with ⟨_, bucket, found, -, number⟩
  have total := (later userId bucketId row ownedLater there).2
  have before := (charged userId bucketId bucket owned found).2
  rw [timesOf_updated grown, length_append, number, before] at total
  omega

theorem chargedInOrder_update_iff (charged : state.ChargedInOrder) :
    (state.updated after).ChargedInOrder ↔ ∀ userId bucketId,
      state.tables.store.bucketsOf userId = [bucketId] ->
      state.tables.store.timesFor userId state.fresh =
        state.tables.store.timesFor userId state.tables.page := by
  refine ⟨fresh_of_charged grown charged, fun new userId bucketId row owned there => ?_⟩
  rcases bucket_updated grown owned there with ⟨before, bucket, found, seconds, number⟩
  rcases charged userId bucketId bucket before found with ⟨sum, count⟩
  rw [timesOf_updated grown, new userId bucketId before]
  constructor
  · dsimp only
    rw [seconds, sum, map_append, foldl_append, GangStore.chargesFor]
  · rw [number, count, length_append, Nat.cast_add]

theorem chargedOnce_update_iff (charged : state.ChargedOnce)
    (clock : Nat -> Time) (chargeable : state.tables.store.Chargeable state.tables.page) :
    (state.updated after).ChargedOnce ↔
      FindsNew state (.update clock) ∧ AddsExactly state (.update clock) := by
  rw [findsNew_update_iff chargeable]
  constructor
  · intro later
    have new := fresh_of_charged grown charged later
    refine ⟨new, fun _ userId bucketId bucket held owned found holds => ?_⟩
    rcases exists_bucket_updated grown owned with ⟨ownedLater, row, there⟩
    rcases bucket_updated grown ownedLater there with ⟨_, bucket', found', seconds, -⟩
    have same : bucket' = bucket := Option.some.inj (found'.symm.trans found)
    have sum := (later userId bucketId row ownedLater there).1
    have isHeld : held = exactSeconds (state.timesOf userId) :=
      Option.some.inj (holds.symm.trans (charged userId bucketId bucket owned found).1)
    rw [seconds, same, timesOf_updated grown, new userId bucketId owned, exactSeconds_append] at sum
    rw [sum, isHeld]
  · rintro ⟨new, exact⟩ userId bucketId row owned there
    rcases bucket_updated grown owned there with ⟨before, bucket, found, seconds, number⟩
    rcases charged userId bucketId bucket before found with ⟨sum, count⟩
    rw [timesOf_updated grown, new userId bucketId before]
    constructor
    · dsimp only
      rw [seconds, exactSeconds_append]
      exact exact chargeable userId bucketId bucket _ before found sum
    · rw [number, count, length_append, Nat.cast_add]

end Updated

theorem settled_update {after : GangStore} (settled : state.Settled)
    (same : after.tasks = state.tables.store.tasks) : (state.updated after).Settled := by
  intro taskId member
  unfold FairShareTables.IsCompleted updated
  dsimp only
  rw [same]
  rcases mem_append.mp member with before | now
  · exact settled taskId before
  · exact FairShareTables.isCompleted_of_mem_page (mem_of_mem_filter now)

/-- What a call does: nothing to the completed tasks and the buckets, or a run of the
job that succeeds. -/
theorem step_cases (state : FairShareRun) (call : FairShareCall) :
    (∃ later, SameCompleted state.tables later ∧ state.step call = { state with tables := later } ∧
      FindsNew state call ∧ AddsExactly state call) ∨
    ∃ clock after, call = .update clock ∧ state.step call = state.updated after ∧
      state.tables.store.Chargeable state.tables.page ∧
      GangStore.Charged state.tables.store after
        (fun userId => state.tables.store.chargesFor userId state.tables.page) := by
  have still : SameCompleted state.tables state.tables := ⟨fun _ _ => ⟨rfl, rfl⟩, rfl⟩
  cases call with
  | create taskId task columns createdAt =>
    refine Or.inl ?_
    unfold step
    dsimp only
    split_ifs with there
    · exact ⟨_, still, rfl, trivial, trivial⟩
    · exact ⟨_, sameCompleted_create there, rfl, trivial, trivial⟩
  | complete taskId executionTimeMs now =>
    refine Or.inl ?_
    unfold step
    dsimp only
    split_ifs with completed
    · exact ⟨_, still, rfl, trivial, trivial⟩
    · exact ⟨_, sameCompleted_complete completed, rfl, trivial, trivial⟩
  | update clock =>
    unfold step FairShareTables.updateFairShareUsage
    dsimp only
    cases recorded : GangStore.recordTasks clock 0 state.tables.page state.tables.store with
    | error error =>
      have uncharged : ¬ state.tables.store.Chargeable state.tables.page := by
        intro chargeable
        rcases GangStore.recordTasks_ok_iff.mpr chargeable with ⟨after, succeeded⟩
        rw [recorded] at succeeded
        cases succeeded
      exact Or.inl ⟨_, still, rfl, fun chargeable => absurd chargeable uncharged,
        fun chargeable => absurd chargeable uncharged⟩
    | ok after =>
      exact Or.inr ⟨clock, after, rfl, rfl, GangStore.recordTasks_ok_iff.mp ⟨after, recorded⟩,
        GangStore.recordTasks_charged recorded⟩

theorem settled_step (settled : state.Settled) (call : FairShareCall) : (state.step call).Settled := by
  rcases step_cases state call with ⟨later, same, written, _⟩ | ⟨clock, after, _, written, _, grown⟩
  · rw [written]
    exact same.settled settled
  · rw [written]
    exact settled_update settled grown.tasks

theorem chargedInOrder_step_iff (settled : state.Settled) (charged : state.ChargedInOrder)
    (call : FairShareCall) : (state.step call).ChargedInOrder ↔ FindsNew state call := by
  rcases step_cases state call with ⟨later, same, written, new, _⟩ |
    ⟨clock, after, rfl, written, chargeable, grown⟩
  · rw [written]
    exact iff_of_true (same.charged settled charged) new
  · rw [written, findsNew_update_iff chargeable]
    exact chargedInOrder_update_iff grown charged

theorem chargedOnce_step_iff (settled : state.Settled) (charged : state.ChargedOnce)
    (call : FairShareCall) :
    (state.step call).ChargedOnce ↔ FindsNew state call ∧ AddsExactly state call := by
  rcases step_cases state call with ⟨later, same, written, allowed⟩ |
    ⟨clock, after, rfl, written, chargeable, grown⟩
  · rw [written]
    exact iff_of_true (same.charged settled charged) allowed
  · rw [written]
    exact chargedOnce_update_iff grown charged clock chargeable

/-! ## Runs -/

/-- The period has just begun: no bucket has been charged. -/
def Begun (tables : FairShareTables) : Prop :=
  ∀ bucketId bucket, tables.store.buckets.get? bucketId = some bucket ->
    bucket.gpuSecondsUsed = 0 ∧ bucket.tasksCompleted = 0

/-- From the beginning of a period, every bucket holds after every part of a run the
number of the distinct tasks that were processed and their sum in doubles, exactly when
no run of the job finds a task again that it charges.  It holds their exact sum exactly
when, in addition, no run rounds. -/
theorem chargedOnce_iff (tables : FairShareTables) (begun : Begun tables) (calls : List FairShareCall) :
    ((∀ front back, calls = front ++ back ->
        (front.foldl step { tables := tables }).ChargedInOrder) ↔
      Meets step FindsNew { tables := tables } calls) ∧
    ((∀ front back, calls = front ++ back ->
        (front.foldl step { tables := tables }).ChargedOnce) ↔
      Meets step (fun state call => FindsNew state call ∧ AddsExactly state call)
        { tables := tables } calls) := by
  have settled : Settled { tables := tables } := fun _ member => absurd member not_mem_nil
  constructor
  · exact @meets_iff_throughout FairShareRun FairShareCall step FindsNew { tables := tables } calls
      Settled ChargedInOrder (fun _ => True) (fun _ call settled _ => settled_step settled call)
      (fun _ call settled charged _ => chargedInOrder_step_iff settled charged call) settled
      (fun _ bucketId bucket _ found => begun bucketId bucket found) (fun _ _ => trivial)
  · refine @meets_iff_throughout FairShareRun FairShareCall step _ { tables := tables } calls
      Settled ChargedOnce (fun _ => True) (fun _ call settled _ => settled_step settled call)
      (fun _ call settled charged _ => chargedOnce_step_iff settled charged call) settled ?_
      (fun _ _ => trivial)
    intro userId bucketId bucket owned found
    rw [(begun bucketId bucket found).1]
    have zero : Double.toRat? 0 = some (exactSeconds []) := by decide +kernel
    exact ⟨zero, (begun bucketId bucket found).2⟩

/-- Three tasks of a tenth of a second do not come to three tenths. -/
example : Double.toRat? (([100, 100, 100].map GangStore.thousandth).foldl (· + ·) 0) ≠
    some (exactSeconds [100, 100, 100]) := by
  decide +kernel

def idleTables : FairShareTables where
  store := {
    tasks := { rooms := Sample.idleRoom, columns := fun _ => {}, gpus := Dict.empty }
    gangs := Dict.empty
    buckets := Dict.empty.set 22 { userId := some Sample.userId, updatedAt := 0 } }
  createdAt := fun _ => 0

theorem idleTables_begun : Begun idleTables := by
  intro bucketId bucket found
  rcases eq_or_ne bucketId 22 with rfl | different
  · cases get?_set_self.symm.trans found
    exact ⟨rfl, rfl⟩
  · cases (get?_set_of_ne different).symm.trans found

def createTask : FairShareCall :=
  .create Sample.taskId { userId := some Sample.userId } {} 1

def completeTask : FairShareCall :=
  .complete Sample.taskId (some 1500) 2

def runJob : FairShareCall :=
  .update fun _ => 3

/-- The tables when the job runs. -/
def completedState : FairShareRun :=
  [createTask, completeTask].foldl step { tables := idleTables }

theorem completedState_addsExactly : AddsExactly completedState runJob := by
  intro _ userId bucketId bucket held owned found holds
  have member : bucketId ∈ completedState.tables.store.bucketsOf userId :=
    owned ▸ mem_singleton_self bucketId
  rcases Database.mem_select.mp member with ⟨row, there, ofUser⟩
  rcases eq_or_ne bucketId 22 with rfl | different
  · cases get?_set_self.symm.trans there
    cases get?_set_self.symm.trans found
    obtain rfl : Sample.userId = userId := by simpa using ofUser
    have nothing : held = 0 := by
      have zero : Double.toRat? 0 = some 0 := by decide +kernel
      exact Option.some.inj (holds.symm.trans zero)
    rw [nothing]
    decide +kernel
  · cases (get?_set_of_ne different).symm.trans found

/-- A run with the job once, after the task has completed. -/
theorem chargedOnce_single :
    ([createTask, completeTask, runJob].foldl step { tables := idleTables }).ChargedInOrder ∧
    ([createTask, completeTask, runJob].foldl step { tables := idleTables }).ChargedOnce := by
  have findsNew : FindsNew completedState runJob :=
    fun _ _ _ _ _ _ _ _ => not_mem_nil
  have once := chargedOnce_iff idleTables idleTables_begun [createTask, completeTask, runJob]
  exact ⟨once.1.mpr ⟨trivial, trivial, findsNew, trivial⟩ _ [] rfl,
    once.2.mpr ⟨⟨trivial, trivial⟩, ⟨trivial, trivial⟩, ⟨findsNew, completedState_addsExactly⟩,
      trivial⟩ _ [] rfl⟩

/-- The job runs twice, and the one task of one and a half seconds is charged
twice. -/
theorem second_run_charges_again :
    let state := [createTask, completeTask, runJob, runJob].foldl step { tables := idleTables }
    state.tables.store.buckets.get? 22 = some {
      userId := some Sample.userId, gpuSecondsUsed := 3, tasksCompleted := 2, updatedAt := 3 } ∧
      state.timesOf Sample.userId = [1500] ∧ ¬ state.ChargedOnce := by
  intro state
  have bucket : state.tables.store.buckets.get? 22 = some {
      userId := some Sample.userId, gpuSecondsUsed := 3, tasksCompleted := 2, updatedAt := 3 } := by
    with_unfolding_all rfl
  have times : state.timesOf Sample.userId = [1500] := by
    decide +kernel
  refine ⟨bucket, times, fun once => ?_⟩
  have number := (once Sample.userId 22 _ (by decide +kernel) bucket).2
  rw [times] at number
  exact absurd number (by decide)

end FairShareRun

end Queue
end ZepGpu
