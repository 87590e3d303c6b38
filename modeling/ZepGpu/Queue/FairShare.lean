import ZepGpu.Queue.GangOutcomes

namespace ZepGpu
namespace Queue

open Foundation Rooms Dict List

/-!
# Fair shares

A periodic job adds the times of completed tasks to the buckets of their owners.
It looks at the oldest completed tasks, and it leaves no mark on them, so that
the next run finds them again.
-/

/-- The tables that the job works on, with the column of creation times. -/
structure FairShareTables where
  store : GangStore
  createdAt : Uuid -> Time

namespace GangStore

variable (store : GangStore)

/-- The owner and the time that the job records for a task: those of a task with an
owner and a time other than zero. -/
def chargeOf (taskId : Uuid) : Option (Uuid × Int) :=
  match store.tasks.rooms.tasks.get? taskId with
  | none => none
  | some task =>
    match task.userId, (store.tasks.columns taskId).executionTimeMs with
    | some userId, some executionTimeMs =>
      if executionTimeMs = 0 then none else some (userId, executionTimeMs)
    | _, _ => none

def recordTask (taskId : Uuid) (now : Time) : Except String GangStore :=
  match store.chargeOf taskId with
  | none => .ok store
  | some (userId, executionTimeMs) =>
    store.recordGpuUsage userId (thousandth executionTimeMs) .completed now

/-- The loop of the job, with a reading of the clock for every turn. -/
def recordTasks (clock : Nat -> Time) : Nat -> List Uuid -> GangStore -> Except String GangStore
  | _, [], store => .ok store
  | turn, taskId :: rest, store =>
    match store.recordTask taskId (clock turn) with
    | .error error => .error error
    | .ok store => recordTasks clock (turn + 1) rest store

end GangStore

namespace FairShareTables

variable (tables : FairShareTables)

/-- `list_by_status`: the oldest tasks first. -/
def listByStatus (status : TaskStatus) (limit : Nat) : List Uuid :=
  ((Database.select tables.store.tasks.rooms.tasks fun task => task.status = status).insertionSort
    (fun left right => tables.createdAt left ≤ tables.createdAt right)).take limit

def page : List Uuid :=
  tables.listByStatus .completed 100

/-- `update_fair_share_usage`, with the number of tasks that it reports. -/
def updateFairShareUsage (clock : Nat -> Time) : Except String (Nat × FairShareTables) :=
  match GangStore.recordTasks clock 0 tables.page tables.store with
  | .error error => .error error
  | .ok store => .ok (tables.page.length, { tables with store := store })

end FairShareTables

namespace GangStore

variable {store after : GangStore} {taskId userId other bucketId : Uuid} {now : Time}
  {bucket : FairShareBucket} {tasks : List Uuid}

/-! ## What is charged to a user -/

def timeFor (store : GangStore) (userId taskId : Uuid) : Option Int :=
  (store.chargeOf taskId).bind fun charge => if charge.1 = userId then some charge.2 else none

def timesFor (store : GangStore) (userId : Uuid) (tasks : List Uuid) : List Int :=
  tasks.filterMap (store.timeFor userId)

/-- What is added to the bucket of a user, in the order of the tasks. -/
def chargesFor (store : GangStore) (userId : Uuid) (tasks : List Uuid) : List Float :=
  (store.timesFor userId tasks).map thousandth

/-- The store after charges: the same tasks and owners, and these charges added to the
bucket of a user one after the other. -/
structure Charged (store after : GangStore) (charges : Uuid -> List Float) : Prop where
  tasks : after.tasks = store.tasks
  owners : ∀ userId, after.bucketsOf userId = store.bucketsOf userId
  grown : ∀ userId bucketId bucket, store.bucketsOf userId = [bucketId] ->
    store.buckets.get? bucketId = some bucket -> ∃ later,
      after.buckets.get? bucketId = some later ∧
      later.gpuSecondsUsed = (charges userId).foldl (· + ·) bucket.gpuSecondsUsed ∧
      later.tasksCompleted = bucket.tasksCompleted + (charges userId).length

theorem Charged.refl (store : GangStore) : Charged store store (fun _ => []) where
  tasks := rfl
  owners := fun _ => rfl
  grown := fun _ _ bucket _ found => ⟨bucket, found, rfl, (add_zero _).symm⟩

theorem Charged.trans {last : GangStore} {first second : Uuid -> List Float}
    (front : Charged store after first) (back : Charged after last second) :
    Charged store last (fun userId => first userId ++ second userId) where
  tasks := back.tasks.trans front.tasks
  owners := fun userId => (back.owners userId).trans (front.owners userId)
  grown := by
    intro userId bucketId bucket owned found
    rcases front.grown userId bucketId bucket owned found with ⟨middle, there, seconds, tasks⟩
    rcases back.grown userId bucketId middle ((front.owners userId).trans owned) there with
      ⟨later, last, moreSeconds, moreTasks⟩
    refine ⟨later, last, ?_, ?_⟩
    · rw [moreSeconds, seconds, foldl_append]
    · rw [moreTasks, tasks, length_append, Nat.cast_add, add_assoc]

theorem Charged.congr {charges charges' : Uuid -> List Float} (charged : Charged store after charges)
    (same : charges = charges') : Charged store after charges' := by
  rw [← same]
  exact charged

theorem owner_of_bucketsOf (owned : store.bucketsOf userId = [bucketId])
    (found : store.buckets.get? bucketId = some bucket) : bucket.userId = some userId := by
  have member : bucketId ∈ store.bucketsOf userId := owned ▸ mem_singleton_self bucketId
  rcases Database.mem_select.mp member with ⟨row, there, same⟩
  rw [found] at there
  cases there
  exact of_decide_eq_true same

theorem bucketsOf_set (found : store.buckets.get? bucketId = some bucket) {gpuSeconds : Float} :
    GangStore.bucketsOf { store with
      buckets := store.buckets.set bucketId (bucket.charged gpuSeconds .completed now) } other =
        store.bucketsOf other := by
  unfold bucketsOf Database.select
  dsimp only
  rw [keys_set_of_mem (mem_keys_of_get? found)]
  refine filter_congr (fun id _ => ?_)
  rcases eq_or_ne id bucketId with rfl | different
  · rw [get?_set_self, found]
    rfl
  · rw [get?_set_of_ne different]

theorem recordGpuUsage_charged {gpuSeconds : Float}
    (recorded : store.recordGpuUsage userId gpuSeconds .completed now = .ok after) :
    Charged store after (fun other => if userId = other then [gpuSeconds] else []) := by
  rcases recordGpuUsage_cases store userId gpuSeconds .completed now with
    ⟨none, unchanged⟩ | ⟨bucketId, bucket, owned, found, -, charged⟩ | ⟨-, error, failed⟩
  · rw [unchanged] at recorded
    cases recorded
    refine ⟨rfl, fun _ => rfl, fun other otherId row rows found => ⟨row, found, ?_⟩⟩
    have different : userId ≠ other := by
      rintro rfl
      rw [none] at rows
      cases rows
    rw [if_neg different]
    exact ⟨rfl, (add_zero _).symm⟩
  · rw [charged] at recorded
    cases recorded
    refine ⟨rfl, fun _ => bucketsOf_set found, fun other otherId row rows there => ?_⟩
    rcases eq_or_ne userId other with rfl | different
    · rw [owned] at rows
      cases rows
      rw [found] at there
      cases there
      refine ⟨_, get?_set_self, ?_, ?_⟩
      · rw [if_pos rfl]
        rfl
      · rw [if_pos rfl]
        rfl
    · have apart : otherId ≠ bucketId := by
        rintro rfl
        rw [found] at there
        cases there
        have first := owner_of_bucketsOf owned found
        rw [owner_of_bucketsOf rows found] at first
        cases first
        exact different rfl
      refine ⟨row, (get?_set_of_ne apart).trans there, ?_⟩
      rw [if_neg different]
      exact ⟨rfl, (add_zero _).symm⟩
  · rw [failed] at recorded
    cases recorded

theorem recordTask_charged (recorded : store.recordTask taskId now = .ok after) :
    Charged store after (fun userId => store.chargesFor userId [taskId]) := by
  unfold recordTask at recorded
  cases charge : store.chargeOf taskId with
  | none =>
    rw [charge] at recorded
    cases recorded
    refine (Charged.refl store).congr (funext fun userId => ?_)
    unfold chargesFor timesFor timeFor
    rw [filterMap_cons, charge]
    rfl
  | some charge' =>
    rw [charge] at recorded
    refine (recordGpuUsage_charged recorded).congr (funext fun userId => ?_)
    unfold chargesFor timesFor timeFor
    rw [filterMap_cons, charge, Option.bind_some]
    by_cases owner : charge'.1 = userId
    · rw [if_pos owner, if_pos owner]
      rfl
    · rw [if_neg owner, if_neg owner]
      rfl

theorem Charged.timeFor_eq {charges : Uuid -> List Float} (charged : Charged store after charges) :
    after.timeFor = store.timeFor := by
  funext userId taskId
  unfold timeFor chargeOf
  rw [charged.tasks]

theorem recordTasks_charged {clock : Nat -> Time} {turn : Nat}
    (recorded : recordTasks clock turn tasks store = .ok after) :
    Charged store after (fun userId => store.chargesFor userId tasks) := by
  induction tasks generalizing store turn with
  | nil =>
    cases recorded
    exact Charged.refl _
  | cons taskId rest ih =>
    unfold recordTasks at recorded
    cases first : store.recordTask taskId (clock turn) with
    | error error =>
      rw [first] at recorded
      cases recorded
    | ok middle =>
      rw [first] at recorded
      have front := recordTask_charged first
      refine (front.trans (ih recorded)).congr (funext fun userId => ?_)
      unfold chargesFor timesFor
      rw [front.timeFor_eq, ← map_append, ← filterMap_append, singleton_append]

/-! ## When the loop fails -/

/-- No owner of a charged task has several buckets. -/
def Chargeable (store : GangStore) (tasks : List Uuid) : Prop :=
  ∀ taskId, taskId ∈ tasks -> ∀ charge, store.chargeOf taskId = some charge ->
    (store.bucketsOf charge.1).length ≤ 1

theorem recordGpuUsage_ok_iff {gpuSeconds : Float} {usage : Usage} :
    (∃ after, store.recordGpuUsage userId gpuSeconds usage now = .ok after) ↔
      (store.bucketsOf userId).length ≤ 1 := by
  rcases recordGpuUsage_cases store userId gpuSeconds usage now with
    ⟨none, unchanged⟩ | ⟨bucketId, bucket, owned, -, -, charged⟩ | ⟨several, error, failed⟩
  · rw [unchanged, none]
    exact iff_of_true ⟨store, rfl⟩ (Nat.zero_le _)
  · rw [charged, owned]
    exact iff_of_true ⟨_, rfl⟩ (Nat.le_refl _)
  · refine iff_of_false ?_ (fun short => ?_)
    · rintro ⟨after, recorded⟩
      rw [failed] at recorded
      cases recorded
    · rcases Nat.le_one_iff_eq_zero_or_eq_one.mp short with none | one
      · unfold recordGpuUsage at failed
        rw [length_eq_zero_iff.mp none] at failed
        cases failed
      · rcases length_eq_one_iff.mp one with ⟨bucketId, same⟩
        exact several bucketId same

theorem Chargeable.of_charged {charges : Uuid -> List Float} (charged : Charged store after charges) :
    after.Chargeable tasks ↔ store.Chargeable tasks := by
  unfold Chargeable chargeOf
  rw [charged.tasks]
  simp only [charged.owners]

theorem chargeable_cons_iff :
    store.Chargeable (taskId :: tasks) ↔ store.Chargeable [taskId] ∧ store.Chargeable tasks := by
  unfold Chargeable
  rw [forall_mem_cons, forall_mem_singleton]

theorem recordTask_ok_iff :
    (∃ after, store.recordTask taskId now = .ok after) ↔ store.Chargeable [taskId] := by
  unfold recordTask Chargeable
  rw [forall_mem_singleton]
  cases charge : store.chargeOf taskId with
  | none => exact iff_of_true ⟨store, rfl⟩ (fun _ same => by cases same)
  | some charge' =>
    refine recordGpuUsage_ok_iff.trans ⟨fun short other same => ?_, fun all => all charge' rfl⟩
    cases same
    exact short

theorem recordTasks_ok_iff {clock : Nat -> Time} {turn : Nat} :
    (∃ after, recordTasks clock turn tasks store = .ok after) ↔ store.Chargeable tasks := by
  induction tasks generalizing store turn with
  | nil => exact iff_of_true ⟨_, rfl⟩ (fun _ member => absurd member (not_mem_nil))
  | cons taskId rest ih =>
    rw [chargeable_cons_iff, ← @recordTask_ok_iff _ taskId (clock turn)]
    unfold recordTasks
    cases first : store.recordTask taskId (clock turn) with
    | error error => exact iff_of_false nofun nofun
    | ok middle =>
      refine Iff.trans ih ?_
      rw [Chargeable.of_charged (recordTask_charged first)]
      exact (and_iff_right ⟨middle, rfl⟩).symm

end GangStore

end Queue
end ZepGpu
