import ZepGpu.Core.Conservation
import ZepGpu.Foundation.HeapOrder
import Mathlib.Algebra.Order.Field.Rat
import Mathlib.Data.Prod.Lex
import Mathlib.Tactic.Linarith

namespace ZepGpu
namespace Core

open Foundation List

/-!
# The order of dispatch

Priority and time are folded into one number, a billion seconds for each step of
the priority.  While the creation times lie closer together than that, the number
orders the tasks by priority first and then by time.  The queue stays a heap in
this order through submissions, cancellations and passes, so that whatever a pass
takes out comes before all that it leaves.
-/

/-- More urgent, or as urgent and older. -/
def Outranks (first second : Task) : Prop :=
  second.priority.value < first.priority.value ∨
    first.priority.value = second.priority.value ∧ first.createdAt < second.createdAt

/-- A billion seconds, the weight of one step of the priority. -/
def priorityStep : Rat := 1000000000

/-- Less than one step of the priorities lies between the two creation times. -/
def Near (first second : Task) : Prop :=
  first.createdAt - second.createdAt < priorityStep ∧
    second.createdAt - first.createdAt < priorityStep

namespace PriorityTaskItem

variable {first second item : PriorityTaskItem}

def key (item : PriorityTaskItem) : Lex (Rat × Rat) :=
  toLex (item.priority, item.createdAt)

theorem before_eq (first second : PriorityTaskItem) :
    first.before second = decide (first.key < second.key) := by
  apply Bool.eq_iff_iff.mpr
  rw [decide_eq_true_eq, key, key, Prod.Lex.toLex_lt_toLex]
  unfold before
  by_cases same : first.priority = second.priority
  · simp [same]
  · simp [same]

theorem orders_before : Heap.Orders before :=
  Heap.orders_of_key before_eq

theorem before_of_outranks {first second : Task} (near : Near first second)
    (outranks : Outranks first second) : (ofTask first).before (ofTask second) = true := by
  rw [before_eq, decide_eq_true_eq, key, key, Prod.Lex.toLex_lt_toLex]
  rcases outranks with higher | ⟨same, earlier⟩
  · left
    have step : second.priority.value + 1 ≤ first.priority.value := higher
    have folded : (second.priority.value : Rat) + 1 ≤ first.priority.value := by exact_mod_cast step
    have close := near.1
    unfold ofTask priorityStep at *
    dsimp only
    linarith
  · left
    unfold ofTask
    dsimp only
    rw [same]
    linarith

end PriorityTaskItem

namespace TaskScheduler

variable {hash : String -> Int} {s after : TaskScheduler} {tasks : List Task}

/-! ## The queue -/

/-- The queue is a heap of the entries of known tasks. -/
structure Queued (tasks : List Task) (queue : List PriorityTaskItem) : Prop where
  heap : Heap.OrderedFrom PriorityTaskItem.before 0 queue
  items : ∀ item, item ∈ queue -> item = PriorityTaskItem.ofTask item.task ∧
    ∃ task, task ∈ tasks ∧ item.task = { task with status := .queued }

theorem Queued.push {queue : List PriorityTaskItem} {item : PriorityTaskItem}
    (queued : Queued tasks queue)
    (made : item = PriorityTaskItem.ofTask item.task ∧
      ∃ task, task ∈ tasks ∧ item.task = { task with status := .queued }) :
    Queued tasks (Heap.push PriorityTaskItem.before queue item) where
  heap := Heap.ordered_push PriorityTaskItem.orders_before queued.heap
  items := by
    intro other member
    rcases mem_cons.mp (Heap.push_perm.mem_iff.mp member) with rfl | member
    · exact made
    · exact queued.items other member

theorem Queued.pop {queue rest : List PriorityTaskItem} {item : PriorityTaskItem}
    (queued : Queued tasks queue)
    (popped : Heap.pop PriorityTaskItem.before queue = some (item, rest)) :
    Queued tasks rest where
  heap := (Heap.ordered_pop PriorityTaskItem.orders_before queued.heap popped).1
  items := fun other member =>
    queued.items other ((Heap.pop_perm popped).mem_iff.mpr (mem_cons_of_mem _ member))

theorem Queued.popped {queue rest : List PriorityTaskItem} {item : PriorityTaskItem}
    (queued : Queued tasks queue)
    (popped : Heap.pop PriorityTaskItem.before queue = some (item, rest)) :
    item = PriorityTaskItem.ofTask item.task ∧
      ∃ task, task ∈ tasks ∧ item.task = { task with status := .queued } :=
  queued.items item ((Heap.pop_perm popped).mem_iff.mpr (mem_cons_self ..))

/-! ## A pass -/

/-- What one turn of the loop does to the queue. -/
inductive QueueTurned (s : TaskScheduler) : Turn -> TaskScheduler -> Prop
  | idle (empty : Heap.pop PriorityTaskItem.before s.pendingQueue = none) : QueueTurned s .stop s
  | raised (item : PriorityTaskItem) (rest : List PriorityTaskItem) (error : String)
      (after : TaskScheduler)
      (popped : Heap.pop PriorityTaskItem.before s.pendingQueue = some (item, rest))
      (left : after.pendingQueue = rest) (running : after.runningTasks = s.runningTasks) :
      QueueTurned s (.raised error) after
  | returned (item : PriorityTaskItem) (rest : List PriorityTaskItem) (after : TaskScheduler)
      (popped : Heap.pop PriorityTaskItem.before s.pendingQueue = some (item, rest))
      (left : after.pendingQueue = Heap.push PriorityTaskItem.before rest item)
      (running : after.runningTasks = s.runningTasks) : QueueTurned s .stop after
  | dispatched (item : PriorityTaskItem) (rest : List PriorityTaskItem) (task : Task)
      (after : TaskScheduler)
      (popped : Heap.pop PriorityTaskItem.before s.pendingQueue = some (item, rest))
      (left : after.pendingQueue = rest)
      (running : after.runningTasks = s.runningTasks.set item.taskId task) :
      QueueTurned s .next after

theorem scheduleNext_queueTurned (hash : String -> Int) (fault : Option PoolFault)
    (s : TaskScheduler) :
    QueueTurned s (scheduleNext hash fault s).1 (scheduleNext hash fault s).2 := by
  unfold scheduleNext
  split
  · next empty => exact .idle empty
  · next item rest popped =>
      split
      · exact .raised item rest _ _ popped rfl rfl
      · exact .returned item rest _ popped rfl rfl
      · next task manager pool placed =>
          apply QueueTurned.dispatched item rest task _ popped rfl
          show s.runningTasks.set task.taskId task = _
          rw [(placeTask_placed placed).1]
          rfl

/-- The items that the loop of a pass dispatches, in this order. -/
def dispatchedTurns (hash : String -> Int) :
    Nat -> (Nat -> Option PoolFault) -> TaskScheduler -> List PriorityTaskItem
  | 0, _, _ => []
  | turns + 1, faults, s =>
    match scheduleNext hash (faults 0) s, Heap.pop PriorityTaskItem.before s.pendingQueue with
    | (.next, after), some (item, _) =>
      item :: dispatchedTurns hash turns (fun turn => faults (turn + 1)) after
    | _, _ => []

def dispatchedBy (hash : String -> Int) (faults : Nat -> Option PoolFault) (s : TaskScheduler) :
    List PriorityTaskItem :=
  let availableSlots := s.maxConcurrentTasks - s.runningTasks.keys.length
  if availableSlots ≤ 0 then []
  else dispatchedTurns hash (min availableSlots.toNat s.pendingQueue.length) faults s

/-- What a pass has taken from the queue so far, and what it has left there. -/
structure PassOrder (tasks : List Task) (queue left : List PriorityTaskItem)
    (dispatched : List PriorityTaskItem) : Prop where
  queued : Queued tasks left
  within : ∀ item, item ∈ left -> item ∈ queue
  taken : ∀ item, item ∈ dispatched -> item ∈ queue
  order : ∀ item waiting, item ∈ dispatched -> waiting ∈ left ->
    waiting.before item = false

theorem PassOrder.none {queue : List PriorityTaskItem} (queued : Queued tasks queue) :
    PassOrder tasks queue queue [] where
  queued := queued
  within := fun _ member => member
  taken := fun _ impossible => absurd impossible not_mem_nil
  order := fun _ _ impossible => absurd impossible not_mem_nil

theorem scheduleTurns_order (turns : Nat) (faults : Nat -> Option PoolFault) (s : TaskScheduler)
    (queued : Queued tasks s.pendingQueue) :
    PassOrder tasks s.pendingQueue (scheduleTurns hash turns faults s).2.pendingQueue
      (dispatchedTurns hash turns faults s) := by
  induction turns generalizing faults s with
  | zero => exact .none queued
  | succ turns ih =>
    have turned := scheduleNext_queueTurned hash (faults 0) s
    unfold scheduleTurns dispatchedTurns
    generalize scheduleNext hash (faults 0) s = answer at turned
    rcases answer with ⟨turn, after⟩
    dsimp only at turned ⊢
    cases turned with
    | idle empty => exact .none queued
    | raised item rest error _ popped isLeft =>
      dsimp only
      rw [isLeft]
      refine ⟨queued.pop popped, ?_, ?_, ?_⟩
      · intro other member
        exact (Heap.pop_perm popped).mem_iff.mpr (mem_cons_of_mem _ member)
      · exact fun _ impossible => absurd impossible not_mem_nil
      · exact fun _ _ impossible => absurd impossible not_mem_nil
    | returned item rest _ popped isLeft =>
      dsimp only
      rw [isLeft]
      refine ⟨(queued.pop popped).push (queued.popped popped), ?_, ?_, ?_⟩
      · intro other member
        exact (Heap.pop_perm popped).mem_iff.mpr (Heap.push_perm.mem_iff.mp member)
      · exact fun _ impossible => absurd impossible not_mem_nil
      · exact fun _ _ impossible => absurd impossible not_mem_nil
    | dispatched item rest _ _ popped isLeft =>
      rw [popped]
      dsimp only
      have later := ih (fun turn => faults (turn + 1)) after (by
        rw [isLeft]
        exact queued.pop popped)
      rw [isLeft] at later
      have least := (Heap.ordered_pop PriorityTaskItem.orders_before queued.heap popped).2
      have smaller : ∀ other, other ∈ rest -> other ∈ s.pendingQueue :=
        fun other member => (Heap.pop_perm popped).mem_iff.mpr (mem_cons_of_mem _ member)
      refine ⟨later.queued, ?_, ?_, ?_⟩
      · exact fun other member => smaller other (later.within other member)
      · intro other member
        rcases mem_cons.mp member with rfl | member
        · exact (Heap.pop_perm popped).mem_iff.mpr (mem_cons_self ..)
        · exact smaller other (later.taken other member)
      · intro other waiting member remains
        rcases mem_cons.mp member with rfl | member
        · exact least waiting (later.within waiting remains)
        · exact later.order other waiting member remains

theorem schedulePendingTasks_order (faults : Nat -> Option PoolFault)
    (queued : Queued tasks s.pendingQueue) :
    PassOrder tasks s.pendingQueue (s.schedulePendingTasks hash faults).2.pendingQueue
      (s.dispatchedBy hash faults) := by
  unfold schedulePendingTasks dispatchedBy
  dsimp only
  split_ifs
  · exact .none queued
  · exact scheduleTurns_order _ faults s queued

/-! ## Runs -/

def submittedTasks (calls : List SchedulerCall) : List Task :=
  calls.filterMap fun call =>
    match call with
    | .submit task => some task
    | _ => none

theorem queued_step (queued : Queued tasks s.pendingQueue) {call : SchedulerCall}
    (known : ∀ task, task ∈ submittedTasks [call] -> task ∈ tasks) :
    Queued tasks (s.step hash call).pendingQueue := by
  cases call with
  | submit task =>
    unfold step submitTask
    by_cases allowed : s.checkUserQuota task.userId = true
    · simp only [allowed, if_true]
      exact queued.push ⟨rfl, task, known task (mem_singleton_self _), rfl⟩
    · simp only [allowed]
      exact queued
  | schedule faults => exact (schedulePendingTasks_order faults queued).queued
  | cancel id =>
    show Queued tasks (s.cancelTask id).2.pendingQueue
    unfold cancelTask
    split
    · next item rest taken =>
        refine ⟨Heap.ordered_heapify PriorityTaskItem.orders_before rest, ?_⟩
        intro other member
        have kept := (takeItem_eq_some taken).2
        exact queued.items other
          (kept.mem_iff.mpr (mem_cons_of_mem _ (Heap.heapify_perm.mem_iff.mp member)))
    · split
      · next task found =>
          rcases s.releaseGpuForTask_spec { task with status := .cancelled } with
            ⟨-, -, manager, pool, equal⟩
          dsimp only
          rw [equal]
          exact queued
      · exact queued
  | markRunning id =>
    rcases s.markTaskRunning_keys id with ⟨running, -, equal⟩
    simp only [step, equal]
    exact queued
  | markCompleted id =>
    have ended := s.markTaskCompleted_ended id
    show Queued tasks (s.markTaskCompleted id).pendingQueue
    generalize s.markTaskCompleted id = after at ended
    cases ended with
    | completed => exact queued
    | failed => exact queued
    | unknown => exact queued
  | markFailed id error traceback =>
    have ended := s.markTaskFailed_ended id error traceback
    show Queued tasks (s.markTaskFailed id error traceback).pendingQueue
    generalize s.markTaskFailed id error traceback = after at ended
    cases ended with
    | completed => exact queued
    | failed => exact queued
    | unknown => exact queued
  | setQuota user quota => exact queued
  | refresh remoteGpus =>
    rcases s.refreshRemoteGpus_spec remoteGpus with ⟨pool, equal⟩
    simp only [step, equal]
    exact queued
  | redis redis =>
    rcases s.redisChanges_spec redis with ⟨pool, equal⟩
    simp only [step, equal]
    exact queued

theorem queued_run {calls : List SchedulerCall} (queued : Queued tasks s.pendingQueue)
    (known : ∀ task, task ∈ submittedTasks calls -> task ∈ tasks) :
    Queued tasks (calls.foldl (step hash) s).pendingQueue := by
  induction calls generalizing s with
  | nil => exact queued
  | cons call rest ih =>
    have split : submittedTasks (call :: rest) = submittedTasks [call] ++ submittedTasks rest := by
      unfold submittedTasks
      rw [← filterMap_append]
      rfl
    rw [split] at known
    apply ih
    · exact queued_step queued fun task member => known task (mem_append_left _ member)
    · exact fun task member => known task (mem_append_right _ member)

/-- Whatever run came before, a task that a pass dispatches is not outranked by one
that stays pending, as long as the creation times of all submitted tasks are less
than a billion seconds apart. -/
theorem dispatch_in_order (hash : String -> Int) (manager : GPUManager) (pool : Option GpuPool)
    (limit : Int) (calls : List SchedulerCall) (faults : Nat -> Option PoolFault)
    (near : ∀ first second, first ∈ submittedTasks calls -> second ∈ submittedTasks calls ->
      Near first second) :
    let before := calls.foldl (step hash) (initial manager pool limit)
    let after := (before.schedulePendingTasks hash faults).2
    ∀ item waiting, item ∈ before.dispatchedBy hash faults -> waiting ∈ after.pendingQueue ->
      ¬ Outranks waiting.task item.task := by
  intro before after item waiting isDispatched waits outranks
  have queued : Queued (submittedTasks calls) before.pendingQueue := by
    apply queued_run
    · exact ⟨Heap.orderedFrom_nil, fun _ impossible => absurd impossible not_mem_nil⟩
    · exact fun task member => member
  have pass := @schedulePendingTasks_order hash before _ faults queued
  rcases queued.items item (pass.taken item isDispatched) with ⟨made, task, submitted, isTask⟩
  rcases pass.queued.items waiting waits with ⟨madeWaiting, other, submittedOther, isOther⟩
  have close : Near waiting.task item.task := by
    rw [isTask, isOther]
    exact near other task submittedOther submitted
  have first := PriorityTaskItem.before_of_outranks close outranks
  have last := pass.order item waiting isDispatched waits
  rw [made, madeWaiting, first] at last
  cases last

def orderedRun : List SchedulerCall :=
  [.submit { taskId := "b", priority := .low, createdAt := 0 },
    .submit { taskId := "a", createdAt := 1 }]

/-- The more urgent of two tasks that wait is taken first. -/
theorem dispatch_in_order_orderedRun :
    let before := orderedRun.foldl (step fun _ => 0) (initial singleDevice none 1)
    let after := (before.schedulePendingTasks (fun _ => 0) fun _ => none).2
    (before.dispatchedBy (fun _ => 0) fun _ => none).map (·.taskId) = ["a"] ∧
      after.pendingQueue.map (·.taskId) = ["b"] ∧
      ∀ item waiting, item ∈ before.dispatchedBy (fun _ => 0) (fun _ => none) ->
        waiting ∈ after.pendingQueue -> ¬ Outranks waiting.task item.task := by
  refine ⟨by with_unfolding_all rfl, by with_unfolding_all rfl,
    dispatch_in_order (fun _ => 0) singleDevice none 1 orderedRun (fun _ => none) ?_⟩
  have submitted : submittedTasks orderedRun =
      [{ taskId := "b", priority := .low, createdAt := 0 }, { taskId := "a", createdAt := 1 }] := rfl
  rw [submitted]
  simp only [mem_cons, not_mem_nil, or_false, Near, priorityStep]
  rintro first second (rfl | rfl) (rfl | rfl) <;> norm_num

/-- At a distance of exactly a billion seconds two steps of the priority have the
same number, and the earlier task goes first. -/
def boundaryRun : List SchedulerCall :=
  [.submit { taskId := "b", priority := .low, createdAt := 0 },
    .submit { taskId := "a", createdAt := 1000000000 }]

/-- Created exactly 10^9 s apart, the less urgent of two tasks goes first. -/
theorem outranked_at_the_boundary :
    ¬ ∀ (hash : String -> Int) (manager : GPUManager) (pool : Option GpuPool)
      (limit : Int) (calls : List SchedulerCall) (faults : Nat -> Option PoolFault),
      (∀ first second, first ∈ submittedTasks calls -> second ∈ submittedTasks calls ->
        first.createdAt - second.createdAt ≤ priorityStep) ->
      let before := calls.foldl (step hash) (initial manager pool limit)
      let after := (before.schedulePendingTasks hash faults).2
      ∀ item waiting, item ∈ before.dispatchedBy hash faults -> waiting ∈ after.pendingQueue ->
        ¬ Outranks waiting.task item.task := by
  intro ordered
  have submitted : submittedTasks boundaryRun =
      [{ taskId := "b", priority := .low, createdAt := 0 },
        { taskId := "a", createdAt := 1000000000 }] := rfl
  have within : ∀ first second, first ∈ submittedTasks boundaryRun ->
      second ∈ submittedTasks boundaryRun ->
      first.createdAt - second.createdAt ≤ priorityStep := by
    rw [submitted]
    simp only [mem_cons, not_mem_nil, or_false, priorityStep]
    rintro first second (rfl | rfl) (rfl | rfl) <;> norm_num
  have order := ordered (fun _ => 0) singleDevice none 1 boundaryRun (fun _ => none) within
  apply order (.ofTask { taskId := "b", priority := .low, createdAt := 0, status := .queued })
    (.ofTask { taskId := "a", createdAt := 1000000000, status := .queued })
  · with_unfolding_all exact mem_singleton.mpr rfl
  · with_unfolding_all exact mem_singleton.mpr rfl
  · left
    decide

end TaskScheduler

end Core
end ZepGpu
