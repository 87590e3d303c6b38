import ZepGpu.Queue.TaskSteps

namespace ZepGpu
namespace Queue

open Foundation Rooms List

/-!
# Room tasks and the workers of the coordinator

A room task is assigned to a provider and no message is sent for it.  A retry does
send one, and the row that the worker then finds is not assigned any more, so that
the worker runs the task itself.  The invariant says where messages come from.
-/

/-- What happens to the tables and the queue: a route or a worker task, a call of a
provider or a sweep, or a dispatch by itself. -/
inductive SystemCall
  | task (call : TaskCall)
  | lifecycle (call : LifecycleCall)
  | selectAndAssignRoomGpu (userId roomId taskId assignmentId : Uuid) (dispatchMode : String)
      (requirements : ShareRequirements) (acquire : Uuid -> Bool) (now : Time)

namespace QueueState

variable {settings : Settings} {state start after : QueueState} {taskId : Uuid} {task : Task}
  {calls : List SystemCall}

def withRooms (state : QueueState) (rooms : Rooms.Database) : QueueState :=
  { state with store := { state.store with rooms := rooms } }

def perform (settings : Settings) (state : QueueState) : SystemCall -> QueueState
  | .task call => state.step settings call
  | .lifecycle call => state.withRooms (state.store.rooms.performLifecycle settings call)
  | .selectAndAssignRoomGpu userId roomId taskId assignmentId dispatchMode requirements acquire now =>
    state.withRooms (state.store.rooms.selectAndAssignRoomGpu userId roomId taskId assignmentId
      dispatchMode requirements acquire now).state

def RoomRow (state : QueueState) (taskId : Uuid) (task : Task) : Prop :=
  state.store.rooms.tasks.get? taskId = some task ∧ task.dispatchMode ∈ roomDispatchModes

/-- The provider that a task is assigned to starts or completes it. -/
def Provides (state : QueueState) (taskId : Uuid) : SystemCall -> Prop
  | .lifecycle call => ByProvider state.store.rooms call taskId
  | _ => False

/-- No worker attempts the operation of a room task, and the row of a room task moves
to the statuses of a task that runs or has run by its provider only. -/
def ProviderOnly (settings : Settings) (state : QueueState) (call : SystemCall) : Prop :=
  ∀ taskId task, RoomRow state taskId task ->
    (state.perform settings call).attempted.count taskId = state.attempted.count taskId ∧
      ∀ later, (state.perform settings call).store.rooms.tasks.get? taskId = some later ->
        later.status = .running ∨ later.status = .completed ->
          later.status = task.status ∨ Provides state taskId call

/-- No room task that was retried is delivered to a worker that has what it needs. -/
def Unserved (state : QueueState) : SystemCall -> Prop
  | .task (.executeTask taskId _ _) =>
    taskId ∈ state.retried -> ∀ task, RoomRow state taskId task ->
      ¬ state.store.Obtains taskId
  | _ => True

/-! ## Where messages come from -/

/-- Messages name stored tasks, and those of room tasks come from retries. -/
structure Sent (state : QueueState) : Prop where
  messages : ∀ taskId, taskId ∈ state.messages -> ∃ task,
    state.store.rooms.tasks.get? taskId = some task ∧
      (task.dispatchMode ∈ roomDispatchModes -> taskId ∈ state.retried ∧ task.status ≠ .assigned)
  delayed : ∀ taskId, taskId ∈ state.delayed -> ∃ task,
    state.store.rooms.tasks.get? taskId = some task ∧ task.dispatchMode ∉ roomDispatchModes
  retried : ∀ taskId, taskId ∈ state.retried -> taskId ∈ state.messages

/-- A call takes no message out, and adds none but such ones. -/
structure Adds (state after : QueueState) : Prop where
  messages : ∀ taskId, taskId ∈ after.messages -> taskId ∈ state.messages ∨ ∃ task,
    after.store.rooms.tasks.get? taskId = some task ∧
      (task.dispatchMode ∈ roomDispatchModes -> taskId ∈ after.retried ∧ task.status ≠ .assigned)
  delayed : ∀ taskId, taskId ∈ after.delayed -> taskId ∈ state.delayed ∨ ∃ task,
    after.store.rooms.tasks.get? taskId = some task ∧ task.dispatchMode ∉ roomDispatchModes
  retried : ∀ taskId, taskId ∈ after.retried -> taskId ∈ state.retried ∨ taskId ∈ after.messages
  kept : ∀ taskId, taskId ∈ state.messages -> taskId ∈ after.messages
  keptRetried : ∀ taskId, taskId ∈ state.retried -> taskId ∈ after.retried

theorem Adds.of_same (messages : after.messages = state.messages) (delayed : after.delayed = state.delayed)
    (retried : after.retried = state.retried) : Adds state after := by
  refine ⟨?_, ?_, ?_, ?_, ?_⟩
  · rw [messages]
    exact fun _ => Or.inl
  · rw [delayed]
    exact fun _ => Or.inl
  · rw [retried]
    exact fun _ => Or.inl
  · rw [messages]
    exact fun _ => id
  · rw [retried]
    exact fun _ => id

theorem Sent.of_adds {runs revives : Uuid -> Prop} (sent : Sent state) (adds : Adds state after)
    (rows : RowsStep runs revives state.store.rooms after.store.rooms) : Sent after := by
  refine ⟨?_, ?_, ?_⟩
  · intro taskId member
    rcases adds.messages taskId member with old | new
    · rcases sent.messages taskId old with ⟨task, found, room⟩
      rcases rows taskId task found with ⟨later, here, step⟩
      refine ⟨later, here, ?_⟩
      intro isRoom
      rw [step.mode] at isRoom
      refine ⟨adds.keptRetried taskId (room isRoom).1, ?_⟩
      exact fun assigned => (room isRoom).2 (step.assigned assigned)
    · exact new
  · intro taskId member
    rcases adds.delayed taskId member with old | new
    · rcases sent.delayed taskId old with ⟨task, found, isLocal⟩
      rcases rows taskId task found with ⟨later, here, step⟩
      exact ⟨later, here, step.mode ▸ isLocal⟩
    · exact new
  · intro taskId member
    rcases adds.retried taskId member with old | new
    · exact adds.kept taskId (sent.retried taskId old)
    · exact new

theorem createTask_local {db : Rooms.Database} {userId assignmentId : Uuid}
    {request : TaskCreateRequest} {acquire : Uuid -> Bool} {now : Time}
    (created : (db.createTask userId taskId assignmentId request acquire now).result = .ok none) :
    ∃ task, (db.createTask userId taskId assignmentId request acquire now).state.tasks.get? taskId =
      some task ∧ task.dispatchMode ∉ roomDispatchModes := by
  unfold Database.createTask at created ⊢
  split at created
  · cases created
  · next valid =>
      split_ifs at created ⊢
      dsimp only at created ⊢
      split at created
      · next isLocal =>
          refine ⟨_, Dict.get?_set_self, ?_⟩
          intro (room : request.dispatchMode ∈ roomDispatchModes)
          have present := (raiseIf_bind_eq_ok.mp valid).1
          apply present ⟨room, ?_⟩
          cases given : request.roomId with
          | none => rfl
          | some roomId =>
            rw [given, Option.filter_some, if_pos (decide_eq_true room)] at isLocal
            cases isLocal
      · split at created
        · cases created
        · cases created
        · cases created

theorem createTask_messages (userId taskId assignmentId : Uuid) (request : TaskCreateRequest)
    (allowFallbackCpu : Bool) (acquire : Uuid -> Bool) (now : Time) :
    (state.createTask userId taskId assignmentId request allowFallbackCpu acquire now).messages =
      match (state.store.rooms.createTask userId taskId assignmentId request acquire now).result with
      | .ok none => state.messages ++ [taskId]
      | _ => state.messages :=
  rfl

theorem sent_createTask (sent : Sent state) (userId taskId assignmentId : Uuid)
    (request : TaskCreateRequest) (allowFallbackCpu : Bool) (acquire : Uuid -> Bool) (now : Time) :
    Sent (state.createTask userId taskId assignmentId request allowFallbackCpu acquire now) := by
  have rows := @createTask_rows (fun _ => False) (fun _ => False) state.store.rooms userId taskId
    assignmentId request acquire now
  refine sent.of_adds ?_ rows
  cases created : (state.store.rooms.createTask userId taskId assignmentId request acquire now).result with
  | error error =>
    apply Adds.of_same
    · rw [createTask_messages, created]
    · rfl
    · rfl
  | ok dispatched =>
    cases dispatched with
    | some result =>
      apply Adds.of_same
      · rw [createTask_messages, created]
      · rfl
      · rfl
    | none =>
      have messages : (state.createTask userId taskId assignmentId request allowFallbackCpu acquire
          now).messages = state.messages ++ [taskId] := by
        rw [createTask_messages, created]
      refine ⟨?_, fun _ => Or.inl, fun _ => Or.inl, ?_, fun _ => id⟩
      · intro other member
        rw [messages, mem_append, mem_singleton] at member
        rcases member with old | rfl
        · exact Or.inl old
        · rcases createTask_local created with ⟨task, found, isLocal⟩
          exact Or.inr ⟨task, found, fun room => absurd room isLocal⟩
      · intro other old
        rw [messages]
        exact mem_append_left _ old

theorem sent_createDelayedTask (sent : Sent state) (userId taskId : Uuid) (timeoutSeconds : Int)
    (metadata : Dict String Json) (gpuMemoryMb : Int) (allowFallbackCpu : Bool) :
    Sent (state.createDelayedTask userId taskId timeoutSeconds metadata gpuMemoryMb
      allowFallbackCpu) := by
  have rows := @createDelayedTask_rows state taskId (fun _ => False) (fun _ => False) userId
    timeoutSeconds metadata gpuMemoryMb allowFallbackCpu
  refine sent.of_adds ?_ rows
  unfold createDelayedTask
  split_ifs
  · exact .of_same rfl rfl rfl
  · refine ⟨fun _ => Or.inl, ?_, fun _ => Or.inl, fun _ => id, fun _ => id⟩
    intro other member
    rcases mem_append.mp member with old | new
    · exact Or.inl old
    · rw [mem_singleton.mp new]
      refine Or.inr ⟨_, Dict.get?_set_self, ?_⟩
      have isLocal : "local" ∉ roomDispatchModes := by decide
      exact isLocal

theorem sent_retryTask (sent : Sent state) (taskId userId : Uuid) (now : Time) :
    Sent (state.retryTask taskId userId now) := by
  have rows := @retryTask_rows state taskId (fun _ => False) userId now
  refine sent.of_adds ?_ rows
  unfold retryTask
  split
  · exact .of_same rfl rfl rfl
  · next task found =>
      split_ifs
      · refine ⟨?_, fun _ => Or.inl, ?_, fun _ => mem_append_left _,
          fun _ => mem_append_left _⟩
        · intro other member
          rcases mem_append.mp member with old | new
          · exact Or.inl old
          · rw [mem_singleton.mp new]
            exact Or.inr ⟨_, TaskStore.updateStatus_task found,
              fun _ => ⟨mem_append_right _ (mem_singleton_self _), nofun⟩⟩
        · intro other member
          rcases mem_append.mp member with old | new
          · exact Or.inl old
          · exact Or.inr (mem_append_right _ new)
      · exact .of_same rfl rfl rfl

theorem sent_executeDelayedTask (sent : Sent state) (due : taskId ∈ state.delayed) :
    Sent (state.executeDelayedTask taskId) := by
  have rows := @executeDelayedTask_rows state taskId (fun _ => False) (fun _ => False)
  refine sent.of_adds ?_ rows
  rcases sent.delayed taskId due with ⟨task, found, isLocal⟩
  unfold executeDelayedTask
  split
  · exact .of_same rfl rfl rfl
  · split_ifs
    · refine ⟨?_, fun _ => Or.inl, fun _ => Or.inl, fun _ => mem_append_left _, fun _ => id⟩
      intro other member
      rcases mem_append.mp member with old | new
      · exact Or.inl old
      · rw [mem_singleton.mp new]
        exact Or.inr ⟨task, found, fun room => absurd room isLocal⟩
    · exact .of_same rfl rfl rfl

theorem sent_step (sent : Sent state) (call : TaskCall) : Sent (state.step settings call) := by
  have rows := step_rows settings state call
  cases call with
  | createTask userId taskId assignmentId request allowFallbackCpu acquire now =>
    exact sent_createTask sent userId taskId assignmentId request allowFallbackCpu acquire now
  | createDelayedTask userId taskId timeoutSeconds metadata gpuMemoryMb allowFallbackCpu =>
    exact sent_createDelayedTask sent userId taskId timeoutSeconds metadata gpuMemoryMb
      allowFallbackCpu
  | retryTask taskId userId now => exact sent_retryTask sent taskId userId now
  | executeDelayedTask taskId =>
    simp only [step]
    split_ifs with due
    · exact sent_executeDelayedTask sent due
    · exact sent
  | cancelTask => exact sent.of_adds (.of_same rfl rfl rfl) rows
  | preemptTask => exact sent.of_adds (.of_same rfl rfl rfl) rows
  | interrupted => exact sent.of_adds (.of_same rfl rfl rfl) rows
  | executeTask taskId attempt clock =>
    simp only [step] at rows ⊢
    split_ifs at rows ⊢
    · exact sent.of_adds (.of_same rfl rfl rfl) rows
    · exact sent
  | onFailure taskId error traceback now =>
    simp only [step] at rows ⊢
    split_ifs at rows ⊢
    · exact sent.of_adds (.of_same rfl rfl rfl) rows
    · exact sent

theorem sent_perform (sent : Sent state) (call : SystemCall) : Sent (state.perform settings call) := by
  cases call with
  | task call => exact sent_step sent call
  | lifecycle call =>
    exact sent.of_adds (.of_same rfl rfl rfl) (performLifecycle_rows settings _ call)
  | selectAndAssignRoomGpu userId roomId taskId assignmentId dispatchMode requirements acquire now =>
    have rows := @RowsStep.of_tasks (fun _ => False) (fun _ => False) _ _
      (@selectAndAssignRoomGpu_tasks state.store.rooms userId roomId taskId assignmentId dispatchMode
        requirements acquire now)
    exact sent.of_adds (.of_same rfl rfl rfl) rows

/-! ## Who runs a room task -/

theorem providerOnly_step (call : TaskCall) (others : ∀ taskId, ¬ Delivers taskId call) :
    ProviderOnly settings state (.task call) := by
  intro taskId task row
  constructor
  · apply count_attempted_step
    rintro attempt clock rfl
    exact others taskId rfl
  · intro later found ran
    rcases step_rows settings state call taskId task row.1 with ⟨same, here, step⟩
    obtain rfl := Option.some.inj (here.symm.trans found)
    exact Or.inl ((step.ran ran).resolve_right (others taskId))

theorem providerOnly_lifecycle (call : LifecycleCall) :
    ProviderOnly settings state (.lifecycle call) := by
  intro taskId task row
  refine ⟨rfl, ?_⟩
  intro later found ran
  rcases performLifecycle_rows settings state.store.rooms call taskId task row.1 with
    ⟨same, here, step⟩
  obtain rfl := Option.some.inj (here.symm.trans found)
  exact step.ran ran

theorem executeTask_room (row : RoomRow state taskId task) (due : task.status ≠ .assigned)
    (attempt : Attempt) (clock : Nat -> Time) :
    (state.store.Obtains taskId ∧ (state.executeTask taskId attempt clock).attempted.count taskId =
        state.attempted.count taskId + 1) ∨
      (¬ state.store.Obtains taskId ∧
        (state.executeTask taskId attempt clock).attempted = state.attempted ∧
        ∃ later, (state.executeTask taskId attempt clock).store.rooms.tasks.get? taskId =
          some later ∧ later.status = .failed) := by
  have prepared := state.store.prepare_cases taskId clock
  rw [executeTask_attempted]
  cases result : state.store.prepare taskId clock with
  | inl done =>
    rcases done with ⟨reply, after⟩
    rw [executeTask_store_of_inl result]
    rw [result] at prepared
    cases prepared with
    | notFound missing =>
      rw [row.1] at missing
      cases missing
    | deferred here waits =>
      obtain rfl := Option.some.inj (here.symm.trans row.1)
      exact absurd waits.2 due
    | noGpu here ready lacks rows written failed =>
      exact Or.inr ⟨lacks, rfl, _, written, failed⟩
  | inr goes =>
    rw [result] at prepared
    cases prepared with
    | goes here ready obtains rows =>
      left
      rw [if_pos Sum.isRight_inr, count_append, count_singleton_self]
      exact ⟨obtains, rfl⟩

theorem providerOnly_executeTask_iff (sent : Sent state) (attempt : Attempt) (clock : Nat -> Time) :
    ProviderOnly settings state (.task (.executeTask taskId attempt clock)) ↔
      Unserved state (.task (.executeTask taskId attempt clock)) := by
  by_cases queued : taskId ∈ state.messages
  · have delivered : state.perform settings (.task (.executeTask taskId attempt clock)) =
        state.executeTask taskId attempt clock := if_pos queued
    constructor
    · intro only retried task row obtains
      rcases sent.messages taskId queued with ⟨found, here, room⟩
      obtain rfl := Option.some.inj (here.symm.trans row.1)
      have counted := (only taskId found row).1
      rw [delivered] at counted
      rcases executeTask_room row (room row.2).2 attempt clock with ⟨-, more⟩ | ⟨lacks, -⟩
      · omega
      · exact lacks obtains
    · intro unserved other task row
      rw [delivered]
      by_cases same : other = taskId
      · subst same
        rcases sent.messages other queued with ⟨found, here, room⟩
        obtain rfl := Option.some.inj (here.symm.trans row.1)
        have fromRetry := room row.2
        rcases executeTask_room row fromRetry.2 attempt clock with
          ⟨obtains, -⟩ | ⟨-, unattempted, later, written, failed⟩
        · exact absurd obtains (unserved fromRetry.1 found row)
        · rw [unattempted]
          refine ⟨rfl, ?_⟩
          intro last isLast ran
          obtain rfl := Option.some.inj (written.symm.trans isLast)
          rw [failed] at ran
          rcases ran with running | completed
          · cases running
          · cases completed
      · refine ⟨count_attempted_of_ne same attempt clock, ?_⟩
        intro later found ran
        rcases executeTask_rows attempt clock other task row.1 with ⟨last, here, step⟩
        obtain rfl := Option.some.inj (here.symm.trans found)
        exact Or.inl ((step.ran ran).resolve_right same)
  · have ignored : state.perform settings (.task (.executeTask taskId attempt clock)) = state :=
      if_neg queued
    refine iff_of_true ?_ ?_
    · intro other task row
      rw [ignored]
      refine ⟨rfl, ?_⟩
      intro later found ran
      obtain rfl := Option.some.inj (row.1.symm.trans found)
      exact Or.inl rfl
    · exact fun retried => absurd (sent.retried taskId retried) queued

theorem providerOnly_iff (sent : Sent state) (call : SystemCall) :
    ProviderOnly settings state call ↔ Unserved state call := by
  cases call with
  | lifecycle call => exact iff_of_true (providerOnly_lifecycle call) trivial
  | selectAndAssignRoomGpu userId roomId taskId assignmentId dispatchMode requirements acquire now =>
    refine iff_of_true ?_ trivial
    intro other task row
    refine ⟨rfl, ?_⟩
    intro later found ran
    have same : (state.perform settings (.selectAndAssignRoomGpu userId roomId taskId assignmentId
        dispatchMode requirements acquire now)).store.rooms.tasks = state.store.rooms.tasks :=
      selectAndAssignRoomGpu_tasks ..
    rw [same, row.1] at found
    rw [Option.some.inj found]
    exact Or.inl rfl
  | task call =>
    cases call with
    | executeTask taskId attempt clock => exact providerOnly_executeTask_iff sent attempt clock
    | createTask => exact iff_of_true (providerOnly_step _ fun _ => id) trivial
    | createDelayedTask => exact iff_of_true (providerOnly_step _ fun _ => id) trivial
    | cancelTask => exact iff_of_true (providerOnly_step _ fun _ => id) trivial
    | retryTask => exact iff_of_true (providerOnly_step _ fun _ => id) trivial
    | executeDelayedTask => exact iff_of_true (providerOnly_step _ fun _ => id) trivial
    | preemptTask => exact iff_of_true (providerOnly_step _ fun _ => id) trivial
    | interrupted => exact iff_of_true (providerOnly_step _ fun _ => id) trivial
    | onFailure => exact iff_of_true (providerOnly_step _ fun _ => id) trivial

/-- From any tables and an empty queue: room tasks are run by their providers only,
exactly when no room task that was retried is delivered to a worker that has what
the task needs. -/
theorem room_tasks_provider_only_iff (settings : Settings) (store : TaskStore)
    (calls : List SystemCall) :
    Meets (perform settings) (ProviderOnly settings) { store := store } calls ↔
      Meets (perform settings) Unserved { store := store } calls := by
  have first : Sent { store := store } := by
    refine ⟨?_, ?_, ?_⟩
    · exact fun _ member => absurd member not_mem_nil
    · exact fun _ member => absurd member not_mem_nil
    · exact fun _ member => absurd member not_mem_nil
  have trivially : Meets (perform settings) (fun _ _ => True) { store := store } calls :=
    meets_of_forall fun _ _ => trivial
  exact trivially.congr first (fun _ call sent _ => sent_perform sent call)
    fun _ call sent _ => providerOnly_iff sent call

def retriedRoomTask : List SystemCall :=
  [.task (.createTask Sample.userId Sample.taskId Sample.assignmentId Sample.request true
      (fun _ => true) 0),
    .task (.cancelTask Sample.taskId Sample.userId 1 1 1),
    .task (.retryTask Sample.taskId Sample.userId 2)]

def roomStore : TaskStore where
  rooms := Sample.idleRoom
  columns := fun _ => {}
  gpus := Dict.empty

/-- The worker runs the operation of the retried task, which raises. -/
theorem retriedRoomTask_delivered :
    ∃ task, RoomRow (retriedRoomTask.foldl (perform Sample.settings) { store := roomStore })
        Sample.taskId task ∧
      ((retriedRoomTask.foldl (perform Sample.settings) { store := roomStore }).perform Sample.settings
        (.task (.executeTask Sample.taskId (.raised "math domain error") fun _ => 3))).attempted =
          [Sample.taskId] :=
  ⟨_, ⟨rfl, by decide⟩, rfl⟩

/-- A retry sends a room task to a worker, who runs it. -/
theorem room_task_run_by_worker :
    ¬ ∀ (settings : Settings) (store : TaskStore) (calls : List SystemCall),
      Meets (perform settings) (ProviderOnly settings) { store := store } calls := by
  intro claimed
  have only := (claimed Sample.settings roomStore
    (retriedRoomTask ++
      [.task (.executeTask Sample.taskId (.raised "math domain error") fun _ => 3)])).at
  rcases retriedRoomTask_delivered with ⟨task, row, attempted⟩
  have counted := (only Sample.taskId task row).1
  rw [attempted] at counted
  exact absurd counted (by decide)

end QueueState

end Queue
end ZepGpu
