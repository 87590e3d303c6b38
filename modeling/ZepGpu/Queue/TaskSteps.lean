import ZepGpu.Queue.Tasks
import ZepGpu.Rooms.TaskRows

namespace ZepGpu
namespace Queue

open Foundation Rooms Dict

/-!
# What a delivered message can do

A worker writes the row that its message names and no other.  Before it attempts
an operation it stops for three reasons only: there is no row, the row waits for a
provider, or the task needs a device and there is none.
-/

namespace TaskStore

variable {store : TaskStore} {taskId : Uuid} {task : Task} {status : TaskStatus} {now : Time}
  {fields : Task -> Task} {columns : TaskColumns -> TaskColumns} {runs revives : Uuid -> Prop}

theorem updateStatus_task (found : store.rooms.tasks.get? taskId = some task) :
    (store.updateStatus taskId status now fields columns).rooms.tasks.get? taskId =
      some (fields (withStatus status now task)) := by
  unfold updateStatus
  rw [found]
  exact get?_set_self

theorem updateStatus_columns (found : store.rooms.tasks.get? taskId = some task) :
    (store.updateStatus taskId status now fields columns).columns taskId =
      columns (store.columns taskId) := by
  unfold updateStatus
  rw [found]
  exact Function.update_self ..

theorem updateStatus_gpus :
    (store.updateStatus taskId status now fields columns).gpus = store.gpus := by
  unfold updateStatus
  split
  · rfl
  · rfl

theorem updateStatus_rows (mode : ∀ task, (fields task).dispatchMode = task.dispatchMode)
    (given : ∀ task, (fields task).status = task.status) (status_ne : status ≠ .assigned)
    (ran : status = .running ∨ status = .completed -> runs taskId) :
    RowsStep runs (· = taskId) store.rooms
      (store.updateStatus taskId status now fields columns).rooms := by
  unfold updateStatus
  split
  · exact .of_tasks rfl
  · next task found =>
      refine .set found rfl ⟨mode _, ?_, ?_, fun _ => Or.inr rfl⟩
      · rw [given]
        exact fun assigned => absurd assigned status_ne
      · rw [given]
        exact fun now => Or.inr (ran now)

theorem markRunning_rows :
    RowsStep (· = taskId) (· = taskId) store.rooms (store.markRunning taskId now).rooms :=
  updateStatus_rows (fun _ => rfl) (fun _ => rfl) nofun fun _ => rfl

theorem markCompleted_rows {executionTimeMs : Option Int} :
    RowsStep (· = taskId) (· = taskId) store.rooms
      (store.markCompleted taskId executionTimeMs now).rooms :=
  updateStatus_rows (fun _ => rfl) (fun _ => rfl) nofun fun _ => rfl

theorem markFailed_rows {error : String} {traceback : Option String} :
    RowsStep runs (· = taskId) store.rooms (store.markFailed taskId error traceback now).rooms :=
  updateStatus_rows (fun _ => rfl) (fun _ => rfl) nofun nofun

theorem markTimeout_rows :
    RowsStep runs (· = taskId) store.rooms (store.markTimeout taskId now).rooms :=
  updateStatus_rows (fun _ => rfl) (fun _ => rfl) nofun nofun

theorem releaseGpu_rooms (gpu : Option Int) : (store.releaseGpu gpu).rooms = store.rooms := by
  cases gpu with
  | none => rfl
  | some index => rfl

/-- The task needs no device, may do without one, or there is one for it. -/
def Obtains (store : TaskStore) (taskId : Uuid) : Prop :=
  (store.columns taskId).gpuMemoryMb ≤ 0 ∨ (store.columns taskId).allowFallbackCpu = true ∨
    ∃ index device, store.gpus.get? index = some device ∧ device.isFree = true ∧
      device.canHold (store.columns taskId).gpuMemoryMb = true

/-- A search for a device changes no row but that of its task. -/
structure Searched (store : TaskStore) (taskId : Uuid) (after : TaskStore) : Prop where
  rows : RowsStep (· = taskId) (· = taskId) store.rooms after.rooms
  memory : (after.columns taskId).gpuMemoryMb = (store.columns taskId).gpuMemoryMb
  fallback : (after.columns taskId).allowFallbackCpu = (store.columns taskId).allowFallbackCpu

theorem Searched.refl (store : TaskStore) (taskId : Uuid) : Searched store taskId store :=
  ⟨.of_tasks rfl, rfl, rfl⟩

theorem updateStatus_searched (found : store.rooms.tasks.get? taskId = some task)
    (rows : RowsStep (· = taskId) (· = taskId) store.rooms
      (store.updateStatus taskId status now fields columns).rooms)
    (memory : (columns (store.columns taskId)).gpuMemoryMb = (store.columns taskId).gpuMemoryMb)
    (fallback : (columns (store.columns taskId)).allowFallbackCpu =
      (store.columns taskId).allowFallbackCpu) :
    Searched store taskId (store.updateStatus taskId status now fields columns) := by
  refine ⟨rows, ?_, ?_⟩
  · rw [updateStatus_columns found]
    exact memory
  · rw [updateStatus_columns found]
    exact fallback

theorem Searched.trans {middle after : TaskStore} (first : Searched store taskId middle)
    (second : Searched middle taskId after) : Searched store taskId after :=
  ⟨first.rows.trans second.rows, second.memory.trans first.memory,
    second.fallback.trans first.fallback⟩

theorem allocate_of_free {gpus : GpuTable} {index : Int} {device : GpuDevice} {holder : String}
    (found : gpus.get? index = some device) (free : device.isFree = true) :
    ∃ taken, gpus.allocate index holder = some taken := by
  unfold GpuTable.allocate
  rw [found, Option.filter_some, if_pos free]
  exact ⟨_, rfl⟩

theorem allocateFirst_searched (indices : List Int)
    (found : store.rooms.tasks.get? taskId = some task) :
    Searched store taskId (allocateFirst taskId now indices store).2 := by
  induction indices with
  | nil => exact .refl store taskId
  | cons index rest ih =>
    unfold allocateFirst
    split_ifs
    · split
      · exact ih
      · next gpus _ =>
          have written := @updateStatus_searched { store with gpus := gpus } taskId task .running now
            id (fun columns => { columns with gpuDeviceId := some index }) found
            (updateStatus_rows (fun _ => rfl) (fun _ => rfl) nofun fun _ => rfl) rfl rfl
          exact ⟨written.rows, written.memory, written.fallback⟩
    · exact ih

theorem allocateFirst_eq_none_iff (indices : List Int)
    (free : ∀ index, index ∈ indices ->
      ∃ device, store.gpus.get? index = some device ∧ device.isFree = true) :
    (allocateFirst taskId now indices store).1 = none ↔ ∀ index, index ∈ indices ->
      ∀ device, store.gpus.get? index = some device ->
        device.canHold (store.columns taskId).gpuMemoryMb = false := by
  induction indices with
  | nil => exact iff_of_true rfl fun _ member => absurd member List.not_mem_nil
  | cons index rest ih =>
    rcases free index (List.mem_cons_self ..) with ⟨device, found, isFree⟩
    have later := ih fun other member => free other (List.mem_cons_of_mem _ member)
    unfold allocateFirst
    rw [found, Option.any_some]
    cases holds : device.canHold (store.columns taskId).gpuMemoryMb with
    | true =>
      rcases @allocate_of_free _ _ _ (strOfUuid taskId) found isFree with ⟨taken, took⟩
      rw [if_pos rfl, took]
      refine iff_of_false nofun ?_
      intro none
      exact absurd (holds.symm.trans (none index (List.mem_cons_self ..) device found)) nofun
    | false =>
      rw [if_neg nofun, later, List.forall_mem_cons]
      refine (and_iff_right ?_).symm
      intro other here
      rw [found] at here
      rw [← Option.some.inj here]
      exact holds

theorem allocateGpu_searched (found : store.rooms.tasks.get? taskId = some task) :
    Searched store taskId (store.allocateGpu taskId now).2 := by
  unfold allocateGpu
  split_ifs
  · exact allocateFirst_searched _ found
  · exact .refl store taskId

theorem allocateGpu_lacks_iff :
    (0 < (store.columns taskId).gpuMemoryMb ∧ (store.allocateGpu taskId now).1 = none ∧
      ¬ (store.columns taskId).allowFallbackCpu = true) ↔ ¬ store.Obtains taskId := by
  have search := @allocateFirst_eq_none_iff store taskId now store.gpus.listAvailable
    fun index member => GpuTable.mem_listWhere.mp member
  unfold Obtains allocateGpu
  rw [not_or, not_or, Int.not_le]
  refine and_congr_right ?_
  intro needs
  rw [if_pos needs, search, and_comm]
  refine and_congr_right ?_
  intro _
  constructor
  · rintro none ⟨index, device, found, free, holds⟩
    have lacks := none index (GpuTable.mem_listWhere.mpr ⟨device, found, free⟩) device found
    exact absurd (holds.symm.trans lacks) nofun
  · intro none index member device found
    rcases GpuTable.mem_listWhere.mp member with ⟨other, here, free⟩
    obtain rfl : other = device := Option.some.inj (here.symm.trans found)
    exact Bool.eq_false_of_not_eq_true fun holds => none ⟨index, other, found, free, holds⟩

/-- A room task that waits for its provider. -/
def Deferred (task : Task) : Prop :=
  task.dispatchMode ∈ roomDispatchModes ∧ task.status = .assigned

/-- What a worker finds before it runs the operation. -/
inductive Prepared (store : TaskStore) (taskId : Uuid) :
    (ExecutionReply × TaskStore) ⊕ (Option Int × TaskStore) -> Prop
  | notFound (missing : store.rooms.tasks.get? taskId = none) :
      Prepared store taskId (.inl (.notFound, store))
  | deferred {task : Task} (found : store.rooms.tasks.get? taskId = some task)
      (waits : Deferred task) : Prepared store taskId (.inl (.deferred, store))
  | noGpu {task row : Task} {after : TaskStore}
      (found : store.rooms.tasks.get? taskId = some task) (due : ¬ Deferred task)
      (lacks : ¬ store.Obtains taskId) (rows : RowsStep (· = taskId) (· = taskId) store.rooms after.rooms)
      (written : after.rooms.tasks.get? taskId = some row) (failed : row.status = .failed) :
      Prepared store taskId (.inl (.noGpu, after))
  | goes {task : Task} {gpu : Option Int} {after : TaskStore}
      (found : store.rooms.tasks.get? taskId = some task) (due : ¬ Deferred task)
      (obtains : store.Obtains taskId) (rows : RowsStep (· = taskId) (· = taskId) store.rooms after.rooms) :
      Prepared store taskId (.inr (gpu, after))

theorem prepare_cases (store : TaskStore) (taskId : Uuid) (clock : Nat -> Time) :
    Prepared store taskId (store.prepare taskId clock) := by
  unfold prepare
  split
  · next missing => exact .notFound missing
  · next task found =>
      have isRunning : (store.markRunning taskId (clock 0)).rooms.tasks.get? taskId =
          some (withStatus .running (clock 0) task) := updateStatus_task found
      have marked : Searched store taskId (store.markRunning taskId (clock 0)) :=
        updateStatus_searched found markRunning_rows rfl rfl
      have searched := marked.trans (@allocateGpu_searched _ _ _ (clock 1) isRunning)
      have same : (store.markRunning taskId (clock 0)).Obtains taskId ↔ store.Obtains taskId := by
        unfold Obtains
        rw [marked.memory, marked.fallback,
          show (store.markRunning taskId (clock 0)).gpus = store.gpus from updateStatus_gpus]
      have lacks := @allocateGpu_lacks_iff (store.markRunning taskId (clock 0)) taskId (clock 1)
      rw [same, marked.memory, marked.fallback] at lacks
      split_ifs with waits
      · exact .deferred found waits
      · dsimp only
        rw [searched.memory, searched.fallback]
        split_ifs with none
        · rcases searched.rows taskId task found with ⟨later, here, -⟩
          exact .noGpu found waits (lacks.mp none) (searched.rows.trans markFailed_rows)
            (updateStatus_task here) rfl
        · exact .goes found waits (not_not.mp (mt lacks.mpr none)) searched.rows

theorem executeBody_of_inl {attempt : Attempt} {clock : Nat -> Time}
    {done : ExecutionReply × TaskStore} (stops : store.prepare taskId clock = .inl done) :
    executeBody taskId attempt clock store = .ok done := by
  unfold executeBody
  rw [stops]

theorem executeBody_rows {attempt : Attempt} {clock : Nat -> Time} {reply : ExecutionReply}
    {after : TaskStore} (run : executeBody taskId attempt clock store = .ok (reply, after)) :
    RowsStep (· = taskId) (· = taskId) store.rooms after.rooms := by
  have prepared := store.prepare_cases taskId clock
  unfold executeBody at run
  revert run prepared
  generalize store.prepare taskId clock = result
  intro run prepared
  cases prepared with
  | notFound missing =>
    cases run
    exact .of_tasks rfl
  | deferred found waits =>
    cases run
    exact .of_tasks rfl
  | noGpu found due lacks rows written failed =>
    cases run
    exact rows
  | goes found due obtains rows =>
    cases attempt with
    | returned stored =>
      cases run
      rw [releaseGpu_rooms]
      exact rows.trans markCompleted_rows
    | rejected message =>
      cases run
      rw [releaseGpu_rooms]
      exact rows.trans markFailed_rows
    | timedOut =>
      cases run
      rw [releaseGpu_rooms]
      exact rows.trans markTimeout_rows
    | raised error => cases run

end TaskStore

namespace QueueState

variable {settings : Settings} {state : QueueState} {taskId : Uuid} {call : TaskCall} {runs revives : Uuid -> Prop}

theorem executeTask_rows (attempt : Attempt) (clock : Nat -> Time) :
    RowsStep (· = taskId) (· = taskId) state.store.rooms
      (state.executeTask taskId attempt clock).store.rooms := by
  unfold executeTask
  apply @transaction_preserves _ _ _ (fun after => RowsStep (· = taskId) (· = taskId)
    state.store.rooms (TaskStore.rooms after))
  · exact .of_tasks rfl
  · intro reply after run
    exact TaskStore.executeBody_rows run

theorem executeTask_store_of_inl {attempt : Attempt} {clock : Nat -> Time} {reply : ExecutionReply}
    {after : TaskStore} (stops : state.store.prepare taskId clock = .inl (reply, after)) :
    (state.executeTask taskId attempt clock).store = after := by
  unfold executeTask
  rw [transaction_of_ok (TaskStore.executeBody_of_inl stops)]

theorem executeTask_attempted (attempt : Attempt) (clock : Nat -> Time) :
    (state.executeTask taskId attempt clock).attempted =
      if (state.store.prepare taskId clock).isRight then state.attempted ++ [taskId]
      else state.attempted :=
  rfl

theorem createDelayedTask_rows (userId : Uuid) (timeoutSeconds : Int)
    (metadata : Dict String Json) (gpuMemoryMb : Int) (allowFallbackCpu : Bool) :
    RowsStep runs revives state.store.rooms (state.createDelayedTask userId taskId timeoutSeconds metadata
      gpuMemoryMb allowFallbackCpu).store.rooms := by
  unfold createDelayedTask
  split_ifs with known
  · exact .of_tasks rfl
  · exact .fresh (get?_eq_none_iff.mpr known) fun other different => get?_set_of_ne different

theorem retryTask_rows (userId : Uuid) (now : Time) :
    RowsStep runs (· = taskId) state.store.rooms (state.retryTask taskId userId now).store.rooms := by
  unfold retryTask
  split
  · exact .of_tasks rfl
  · split_ifs
    · exact TaskStore.updateStatus_rows (fun _ => rfl) (fun _ => rfl) nofun nofun
    · exact .of_tasks rfl

theorem executeDelayedTask_rows :
    RowsStep runs revives state.store.rooms (state.executeDelayedTask taskId).store.rooms := by
  unfold executeDelayedTask
  split
  · exact .of_tasks rfl
  · split_ifs
    · exact .of_tasks rfl
    · exact .of_tasks rfl

theorem preemptTask_rows (now : Time) :
    RowsStep runs revives state.store.rooms (state.store.preemptTask taskId now).rooms := by
  unfold TaskStore.preemptTask
  split
  · exact .of_tasks rfl
  · next task found =>
      split_ifs with running
      · rw [TaskStore.releaseGpu_rooms]
        unfold TaskStore.markFailed TaskStore.updateStatus
        rw [found]
        refine .set found rfl (.of_status rfl ⟨nofun, nofun, nofun⟩ ?_)
        intro cancelled
        rw [running] at cancelled
        cases cancelled
      · exact .of_tasks rfl

def Delivers (taskId : Uuid) : TaskCall -> Prop
  | .executeTask target _ _ => taskId = target
  | _ => False

/-- The row that a call may run, bring back or report as failed. -/
def Touches (taskId : Uuid) : TaskCall -> Prop
  | .retryTask target _ _ => taskId = target
  | .executeTask target _ _ => taskId = target
  | .onFailure target _ _ _ => taskId = target
  | _ => False

theorem step_rows (settings : Settings) (state : QueueState) (call : TaskCall) :
    RowsStep (Delivers · call) (Touches · call) state.store.rooms (state.step settings call).store.rooms := by
  cases call with
  | createTask userId taskId assignmentId request allowFallbackCpu acquire now =>
    exact createTask_rows userId taskId assignmentId request acquire now
  | createDelayedTask userId taskId timeoutSeconds metadata gpuMemoryMb allowFallbackCpu =>
    exact createDelayedTask_rows userId timeoutSeconds metadata gpuMemoryMb allowFallbackCpu
  | cancelTask taskId userId requestedAt endedAt cancelledAt =>
    exact cancelTask_rows userId requestedAt endedAt cancelledAt
  | retryTask taskId userId now => exact retryTask_rows userId now
  | executeDelayedTask taskId =>
    simp only [step]
    split_ifs
    · exact executeDelayedTask_rows
    · exact .of_tasks rfl
  | executeTask taskId attempt clock =>
    simp only [step]
    split_ifs
    · exact executeTask_rows attempt clock
    · exact .of_tasks rfl
  | preemptTask taskId now => exact preemptTask_rows now
  | interrupted taskId => exact .of_tasks rfl
  | onFailure taskId error traceback now =>
    simp only [step]
    split_ifs
    · exact TaskStore.markFailed_rows
    · exact .of_tasks rfl

theorem count_attempted_of_ne {other : Uuid} (different : taskId ≠ other) (attempt : Attempt)
    (clock : Nat -> Time) :
    (state.executeTask other attempt clock).attempted.count taskId =
      state.attempted.count taskId := by
  rw [executeTask_attempted]
  split_ifs
  · rw [List.count_append, List.count_singleton, if_neg (by simpa using different.symm)]
    rfl
  · rfl

theorem count_attempted_step (others : ∀ attempt clock, call ≠ .executeTask taskId attempt clock) :
    (state.step settings call).attempted.count taskId = state.attempted.count taskId := by
  cases call with
  | createTask => rfl
  | createDelayedTask =>
    simp only [step, createDelayedTask]
    split_ifs
    · rfl
    · rfl
  | cancelTask => rfl
  | retryTask =>
    simp only [step, retryTask]
    split
    · rfl
    · split_ifs
      · rfl
      · rfl
  | executeDelayedTask =>
    simp only [step, executeDelayedTask]
    split_ifs
    · split
      · rfl
      · split_ifs
        · rfl
        · rfl
    · rfl
  | executeTask target attempt clock =>
    simp only [step]
    split_ifs
    · apply count_attempted_of_ne
      rintro rfl
      exact others attempt clock rfl
    · rfl
  | preemptTask => rfl
  | interrupted => rfl
  | onFailure =>
    simp only [step]
    split_ifs
    · rfl
    · rfl

end QueueState

end Queue
end ZepGpu
