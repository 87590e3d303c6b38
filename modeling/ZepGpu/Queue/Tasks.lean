import ZepGpu.Queue.GpuTable
import ZepGpu.Rooms.Dispatch

namespace ZepGpu
namespace Queue

open Foundation Rooms

/-!
# Tasks and the queue of their messages

A route commits a row and then sends a message that names it; a worker that
takes the message finds the row as it is by then.  A message may be delivered
again at any time.  Each call here is one committed transaction.  A worker task
that raises writes nothing, and its failure is reported later in a transaction
of its own.
-/

/-- The columns of a task that the workers use besides those of its row. -/
structure TaskColumns where
  gpuMemoryMb : Int := 1024
  allowFallbackCpu : Bool := true
  gpuDeviceId : Option Int := none
  containerId : Option String := none
  executionTimeMs : Option Int := none
  traceback : Option String := none
  deriving DecidableEq

/-- The rows of tasks and rooms, and the devices. -/
structure TaskStore where
  rooms : Rooms.Database
  columns : Uuid -> TaskColumns
  gpus : GpuTable

/-- How the attempt at an operation ends: it returns, with a result that is stored
when there is one, its payload is rejected, its time is up, or it raises. -/
inductive Attempt
  | returned (stored : Bool)
  | rejected (message : String)
  | timedOut
  | raised (error : String)

/-- What the Celery task returns. -/
inductive ExecutionReply
  | notFound
  | deferred
  | noGpu
  | success (gpuDeviceId : Option Int)
  | rejected (message : String)
  | timedOut
  deriving DecidableEq

/-- The row that `update_status` writes. -/
def withStatus (status : TaskStatus) (now : Time) (task : Task) : Task :=
  { task with
    status := status
    startedAt := if status = .running then some now else task.startedAt
    completedAt := if status.isTerminal then some now else task.completedAt }

namespace TaskStore

variable (store : TaskStore)

/-- `update_status`, with the fields that its keyword arguments set. -/
def updateStatus (taskId : Uuid) (status : TaskStatus) (now : Time) (fields : Task -> Task)
    (columns : TaskColumns -> TaskColumns) : TaskStore :=
  match store.rooms.tasks.get? taskId with
  | none => store
  | some task =>
    { store with
      rooms := store.rooms.setTask taskId (fields (withStatus status now task))
      columns := Function.update store.columns taskId (columns (store.columns taskId)) }

def markRunning (taskId : Uuid) (now : Time) : TaskStore :=
  store.updateStatus taskId .running now id fun columns =>
    { columns with gpuDeviceId := none, containerId := none }

def markCompleted (taskId : Uuid) (executionTimeMs : Option Int) (now : Time) : TaskStore :=
  store.updateStatus taskId .completed now (fun task => { task with resultRef := none })
    fun columns => { columns with executionTimeMs := executionTimeMs }

def markFailed (taskId : Uuid) (error : String) (traceback : Option String) (now : Time) :
    TaskStore :=
  store.updateStatus taskId .failed now (fun task => { task with error := some error })
    fun columns => { columns with traceback := traceback }

def markTimeout (taskId : Uuid) (now : Time) : TaskStore :=
  store.updateStatus taskId .timeout now id id

def allocateFirst (taskId : Uuid) (now : Time) : List Int -> TaskStore -> Option Int × TaskStore
  | [], store => (none, store)
  | index :: rest, store =>
    if (store.gpus.get? index).any (GpuDevice.canHold (store.columns taskId).gpuMemoryMb) then
      match store.gpus.allocate index (strOfUuid taskId) with
      | none => allocateFirst taskId now rest store
      | some gpus =>
        (some index, { store with gpus := gpus }.updateStatus taskId .running now id fun columns =>
          { columns with gpuDeviceId := some index })
    else allocateFirst taskId now rest store

def allocateGpu (taskId : Uuid) (now : Time) : Option Int × TaskStore :=
  if 0 < (store.columns taskId).gpuMemoryMb then
    allocateFirst taskId now store.gpus.listAvailable store
  else (none, store)

/-- The part of `execute_task` before the attempt: a reply, or the device that the
attempt has. -/
def prepare (taskId : Uuid) (clock : Nat -> Time) :
    (ExecutionReply × TaskStore) ⊕ (Option Int × TaskStore) :=
  match store.rooms.tasks.get? taskId with
  | none => .inl (.notFound, store)
  | some task =>
    if task.dispatchMode ∈ roomDispatchModes ∧ task.status = .assigned then .inl (.deferred, store)
    else
      let (gpu, store) := (store.markRunning taskId (clock 0)).allocateGpu taskId (clock 1)
      let columns := store.columns taskId
      if 0 < columns.gpuMemoryMb ∧ gpu = none ∧ ¬ columns.allowFallbackCpu then
        .inl (.noGpu, store.markFailed taskId "No GPU available" (some "") (clock 2))
      else .inr (gpu, store)

/-- The `finally` of an attempt. -/
def releaseGpu : Option Int -> TaskStore
  | none => store
  | some index => { store with gpus := store.gpus.release index }

def executeBody (taskId : Uuid) (attempt : Attempt) (clock : Nat -> Time) (store : TaskStore) :
    Except String (ExecutionReply × TaskStore) :=
  match store.prepare taskId clock with
  | .inl done => .ok done
  | .inr (gpu, store) =>
    match attempt with
    | .returned stored =>
      .ok (.success gpu,
        (store.markCompleted taskId (if stored then some 0 else none) (clock 2)).releaseGpu gpu)
    | .rejected message =>
      .ok (.rejected message, (store.markFailed taskId message none (clock 2)).releaseGpu gpu)
    | .timedOut => .ok (.timedOut, (store.markTimeout taskId (clock 2)).releaseGpu gpu)
    -- what the handler writes is rolled back when it raises again
    | .raised error => .error error

def preemptTask (taskId : Uuid) (now : Time) : TaskStore :=
  match store.rooms.tasks.get? taskId with
  | none => store
  | some task =>
    if task.status = .running then
      (store.markFailed taskId "Task preempted by higher priority task" none now).releaseGpu
        (store.columns taskId).gpuDeviceId
    else store

end TaskStore

/-- The stored rows, the messages that may be delivered, and the worker tasks that
have raised and not been reported yet.  The last two fields are history variables:
the tasks whose operations were attempted, and those that a retry has accepted. -/
structure QueueState where
  store : TaskStore
  messages : List Uuid := []
  delayed : List Uuid := []
  unreported : List Uuid := []
  attempted : List Uuid := []
  retried : List Uuid := []

/-- A request of the routes or a message that a worker takes. -/
inductive TaskCall
  | createTask (userId taskId assignmentId : Uuid) (request : TaskCreateRequest)
      (allowFallbackCpu : Bool) (acquire : Uuid -> Bool) (now : Time)
  | createDelayedTask (userId taskId : Uuid) (timeoutSeconds : Int) (metadata : Dict String Json)
      (gpuMemoryMb : Int) (allowFallbackCpu : Bool)
  | cancelTask (taskId userId : Uuid) (requestedAt endedAt cancelledAt : Time)
  | retryTask (taskId userId : Uuid) (now : Time)
  | executeDelayedTask (taskId : Uuid)
  | executeTask (taskId : Uuid) (attempt : Attempt) (clock : Nat -> Time)
  | preemptTask (taskId : Uuid) (now : Time)
  /-- A worker task about a row raises outside of an attempt. -/
  | interrupted (taskId : Uuid)
  | onFailure (taskId : Uuid) (error traceback : String) (now : Time)

namespace QueueState

variable (settings : Settings) (state : QueueState)

def withColumns (taskId : Uuid) (columns : TaskColumns) : Uuid -> TaskColumns :=
  if taskId ∈ state.store.rooms.tasks.keys then state.store.columns
  else Function.update state.store.columns taskId columns

def createTask (userId taskId assignmentId : Uuid) (request : TaskCreateRequest)
    (allowFallbackCpu : Bool) (acquire : Uuid -> Bool) (now : Time) : QueueState :=
  let created := state.store.rooms.createTask userId taskId assignmentId request acquire now
  { state with
    store := { state.store with
      rooms := created.state
      columns := state.withColumns taskId {
        gpuMemoryMb := request.requirements.requiredMemoryMb
        allowFallbackCpu := allowFallbackCpu } }
    messages := match created.result with
      | .ok none => state.messages ++ [taskId]
      | _ => state.messages }

def createDelayedTask (userId taskId : Uuid) (timeoutSeconds : Int) (metadata : Dict String Json)
    (gpuMemoryMb : Int) (allowFallbackCpu : Bool) : QueueState :=
  if taskId ∈ state.store.rooms.tasks.keys then state
  else
    { state with
      store := { state.store with
        rooms := state.store.rooms.setTask taskId {
          userId := some userId
          status := .scheduled
          timeoutSeconds := timeoutSeconds
          metadataJson := some metadata }
        columns := state.withColumns taskId {
          gpuMemoryMb := gpuMemoryMb
          allowFallbackCpu := allowFallbackCpu } }
      delayed := state.delayed ++ [taskId] }

def cancelTask (taskId userId : Uuid) (requestedAt endedAt cancelledAt : Time) : QueueState :=
  { state with
    store := { state.store with
      rooms := (state.store.rooms.cancelTask settings taskId userId requestedAt endedAt
        cancelledAt).state } }

def retryTask (taskId userId : Uuid) (now : Time) : QueueState :=
  match state.store.rooms.tasks.get? taskId with
  | none => state
  | some task =>
    if task.userId = some userId ∧
        (task.status = .failed ∨ task.status = .cancelled ∨ task.status = .timeout) then
      { state with
        store := state.store.updateStatus taskId .pending now id id
        messages := state.messages ++ [taskId]
        retried := state.retried ++ [taskId] }
    else state

def executeDelayedTask (taskId : Uuid) : QueueState :=
  match state.store.rooms.tasks.get? taskId with
  | none => state
  | some task =>
    if task.status = .pending ∨ task.status = .scheduled then
      { state with messages := state.messages ++ [taskId] }
    else state

def executeTask (taskId : Uuid) (attempt : Attempt) (clock : Nat -> Time) : QueueState :=
  let executed := transaction (TaskStore.executeBody taskId attempt clock) state.store
  { state with
    store := executed.state
    attempted := if (state.store.prepare taskId clock).isRight then state.attempted ++ [taskId]
      else state.attempted
    unreported := match executed.result with
      | .ok _ => state.unreported
      | .error _ => taskId :: state.unreported }

/-- A call that takes a message, or reports a failure, waits until there is one. -/
def step : TaskCall -> QueueState
  | .createTask userId taskId assignmentId request allowFallbackCpu acquire now =>
    state.createTask userId taskId assignmentId request allowFallbackCpu acquire now
  | .createDelayedTask userId taskId timeoutSeconds metadata gpuMemoryMb allowFallbackCpu =>
    state.createDelayedTask userId taskId timeoutSeconds metadata gpuMemoryMb allowFallbackCpu
  | .cancelTask taskId userId requestedAt endedAt cancelledAt =>
    state.cancelTask settings taskId userId requestedAt endedAt cancelledAt
  | .retryTask taskId userId now => state.retryTask taskId userId now
  | .executeDelayedTask taskId =>
    if taskId ∈ state.delayed then state.executeDelayedTask taskId else state
  | .executeTask taskId attempt clock =>
    if taskId ∈ state.messages then state.executeTask taskId attempt clock else state
  | .preemptTask taskId now => { state with store := state.store.preemptTask taskId now }
  | .interrupted taskId => { state with unreported := taskId :: state.unreported }
  | .onFailure taskId error traceback now =>
    if taskId ∈ state.unreported then
      { state with
        store := state.store.markFailed taskId error (some traceback) now
        unreported := state.unreported.erase taskId }
    else state

end QueueState

end Queue
end ZepGpu
