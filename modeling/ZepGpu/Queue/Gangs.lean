import ZepGpu.Queue.Tasks

namespace ZepGpu
namespace Queue

open Foundation Rooms

/-!
# Gang tasks

A worker runs a gang task in one transaction: it takes consecutive devices, runs
the operation, records what came of it and charges the owner.  An exception of the
operation is recorded too, and then raised again, which rolls the transaction back;
the report of the failure that follows looks for the gang among the tasks.
-/

inductive GangStatus
  | pending
  | scheduling
  | allocated
  | running
  | completed
  | failed
  | cancelled
  | partialFailure
  deriving DecidableEq

/-- The row of a gang. -/
structure GangTask where
  userId : Option Uuid
  status : GangStatus := .pending
  numGpusRequired : Int := 2
  allocatedGpuIds : Option (List Int) := none
  gpuMemoryMbPerGpu : Int := 1024
  gpuType : Option String := none
  allowPartialAllocation : Bool := false
  startedAt : Option Time := none
  completedAt : Option Time := none
  error : Option String := none
  traceback : Option String := none
  callbackUrl : Option String := none
  metadataJson : Option (Dict String Json) := none

/-- What a user has been charged in the period. -/
structure FairShareBucket where
  userId : Option Uuid
  gpuSecondsUsed : Float := 0
  tasksCompleted : Int := 0
  tasksFailed : Int := 0
  tasksPreempted : Int := 0
  updatedAt : Time

/-- The tables that the gang task reads and writes. -/
structure GangStore where
  tasks : TaskStore
  gangs : Dict Uuid GangTask
  buckets : Dict Uuid FairShareBucket

/-- What the operation of a gang does. -/
inductive OperationOutcome
  | success
  | unsafePayload (message : String)
  | raised (error : String)

/-- What a run of a gang task meets: the outcome of its operation, the readings of the
clock, the text of a traceback and the record of the delivery of a callback. -/
structure GangRun where
  outcome : OperationOutcome
  clock : Nat -> Time
  traceback : String
  delivery : Json

/-- What the gang task returns. -/
inductive GangReply
  | notFound
  | skipped (status : GangStatus)
  | waiting (required : Int) (available : Nat)
  | notAllocated
  | success (gpuIds : List Int)
  | rejected (message : String)
  deriving DecidableEq

def GangTask.chooseGpus (gang : GangTask) (gpus : GpuTable) : Option (List Int) :=
  let available := gpus.listAvailableForGang gang.numGpusRequired gang.gpuMemoryMbPerGpu gang.gpuType
  if (available.length : Int) < gang.numGpusRequired then
    if gang.allowPartialAllocation ∧ 0 < available.length then some available else none
  else some available

/-- `update_status` -/
def GangTask.withStatus (status : GangStatus) (now : Time) (gang : GangTask) : GangTask :=
  { gang with
    status := status
    startedAt := if status = .allocated then some now else gang.startedAt
    completedAt := if status = .completed ∨ status = .failed ∨ status = .cancelled then some now
      else gang.completedAt }

/-- The counters of `record_gpu_usage`. -/
inductive Usage
  | completed
  | failed
  | preempted
  deriving DecidableEq

def FairShareBucket.charged (gpuSeconds : Float) (usage : Usage) (now : Time)
    (bucket : FairShareBucket) : FairShareBucket :=
  let bucket := { bucket with
    gpuSecondsUsed := bucket.gpuSecondsUsed + gpuSeconds
    updatedAt := now }
  match usage with
  | .completed => { bucket with tasksCompleted := bucket.tasksCompleted + 1 }
  | .failed => { bucket with tasksFailed := bucket.tasksFailed + 1 }
  | .preempted => { bucket with tasksPreempted := bucket.tasksPreempted + 1 }

namespace GangStore

variable (store : GangStore)

def updateStatus (gangTaskId : Uuid) (status : GangStatus) (now : Time)
    (fields : GangTask -> GangTask) : GangStore :=
  match store.gangs.get? gangTaskId with
  | none => store
  | some gang =>
    { store with gangs := store.gangs.set gangTaskId (fields (gang.withStatus status now)) }

def markAllocated (gangTaskId : Uuid) (gpuIds : List Int) (now : Time) : GangStore :=
  store.updateStatus gangTaskId .allocated now fun gang => { gang with allocatedGpuIds := some gpuIds }

def markCompleted (gangTaskId : Uuid) (now : Time) : GangStore :=
  store.updateStatus gangTaskId .completed now id

def markFailed (gangTaskId : Uuid) (error : String) (traceback : Option String) (now : Time) :
    GangStore :=
  store.updateStatus gangTaskId .failed now fun gang =>
    { gang with error := some error, traceback := traceback }

def withGpus (gpus : GpuTable) : GangStore :=
  { store with tasks := { store.tasks with gpus := gpus } }

def releaseGang (gangTaskId : Uuid) : GangStore :=
  store.withGpus (store.tasks.gpus.releaseGang (strOfUuid gangTaskId))

def bucketsOf (userId : Uuid) : List Uuid :=
  Database.select store.buckets fun bucket => bucket.userId = some userId

/-- `record_gpu_usage`: a user with several buckets fails the query. -/
def recordGpuUsage (userId : Uuid) (gpuSeconds : Float) (usage : Usage) (now : Time) :
    Except String GangStore :=
  match store.bucketsOf userId with
  | [] => .ok store
  | [bucketId] =>
    match store.buckets.get? bucketId with
    | none => .ok store
    | some bucket =>
      .ok { store with buckets := store.buckets.set bucketId (bucket.charged gpuSeconds usage now) }
  | _ => .error "Multiple rows were found when one or none was required"

/-- The charge of a run, when the gang has an owner. -/
def chargeOwner (owner : Option Uuid) (gpuSeconds : Float) (usage : Usage) (now : Time) :
    Except String GangStore :=
  match owner with
  | none => .ok store
  | some userId => store.recordGpuUsage userId gpuSeconds usage now

/-- `_deliver_and_record_callback` -/
def recordCallback (gangTaskId : Uuid) (delivery : Json) : GangStore :=
  match store.gangs.get? gangTaskId with
  | none => store
  | some gang =>
    if gang.callbackUrl.any (· ≠ "") then
      { store with gangs := store.gangs.set gangTaskId { gang with
          metadataJson := some
            ((gang.metadataJson.getD Dict.empty).set "callback_delivery" delivery) } }
    else store

/-- A thousandth of an integer, as the code divides. -/
def thousandth (count : Int) : Float :=
  Double.ofRat (count / 1000)

/-- The seconds of a run, of whole milliseconds: `total_seconds() * 1000` is a product
of doubles, which is cut to an integer.  A duration is finite. -/
def executionSeconds (startedAt now : Time) : Float :=
  thousandth ((Double.toInt? (Double.ofRat ((now - startedAt : Int) / 1000000) * 1000)).getD 0)

/-- The part of `execute_gang_task` after the devices are taken. -/
def attemptGang (gangTaskId : Uuid) (owner : Option Uuid) (gpuIds : List Int) (run : GangRun) :
    Except String (GangReply × GangStore) :=
  match run.outcome with
  | .success => do
      let settled := (store.markCompleted gangTaskId (run.clock 1)).releaseGang gangTaskId
      -- an error of the charge is handled as one of the operation, and raised again
      let charged ← settled.chargeOwner owner (executionSeconds (run.clock 0) (run.clock 2)) .completed
        (run.clock 3)
      .ok (.success gpuIds, charged.recordCallback gangTaskId run.delivery)
  | .unsafePayload message =>
    let settled := (store.markFailed gangTaskId message none (run.clock 1)).releaseGang gangTaskId
    .ok (.rejected message, settled.recordCallback gangTaskId run.delivery)
  | .raised error => do
      let settled := (store.markFailed gangTaskId error (some run.traceback) (run.clock 1)).releaseGang
        gangTaskId
      let charged ← settled.chargeOwner owner 0 .failed (run.clock 2)
      let _ := charged.recordCallback gangTaskId run.delivery
      .error error

def gangBody (gangTaskId : Uuid) (run : GangRun) (store : GangStore) :
    Except String (GangReply × GangStore) :=
  match store.gangs.get? gangTaskId with
  | none => .ok (.notFound, store)
  | some gang =>
    if gang.status ≠ .pending then .ok (.skipped gang.status, store)
    else
      let store := store.updateStatus gangTaskId .scheduling (run.clock 0) id
      match gang.chooseGpus store.tasks.gpus with
      | none =>
        .ok (.waiting gang.numGpusRequired (store.tasks.gpus.listAvailableForGang
            gang.numGpusRequired gang.gpuMemoryMbPerGpu gang.gpuType).length,
          store.updateStatus gangTaskId .pending (run.clock 0) id)
      | some gpuIds =>
        let (allocated, gpus) := store.tasks.gpus.allocateGang gpuIds (strOfUuid gangTaskId)
        let store := store.withGpus gpus
        if allocated.all (· = []) then
          .ok (.notAllocated, store.updateStatus gangTaskId .pending (run.clock 0) id)
        else
          (store.markAllocated gangTaskId gpuIds (run.clock 0)).attemptGang gangTaskId gang.userId
            gpuIds run

/-- `execute_gang_task` within its context, and the report of its failure. -/
def executeGangTask (gangTaskId : Uuid) (run : GangRun) (store : GangStore) : GangStore :=
  let executed := transaction (gangBody gangTaskId run) store
  match executed.result with
  | .ok _ => executed.state
  | .error error =>
    { executed.state with
      tasks := executed.state.tasks.markFailed gangTaskId error (some run.traceback) (run.clock 4) }

end GangStore

end Queue
end ZepGpu
