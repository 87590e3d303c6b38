import ZepGpu.Foundation.Dict
import ZepGpu.Ledger.Reference

namespace ZepGpu
namespace Rooms

open Foundation

/-!
# The tables of rooms, tasks and reservations

The rows that the dispatch of room tasks and the training reservations read
and write, each table a dictionary from primary keys to rows.  The holder of a
GPU share is a text in one column: the identifier of a task, or the claim of a
training run.  A claim never reads as the identifier of a task, because the
text of a UUID has no colon, and it names its run and its owner.
-/

abbrev Uuid := Ledger.Uuid

instance Uuid.lawfulBEq : LawfulBEq Uuid :=
  inferInstance

/-- `str(value)` for a UUID -/
def strOfUuid : Uuid -> String :=
  Ledger.Reference.strOfUuid

/-- A UUID text among the parameters of a query. -/
def uuidOfString : String -> Option Uuid :=
  Ledger.Reference.uuidOfString

/-- A timezone-aware datetime, in microseconds. -/
abbrev Time := Int

/-- `timedelta(seconds=count)` -/
def seconds (count : Int) : Time :=
  count * 1000000

inductive GpuShareState where
  | idle
  | allocated
  | unavailable
  deriving DecidableEq, Repr

/-- The row of a share. -/
structure GpuShare where
  peerId : Uuid
  vpnNetworkId : Uuid
  deviceIndex : Int
  name : Option String := none
  totalMemoryMb : Int
  availableMemoryMb : Int
  computeCapability : Option String := none
  gpuType : String := "nvidia"
  state : GpuShareState := .idle
  currentTaskId : Option String := none
  utilizationPercent : Option Rat := none
  temperatureCelsius : Option Rat := none
  powerWatts : Option Rat := none
  isActive : Bool := true
  deriving DecidableEq

inductive PeerOnlineStatus where
  | online
  | offline
  | awol
  deriving DecidableEq, Repr

/-- The row of a node in a room. -/
structure Peer where
  userId : Uuid
  vpnNetworkId : Uuid
  onlineStatus : PeerOnlineStatus
  isGpuHost : Bool
  deriving DecidableEq

inductive TaskStatus where
  | pending
  | queued
  | scheduled
  | assigned
  | running
  | completed
  | failed
  | cancelled
  | timeout
  deriving DecidableEq, Repr

/-- The row of a task, with the columns that rooms use. -/
structure Task where
  userId : Option Uuid
  status : TaskStatus := .pending
  dispatchMode : String := "local"
  timeoutSeconds : Int := 3600
  startedAt : Option Time := none
  completedAt : Option Time := none
  error : Option String := none
  metadataJson : Option (Dict String Json) := none
  resultRef : Option String := none
  resultSizeBytes : Option Int := none

inductive NodeAssignmentStatus where
  | assigned
  | accepted
  | running
  | completed
  | failed
  | cancelled
  deriving DecidableEq, Repr

namespace NodeTerminalReason

def completed : String := "completed"
def failed : String := "failed"
def cancelled : String := "cancelled"
def leaseExpired : String := "lease_expired"
def acceptedTimeout : String := "accepted_timeout"
def runningTimeout : String := "running_timeout"

end NodeTerminalReason

/-- Membership in `TERMINAL_STATUSES`. -/
def NodeAssignmentStatus.isTerminal : NodeAssignmentStatus -> Bool
  | .completed | .failed | .cancelled => true
  | .assigned | .accepted | .running => false

/-- The row that gives a task to a node. -/
structure NodeTaskAssignment where
  vpnNetworkId : Uuid
  taskId : Uuid
  peerId : Option Uuid
  gpuShareId : Option Uuid
  status : NodeAssignmentStatus := .assigned
  assignedAt : Time
  acceptedAt : Option Time := none
  startedAt : Option Time := none
  completedAt : Option Time := none
  failedAt : Option Time := none
  claimedAt : Option Time := none
  leaseExpiresAt : Option Time := none
  claimGeneration : Int := 0
  terminalReason : Option String := none
  cancelRequestedAt : Option Time := none
  cancelledAt : Option Time := none
  error : Option String := none
  retryCount : Int := 0
  deriving DecidableEq

inductive TrainingRunState where
  | created
  | preparing
  | ready
  | running
  | syncing
  | checkpointing
  | completed
  | failed
  | cancelled
  | timedOut
  deriving DecidableEq, Repr

structure TrainingRun where
  vpnNetworkId : Uuid
  state : TrainingRunState
  deriving DecidableEq

inductive TrainingWorkerState where
  | created
  | authenticating
  | ready
  | running
  | syncing
  | checkpointing
  | reconnecting
  | stopping
  | stopped
  | aborted
  | completed
  | failed
  | cancelled
  deriving DecidableEq, Repr

structure TrainingWorker where
  runId : Uuid
  state : TrainingWorkerState
  deriving DecidableEq

structure TrainingIsland where
  runId : Uuid
  deriving DecidableEq

inductive TrainingReservationState where
  | active
  | released
  | expired
  deriving DecidableEq, Repr

/-- The row that keeps a share for a worker of a run. -/
structure TrainingGpuReservation where
  runId : Uuid
  workerId : Option Uuid := none
  islandId : Option Uuid
  vpnNetworkId : Uuid
  peerId : Uuid
  gpuShareId : Uuid
  reservationOwner : String
  state : TrainingReservationState
  expiresAt : Time
  releasedAt : Option Time := none
  releaseReason : Option String := none
  deriving DecidableEq

/-- An entry of the history of the shares that assignments gave back. -/
structure ShareRelease where
  assignmentId : Uuid
  gpuShareId : Uuid
  holder : Option String
  deriving DecidableEq

/-- The stored state.  The last field is a history variable: no table of the
program holds it and no operation reads it. -/
structure Database where
  networks : List Uuid
  peers : Dict Uuid Peer
  shares : Dict Uuid GpuShare
  tasks : Dict Uuid Task
  assignments : Dict Uuid NodeTaskAssignment
  runs : Dict Uuid TrainingRun
  workers : Dict Uuid TrainingWorker
  islands : Dict Uuid TrainingIsland
  reservations : Dict Uuid TrainingGpuReservation
  releases : List ShareRelease := []

/-- `settings.vpn`, and the text of a decoded JSON value, `str(value)`. -/
structure Settings where
  assignmentLeaseSeconds : Int := 300
  acceptedStartTimeoutSeconds : Int := 120
  runningTimeoutSeconds : Option Int := none
  strOfJson : Json -> String

def GpuShare.freed (share : GpuShare) : GpuShare :=
  { share with state := .idle, currentTaskId := none }

def GpuShare.heldBy (share : GpuShare) (holder : String) : GpuShare :=
  { share with state := .allocated, currentTaskId := some holder }

namespace Database

def setShare (db : Database) (id : Uuid) (share : GpuShare) : Database :=
  { db with shares := db.shares.set id share }

def setTask (db : Database) (id : Uuid) (task : Task) : Database :=
  { db with tasks := db.tasks.set id task }

def setAssignment (db : Database) (id : Uuid) (assignment : NodeTaskAssignment) : Database :=
  { db with assignments := db.assignments.set id assignment }

def setReservation (db : Database) (id : Uuid) (reservation : TrainingGpuReservation) : Database :=
  { db with reservations := db.reservations.set id reservation }

/-- The ascending order of a nullable timestamp column, missing values last. -/
def timeLe : Option Time -> Option Time -> Bool
  | some first, some second => first ≤ second
  | some _, none => true
  | none, some _ => false
  | none, none => true

def orderByTime {α : Type} (table : Dict Uuid α) (column : α -> Option Time) (ids : List Uuid) :
    List Uuid :=
  ids.insertionSort (fun left right =>
    timeLe ((table.get? left).bind column) ((table.get? right).bind column) = true)

def select {α : Type} (table : Dict Uuid α) (condition : α -> Bool) : List Uuid :=
  table.keys.filter (fun id => (table.get? id).any condition)

theorem mem_select {α : Type} {table : Dict Uuid α} {condition : α -> Bool} {id : Uuid} :
    id ∈ select table condition ↔ ∃ row, table.get? id = some row ∧ condition row = true := by
  rw [select, List.mem_filter, Option.any_eq_true]
  constructor
  · rintro ⟨_, row, found, holds⟩
    exact ⟨row, found, holds⟩
  · rintro ⟨row, found, holds⟩
    exact ⟨Dict.mem_keys_of_get? found, row, found, holds⟩

theorem nodup_select {α : Type} {table : Dict Uuid α} {condition : α -> Bool} :
    (select table condition).Nodup :=
  table.nodup.filter _

end Database

def reservationClaim (runId owner : String) : String :=
  "training:" ++ runId ++ ":" ++ owner

theorem colon_not_mem_strOfUuid (id : Uuid) : ':' ∉ (strOfUuid id).toList := by
  intro member
  rcases Ledger.Reference.mem_strOfUuid member with dash | ⟨digit, small, same⟩
  · exact absurd dash (by decide)
  · interval_cases digit <;> exact absurd same (by decide)

theorem reservationClaim_ne_strOfUuid (runId owner : String) (id : Uuid) :
    reservationClaim runId owner ≠ strOfUuid id := by
  intro same
  apply colon_not_mem_strOfUuid id
  rw [← same, reservationClaim, String.toList_append, String.toList_append, String.toList_append]
  simp

end Rooms
end ZepGpu
