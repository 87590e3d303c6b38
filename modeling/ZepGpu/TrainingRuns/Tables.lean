import ZepGpu.Rooms.Reservations
import ZepGpu.Training.Checkpoint

namespace ZepGpu

namespace Rooms

/-!
# The tables of a training run

One run with its workers, its outer rounds and the events that its workers
have reported, and beside them the tables of rooms, in which the reservations
of the run stand.  The events are those of all runs, because their identifiers
are unique over the whole table.  The lines that the program adds to the
journal of a run are left out: nothing reads them back.
-/

namespace TrainingRunState

def value : TrainingRunState -> String
  | .created => "created"
  | .preparing => "preparing"
  | .ready => "ready"
  | .running => "running"
  | .syncing => "syncing"
  | .checkpointing => "checkpointing"
  | .completed => "completed"
  | .failed => "failed"
  | .cancelled => "cancelled"
  | .timedOut => "timed_out"

/-- `_TRANSITIONS.get(current, set())` -/
def transitions : TrainingRunState -> List TrainingRunState
  | .created => [.preparing, .cancelled]
  | .preparing => [.ready, .failed, .cancelled, .timedOut]
  | .ready => [.running, .failed, .cancelled, .timedOut]
  | .running => [.syncing, .checkpointing, .completed, .failed, .cancelled, .timedOut]
  | .syncing => [.running, .checkpointing, .failed, .cancelled, .timedOut]
  | .checkpointing => [.running, .completed, .failed, .cancelled, .timedOut]
  | .completed | .failed | .cancelled | .timedOut => []

/-- A transition that `_TRANSITIONS` has. -/
def Permits (current next : TrainingRunState) : Prop :=
  next ∈ current.transitions

instance (current next : TrainingRunState) : Decidable (current.Permits next) :=
  inferInstanceAs (Decidable (next ∈ current.transitions))

end TrainingRunState

namespace TrainingWorkerState

/-- Membership in `TERMINAL_WORKER_STATES`. -/
def isTerminal : TrainingWorkerState -> Bool
  | .aborted | .completed | .failed | .cancelled => true
  | .created | .authenticating | .ready | .running | .syncing | .checkpointing | .reconnecting
  | .stopping | .stopped => false

end TrainingWorkerState

end Rooms

namespace TrainingRuns

open Foundation Rooms

/-- The exceptions of the repositories and of the launch. -/
inductive RunError where
  /-- `TrainingRunTransitionError` -/
  | transition (message : String)
  /-- `TrainingWorkerEventConflict` -/
  | conflict (message : String)
  /-- `TrainingWorkerEventValidationError` -/
  | validation (message : String)
  | valueError (message : String)
  | reservation (error : TrainingReservationError)
  | launch (message : String)
  /-- `Phase18RuntimeError` -/
  | runtime (message : String)
  | training (error : Training.TrainingError)
  | integrityError (constraint : String)
  | noResultFound
  | keyError (key : String)
  | httpException (status : Nat) (detail : String)
  deriving DecidableEq

inductive DistributedStrategy where
  | single
  | diloco
  | fsdp2
  | tensorParallel
  deriving DecidableEq, Repr

/-- `Phase18TrainingConfig`, as far as the control plane reads it. -/
structure Phase18Config where
  strategy : DistributedStrategy
  minK : Nat
  readinessTimeoutSeconds : Int
  maximumRuntimeSeconds : Int
  reservationTtlSeconds : Int

/-- The stored configuration, with the whole document for the coordinator. -/
structure RunConfig where
  startupTimeoutSeconds : Int
  phase18 : Option Phase18Config
  document : Json

/-- `PlacementPlan`, with the fields that only a launch reads. -/
structure PlacementPlan extends Rooms.PlacementPlan where
  planId : String
  selectedProviderIds : List String
  document : Json

/-- The row of a worker, with the columns that events change. -/
structure TrainingWorker where
  peerId : Uuid
  state : TrainingWorkerState := .created
  currentRound : Int := 0
  restartCount : Nat := 0
  lastHeartbeatAt : Option Time := none
  progress : Dict String Json := Dict.empty
  readyAt : Option Time := none
  stoppedAt : Option Time := none
  error : Option String := none
  credentialRevokedAt : Option Time := none
  bootstrapCheckpoint : Option Json := none

structure Artifact where
  kind : String
  outerRound : Int
  checkpoint : Json

/-- The row of a run. -/
structure TrainingRun where
  id : Uuid
  vpnNetworkId : Uuid
  userId : Uuid
  state : TrainingRunState := .created
  configVersion : Int
  config : RunConfig
  artifacts : List Artifact := []
  error : Option String := none
  createdAt : Time
  startedAt : Option Time := none
  completedAt : Option Time := none
  startupDeadlineAt : Option Time := none
  placementPlan : Option PlacementPlan := none
  launchKey : Option String := none
  launchedAt : Option Time := none
  currentOuterRound : Int := 0
  workers : Dict Uuid TrainingWorker

inductive TrainingOuterRoundState where
  | open_
  | finalized
  | paused
  | failed
  deriving DecidableEq, Repr

def TrainingOuterRoundState.value : TrainingOuterRoundState -> String
  | .open_ => "open"
  | .finalized => "finalized"
  | .paused => "paused"
  | .failed => "failed"

/-- The row of an outer round. -/
structure TrainingOuterRound where
  state : TrainingOuterRoundState := .open_
  expectedWorkers : Nat
  minK : Nat
  acceptedWorkerIds : List String := []
  rejectedUpdates : List Json := []
  deadlineAt : Time
  finalizedAt : Option Time := none

inductive WorkerEventKind where
  | ready
  | heartbeat
  | progress
  | log
  | roundStarted
  | roundCompleted
  | roundFailed
  | checkpointing
  | checkpointCompleted
  | reconnected
  | bootstrapCompleted
  | shutdown
  | aborted
  | completed
  deriving DecidableEq, Repr

/-- The row of an event, as it was redacted. -/
structure TrainingWorkerEvent where
  runId : Uuid
  workerId : Uuid
  kind : WorkerEventKind
  occurredAt : Time
  payload : Json

/-- What is stored: the run, its rounds by number, the events of all runs by
their identifiers, and the tables of rooms. -/
structure Stored where
  run : TrainingRun
  rounds : Dict Int TrainingOuterRound := Dict.empty
  events : Dict Uuid TrainingWorkerEvent := Dict.empty
  rooms : Rooms.Database

namespace Stored

variable (db : Stored)

def setRun (run : TrainingRun) : Stored :=
  { db with run := run }

def setWorker (id : Uuid) (worker : TrainingWorker) : Stored :=
  { db with run := { db.run with workers := db.run.workers.set id worker } }

def setRound (number : Int) (round : TrainingOuterRound) : Stored :=
  { db with rounds := db.rounds.set number round }

def mapWorkers (change : Uuid -> TrainingWorker -> TrainingWorker) : Stored :=
  { db with run := { db.run with workers := db.run.workers.adjust change } }

end Stored

namespace TrainingRun

variable (run : TrainingRun)

def count (property : TrainingWorker -> Bool) : Nat :=
  run.workers.keys.countP (fun id => (run.workers.get? id).any property)

def allWorkers (property : TrainingWorker -> Bool) : Bool :=
  run.workers.keys.all (fun id => (run.workers.get? id).all property)

theorem allWorkers_iff {property : TrainingWorker -> Bool} :
    run.allWorkers property = true ↔
      ∀ id worker, run.workers.get? id = some worker -> property worker = true := by
  unfold allWorkers
  rw [List.all_eq_true]
  constructor
  · intro all id worker found
    have holds := all id (Dict.mem_keys_of_get? found)
    rw [found] at holds
    exact holds
  · intro all id _
    cases found : run.workers.get? id with
    | none => rfl
    | some worker => exact all id worker found

def minimumWorkers : Nat :=
  if run.configVersion < 3 then run.workers.keys.length
  else
    match run.config.phase18 with
    | none => run.workers.keys.length
    | some phase18 => if 0 < phase18.minK then phase18.minK else run.workers.keys.length

/-- The states that do not hold back the completion of a run of the third
schema. -/
def isDone : TrainingWorkerState -> Bool
  | .completed | .stopped | .reconnecting | .failed | .cancelled | .aborted => true
  | .created | .authenticating | .ready | .running | .syncing | .checkpointing | .stopping => false

/-- `_run_membership_completed` -/
def membershipCompleted : Bool :=
  if run.workers.keys = [] then false
  else if run.configVersion < 3 then run.allWorkers (fun worker => worker.state = .completed)
  else run.minimumWorkers ≤ run.count (fun worker => worker.state = .completed) ∧
    run.allWorkers (fun worker => isDone worker.state)

end TrainingRun

end TrainingRuns
end ZepGpu
