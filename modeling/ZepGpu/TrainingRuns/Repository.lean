import ZepGpu.TrainingRuns.Tables

namespace ZepGpu
namespace TrainingRuns

open Foundation Rooms

/-!
# The repository of training runs

Every function takes what is stored to what it leaves stored, or raises.  A
request that raises is rolled back, so what was written before the exception
is not carried along.  The state of a run is written by `transition` and
nowhere else.
-/

/-- `error and not run.error`, then the assignment -/
def firstError (old new : Option String) : Option String :=
  match old, new with
  | some (old : String), some new => if new ≠ "" ∧ old = "" then some new else some old
  | none, some new => if new ≠ "" then some new else none
  | old, none => old

namespace TrainingRun

variable (run : TrainingRun)

/-- The assignments of `transition` to a new state. -/
def entering (state : TrainingRunState) (error : Option String) (now : Time) : TrainingRun :=
  { run with
    state := state
    startedAt := if state = .running ∧ run.startedAt = none then some now else run.startedAt
    completedAt := if state.isTerminal = true then some now else run.completedAt
    error := firstError run.error error }

end TrainingRun

namespace TrainingWorker

variable (worker : TrainingWorker)

/-- A worker that its run takes along when it ends. -/
def cancelled (now : Time) : TrainingWorker :=
  { worker with
    state := if worker.state.isTerminal = true then worker.state else .cancelled
    stoppedAt := if worker.state.isTerminal = true then worker.stoppedAt else some now
    credentialRevokedAt := some now }

/-- `{**worker.progress, key: value}` -/
def report (key : String) (value : Json) : TrainingWorker :=
  { worker with progress := worker.progress.set key value }

end TrainingWorker

namespace Stored

variable (db : Stored)

/-- `release_terminal` in the transaction of the run -/
def releaseReservations (reason : String) (now : Time) : Except RunError Stored :=
  match db.rooms.releaseBody db.run.id none reason now with
  | .ok (_, rooms) => .ok { db with rooms }
  | .error error => .error (.reservation error)

def transition (state : TrainingRunState) (error : Option String) (now : Time) :
    Except RunError Stored := do
  let current := db.run.state
  if current = state then
    .ok (db.setRun { db.run with error := firstError db.run.error error })
  else
    raiseIf (current.isTerminal = true ∨ ¬ current.Permits state)
      (.transition ("cannot transition " ++ current.value ++ " to " ++ state.value))
    let db := db.setRun (db.run.entering state error now)
    if state.isTerminal = true ∧ 3 ≤ db.run.configVersion then
      db.releaseReservations ("training run became " ++ state.value) now
    else .ok db

/-- Every worker that has not come to an end is cancelled, and all credentials
are revoked. -/
def cancelWorkers (now : Time) : Stored :=
  db.mapWorkers (fun _ worker => worker.cancelled now)

def prepare (now : Time) : Except RunError Stored :=
  if db.run.state = .created then
    (db.setRun { db.run with
      startupDeadlineAt := some (now + seconds db.run.config.startupTimeoutSeconds) }).transition
        .preparing none now
  else if db.run.state = .preparing then .ok db
  else .error (.transition ("cannot prepare run in " ++ db.run.state.value))

def abort (now : Time) : Except RunError Stored :=
  if db.run.state = .cancelled then .ok db
  else do
    let db ← db.transition .cancelled none now
    .ok (db.cancelWorkers now)

/-- `fail`; the failed worker keeps its state. -/
def fail (error : Option String) (failedWorker : Uuid) (now : Time) : Except RunError Stored := do
  let db ← db.transition .failed error now
  .ok (db.mapWorkers (fun id worker =>
    if id = failedWorker then { worker with credentialRevokedAt := some now }
    else worker.cancelled now))

/-- The first branch of `enforce_startup_deadline`. -/
def startupExpired (now : Time) : Bool :=
  db.run.state = .preparing ∧ db.run.startupDeadlineAt.any (fun deadline => deadline ≤ now)

/-- The states of a run that is under way. -/
def isUnderWay (state : TrainingRunState) : Bool :=
  state = .running ∨ state = .syncing ∨ state = .checkpointing

/-- The second branch of `enforce_startup_deadline`. -/
def runtimeExpired (now : Time) : Bool :=
  3 ≤ db.run.configVersion ∧ isUnderWay db.run.state ∧
    db.run.startedAt.any (fun startedAt => db.run.config.phase18.any (fun phase18 =>
      0 < phase18.maximumRuntimeSeconds ∧
        startedAt + seconds phase18.maximumRuntimeSeconds ≤ now))

def enforceStartupDeadline (now : Time) : Except RunError Stored :=
  if db.startupExpired now = true then do
    let db ← db.transition .timedOut (some "training worker readiness deadline expired") now
    .ok (db.cancelWorkers now)
  else if db.runtimeExpired now = true then do
    let db ← db.transition .timedOut (some "maximum Phase 18 training runtime expired") now
    .ok (db.cancelWorkers now)
  else .ok db

def reconcileCompletedWorkers (now : Time) : Except RunError Stored :=
  if db.run.state.isTerminal = true ∨ db.run.membershipCompleted = false then .ok db
  else db.transition .completed none now

/-- `get`, and what `list_for_user` does with each of its runs -/
def get (now : Time) : Except RunError Stored := do
  let db ← db.enforceStartupDeadline now
  db.reconcileCompletedWorkers now

def start (now : Time) : Except RunError Stored := do
  let db ← db.enforceStartupDeadline now
  raiseIf (db.run.state ≠ .ready) (.transition "all assigned workers must be ready before start")
  let db ← db.transition .running none now
  .ok (db.mapWorkers (fun _ worker =>
    if worker.state = .ready then { worker with state := .running } else worker))

end Stored

end TrainingRuns
end ZepGpu
