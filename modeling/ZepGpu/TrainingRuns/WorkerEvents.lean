import ZepGpu.TrainingRuns.Repository

namespace ZepGpu
namespace TrainingRuns

open Foundation Rooms
open Training (filterSecrets)

/-!
# Worker events

A worker reports events, each with an identifier of its own.  The event is
stored once, and a handler for its kind changes the worker and, where the
workers count together, the run.  The duplicate check comes first: a repeated
event is answered before anything about the run is looked at.
-/

/-- `str(value)` for a decoded JSON value and for an exception, and
`sha256(text.encode()).hexdigest()` -/
structure Environment where
  strOfJson : Json -> String
  strOfError : RunError -> String
  sha256Hex : String -> String

def eventRound (payload : Json) : Except RunError Int :=
  match payload.get? "round" with
  | some (.int value) =>
    if value < 1 then .error (.validation "event requires a positive round") else .ok value
  | _ => .error (.validation "event requires a positive round")

/-- `{**progress, **fields}` -/
def mergeFields (progress : Dict String Json) (fields : List (String × Json)) : Dict String Json :=
  fields.foldl (fun progress field => progress.set field.1 field.2) progress

/-- The object under a key, or the value if it is none.  A missing key and
`null` are both no object here. -/
def objectField (payload : Json) (key : String) (message : String) :
    Except RunError (Option (List (String × Json))) :=
  match payload.get? key with
  | none | some .null => .ok none
  | some (.obj fields) => .ok (some fields)
  | some _ => .error (.validation message)

namespace Stored

variable (E : Environment) (db : Stored) (id : Uuid) (worker : TrainingWorker) (payload : Json)
  (now : Time)

/-- `if run.state == CREATED: await self.prepare(run)` -/
def prepareCreated : Except RunError Stored :=
  if db.run.state = .created then db.prepare now else .ok db

def handleReadyEvent : Except RunError Stored :=
  if worker.state = .ready ∧ (db.run.state = .preparing ∨ db.run.state = .ready) then
    .ok (db.setWorker id { worker with lastHeartbeatAt := some now })
  else if 3 ≤ db.run.configVersion ∧ (db.run.state = .ready ∨ db.run.state = .running) then
    .ok (db.setWorker id { worker with
      state := if db.run.state = .running then .running else .ready
      readyAt := worker.readyAt.or (some now)
      lastHeartbeatAt := some now })
  else do
    let db ← db.prepareCreated now
    raiseIf (db.run.state ≠ .preparing)
      (.transition "worker readiness is only valid while preparing")
    let db := db.setWorker id { worker with
      state := .ready
      readyAt := worker.readyAt.or (some now)
      lastHeartbeatAt := some now }
    let readyCount := db.run.count (fun item => item.state = .ready)
    if db.run.workers.keys ≠ [] ∧ db.run.minimumWorkers ≤ readyCount then
      db.transition .ready none now
    else .ok db

def handleHeartbeatEvent : Except RunError Stored :=
  let progress := (payload.get? "progress").getD payload
  match progress with
  | .obj fields =>
    .ok (db.setWorker id { worker with
      lastHeartbeatAt := some now
      progress := mergeFields worker.progress fields })
  | _ => .ok (db.setWorker id { worker with lastHeartbeatAt := some now })

def handleLogEvent : Except RunError Stored :=
  .ok (db.setWorker id { worker with lastHeartbeatAt := some now })

def handleRoundStartedEvent : Except RunError Stored := do
  let roundNumber ← eventRound payload
  raiseIf (db.run.state ≠ .running ∧ db.run.state ≠ .syncing)
    (.transition "round cannot start unless run is running")
  raiseIf (roundNumber ≤ worker.currentRound) (.conflict "round must increase monotonically")
  let db := db.setWorker id ({ worker with currentRound := roundNumber, state := .syncing }.report
    "round_status" (.str "started"))
  raiseIf (3 ≤ db.run.configVersion ∧
      (db.rounds.get? roundNumber).any (fun outerRound => outerRound.state ≠ .open_) = true)
    (.conflict "outer round is already closed")
  if db.run.state = .running then db.transition .syncing none now else .ok db

/-- What a worker learns when the outer round of its completion is not
finalized, or went on without it. -/
def rejectCompletion (roundNumber : Int) (outerRound : TrainingOuterRound) : Stored :=
  let rejection : Json := .obj [("worker_id", .str (strOfUuid id)), ("round", .int roundNumber),
    ("reason", .str ("authoritative outer round is " ++ outerRound.state.value ++
      " or did not accept this worker"))]
  (db.setRound roundNumber { outerRound with
    rejectedUpdates := outerRound.rejectedUpdates ++ [rejection] }).setWorker id
      ((({ worker with state := .reconnecting }.report "round_status" (.str "late_rejected")).report
        "bootstrap_required" (.bool true)).report "bootstrap_round" (.int db.run.currentOuterRound))

/-- A completion of the third schema, for which the outer round decides. -/
def completeOuterRound (roundNumber : Int) : Except RunError Stored :=
  match db.rounds.get? roundNumber with
  | none => .error (.conflict "authoritative Phase 18 outer round state is missing")
  | some outerRound =>
    if outerRound.state ≠ .finalized ∨ strOfUuid id ∉ outerRound.acceptedWorkerIds then
      .ok (db.rejectCompletion id worker roundNumber outerRound)
    else
      .ok (db.setWorker id ({ worker with currentRound := roundNumber, state := .running }.report
        "round_status" (.str "completed")))

/-- `run.current_outer_round = max(run.current_outer_round, round_number)` -/
def raiseOuterRound (roundNumber : Int) : Stored :=
  db.setRun { db.run with currentOuterRound := max db.run.currentOuterRound roundNumber }

def handleRoundCompletedEvent : Except RunError Stored := do
  let roundNumber ← eventRound payload
  raiseIf (db.run.configVersion < 3 ∧
      (roundNumber ≠ worker.currentRound ∨ worker.state ≠ .syncing))
    (.conflict "round completion does not match active round")
  if 3 ≤ db.run.configVersion then db.completeOuterRound id worker roundNumber
  else
    let db := db.setWorker id ({ worker with state := .running }.report
      "round_status" (.str "completed"))
    let completedCount := db.run.count (fun item => item.currentRound = roundNumber ∧
      (item.progress.get? "round_status").any (fun status => status.same (.str "completed")))
    if db.run.minimumWorkers ≤ completedCount then
      (db.raiseOuterRound roundNumber).transition .running none now
    else .ok db

/-- The workers that a failure or a departure leaves. -/
def isActive (state : TrainingWorkerState) : Bool :=
  !(state = .reconnecting ∨ state = .failed ∨ state = .cancelled ∨ state = .aborted ∨
    state = .stopped)

/-- A failure that the supervisor of the provider reports without a round. -/
def supervisorFailure : Bool :=
  3 ≤ db.run.configVersion ∧
    (payload.get? "source").any (fun source => source.same (.str "provider_process_supervisor")) ∧
    (payload.get? "round").isNone

/-- `str(payload.get("error") or payload.get("error_type") or "worker round failed")` -/
def failureText : String :=
  match (payload.get? "error").filter Json.truthy, (payload.get? "error_type").filter Json.truthy with
  | some error, _ => E.strOfJson error
  | none, some errorType => E.strOfJson errorType
  | none, none => "worker round failed"

def failedRound : Except RunError Int :=
  if db.supervisorFailure payload = true then .ok worker.currentRound else eventRound payload

def failedRow (roundNumber : Int) : TrainingWorker :=
  { worker with
    currentRound := max worker.currentRound roundNumber
    state := if 3 ≤ db.run.configVersion then .reconnecting else .failed
    error := (worker.error.filter (fun error => error ≠ "")).or (some (failureText E payload))
    stoppedAt := some now }

def handleRoundFailedEvent : Except RunError Stored := do
  let roundNumber ← db.failedRound worker payload
  let failed := failedRow E db worker payload now roundNumber
  let db := db.setWorker id failed
  if 3 ≤ db.run.configVersion ∧
      db.run.minimumWorkers ≤ db.run.count (fun item => isActive item.state) then .ok db
  else db.fail failed.error id now

def handleCheckpointingEvent : Except RunError Stored := do
  raiseIf (isUnderWay db.run.state = false) (.transition "checkpointing requires an active run")
  (db.setWorker id { worker with state := .checkpointing }).transition .checkpointing none now

def checkpointRound (fields : List (String × Json)) : Except RunError Int :=
  match ((Json.obj fields).get? "outer_round").getD (.int db.run.currentOuterRound) with
  | .int value =>
    if value = db.run.currentOuterRound then .ok value
    else .error (.conflict "checkpoint is not from the latest finalized outer round")
  | _ => .error (.conflict "checkpoint is not from the latest finalized outer round")

/-- A checkpoint replaces those of its round, and is offered to every worker
that waits for one. -/
def offerCheckpoint (outerRound : Int) (checkpoint : Json) : Stored :=
  (db.setRun { db.run with
    artifacts := db.run.artifacts.filter (fun item =>
      ¬ (item.kind = "phase18_checkpoint" ∧ item.outerRound = outerRound)) ++
        [⟨"phase18_checkpoint", outerRound, checkpoint⟩] }).mapWorkers (fun _ member =>
    if member.state = .reconnecting then { member with bootstrapCheckpoint := some checkpoint }
    else member)

/-- The part of a checkpoint event that only the third schema has. -/
def storeCheckpoint : Except RunError Stored := do
  let checkpoint ← objectField payload "checkpoint" "checkpoint metadata must be an object"
  match checkpoint with
  | none => .ok (db.setWorker id { worker with state := .running })
  | some fields => do
      let outerRound ← db.checkpointRound fields
      let clean := filterSecrets (.obj fields)
      .ok ((db.setWorker id { worker with
        bootstrapCheckpoint := some clean
        state := .running }).offerCheckpoint outerRound clean)

def resumeWorker : Except RunError Stored :=
  if 3 ≤ db.run.configVersion then db.storeCheckpoint id worker payload
  else .ok (db.setWorker id { worker with state := .running })

def doneOrRunning (state : TrainingWorkerState) : Bool :=
  state = .running ∨ state = .completed ∨ state = .stopped

def handleCheckpointCompletedEvent : Except RunError Stored := do
  raiseIf (worker.state ≠ .checkpointing) (.transition "worker is not checkpointing")
  let db ← db.resumeWorker id worker payload
  if 3 ≤ db.run.configVersion then
    if db.run.minimumWorkers ≤ db.run.count (fun item => doneOrRunning item.state) ∧
        db.run.state = .checkpointing then db.transition .running none now
    else .ok db
  else if db.run.allWorkers (fun item => doneOrRunning item.state) = true then
    if db.run.allWorkers (fun item => item.state = .completed) = true then
      db.transition .completed none now
    else if db.run.state = .checkpointing then db.transition .running none now
    else .ok db
  else .ok db

def isObject : Json -> Bool
  | .obj _ => true
  | _ => false

/-- The newest checkpoint of the current outer round. -/
def latestCheckpoint : Option Json :=
  (db.run.artifacts.reverse.find? (fun item => item.kind = "phase18_checkpoint" ∧
    item.outerRound = db.run.currentOuterRound ∧ isObject item.checkpoint)).map (·.checkpoint)

def handleReconnectEvent : Except RunError Stored :=
  let worker := { worker with
    restartCount := worker.restartCount + 1
    lastHeartbeatAt := some now }
  if 3 ≤ db.run.configVersion ∧ 0 < db.run.currentOuterRound then
    .ok (db.setWorker id (({ worker with
      state := .reconnecting
      bootstrapCheckpoint := db.latestCheckpoint }.report "bootstrap_required" (.bool true)).report
        "bootstrap_round" (.int db.run.currentOuterRound)))
  else
    .ok (db.setWorker id { worker with
      state := if db.run.state = .preparing ∨ db.run.state = .ready then .ready else .running })

def handleBootstrapCompletedEvent : Except RunError Stored := do
  raiseIf (db.run.configVersion < 3) (.validation "bootstrap_completed is Phase 18 only")
  raiseIf (worker.state ≠ .reconnecting)
    (.transition "worker is not awaiting checkpoint bootstrap")
  match payload.get? "outer_round" with
  | some (.int outerRound) => do
      raiseIf (outerRound ≠ db.run.currentOuterRound)
        (.conflict "worker bootstrap is not from the latest outer round")
      let checkpoint ← objectField payload "checkpoint"
        "checkpoint bootstrap metadata must be an object"
      .ok (db.setWorker id (({ worker with
        bootstrapCheckpoint := (checkpoint.filter (fun fields => fields ≠ [])).map (fun fields =>
          filterSecrets (.obj fields))
        state := .running
        lastHeartbeatAt := some now
        error := none }.report "bootstrap_required" (.bool false)).report
          "bootstrap_round" (.int outerRound)))
  | _ => .error (.validation "checkpoint bootstrap requires an integer outer_round")

def handleShutdownEvent : Except RunError Stored :=
  let db := db.setWorker id { worker with state := .stopped, stoppedAt := some now }
  if 3 ≤ db.run.configVersion ∧
      db.run.count (fun item => isActive item.state) < db.run.minimumWorkers then
    db.fail (some "active membership fell below min_k after worker leave") id now
  else .ok db

def handleAbortEvent : Except RunError Stored :=
  (db.setWorker id { worker with
    state := .aborted
    stoppedAt := some now
    credentialRevokedAt := some now }).abort now

def handleCompletedEvent : Except RunError Stored :=
  let db := db.setWorker id { worker with state := .completed, stoppedAt := some now }
  if db.run.membershipCompleted = true then db.transition .completed none now else .ok db

def applyWorkerEvent (kind : WorkerEventKind) : Except RunError Stored :=
  match kind with
  | .ready => db.handleReadyEvent id worker now
  | .heartbeat => db.handleHeartbeatEvent id worker payload now
  | .progress => db.handleHeartbeatEvent id worker payload now
  | .log => db.handleLogEvent id worker now
  | .roundStarted => db.handleRoundStartedEvent id worker payload now
  | .roundCompleted => db.handleRoundCompletedEvent id worker payload now
  | .roundFailed => handleRoundFailedEvent E db id worker payload now
  | .checkpointing => db.handleCheckpointingEvent id worker now
  | .checkpointCompleted => db.handleCheckpointCompletedEvent id worker payload now
  | .reconnected => db.handleReconnectEvent id worker now
  | .bootstrapCompleted => db.handleBootstrapCompletedEvent id worker payload now
  | .shutdown => db.handleShutdownEvent id worker now
  | .aborted => db.handleAbortEvent id worker now
  | .completed => db.handleCompletedEvent id worker now

end Stored

/-- What a worker submits: `record_worker_event` without the run.  The payload
is a dictionary, so that no key comes twice. -/
structure Submission where
  workerId : Uuid
  eventId : Uuid
  kind : WorkerEventKind
  occurredAt : Time
  payload : Json
  keyed : payload.keyed = true

namespace Stored

def repeats (db : Stored) (submission : Submission) (existing : TrainingWorkerEvent) : Bool :=
  existing.runId = db.run.id ∧ existing.workerId = submission.workerId ∧
    existing.kind = submission.kind ∧
    existing.payload.same (filterSecrets submission.payload) = true

def eventOf (db : Stored) (submission : Submission) : TrainingWorkerEvent where
  runId := db.run.id
  workerId := submission.workerId
  kind := submission.kind
  occurredAt := submission.occurredAt
  payload := filterSecrets submission.payload

/-- `record_worker_event` once the event is new. -/
def recordNew (E : Environment) (db : Stored) (submission : Submission) (now : Time) :
    Except RunError (Bool × Stored) :=
  match db.run.workers.get? submission.workerId with
  | none => .error (.transition "worker is not assigned to this run")
  | some worker => do
      raiseIf (db.run.state.isTerminal = true ∨ worker.state.isTerminal = true)
        (.transition "terminal training state is immutable")
      let db := { db with events := db.events.set submission.eventId (db.eventOf submission) }
      let db ← applyWorkerEvent E db submission.workerId worker
        (filterSecrets submission.payload) now submission.kind
      .ok (true, db)

/-- `record_worker_event`: whether the event was new. -/
def recordWorkerEvent (E : Environment) (db : Stored) (submission : Submission) (now : Time) :
    Except RunError (Bool × Stored) :=
  match db.events.get? submission.eventId with
  | some existing =>
    if db.repeats submission existing = true then .ok (false, db)
    else .error (.conflict "conflicting duplicate worker event")
  | none => db.recordNew E submission now

end Stored

end TrainingRuns
end ZepGpu
