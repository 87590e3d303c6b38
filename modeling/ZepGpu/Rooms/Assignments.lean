import ZepGpu.Rooms.Tables

namespace ZepGpu
namespace Rooms

open Foundation

/-!
# Assignments of room tasks

A provider claims an assignment, starts it and completes or fails it; the host
may ask for its cancellation, and sweeps end what took too long.  A call that
reads the clock twice has two readings as arguments, and a call that ends
several assignments has one for each of them.  The identifiers that a restarted
provider reports are texts, and a text that is no UUID fails the query.
-/

inductive RoomError where
  /-- A value does not fit its column. -/
  | dataError (column : String)
  | roomAccessError (message : String)
  | roomValidationError (message : String)
  | noRoomGpuAvailable (message : String)
  | roomGpuLockError (message : String)
  | httpException (status : Nat) (detail : String)
  | multipleResultsFound
  deriving DecidableEq, Repr

/-- The row that a lifecycle call returns, and its `_lifecycle_noop` mark. -/
structure Marked where
  assignment : NodeTaskAssignment
  lifecycleNoop : Bool := false

namespace NodeTaskAssignment

variable (assignment : NodeTaskAssignment)

def leaseExpired (current : Time) : Bool :=
  assignment.leaseExpiresAt.any (fun expires => expires < current)

/-- `mark_claimed` on an assignment that waits for its provider -/
def claimed (now lease : Time) : NodeTaskAssignment :=
  { assignment with
    status := .accepted
    acceptedAt := some now
    claimedAt := some now
    claimGeneration := assignment.claimGeneration + 1
    leaseExpiresAt := some (now + lease) }

/-- `mark_claimed` on an assignment that its provider has claimed before -/
def reclaimed (now lease : Time) : NodeTaskAssignment :=
  { assignment with
    leaseExpiresAt := some (now + lease)
    claimGeneration := assignment.claimGeneration + 1
    claimedAt := some (assignment.claimedAt.getD now) }

/-- `mark_running` -/
def started (now lease : Time) : NodeTaskAssignment :=
  { assignment with
    status := .running
    startedAt := some now
    leaseExpiresAt := some (now + lease) }

/-- `request_cancel` -/
def cancelRequested (now : Time) : NodeTaskAssignment :=
  { assignment with cancelRequestedAt := some (assignment.cancelRequestedAt.getD now) }

/-- `mark_terminal` -/
def ended (status : NodeAssignmentStatus) (terminalReason : String) (error : Option String)
    (now : Time) : NodeTaskAssignment :=
  let assignment := { assignment with
    status := status
    terminalReason := some terminalReason
    error := error }
  match status with
  | .completed => { assignment with completedAt := some now }
  | .cancelled => { assignment with
      cancelledAt := some now
      cancelRequestedAt := some (assignment.cancelRequestedAt.getD now) }
  | .assigned | .accepted | .running | .failed => { assignment with failedAt := some now }

end NodeTaskAssignment

/-- The truth value of a JSON value. -/
def truthy : Json -> Bool
  | .null => false
  | .bool value => value
  | .int value => value ≠ 0
  | .float value => value ≠ 0
  | .str value => value ≠ ""
  | .arr items => !items.isEmpty
  | .obj fields => !fields.isEmpty

def firstTruthy (values : Dict String Json) (names : List String) : Option Json :=
  names.findSome? (fun name => (values.get? name).filter truthy)

def toJson (values : Dict String Json) : Json :=
  .obj (values.keys.filterMap (fun name => (values.get? name).map (fun value => (name, value))))

namespace TaskStatus

def isTerminal : TaskStatus -> Bool
  | .completed | .failed | .cancelled | .timeout => true
  | .pending | .queued | .scheduled | .assigned | .running => false

def ofAssignment (status : NodeAssignmentStatus) (reason : String) : TaskStatus :=
  match status with
  | .completed => .completed
  | .cancelled => .cancelled
  | .assigned | .accepted | .running | .failed =>
    if reason ∈ [NodeTerminalReason.acceptedTimeout, NodeTerminalReason.runningTimeout,
        NodeTerminalReason.leaseExpired] then .timeout
    else .failed

end TaskStatus

namespace Task

variable (settings : Settings) (task : Task)

def withResult (resultMetadata : Dict String Json) : Task :=
  { task with
    metadataJson := some ((task.metadataJson.getD Dict.empty).set "remote_result"
      (toJson resultMetadata))
    resultRef := match firstTruthy resultMetadata ["result_ref", "result_uri", "storage_ref"] with
      | some value => some (settings.strOfJson value)
      | none => task.resultRef
    -- a truth value is an integer
    resultSizeBytes := match resultMetadata.get? "result_size_bytes" with
      | some (.int value) => some value
      | some (.bool value) => some value.toInt
      | _ => task.resultSizeBytes }

/-- The task of an assignment that `mark_terminal` ends. -/
def ended (status : TaskStatus) (error : Option String)
    (resultMetadata : Option (Dict String Json)) (now : Time) : Task :=
  let task := { task with
    status := status
    completedAt := some now
    error := (error.filter (· ≠ "")).or task.error }
  match resultMetadata with
  | some resultMetadata => task.withResult settings resultMetadata
  | none => task

def started (now : Time) : Task :=
  { task with status := .running, startedAt := some now }

end Task

/-- `_lease_duration`, or the lease that a claim asks for -/
def leaseDuration (settings : Settings) (leaseSeconds : Option Int) : Time :=
  seconds (max 30 ((leaseSeconds.filter (· ≠ 0)).getD settings.assignmentLeaseSeconds))

namespace Database

variable (settings : Settings) (db : Database)

def getForPeer (assignmentId peerId : Uuid) : Option NodeTaskAssignment :=
  (db.assignments.get? assignmentId).filter (fun assignment => assignment.peerId = some peerId)

def releaseGpuShare (assignmentId : Uuid) (assignment : NodeTaskAssignment) : Database :=
  match assignment.gpuShareId with
  | none => db
  | some shareId =>
    match db.shares.get? shareId with
    | none => db
    | some share =>
      if share.currentTaskId.any (fun holder => holder ≠ strOfUuid assignment.taskId) then db
      else
        { db.setShare shareId share.freed with
          releases := db.releases ++ [⟨assignmentId, shareId, share.currentTaskId⟩] }

def endTask (taskId : Uuid) (status : TaskStatus) (error : Option String)
    (resultMetadata : Option (Dict String Json)) (now : Time) : Database :=
  match db.tasks.get? taskId with
  | none => db
  | some task =>
    if task.status.isTerminal then db
    else db.setTask taskId (task.ended settings status error resultMetadata now)

/-- The part of `mark_terminal` behind its guard. -/
def terminate (assignmentId : Uuid) (assignment : NodeTaskAssignment)
    (status : NodeAssignmentStatus) (terminalReason : String) (error : Option String)
    (resultMetadata : Option (Dict String Json)) (taskStatus : Option TaskStatus) (now : Time) :
    Database :=
  (((db.setAssignment assignmentId (assignment.ended status terminalReason error now)).endTask
    settings assignment.taskId (taskStatus.getD (.ofAssignment status terminalReason)) error
      resultMetadata now).releaseGpuShare assignmentId assignment)

def markTerminal (assignmentId : Uuid) (assignment : NodeTaskAssignment)
    (status : NodeAssignmentStatus) (terminalReason : String) (error : Option String)
    (resultMetadata : Option (Dict String Json)) (taskStatus : Option TaskStatus) (now : Time) :
    Marked × Database :=
  if assignment.status.isTerminal then (⟨assignment, true⟩, db)
  else
    (⟨assignment.ended status terminalReason error now, false⟩,
      db.terminate settings assignmentId assignment status terminalReason error resultMetadata
        taskStatus now)

def markCancelled (assignmentId : Uuid) (peerId : Option Uuid) (reason : String) (now : Time) :
    Option Marked × Database :=
  match db.assignments.get? assignmentId with
  | none => (none, db)
  | some assignment =>
    if peerId.any (fun peerId => assignment.peerId ≠ some peerId) then (none, db)
    else if assignment.status = .cancelled then (some ⟨assignment, false⟩, db)
    else if assignment.status.isTerminal then (some ⟨assignment, true⟩, db)
    else
      (db.markTerminal settings assignmentId assignment .cancelled NodeTerminalReason.cancelled
        (some reason) none (some .cancelled) now).map some id

def markClaimed (assignmentId peerId : Uuid) (leaseSeconds : Option Int) (now : Time) :
    Option Marked × Database :=
  match db.getForPeer assignmentId peerId with
  | none => (none, db)
  | some assignment =>
    if assignment.status.isTerminal then (some ⟨assignment, true⟩, db)
    else if assignment.cancelRequestedAt.isSome then
      db.markCancelled settings assignmentId (some peerId) "Cancel requested before claim" now
    else if assignment.status = .accepted ∨ assignment.status = .running then
      let claimed := assignment.reclaimed now (leaseDuration settings leaseSeconds)
      (some ⟨claimed, false⟩, db.setAssignment assignmentId claimed)
    else
      let claimed := assignment.claimed now (leaseDuration settings leaseSeconds)
      (some ⟨claimed, false⟩, db.setAssignment assignmentId claimed)

def startTask (taskId : Uuid) (now : Time) : Database :=
  match db.tasks.get? taskId with
  | none => db
  | some task => db.setTask taskId (task.started now)

def markRunning (assignmentId peerId : Uuid) (checkedAt now : Time) : Option Marked × Database :=
  match db.getForPeer assignmentId peerId with
  | none => (none, db)
  | some assignment =>
    if assignment.status.isTerminal ∨ assignment.status = .running then
      (some ⟨assignment, true⟩, db)
    else if assignment.cancelRequestedAt.isSome then
      db.markCancelled settings assignmentId (some peerId) "Cancel requested before start" now
    else if assignment.leaseExpired checkedAt then
      (db.markTerminal settings assignmentId assignment .failed NodeTerminalReason.leaseExpired
        (some "Lease expired before start") none none now).map some id
    else
      let started := assignment.started now (leaseDuration settings none)
      (some ⟨started, false⟩,
        (db.setAssignment assignmentId started).startTask assignment.taskId now)

def markCompleted (assignmentId peerId : Uuid) (resultMetadata : Option (Dict String Json))
    (checkedAt now : Time) : Option Marked × Database :=
  match db.getForPeer assignmentId peerId with
  | none => (none, db)
  | some assignment =>
    if assignment.status.isTerminal then (some ⟨assignment, true⟩, db)
    else if assignment.cancelRequestedAt.isSome then
      db.markCancelled settings assignmentId (some peerId) "Cancel requested; cannot complete" now
    else if assignment.leaseExpired checkedAt then
      (db.markTerminal settings assignmentId assignment .failed NodeTerminalReason.leaseExpired
        (some "Lease expired; cannot complete") none none now).map some id
    else
      (db.markTerminal settings assignmentId assignment .completed NodeTerminalReason.completed
        none (some (resultMetadata.getD Dict.empty)) none now).map some id

def markFailed (assignmentId peerId : Uuid) (error terminalReason : String) (now : Time) :
    Option Marked × Database :=
  match db.getForPeer assignmentId peerId with
  | none => (none, db)
  | some assignment =>
    if assignment.status.isTerminal then (some ⟨assignment, true⟩, db)
    else
      (db.markTerminal settings assignmentId assignment .failed terminalReason (some error) none
        none now).map some id

def requestCancel (assignmentId : Uuid) (reason : String) (requestedAt now : Time) :
    Option Marked × Database :=
  match db.assignments.get? assignmentId with
  | none => (none, db)
  | some assignment =>
    if assignment.status.isTerminal then (some ⟨assignment, false⟩, db)
    else
      let requested := assignment.cancelRequested requestedAt
      let flagged := db.setAssignment assignmentId requested
      if assignment.status = .assigned then
        flagged.markCancelled settings assignmentId assignment.peerId reason now
      else (some ⟨requested, false⟩, flagged)

def listExpiredLeases (now : Time) : List Uuid :=
  (orderByTime db.assignments (·.leaseExpiresAt) (select db.assignments (fun assignment =>
    (assignment.status = .accepted ∨ assignment.status = .running) ∧
      assignment.leaseExpired now))).take 100

def listAcceptedNeverStarted (now : Time) : List Uuid :=
  let threshold := now - seconds (max 10 settings.acceptedStartTimeoutSeconds)
  (orderByTime db.assignments (·.acceptedAt) (select db.assignments (fun assignment =>
    assignment.status = .accepted ∧
      assignment.acceptedAt.any (fun accepted => accepted < threshold)))).take 100

/-- The test of `list_running_timed_out` on one of its candidates. -/
def runningTimedOut (now : Time) (assignmentId : Uuid) : Bool :=
  match db.assignments.get? assignmentId with
  | none => false
  | some assignment =>
    match assignment.startedAt with
    | none => false
    | some started =>
      let timeoutSeconds := settings.runningTimeoutSeconds.getD
        (((db.tasks.get? assignment.taskId).map (·.timeoutSeconds)).getD 3600)
      started + seconds (max 10 timeoutSeconds) < now

def listRunningTimedOut (now : Time) : List Uuid :=
  ((orderByTime db.assignments (·.startedAt) (select db.assignments (fun assignment =>
    assignment.status = .running))).take 400 |>.filter (db.runningTimedOut settings now)).take 100

/-- One loop of `sweep_assignment_timeouts`, with the number of its rounds.
The later two loops skip what has ended since it was listed. -/
def sweepLoop (skipTerminal : Bool) (terminalReason error : String) (endedAt : Uuid -> Time) :
    List Uuid -> Nat × Database -> Nat × Database
  | [], counted => counted
  | assignmentId :: rest, (count, db) =>
    match db.assignments.get? assignmentId with
    | none => sweepLoop skipTerminal terminalReason error endedAt rest (count, db)
    | some assignment =>
      if skipTerminal && assignment.status.isTerminal then
        sweepLoop skipTerminal terminalReason error endedAt rest (count, db)
      else
        sweepLoop skipTerminal terminalReason error endedAt rest (count + 1,
          (db.markTerminal settings assignmentId assignment .failed terminalReason (some error)
            none none (endedAt assignmentId)).2)

/-- How many assignments a sweep has ended, by cause. -/
structure SweepCounts where
  leaseExpired : Nat
  acceptedTimeout : Nat
  runningTimeout : Nat
  deriving DecidableEq

def sweepAssignmentTimeouts (now : Time) (endedAt : Uuid -> Time) : SweepCounts × Database :=
  let (leases, db) := sweepLoop settings false NodeTerminalReason.leaseExpired
    "Assignment lease expired" endedAt (db.listExpiredLeases now) (0, db)
  let (accepted, db) := sweepLoop settings true NodeTerminalReason.acceptedTimeout
    "Accepted but never started (timeout)" endedAt (db.listAcceptedNeverStarted settings now) (0, db)
  let (running, db) := sweepLoop settings true NodeTerminalReason.runningTimeout
    "Running assignment timed out" endedAt (db.listRunningTimedOut settings now) (0, db)
  (⟨leases, accepted, running⟩, db)

/-- What a node is told to do about an assignment that it reports. -/
inductive ReconcileAction where
  | abandonNotFound
  | abandonCrossRoom (status : NodeAssignmentStatus)
  | abandonTerminal (status : NodeAssignmentStatus) (terminalReason : Option String)
  | cancel (status : NodeAssignmentStatus) (terminalReason : Option String)
  | failExpired (status : NodeAssignmentStatus) (terminalReason : Option String)
  | resume (status : NodeAssignmentStatus) (claimGeneration : Int) (leaseExpiresAt : Option Time)
      (cancelRequested recovered : Bool)
  deriving DecidableEq

/-- `"action": "resume"` -/
def resumeAction (assignment : NodeTaskAssignment) (recovered : Bool) : ReconcileAction :=
  .resume assignment.status assignment.claimGeneration assignment.leaseExpiresAt
    assignment.cancelRequestedAt.isSome recovered

def reconcileOne (vpnNetworkId peerId : Uuid) (now endedAt : Time) (assignmentId : Uuid) :
    ReconcileAction × Database :=
  match db.getForPeer assignmentId peerId with
  | none => (.abandonNotFound, db)
  | some assignment =>
    if assignment.vpnNetworkId ≠ vpnNetworkId then (.abandonCrossRoom assignment.status, db)
    else if assignment.status.isTerminal then
      (.abandonTerminal assignment.status assignment.terminalReason, db)
    else if assignment.cancelRequestedAt.isSome then
      match db.markCancelled settings assignmentId (some peerId) "Reconcile: cancel requested"
          endedAt with
      | (some marked, db) =>
        (.cancel marked.assignment.status marked.assignment.terminalReason, db)
      | (none, db) => (.cancel .cancelled (some NodeTerminalReason.cancelled), db)
    else if assignment.leaseExpired now then
      let (marked, db) := db.markTerminal settings assignmentId assignment .failed
        NodeTerminalReason.leaseExpired (some "Lease expired during reconcile") none none endedAt
      (.failExpired marked.assignment.status marked.assignment.terminalReason, db)
    else (resumeAction assignment false, db)

/-- The loop over the reported identifiers, in which a repeated text is
skipped. -/
def reconcileLoop (vpnNetworkId peerId : Uuid) (now : Time) (endedAt : Uuid -> Time) :
    List String -> List String -> List (String × ReconcileAction) -> Database ->
      Except RoomError (List String × List (String × ReconcileAction) × Database)
  | [], seen, outcomes, db => .ok (seen, outcomes, db)
  | text :: rest, seen, outcomes, db =>
    if text ∈ seen then reconcileLoop vpnNetworkId peerId now endedAt rest seen outcomes db
    else
      match uuidOfString text with
      | none => .error (.dataError "node_task_assignments.id")
      | some assignmentId =>
        let (action, db) := db.reconcileOne settings vpnNetworkId peerId now
          (endedAt assignmentId) assignmentId
        reconcileLoop vpnNetworkId peerId now endedAt rest (text :: seen)
          (outcomes ++ [(text, action)]) db

/-- Active assignments that the provider did not report. -/
def recovered (vpnNetworkId peerId : Uuid) (seen : List String) : List (String × ReconcileAction) :=
  (select db.assignments (fun assignment =>
    assignment.peerId = some peerId ∧ ¬ assignment.status.isTerminal)).filterMap (fun id =>
      (db.assignments.get? id).bind (fun assignment =>
        if strOfUuid id ∈ seen ∨ assignment.vpnNetworkId ≠ vpnNetworkId then none
        else some (strOfUuid id, resumeAction assignment true)))

def reconcileForPeer (vpnNetworkId peerId : Uuid) (localAssignmentIds : List String) (now : Time)
    (endedAt : Uuid -> Time) : Outcome Database RoomError (List (String × ReconcileAction)) :=
  transaction (fun db => do
    let (seen, outcomes, db) ←
      reconcileLoop settings vpnNetworkId peerId now endedAt localAssignmentIds [] [] db
    .ok (outcomes ++ db.recovered vpnNetworkId peerId seen, db)) db

end Database

end Rooms
end ZepGpu
