import Mathlib.Data.String.Basic
import ZepGpu.Rooms.Assignments

namespace ZepGpu
namespace Rooms

open Foundation

/-!
# The worker of a provider

The agent of a provider reconciles with the coordinator when it starts, and then
polls: what waits for the provider is claimed, started, executed and completed, one
assignment after the other.  The file of the assignments in flight is what the agent
knows after a restart.

Every request of the agent is answered, and each reads the clock of the coordinator
anew; a polled assignment is known by its identifier.  A request that the coordinator
refuses raises in the agent.
-/

namespace Database

def listPendingForPeer (db : Database) (vpnNetworkId peerId : Uuid) (limit : Nat) : List Uuid :=
  (orderByTime db.assignments (fun assignment => some assignment.assignedAt)
    (select db.assignments (fun assignment =>
      assignment.vpnNetworkId = vpnNetworkId ∧ assignment.peerId = some peerId ∧
        assignment.status = .assigned ∧ assignment.cancelRequestedAt = none))).take limit

def listCancelRequestedForPeer (db : Database) (vpnNetworkId peerId : Uuid) : List Uuid :=
  select db.assignments (fun assignment =>
    assignment.vpnNetworkId = vpnNetworkId ∧ assignment.peerId = some peerId ∧
      ¬ assignment.status.isTerminal ∧ assignment.cancelRequestedAt ≠ none)

end Database

/-- What a node remembers about an assignment that it has begun. -/
structure InflightEntry where
  status : NodeAssignmentStatus
  taskId : Option String := none
  claimGeneration : Option Int := none
  leaseExpiresAt : Option Time := none

abbrev Inflight := Dict String InflightEntry

/-- `upsert_inflight`.  What is not given stays as it was. -/
def upsertInflight (inflight : Inflight) (assignmentId : String) (status : NodeAssignmentStatus)
    (taskId : Option String) (claimGeneration : Option Int) (leaseExpiresAt : Option Time) :
    Inflight :=
  let existing := inflight.get? assignmentId
  inflight.set assignmentId {
    status := status
    taskId := taskId.or (existing.bind (·.taskId))
    claimGeneration := claimGeneration.or (existing.bind (·.claimGeneration))
    leaseExpiresAt := leaseExpiresAt.or (existing.bind (·.leaseExpiresAt)) }

/-- The worker and the file.  The last field is a history variable: the assignments
whose task was executed. -/
structure NodeTaskWorker where
  pollLimit : Nat
  inflight : Inflight
  pushed : List (Uuid × String) := []
  activeIds : List Uuid := []
  executed : List Uuid := []

/-- The agent and the coordinator, with the number of the readings of the clock. -/
structure NodeSession where
  db : Database
  worker : NodeTaskWorker
  readings : Nat := 0

namespace NodeSession

variable (settings : Settings) (vpnNetworkId peerId : Uuid) (clock : Nat -> Time)

section Requests

variable (s : NodeSession)

def withInflight (inflight : Inflight) : NodeSession :=
  { s with worker := { s.worker with inflight := inflight } }

/-- `_active_ids.add` -/
def activate (id : Uuid) : NodeSession :=
  { s with worker := { s.worker with activeIds := id :: s.worker.activeIds } }

/-- `_active_ids.discard` -/
def deactivate (id : Uuid) : NodeSession :=
  { s with worker := { s.worker with activeIds := s.worker.activeIds.filter (· ≠ id) } }

/-- The session after a request that has read the clock some more times. -/
def after (db : Database) (readings : Nat) : NodeSession :=
  { s with db := db, readings := s.readings + readings }

/-- `_handle_cancel`.  A report that is refused is skipped. -/
def handleCancel (id : Uuid) : NodeSession :=
  let failed := s.db.markFailed settings id peerId "Cancelled by coordinator"
    NodeTerminalReason.failed (clock s.readings)
  let s := s.after failed.2 1
  (s.withInflight (s.worker.inflight.erase (strOfUuid id))).deactivate id

/-- The handler of `process_assignment`, which raises again. -/
def reportFailure (id : Uuid) (error : String) : Bool × NodeSession :=
  let failed := s.db.markFailed settings id peerId error NodeTerminalReason.failed (clock s.readings)
  let s := s.after failed.2 1
  (true, s.withInflight (s.worker.inflight.erase (strOfUuid id)))

end Requests

/-- The result of `run_noop`. -/
def noopResult (id taskId : Uuid) : Dict String Json :=
  ((((Dict.empty.set "kind" (.str "noop")).set "status" (.str "ok")).set "message"
    (.str "remote noop completed")).set "assignment_id" (.str (strOfUuid id))).set "task_id"
      (.str (strOfUuid taskId))

def executeStarted (id : Uuid) (started : NodeTaskAssignment) (s : NodeSession) :
    Bool × NodeSession :=
  let s := { s with worker := { s.worker with executed := s.worker.executed ++ [id] } }
  let completed := s.db.markCompleted settings id peerId (some (noopResult id started.taskId))
    (clock s.readings) (clock (s.readings + 1))
  let s := s.after completed.2 2
  match completed.1 with
  | none => s.reportFailure settings peerId clock id "404 Not Found"
  | some _ => (false, s.withInflight (s.worker.inflight.erase (strOfUuid id)))

/-- The part of `process_assignment` from the start of a claimed assignment on. -/
def startClaimed (id : Uuid) (s : NodeSession) : Bool × NodeSession :=
  let started := s.db.markRunning settings id peerId (clock s.readings) (clock (s.readings + 1))
  let s := s.after started.2 2
  match started.1 with
  | none => s.reportFailure settings peerId clock id "404 Not Found"
  | some marked =>
    if marked.assignment.cancelRequestedAt.isSome ∨ marked.assignment.status = .cancelled ∨
        marked.assignment.status = .failed then
      (false, s.withInflight (s.worker.inflight.erase (strOfUuid id)))
    else
      executeStarted settings peerId clock id marked.assignment
        (s.withInflight (upsertInflight s.worker.inflight (strOfUuid id) .running none none none))

/-- The `try` of `process_assignment`. -/
def claimAssignment (id : Uuid) (s : NodeSession) : Bool × NodeSession :=
  let claimed := s.db.markClaimed settings id peerId none (clock s.readings)
  let s := s.after claimed.2 1
  match claimed.1 with
  | none => s.reportFailure settings peerId clock id "404 Not Found"
  | some marked =>
    let assignment := marked.assignment
    if assignment.cancelRequestedAt.isSome ∨ assignment.status = .cancelled then
      (false, s.handleCancel settings peerId clock id)
    else if assignment.status.isTerminal then
      (false, s.withInflight (s.worker.inflight.erase (strOfUuid id)))
    else
      startClaimed settings peerId clock id (s.withInflight
        (upsertInflight s.worker.inflight (strOfUuid id) assignment.status
          (some (strOfUuid assignment.taskId)) (some assignment.claimGeneration)
          assignment.leaseExpiresAt))

/-- `process_assignment` for an assignment that is known by its identifier and the task
it names, and whether it raises. -/
def processAssignment (id : Uuid) (taskId : String) (cancelRequested : Bool) (s : NodeSession) :
    Bool × NodeSession :=
  if id ∈ s.worker.activeIds then (false, s)
  else if cancelRequested then (false, s.handleCancel settings peerId clock id)
  else
    let s := s.activate id
    let processed := claimAssignment settings peerId clock id (s.withInflight
      (upsertInflight s.worker.inflight (strOfUuid id) .assigned (some taskId) none none))
    (processed.1, processed.2.deactivate id)

def taskText (db : Database) (id : Uuid) : String :=
  ((db.assignments.get? id).map (fun assignment => strOfUuid assignment.taskId)).getD ""

/-- The loops of `run_once`, which end when an assignment raises. -/
def processAll : List (Uuid × String) -> NodeSession -> Bool × NodeSession
  | [], s => (false, s)
  | (id, taskId) :: rest, s =>
    match processAssignment settings peerId clock id taskId false s with
    | (true, s) => (true, s)
    | (false, s) => processAll rest s

def drainPushed : List (Uuid × String) -> NodeSession -> Bool × NodeSession
  | [], s => (false, s)
  | (id, taskId) :: rest, s =>
    let s := { s with worker := { s.worker with pushed := rest } }
    match processAssignment settings peerId clock id taskId false s with
    | (true, s) => (true, s)
    | (false, s) => drainPushed rest s

/-- The part of `run_once` after the pushes.  The route of the poll takes limits from one
to ten. -/
def runPolled (s : NodeSession) : Bool × NodeSession :=
  if s.worker.pollLimit < 1 ∨ 10 < s.worker.pollLimit then (true, s)
  else
    let assignments := (s.db.listPendingForPeer vpnNetworkId peerId s.worker.pollLimit).map
      (fun id => (id, taskText s.db id))
    let cancels := s.db.listCancelRequestedForPeer vpnNetworkId peerId
    processAll settings peerId clock assignments
      (cancels.foldl (fun s id => s.handleCancel settings peerId clock id) s)

/-- `run_once`, and whether it raises. -/
def runOnce (s : NodeSession) : Bool × NodeSession :=
  match drainPushed settings peerId clock s.worker.pushed s with
  | (true, s) => (true, s)
  | (false, s) => runPolled settings vpnNetworkId peerId clock s

/-- Some calls of `run_once`.  What one raises is caught by the loop of the agent. -/
def runTimes (times : Nat) (s : NodeSession) : NodeSession :=
  (fun s => (runOnce settings vpnNetworkId peerId clock s).2)^[times] s

open Database in
def applyOutcome (s : NodeSession) : String × ReconcileAction -> NodeSession
  | (text, .resume status claimGeneration leaseExpiresAt cancelRequested _) =>
    let s := s.withInflight (upsertInflight s.worker.inflight text status none
      (some claimGeneration) leaseExpiresAt)
    match cancelRequested, uuidOfString text with
    | true, some id => s.handleCancel settings peerId clock id
    | _, _ => s
  | (text, _) =>
    let s := s.withInflight (s.worker.inflight.erase text)
    match uuidOfString text with
    | some id => s.deactivate id
    | none => s

open Database in
/-- `reconcile_on_startup`.  The route takes a hundred identifiers at most, and a request
that fails gives no outcomes. -/
def reconcileOnStartup (endedAt : Uuid -> Time) (s : NodeSession) :
    List (String × ReconcileAction) × NodeSession :=
  let localIds := s.worker.inflight.sortedKeys
  if 100 < localIds.length then ([], s)
  else
    let reconciled := s.db.reconcileForPeer settings vpnNetworkId peerId localIds
      (clock s.readings) endedAt
    let s := s.after reconciled.state 1
    match reconciled.result with
    | .error _ => ([], s)
    | .ok outcomes => (outcomes, outcomes.foldl (applyOutcome settings peerId clock) s)

end NodeSession

end Rooms
end ZepGpu
