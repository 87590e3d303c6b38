import ZepGpu.TrainingRuns.RankAssignment
import ZepGpu.TrainingRuns.WorkerEvents

namespace ZepGpu
namespace TrainingRuns

open Foundation Rooms
open DistributedTrainingLauncher (IslandRankAssignment assignGpus)

/-!
# Launching a run

A launch reserves what the placement plan selects, names the workers of the
reservations and prepares the run.  A launch that fails after its first write
gives the reservations back and fails the run before it raises; as the request
raises, none of this is committed.

Of the assigned ranks the tables keep the rendezvous of a worker.  Its columns
for ranks and devices, which nothing reads, and the credentials themselves are
left out.  The rendezvous addresses come from sockets and from other tables, so
that they are given, and so is whether the credentials can be issued.
-/

/-- What the launch reads from outside. -/
structure LaunchReadings where
  now : Time
  /-- `_build_rendezvous` -/
  rendezvous : Except RunError (Dict String Json)
  /-- `_issue_credentials`, which makes new identifiers and signs them -/
  credentials : Except RunError Unit
  /-- `uuid4()` for the reservation of a share -/
  newId : Uuid -> Uuid

namespace TrainingRun

variable (run : TrainingRun)

/-- `workers_by_peer[str(peer_id)]` -/
def workerOfPeer (peer : String) : Option Uuid :=
  run.workers.keys.reverse.find? (fun id =>
    (run.workers.get? id).any (fun worker => strOfUuid worker.peerId = peer))

/-- `sorted(str(worker.peer_id) for worker in locked.workers)` -/
def providers : List String :=
  (run.workers.keys.filterMap (fun id =>
    (run.workers.get? id).map (fun worker => strOfUuid worker.peerId))).insertionSort (· ≤ ·)

end TrainingRun

namespace Stored

variable (E : Environment) (db : Stored)

/-- One turn of the loop of `_persist_islands`. -/
def persistIsland (islandId : String) : Except RunError Stored :=
  match uuidOfString islandId with
  | none => .error (.valueError "badly formed hexadecimal UUID string")
  | some id =>
    match db.rooms.islands.get? id with
    | none =>
      .ok { db with rooms := { db.rooms with
        islands := db.rooms.islands.set id { runId := db.run.id } } }
    | some island =>
      if island.runId = db.run.id then .ok db
      else .error (.integrityError "training_islands_pkey")

def persistIslands : List String -> Stored -> Except RunError Stored
  | [], db => .ok db
  | islandId :: rest, db => do
      let db ← db.persistIsland islandId
      persistIslands rest db

/-- `reserve_plan` for the run -/
def reserve (plan : PlacementPlan) (owner : String) (ttlSeconds : Int)
    (readings : LaunchReadings) : Outcome Stored RunError (List Uuid) :=
  let reserved := db.rooms.reservePlan db.run.id ⟨db.run.vpnNetworkId, db.run.state⟩
    plan.toPlacementPlan owner ttlSeconds readings.now readings.newId
  ⟨reserved.result.mapError .reservation, { db with rooms := reserved.state }⟩

def placeReservation (plan : PlacementPlan) (id : Uuid) : Except RunError Stored :=
  match db.rooms.reservations.get? id with
  | none => .error .noResultFound
  | some reservation =>
    match db.run.workerOfPeer (strOfUuid reservation.peerId) with
    | none => .error (.keyError (strOfUuid reservation.peerId))
    | some workerId =>
      let placed := { reservation with workerId := some workerId }
      if reservation.islandId ≠ none then
        .ok { db with rooms := db.rooms.setReservation id placed }
      else
        match plan.selectedGpus.find? (fun gpu =>
            gpu.gpuShareId = strOfUuid reservation.gpuShareId) with
        | none => .error (.valueError "StopIteration")
        | some gpu =>
          match (uuidOfString gpu.islandId).filter (fun islandId =>
              (db.rooms.islands.get? islandId).any (fun island =>
                island.runId = db.run.id)) with
          | none => .error (.keyError gpu.islandId)
          | some islandId =>
            let placed := { placed with islandId := some islandId }
            .ok { db with rooms := db.rooms.setReservation id placed }

def placeReservations (plan : PlacementPlan) : List Uuid -> Stored -> Except RunError Stored
  | [], db => .ok db
  | id :: rest, db => do
      let db ← db.placeReservation plan id
      placeReservations plan rest db

/-- `rendezvous.get(first.island_id)`: the rendezvous of a worker is that of the
island of its first GPU. -/
def rendezvousOf (assignments : Dict String (List IslandRankAssignment))
    (rendezvous : Dict String Json) (worker : TrainingWorker) : Json :=
  let first := (assignments.get? (strOfUuid worker.peerId)).bind List.head?
  (first.bind (fun first => rendezvous.get? first.islandId)).getD .null

def equipWorkers (assignments : Dict String (List IslandRankAssignment))
    (rendezvous : Dict String Json) : Stored :=
  db.mapWorkers (fun _ worker =>
    worker.report "phase18_rendezvous" (rendezvousOf assignments rendezvous worker))

/-- `_assign_ranks(locked.workers, plan)` -/
def assignRanks (plan : PlacementPlan) : Except RunError (Dict String (List IslandRankAssignment)) :=
  assignGpus (db.run.workers.entriesOf db.run.workers.keys) plan.selectedGpus

/-- The part of `_issue_credentials` that the tables keep. -/
def issueCredentials : Stored :=
  db.mapWorkers (fun _ worker => { worker with credentialRevokedAt := none })

def placeRun (plan : PlacementPlan) (launchKey : String) (readings : LaunchReadings)
    (ids : List Uuid) : Except RunError Stored := do
  let assignments ← db.assignRanks plan
  let rendezvous ← readings.rendezvous
  let db ← placeReservations plan ids (db.equipWorkers assignments rendezvous)
  readings.credentials
  let db := db.issueCredentials
  let db := db.setRun { db.run with launchKey := some launchKey, launchedAt := some readings.now }
  db.prepareCreated readings.now

def failLaunch (error : String) (now : Time) : Except RunError Stored := do
  let db ← db.releaseReservations "Phase 18 launch failed" now
  let db ← db.prepareCreated now
  if db.run.state = .preparing ∨ db.run.state = .ready then
    db.transition .failed (some error) now
  else .ok db

/-- A launch that has failed.  What was written to workers before is left out
here. -/
def launchFailed (cause : RunError) (now : Time) : Outcome Stored RunError Unit :=
  let detail := "launch failed: " ++ E.strOfError cause
  match db.failLaunch detail now with
  | .ok failed => ⟨.error (.launch detail), failed⟩
  | .error cleanup => ⟨.error (.launch (detail ++ " (cleanup errors: " ++ E.strOfError cleanup ++
      ")")), db⟩

/-- The part of `launch` for a run that has not been launched. -/
def launchNew (plan : PlacementPlan) (phase18 : Phase18Config) (owner launchKey : String)
    (readings : LaunchReadings) : Outcome Stored RunError Unit :=
  if db.run.providers ≠ plan.selectedProviderIds.insertionSort (· ≤ ·) then
    ⟨.error (.launch "persisted workers do not match the selected placement providers"), db⟩
  else
    match persistIslands
        (plan.candidateIslands.filter (fun islandId => islandId ∈ plan.selectedIslandIds)) db with
    | .error error => ⟨.error error, db⟩
    | .ok db =>
      let reserved := db.reserve plan owner phase18.reservationTtlSeconds readings
      match reserved.result with
      | .error error => launchFailed E reserved.state error readings.now
      | .ok ids =>
        match reserved.state.placeRun plan launchKey readings ids with
        | .error error => launchFailed E reserved.state error readings.now
        | .ok launched => ⟨.ok (), launched⟩

/-- The checks of `launch`, with the part of the configuration and the plan that
it goes on with. -/
def launchable : Except RunError (Phase18Config × PlacementPlan) :=
  match db.run.config.phase18.filter (fun _ => db.run.configVersion = 3), db.run.placementPlan with
  | none, _ => .error (.launch "Phase 18 launcher requires a schema-version 3 run")
  | some _, none => .error (.launch "run has no persisted placement plan")
  | some phase18, some plan => do
      raiseIf (plan.status = .insufficient)
        (.launch "persisted placement plan is insufficient")
      .ok (phase18, plan)

/-- `launch`, after the deadline has been enforced -/
def launchLocked (owner : String) (readings : LaunchReadings) (phase18 : Phase18Config)
    (plan : PlacementPlan) : Outcome Stored RunError Unit :=
  let launchKey := E.sha256Hex (strOfUuid db.run.id ++ ":" ++ plan.planId)
  if db.run.state.isTerminal = true then
    ⟨.error (.launch ("cannot launch terminal run in state " ++ db.run.state.value)), db⟩
  else if db.run.state = .created ∧
      db.run.createdAt + seconds phase18.readinessTimeoutSeconds ≤ readings.now then
    ⟨.error (.launch "training placement readiness deadline expired"), db⟩
  else
    match db.run.launchKey with
    | some existing =>
      if existing ≠ launchKey then
        ⟨.error (.launch "run was already launched from a different placement plan"), db⟩
      else ⟨(db.assignRanks plan).map (fun _ => ()), db⟩
    | none => launchNew E db plan phase18 owner launchKey readings

def launch (owner : String) (readings : LaunchReadings) : Outcome Stored RunError Unit :=
  match db.launchable with
  | .error error => ⟨.error error, db⟩
  | .ok (phase18, plan) =>
    match db.enforceStartupDeadline readings.now with
    | .error error => ⟨.error error, db⟩
    | .ok db => launchLocked E db owner readings phase18 plan

end Stored

end TrainingRuns
end ZepGpu
