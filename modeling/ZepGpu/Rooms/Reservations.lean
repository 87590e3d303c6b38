import ZepGpu.Placement.Planner
import ZepGpu.Rooms.Dispatch

namespace ZepGpu
namespace Rooms

open Foundation
open Placement (PlacementStatus SelectedGpu)

/-!
# Reservations of training runs

A plan reserves all of its shares or none of them.  What it finds expired on
the way is reclaimed, and a renewal, a release and the cleanup work on the
reservations of one run at a time.  A share is given back only when its holder
is the claim of the reservation that ends.
-/

inductive TrainingReservationError where
  | error (message : String)
  | conflict (message : String)
  | ownership (message : String)
  /-- The plan names a share by another text than the stored one. -/
  | keyError (key : String)
  /-- A text of the plan is no UUID. -/
  | dataError (column : String)
  | valueError (message : String)
  /-- The identifier of a new row is taken. -/
  | integrityError (constraint : String)
  deriving DecidableEq, Repr

/-- The fields of a placement plan that a reservation reads.  Of the candidate
islands these are the identifiers. -/
structure PlacementPlan where
  roomId : String
  status : PlacementStatus
  selectedGpus : List SelectedGpu := []
  selectedIslandIds : List String := []
  candidateIslands : List String := []

namespace TrainingGpuReservation

variable (reservation : TrainingGpuReservation)

/-- The claim that an active reservation has written into its share. -/
def claim : String :=
  reservationClaim (strOfUuid reservation.runId) reservation.reservationOwner

def isActive : Bool :=
  reservation.state = .active

def finished (state : TrainingReservationState) (now : Time) (reason : String) :
    TrainingGpuReservation :=
  { reservation with
    state := state
    releasedAt := some now
    releaseReason := some reason }

end TrainingGpuReservation

/-- The states in which a run does not renew. -/
def TrainingRunState.isTerminal : TrainingRunState -> Bool
  | .completed | .failed | .cancelled | .timedOut => true
  | .created | .preparing | .ready | .running | .syncing | .checkpointing => false

/-- The states in which a worker does not renew. -/
def TrainingWorkerState.isInactive : TrainingWorkerState -> Bool
  | .reconnecting | .stopping | .stopped | .aborted | .completed | .failed | .cancelled => true
  | .created | .authenticating | .ready | .running | .syncing | .checkpointing => false

namespace Database

variable (db : Database)

/-- `share is not None and share.current_task_id == expected_claim` -/
def freeClaimed (shareId : Uuid) (claim : String) : Database :=
  match db.shares.get? shareId with
  | none => db
  | some share => if share.currentTaskId = some claim then db.setShare shareId share.freed else db

/-- A reservation ends, and its share is given back if it still carries the
claim. -/
def finishReservation (id : Uuid) (reservation : TrainingGpuReservation)
    (state : TrainingReservationState) (now : Time) (reason : String) : Database :=
  (db.setReservation id (reservation.finished state now reason)).freeClaimed
    reservation.gpuShareId reservation.claim

def finishAll (state : TrainingReservationState) (now : Time) (reason : String) :
    List Uuid -> Database -> Database
  | [], db => db
  | id :: rest, db =>
    match db.reservations.get? id with
    | none => finishAll state now reason rest db
    | some reservation =>
      finishAll state now reason rest (db.finishReservation id reservation state now reason)

/-- `order_by(GpuShare.id)` -/
def sortedIds (ids : List Uuid) : List Uuid :=
  ids.insertionSort (fun left right => left.toNat ≤ right.toNat)

/-- `order_by(TrainingGpuReservation.gpu_share_id)` -/
def orderByShare (ids : List Uuid) : List Uuid :=
  let shareNumber : Uuid -> Nat := fun id =>
    ((db.reservations.get? id).map (fun reservation => reservation.gpuShareId.toNat)).getD 0
  ids.insertionSort (fun left right => shareNumber left ≤ shareNumber right)

/-- The loop of `reserve_plan` over the active reservations of its shares. -/
def reclaim (now : Time) : List Uuid -> Database -> Except TrainingReservationError Database
  | [], db => .ok db
  | id :: rest, db =>
    match db.reservations.get? id with
    | none => reclaim now rest db
    | some reservation =>
      if now < reservation.expiresAt then
        .error (.conflict ("GPU share " ++ strOfUuid reservation.gpuShareId ++
          " is already reserved"))
      else
        reclaim now rest (db.finishReservation id reservation .expired now
          "reservation TTL expired before reacquisition")

/-- The checks of `reserve_plan` on one locked share. -/
def checkShare (plan : PlacementPlan) (shareId : Uuid) (share : GpuShare) (selected : SelectedGpu) :
    Except TrainingReservationError Unit := do
  raiseIf (strOfUuid share.vpnNetworkId ≠ plan.roomId)
    (.conflict ("GPU share " ++ strOfUuid shareId ++ " moved outside the training room"))
  raiseIf (strOfUuid share.peerId ≠ selected.providerId)
    (.conflict ("GPU share " ++ strOfUuid shareId ++ " no longer belongs to the selected provider"))
  raiseIf (share.state ≠ .idle ∨ share.currentTaskId ≠ none)
    (.conflict ("GPU share " ++ strOfUuid shareId ++ " is not available"))
  raiseIf (share.isActive = false) (.conflict ("GPU share " ++ strOfUuid shareId ++ " is inactive"))

/-- The island of a new reservation: a candidate of the plan that is selected
and stored for the run. -/
def islandOf (runId : Uuid) (plan : PlacementPlan) (selected : SelectedGpu) : Option Uuid :=
  if selected.islandId ∈ plan.candidateIslands then
    (plan.selectedIslandIds.filterMap uuidOfString).find? (fun islandId =>
      strOfUuid islandId = selected.islandId ∧
        (db.islands.get? islandId).any (fun island => island.runId = runId))
  else none

/-- The loop of `reserve_plan` over the locked shares.  `newId` gives the
identifier of the reservation of a share. -/
def claimShares (runId : Uuid) (run : TrainingRun) (plan : PlacementPlan) (owner : String)
    (expiresAt : Time) (newId : Uuid -> Uuid) :
    List Uuid -> Database -> Except TrainingReservationError Database
  | [], db => .ok db
  | shareId :: rest, db =>
    match db.shares.get? shareId with
    | none => claimShares runId run plan owner expiresAt newId rest db
    | some share => do
        match plan.selectedGpus.reverse.find? (fun item => item.gpuShareId = strOfUuid shareId) with
        | none => .error (.keyError (strOfUuid shareId))
        | some selected => do
            checkShare plan shareId share selected
            raiseIf (newId shareId ∈ db.reservations.keys)
              (.integrityError "training_gpu_reservations_pkey")
            claimShares runId run plan owner expiresAt newId rest
              ((db.setShare shareId (share.heldBy (reservationClaim (strOfUuid runId) owner))
                ).setReservation (newId shareId) {
                  runId := runId
                  islandId := db.islandOf runId plan selected
                  vpnNetworkId := run.vpnNetworkId
                  peerId := share.peerId
                  gpuShareId := shareId
                  reservationOwner := owner
                  state := .active
                  expiresAt := expiresAt })

/-- `sorted({item.gpu_share_id for item in plan.selected_gpus})`, of which only
the members matter -/
def shareTexts (plan : PlacementPlan) : List String :=
  (plan.selectedGpus.map (·.gpuShareId)).dedup

def reservePlanBody (runId : Uuid) (run : TrainingRun) (plan : PlacementPlan) (owner : String)
    (ttlSeconds : Int) (now : Time) (newId : Uuid -> Uuid) :
    Except TrainingReservationError (List Uuid × Database) := do
  raiseIf (plan.status = .insufficient) (.error "cannot reserve an insufficient placement plan")
  raiseIf (strOfUuid run.vpnNetworkId ≠ plan.roomId)
    (.error "placement plan belongs to a different room")
  let texts := shareTexts plan
  raiseIf (texts.length ≠ plan.selectedGpus.length ∨ texts = [])
    (.error "placement plan contains duplicate or no GPU shares")
  let expiresAt := now + seconds ttlSeconds
  raiseIf (texts.any (fun text => (uuidOfString text).isNone)) (.dataError "gpu_shares.id")
  let shareIds := texts.filterMap uuidOfString
  let shares := sortedIds (db.shares.keys.filter (fun id => id ∈ shareIds))
  raiseIf (shares.length ≠ texts.length)
    (.conflict "one or more selected GPU shares no longer exist")
  let active := db.orderByShare (select db.reservations (fun reservation =>
    reservation.gpuShareId ∈ shareIds ∧ reservation.isActive))
  let db ← reclaim now active db
  raiseIf (plan.selectedIslandIds.any (fun text => (uuidOfString text).isNone))
    (.valueError "badly formed hexadecimal UUID string")
  let db ← claimShares runId run plan owner expiresAt newId shares db
  .ok (shares.map newId, db)

/-- `reserve_plan`: its savepoint keeps everything or nothing. -/
def reservePlan (runId : Uuid) (run : TrainingRun) (plan : PlacementPlan) (owner : String)
    (ttlSeconds : Int) (now : Time) (newId : Uuid -> Uuid) :
    Outcome Database TrainingReservationError (List Uuid) :=
  transaction (fun db => db.reservePlanBody runId run plan owner ttlSeconds now newId) db

theorem reservePlanBody_eq_ok {db after : Database} {runId : Uuid} {run : TrainingRun}
    {plan : PlacementPlan} {owner : String} {ttlSeconds : Int} {now : Time}
    {newId : Uuid -> Uuid} {ids : List Uuid}
    (reserved : db.reservePlanBody runId run plan owner ttlSeconds now newId = .ok (ids, after)) :
    ∃ (middle : Database) (shareIds shares : List Uuid),
      reclaim now (db.orderByShare (select db.reservations (fun reservation =>
        decide (reservation.gpuShareId ∈ shareIds ∧ reservation.isActive)))) db = .ok middle ∧
      claimShares runId run plan owner (now + seconds ttlSeconds) newId shares middle =
        .ok after := by
  unfold reservePlanBody at reserved
  rcases raiseIf_bind_eq_ok.mp reserved with ⟨_, reserved⟩
  rcases raiseIf_bind_eq_ok.mp reserved with ⟨_, reserved⟩
  rcases raiseIf_bind_eq_ok.mp reserved with ⟨_, reserved⟩
  rcases raiseIf_bind_eq_ok.mp reserved with ⟨_, reserved⟩
  rcases raiseIf_bind_eq_ok.mp reserved with ⟨_, reserved⟩
  rcases bind_eq_ok.mp reserved with ⟨middle, reclaimed, reserved⟩
  rcases raiseIf_bind_eq_ok.mp reserved with ⟨_, reserved⟩
  rcases bind_eq_ok.mp reserved with ⟨last, claimed, same⟩
  cases same
  exact ⟨middle, _, _, reclaimed, claimed⟩

def ofRun (runId : Uuid) (condition : TrainingGpuReservation -> Bool) : List Uuid :=
  db.orderByShare (select db.reservations (fun reservation =>
    reservation.runId = runId ∧ condition reservation))

/-- `reservation.expires_at = max(existing, expires_at)` for each listed one -/
def extendAll (expiresAt : Time) : List Uuid -> Database -> Database
  | [], db => db
  | id :: rest, db =>
    match db.reservations.get? id with
    | none => extendAll expiresAt rest db
    | some reservation =>
      extendAll expiresAt rest (db.setReservation id { reservation with
        expiresAt := max reservation.expiresAt expiresAt })

def renewBody (runId workerId : Uuid) (owner : String) (ttlSeconds : Int) (current : Time) :
    Except TrainingReservationError (Nat × Database) := do
  let boundedTtl := max 30 (min ttlSeconds 86400)
  match db.runs.get? runId with
  | none => .error (.error "training run does not exist")
  | some run => do
      raiseIf (run.state.isTerminal = true) (.error "terminal run cannot renew reservations")
      match (db.workers.get? workerId).filter (fun worker => worker.runId = runId) with
      | none => .error (.ownership "worker does not belong to this run")
      | some worker => do
          raiseIf (worker.state.isInactive = true)
            (.error "inactive worker cannot renew reservations")
          let active := db.ofRun runId (fun reservation =>
            reservation.workerId = some workerId ∧ reservation.isActive)
          raiseIf (active.any (fun id => (db.reservations.get? id).any (fun reservation =>
              reservation.reservationOwner ≠ owner)))
            (.ownership "reservation owner mismatch")
          raiseIf (active = []) (.error "worker has no active reservation to renew")
          .ok (active.length, extendAll (current + seconds boundedTtl) active db)

def renew (runId workerId : Uuid) (owner : String) (ttlSeconds : Int) (current : Time) :
    Outcome Database TrainingReservationError Nat :=
  transaction (fun db => db.renewBody runId workerId owner ttlSeconds current) db

/-- `_release`, which is given an owner when it is to enforce it -/
def releaseBody (runId : Uuid) (enforcedOwner : Option String) (reason : String) (now : Time) :
    Except TrainingReservationError (Nat × Database) := do
  let active := db.ofRun runId (fun reservation => reservation.isActive)
  raiseIf (active.any (fun id => (db.reservations.get? id).any (fun reservation =>
      enforcedOwner.any (fun owner => reservation.reservationOwner ≠ owner))))
    (.ownership "reservation owner mismatch")
  .ok (active.length, finishAll .released now reason active db)

def release (runId : Uuid) (owner reason : String) (now : Time) :
    Outcome Database TrainingReservationError Nat :=
  transaction (fun db => db.releaseBody runId (some owner) reason now) db

def releaseTerminal (runId : Uuid) (reason : String) (now : Time) :
    Outcome Database TrainingReservationError Nat :=
  transaction (fun db => db.releaseBody runId none reason now) db

/-- The loop of `cleanup_expired` over the runs with something expired. -/
def cleanupLoop (current : Time) : List Uuid -> Nat × Database -> Nat × Database
  | [], counted => counted
  | runId :: rest, (count, db) =>
    match db.runs.get? runId with
    | none => cleanupLoop current rest (count, db)
    | some _ =>
      let rows := db.ofRun runId (fun reservation =>
        reservation.isActive ∧ reservation.expiresAt ≤ current)
      cleanupLoop current rest (count + rows.length,
        finishAll .expired current "reservation TTL expired" rows db)

def cleanupExpired (current : Time) : Nat × Database :=
  let runIds := ((select db.reservations (fun reservation =>
    reservation.isActive ∧ reservation.expiresAt ≤ current)).filterMap (fun id =>
      (db.reservations.get? id).map (·.runId))).dedup
  cleanupLoop current (sortedIds runIds) (0, db)

/-- The launch of a run names the worker of a reservation. -/
def assignWorker (reservationId workerId : Uuid) : Database :=
  match db.reservations.get? reservationId with
  | none => db
  | some reservation => db.setReservation reservationId { reservation with workerId := some workerId }

end Database

end Rooms
end ZepGpu
