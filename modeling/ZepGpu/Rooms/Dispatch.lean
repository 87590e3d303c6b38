import Mathlib.Data.Prod.Lex
import ZepGpu.Rooms.Assignments

namespace ZepGpu
namespace Rooms

open Foundation

/-!
# Dispatch of room tasks

A room task goes to the first eligible share of its room whose lock can be
taken.  The lock is only a help against races of several coordinators: the
answers of its server are an argument, and the row of the share decides.
Changes of a share are committed at once, whatever becomes of the request.
-/

def roomDispatchModes : List String :=
  ["room_auto", "room_specific_node"]

/-- What a task asks of a share. -/
structure ShareRequirements where
  requiredMemoryMb : Int
  gpuType : Option String := none
  targetPeerId : Option Uuid := none
  targetGpuShareId : Option Uuid := none

/-- The share that a task was given. -/
structure RoomDispatchResult where
  assignmentId : Uuid
  peerId : Uuid
  gpuShareId : Uuid
  vpnNetworkId : Uuid
  deriving DecidableEq

/-- Whether an optional filter lets a value pass. -/
def allows {α : Type} [DecidableEq α] (wanted : Option α) (value : α) : Bool :=
  wanted.all (fun wanted => value = wanted)

structure TaskCreateRequest where
  dispatchMode : String := "local"
  roomId : Option Uuid := none
  timeoutSeconds : Int := 3600
  metadata : Option (Dict String Json) := none
  requirements : ShareRequirements

def TaskCreateRequest.task (userId : Uuid) (request : TaskCreateRequest) : Task where
  userId := some userId
  dispatchMode := request.dispatchMode
  timeoutSeconds := request.timeoutSeconds
  metadataJson := request.metadata

def validateRoomDispatchRequest (request : TaskCreateRequest) : Except RoomError Unit := do
  raiseIf (request.dispatchMode ∈ roomDispatchModes ∧ request.roomId = none)
    (.httpException 400 "room_id is required for room dispatch modes")
  raiseIf (request.dispatchMode = "room_specific_node" ∧ request.requirements.targetPeerId = none ∧
      request.requirements.targetGpuShareId = none)
    (.httpException 400 "room_specific_node requires target_peer_id or target_gpu_share_id")

def mapDispatchError : RoomError -> RoomError
  | .roomAccessError message => .httpException 403 message
  | .noRoomGpuAvailable message => .httpException 409 message
  | .roomGpuLockError message => .httpException 409 message
  | .roomValidationError message => .httpException 400 message
  | error => error

namespace Database

variable (settings : Settings) (db : Database)

def updateState (shareId : Uuid) (state : GpuShareState) (currentTaskId : Option String) :
    Option GpuShare × Database :=
  match db.shares.get? shareId with
  | none => (none, db)
  | some share =>
    if state = .allocated ∧ (share.state ≠ .idle ∨ share.currentTaskId.isSome) then (none, db)
    else
      let written := { share with state := state, currentTaskId := currentTaskId }
      (some written, db.setShare shareId written)

def listByNetwork (networkId : Uuid) : List Uuid :=
  select db.shares (fun share => share.vpnNetworkId = networkId ∧ share.isActive)

def shareIsEligible (requirements : ShareRequirements) (shareId : Uuid) : Bool :=
  match db.shares.get? shareId with
  | none => false
  | some share =>
    match db.peers.get? share.peerId with
    | none => false
    | some peer =>
      share.isActive ∧ share.state = .idle ∧
        requirements.requiredMemoryMb ≤ share.availableMemoryMb ∧
        peer.onlineStatus = .online ∧ peer.isGpuHost ∧
        -- the empty name of a type asks for nothing
        allows (requirements.gpuType.filter (· ≠ "")) share.gpuType ∧
        allows requirements.targetPeerId share.peerId ∧
        allows requirements.targetGpuShareId shareId

/-- The sort key of `rank_eligible_shares`. -/
def rankKey (shareId : Uuid) : Int × Rat :=
  match db.shares.get? shareId with
  | none => (0, 0)
  | some share => (-share.availableMemoryMb, share.utilizationPercent.getD 0)

def rankEligibleShares (requirements : ShareRequirements) (shareIds : List Uuid) : List Uuid :=
  (shareIds.filter (db.shareIsEligible requirements)).insertionSort (fun left right =>
    toLex (db.rankKey left) ≤ toLex (db.rankKey right))

def ensureRoomAccess (userId roomId : Uuid) : Except RoomError Unit := do
  raiseIf (roomId ∉ db.networks) (.roomValidationError "Room not found")
  raiseIf (select db.peers (fun peer => peer.userId = userId ∧ peer.vpnNetworkId = roomId) = [])
    (.roomAccessError "You do not have access to this room")

def validateDispatchTargets (roomId : Uuid) (targetPeerId targetGpuShareId : Option Uuid) :
    Except RoomError Unit := do
  raiseIf (targetPeerId.any (fun target =>
      (db.peers.get? target).all (fun peer => peer.vpnNetworkId ≠ roomId)))
    (.roomValidationError "Target peer does not belong to this room")
  raiseIf (targetGpuShareId.any (fun target =>
      (db.shares.get? target).all (fun share => share.vpnNetworkId ≠ roomId)))
    (.roomValidationError "Target GPU share does not belong to this room")
  raiseIf (targetGpuShareId.any (fun target =>
      (db.shares.get? target).any (fun share => ¬ share.isActive ∨ share.state ≠ .idle)))
    (.roomValidationError "Target GPU share is not active and available")

def createAssignment (assignmentId vpnNetworkId taskId peerId gpuShareId : Uuid) (now : Time) :
    Option Database :=
  if assignmentId ∈ db.assignments.keys then none
  else some (db.setAssignment assignmentId {
    vpnNetworkId := vpnNetworkId
    taskId := taskId
    peerId := some peerId
    gpuShareId := some gpuShareId
    assignedAt := now })

def assignFirstAvailableShare (roomId taskId assignmentId : Uuid) (acquire : Uuid -> Bool)
    (now : Time) : List Uuid -> Database -> Outcome Database RoomError RoomDispatchResult
  | [], db => ⟨.error (.roomGpuLockError "Could not acquire lock for any eligible GPU share"), db⟩
  | shareId :: rest, db =>
    if ¬ acquire shareId then assignFirstAvailableShare roomId taskId assignmentId acquire now rest db
    else
      match db.updateState shareId .allocated (some (strOfUuid taskId)) with
      | (none, _) => assignFirstAvailableShare roomId taskId assignmentId acquire now rest db
      | (some share, updated) =>
        match updated.createAssignment assignmentId roomId taskId share.peerId shareId now with
        | some created => ⟨.ok ⟨assignmentId, share.peerId, shareId, roomId⟩, created⟩
        -- the row is refused, and the share is given back before the error goes on
        | none => ⟨.error (.dataError "node_task_assignments.id"),
            (updated.updateState shareId .idle none).2⟩

def selectAndAssignRoomGpu (userId roomId taskId assignmentId : Uuid) (dispatchMode : String)
    (requirements : ShareRequirements) (acquire : Uuid -> Bool) (now : Time) :
    Outcome Database RoomError RoomDispatchResult :=
  let checks : Except RoomError Unit := do
    raiseIf (dispatchMode ∉ roomDispatchModes)
      (.roomValidationError ("Unsupported dispatch mode: " ++ dispatchMode))
    raiseIf (dispatchMode = "room_specific_node" ∧ requirements.targetPeerId = none ∧
        requirements.targetGpuShareId = none)
      (.roomValidationError "room_specific_node requires target_peer_id or target_gpu_share_id")
    db.ensureRoomAccess userId roomId
    db.validateDispatchTargets roomId requirements.targetPeerId requirements.targetGpuShareId
  match checks with
  | .error error => ⟨.error error, db⟩
  | .ok () =>
    match db.rankEligibleShares requirements (db.listByNetwork roomId) with
    | [] => ⟨.error (.noRoomGpuAvailable "No eligible GPU available in this room"), db⟩
    | candidates =>
      assignFirstAvailableShare roomId taskId assignmentId acquire now candidates db

/-- `get_by_task_id`: the assignment of a task that was made last -/
def getByTaskId (taskId : Uuid) : Option Uuid :=
  let assignedAt : Uuid -> Option Time := fun id => (db.assignments.get? id).map (·.assignedAt)
  ((select db.assignments (fun assignment => assignment.taskId = taskId)).insertionSort
    (fun left right => timeLe (assignedAt right) (assignedAt left) = true)).head?

def releaseRoomAssignment (taskId : Uuid) : Database :=
  match (db.getByTaskId taskId).bind db.assignments.get? with
  | none => db
  | some assignment =>
    match assignment.gpuShareId with
    | none => db
    | some shareId => (db.updateState shareId .idle none).2

def markAssigned (taskId : Uuid) : Database :=
  match db.tasks.get? taskId with
  | none => db
  | some task => db.setTask taskId { task with status := .assigned }

/-- `create_task`.  The new row is committed together with the share, and is
rolled back when the dispatch finds none. -/
def createTask (userId taskId assignmentId : Uuid) (request : TaskCreateRequest)
    (acquire : Uuid -> Bool) (now : Time) : Outcome Database RoomError (Option RoomDispatchResult) :=
  match validateRoomDispatchRequest request with
  | .error error => ⟨.error error, db⟩
  | .ok () =>
    if taskId ∈ db.tasks.keys then ⟨.error (.dataError "tasks.id"), db⟩
    else
      let added := db.setTask taskId (request.task userId)
      match request.roomId.filter (fun _ => request.dispatchMode ∈ roomDispatchModes) with
      | none => ⟨.ok none, added⟩
      | some roomId =>
        let dispatched := added.selectAndAssignRoomGpu userId roomId taskId assignmentId
          request.dispatchMode request.requirements acquire now
        match dispatched.result with
        | .ok result => ⟨.ok (some result), dispatched.state.markAssigned taskId⟩
        | .error (.dataError column) => ⟨.error (.dataError column), dispatched.state⟩
        | .error error => ⟨.error (mapDispatchError error), db⟩

/-- `TaskRepository.mark_cancelled` -/
def markTaskCancelled (taskId : Uuid) (now : Time) : Database :=
  match db.tasks.get? taskId with
  | none => db
  | some task => db.setTask taskId { task with status := .cancelled, completedAt := some now }

def cancelAssignment (taskId : Uuid) (requestedAt endedAt : Time) : Database :=
  match db.getByTaskId taskId with
  | none => db
  | some assignmentId =>
    -- an assignment that has ended is left alone by `request_cancel` too
    (db.requestCancel settings assignmentId "Task cancelled by user" requestedAt endedAt).2

def cancelTask (taskId userId : Uuid) (requestedAt endedAt cancelledAt : Time) :
    Outcome Database RoomError Unit :=
  match db.tasks.get? taskId with
  | none => ⟨.error (.httpException 404 "Task not found"), db⟩
  | some task =>
    if task.userId ≠ some userId then ⟨.error (.httpException 403 "Access denied"), db⟩
    else if task.status = .completed ∨ task.status = .failed ∨ task.status = .cancelled then
      ⟨.error (.httpException 400 "Task already terminated"), db⟩
    else
      let released := if task.dispatchMode ∈ roomDispatchModes ∧ task.status = .assigned then
          db.releaseRoomAssignment taskId
        else db
      ⟨.ok (), (released.cancelAssignment settings taskId requestedAt endedAt).markTaskCancelled
        taskId cancelledAt⟩

end Database

end Rooms
end ZepGpu
