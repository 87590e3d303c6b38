import ZepGpu.Rooms.Exclusivity
import ZepGpu.Rooms.LiveAssignments

namespace ZepGpu
namespace Rooms

open Foundation Database Dict List

/-!
# The state of a share and its holder

Dispatch, reservations and every release write the state of a share together
with its holder.  A heartbeat writes the state alone, as the provider reports
it.  Among runs in which providers report a GPU as allocated exactly when the
stored share is held, the state and the holder of every share agree.
-/

/-- A call that can change the state of a share. -/
inductive ShareCall where
  | room (call : RoomCall)
  | training (call : TrainingCall)
  | roomNodeHeartbeat (roomId peerId : Uuid) (isOnline : Bool) (gpuStatus : List (Uuid × GpuData))
  | networkPeerHeartbeat (peerId : Uuid) (isOnline : Bool) (gpuStatus : List (Uuid × GpuData))

def performShare (settings : Settings) (db : Database) : ShareCall -> Database
  | .room call => performRoom settings db call
  | .training call => performTraining db call
  | .roomNodeHeartbeat roomId peerId isOnline gpuStatus =>
    (db.roomNodeHeartbeat roomId peerId isOnline gpuStatus).state
  | .networkPeerHeartbeat peerId isOnline gpuStatus =>
    (db.networkPeerHeartbeat peerId isOnline gpuStatus).state

/-- The share is allocated exactly when it has a holder. -/
def GpuShare.Agrees (share : GpuShare) : Prop :=
  share.state = .allocated ↔ share.currentTaskId.isSome = true

def SharesAgree (db : Database) : Prop :=
  ∀ id share, db.shares.get? id = some share -> share.Agrees

def DeviceHeld (db : Database) (peerId : Uuid) (deviceIndex : Int) : Prop :=
  ∃ id share, db.shares.get? id = some share ∧ share.peerId = peerId ∧
    share.deviceIndex = deviceIndex ∧ share.currentTaskId.isSome = true

/-- The node reports as allocated just the devices that are held. -/
def TruthfulReport (db : Database) (peerId : Uuid) (gpus : List GpuData) : Prop :=
  ∀ gpu, gpu ∈ gpus -> ∀ state, stateOfText gpu.state = some state ->
    (state = .allocated ↔ DeviceHeld db peerId gpu.deviceIndex)

def Truthful (db : Database) : ShareCall -> Prop
  | .roomNodeHeartbeat _ peerId _ gpuStatus =>
    TruthfulReport db peerId (gpuStatus.map (fun gpu => gpu.2.ofRoomPayload))
  | .networkPeerHeartbeat peerId _ gpuStatus =>
    TruthfulReport db peerId (gpuStatus.map (fun gpu => gpu.2.ofNetworkPayload))
  | _ => True

section Agreement

variable {settings : Settings} {db after : Database} {id shareId : Uuid} {share : GpuShare}

theorem agrees_freed (share : GpuShare) : share.freed.Agrees := by
  constructor
  · intro allocated
    cases allocated
  · intro held
    cases held

theorem agrees_heldBy (share : GpuShare) (holder : String) : (share.heldBy holder).Agrees :=
  ⟨fun _ => rfl, fun _ => rfl⟩

theorem SharesAgree.set (agree : SharesAgree db) (written : share.Agrees)
    (shares : after.shares = db.shares.set shareId share) : SharesAgree after := by
  intro id other found
  rw [shares] at found
  rcases eq_or_ne id shareId with rfl | different
  · rw [get?_set_self] at found
    cases found
    exact written
  · rw [get?_set_of_ne different] at found
    exact agree id other found

theorem SharesAgree.same (agree : SharesAgree db) (shares : after.shares = db.shares) :
    SharesAgree after := by
  intro id share found
  rw [shares] at found
  exact agree id share found

/-! ## Rooms -/

theorem SharesAgree.reaches {permitted : Database -> Uuid -> Change -> Prop} (agree : SharesAgree db)
    (reached : Reaches settings permitted db after) : SharesAgree after := by
  induction reached with
  | refl => exact agree
  | @tail before _ _ step ih =>
    rcases step with ⟨id, change, _, assignment, _, guard, rfl⟩
    rcases (change.effect settings before id guard).shares with
      ⟨same, _⟩ | ⟨_, freed, share, _, _, _, newShares, _⟩
    · exact ih.same same
    · exact ih.set (agrees_freed share) newShares

theorem SharesAgree.dispatched {taskId assignmentId : Uuid} (agree : SharesAgree db)
    (dispatched : Dispatched db taskId assignmentId after) : SharesAgree after := by
  cases dispatched with
  | nothing shares assignments => exact agree.same shares
  | @assigned taken share _ _ _ _ _ _ _ shares _ => exact agree.set (agrees_heldBy share _) shares
  | @refused taken share _ _ _ shares _ =>
    have held : SharesAgree (db.setShare taken (share.heldBy (strOfUuid taskId))) :=
      agree.set (agrees_heldBy share _) rfl
    exact held.set (agrees_freed share) shares

theorem SharesAgree.releaseRoomAssignment (agree : SharesAgree db) (taskId : Uuid) :
    SharesAgree (db.releaseRoomAssignment taskId) := by
  unfold Database.releaseRoomAssignment
  cases (db.getByTaskId taskId).bind db.assignments.get? with
  | none => exact agree
  | some assignment =>
    dsimp only
    cases assignment.gpuShareId with
    | none => exact agree
    | some shareId =>
      dsimp only
      cases found : db.shares.get? shareId with
      | none =>
        unfold updateState
        rw [found]
        exact agree
      | some share =>
        rw [updateState_idle_eq found]
        exact agree.set (agrees_freed share) rfl

theorem SharesAgree.cancelAssignment (agree : SharesAgree db) (taskId : Uuid)
    (requestedAt endedAt : Time) :
    SharesAgree (db.cancelAssignment settings taskId requestedAt endedAt) := by
  unfold Database.cancelAssignment
  cases db.getByTaskId taskId with
  | none => exact agree
  | some id => exact agree.reaches (requestCancel_reaches id _ _ _)

theorem SharesAgree.cancelTask (agree : SharesAgree db) (taskId userId : Uuid)
    (requestedAt endedAt cancelledAt : Time) :
    SharesAgree (db.cancelTask settings taskId userId requestedAt endedAt cancelledAt).state := by
  unfold Database.cancelTask
  cases db.tasks.get? taskId with
  | none => exact agree
  | some task =>
    dsimp only
    split_ifs
    · exact agree
    · exact agree
    · exact ((agree.releaseRoomAssignment taskId).cancelAssignment _ _ _).same
        markTaskCancelled_shares
    · exact (agree.cancelAssignment _ _ _).same markTaskCancelled_shares

theorem SharesAgree.performRoom (agree : SharesAgree db) (call : RoomCall) :
    SharesAgree (performRoom settings db call) := by
  cases call with
  | lifecycle call => exact agree.reaches (performLifecycle_reaches settings db call)
  | selectAndAssignRoomGpu userId roomId taskId assignmentId dispatchMode requirements acquire now =>
    exact agree.dispatched (selectAndAssignRoomGpu_dispatched _ _ _ _ _ _ _ _)
  | createTask userId taskId assignmentId request acquire now =>
    exact agree.dispatched (createTask_dispatched _ _ _ _ _ _)
  | cancelTask taskId userId requestedAt endedAt cancelledAt => exact agree.cancelTask _ _ _ _ _

/-! ## Reservations -/

theorem SharesAgree.finishReservation (agree : SharesAgree db) (id : Uuid)
    (reservation : TrainingGpuReservation) (state : TrainingReservationState) (now : Time)
    (reason : String) : SharesAgree (db.finishReservation id reservation state now reason) := by
  unfold Database.finishReservation freeClaimed
  split
  · exact agree.same rfl
  · rename_i share _
    split_ifs
    · exact agree.set (agrees_freed share) rfl
    · exact agree.same rfl

theorem SharesAgree.finishAll (agree : SharesAgree db) (state : TrainingReservationState)
    (now : Time) (reason : String) (ids : List Uuid) :
    SharesAgree (finishAll state now reason ids db) := by
  induction ids generalizing db with
  | nil => exact agree
  | cons id rest ih =>
    unfold Database.finishAll
    split
    · exact ih agree
    · exact ih (agree.finishReservation _ _ _ _ _)

theorem SharesAgree.reclaim {now : Time} (agree : SharesAgree db) (ids : List Uuid)
    (run : reclaim now ids db = .ok after) : SharesAgree after := by
  induction ids generalizing db with
  | nil =>
    cases run
    exact agree
  | cons id rest ih =>
    unfold Database.reclaim at run
    split at run
    · exact ih agree run
    · split_ifs at run
      exact ih (agree.finishReservation _ _ _ _ _) run

theorem SharesAgree.claimShares {runId : Uuid} {run : TrainingRun} {plan : PlacementPlan}
    {owner : String} {expiresAt : Time} {newId : Uuid -> Uuid} (agree : SharesAgree db)
    (shareIds : List Uuid)
    (claimed : claimShares runId run plan owner expiresAt newId shareIds db = .ok after) :
    SharesAgree after := by
  induction shareIds generalizing db with
  | nil =>
    cases claimed
    exact agree
  | cons shareId rest ih =>
    unfold Database.claimShares at claimed
    split at claimed
    · exact ih agree claimed
    · rename_i share _
      split at claimed
      · cases claimed
      · rcases bind_eq_ok.mp claimed with ⟨_, _, claimed⟩
        rcases raiseIf_bind_eq_ok.mp claimed with ⟨_, claimed⟩
        exact ih (agree.set (agrees_heldBy share _) rfl) claimed

theorem SharesAgree.reservePlanBody {runId : Uuid} {run : TrainingRun} {plan : PlacementPlan}
    {owner : String} {ttlSeconds : Int} {now : Time} {newId : Uuid -> Uuid} {ids : List Uuid}
    (agree : SharesAgree db)
    (reserved : db.reservePlanBody runId run plan owner ttlSeconds now newId = .ok (ids, after)) :
    SharesAgree after := by
  rcases reservePlanBody_eq_ok reserved with ⟨middle, shareIds, shares, reclaimed, claimed⟩
  exact (agree.reclaim _ reclaimed).claimShares _ claimed

theorem extendAll_shares (expiresAt : Time) (ids : List Uuid) (db : Database) :
    (extendAll expiresAt ids db).shares = db.shares := by
  induction ids generalizing db with
  | nil => rfl
  | cons id rest ih =>
    unfold extendAll
    split
    · exact ih db
    · exact ih _

theorem SharesAgree.cleanupLoop (agree : SharesAgree db) (current : Time) (runIds : List Uuid)
    (count : Nat) : SharesAgree (cleanupLoop current runIds (count, db)).2 := by
  induction runIds generalizing db count with
  | nil => exact agree
  | cons runId rest ih =>
    unfold Database.cleanupLoop
    split
    · exact ih agree count
    · exact ih (agree.finishAll _ _ _ _) _

theorem SharesAgree.performTraining (agree : SharesAgree db) (call : TrainingCall) :
    SharesAgree (performTraining db call) := by
  have released : ∀ runId enforcedOwner reason now,
      SharesAgree (transaction (fun db => db.releaseBody runId enforcedOwner reason now) db).state := by
    intro runId enforcedOwner reason now
    apply @transaction_preserves Database TrainingReservationError Nat SharesAgree _ _ agree
    intro count written run
    rcases raiseIf_bind_eq_ok.mp run with ⟨_, same⟩
    cases same
    exact agree.finishAll _ _ _ _
  cases call with
  | reservePlan runId plan owner ttlSeconds now newId =>
    simp only [Rooms.performTraining]
    split
    · exact agree
    · unfold reservePlan
      apply @transaction_preserves Database TrainingReservationError (List Uuid) SharesAgree _ _ agree
      intro ids written reserved
      exact agree.reservePlanBody reserved
  | release runId owner reason now => exact released _ _ _ _
  | releaseTerminal runId reason now => exact released _ _ _ _
  | cleanupExpired current => exact agree.cleanupLoop current _ 0
  | renew runId workerId owner ttlSeconds current =>
    apply @transaction_preserves Database TrainingReservationError Nat SharesAgree _ _ agree
    intro count written run
    unfold renewBody at run
    dsimp only at run
    split at run
    · cases run
    · rcases raiseIf_bind_eq_ok.mp run with ⟨_, run⟩
      split at run
      · cases run
      · rcases raiseIf_bind_eq_ok.mp run with ⟨_, run⟩
        rcases raiseIf_bind_eq_ok.mp run with ⟨_, run⟩
        rcases raiseIf_bind_eq_ok.mp run with ⟨_, same⟩
        cases same
        exact agree.same (extendAll_shares _ _ _)
  | assignWorker reservationId workerId =>
    simp only [Rooms.performTraining]
    unfold Database.assignWorker
    split
    · exact agree
    · exact agree.same rfl
  | replaceRuns runs workers islands => exact agree.same rfl

/-! ## Heartbeats -/

theorem mem_sharesOfDevice {peerId : Uuid} {deviceIndex : Int} :
    id ∈ db.sharesOfDevice peerId deviceIndex ↔ ∃ share,
      db.shares.get? id = some share ∧ share.peerId = peerId ∧ share.deviceIndex = deviceIndex := by
  unfold sharesOfDevice
  rw [mem_select]
  simp only [decide_eq_true_eq]

theorem deviceHeld_setShare {peerId : Uuid} {deviceIndex : Int}
    (old : ∀ row, db.shares.get? shareId = some row -> row.peerId = share.peerId ∧
      row.deviceIndex = share.deviceIndex ∧ row.currentTaskId = share.currentTaskId)
    (new : db.shares.get? shareId = none -> share.currentTaskId = none) :
    DeviceHeld (db.setShare shareId share) peerId deviceIndex ↔ DeviceHeld db peerId deviceIndex := by
  constructor
  · rintro ⟨other, row, isRow, onPeer, isDevice, held⟩
    rcases eq_or_ne other shareId with rfl | different
    · have same : some share = some row := get?_set_self.symm.trans isRow
      cases same
      cases before : db.shares.get? other with
      | none =>
        rw [new before] at held
        cases held
      | some earlier =>
        rcases old earlier before with ⟨samePeer, sameDevice, sameHolder⟩
        exact ⟨other, earlier, before, samePeer.trans onPeer, sameDevice.trans isDevice,
          sameHolder ▸ held⟩
    · exact ⟨other, row, (get?_set_of_ne different).symm.trans isRow, onPeer, isDevice, held⟩
  · rintro ⟨other, row, isRow, onPeer, isDevice, held⟩
    rcases eq_or_ne other shareId with rfl | different
    · rcases old row isRow with ⟨samePeer, sameDevice, sameHolder⟩
      exact ⟨other, share, get?_set_self, samePeer.symm.trans onPeer,
        sameDevice.symm.trans isDevice, sameHolder ▸ held⟩
    · exact ⟨other, row, (get?_set_of_ne different).trans isRow, onPeer, isDevice, held⟩

theorem SharesAgree.upsertBody {peerId vpnNetworkId newId : Uuid} {data : GpuData}
    (agree : SharesAgree db)
    (truthful : ∀ state, stateOfText data.state = some state ->
      (state = .allocated ↔ DeviceHeld db peerId data.deviceIndex))
    (run : db.upsertBody peerId vpnNetworkId newId data = .ok (id, after)) :
    SharesAgree after ∧ ∀ deviceIndex,
      (DeviceHeld after peerId deviceIndex ↔ DeviceHeld db peerId deviceIndex) := by
  unfold Database.upsertBody at run
  cases isState : stateOfText data.state with
  | none =>
    rw [isState] at run
    split at run
    · cases run
    · cases run
    · contradiction
    · contradiction
  | some state =>
  have right := truthful state isState
  cases rows : db.sharesOfDevice peerId data.deviceIndex with
  | nil =>
    rw [isState, rows] at run
    dsimp only at run
    split_ifs at run with used
    cases run
    have absent : db.shares.get? id = none := get?_eq_none_iff.mpr used
    have free : ¬ DeviceHeld db peerId data.deviceIndex := by
      rintro ⟨other, row, isRow, onPeer, isDevice, _⟩
      have member := mem_sharesOfDevice.mpr ⟨row, isRow, onPeer, isDevice⟩
      rw [rows] at member
      exact absurd member not_mem_nil
    have agrees : (data.share peerId vpnNetworkId state).Agrees := by
      constructor
      · exact fun allocated => absurd (right.mp allocated) free
      · intro held
        cases held
    refine ⟨agree.set agrees rfl, fun deviceIndex => deviceHeld_setShare ?_ (fun _ => rfl)⟩
    intro row isRow
    rw [absent] at isRow
    cases isRow
  | cons shareId more =>
  cases more with
  | cons second others =>
    rw [isState, rows] at run
    cases run
  | nil =>
    rw [isState, rows] at run
    dsimp only at run
    have member : shareId ∈ db.sharesOfDevice peerId data.deviceIndex := by
      rw [rows]
      exact mem_singleton_self _
    rcases mem_sharesOfDevice.mp member with ⟨share, found, onPeer, isDevice⟩
    rw [found] at run
    cases run
    have held_iff : DeviceHeld db peerId data.deviceIndex ↔ share.currentTaskId.isSome = true := by
      constructor
      · rintro ⟨other, row, isRow, rowPeer, rowDevice, held⟩
        have member := mem_sharesOfDevice.mpr ⟨row, isRow, rowPeer, rowDevice⟩
        rw [rows, mem_singleton] at member
        rw [member, found] at isRow
        cases isRow
        exact held
      · exact fun held => ⟨_, share, found, onPeer, isDevice, held⟩
    have agrees : (share.reported data state).Agrees := right.trans held_iff
    refine ⟨agree.set agrees rfl, fun deviceIndex => deviceHeld_setShare ?_ ?_⟩
    · intro row isRow
      rw [found] at isRow
      cases isRow
      exact ⟨rfl, isDevice, rfl⟩
    · intro absent
      rw [found] at absent
      cases absent

theorem SharesAgree.upsertAll {peerId vpnNetworkId : Uuid} (gpus : List (Uuid × GpuData))
    (agree : SharesAgree db) (truthful : TruthfulReport db peerId (gpus.map Prod.snd)) :
    SharesAgree (upsertAll peerId vpnNetworkId gpus db).state := by
  induction gpus generalizing db with
  | nil => exact agree
  | cons gpu rest ih =>
    rcases gpu with ⟨newId, data⟩
    have first := truthful data mem_cons_self
    unfold Database.upsertAll
    rcases transaction_cases (fun db => db.upsertBody peerId vpnNetworkId newId data) db with
      ⟨error, same⟩ | ⟨id, written, run, same⟩
    · rw [same]
      exact agree
    · rw [same]
      rcases agree.upsertBody first run with ⟨later, held⟩
      apply ih later
      intro gpu member state isState
      rw [held]
      exact truthful gpu (mem_cons_of_mem _ member) state isState

theorem peerHeartbeat_shares (peerId : Uuid) (isOnline : Bool) (markGpuHost : Option Bool) :
    (db.peerHeartbeat peerId isOnline markGpuHost).2.shares = db.shares := by
  unfold peerHeartbeat
  split
  · rfl
  · rfl

theorem TruthfulReport.same {peerId : Uuid} {gpus : List GpuData}
    (truthful : TruthfulReport db peerId gpus) (shares : after.shares = db.shares) :
    TruthfulReport after peerId gpus := by
  unfold TruthfulReport DeviceHeld
  rw [shares]
  exact truthful

theorem SharesAgree.perform (agree : SharesAgree db) (call : ShareCall) (truthful : Truthful db call) :
    SharesAgree (performShare settings db call) := by
  cases call with
  | room call => exact agree.performRoom call
  | training call => exact agree.performTraining call
  | roomNodeHeartbeat roomId peerId isOnline gpuStatus =>
    simp only [performShare]
    unfold Database.roomNodeHeartbeat
    have shares := @peerHeartbeat_shares db peerId isOnline (some (gpuStatus ≠ []))
    split
    · rename_i seen run
      rw [run] at shares
      exact agree.same shares
    · rename_i peer seen run
      rw [run] at shares
      apply SharesAgree.upsertAll _ (agree.same shares)
      rw [map_map]
      exact truthful.same shares
  | networkPeerHeartbeat peerId isOnline gpuStatus =>
    simp only [performShare]
    unfold Database.networkPeerHeartbeat
    split
    · exact agree
    · apply SharesAgree.upsertAll _ (agree.same (peerHeartbeat_shares _ _ _))
      rw [map_map]
      exact truthful.same (peerHeartbeat_shares _ _ _)

/-- Over runs whose heartbeats report what is stored. -/
theorem share_states_agree (settings : Settings) (db : Database) (calls : List ShareCall)
    (start : SharesAgree db) (truthful : Meets (performShare settings) Truthful db calls) :
    SharesAgree (calls.foldl (performShare settings) db) :=
  truthful.invariant start (fun _ call agree reported => agree.perform call reported)

end Agreement

/-! ## A provider that reports its busy GPU as idle -/

open Sample

def report (state : String) : ShareCall :=
  .roomNodeHeartbeat roomId peerId true [(nextAssignmentId, {
    deviceIndex := 0
    totalMemoryMb := 24000
    availableMemoryMb := 24000
    state := state })]

/-- A task is dispatched, and the provider reports its GPU. -/
def dispatchAndReport (state : String) : List ShareCall :=
  [.room firstDispatch, report state]

theorem idleRoom_agrees : SharesAgree idleRoom := by
  intro id share found
  rcases eq_or_ne id shareId with rfl | different
  · have same : some Sample.share = some share := get?_set_self.symm.trans found
    cases same
    constructor
    · intro allocated
      cases allocated
    · intro held
      cases held
  · cases (get?_set_of_ne different).symm.trans found

/-- The share of a waiting task looks idle after the heartbeat. -/
theorem held_share_looks_idle :
    SharesAgree idleRoom ∧
      ¬ SharesAgree ((dispatchAndReport "idle").foldl (performShare settings) idleRoom) := by
  refine ⟨idleRoom_agrees, fun agree => ?_⟩
  have facts : (((dispatchAndReport "idle").foldl (performShare settings) idleRoom).shares.get?
      shareId).any (fun share => share.state = .idle ∧ share.currentTaskId.isSome) = true := by
    decide
  rcases Option.any_eq_true _ _ |>.mp facts with ⟨share, found, looks⟩
  rcases of_decide_eq_true looks with ⟨idle, held⟩
  have allocated := (agree shareId share found).mpr held
  rw [idle] at allocated
  cases allocated

/-- The node reports the share that it was given as allocated. -/
theorem held_share_reported :
    (((dispatchAndReport "allocated").foldl (performShare settings) idleRoom).shares.get?
        shareId).map (·.state) = some .allocated ∧
      SharesAgree ((dispatchAndReport "allocated").foldl (performShare settings) idleRoom) := by
  refine ⟨by decide, ?_⟩
  apply share_states_agree settings idleRoom (dispatchAndReport "allocated") idleRoom_agrees
  refine ⟨trivial, ?_, trivial⟩
  intro gpu member state isState
  rw [map_singleton, mem_singleton] at member
  subst member
  have same : some GpuShareState.allocated = some state := isState
  cases same
  have facts : ((performShare settings idleRoom (.room firstDispatch)).shares.get? shareId).any
      (fun share => share.peerId = peerId ∧ share.deviceIndex = 0 ∧ share.currentTaskId.isSome) =
        true := by
    decide
  rcases Option.any_eq_true _ _ |>.mp facts with ⟨share, found, device⟩
  constructor
  · exact fun _ => ⟨shareId, share, found, of_decide_eq_true device⟩
  · exact fun _ => rfl

end Rooms
end ZepGpu
