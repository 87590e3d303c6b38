import ZepGpu.Foundation.Runs
import ZepGpu.Rooms.Lifecycle

namespace ZepGpu
namespace Rooms

open Foundation Database Dict

/-!
# One live assignment for each share

An assignment that has not ended holds its share: the share is allocated to
its task, and no other live assignment refers to it.  Dispatch takes a share
that nobody holds, and the end of an assignment gives back what it held.  The
cancellation of a task gives the share of its last assignment back before it
looks at the assignment, which is right as long as the provider has not claimed
it.
-/

/-- A lifecycle call, or a dispatch of a task to a room. -/
inductive RoomCall where
  | lifecycle (call : LifecycleCall)
  | selectAndAssignRoomGpu (userId roomId taskId assignmentId : Uuid) (dispatchMode : String)
      (requirements : ShareRequirements) (acquire : Uuid -> Bool) (now : Time)
  | createTask (userId taskId assignmentId : Uuid) (request : TaskCreateRequest)
      (acquire : Uuid -> Bool) (now : Time)
  | cancelTask (taskId userId : Uuid) (requestedAt endedAt cancelledAt : Time)

def performRoom (settings : Settings) (db : Database) : RoomCall -> Database
  | .lifecycle call => db.performLifecycle settings call
  | .selectAndAssignRoomGpu userId roomId taskId assignmentId dispatchMode requirements acquire now =>
    (db.selectAndAssignRoomGpu userId roomId taskId assignmentId dispatchMode requirements acquire
      now).state
  | .createTask userId taskId assignmentId request acquire now =>
    (db.createTask userId taskId assignmentId request acquire now).state
  | .cancelTask taskId userId requestedAt endedAt cancelledAt =>
    (db.cancelTask settings taskId userId requestedAt endedAt cancelledAt).state

/-- An assignment of a task on a share that has not ended. -/
def LiveOn (db : Database) (id shareId taskId : Uuid) : Prop :=
  ∃ row, db.assignments.get? id = some row ∧ row.status.isTerminal = false ∧
    row.gpuShareId = some shareId ∧ row.taskId = taskId

/-- No two live assignments refer to one share, and none refers to a share that
is idle and not held. -/
structure OneLivePerShare (db : Database) : Prop where
  single : ∀ {id other shareId taskId otherTask}, LiveOn db id shareId taskId ->
    LiveOn db other shareId otherTask -> id = other
  taken : ∀ {id shareId taskId share}, LiveOn db id shareId taskId ->
    db.shares.get? shareId = some share -> ¬ (share.state = .idle ∧ share.currentTaskId = none)

/-- A share has at most one live assignment, whose task holds it. -/
structure SharesHeld (db : Database) : Prop where
  single : ∀ {id other shareId taskId otherTask}, LiveOn db id shareId taskId ->
    LiveOn db other shareId otherTask -> id = other
  held : ∀ {id shareId taskId}, LiveOn db id shareId taskId -> ∃ share,
    db.shares.get? shareId = some share ∧ share.state = .allocated ∧
      share.currentTaskId = some (strOfUuid taskId)

section Held

variable {settings : Settings} {db after : Database} {id shareId taskId : Uuid} {change : Change}

theorem SharesHeld.oneLivePerShare (holds : SharesHeld db) : OneLivePerShare db where
  single := holds.single
  taken := by
    intro id shareId taskId share live found free
    rcases holds.held live with ⟨other, isOther, _, holder⟩
    rw [found] at isOther
    cases isOther
    rw [free.2] at holder
    cases holder

theorem SharesHeld.of_fewer (holds : SharesHeld db)
    (back : ∀ {id shareId taskId}, LiveOn after id shareId taskId -> LiveOn db id shareId taskId)
    (kept : ∀ {id shareId taskId}, LiveOn after id shareId taskId ->
      after.shares.get? shareId = db.shares.get? shareId) : SharesHeld after where
  single := fun first second => holds.single (back first) (back second)
  held := by
    intro id shareId taskId live
    rw [kept live]
    exact holds.held (back live)

theorem SharesHeld.not_liveOn (holds : SharesHeld db) {share : GpuShare}
    (found : db.shares.get? shareId = some share) (free : share.currentTaskId = none) :
    ¬ LiveOn db id shareId taskId := by
  intro live
  rcases holds.held live with ⟨other, isOther, _, holder⟩
  rw [found] at isOther
  cases isOther
  rw [free] at holder
  cases holder

theorem ChangeEffect.liveOn {assignment : NodeTaskAssignment}
    (effect : ChangeEffect settings db id change after assignment)
    (isRow : db.assignments.get? id = some assignment) (guard : change.Guard assignment)
    {other : Uuid} (live : LiveOn after other shareId taskId) : LiveOn db other shareId taskId := by
  rcases live with ⟨row, found, alive, isShare, isTask⟩
  rw [effect.assignments] at found
  rcases eq_or_ne other id with rfl | different
  · rw [get?_set_self] at found
    cases found
    rcases change.apply_kept assignment with ⟨task, share, _⟩
    exact ⟨assignment, isRow, guard.live, share.symm.trans isShare, task.symm.trans isTask⟩
  · rw [get?_set_of_ne different] at found
    exact ⟨row, found, alive, isShare, isTask⟩

theorem SharesHeld.changes (holds : SharesHeld db) (changes : Changes settings db id change after) :
    SharesHeld after := by
  rcases changes with ⟨assignment, isRow, guard, rfl⟩
  have effect := change.effect settings db id guard
  apply holds.of_fewer (effect.liveOn isRow guard)
  intro other otherShare otherTask live
  rcases effect.shares with ⟨same, _⟩ | ⟨ends, freed, share, isShare, found, _, newShares, _⟩
  · rw [same]
  · rw [newShares]
    apply get?_set_of_ne
    rintro rfl
    have here : LiveOn db id otherShare assignment.taskId :=
      ⟨assignment, isRow, guard.live, isShare, rfl⟩
    have same := holds.single (effect.liveOn isRow guard live) here
    subst same
    rcases live with ⟨row, isAfter, alive, _, _⟩
    rw [effect.assignments, get?_set_self] at isAfter
    cases isAfter
    exact absurd (alive.symm.trans ends) (by decide)

theorem SharesHeld.reaches {permitted : Database -> Uuid -> Change -> Prop} (holds : SharesHeld db)
    (reached : Reaches settings permitted db after) : SharesHeld after := by
  induction reached with
  | refl => exact holds
  | tail _ step ih =>
    rcases step with ⟨id, change, _, changes⟩
    exact ih.changes changes

/-- What a dispatch does to shares and assignments. -/
inductive Dispatched (db : Database) (taskId assignmentId : Uuid) (after : Database) : Prop where
  | nothing (shares : after.shares = db.shares) (assignments : after.assignments = db.assignments)
  | assigned {shareId : Uuid} {share : GpuShare} {row : NodeTaskAssignment}
      (found : db.shares.get? shareId = some share) (idle : share.state = .idle)
      (free : share.currentTaskId = none) (isTask : row.taskId = taskId)
      (isShare : row.gpuShareId = some shareId) (fresh : assignmentId ∉ db.assignments.keys)
      (shares : after.shares = db.shares.set shareId (share.heldBy (strOfUuid taskId)))
      (assignments : after.assignments = db.assignments.set assignmentId row)
  /-- The share was taken and given back. -/
  | refused {shareId : Uuid} {share : GpuShare} (found : db.shares.get? shareId = some share)
      (idle : share.state = .idle) (free : share.currentTaskId = none)
      (shares : after.shares =
        (db.shares.set shareId (share.heldBy (strOfUuid taskId))).set shareId share.freed)
      (assignments : after.assignments = db.assignments)

theorem updateState_allocated_eq_some {holder : String} {written : GpuShare} {updated : Database}
    (run : db.updateState shareId .allocated (some holder) = (some written, updated)) :
    ∃ share, db.shares.get? shareId = some share ∧ share.state = .idle ∧
      share.currentTaskId = none ∧ written = share.heldBy holder ∧
      updated = db.setShare shareId (share.heldBy holder) := by
  unfold updateState at run
  cases found : db.shares.get? shareId with
  | none =>
    rw [found] at run
    cases run
  | some share =>
    rw [found] at run
    dsimp only at run
    split_ifs at run with taken
    · cases run
    · cases run
      simp only [true_and, not_or, not_not, Option.not_isSome_iff_eq_none] at taken
      exact ⟨share, rfl, taken.1, taken.2, rfl, rfl⟩

theorem updateState_idle_eq (found : db.shares.get? shareId = some share) :
    (db.updateState shareId .idle none).2 = db.setShare shareId share.freed := by
  unfold updateState
  rw [found]
  rfl

theorem assignFirstAvailableShare_dispatched (roomId taskId assignmentId : Uuid)
    (acquire : Uuid -> Bool) (now : Time) (candidates : List Uuid) (db : Database) :
    Dispatched db taskId assignmentId
      (assignFirstAvailableShare roomId taskId assignmentId acquire now candidates db).state := by
  induction candidates with
  | nil => exact .nothing rfl rfl
  | cons shareId rest ih =>
    unfold assignFirstAvailableShare
    split_ifs
    · split
      · exact ih
      · rename_i written updated run
        rcases updateState_allocated_eq_some run with ⟨share, found, idle, free, rfl, rfl⟩
        unfold createAssignment
        split_ifs with used
        · dsimp only
          rw [updateState_idle_eq get?_set_self]
          exact .refused found idle free rfl rfl
        · exact .assigned found idle free rfl rfl used rfl rfl
    · exact ih

theorem selectAndAssignRoomGpu_dispatched (userId roomId taskId assignmentId : Uuid)
    (dispatchMode : String) (requirements : ShareRequirements) (acquire : Uuid -> Bool) (now : Time) :
    Dispatched db taskId assignmentId (db.selectAndAssignRoomGpu userId roomId taskId assignmentId
      dispatchMode requirements acquire now).state := by
  unfold selectAndAssignRoomGpu
  dsimp only
  split
  · exact .nothing rfl rfl
  · split
    · exact .nothing rfl rfl
    · exact assignFirstAvailableShare_dispatched _ _ _ _ _ _ _

theorem Dispatched.of_tasks {before middle : Database} {assignmentId : Uuid}
    (dispatched : Dispatched before taskId assignmentId middle) (shares : before.shares = db.shares)
    (assignments : before.assignments = db.assignments) (afterShares : after.shares = middle.shares)
    (afterAssignments : after.assignments = middle.assignments) :
    Dispatched db taskId assignmentId after := by
  cases dispatched with
  | nothing sameShares sameAssignments =>
    exact .nothing (afterShares.trans (sameShares.trans shares))
      (afterAssignments.trans (sameAssignments.trans assignments))
  | assigned found idle free isTask isShare fresh newShares newAssignments =>
    rw [shares] at found newShares
    rw [assignments] at fresh newAssignments
    exact .assigned found idle free isTask isShare fresh (afterShares.trans newShares)
      (afterAssignments.trans newAssignments)
  | refused found idle free newShares sameAssignments =>
    rw [shares] at found newShares
    exact .refused found idle free (afterShares.trans newShares)
      (afterAssignments.trans (sameAssignments.trans assignments))

theorem markAssigned_shares : (db.markAssigned taskId).shares = db.shares := by
  unfold markAssigned
  cases db.tasks.get? taskId with
  | none => rfl
  | some task => rfl

theorem markAssigned_assignments : (db.markAssigned taskId).assignments = db.assignments := by
  unfold markAssigned
  cases db.tasks.get? taskId with
  | none => rfl
  | some task => rfl

theorem createTask_dispatched (userId taskId assignmentId : Uuid) (request : TaskCreateRequest)
    (acquire : Uuid -> Bool) (now : Time) :
    Dispatched db taskId assignmentId
      (db.createTask userId taskId assignmentId request acquire now).state := by
  unfold createTask
  split
  · exact .nothing rfl rfl
  · split_ifs
    · exact .nothing rfl rfl
    · dsimp only
      split
      · exact .nothing rfl rfl
      · rename_i roomId _
        have dispatched := @selectAndAssignRoomGpu_dispatched
          (db.setTask taskId (request.task userId)) userId roomId taskId assignmentId request.dispatchMode
          request.requirements acquire now
        split
        · exact dispatched.of_tasks rfl rfl markAssigned_shares markAssigned_assignments
        · exact dispatched.of_tasks rfl rfl rfl rfl
        · exact .nothing rfl rfl

theorem SharesHeld.dispatched {assignmentId : Uuid} (holds : SharesHeld db)
    (dispatched : Dispatched db taskId assignmentId after) : SharesHeld after := by
  cases dispatched with
  | nothing shares assignments =>
    apply holds.of_fewer
    · intro id shareId taskId live
      unfold LiveOn at live
      rw [assignments] at live
      exact live
    · intro id shareId taskId live
      rw [shares]
  | @refused taken share found idle free shares assignments =>
    have back : ∀ {id shareId taskId}, LiveOn after id shareId taskId ->
        LiveOn db id shareId taskId := by
      intro id shareId taskId live
      unfold LiveOn at live
      rw [assignments] at live
      exact live
    apply holds.of_fewer back
    intro id other otherTask live
    rw [shares]
    have different : other ≠ taken := by
      rintro rfl
      exact holds.not_liveOn found free (back live)
    rw [get?_set_of_ne different, get?_set_of_ne different]
  | @assigned taken share row found idle free isTask isShare fresh shares assignments =>
    have cases_live : ∀ {id shareId otherTask}, LiveOn after id shareId otherTask ->
        (id = assignmentId ∧ shareId = taken ∧ otherTask = taskId) ∨
          (LiveOn db id shareId otherTask ∧ shareId ≠ taken) := by
      intro id shareId otherTask live
      rcases live with ⟨found', isRow, alive, onShare, ofTask⟩
      rw [assignments] at isRow
      rcases eq_or_ne id assignmentId with rfl | different
      · rw [get?_set_self] at isRow
        cases isRow
        rw [isShare] at onShare
        exact Or.inl ⟨rfl, (Option.some.inj onShare).symm, ofTask.symm.trans isTask⟩
      · rw [get?_set_of_ne different] at isRow
        have old : LiveOn db id shareId otherTask := ⟨found', isRow, alive, onShare, ofTask⟩
        refine Or.inr ⟨old, ?_⟩
        rintro rfl
        exact holds.not_liveOn found free old
    constructor
    · intro id other shareId firstTask secondTask first second
      rcases cases_live first with ⟨rfl, rfl, rfl⟩ | ⟨first, apart⟩
      · rcases cases_live second with ⟨rfl, _, _⟩ | ⟨_, apart⟩
        · rfl
        · exact absurd rfl apart
      · rcases cases_live second with ⟨rfl, rfl, _⟩ | ⟨second, _⟩
        · exact absurd rfl apart
        · exact holds.single first second
    · intro id shareId otherTask live
      rw [shares]
      rcases cases_live live with ⟨rfl, rfl, rfl⟩ | ⟨old, apart⟩
      · exact ⟨_, get?_set_self, rfl, rfl⟩
      · rw [get?_set_of_ne apart]
        exact holds.held old

/-- The cancellations that do not give a claimed share back: the last
assignment of a task that is still waiting is itself still waiting. -/
def Unclaimed (db : Database) : RoomCall -> Prop
  | .cancelTask taskId userId _ _ _ => ∀ task id row, db.tasks.get? taskId = some task ->
      task.userId = some userId -> task.status = .assigned ->
      task.dispatchMode ∈ roomDispatchModes -> db.getByTaskId taskId = some id ->
      db.assignments.get? id = some row -> row.status = .assigned
  | _ => True

theorem requestCancel_of_waiting {row : NodeTaskAssignment} {reason : String}
    {requestedAt now : Time} (found : db.assignments.get? id = some row)
    (waiting : row.status = .assigned) :
    (db.requestCancel settings id reason requestedAt now).2 =
      Change.write settings (db.setAssignment id (row.cancelRequested requestedAt)) id
        (row.cancelRequested requestedAt) (.ended .cancelled NodeTerminalReason.cancelled
          (some reason) none (some .cancelled) now) := by
  unfold requestCancel
  rw [found]
  dsimp only
  rw [waiting, if_neg (by decide), if_pos rfl]
  unfold markCancelled
  have flagged : (db.setAssignment id (row.cancelRequested requestedAt)).assignments.get? id =
      some (row.cancelRequested requestedAt) := get?_set_self
  have own : ¬ row.peerId.any (fun peerId =>
      (row.cancelRequested requestedAt).peerId ≠ some peerId) = true := by
    cases isPeer : row.peerId with
    | none => exact Bool.false_ne_true
    | some peerId =>
      rw [Option.any_some, decide_eq_true_eq, not_not]
      exact isPeer
  have status : (row.cancelRequested requestedAt).status = .assigned := waiting
  rw [flagged]
  dsimp only
  rw [if_neg own, status, if_neg (by decide), if_neg (by decide)]
  unfold markTerminal
  rw [status, if_neg (by decide)]
  rfl

theorem markTaskCancelled_shares {now : Time} :
    (db.markTaskCancelled taskId now).shares = db.shares := by
  unfold markTaskCancelled
  cases db.tasks.get? taskId with
  | none => rfl
  | some task => rfl

theorem markTaskCancelled_assignments {now : Time} :
    (db.markTaskCancelled taskId now).assignments = db.assignments := by
  unfold markTaskCancelled
  cases db.tasks.get? taskId with
  | none => rfl
  | some task => rfl

theorem SharesHeld.markTaskCancelled (holds : SharesHeld db) (now : Time) :
    SharesHeld (db.markTaskCancelled taskId now) := by
  apply holds.of_fewer
  · intro id shareId taskId live
    unfold LiveOn at live
    rw [markTaskCancelled_assignments] at live
    exact live
  · intro id shareId taskId live
    rw [markTaskCancelled_shares]

theorem SharesHeld.released {row : NodeTaskAssignment} {share : GpuShare} {reason : String}
    {requestedAt now : Time} (holds : SharesHeld db) (found : db.assignments.get? id = some row)
    (waiting : row.status = .assigned) (isShare : row.gpuShareId = some shareId) :
    SharesHeld ((db.setShare shareId share.freed).requestCancel settings id reason requestedAt
      now).2 := by
  have here : LiveOn db id shareId row.taskId := ⟨row, found, by rw [waiting]; rfl, isShare, rfl⟩
  have kept : (db.setShare shareId share.freed).assignments.get? id = some row := found
  rw [requestCancel_of_waiting kept waiting]
  have guard : Change.Guard (row.cancelRequested requestedAt) (.ended .cancelled
      NodeTerminalReason.cancelled (some reason) none (some .cancelled) now) :=
    ⟨by rw [show (row.cancelRequested requestedAt).status = .assigned from waiting]; rfl, rfl⟩
  generalize isAfter : Change.write settings _ id (row.cancelRequested requestedAt) _ = after
  have effect := isAfter ▸ Change.effect settings
    ((db.setShare shareId share.freed).setAssignment id (row.cancelRequested requestedAt)) id _ guard
  have apart : ∀ {other otherShare otherTask}, LiveOn after other otherShare otherTask ->
      LiveOn db other otherShare otherTask ∧ otherShare ≠ shareId := by
    intro other otherShare otherTask live
    rcases live with ⟨found', isRow, alive, onShare, ofTask⟩
    rw [effect.assignments] at isRow
    have different : other ≠ id := by
      rintro rfl
      rw [get?_set_self] at isRow
      cases isRow
      cases alive
    rw [get?_set_of_ne different] at isRow
    have isRow := (get?_set_of_ne different).symm.trans isRow
    have old : LiveOn db other otherShare otherTask := ⟨found', isRow, alive, onShare, ofTask⟩
    refine ⟨old, ?_⟩
    rintro rfl
    exact different (holds.single old here)
  apply holds.of_fewer (fun live => (apart live).1)
  intro other otherShare otherTask live
  have different := (apart live).2
  rcases effect.shares with ⟨same, _⟩ | ⟨_, freed, _, isFreed, _, _, newShares, _⟩
  · rw [same]
    exact get?_set_of_ne different
  · have isFreed : freed = shareId := Option.some.inj (isFreed.symm.trans isShare)
    subst isFreed
    rw [newShares, get?_set_of_ne different]
    exact get?_set_of_ne different

theorem getByTaskId_found (last : db.getByTaskId taskId = some id) :
    ∃ row, db.assignments.get? id = some row ∧ row.taskId = taskId := by
  unfold getByTaskId at last
  have member := List.mem_of_head? last
  rw [List.mem_insertionSort, mem_select] at member
  rcases member with ⟨row, found, same⟩
  exact ⟨row, found, of_decide_eq_true same⟩

theorem SharesHeld.cancelTask {userId : Uuid} {requestedAt endedAt cancelledAt : Time}
    (holds : SharesHeld db)
    (unclaimed : Unclaimed db (.cancelTask taskId userId requestedAt endedAt cancelledAt)) :
    SharesHeld (db.cancelTask settings taskId userId requestedAt endedAt cancelledAt).state := by
  have unreleased : SharesHeld (db.cancelAssignment settings taskId requestedAt endedAt) := by
    unfold cancelAssignment
    cases db.getByTaskId taskId with
    | none => exact holds
    | some id => exact holds.reaches (requestCancel_reaches id _ _ _)
  unfold Database.cancelTask
  cases isTask : db.tasks.get? taskId with
  | none => exact holds
  | some task =>
    dsimp only
    split_ifs with stranger ended waiting
    · exact holds
    · exact holds
    · apply SharesHeld.markTaskCancelled
      unfold releaseRoomAssignment
      cases last : db.getByTaskId taskId with
      | none => exact unreleased
      | some id =>
        rcases getByTaskId_found last with ⟨row, found, _⟩
        rw [Option.bind_some, found]
        dsimp only
        cases isShare : row.gpuShareId with
        | none => exact unreleased
        | some shareId =>
          dsimp only
          cases isRow : db.shares.get? shareId with
          | none =>
            rw [show (db.updateState shareId .idle none).2 = db by
              unfold updateState
              rw [isRow]]
            exact unreleased
          | some share =>
            rw [updateState_idle_eq isRow]
            unfold cancelAssignment
            rw [show (db.setShare shareId share.freed).getByTaskId taskId = some id from last]
            have status := unclaimed task id row isTask (not_not.mp stranger) waiting.2
              waiting.1 last found
            exact holds.released found status isShare
    · exact SharesHeld.markTaskCancelled unreleased _

theorem SharesHeld.perform (holds : SharesHeld db) (call : RoomCall) (unclaimed : Unclaimed db call) :
    SharesHeld (performRoom settings db call) := by
  cases call with
  | lifecycle call => exact holds.reaches (performLifecycle_reaches settings db call)
  | selectAndAssignRoomGpu userId roomId taskId assignmentId dispatchMode requirements acquire now =>
    exact holds.dispatched (selectAndAssignRoomGpu_dispatched _ _ _ _ _ _ _ _)
  | createTask userId taskId assignmentId request acquire now =>
    exact holds.dispatched (createTask_dispatched _ _ _ _ _ _)
  | cancelTask taskId userId requestedAt endedAt cancelledAt => exact holds.cancelTask unclaimed

/-- From a state without live assignments, over calls that cancel no task whose
last assignment a provider has claimed. -/
theorem one_live_assignment_per_share (settings : Settings) (db : Database) (calls : List RoomCall)
    (ended : ∀ id row, db.assignments.get? id = some row -> row.status.isTerminal = true)
    (unclaimed : Meets (performRoom settings) Unclaimed db calls) :
    OneLivePerShare (calls.foldl (performRoom settings) db) := by
  apply SharesHeld.oneLivePerShare
  apply unclaimed.invariant
  · have dead : ∀ {id shareId taskId}, ¬ LiveOn db id shareId taskId := by
      rintro id shareId taskId ⟨row, found, alive, _⟩
      exact absurd (alive.symm.trans (ended id row found)) (by decide)
    exact ⟨fun live => absurd live dead, fun live => absurd live dead⟩
  · exact fun _ call holds meets => holds.perform call meets

end Held

open Sample

def firstDispatch : RoomCall :=
  .createTask userId taskId assignmentId request (fun _ => true) 0

def firstCancel : RoomCall :=
  .cancelTask taskId userId (seconds 2) (seconds 2) (seconds 2)

def secondDispatch : RoomCall :=
  .createTask userId nextTaskId nextAssignmentId request (fun _ => true) (seconds 3)

def cancelClaimed : List RoomCall :=
  [firstDispatch, .lifecycle (.markClaimed assignmentId peerId none (seconds 1)), firstCancel,
    secondDispatch]

def cancelWaiting : List RoomCall :=
  [firstDispatch, firstCancel, secondDispatch]

theorem idleRoom_ended (id : Uuid) (row : NodeTaskAssignment)
    (found : idleRoom.assignments.get? id = some row) : row.status.isTerminal = true := by
  cases found

theorem liveOn_of_any {db : Database} {id shareId taskId : Uuid}
    (holds : (db.assignments.get? id).any (fun row => row.status.isTerminal = false ∧
      row.gpuShareId = some shareId ∧ row.taskId = taskId) = true) : LiveOn db id shareId taskId := by
  rcases Option.any_eq_true _ _ |>.mp holds with ⟨row, found, facts⟩
  exact ⟨row, found, of_decide_eq_true facts⟩

/-- The cancellation gives the share away while the first provider still works,
and the next task gets it. -/
theorem cancelled_share_given_away :
    (∀ id row, idleRoom.assignments.get? id = some row -> row.status.isTerminal = true) ∧
      ¬ OneLivePerShare (cancelClaimed.foldl (performRoom settings) idleRoom) := by
  refine ⟨idleRoom_ended, fun holds => ?_⟩
  have facts : ((cancelClaimed.foldl (performRoom settings) idleRoom).assignments.get?
        assignmentId).any (fun row => row.status.isTerminal = false ∧
          row.gpuShareId = some shareId ∧ row.taskId = taskId) = true ∧
      ((cancelClaimed.foldl (performRoom settings) idleRoom).assignments.get?
        nextAssignmentId).any (fun row => row.status.isTerminal = false ∧
          row.gpuShareId = some shareId ∧ row.taskId = nextTaskId) = true := by
    decide
  have same := holds.single (liveOn_of_any facts.1) (liveOn_of_any facts.2)
  exact absurd same (by decide)

/-- A waiting assignment is cancelled, and its share goes to the next task. -/
theorem cancelled_share_reused :
    ((cancelWaiting.foldl (performRoom settings) idleRoom).assignments.get? nextAssignmentId).map
        (·.gpuShareId) = some (some shareId) ∧
      OneLivePerShare (cancelWaiting.foldl (performRoom settings) idleRoom) := by
  refine ⟨by decide, ?_⟩
  apply one_live_assignment_per_share settings idleRoom cancelWaiting idleRoom_ended
  refine ⟨trivial, ?_, trivial, trivial⟩
  intro task id row _ _ _ _ last found
  have waiting : ((performRoom settings idleRoom firstDispatch).getByTaskId taskId).all (fun id =>
      ((performRoom settings idleRoom firstDispatch).assignments.get? id).all (fun row =>
        row.status = .assigned)) = true := by
    decide
  rw [last, Option.all_some, found, Option.all_some] at waiting
  exact of_decide_eq_true waiting

end Rooms
end ZepGpu
