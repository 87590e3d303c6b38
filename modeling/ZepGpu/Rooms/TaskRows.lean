import ZepGpu.Rooms.LiveAssignments

namespace ZepGpu
namespace Rooms

open Foundation Database Dict

/-!
# What the calls do to the rows of tasks

No call removes a row or changes how its task is dispatched.  A row that was
created stays out of the status of an assigned task once it has left it, and
only the provider of an assignment moves the row of its task to the statuses of
a task that runs or has run.
-/

/-- What may become of a row, when it is run or revived and when it is not. -/
structure RowStep (runs revives : Prop) (task later : Task) : Prop where
  mode : later.dispatchMode = task.dispatchMode
  assigned : later.status = .assigned -> task.status = .assigned
  ran : later.status = .running ∨ later.status = .completed -> later.status = task.status ∨ runs
  cancelled : task.status = .cancelled -> later.status = .cancelled ∨ revives

def RowsStep (runs revives : Uuid -> Prop) (db after : Database) : Prop :=
  ∀ taskId task, db.tasks.get? taskId = some task ->
    ∃ later, after.tasks.get? taskId = some later ∧
      RowStep (runs taskId) (revives taskId) task later

section Rows

variable {settings : Settings} {runs revives : Uuid -> Prop} {db middle after : Database}
  {taskId : Uuid} {task later : Task}

theorem RowStep.refl (runs revives : Prop) (task : Task) : RowStep runs revives task task :=
  ⟨rfl, id, fun _ => Or.inl rfl, Or.inl⟩

theorem RowStep.trans {runs revives : Prop} {task between later : Task}
    (first : RowStep runs revives task between) (second : RowStep runs revives between later) :
    RowStep runs revives task later := by
  refine ⟨second.mode.trans first.mode, fun now => first.assigned (second.assigned now), ?_, ?_⟩
  · intro ran
    rcases second.ran ran with same | runs
    · rw [same] at ran ⊢
      exact first.ran ran
    · exact Or.inr runs
  · intro cancelled
    rcases first.cancelled cancelled with still | revives
    · exact second.cancelled still
    · exact Or.inr revives

theorem RowStep.of_status {runs revives : Prop} (mode : later.dispatchMode = task.dispatchMode)
    (idle : later.status ≠ .assigned ∧ later.status ≠ .running ∧ later.status ≠ .completed)
    (stays : task.status = .cancelled -> later.status = .cancelled ∨ revives) :
    RowStep runs revives task later := by
  refine ⟨mode, fun assigned => absurd assigned idle.1, ?_, stays⟩
  rintro (running | completed)
  · exact absurd running idle.2.1
  · exact absurd completed idle.2.2

theorem RowsStep.of_tasks (same : after.tasks = db.tasks) : RowsStep runs revives db after := by
  intro taskId task found
  exact ⟨task, same ▸ found, RowStep.refl _ _ task⟩

theorem RowsStep.trans (first : RowsStep runs revives db middle)
    (second : RowsStep runs revives middle after) : RowsStep runs revives db after := by
  intro taskId task found
  rcases first taskId task found with ⟨between, here, one⟩
  rcases second taskId between here with ⟨later, there, two⟩
  exact ⟨later, there, one.trans two⟩

theorem RowsStep.set (found : db.tasks.get? taskId = some task)
    (tasks : after.tasks = db.tasks.set taskId later)
    (step : RowStep (runs taskId) (revives taskId) task later) : RowsStep runs revives db after := by
  intro other old isOld
  rw [tasks]
  rcases eq_or_ne other taskId with rfl | different
  · cases isOld.symm.trans found
    exact ⟨later, get?_set_self, step⟩
  · exact ⟨old, (get?_set_of_ne different).trans isOld, RowStep.refl _ _ old⟩

theorem RowsStep.fresh (fresh : db.tasks.get? taskId = none)
    (others : ∀ other, other ≠ taskId -> after.tasks.get? other = db.tasks.get? other) :
    RowsStep runs revives db after := by
  intro other task found
  have different : other ≠ taskId := by
    rintro rfl
    rw [fresh] at found
    cases found
  exact ⟨task, (others other different).trans found, RowStep.refl _ _ task⟩

theorem RowsStep.imp {mayRun mayRevive : Uuid -> Prop} (rows : RowsStep runs revives db after)
    (ran : ∀ taskId, runs taskId -> mayRun taskId)
    (revived : ∀ taskId, revives taskId -> mayRevive taskId) :
    RowsStep mayRun mayRevive db after := by
  intro taskId task found
  rcases rows taskId task found with ⟨later, here, step⟩
  exact ⟨later, here, step.mode, step.assigned, fun now => (step.ran now).imp_right (ran taskId),
    fun cancelled => (step.cancelled cancelled).imp_right (revived taskId)⟩

def LifecycleCall.Executes (assignmentId peerId : Uuid) : LifecycleCall -> Prop
  | .markRunning target caller _ _ => target = assignmentId ∧ caller = peerId
  | .markCompleted target caller _ _ _ => target = assignmentId ∧ caller = peerId
  | _ => False

/-- The call is one by which the provider runs the task. -/
def ByProvider (db : Database) (call : LifecycleCall) (taskId : Uuid) : Prop :=
  ∃ assignmentId peerId assignment, call.Executes assignmentId peerId ∧
    db.getForPeer assignmentId peerId = some assignment ∧ assignment.taskId = taskId

theorem terminate_rows {assignment : NodeTaskAssignment} {id : Uuid} {status : NodeAssignmentStatus}
    {terminalReason : String} {error : Option String} {resultMetadata : Option (Dict String Json)}
    {taskStatus : Option TaskStatus} {now : Time}
    (settles : Change.Settles (.ended status terminalReason error resultMetadata taskStatus now))
    (completes : status = .completed -> runs assignment.taskId) :
    RowsStep runs revives db
      (db.terminate settings id assignment status terminalReason error resultMetadata taskStatus now) := by
  have ends : RowsStep runs revives db
      ((db.setAssignment id (assignment.ended status terminalReason error now)).endTask settings
        assignment.taskId (taskStatus.getD (.ofAssignment status terminalReason)) error
        resultMetadata now) := by
    unfold endTask
    cases found : (db.setAssignment id _).tasks.get? assignment.taskId with
    | none => exact .of_tasks rfl
    | some task =>
      dsimp only
      split_ifs with already
      · exact .of_tasks rfl
      · have given : (task.ended settings (taskStatus.getD (.ofAssignment status terminalReason))
            error resultMetadata now).status =
              taskStatus.getD (.ofAssignment status terminalReason) := by
          cases resultMetadata <;> rfl
        have mode : (task.ended settings (taskStatus.getD (.ofAssignment status terminalReason))
            error resultMetadata now).dispatchMode = task.dispatchMode := by
          cases resultMetadata <;> rfl
        refine .set found rfl ⟨mode, ?_, ?_, ?_⟩
        · rw [given]
          intro assigned
          have terminal := settles.1
          rw [assigned] at terminal
          cases terminal
        · rw [given]
          rintro (running | completed)
          · have terminal := settles.1
            rw [running] at terminal
            cases terminal
          · exact Or.inr (completes (settles.2 completed))
        · intro cancelled
          rw [cancelled] at already
          exact absurd rfl already
  unfold terminate
  rcases releaseGpuShare_cases _ id assignment with same | ⟨shareId, share, -, -, -, same⟩
  · rw [same]
    exact ends
  · rw [same]
    exact ends.trans (.of_tasks rfl)

theorem performLifecycle_rows (settings : Settings) (db : Database) (call : LifecycleCall) :
    RowsStep (ByProvider db call) (ByProvider db call) db (db.performLifecycle settings call) := by
  have reached := performLifecycle_settles settings db call
  generalize db.performLifecycle settings call = after at reached
  induction reached with
  | refl => exact .of_tasks rfl
  | tail _ step ih =>
    rcases step with ⟨id, change, ⟨makes, settles⟩, assignment, isRow, guard, rfl⟩
    cases makes with
    | claims => exact ih.trans (.of_tasks rfl)
    | reclaims => exact ih.trans (.of_tasks rfl)
    | requests => exact ih.trans (.of_tasks rfl)
    | @starts id peerId checkedAt now lease own' own unwanted =>
      have provider : ByProvider db (.markRunning id peerId checkedAt now) assignment.taskId := by
        rcases getForPeer_eq_some own with ⟨found, -⟩
        rw [isRow] at found
        cases found
        exact ⟨id, peerId, assignment, ⟨rfl, rfl⟩, own, rfl⟩
      simp only [Change.write]
      unfold startTask
      cases found : (db.setAssignment id _).tasks.get? assignment.taskId with
      | none => exact .of_tasks rfl
      | some task =>
        exact .set found rfl ⟨rfl, by rintro ⟨⟩, fun _ => Or.inr provider, fun _ => Or.inr provider⟩
    | @completes id peerId given resultMetadata checkedAt now terminalReason error taskStatus
        own' own unwanted unexpired =>
        have provider : ByProvider db (.markCompleted id peerId given checkedAt now)
            assignment.taskId := by
          rcases getForPeer_eq_some own with ⟨found, -⟩
          rw [isRow] at found
          cases found
          exact ⟨id, peerId, assignment, ⟨rfl, rfl⟩, own, rfl⟩
        exact terminate_rows settles fun _ => provider
    | ends about notCompleted =>
      exact ih.trans (terminate_rows settles fun completed => absurd completed notCompleted)

theorem updateState_tasks (shareId : Uuid) (state : GpuShareState) (holder : Option String) :
    (db.updateState shareId state holder).2.tasks = db.tasks := by
  unfold updateState
  cases db.shares.get? shareId with
  | none => rfl
  | some share =>
    dsimp only
    split_ifs
    · rfl
    · rfl

theorem assignFirstAvailableShare_tasks (roomId taskId assignmentId : Uuid) (acquire : Uuid -> Bool)
    (now : Time) (candidates : List Uuid) (db : Database) :
    (assignFirstAvailableShare roomId taskId assignmentId acquire now candidates db).state.tasks =
      db.tasks := by
  induction candidates with
  | nil => rfl
  | cons shareId rest ih =>
    unfold assignFirstAvailableShare
    have taken := @updateState_tasks db shareId .allocated (some (strOfUuid taskId))
    split_ifs
    · split
      · exact ih
      · next share updated run =>
          rw [run] at taken
          unfold createAssignment
          split_ifs
          · exact (updateState_tasks shareId .idle none).trans taken
          · exact taken
    · exact ih

theorem selectAndAssignRoomGpu_tasks (userId roomId taskId assignmentId : Uuid)
    (dispatchMode : String) (requirements : ShareRequirements) (acquire : Uuid -> Bool) (now : Time) :
    (db.selectAndAssignRoomGpu userId roomId taskId assignmentId dispatchMode requirements acquire
      now).state.tasks = db.tasks := by
  unfold selectAndAssignRoomGpu
  dsimp only
  split
  · rfl
  · split
    · rfl
    · exact assignFirstAvailableShare_tasks ..

theorem markAssigned_task_of_ne {other : Uuid} (different : other ≠ taskId) :
    (db.markAssigned taskId).tasks.get? other = db.tasks.get? other := by
  unfold markAssigned
  split
  · rfl
  · exact get?_set_of_ne different

theorem createTask_rows (userId taskId assignmentId : Uuid) (request : TaskCreateRequest)
    (acquire : Uuid -> Bool) (now : Time) :
    RowsStep runs revives db (db.createTask userId taskId assignmentId request acquire now).state := by
  unfold createTask
  split
  · exact .of_tasks rfl
  · split_ifs with known
    · exact .of_tasks rfl
    · have fresh := get?_eq_none_iff.mpr known
      have added : RowsStep runs revives db (db.setTask taskId (request.task userId)) :=
        .fresh fresh fun other different => get?_set_of_ne different
      dsimp only
      split
      · exact added
      · next roomId _ =>
          have tasks := @selectAndAssignRoomGpu_tasks (db.setTask taskId (request.task userId)) userId
            roomId taskId assignmentId request.dispatchMode request.requirements acquire now
          split
          · apply RowsStep.fresh fresh
            intro other different
            rw [markAssigned_task_of_ne different, tasks]
            exact get?_set_of_ne different
          · exact added.trans (.of_tasks tasks)
          · exact .of_tasks rfl

theorem releaseRoomAssignment_tasks : (db.releaseRoomAssignment taskId).tasks = db.tasks := by
  unfold releaseRoomAssignment
  split
  · rfl
  · split
    · rfl
    · exact updateState_tasks ..

theorem markTaskCancelled_rows (now : Time) :
    RowsStep runs revives db (db.markTaskCancelled taskId now) := by
  unfold markTaskCancelled
  split
  · exact .of_tasks rfl
  · next task found =>
      exact .set found rfl (.of_status rfl ⟨nofun, nofun, nofun⟩ fun _ => Or.inl rfl)

theorem cancelAssignment_rows (requestedAt endedAt : Time) :
    RowsStep runs revives db (db.cancelAssignment settings taskId requestedAt endedAt) := by
  unfold cancelAssignment
  split
  · exact .of_tasks rfl
  · next id _ =>
      have rows := performLifecycle_rows settings db
        (.requestCancel id "Task cancelled by user" requestedAt endedAt)
      have unprovided : ∀ {other}, ¬ ByProvider db
          (.requestCancel id "Task cancelled by user" requestedAt endedAt) other := by
        rintro other ⟨assignmentId, peerId, assignment, executes, -⟩
        cases executes
      exact rows.imp (fun _ provider => absurd provider unprovided)
        fun _ provider => absurd provider unprovided

theorem cancelTask_rows (userId : Uuid) (requestedAt endedAt cancelledAt : Time) :
    RowsStep runs revives db
      (db.cancelTask settings taskId userId requestedAt endedAt cancelledAt).state := by
  unfold Database.cancelTask
  split
  · exact .of_tasks rfl
  · next task found =>
      dsimp only
      split_ifs with stranger ended waiting
      · exact .of_tasks rfl
      · exact .of_tasks rfl
      · exact (RowsStep.of_tasks releaseRoomAssignment_tasks).trans
          ((cancelAssignment_rows requestedAt endedAt).trans (markTaskCancelled_rows cancelledAt))
      · exact (cancelAssignment_rows requestedAt endedAt).trans (markTaskCancelled_rows cancelledAt)

end Rows

end Rooms
end ZepGpu
