import ZepGpu.Rooms.Lifecycle

namespace ZepGpu
namespace Rooms

open Foundation Database Dict List

/-!
# The first terminal cause

An assignment that has ended stays as it is: no change finds it again, a call
that is about it alone does nothing at all, and the calls that go over several
assignments leave ended tasks as they are.  With every end at most one entry is
added to the history of the shares that were given back, so that an assignment
gives its share back once.
-/

variable {settings : Settings} {db middle after : Database} {id : Uuid} {change : Change}
  {permitted : Database -> Uuid -> Change -> Prop}

def runLifecycle (settings : Settings) (db : Database) (calls : List LifecycleCall) : Database :=
  calls.foldl (performLifecycle settings) db

theorem runLifecycle_reaches (db : Database) (calls : List LifecycleCall) :
    Reaches settings (fun _ _ _ => True) db (runLifecycle settings db calls) := by
  induction calls generalizing db with
  | nil => exact .refl
  | cons call rest ih =>
    have first : Reaches settings (fun _ _ _ => True) db (db.performLifecycle settings call) :=
      (performLifecycle_reaches settings db call).imp (fun _ _ _ _ => trivial)
    exact first.trans (ih _)

variable {row : NodeTaskAssignment}

theorem Changes.kept {other : Uuid} (changes : Changes settings db id change after)
    (found : db.assignments.get? other = some row) (ended : row.status.isTerminal = true) :
    after.assignments.get? other = some row := by
  rcases changes with ⟨assignment, isRow, guard, rfl⟩
  have different : other ≠ id := by
    rintro rfl
    rw [isRow] at found
    cases found
    exact absurd (guard.live.symm.trans ended) (by decide)
  rw [(change.effect settings db id guard).assignments]
  exact (get?_set_of_ne different).trans found

theorem Reaches.kept {other : Uuid} (reached : Reaches settings permitted db after)
    (found : db.assignments.get? other = some row) (ended : row.status.isTerminal = true) :
    after.assignments.get? other = some row := by
  induction reached with
  | refl => exact found
  | tail _ step ih =>
    rcases step with ⟨id, change, _, changes⟩
    exact changes.kept ih ended

theorem Makes.about {call : LifecycleCall} {target : Uuid} (makes : Makes db call middle id change)
    (isTarget : call.target = some target) : id = target := by
  cases makes with
  | claims => exact Option.some.inj isTarget
  | reclaims => exact Option.some.inj isTarget
  | starts => exact Option.some.inj isTarget
  | completes => exact Option.some.inj isTarget
  | requests => exact Option.some.inj isTarget
  | ends about => exact about target isTarget

theorem performLifecycle_of_ended {call : LifecycleCall} (isTarget : call.target = some id)
    (found : db.assignments.get? id = some row) (ended : row.status.isTerminal = true) :
    db.performLifecycle settings call = db := by
  rcases (performLifecycle_reaches settings db call).cases_head with same | ⟨next, step, _⟩
  · exact same.symm
  · rcases step with ⟨other, change, makes, assignment, isRow, guard, _⟩
    rw [makes.about isTarget, found] at isRow
    cases isRow
    exact absurd (guard.live.symm.trans ended) (by decide)

theorem terminate_tasks {assignment : NodeTaskAssignment} {status : NodeAssignmentStatus}
    {terminalReason : String} {error : Option String} {resultMetadata : Option (Dict String Json)}
    {taskStatus : Option TaskStatus} {now : Time} {taskId : Uuid} {task : Task}
    (found : db.tasks.get? taskId = some task) (ended : task.status.isTerminal = true) :
    (db.terminate settings id assignment status terminalReason error resultMetadata taskStatus
      now).tasks.get? taskId = some task := by
  unfold terminate
  have kept := @endTask_of_terminal settings
    (db.setAssignment id (assignment.ended status terminalReason error now)) taskId task
    (taskStatus.getD (.ofAssignment status terminalReason)) error resultMetadata now found ended
    assignment.taskId
  rcases releaseGpuShare_cases _ id assignment with same | ⟨shareId, share, _, _, _, same⟩
  · rw [same]
    exact kept
  · rw [same]
    exact kept

theorem performLifecycle_task {call : LifecycleCall} {taskId : Uuid} {task : Task}
    (several : call.target = none) (found : db.tasks.get? taskId = some task)
    (ended : task.status.isTerminal = true) :
    (db.performLifecycle settings call).tasks.get? taskId = some task := by
  have reached := performLifecycle_reaches settings db call
  generalize db.performLifecycle settings call = after at reached ⊢
  induction reached with
  | refl => exact found
  | tail _ step ih =>
    rcases step with ⟨id, change, makes, assignment, _, _, rfl⟩
    cases makes with
    | ends about notCompleted => exact terminate_tasks ih ended
    | claims => cases several
    | reclaims => cases several
    | starts => cases several
    | completes => cases several
    | requests => cases several

/-- The releases that a call has added to the history. -/
structure Released (db after : Database) (released : List ShareRelease) : Prop where
  history : after.releases = db.releases ++ released
  once : (released.map (·.assignmentId)).Nodup
  ended : ∀ entry, entry ∈ released -> ∃ row,
    after.assignments.get? entry.assignmentId = some row ∧ row.status.isTerminal = true
  held : ∀ entry, entry ∈ released -> ∃ row,
    db.assignments.get? entry.assignmentId = some row ∧ row.gpuShareId = some entry.gpuShareId ∧
      (entry.holder = none ∨ entry.holder = some (strOfUuid row.taskId))
  origin : ∀ id row, after.assignments.get? id = some row -> ∃ before,
    db.assignments.get? id = some before ∧ before.taskId = row.taskId ∧
      before.gpuShareId = row.gpuShareId
  shares : ∀ shareId, after.shares.get? shareId ≠ db.shares.get? shareId ->
    ∃ entry, entry ∈ released ∧ entry.gpuShareId = shareId

theorem Released.refl (db : Database) : Released db db [] where
  history := (append_nil _).symm
  once := nodup_nil
  ended := fun _ member => absurd member not_mem_nil
  held := fun _ member => absurd member not_mem_nil
  origin := fun _ row found => ⟨row, found, rfl, rfl⟩
  shares := fun _ different => absurd rfl different

theorem ChangeEffect.origin {assignment : NodeTaskAssignment}
    (effect : ChangeEffect settings db id change after assignment)
    (isRow : db.assignments.get? id = some assignment) {other : Uuid}
    (found : after.assignments.get? other = some row) :
    ∃ before, db.assignments.get? other = some before ∧ before.taskId = row.taskId ∧
      before.gpuShareId = row.gpuShareId := by
  rw [effect.assignments] at found
  rcases eq_or_ne other id with rfl | different
  · rw [get?_set_self] at found
    cases found
    obtain ⟨task, share, _⟩ := change.apply_kept assignment
    exact ⟨assignment, isRow, task.symm, share.symm⟩
  · rw [get?_set_of_ne different] at found
    exact ⟨row, found, rfl, rfl⟩

theorem Released.step {released : List ShareRelease} (before : Released db middle released)
    (changes : Changes settings middle id change after) :
    ∃ more, Released db after (released ++ more) := by
  have stays : ∀ entry, entry ∈ released -> ∃ row,
      after.assignments.get? entry.assignmentId = some row ∧ row.status.isTerminal = true := by
    intro entry member
    rcases before.ended entry member with ⟨row, found, ended⟩
    exact ⟨row, changes.kept found ended, ended⟩
  rcases changes with ⟨assignment, isRow, guard, rfl⟩
  have effect := change.effect settings middle id guard
  have origin : ∀ other row,
      (change.write settings middle id assignment).assignments.get? other = some row ->
        ∃ old, db.assignments.get? other = some old ∧ old.taskId = row.taskId ∧
          old.gpuShareId = row.gpuShareId := by
    intro other row found
    rcases effect.origin isRow found with ⟨inner, isInner, task, share⟩
    rcases before.origin other inner isInner with ⟨old, isOld, oldTask, oldShare⟩
    exact ⟨old, isOld, oldTask.trans task, oldShare.trans share⟩
  rcases effect.shares with ⟨sameShares, sameReleases⟩ |
    ⟨ends, shareId, share, isShare, _, holder, newShares, newReleases⟩
  · refine ⟨[], ?_⟩
    rw [append_nil]
    exact ⟨sameReleases.trans before.history, before.once, stays, before.held, origin,
      fun shareId different => before.shares shareId (sameShares ▸ different)⟩
  · refine ⟨[⟨id, shareId, share.currentTaskId⟩], ?_⟩
    have fresh : id ∉ released.map (·.assignmentId) := by
      intro member
      rcases mem_map.mp member with ⟨entry, inside, rfl⟩
      rcases before.ended entry inside with ⟨row, found, ended⟩
      rw [isRow] at found
      cases found
      exact absurd (guard.live.symm.trans ended) (by decide)
    constructor
    · rw [newReleases, before.history, append_assoc]
    · rw [map_append, map_singleton, nodup_append]
      refine ⟨before.once, nodup_singleton _, ?_⟩
      rintro first old second new rfl
      rw [mem_singleton.mp new] at old
      exact fresh old
    · intro entry member
      rcases mem_append.mp member with old | new
      · exact stays entry old
      · rw [mem_singleton.mp new, effect.assignments]
        exact ⟨change.apply assignment, get?_set_self, ends⟩
    · intro entry member
      rcases mem_append.mp member with old | new
      · exact before.held entry old
      · rw [mem_singleton.mp new]
        rcases before.origin id assignment isRow with ⟨row, found, task, sameShare⟩
        exact ⟨row, found, sameShare.trans isShare, by rw [task]; exact holder⟩
    · exact origin
    · intro other different
      rcases eq_or_ne other shareId with rfl | apart
      · exact ⟨_, mem_append_right _ (mem_singleton_self _), rfl⟩
      · rw [newShares, get?_set_of_ne apart] at different
        rcases before.shares other different with ⟨entry, member, same⟩
        exact ⟨entry, mem_append_left _ member, same⟩

theorem Reaches.released (reached : Reaches settings permitted db after) :
    ∃ released, Released db after released := by
  induction reached with
  | refl => exact ⟨[], .refl db⟩
  | tail _ step ih =>
    rcases ih with ⟨released, before⟩
    rcases step with ⟨id, change, _, changes⟩
    rcases before.step changes with ⟨more, both⟩
    exact ⟨released ++ more, both⟩

/-- From any state on, over any calls: an assignment that has ended is never
written again, the calls that are about it do nothing, all other calls leave
its task as it is once that has ended, and every assignment gives back its
share at most once, from its own task or from nobody. -/
theorem first_terminal_cause_wins (settings : Settings) (db : Database)
    (calls : List LifecycleCall) :
    (∀ id row, db.assignments.get? id = some row -> row.status.isTerminal = true ->
      (runLifecycle settings db calls).assignments.get? id = some row ∧
      ∀ call, (call.target = some id -> (runLifecycle settings db calls).performLifecycle
          settings call = runLifecycle settings db calls) ∧
        (call.target = none -> ∀ task,
          (runLifecycle settings db calls).tasks.get? row.taskId = some task ->
          task.status.isTerminal = true ->
          ((runLifecycle settings db calls).performLifecycle settings call).tasks.get? row.taskId =
            some task)) ∧
    ∃ released, Released db (runLifecycle settings db calls) released := by
  have reached := @runLifecycle_reaches settings db calls
  constructor
  · intro id row found ended
    have stays := reached.kept found ended
    refine ⟨stays, fun call => ⟨fun isTarget => ?_, fun several task isTask taskEnded => ?_⟩⟩
    · exact performLifecycle_of_ended isTarget stays ended
    · exact performLifecycle_task several isTask taskEnded
  · exact reached.released

end Rooms
end ZepGpu
