import Mathlib.Logic.Relation
import ZepGpu.Rooms.Heartbeats

namespace ZepGpu
namespace Rooms

open Foundation

/-!
# The lifecycle of an assignment

A change is what can happen to one assignment at once: it is claimed, claimed
again, started, marked for cancellation, or it ends.  Every call of the
repository and every sweep is a sequence of such changes, each of which finds
an assignment that has not ended.  The end of an assignment is the only change
that gives a share back.
-/

/-- A change of the status of one assignment. -/
inductive Change where
  | claimed (now lease : Time)
  | reclaimed (now lease : Time)
  | started (checkedAt now lease : Time)
  | cancelRequested (now : Time)
  | ended (status : NodeAssignmentStatus) (terminalReason : String) (error : Option String)
      (resultMetadata : Option (Dict String Json)) (taskStatus : Option TaskStatus) (now : Time)

def Change.apply (assignment : NodeTaskAssignment) : Change -> NodeTaskAssignment
  | .claimed now lease => assignment.claimed now lease
  | .reclaimed now lease => assignment.reclaimed now lease
  | .started _ now lease => assignment.started now lease
  | .cancelRequested now => assignment.cancelRequested now
  | .ended status terminalReason error _ _ now => assignment.ended status terminalReason error now

/-- The statuses that a change starts from. -/
def Change.Guard (assignment : NodeTaskAssignment) : Change -> Prop
  | .claimed _ _ => assignment.status = .assigned
  | .reclaimed _ _ => assignment.status = .accepted ∨ assignment.status = .running
  | .started checkedAt _ _ =>
    (assignment.status = .assigned ∨ assignment.status = .accepted) ∧
      assignment.leaseExpired checkedAt = false
  | .cancelRequested _ => assignment.status.isTerminal = false
  | .ended status _ _ _ _ _ => assignment.status.isTerminal = false ∧ status.isTerminal = true

def Change.write (settings : Settings) (db : Database) (id : Uuid) (assignment : NodeTaskAssignment) :
    Change -> Database
  | .started checkedAt now lease =>
    (db.setAssignment id (Change.apply assignment (.started checkedAt now lease))).startTask
      assignment.taskId now
  | .ended status terminalReason error resultMetadata taskStatus now =>
    db.terminate settings id assignment status terminalReason error resultMetadata taskStatus now
  | change => db.setAssignment id (change.apply assignment)

/-- A change of one assignment, written with its task and its share. -/
def Changes (settings : Settings) (db : Database) (id : Uuid) (change : Change) (after : Database) :
    Prop :=
  ∃ assignment, db.assignments.get? id = some assignment ∧ change.Guard assignment ∧
    after = change.write settings db id assignment

/-! ## What a change leaves alone -/

theorem NodeTaskAssignment.ended_status (assignment : NodeTaskAssignment)
    (status : NodeAssignmentStatus) (terminalReason : String) (error : Option String) (now : Time) :
    (assignment.ended status terminalReason error now).status = status := by
  cases status <;> rfl

theorem Change.apply_kept (change : Change) (assignment : NodeTaskAssignment) :
    (change.apply assignment).taskId = assignment.taskId ∧
      (change.apply assignment).gpuShareId = assignment.gpuShareId ∧
      (change.apply assignment).peerId = assignment.peerId := by
  cases change with
  | ended status terminalReason error resultMetadata taskStatus now =>
    cases status <;> exact ⟨rfl, rfl, rfl⟩
  | claimed now lease => exact ⟨rfl, rfl, rfl⟩
  | reclaimed now lease => exact ⟨rfl, rfl, rfl⟩
  | started checkedAt now lease => exact ⟨rfl, rfl, rfl⟩
  | cancelRequested now => exact ⟨rfl, rfl, rfl⟩

theorem Change.Guard.live {change : Change} {assignment : NodeTaskAssignment}
    (guard : change.Guard assignment) : assignment.status.isTerminal = false := by
  cases change with
  | claimed now lease => rw [show assignment.status = .assigned from guard]; rfl
  | reclaimed now lease =>
    rcases guard with accepted | running
    · rw [accepted]; rfl
    · rw [running]; rfl
  | started checkedAt now lease =>
    rcases guard.1 with assigned | accepted
    · rw [assigned]; rfl
    · rw [accepted]; rfl
  | cancelRequested now => exact guard
  | ended status terminalReason error resultMetadata taskStatus now => exact guard.1

namespace Database

variable {settings : Settings} {db : Database} {id taskId : Uuid} {assignment : NodeTaskAssignment}

/-- A call leaves the tables of rooms, peers and runs alone. -/
structure SameRest (db after : Database) : Prop where
  networks : after.networks = db.networks
  peers : after.peers = db.peers
  runs : after.runs = db.runs
  workers : after.workers = db.workers
  islands : after.islands = db.islands
  reservations : after.reservations = db.reservations

theorem releaseGpuShare_cases (db : Database) (id : Uuid) (assignment : NodeTaskAssignment) :
    db.releaseGpuShare id assignment = db ∨
      ∃ shareId share, assignment.gpuShareId = some shareId ∧
        db.shares.get? shareId = some share ∧
        (share.currentTaskId = none ∨ share.currentTaskId = some (strOfUuid assignment.taskId)) ∧
        db.releaseGpuShare id assignment =
          { db.setShare shareId share.freed with
            releases := db.releases ++ [⟨id, shareId, share.currentTaskId⟩] } := by
  unfold releaseGpuShare
  cases isShare : assignment.gpuShareId with
  | none => exact Or.inl rfl
  | some shareId =>
    dsimp only
    cases found : db.shares.get? shareId with
    | none => exact Or.inl rfl
    | some share =>
      dsimp only
      split_ifs with taken
      · exact Or.inl rfl
      · apply Or.inr
        refine ⟨shareId, share, rfl, found, ?_, rfl⟩
        cases holder : share.currentTaskId with
        | none => exact Or.inl rfl
        | some text =>
          rw [holder, Option.any_some, decide_eq_true_eq, not_not] at taken
          exact Or.inr (congrArg some taken)

theorem startTask_eq (db : Database) (taskId : Uuid) (now : Time) :
    db.startTask taskId now = { db with tasks := (db.startTask taskId now).tasks } := by
  unfold startTask
  cases db.tasks.get? taskId with
  | none => rfl
  | some task => rfl

theorem endTask_eq (db : Database) (taskId : Uuid) (status : TaskStatus) (error : Option String)
    (resultMetadata : Option (Dict String Json)) (now : Time) :
    db.endTask settings taskId status error resultMetadata now =
      { db with tasks := (db.endTask settings taskId status error resultMetadata now).tasks } := by
  unfold endTask
  cases db.tasks.get? taskId with
  | none => rfl
  | some task =>
    dsimp only
    split_ifs
    · rfl
    · rfl

theorem endTask_of_terminal {task : Task} {status : TaskStatus} {error : Option String}
    {resultMetadata : Option (Dict String Json)} {now : Time}
    (found : db.tasks.get? taskId = some task) (terminal : task.status.isTerminal = true) (other : Uuid) :
    (db.endTask settings other status error resultMetadata now).tasks.get? taskId = some task := by
  unfold endTask
  cases isTask : db.tasks.get? other with
  | none => exact found
  | some otherTask =>
    dsimp only
    split_ifs with already
    · exact found
    · have different : taskId ≠ other := by
        rintro rfl
        rw [found] at isTask
        cases isTask
        exact already terminal
      exact (Dict.get?_set_of_ne different).trans found

end Database

open Database

section Effects

variable {settings : Settings} {db after : Database} {id : Uuid} {change : Change}

/-- What a change writes: the assignment, its task and its share. -/
structure ChangeEffect (settings : Settings) (db : Database) (id : Uuid) (change : Change)
    (after : Database) (assignment : NodeTaskAssignment) : Prop where
  rest : SameRest db after
  assignments : after.assignments = db.assignments.set id (change.apply assignment)
  /-- The shares and the history are untouched, or a share is given back. -/
  shares : (after.shares = db.shares ∧ after.releases = db.releases) ∨
    ((change.apply assignment).status.isTerminal = true ∧
      ∃ shareId share, assignment.gpuShareId = some shareId ∧
        db.shares.get? shareId = some share ∧
        (share.currentTaskId = none ∨ share.currentTaskId = some (strOfUuid assignment.taskId)) ∧
        after.shares = db.shares.set shareId share.freed ∧
        after.releases = db.releases ++ [⟨id, shareId, share.currentTaskId⟩])

theorem Change.effect (settings : Settings) (db : Database) (id : Uuid) (change : Change)
    {assignment : NodeTaskAssignment} (guard : change.Guard assignment) :
    ChangeEffect settings db id change (change.write settings db id assignment) assignment := by
  cases change with
  | claimed now lease => exact ⟨⟨rfl, rfl, rfl, rfl, rfl, rfl⟩, rfl, Or.inl ⟨rfl, rfl⟩⟩
  | reclaimed now lease => exact ⟨⟨rfl, rfl, rfl, rfl, rfl, rfl⟩, rfl, Or.inl ⟨rfl, rfl⟩⟩
  | cancelRequested now => exact ⟨⟨rfl, rfl, rfl, rfl, rfl, rfl⟩, rfl, Or.inl ⟨rfl, rfl⟩⟩
  | started checkedAt now lease =>
    simp only [Change.write]
    rw [startTask_eq]
    exact ⟨⟨rfl, rfl, rfl, rfl, rfl, rfl⟩, rfl, Or.inl ⟨rfl, rfl⟩⟩
  | ended status terminalReason error resultMetadata taskStatus now =>
    simp only [Change.write]
    unfold terminate
    rw [endTask_eq]
    rcases releaseGpuShare_cases { db.setAssignment id _ with tasks := _ } id assignment with
      same | ⟨shareId, share, isShare, found, holder, same⟩
    · rw [same]
      exact ⟨⟨rfl, rfl, rfl, rfl, rfl, rfl⟩, rfl, Or.inl ⟨rfl, rfl⟩⟩
    · rw [same]
      have ends : (Change.apply assignment (.ended status terminalReason error resultMetadata
          taskStatus now)).status.isTerminal = true := by
        rw [Change.apply, NodeTaskAssignment.ended_status]
        exact guard.2
      exact ⟨⟨rfl, rfl, rfl, rfl, rfl, rfl⟩, rfl,
        Or.inr ⟨ends, shareId, share, isShare, found, holder, rfl, rfl⟩⟩

end Effects

/-! ## Calls -/

/-- A call about assignments, with the times that it reads. -/
inductive LifecycleCall where
  | markClaimed (assignmentId peerId : Uuid) (leaseSeconds : Option Int) (now : Time)
  | markRunning (assignmentId peerId : Uuid) (checkedAt now : Time)
  | markCompleted (assignmentId peerId : Uuid) (resultMetadata : Option (Dict String Json))
      (checkedAt now : Time)
  | markFailed (assignmentId peerId : Uuid) (error terminalReason : String) (now : Time)
  | requestCancel (assignmentId : Uuid) (reason : String) (requestedAt now : Time)
  | markCancelled (assignmentId : Uuid) (peerId : Option Uuid) (reason : String) (now : Time)
  | reconcileForPeer (vpnNetworkId peerId : Uuid) (localAssignmentIds : List String) (now : Time)
      (endedAt : Uuid -> Time)
  | sweepAssignmentTimeouts (now : Time) (endedAt : Uuid -> Time)

def LifecycleCall.target : LifecycleCall -> Option Uuid
  | .markClaimed assignmentId _ _ _ | .markRunning assignmentId _ _ _
  | .markCompleted assignmentId _ _ _ _ | .markFailed assignmentId _ _ _ _
  | .requestCancel assignmentId _ _ _ | .markCancelled assignmentId _ _ _ => some assignmentId
  | .reconcileForPeer _ _ _ _ _ | .sweepAssignmentTimeouts _ _ => none

namespace Database

def performLifecycle (settings : Settings) (db : Database) : LifecycleCall -> Database
  | .markClaimed assignmentId peerId leaseSeconds now =>
    (db.markClaimed settings assignmentId peerId leaseSeconds now).2
  | .markRunning assignmentId peerId checkedAt now =>
    (db.markRunning settings assignmentId peerId checkedAt now).2
  | .markCompleted assignmentId peerId resultMetadata checkedAt now =>
    (db.markCompleted settings assignmentId peerId resultMetadata checkedAt now).2
  | .markFailed assignmentId peerId error terminalReason now =>
    (db.markFailed settings assignmentId peerId error terminalReason now).2
  | .requestCancel assignmentId reason requestedAt now =>
    (db.requestCancel settings assignmentId reason requestedAt now).2
  | .markCancelled assignmentId peerId reason now =>
    (db.markCancelled settings assignmentId peerId reason now).2
  | .reconcileForPeer vpnNetworkId peerId localAssignmentIds now endedAt =>
    (db.reconcileForPeer settings vpnNetworkId peerId localAssignmentIds now endedAt).state
  | .sweepAssignmentTimeouts now endedAt => (db.sweepAssignmentTimeouts settings now endedAt).2

end Database

/-- Which changes a call makes, and in which state.  A lease is renewed and an
assignment completed only by the first change of a call of its provider. -/
inductive Makes (start : Database) : LifecycleCall -> Database -> Uuid -> Change -> Prop
  | claims {id peerId : Uuid} {leaseSeconds : Option Int} {now lease : Time} :
      Makes start (.markClaimed id peerId leaseSeconds now) start id (.claimed now lease)
  | reclaims {id peerId : Uuid} {leaseSeconds : Option Int} {now lease : Time}
      {assignment : NodeTaskAssignment} (own : start.getForPeer id peerId = some assignment)
      (wanted : assignment.cancelRequestedAt = none) :
      Makes start (.markClaimed id peerId leaseSeconds now) start id (.reclaimed now lease)
  | starts {id peerId : Uuid} {checkedAt now lease : Time} {assignment : NodeTaskAssignment}
      (own : start.getForPeer id peerId = some assignment)
      (unwanted : assignment.cancelRequestedAt = none) :
      Makes start (.markRunning id peerId checkedAt now) start id (.started checkedAt now lease)
  | completes {id peerId : Uuid} {given resultMetadata : Option (Dict String Json)}
      {checkedAt now : Time} {terminalReason : String} {error : Option String}
      {taskStatus : Option TaskStatus} {assignment : NodeTaskAssignment}
      (own : start.getForPeer id peerId = some assignment)
      (unwanted : assignment.cancelRequestedAt = none)
      (unexpired : assignment.leaseExpired checkedAt = false) :
      Makes start (.markCompleted id peerId given checkedAt now) start id
        (.ended .completed terminalReason error resultMetadata taskStatus now)
  | requests {id : Uuid} {reason : String} {requestedAt now : Time} :
      Makes start (.requestCancel id reason requestedAt now) start id (.cancelRequested requestedAt)
  | ends {call : LifecycleCall} {db : Database} {id : Uuid} {status : NodeAssignmentStatus}
      {terminalReason : String} {error : Option String}
      {resultMetadata : Option (Dict String Json)} {taskStatus : Option TaskStatus} {now : Time}
      (about : ∀ target, call.target = some target -> id = target)
      (notCompleted : status ≠ .completed) :
      Makes start call db id (.ended status terminalReason error resultMetadata taskStatus now)

/-- The end of an assignment ends its task too, which is completed only by an
assignment that is. -/
def Change.Settles : Change -> Prop
  | .ended status terminalReason _ _ taskStatus _ =>
    let given := taskStatus.getD (.ofAssignment status terminalReason)
    given.isTerminal = true ∧ (given = .completed -> status = .completed)
  | _ => True

theorem settles_failed (terminalReason : String) (error : Option String)
    (resultMetadata : Option (Dict String Json)) (now : Time) :
    Change.Settles (.ended .failed terminalReason error resultMetadata none now) := by
  simp only [Change.Settles, Option.getD_none, TaskStatus.ofAssignment]
  split_ifs
  · exact ⟨rfl, nofun⟩
  · exact ⟨rfl, nofun⟩

theorem settles_cancelled (terminalReason : String) (error : Option String)
    (resultMetadata : Option (Dict String Json)) (now : Time) :
    Change.Settles (.ended .cancelled terminalReason error resultMetadata (some .cancelled) now) :=
  ⟨rfl, nofun⟩

/-- A change that a call makes, and that settles the task when it ends an
assignment. -/
def MakesSettled (start : Database) (call : LifecycleCall) (db : Database) (id : Uuid)
    (change : Change) : Prop :=
  Makes start call db id change ∧ change.Settles

def Reaches (settings : Settings) (permitted : Database -> Uuid -> Change -> Prop) :
    Database -> Database -> Prop :=
  Relation.ReflTransGen (fun db after =>
    ∃ id change, permitted db id change ∧ Changes settings db id change after)

section Calls

variable {settings : Settings} {db : Database} {id : Uuid} {assignment : NodeTaskAssignment}
  {permitted stronger : Database -> Uuid -> Change -> Prop}

theorem Reaches.imp (weaken : ∀ db id change, stronger db id change -> permitted db id change)
    {after : Database} (reached : Reaches settings stronger db after) :
    Reaches settings permitted db after := by
  induction reached with
  | refl => exact .refl
  | tail _ step ih =>
    rcases step with ⟨id, change, permits, changes⟩
    exact ih.tail ⟨id, change, weaken _ id change permits, changes⟩

theorem Reaches.one {after : Database} {change : Change} (permits : permitted db id change)
    (changes : Changes settings db id change after) : Reaches settings permitted db after :=
  Relation.ReflTransGen.single ⟨id, change, permits, changes⟩

theorem getForPeer_eq_some {peerId : Uuid} (own : db.getForPeer id peerId = some assignment) :
    db.assignments.get? id = some assignment ∧ assignment.peerId = some peerId := by
  unfold getForPeer at own
  rw [Option.filter_eq_some_iff] at own
  exact ⟨own.1, of_decide_eq_true own.2⟩

theorem markTerminal_reaches {status : NodeAssignmentStatus} {terminalReason : String}
    {error : Option String} {resultMetadata : Option (Dict String Json)}
    {taskStatus : Option TaskStatus} {now : Time} (found : db.assignments.get? id = some assignment)
    (terminal : status.isTerminal = true)
    (permits : permitted db id (.ended status terminalReason error resultMetadata taskStatus now)) :
    Reaches settings permitted db (db.markTerminal settings id assignment status terminalReason
      error resultMetadata taskStatus now).2 := by
  unfold markTerminal
  split_ifs with already
  · exact .refl
  · exact .one permits ⟨assignment, found, ⟨Bool.eq_false_of_not_eq_true already, terminal⟩, rfl⟩

theorem markCancelled_reaches (peerId : Option Uuid) (reason : String) (now : Time)
    (permits : permitted db id (.ended .cancelled NodeTerminalReason.cancelled (some reason) none
      (some .cancelled) now)) :
    Reaches settings permitted db (db.markCancelled settings id peerId reason now).2 := by
  unfold markCancelled
  cases found : db.assignments.get? id with
  | none => exact .refl
  | some assignment =>
    dsimp only
    split_ifs
    · exact .refl
    · exact .refl
    · exact .refl
    · exact markTerminal_reaches found rfl permits

theorem markClaimed_reaches (id peerId : Uuid) (leaseSeconds : Option Int) (now : Time) :
    Reaches settings (MakesSettled db (.markClaimed id peerId leaseSeconds now)) db
      (db.markClaimed settings id peerId leaseSeconds now).2 := by
  unfold markClaimed
  cases own : db.getForPeer id peerId with
  | none => exact .refl
  | some assignment =>
    obtain ⟨found, _⟩ := getForPeer_eq_some own
    dsimp only
    split_ifs with ended wanted held
    · exact .refl
    · exact markCancelled_reaches _ _ _
        ⟨.ends (fun target same => Option.some.inj same) (by decide), settles_cancelled ..⟩
    · have unwanted := Option.not_isSome_iff_eq_none.mp wanted
      exact .one ⟨.reclaims own unwanted, trivial⟩ ⟨assignment, found, held, rfl⟩
    · have waiting : assignment.status = .assigned := by
        cases status : assignment.status with
        | assigned => rfl
        | accepted => exact absurd (Or.inl status) held
        | running => exact absurd (Or.inr status) held
        | completed => rw [status] at ended; exact absurd rfl ended
        | failed => rw [status] at ended; exact absurd rfl ended
        | cancelled => rw [status] at ended; exact absurd rfl ended
      exact .one ⟨.claims, trivial⟩ ⟨assignment, found, waiting, rfl⟩

theorem markRunning_reaches (id peerId : Uuid) (checkedAt now : Time) :
    Reaches settings (MakesSettled db (.markRunning id peerId checkedAt now)) db
      (db.markRunning settings id peerId checkedAt now).2 := by
  unfold markRunning
  cases own : db.getForPeer id peerId with
  | none => exact .refl
  | some assignment =>
    obtain ⟨found, _⟩ := getForPeer_eq_some own
    have about : ∀ target, some id = some target -> id = target :=
      fun target same => Option.some.inj same
    dsimp only
    split_ifs with already wanted expired
    · exact .refl
    · exact markCancelled_reaches _ _ _ ⟨.ends about (by decide), settles_cancelled ..⟩
    · exact markTerminal_reaches found rfl ⟨.ends about (by decide), settles_failed ..⟩
    · have waiting : assignment.status = .assigned ∨ assignment.status = .accepted := by
        rw [not_or] at already
        cases status : assignment.status with
        | assigned => exact Or.inl rfl
        | accepted => exact Or.inr rfl
        | running => exact absurd status already.2
        | completed => rw [status] at already; exact absurd rfl already.1
        | failed => rw [status] at already; exact absurd rfl already.1
        | cancelled => rw [status] at already; exact absurd rfl already.1
      exact .one ⟨.starts own (Option.not_isSome_iff_eq_none.mp wanted), trivial⟩
        ⟨assignment, found, ⟨waiting, Bool.eq_false_of_not_eq_true expired⟩, rfl⟩

theorem markCompleted_reaches (id peerId : Uuid) (resultMetadata : Option (Dict String Json))
    (checkedAt now : Time) :
    Reaches settings (MakesSettled db (.markCompleted id peerId resultMetadata checkedAt now)) db
      (db.markCompleted settings id peerId resultMetadata checkedAt now).2 := by
  unfold markCompleted
  cases own : db.getForPeer id peerId with
  | none => exact .refl
  | some assignment =>
    obtain ⟨found, _⟩ := getForPeer_eq_some own
    have about : ∀ target, some id = some target -> id = target :=
      fun target same => Option.some.inj same
    dsimp only
    split_ifs with already wanted expired
    · exact .refl
    · exact markCancelled_reaches _ _ _ ⟨.ends about (by decide), settles_cancelled ..⟩
    · exact markTerminal_reaches found rfl ⟨.ends about (by decide), settles_failed ..⟩
    · exact markTerminal_reaches found rfl
        ⟨.completes own (Option.not_isSome_iff_eq_none.mp wanted)
          (Bool.eq_false_of_not_eq_true expired), rfl, fun _ => rfl⟩

theorem markFailed_reaches (id peerId : Uuid) (error terminalReason : String) (now : Time) :
    Reaches settings (MakesSettled db (.markFailed id peerId error terminalReason now)) db
      (db.markFailed settings id peerId error terminalReason now).2 := by
  unfold markFailed
  cases own : db.getForPeer id peerId with
  | none => exact .refl
  | some assignment =>
    dsimp only
    split_ifs
    · exact .refl
    · exact markTerminal_reaches (getForPeer_eq_some own).1 rfl
        ⟨.ends (fun target same => Option.some.inj same) (by decide), settles_failed ..⟩

theorem requestCancel_reaches (id : Uuid) (reason : String) (requestedAt now : Time) :
    Reaches settings (MakesSettled db (.requestCancel id reason requestedAt now)) db
      (db.requestCancel settings id reason requestedAt now).2 := by
  unfold requestCancel
  cases found : db.assignments.get? id with
  | none => exact .refl
  | some assignment =>
    dsimp only
    split_ifs with ended waiting
    · exact .refl
    · have flagged : Reaches settings (MakesSettled db (.requestCancel id reason requestedAt now)) db
          (db.setAssignment id (assignment.cancelRequested requestedAt)) :=
        .one ⟨.requests, trivial⟩ ⟨assignment, found, Bool.eq_false_of_not_eq_true ended, rfl⟩
      apply Relation.ReflTransGen.trans flagged
      exact markCancelled_reaches _ _ _
        ⟨.ends (fun target same => Option.some.inj same) (by decide), settles_cancelled ..⟩
    · exact .one ⟨.requests, trivial⟩ ⟨assignment, found, Bool.eq_false_of_not_eq_true ended, rfl⟩

/-! ## Sweeps and reconciliation -/

theorem sweepLoop_reaches (skipTerminal : Bool) (terminalReason error : String)
    (endedAt : Uuid -> Time) (ids : List Uuid) (count : Nat) (db : Database)
    (permits : ∀ db id error now,
      permitted db id (.ended .failed terminalReason error none none now)) :
    Reaches settings permitted db
      (sweepLoop settings skipTerminal terminalReason error endedAt ids (count, db)).2 := by
  induction ids generalizing count db with
  | nil => exact .refl
  | cons id rest ih =>
    unfold sweepLoop
    cases found : db.assignments.get? id with
    | none => exact ih count db
    | some assignment =>
      dsimp only
      split_ifs
      · exact ih count db
      · exact (markTerminal_reaches found rfl (permits _ _ _ _)).trans (ih _ _)

theorem sweepAssignmentTimeouts_reaches (now : Time) (endedAt : Uuid -> Time) :
    Reaches settings (MakesSettled db (.sweepAssignmentTimeouts now endedAt)) db
      (db.sweepAssignmentTimeouts settings now endedAt).2 := by
  have permits : ∀ (terminalReason : String) db' id error now',
      MakesSettled db (.sweepAssignmentTimeouts now endedAt) db' id
        (.ended .failed terminalReason error none none now') :=
    fun _ _ _ _ _ => ⟨.ends (fun _ same => nomatch same) (by decide), settles_failed ..⟩
  unfold sweepAssignmentTimeouts
  exact ((sweepLoop_reaches _ _ _ _ _ _ _ (permits _)).trans
    (sweepLoop_reaches _ _ _ _ _ _ _ (permits _))).trans
      (sweepLoop_reaches _ _ _ _ _ _ _ (permits _))

theorem reconcileOne_reaches (vpnNetworkId peerId : Uuid) (now endedAt : Time) (id : Uuid)
    (cancels : ∀ db id error now, permitted db id
      (.ended .cancelled NodeTerminalReason.cancelled error none (some .cancelled) now))
    (fails : ∀ db id error now, permitted db id
      (.ended .failed NodeTerminalReason.leaseExpired error none none now)) :
    Reaches settings permitted db
      (db.reconcileOne settings vpnNetworkId peerId now endedAt id).2 := by
  unfold reconcileOne
  cases own : db.getForPeer id peerId with
  | none => exact .refl
  | some assignment =>
    dsimp only
    split_ifs
    · exact .refl
    · exact .refl
    · have cancelled : Reaches settings permitted db (db.markCancelled settings id (some peerId)
          "Reconcile: cancel requested" endedAt).2 :=
        markCancelled_reaches _ _ _ (cancels _ _ _ _)
      cases answer : db.markCancelled settings id (some peerId) "Reconcile: cancel requested"
          endedAt with
      | mk marked after =>
        rw [answer] at cancelled
        cases marked with
        | none => exact cancelled
        | some marked => exact cancelled
    · exact markTerminal_reaches (getForPeer_eq_some own).1 rfl
        (fails _ _ _ _)
    · exact .refl

theorem reconcileLoop_reaches (vpnNetworkId peerId : Uuid) (now : Time) (endedAt : Uuid -> Time)
    (texts : List String) {seen finalSeen : List String}
    {outcomes finalOutcomes : List (String × ReconcileAction)} {db after : Database}
    (cancels : ∀ db id error now, permitted db id
      (.ended .cancelled NodeTerminalReason.cancelled error none (some .cancelled) now))
    (fails : ∀ db id error now, permitted db id
      (.ended .failed NodeTerminalReason.leaseExpired error none none now))
    (run : reconcileLoop settings vpnNetworkId peerId now endedAt texts seen outcomes db =
      .ok (finalSeen, finalOutcomes, after)) :
    Reaches settings permitted db after := by
  induction texts generalizing seen outcomes db with
  | nil =>
    cases run
    exact .refl
  | cons text rest ih =>
    unfold reconcileLoop at run
    split_ifs at run
    · exact ih run
    · cases parsed : uuidOfString text with
      | none =>
        rw [parsed] at run
        cases run
      | some id =>
        rw [parsed] at run
        exact (reconcileOne_reaches _ _ _ _ id cancels fails).trans (ih run)

theorem reconcileForPeer_reaches (vpnNetworkId peerId : Uuid) (localAssignmentIds : List String)
    (now : Time) (endedAt : Uuid -> Time) :
    Reaches settings
      (MakesSettled db (.reconcileForPeer vpnNetworkId peerId localAssignmentIds now endedAt)) db
      (db.reconcileForPeer settings vpnNetworkId peerId localAssignmentIds now endedAt).state := by
  unfold reconcileForPeer
  apply @transaction_preserves Database RoomError _ (Reaches settings _ db) _ _ .refl
  intro value written run
  obtain ⟨⟨seen, outcomes, after⟩, looped, rest⟩ := bind_eq_ok.mp run
  cases rest
  exact reconcileLoop_reaches _ _ _ _ _
    (fun _ _ _ _ => ⟨.ends (fun _ same => nomatch same) (by decide), settles_cancelled ..⟩)
    (fun _ _ _ _ => ⟨.ends (fun _ same => nomatch same) (by decide), settles_failed ..⟩) looped

theorem performLifecycle_settles (settings : Settings) (db : Database) (call : LifecycleCall) :
    Reaches settings (MakesSettled db call) db (db.performLifecycle settings call) := by
  cases call with
  | markClaimed id peerId leaseSeconds now => exact markClaimed_reaches id peerId leaseSeconds now
  | markRunning id peerId checkedAt now => exact markRunning_reaches id peerId checkedAt now
  | markCompleted id peerId resultMetadata checkedAt now =>
    exact markCompleted_reaches id peerId resultMetadata checkedAt now
  | markFailed id peerId error terminalReason now =>
    exact markFailed_reaches id peerId error terminalReason now
  | requestCancel id reason requestedAt now => exact requestCancel_reaches id reason requestedAt now
  | markCancelled id peerId reason now =>
    exact markCancelled_reaches _ _ _
      ⟨.ends (fun target same => Option.some.inj same) (by decide), settles_cancelled ..⟩
  | reconcileForPeer vpnNetworkId peerId localAssignmentIds now endedAt =>
    exact reconcileForPeer_reaches _ _ _ _ _
  | sweepAssignmentTimeouts now endedAt => exact sweepAssignmentTimeouts_reaches now endedAt

theorem performLifecycle_reaches (settings : Settings) (db : Database) (call : LifecycleCall) :
    Reaches settings (Makes db call) db (db.performLifecycle settings call) :=
  (performLifecycle_settles settings db call).imp fun _ _ _ makes => makes.1

end Calls

/-!
## A room with one share

One provider with one idle share, a run with one worker, and the first task
dispatched to the share.  Concrete runs start from here.
-/

namespace Sample

def settings : Settings where
  strOfJson := Ledger.Reference.strOfJson

def roomId : Uuid := 1
def userId : Uuid := 2
def peerId : Uuid := 3
def shareId : Uuid := 4
def taskId : Uuid := 5
def assignmentId : Uuid := 6
def nextTaskId : Uuid := 7
def nextAssignmentId : Uuid := 8
def runId : Uuid := 9
def workerId : Uuid := 10
def reservationId : Uuid := 11

def share : GpuShare where
  peerId := peerId
  vpnNetworkId := roomId
  deviceIndex := 0
  totalMemoryMb := 24000
  availableMemoryMb := 24000

def idleRoom : Database where
  networks := [roomId]
  peers := Dict.empty.set peerId {
    userId := userId
    vpnNetworkId := roomId
    onlineStatus := .online
    isGpuHost := true }
  shares := Dict.empty.set shareId share
  tasks := Dict.empty
  assignments := Dict.empty
  runs := Dict.empty.set runId { vpnNetworkId := roomId, state := .running }
  workers := Dict.empty.set workerId { runId := runId, state := .running }
  islands := Dict.empty
  reservations := Dict.empty

def request : TaskCreateRequest where
  dispatchMode := "room_auto"
  roomId := some roomId
  requirements := { requiredMemoryMb := 1024 }

def assignedRoom : Database :=
  (idleRoom.createTask userId taskId assignmentId request (fun _ => true) 0).state

end Sample

end Rooms
end ZepGpu
