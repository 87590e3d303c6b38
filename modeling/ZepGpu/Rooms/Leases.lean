import ZepGpu.Foundation.Runs
import ZepGpu.Rooms.FirstCause

namespace ZepGpu
namespace Rooms

open Foundation Database List

/-!
# Leases that have expired

A lease is checked when an assignment starts or completes, and by the sweeps.
A repeated claim does not check it.  Among runs that never repeat a claim on an
expired lease, and never check a lease on one side of its expiry and write on
the other, a lease that has expired is not renewed, and its assignment does not
complete.
-/

def LifecycleCall.Reads : LifecycleCall -> Time -> Prop
  | .markClaimed _ _ _ now, time | .markFailed _ _ _ _ now, time
  | .markCancelled _ _ _ now, time => time = now
  | .markRunning _ _ checkedAt now, time | .markCompleted _ _ _ checkedAt now, time
  | .requestCancel _ _ checkedAt now, time => time = checkedAt ∨ time = now
  | .reconcileForPeer _ _ _ now endedAt, time | .sweepAssignmentTimeouts now endedAt, time =>
    time = now ∨ ∃ id, time = endedAt id

/-- The first reading of a call is not after its later ones. -/
def LifecycleCall.Ordered : LifecycleCall -> Prop
  | .markClaimed _ _ _ _ | .markFailed _ _ _ _ _ | .markCancelled _ _ _ _ => True
  | .markRunning _ _ checkedAt now | .markCompleted _ _ _ checkedAt now
  | .requestCancel _ _ checkedAt now => checkedAt ≤ now
  | .reconcileForPeer _ _ _ now endedAt | .sweepAssignmentTimeouts now endedAt =>
    ∀ id, now ≤ endedAt id

/-- The clock that the calls read never goes back. -/
structure Clocked (calls : List LifecycleCall) : Prop where
  inside : ∀ call, call ∈ calls -> call.Ordered
  across : calls.Pairwise (fun earlier later =>
    ∀ first second, earlier.Reads first -> later.Reads second -> first ≤ second)

/-- A provider holds the assignment, and nobody has asked for its cancellation. -/
def NodeTaskAssignment.Held (assignment : NodeTaskAssignment) : Prop :=
  (assignment.status = .accepted ∨ assignment.status = .running) ∧
    assignment.cancelRequestedAt = none

/-- The calls that do not revive a lease: a provider does not claim again what
it has let expire, and no lease expires between its check and the write. -/
def Timely (db : Database) : LifecycleCall -> Prop
  | .markClaimed id peerId _ now => ∀ assignment, db.getForPeer id peerId = some assignment ->
      assignment.Held -> assignment.leaseExpired now = false
  | .markRunning id peerId checkedAt now | .markCompleted id peerId _ checkedAt now =>
    ∀ assignment, db.getForPeer id peerId = some assignment -> assignment.Held ->
      assignment.leaseExpired checkedAt = false -> assignment.leaseExpired now = false
  | _ => True

/-- An assignment whose lease ended at `expires`: it is still held, or it has
ended without being completed. -/
def Lapsed (db : Database) (id : Uuid) (expires : Time) : Prop :=
  ∃ assignment, db.assignments.get? id = some assignment ∧
    assignment.leaseExpiresAt = some expires ∧
      ((assignment.status = .accepted ∨ assignment.status = .running) ∨
        assignment.status = .failed ∨ assignment.status = .cancelled)

section Expired

variable {settings : Settings} {db start after : Database} {id other : Uuid} {change : Change}
  {call : LifecycleCall} {expires : Time}

theorem lapsed_of_ne (lapsed : Lapsed db id expires) (changes : Changes settings db other change after)
    (different : id ≠ other) : Lapsed after id expires := by
  rcases lapsed with ⟨assignment, found, lease, status⟩
  rcases changes with ⟨row, _, guard, rfl⟩
  refine ⟨assignment, ?_, lease, status⟩
  rw [(change.effect settings db other guard).assignments]
  exact (Dict.get?_set_of_ne different).trans found

theorem NodeTaskAssignment.ended_lease (assignment : NodeTaskAssignment)
    (status : NodeAssignmentStatus) (terminalReason : String) (error : Option String) (now : Time) :
    (assignment.ended status terminalReason error now).leaseExpiresAt = assignment.leaseExpiresAt := by
  cases status <;> rfl

theorem leaseExpired_of_lt {assignment : NodeTaskAssignment} {time : Time}
    (lease : assignment.leaseExpiresAt = some expires) (late : expires < time) :
    assignment.leaseExpired time = true := by
  rw [NodeTaskAssignment.leaseExpired, lease, Option.any_some]
  exact decide_eq_true late

theorem passed_of_reads {time checkedAt now : Time} (reads : time = checkedAt ∨ time = now)
    (ordered : checkedAt ≤ now) (late : expires < time) : expires < now := by
  rcases reads with rfl | rfl
  · exact lt_of_lt_of_le late ordered
  · exact late

theorem held_of_live {assignment : NodeTaskAssignment}
    (status : (assignment.status = .accepted ∨ assignment.status = .running) ∨
      assignment.status = .failed ∨ assignment.status = .cancelled)
    (live : assignment.status.isTerminal = false) :
    assignment.status = .accepted ∨ assignment.status = .running := by
  rcases status with held | failed | cancelled
  · exact held
  · rw [failed] at live
    cases live
  · rw [cancelled] at live
    cases live

theorem lapsed_of_changes (lapsed : Lapsed db id expires) (makes : Makes start call db other change)
    (changes : Changes settings db other change after) (timely : Timely start call)
    (ordered : call.Ordered) {time : Time} (reads : call.Reads time) (late : expires < time) :
    Lapsed after id expires := by
  rcases eq_or_ne id other with rfl | different
  swap
  · exact lapsed_of_ne lapsed changes different
  rcases lapsed with ⟨assignment, found, lease, status⟩
  rcases changes with ⟨row, isRow, guard, rfl⟩
  rw [found] at isRow
  cases isRow
  have effect := change.effect settings db id guard
  have written : (change.write settings db id assignment).assignments.get? id =
      some (change.apply assignment) := by
    rw [effect.assignments, Dict.get?_set_self]
  cases makes with
  | claims =>
    rw [show assignment.status = .assigned from guard] at status
    simp at status
  | reclaims own unwanted =>
    have here := (getForPeer_eq_some own).1
    rw [found] at here
    cases here
    have valid := timely assignment own ⟨guard, unwanted⟩
    rw [leaseExpired_of_lt lease (reads ▸ late)] at valid
    cases valid
  | starts own unwanted =>
    have here := (getForPeer_eq_some own).1
    rw [found] at here
    cases here
    have valid := timely assignment own ⟨held_of_live status guard.live, unwanted⟩ guard.2
    rw [leaseExpired_of_lt lease (passed_of_reads reads ordered late)] at valid
    cases valid
  | completes own unwanted unexpired =>
    have here := (getForPeer_eq_some own).1
    rw [found] at here
    cases here
    have valid := timely assignment own ⟨held_of_live status guard.live, unwanted⟩ unexpired
    rw [leaseExpired_of_lt lease (passed_of_reads reads ordered late)] at valid
    cases valid
  | requests => exact ⟨_, written, lease, status⟩
  | ends about notCompleted =>
    rename_i reached _ _ _ _ _
    refine ⟨_, written, (NodeTaskAssignment.ended_lease _ _ _ _ _).trans lease, Or.inr ?_⟩
    rw [Change.apply, NodeTaskAssignment.ended_status]
    have terminal := guard.2
    cases reached with
    | failed => exact Or.inl rfl
    | cancelled => exact Or.inr rfl
    | completed => exact absurd rfl notCompleted
    | assigned => cases terminal
    | accepted => cases terminal
    | running => cases terminal

theorem lapsed_performLifecycle (lapsed : Lapsed db id expires) (timely : Timely db call)
    (ordered : call.Ordered) {time : Time} (reads : call.Reads time) (late : expires < time) :
    Lapsed (db.performLifecycle settings call) id expires := by
  have reached := performLifecycle_reaches settings db call
  generalize db.performLifecycle settings call = after at reached ⊢
  induction reached with
  | refl => exact lapsed
  | tail _ step ih =>
    rcases step with ⟨other, change, makes, changes⟩
    exact lapsed_of_changes ih makes changes timely ordered reads late

theorem LifecycleCall.exists_reading (call : LifecycleCall) : ∃ time, call.Reads time := by
  cases call with
  | markClaimed id peerId leaseSeconds now => exact ⟨now, rfl⟩
  | markRunning id peerId checkedAt now => exact ⟨now, Or.inr rfl⟩
  | markCompleted id peerId resultMetadata checkedAt now => exact ⟨now, Or.inr rfl⟩
  | markFailed id peerId error terminalReason now => exact ⟨now, rfl⟩
  | requestCancel id reason requestedAt now => exact ⟨now, Or.inr rfl⟩
  | markCancelled id peerId reason now => exact ⟨now, rfl⟩
  | reconcileForPeer vpnNetworkId peerId localAssignmentIds now endedAt => exact ⟨now, Or.inl rfl⟩
  | sweepAssignmentTimeouts now endedAt => exact ⟨now, Or.inl rfl⟩

theorem runLifecycle_append (first second : List LifecycleCall) :
    runLifecycle settings db (first ++ second) =
      runLifecycle settings (runLifecycle settings db first) second :=
  foldl_append

/-- In the whole run, a held assignment whose lease has expired at a reading of
a call is not completed by that call or later, and keeps the lease that has
expired. -/
def LeasesStayExpired (settings : Settings) (db : Database) (calls : List LifecycleCall) : Prop :=
  ∀ front call later rest, calls = front ++ call :: (later ++ rest) ->
    ∀ id assignment, (runLifecycle settings db front).assignments.get? id = some assignment ->
      assignment.status = .accepted ∨ assignment.status = .running ->
      ∀ time, call.Reads time -> assignment.leaseExpired time = true ->
        ∃ final, (runLifecycle settings db (front ++ call :: later)).assignments.get? id =
            some final ∧
          final.status ≠ .completed ∧ final.leaseExpiresAt = assignment.leaseExpiresAt

/-- A run with a clock that does not go back and with timely calls only revives
no lease. -/
theorem expired_lease_not_revived (settings : Settings) (db : Database) (calls : List LifecycleCall)
    (clocked : Clocked calls) (timely : Meets (performLifecycle settings) Timely db calls) :
    LeasesStayExpired settings db calls := by
  intro front call later rest isRun id assignment found held time reads expired
  rw [NodeTaskAssignment.leaseExpired, Option.any_eq_true] at expired
  rcases expired with ⟨expires, lease, late⟩
  have late := of_decide_eq_true late
  have lapsed : Lapsed (runLifecycle settings db (front ++ call :: later)) id expires := by
    induction later using List.reverseRecOn generalizing rest with
    | nil =>
      have here : Timely (runLifecycle settings db front) call := (isRun ▸ timely).at
      rw [runLifecycle_append]
      apply lapsed_performLifecycle ⟨assignment, found, lease, Or.inl held⟩ here
        (clocked.inside call _) reads late
      rw [isRun]
      simp
    | append_singleton later last ih =>
      have before := ih (last :: rest) (by rw [isRun]; simp)
      have split : calls = (front ++ call :: later) ++ last :: rest := by
        rw [isRun]
        simp
      have here : Timely (runLifecycle settings db (front ++ call :: later)) last :=
        (split ▸ timely).at
      rcases last.exists_reading with ⟨next, nextReads⟩
      have ordered : time ≤ next := by
        have pairs := clocked.across
        rw [isRun, pairwise_append] at pairs
        have tail := (pairwise_cons.mp pairs.2.1).1 last (by simp)
        exact tail time next reads nextReads
      rw [← cons_append, ← append_assoc, runLifecycle_append]
      apply lapsed_performLifecycle before here (clocked.inside last _) nextReads
        (lt_of_lt_of_le late ordered)
      rw [split]
      simp
  rcases lapsed with ⟨final, isFinal, finalLease, status⟩
  refine ⟨final, isFinal, ?_, finalLease.trans lease.symm⟩
  rintro completed
  rw [completed] at status
  simp at status

end Expired

/-! ## A claim repeated after the expiry -/

open Sample

/-- The provider claims, and claims again a second after its lease has ended. -/
def lateReclaim : List LifecycleCall :=
  [.markClaimed assignmentId peerId none 0, .markClaimed assignmentId peerId none (seconds 301)]

/-- The provider claims, and a sweep comes a second after its lease has ended. -/
def lateSweep : List LifecycleCall :=
  [.markClaimed assignmentId peerId none 0,
    .sweepAssignmentTimeouts (seconds 301) (fun _ => seconds 301)]

theorem lateReclaim_clocked : Clocked lateReclaim where
  inside := by
    intro call member
    simp only [lateReclaim, mem_cons, not_mem_nil, or_false] at member
    rcases member with rfl | rfl
    · trivial
    · trivial
  across := by
    apply pairwise_pair.mpr
    rintro first second rfl rfl
    decide

theorem lateSweep_clocked : Clocked lateSweep where
  inside := by
    intro call member
    simp only [lateSweep, mem_cons, not_mem_nil, or_false] at member
    rcases member with rfl | rfl
    · trivial
    · exact fun _ => le_rfl
  across := by
    apply pairwise_pair.mpr
    rintro first second rfl later
    rcases later with rfl | ⟨_, rfl⟩
    · decide
    · exact (by decide : (0 : Time) ≤ seconds 301)

/-- The second claim gives a new lease to an assignment whose lease has ended. -/
theorem expired_lease_revived :
    Clocked lateReclaim ∧ ¬ LeasesStayExpired settings assignedRoom lateReclaim := by
  refine ⟨lateReclaim_clocked, fun stays => ?_⟩
  have facts : ((runLifecycle settings assignedRoom [.markClaimed assignmentId peerId none 0]
        ).assignments.get? assignmentId).any (fun row =>
          row.status = .accepted ∧ row.leaseExpiresAt = some (seconds 300)) = true ∧
      ((runLifecycle settings assignedRoom lateReclaim).assignments.get? assignmentId).any (fun row =>
        row.leaseExpiresAt = some (seconds 601)) = true := by
    decide
  rcases Option.any_eq_true _ _ |>.mp facts.1 with ⟨claimed, isClaimed, held⟩
  rcases Option.any_eq_true _ _ |>.mp facts.2 with ⟨last, isLast, renewed⟩
  have held := of_decide_eq_true held
  have renewed := of_decide_eq_true renewed
  rcases stays [.markClaimed assignmentId peerId none 0] _ [] [] rfl assignmentId claimed isClaimed
    (Or.inl held.1) (seconds 301) rfl (leaseExpired_of_lt held.2 (by decide)) with
    ⟨final, isFinal, _, kept⟩
  cases isLast.symm.trans isFinal
  rw [renewed, held.2] at kept
  exact absurd kept (by decide)

/-- The sweep ends the assignment whose lease has run out. -/
theorem lateSweep_not_revived :
    ((runLifecycle settings assignedRoom lateSweep).assignments.get? assignmentId).map (·.status) =
      some .failed ∧ LeasesStayExpired settings assignedRoom lateSweep := by
  refine ⟨by decide, ?_⟩
  have waiting : (assignedRoom.getForPeer assignmentId peerId).all (fun row =>
      row.status = .assigned) = true := by
    decide
  apply expired_lease_not_revived settings assignedRoom lateSweep lateSweep_clocked
  refine ⟨?_, trivial, trivial⟩
  intro assignment own held
  rw [own, Option.all_some, decide_eq_true_eq] at waiting
  rw [NodeTaskAssignment.Held, waiting] at held
  exact absurd held.1 (by decide)

end Rooms
end ZepGpu
