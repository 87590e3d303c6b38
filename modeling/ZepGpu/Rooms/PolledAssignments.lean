import ZepGpu.Rooms.Reconcile
import ZepGpu.Rooms.TaskWorker

namespace ZepGpu
namespace Rooms

open Foundation Dict List

/-!
# What polls work on

A poll hands out what nobody has claimed, and the worker executes and completes it.
Enough polls work off all that waits for the provider, and no poll touches anything
else: what was claimed or started stays as it is.
-/

/-- An assignment that a node is offered when it polls. -/
structure NodeTaskAssignment.Pending (vpnNetworkId peerId : Uuid) (assignment : NodeTaskAssignment) :
    Prop where
  room : assignment.vpnNetworkId = vpnNetworkId
  peer : assignment.peerId = some peerId
  waits : assignment.status = .assigned
  wanted : assignment.cancelRequestedAt = none

namespace Database

variable {settings : Settings} {db : Database} {vpnNetworkId peerId id : Uuid} {limit : Nat}

def pendingIds (db : Database) (vpnNetworkId peerId : Uuid) : List Uuid :=
  orderByTime db.assignments (fun assignment => some assignment.assignedAt)
    (select db.assignments (fun assignment =>
      assignment.vpnNetworkId = vpnNetworkId ∧ assignment.peerId = some peerId ∧
        assignment.status = .assigned ∧ assignment.cancelRequestedAt = none))

theorem mem_pendingIds : id ∈ db.pendingIds vpnNetworkId peerId ↔
    ∃ row, db.assignments.get? id = some row ∧ row.Pending vpnNetworkId peerId := by
  rw [pendingIds, orderByTime, (perm_insertionSort _ _).mem_iff, mem_select]
  constructor
  · rintro ⟨row, found, holds⟩
    rcases of_decide_eq_true holds with ⟨room, peer, waits, wanted⟩
    exact ⟨row, found, room, peer, waits, wanted⟩
  · rintro ⟨row, found, pending⟩
    exact ⟨row, found, decide_eq_true ⟨pending.room, pending.peer, pending.waits, pending.wanted⟩⟩

theorem nodup_pendingIds : (db.pendingIds vpnNetworkId peerId).Nodup := by
  rw [pendingIds, orderByTime, (perm_insertionSort _ _).nodup_iff]
  exact nodup_select

theorem listPendingForPeer_eq :
    db.listPendingForPeer vpnNetworkId peerId limit =
      (db.pendingIds vpnNetworkId peerId).take limit :=
  rfl

def NoCancellation (vpnNetworkId peerId : Uuid) (db : Database) : Prop :=
  ∀ id row, db.assignments.get? id = some row -> row.Active vpnNetworkId peerId ->
    row.cancelRequestedAt = none

theorem NoCancellation.listCancelRequested (quiet : NoCancellation vpnNetworkId peerId db) :
    db.listCancelRequestedForPeer vpnNetworkId peerId = [] := by
  apply eq_nil_iff_forall_not_mem.mpr
  intro id member
  rcases mem_select.mp member with ⟨row, found, holds⟩
  rcases of_decide_eq_true holds with ⟨room, peer, live, requested⟩
  exact requested (quiet id row found ⟨peer, room, Bool.eq_false_of_not_eq_true live⟩)

end Database

namespace NodeSession

open Database

variable {settings : Settings} {vpnNetworkId peerId id : Uuid} {clock : Nat -> Time}
  {s next : NodeSession} {row : NodeTaskAssignment} {ids others : List Uuid}

/-! ## One assignment -/

/-- Two readings of the clock that follow each other are no lease apart. -/
def Steady (settings : Settings) (clock : Nat -> Time) : Prop :=
  ∀ reading, clock (reading + 1) ≤ clock reading + leaseDuration settings none

theorem Steady.fresh (steady : Steady settings clock) {reading : Nat}
    (lease : row.leaseExpiresAt = some (clock reading + leaseDuration settings none)) :
    row.leaseExpired (clock (reading + 1)) = false := by
  unfold NodeTaskAssignment.leaseExpired
  rw [lease, Option.any_some, decide_eq_false_iff_not]
  exact not_lt.mpr (steady reading)

/-- Some assignments were executed and have ended, and nothing else has changed. -/
structure Worked (s : NodeSession) (ids : List Uuid) (next : NodeSession) : Prop where
  kept : ∀ id, id ∉ ids -> next.db.assignments.get? id = s.db.assignments.get? id
  ended : ∀ id, id ∈ ids -> ∃ row, next.db.assignments.get? id = some row ∧
    row.status.isTerminal = true
  executed : ∀ id, id ∈ next.worker.executed ↔ id ∈ s.worker.executed ∨ id ∈ ids
  active : next.worker.activeIds = s.worker.activeIds
  pushed : next.worker.pushed = s.worker.pushed
  limit : next.worker.pollLimit = s.worker.pollLimit

theorem Worked.none (s : NodeSession) : Worked s [] s where
  kept := fun _ _ => rfl
  ended := fun _ impossible => absurd impossible not_mem_nil
  executed := fun _ => (or_iff_left not_mem_nil).symm
  active := rfl
  pushed := rfl
  limit := rfl

theorem Worked.append {last : NodeSession} (first : Worked s ids next)
    (second : Worked next others last) : Worked s (ids ++ others) last where
  kept := by
    intro id absent
    rw [mem_append, not_or] at absent
    rw [second.kept id absent.2, first.kept id absent.1]
  ended := by
    intro id member
    by_cases later : id ∈ others
    · exact second.ended id later
    · rw [second.kept id later]
      exact first.ended id ((mem_append.mp member).resolve_right later)
  executed := by
    intro id
    rw [second.executed, first.executed, mem_append, or_assoc]
  active := second.active.trans first.active
  pushed := second.pushed.trans first.pushed
  limit := second.limit.trans first.limit

theorem getForPeer_eq {db : Database} (found : db.assignments.get? id = some row)
    (peer : row.peerId = some peerId) : db.getForPeer id peerId = some row := by
  unfold getForPeer
  rw [found, Option.filter_some, if_pos (decide_eq_true peer)]

theorem markClaimed_pending {db : Database} {now : Time}
    (found : db.assignments.get? id = some row) (pending : row.Pending vpnNetworkId peerId) :
    db.markClaimed settings id peerId none now =
      (some ⟨row.claimed now (leaseDuration settings none), false⟩,
        db.setAssignment id (row.claimed now (leaseDuration settings none))) := by
  unfold markClaimed
  rw [getForPeer_eq found pending.peer]
  simp [pending.waits, pending.wanted, NodeAssignmentStatus.isTerminal]

theorem markRunning_claimed {db : Database} {checkedAt now : Time}
    (found : db.assignments.get? id = some row) (peer : row.peerId = some peerId)
    (accepted : row.status = .accepted) (wanted : row.cancelRequestedAt = none)
    (fresh : row.leaseExpired checkedAt = false) :
    db.markRunning settings id peerId checkedAt now =
      (some ⟨row.started now (leaseDuration settings none), false⟩,
        (db.setAssignment id (row.started now (leaseDuration settings none))).startTask row.taskId
          now) := by
  unfold markRunning
  rw [getForPeer_eq found peer]
  simp [accepted, wanted, fresh, NodeAssignmentStatus.isTerminal]

theorem markCompleted_started {db : Database} {checkedAt now : Time}
    {resultMetadata : Option (Dict String Json)} (found : db.assignments.get? id = some row)
    (peer : row.peerId = some peerId) (running : row.status = .running)
    (wanted : row.cancelRequestedAt = none) (fresh : row.leaseExpired checkedAt = false) :
    ∃ later, later.status = .completed ∧
      (db.markCompleted settings id peerId resultMetadata checkedAt now).1 = some ⟨later, false⟩ ∧
      (db.markCompleted settings id peerId resultMetadata checkedAt now).2.assignments =
        db.assignments.set id later := by
  have live : row.status.isTerminal = false := by
    rw [running]
    rfl
  unfold markCompleted
  rw [getForPeer_eq found peer]
  dsimp only
  rw [if_neg (Bool.eq_false_iff.mp live), wanted, if_neg (by simp), if_neg (Bool.eq_false_iff.mp fresh),
    markTerminal, if_neg (Bool.eq_false_iff.mp live)]
  exact ⟨_, NodeTaskAssignment.ended_status .., rfl, terminate_assignments live rfl⟩

/-- Requests about one assignment that come before its execution. -/
structure Touched (s : NodeSession) (id : Uuid) (next : NodeSession) : Prop where
  kept : ∀ other, other ≠ id ->
    next.db.assignments.get? other = s.db.assignments.get? other
  executed : next.worker.executed = s.worker.executed
  active : next.worker.activeIds = s.worker.activeIds
  pushed : next.worker.pushed = s.worker.pushed
  limit : next.worker.pollLimit = s.worker.pollLimit

theorem Touched.worked (touched : Touched s id next) {last : NodeSession}
    (worked : Worked next [id] last) : Worked s [id] last where
  kept := by
    intro other absent
    have different : other ≠ id := fun same => absent (mem_singleton.mpr same)
    rw [worked.kept other absent, touched.kept other different]
  ended := worked.ended
  executed := by
    intro other
    rw [worked.executed, touched.executed]
  active := worked.active.trans touched.active
  pushed := worked.pushed.trans touched.pushed
  limit := worked.limit.trans touched.limit

theorem startTask_assignments (db : Database) (taskId : Uuid) (now : Time) :
    (db.startTask taskId now).assignments = db.assignments := by
  unfold startTask
  split
  · rfl
  · rfl

theorem executeStarted_worked {started : NodeTaskAssignment}
    (found : s.db.assignments.get? id = some row) (peer : row.peerId = some peerId)
    (running : row.status = .running) (wanted : row.cancelRequestedAt = none)
    (fresh : row.leaseExpired (clock s.readings) = false) :
    (executeStarted settings peerId clock id started s).1 = false ∧
      Worked s [id] (executeStarted settings peerId clock id started s).2 := by
  rcases @markCompleted_started settings peerId id row s.db (clock s.readings)
    (clock (s.readings + 1)) (some (noopResult id started.taskId)) found peer running wanted fresh with
    ⟨later, completed, answered, rows⟩
  unfold executeStarted
  dsimp only
  rw [answered]
  refine ⟨rfl, ?_, ?_, ?_, rfl, rfl, rfl⟩
  · intro other absent
    have different : other ≠ id := fun same => absent (mem_singleton.mpr same)
    show (s.db.markCompleted settings id peerId _ _ _).2.assignments.get? other = _
    rw [rows, get?_set_of_ne different]
  · intro other member
    rw [mem_singleton.mp member]
    refine ⟨later, ?_, by rw [completed]; rfl⟩
    show (s.db.markCompleted settings id peerId _ _ _).2.assignments.get? id = _
    rw [rows, get?_set_self]
  · exact fun other => mem_append

theorem startClaimed_worked (steady : Steady settings clock) {reading : Nat}
    (found : s.db.assignments.get? id = some row) (peer : row.peerId = some peerId)
    (accepted : row.status = .accepted) (wanted : row.cancelRequestedAt = none)
    (read : s.readings = reading + 1)
    (lease : row.leaseExpiresAt = some (clock reading + leaseDuration settings none)) :
    (startClaimed settings peerId clock id s).1 = false ∧
      Worked s [id] (startClaimed settings peerId clock id s).2 := by
  have fresh : row.leaseExpired (clock s.readings) = false := by
    rw [read]
    exact steady.fresh lease
  unfold startClaimed
  rw [markRunning_claimed found peer accepted wanted fresh]
  dsimp only
  rw [if_neg (by simp [NodeTaskAssignment.started, wanted])]
  have startedFresh : (row.started (clock (s.readings + 1)) (leaseDuration settings none)).leaseExpired
      (clock (s.readings + 2)) = false := steady.fresh rfl
  have here : ((s.db.setAssignment id (row.started (clock (s.readings + 1))
      (leaseDuration settings none))).startTask row.taskId
        (clock (s.readings + 1))).assignments.get? id =
          some (row.started (clock (s.readings + 1)) (leaseDuration settings none)) := by
    rw [startTask_assignments]
    exact get?_set_self
  have touched : Touched s id ((s.after ((s.db.setAssignment id (row.started
      (clock (s.readings + 1)) (leaseDuration settings none))).startTask row.taskId
        (clock (s.readings + 1))) 2).withInflight
          (upsertInflight s.worker.inflight (strOfUuid id) .running none none none)) := by
    refine ⟨?_, rfl, rfl, rfl, rfl⟩
    intro other different
    show (startTask _ _ _).assignments.get? other = _
    rw [startTask_assignments]
    exact get?_set_of_ne different
  apply And.imp_right touched.worked
  exact executeStarted_worked here peer rfl wanted startedFresh

theorem claimAssignment_worked (steady : Steady settings clock)
    (found : s.db.assignments.get? id = some row) (pending : row.Pending vpnNetworkId peerId) :
    (claimAssignment settings peerId clock id s).1 = false ∧
      Worked s [id] (claimAssignment settings peerId clock id s).2 := by
  unfold claimAssignment
  rw [markClaimed_pending found pending]
  dsimp only
  rw [if_neg (by simp [NodeTaskAssignment.claimed, pending.wanted]),
    if_neg (by simp [NodeTaskAssignment.claimed, NodeAssignmentStatus.isTerminal])]
  have touched : Touched s id ((s.after (s.db.setAssignment id (row.claimed (clock s.readings)
      (leaseDuration settings none))) 1).withInflight (upsertInflight s.worker.inflight
        (strOfUuid id) .accepted (some (strOfUuid row.taskId)) (some (row.claimGeneration + 1))
          (some (clock s.readings + leaseDuration settings none)))) := by
    refine ⟨?_, rfl, rfl, rfl, rfl⟩
    exact fun other different => get?_set_of_ne different
  apply And.imp_right touched.worked
  exact startClaimed_worked steady get?_set_self pending.peer rfl pending.wanted rfl rfl

theorem processAssignment_worked (steady : Steady settings clock)
    (found : s.db.assignments.get? id = some row) (pending : row.Pending vpnNetworkId peerId)
    (idle : id ∉ s.worker.activeIds) (taskId : String) :
    (processAssignment settings peerId clock id taskId false s).1 = false ∧
      Worked s [id] (processAssignment settings peerId clock id taskId false s).2 := by
  unfold processAssignment
  rw [if_neg idle, if_neg Bool.false_ne_true]
  dsimp only
  rcases @claimAssignment_worked settings vpnNetworkId peerId id clock
    ((s.activate id).withInflight (upsertInflight s.worker.inflight (strOfUuid id) .assigned
      (some taskId) none none)) row steady found pending with ⟨quiet, worked⟩
  refine ⟨quiet, worked.kept, worked.ended, worked.executed, ?_, worked.pushed, worked.limit⟩
  have restored : (id :: s.worker.activeIds).filter (· ≠ id) = s.worker.activeIds := by
    rw [List.filter_cons_of_neg (by simp), List.filter_eq_self]
    intro other member
    exact decide_eq_true fun same => idle (same ▸ member)
  exact (congrArg (List.filter (· ≠ id)) worked.active).trans restored

/-! ## One poll -/

theorem processAll_worked (steady : Steady settings clock) {polled : List (Uuid × String)}
    (distinct : (polled.map Prod.fst).Nodup) (idle : s.worker.activeIds = [])
    (pending : ∀ id, id ∈ polled.map Prod.fst -> ∃ row,
      s.db.assignments.get? id = some row ∧ row.Pending vpnNetworkId peerId) :
    (processAll settings peerId clock polled s).1 = false ∧
      Worked s (polled.map Prod.fst) (processAll settings peerId clock polled s).2 := by
  induction polled generalizing s with
  | nil => exact ⟨rfl, .none s⟩
  | cons first rest ih =>
    rcases first with ⟨id, taskId⟩
    rw [map_cons, nodup_cons] at distinct
    rcases pending id (mem_cons_self ..) with ⟨row, found, waits⟩
    have absent : id ∉ s.worker.activeIds := by
      rw [idle]
      exact not_mem_nil
    rcases processAssignment_worked steady found waits absent taskId with ⟨quiet, worked⟩
    unfold processAll
    generalize processAssignment settings peerId clock id taskId false s = processed at quiet worked
    rcases processed with ⟨raised, next⟩
    dsimp only at quiet worked
    rw [quiet]
    dsimp only
    have later : ∀ other, other ∈ rest.map Prod.fst -> ∃ row,
        next.db.assignments.get? other = some row ∧ row.Pending vpnNetworkId peerId := by
      intro other member
      have different : other ∉ [id] := by
        intro same
        exact distinct.1 (mem_singleton.mp same ▸ member)
      rw [worked.kept other different]
      exact pending other (mem_cons_of_mem _ member)
    rcases ih distinct.2 (worked.active.trans idle) later with ⟨quietRest, workedRest⟩
    exact ⟨quietRest, worked.append workedRest⟩

/-- A worker that has nothing to do, whose polls are answered and whose assignments nobody
has asked to cancel. -/
structure Idle (vpnNetworkId peerId : Uuid) (s : NodeSession) : Prop where
  pushed : s.worker.pushed = []
  active : s.worker.activeIds = []
  some : 1 ≤ s.worker.pollLimit
  allowed : s.worker.pollLimit ≤ 10
  quiet : NoCancellation vpnNetworkId peerId s.db

theorem Worked.idle (worked : Worked s ids next) (idle : Idle vpnNetworkId peerId s) :
    Idle vpnNetworkId peerId next where
  pushed := worked.pushed.trans idle.pushed
  active := worked.active.trans idle.active
  some := by
    rw [worked.limit]
    exact idle.some
  allowed := by
    rw [worked.limit]
    exact idle.allowed
  quiet := by
    intro id row found active
    by_cases member : id ∈ ids
    · rcases worked.ended id member with ⟨later, isLater, terminal⟩
      rw [Option.some.inj (found.symm.trans isLater)] at active
      exact absurd (active.live.symm.trans terminal) Bool.false_ne_true
    · rw [worked.kept id member] at found
      exact idle.quiet id row found active

theorem Worked.pending (worked : Worked s ids next)
    (found : next.db.assignments.get? id = some row) (pending : row.Pending vpnNetworkId peerId) :
    id ∉ ids ∧ s.db.assignments.get? id = some row := by
  have absent : id ∉ ids := by
    intro member
    rcases worked.ended id member with ⟨later, isLater, terminal⟩
    rw [Option.some.inj (isLater.symm.trans found), pending.waits] at terminal
    cases terminal
  rw [worked.kept id absent] at found
  exact ⟨absent, found⟩

theorem runOnce_worked (steady : Steady settings clock) (idle : Idle vpnNetworkId peerId s) :
    Worked s ((s.db.pendingIds vpnNetworkId peerId).take s.worker.pollLimit)
      (runOnce settings vpnNetworkId peerId clock s).2 := by
  unfold runOnce
  rw [idle.pushed]
  unfold drainPushed
  dsimp only
  unfold runPolled
  rw [if_neg (not_or.mpr ⟨not_lt.mpr idle.some, not_lt.mpr idle.allowed⟩),
    idle.quiet.listCancelRequested, listPendingForPeer_eq]
  dsimp only [foldl_nil]
  have names : (((s.db.pendingIds vpnNetworkId peerId).take s.worker.pollLimit).map
      (fun id => (id, taskText s.db id))).map Prod.fst =
        (s.db.pendingIds vpnNetworkId peerId).take s.worker.pollLimit := by
    rw [map_map]
    exact map_id _
  have processed := @processAll_worked settings vpnNetworkId peerId clock s steady
    (((s.db.pendingIds vpnNetworkId peerId).take s.worker.pollLimit).map
      (fun id => (id, taskText s.db id)))
  rw [names] at processed
  apply (processed ?_ idle.active ?_).2
  · exact nodup_pendingIds.sublist (take_sublist _ _)
  · exact fun id member => mem_pendingIds.mp (mem_of_mem_take member)

/-! ## Some polls -/

theorem runTimes_worked (steady : Steady settings clock) (times : Nat)
    (idle : Idle vpnNetworkId peerId s) :
    ∃ ids, Worked s ids (runTimes settings vpnNetworkId peerId clock times s) ∧
      (∀ id, id ∈ ids -> id ∈ s.db.pendingIds vpnNetworkId peerId) ∧
      ((s.db.pendingIds vpnNetworkId peerId).length ≤ times ->
        ∀ id, id ∈ s.db.pendingIds vpnNetworkId peerId -> id ∈ ids) := by
  induction times generalizing s with
  | zero =>
    refine ⟨[], .none s, fun _ impossible => absurd impossible not_mem_nil, ?_⟩
    intro short id member
    rw [eq_nil_of_length_eq_zero (Nat.le_zero.mp short)] at member
    exact member
  | succ times ih =>
    have once := @runOnce_worked settings vpnNetworkId peerId clock s steady idle
    rcases ih (once.idle idle) with ⟨later, worked, pending, all⟩
    have earlier : ∀ id, id ∈ (runOnce settings vpnNetworkId peerId clock s).2.db.pendingIds
        vpnNetworkId peerId -> id ∉ (s.db.pendingIds vpnNetworkId peerId).take s.worker.pollLimit ∧
          id ∈ s.db.pendingIds vpnNetworkId peerId := by
      intro id member
      rcases mem_pendingIds.mp member with ⟨row, found, waits⟩
      rcases once.pending found waits with ⟨absent, before⟩
      exact ⟨absent, mem_pendingIds.mpr ⟨row, before, waits⟩⟩
    refine ⟨_, once.append worked, ?_, ?_⟩
    · intro id member
      rcases mem_append.mp member with member | member
      · exact mem_of_mem_take member
      · exact (earlier id (pending id member)).2
    · intro short id member
      by_cases taken : id ∈ (s.db.pendingIds vpnNetworkId peerId).take s.worker.pollLimit
      · exact mem_append_left _ taken
      · apply mem_append_right
        apply all
        · -- each poll takes at least one of them
          have fewer : (runOnce settings vpnNetworkId peerId clock s).2.db.pendingIds vpnNetworkId
              peerId ⊆ (s.db.pendingIds vpnNetworkId peerId).drop s.worker.pollLimit := by
            intro other still
            rcases earlier other still with ⟨absent, before⟩
            rw [← take_append_drop s.worker.pollLimit (s.db.pendingIds vpnNetworkId peerId),
              mem_append] at before
            exact before.resolve_left absent
          have counted := (subperm_of_subset nodup_pendingIds fewer).length_le
          rw [length_drop] at counted
          have one := idle.some
          omega
        · rcases mem_pendingIds.mp member with ⟨row, found, waits⟩
          rw [← once.kept id taken] at found
          exact mem_pendingIds.mpr ⟨row, found, waits⟩

end NodeSession

end Rooms
end ZepGpu
