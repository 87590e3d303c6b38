import ZepGpu.Rooms.PolledAssignments

namespace ZepGpu
namespace Rooms

open Foundation Dict List

/-!
# What becomes of resumed assignments

When it starts, the agent may resume every active assignment whose lease it has not
reported as run out.  It does nothing else than to write this down: the polls hand out
what waits for the provider, but what the provider had claimed or started before the
restart is never touched again.
-/

namespace NodeSession

open Database

variable {settings : Settings} {vpnNetworkId peerId id : Uuid} {clock : Nat -> Time} {now : Time}
  {endedAt : Uuid -> Time} {start db after : Database} {seen texts : List String}
  {outcomes : List (String × ReconcileAction)} {s next : NodeSession} {row : NodeTaskAssignment}

/-! ## The outcomes -/

/-- An outcome for a reported assignment: it may be resumed as it is, or there is a reason
why not. -/
def Explains (vpnNetworkId peerId : Uuid) (now : Time) (start : Database) (text : String)
    (action : ReconcileAction) : Prop :=
  ∃ id, uuidOfString text = some id ∧
    ((∃ row, start.assignments.get? id = some row ∧ row.Active vpnNetworkId peerId ∧
      ¬ row.Overdue now ∧ action = resumeAction row false) ∨
    action.isResume = false ∧ ∀ row, start.assignments.get? id = some row ->
      row.Active vpnNetworkId peerId -> row.Overdue now)

theorem explains_of_answers {text : String} {action : ReconcileAction}
    (answered : Answered vpnNetworkId peerId now start seen outcomes db)
    (parsed : uuidOfString text = some id)
    (answers : Answers vpnNetworkId peerId now id db action after) :
    Explains vpnNetworkId peerId now start text action := by
  refine ⟨id, parsed, ?_⟩
  cases answers with
  | abandons stops inactive =>
    refine .inr ⟨stops, ?_⟩
    intro row found active
    by_contra current
    have same := answered.untouched id (by
      intro _ other isOther _
      rw [Option.some.inj (isOther.symm.trans found)]
      exact current)
    exact inactive row (same.trans found) active
  | ends stops found active overdue terminal same =>
    refine .inr ⟨stops, ?_⟩
    intro row isRow _
    rw [Option.some.inj (isRow.symm.trans (answered.active found active).1)]
    exact overdue
  | resumes found active current =>
    exact .inl ⟨_, (answered.active found active).1, active, current, rfl⟩

theorem reconcileLoop_explains {finalSeen : List String}
    {finalOutcomes : List (String × ReconcileAction)}
    (answered : Answered vpnNetworkId peerId now start seen outcomes db)
    (explained : ∀ text action, (text, action) ∈ outcomes ->
      Explains vpnNetworkId peerId now start text action)
    (run : reconcileLoop settings vpnNetworkId peerId now endedAt texts seen outcomes db =
      .ok (finalSeen, finalOutcomes, after)) :
    ∀ text action, (text, action) ∈ finalOutcomes ->
      Explains vpnNetworkId peerId now start text action := by
  induction texts generalizing seen outcomes db with
  | nil =>
    cases run
    exact explained
  | cons text rest ih =>
    rw [reconcileLoop] at run
    split_ifs at run with member
    · exact ih answered explained run
    · cases parsed : uuidOfString text with
      | none =>
        rw [parsed] at run
        cases run
      | some id =>
        rw [parsed] at run
        have answers := reconcileOne_answers settings db vpnNetworkId peerId now (endedAt id) id
        apply ih (answered.step member parsed answers) _ run
        intro other action isOutcome
        rcases mem_append.mp isOutcome with before | last
        · exact explained other action before
        · cases mem_singleton.mp last
          exact explains_of_answers answered parsed answers

/-- Too many ids, or one that is malformed. -/
def Refused (texts : List String) : Prop :=
  100 < texts.length ∨ ∃ text, text ∈ texts ∧ uuidOfString text = none

/-- What the outcomes of a call say of the state that it leaves. -/
structure Outcomes (vpnNetworkId peerId : Uuid) (now : Time) (start : Database) (texts : List String)
    (outcomes : List (String × ReconcileAction)) (after : Database) : Prop where
  /-- What is active is not overdue, if it was reported, and was active before. -/
  active : ∀ id row, after.assignments.get? id = some row -> row.Active vpnNetworkId peerId ->
    start.assignments.get? id = some row ∧ (Reports texts id -> ¬ row.Overdue now)
  kept : ∀ id row, start.assignments.get? id = some row ->
    (Reports texts id -> ¬ row.Overdue now) -> after.assignments.get? id = some row
  resumed : ∀ text action, (text, action) ∈ outcomes -> action.isResume = true ->
    ∃ id row recovered, uuidOfString text = some id ∧ after.assignments.get? id = some row ∧
      row.Active vpnNetworkId peerId ∧ action = resumeAction row recovered
  surfaced : ∀ id row, after.assignments.get? id = some row -> row.Active vpnNetworkId peerId ->
    ∃ text action, (text, action) ∈ outcomes ∧ action.isResume = true ∧
      uuidOfString text = some id

theorem outcomes_of_reconcileForPeer
    (returns : (start.reconcileForPeer settings vpnNetworkId peerId texts now endedAt).result =
      .ok outcomes) :
    Outcomes vpnNetworkId peerId now start texts outcomes
      (start.reconcileForPeer settings vpnNetworkId peerId texts now endedAt).state := by
  rcases reconcileForPeer_eq_ok returns with ⟨seen, first, loop, rfl⟩
  generalize (start.reconcileForPeer settings vpnNetworkId peerId texts now endedAt).state = after
    at loop
  rcases reconcileLoop_answered (answered_nil vpnNetworkId peerId now start) loop with
    ⟨answered, same⟩
  have explained := reconcileLoop_explains (answered_nil vpnNetworkId peerId now start)
    (fun _ _ impossible => absurd impossible not_mem_nil) loop
  have reported : ∀ id, Reports texts id ↔ Reports seen id := by
    intro id
    apply exists_congr
    intro text
    rw [same text, or_iff_right not_mem_nil]
  have active : ∀ id row, after.assignments.get? id = some row ->
      row.Active vpnNetworkId peerId -> start.assignments.get? id = some row ∧
        (Reports texts id -> ¬ row.Overdue now) := by
    intro id row found active
    rw [reported]
    exact answered.active found active
  refine ⟨active, ?_, ?_, ?_⟩
  · intro id row found stays
    rw [reported] at stays
    exact answered.kept found stays
  · intro text action member resumes
    rcases mem_append.mp member with member | member
    · rcases explained text action member with ⟨id, parsed, ⟨row, found, active, current, rfl⟩ | declined⟩
      · exact ⟨id, row, false, parsed, answered.kept found fun _ => current, active, rfl⟩
      · rw [declined.1] at resumes
        cases resumes
    · rcases mem_recovered.mp member with ⟨id, row, rfl, rfl, -, found, active⟩
      exact ⟨id, row, true, uuidOfString_strOfUuid id, found, active, rfl⟩
  · intro id row found isActive
    by_cases listed : strOfUuid id ∈ seen
    · have named : strOfUuid id ∈ first.map Prod.fst := by
        rw [answered.texts]
        exact mem_reverse.mpr listed
      rcases mem_map.mp named with ⟨⟨text, action⟩, member, isText⟩
      dsimp only at isText
      rcases explained text action member with ⟨other, parsed, resumable⟩
      rw [isText, uuidOfString_strOfUuid] at parsed
      cases parsed
      rcases active id row found isActive with ⟨before, current⟩
      rcases resumable with ⟨_, -, -, -, rfl⟩ | ⟨-, overdue⟩
      · exact ⟨text, _, mem_append_left _ member, rfl, by
          rw [isText, uuidOfString_strOfUuid]⟩
      · have listedText : Reports texts id :=
          (reported id).mpr ⟨_, listed, uuidOfString_strOfUuid id⟩
        exact absurd (overdue row before isActive) (current listedText)
    · exact ⟨_, _, mem_append_right _
        (mem_recovered.mpr ⟨id, row, rfl, rfl, listed, found, isActive⟩), rfl,
        uuidOfString_strOfUuid id⟩

/-! ## The start -/

def fresh (db : Database) (pollLimit : Nat) (inflight : Inflight) : NodeSession where
  db := db
  worker := { pollLimit := pollLimit, inflight := inflight }

/-- Only the file and the reading of the clock may differ. -/
structure SameWork (s next : NodeSession) : Prop where
  db : next.db = s.db
  limit : next.worker.pollLimit = s.worker.pollLimit
  pushed : next.worker.pushed = s.worker.pushed
  active : s.worker.activeIds = [] -> next.worker.activeIds = []
  executed : next.worker.executed = s.worker.executed

theorem SameWork.refl (s : NodeSession) : SameWork s s :=
  ⟨rfl, rfl, rfl, id, rfl⟩

theorem SameWork.trans {last : NodeSession} (first : SameWork s next) (second : SameWork next last) :
    SameWork s last where
  db := second.db.trans first.db
  limit := second.limit.trans first.limit
  pushed := second.pushed.trans first.pushed
  active := fun idle => second.active (first.active idle)
  executed := second.executed.trans first.executed

theorem sameWork_withInflight (inflight : Inflight) : SameWork s (s.withInflight inflight) :=
  ⟨rfl, rfl, rfl, id, rfl⟩

theorem sameWork_deactivate : SameWork s (s.deactivate id) where
  db := rfl
  limit := rfl
  pushed := rfl
  active := by
    intro idle
    show s.worker.activeIds.filter _ = []
    rw [idle]
    rfl
  executed := rfl

theorem applyOutcome_sameWork {text : String} {action : ReconcileAction}
    (wanted : action.isResume = true -> ∃ (row : NodeTaskAssignment) (recovered : Bool),
      row.cancelRequestedAt = none ∧ action = resumeAction row recovered) :
    SameWork s (applyOutcome settings peerId clock s (text, action)) := by
  -- every other outcome forgets the assignment
  have forgets : action.isResume = false ->
      SameWork s (applyOutcome settings peerId clock s (text, action)) := by
    intro other
    cases parsed : uuidOfString text with
    | some id =>
      have same : applyOutcome settings peerId clock s (text, action) =
          (s.withInflight (s.worker.inflight.erase text)).deactivate id := by
        cases action with
        | resume => cases other
        | _ =>
          rw [applyOutcome, parsed]
          rintro _ _ _ _ _ ⟨⟩
      rw [same]
      exact (sameWork_withInflight _).trans sameWork_deactivate
    | none =>
      have same : applyOutcome settings peerId clock s (text, action) =
          s.withInflight (s.worker.inflight.erase text) := by
        cases action with
        | resume => cases other
        | _ =>
          rw [applyOutcome, parsed]
          rintro _ _ _ _ _ ⟨⟩
      rw [same]
      exact sameWork_withInflight _
  cases action with
  | resume status claimGeneration leaseExpiresAt cancelRequested recovered =>
    rcases wanted rfl with ⟨row, _, none, same⟩
    have quiet : cancelRequested = false := by
      cases same
      rw [none]
      rfl
    rw [quiet]
    exact sameWork_withInflight _
  | abandonNotFound => exact forgets rfl
  | abandonCrossRoom status => exact forgets rfl
  | abandonTerminal status terminalReason => exact forgets rfl
  | cancel status terminalReason => exact forgets rfl
  | failExpired status terminalReason => exact forgets rfl

theorem applyOutcomes_sameWork
    (wanted : ∀ text action, (text, action) ∈ outcomes -> action.isResume = true ->
      ∃ (row : NodeTaskAssignment) (recovered : Bool), row.cancelRequestedAt = none ∧
        action = resumeAction row recovered) :
    SameWork s (outcomes.foldl (applyOutcome settings peerId clock) s) := by
  induction outcomes generalizing s with
  | nil => exact .refl s
  | cons first rest ih =>
    rw [foldl_cons]
    have here := @applyOutcome_sameWork settings peerId clock s first.1 first.2
      (wanted first.1 first.2 (mem_cons_self ..))
    exact here.trans (ih fun text action member =>
      wanted text action (mem_cons_of_mem _ member))

/-- How a start ends: without outcomes, or with those of the coordinator. -/
inductive Started (settings : Settings) (vpnNetworkId peerId : Uuid) (now : Time)
    (endedAt : Uuid -> Time) (s : NodeSession) :
    List (String × ReconcileAction) × NodeSession -> Prop
  | refused (next : NodeSession) (refused : Refused s.worker.inflight.sortedKeys) :
      Started settings vpnNetworkId peerId now endedAt s ([], next)
  | reconciled (outcomes : List (String × ReconcileAction)) (after next : NodeSession)
      (readable : ¬ Refused s.worker.inflight.sortedKeys)
      (told : Outcomes vpnNetworkId peerId now s.db s.worker.inflight.sortedKeys outcomes after.db)
      (limit : after.worker.pollLimit = s.worker.pollLimit)
      (pushed : after.worker.pushed = s.worker.pushed)
      (active : after.worker.activeIds = s.worker.activeIds) (same : SameWork after next) :
      Started settings vpnNetworkId peerId now endedAt s (outcomes, next)

theorem reconcileOnStartup_started (quiet : NoCancellation vpnNetworkId peerId s.db) :
    Started settings vpnNetworkId peerId (clock s.readings) endedAt s
      (reconcileOnStartup settings vpnNetworkId peerId clock endedAt s) := by
  unfold reconcileOnStartup
  dsimp only
  split_ifs with many
  · exact .refused s (.inl many)
  · cases returns : (s.db.reconcileForPeer settings vpnNetworkId peerId s.worker.inflight.sortedKeys
      (clock s.readings) endedAt).result with
    | error error =>
      dsimp only
      apply Started.refused
      right
      by_contra unreadable
      have readable : ∀ text, text ∈ s.worker.inflight.sortedKeys ->
          (uuidOfString text).isSome = true := by
        intro text member
        apply Option.isSome_iff_ne_none.mpr
        exact fun none => unreadable ⟨text, member, none⟩
      rcases @reconcileLoop_returns settings s.db vpnNetworkId peerId (clock s.readings) [] [] _
        endedAt readable with ⟨seen, first, after, loop⟩
      rw [reconcileForPeer_of_loop loop] at returns
      cases returns
    | ok outcomes =>
      dsimp only
      have told := outcomes_of_reconcileForPeer returns
      refine .reconciled outcomes (s.after (s.db.reconcileForPeer settings vpnNetworkId peerId
        s.worker.inflight.sortedKeys (clock s.readings) endedAt).state 1) _ ?_ told rfl rfl rfl ?_
      · rintro (tooMany | ⟨text, member, unread⟩)
        · exact many tooMany
        · rcases reconcileForPeer_eq_ok returns with ⟨seen, first, loop, -⟩
          rcases reconcileLoop_answered (answered_nil vpnNetworkId peerId _ s.db) loop with
            ⟨answered, same⟩
          have readable := answered.readable text ((same text).mpr (.inr member))
          rw [unread] at readable
          cases readable
      · apply applyOutcomes_sameWork
        intro text action member resumes
        rcases told.resumed text action member resumes with
          ⟨id, row, recovered, -, found, active, isAction⟩
        rcases told.active id row found active with ⟨before, -⟩
        exact ⟨row, recovered, quiet id row before active, isAction⟩

/-! ## The polls after the start -/

/-- The node has executed an assignment that has ended by now. -/
def WorkedOn (s : NodeSession) (text : String) : Prop :=
  ∃ id row, uuidOfString text = some id ∧ id ∈ s.worker.executed ∧
    s.db.assignments.get? id = some row ∧ row.status.isTerminal = true

/-- The identifiers are refused, or the lease of everything that the provider has claimed
or started has run out, and the agent reports it. -/
def NothingToResume (vpnNetworkId peerId : Uuid) (now : Time) (db : Database) (texts : List String) :
    Prop :=
  Refused texts ∨ ∀ id row, db.assignments.get? id = some row ->
    row.Active vpnNetworkId peerId -> row.status = .accepted ∨ row.status = .running ->
      Reports texts id ∧ row.leaseExpired now = true

theorem active_assigned (active : row.Active vpnNetworkId peerId)
    (idle : ¬ (row.status = .accepted ∨ row.status = .running)) : row.status = .assigned := by
  have live := active.live
  cases status : row.status with
  | assigned => rfl
  | accepted => exact absurd (.inl status) idle
  | running => exact absurd (.inr status) idle
  | completed => rw [status] at live; cases live
  | failed => rw [status] at live; cases live
  | cancelled => rw [status] at live; cases live

section Polls

variable {inflight : Inflight} {pollLimit : Nat} {started : List (String × ReconcileAction) × NodeSession}

/-- Some number of polls works on all that the agent may resume. -/
def ResumedWorkedOn (settings : Settings) (vpnNetworkId peerId : Uuid) (clock : Nat -> Time)
    (started : List (String × ReconcileAction) × NodeSession) : Prop :=
  ∃ times, ∀ text action, (text, action) ∈ started.1 -> action.isResume = true ->
    WorkedOn (runTimes settings vpnNetworkId peerId clock times started.2) text

theorem idle_of_sameWork (told : Outcomes vpnNetworkId peerId now db texts outcomes s.db)
    (quiet : NoCancellation vpnNetworkId peerId db) (limit : s.worker.pollLimit = pollLimit)
    (pushed : s.worker.pushed = []) (active : s.worker.activeIds = []) (same : SameWork s next)
    (positive : 1 ≤ pollLimit) (allowed : pollLimit ≤ 10) : Idle vpnNetworkId peerId next where
  pushed := same.pushed.trans pushed
  active := same.active active
  some := by
    rw [same.limit, limit]
    exact positive
  allowed := by
    rw [same.limit, limit]
    exact allowed
  quiet := by
    rw [same.db]
    intro id row found isActive
    exact quiet id row (told.active id row found isActive).1 isActive

theorem nothingToResume_of_worked (steady : Steady settings clock)
    (quiet : NoCancellation vpnNetworkId peerId db) (positive : 1 ≤ pollLimit)
    (allowed : pollLimit ≤ 10)
    (begun : Started settings vpnNetworkId peerId now endedAt (fresh db pollLimit inflight) started)
    (worked : ResumedWorkedOn settings vpnNetworkId peerId clock started) :
    NothingToResume vpnNetworkId peerId now db inflight.sortedKeys := by
  cases begun with
  | refused next refused => exact .inl refused
  | reconciled outcomes after next readable told limit pushed active same =>
    rcases worked with ⟨times, worked⟩
    have idle := idle_of_sameWork told quiet limit pushed active same positive allowed
    right
    intro id row found isActive held
    by_contra missed
    -- nothing has ended the assignment, so that it is surfaced and never polled
    have stays : Reports inflight.sortedKeys id -> ¬ row.Overdue now := by
      rintro reported (requested | expired)
      · rw [quiet id row found isActive] at requested
        cases requested
      · exact missed ⟨reported, expired⟩
    have later := told.kept id row found stays
    rcases told.surfaced id row later isActive with ⟨text, action, member, resumes, parsed⟩
    rcases worked text action member resumes with ⟨other, last, isOther, -, isLast, terminal⟩
    cases parsed.symm.trans isOther
    rcases runTimes_worked steady times idle with ⟨ids, polled, pending, -⟩
    have absent : id ∉ ids := by
      intro isPolled
      rcases mem_pendingIds.mp (pending id isPolled) with ⟨waiting, isWaiting, waits⟩
      rw [same.db, later] at isWaiting
      cases isWaiting
      rw [waits.waits] at held
      rcases held with accepted | running
      · cases accepted
      · cases running
    rw [polled.kept id absent, same.db, later] at isLast
    cases isLast
    exact Bool.false_ne_true (isActive.live.symm.trans terminal)

theorem worked_of_nothingToResume (steady : Steady settings clock)
    (quiet : NoCancellation vpnNetworkId peerId db) (positive : 1 ≤ pollLimit)
    (allowed : pollLimit ≤ 10)
    (begun : Started settings vpnNetworkId peerId now endedAt (fresh db pollLimit inflight) started)
    (nothing : NothingToResume vpnNetworkId peerId now db inflight.sortedKeys) :
    ResumedWorkedOn settings vpnNetworkId peerId clock started := by
  cases begun with
  | refused next refused => exact ⟨0, fun _ _ impossible => absurd impossible not_mem_nil⟩
  | reconciled outcomes after next readable told limit pushed active same =>
    have idle := idle_of_sameWork told quiet limit pushed active same positive allowed
    rcases nothing with refused | nothing
    · exact absurd refused readable
    · rcases runTimes_worked steady (next.db.pendingIds vpnNetworkId peerId).length idle with
        ⟨ids, polled, -, all⟩
      refine ⟨(next.db.pendingIds vpnNetworkId peerId).length, ?_⟩
      intro text action member resumes
      rcases told.resumed text action member resumes with ⟨id, row, _, parsed, found, isActive, -⟩
      rcases told.active id row found isActive with ⟨before, current⟩
      have unheld : ¬ (row.status = .accepted ∨ row.status = .running) := by
        intro held
        rcases nothing id row before isActive held with ⟨reported, expired⟩
        exact current reported (.inr expired)
      have pending : row.Pending vpnNetworkId peerId :=
        ⟨isActive.room, isActive.peer, active_assigned isActive unheld,
          quiet id row before isActive⟩
      have isPolled := all le_rfl id (mem_pendingIds.mpr ⟨row, by rw [same.db]; exact found, pending⟩)
      rcases polled.ended id isPolled with ⟨last, isLast, terminal⟩
      exact ⟨id, last, parsed, (polled.executed id).mpr (.inr isPolled), isLast, terminal⟩

end Polls

/-- Some number of polls works on all that a restarted agent may resume exactly when nothing
that it had claimed or started is among it. -/
theorem resumed_worked_on_iff (settings : Settings) (vpnNetworkId peerId : Uuid)
    (clock : Nat -> Time) (endedAt : Uuid -> Time) (db : Database) (inflight : Inflight)
    (pollLimit : Nat) (steady : Steady settings clock) (positive : 1 ≤ pollLimit)
    (allowed : pollLimit ≤ 10) (quiet : NoCancellation vpnNetworkId peerId db) :
    ResumedWorkedOn settings vpnNetworkId peerId clock
      (reconcileOnStartup settings vpnNetworkId peerId clock endedAt (fresh db pollLimit inflight)) ↔
      NothingToResume vpnNetworkId peerId (clock 0) db inflight.sortedKeys := by
  have begun := @reconcileOnStartup_started settings vpnNetworkId peerId clock endedAt
    (fresh db pollLimit inflight) quiet
  constructor
  · exact nothingToResume_of_worked steady quiet positive allowed begun
  · exact worked_of_nothingToResume steady quiet positive allowed begun

end NodeSession

/-! ## An agent that restarts in between -/

namespace NodeSession

open Database Sample

theorem steady_zero : Steady settings fun _ => 0 := by
  intro reading
  show (0 : Time) ≤ 0 + leaseDuration settings none
  decide

theorem noCancellation_of_all {vpnNetworkId peerId : Uuid} {db : Database}
    (all : db.assignments.keys.all (fun id => (db.assignments.get? id).all
      (fun row => row.cancelRequestedAt = none)) = true) : NoCancellation vpnNetworkId peerId db := by
  intro id row found _
  have here := all_eq_true.mp all id (mem_keys_of_get? found)
  rw [found] at here
  exact of_decide_eq_true here

/-- Nobody had claimed the assignment. -/
theorem resumed_worked_on_assignedRoom :
    ResumedWorkedOn settings roomId peerId (fun _ => 0)
      (reconcileOnStartup settings roomId peerId (fun _ => 0) (fun _ => 0)
        (fresh assignedRoom 1 Dict.empty)) := by
  apply (resumed_worked_on_iff settings roomId peerId (fun _ => 0) (fun _ => 0) assignedRoom
    Dict.empty 1 steady_zero (by decide) (by decide) (noCancellation_of_all (by decide +kernel))).mpr
  right
  intro id row found _ held
  have all : assignedRoom.assignments.keys.all (fun id => (assignedRoom.assignments.get? id).all
      (fun row => row.status = .assigned)) = true := by
    decide +kernel
  have here := all_eq_true.mp all id (mem_keys_of_get? found)
  rw [found] at here
  have assigned : row.status = .assigned := of_decide_eq_true here
  rw [assigned] at held
  rcases held with accepted | running
  · cases accepted
  · cases running

/-- The provider has claimed the assignment, restarts within its lease and reports it. -/
theorem claimed_assignment_abandoned :
    ¬ ∀ (settings : Settings) (vpnNetworkId peerId : Uuid) (clock : Nat -> Time)
      (endedAt : Uuid -> Time) (db : Database) (inflight : Inflight) (pollLimit : Nat),
      Steady settings clock -> 1 ≤ pollLimit -> pollLimit ≤ 10 ->
      NoCancellation vpnNetworkId peerId db ->
      ResumedWorkedOn settings vpnNetworkId peerId clock
        (reconcileOnStartup settings vpnNetworkId peerId clock endedAt
          (fresh db pollLimit inflight)) := by
  intro working
  have quiet : NoCancellation roomId peerId claimedRoom := noCancellation_of_all (by decide +kernel)
  have worked := working settings roomId peerId (fun _ => 0) (fun _ => 0) claimedRoom
    (upsertInflight Dict.empty (strOfUuid assignmentId) .accepted none none none) 1 steady_zero
    (by decide) (by decide) quiet
  have nothing := nothingToResume_of_worked steady_zero quiet (by decide) (by decide)
    (reconcileOnStartup_started quiet) worked
  have found : (claimedRoom.assignments.get? assignmentId).any (fun row =>
      decide (row.peerId = some peerId) && decide (row.vpnNetworkId = roomId) &&
        decide (row.status = .accepted) && !row.leaseExpired 0) = true := by
    decide +kernel
  rcases (Option.any_eq_true _ _).mp found with ⟨row, found, facts⟩
  simp only [Bool.and_eq_true, decide_eq_true_eq, Bool.not_eq_true'] at facts
  rcases facts with ⟨⟨⟨isPeer, isRoom⟩, accepted⟩, current⟩
  have isActive : row.Active roomId peerId := ⟨isPeer, isRoom, by rw [accepted]; rfl⟩
  rcases nothing with (many | ⟨text, member, unread⟩) | nothing
  · exact absurd many (by decide +kernel)
  · have only : text = strOfUuid assignmentId := by
      have listed := mem_sortedKeys.mp member
      rcases mem_keys_set.mp listed with same | impossible
      · exact same
      · exact absurd impossible not_mem_nil
    rw [only, uuidOfString_strOfUuid] at unread
    cases unread
  · rcases nothing assignmentId row found isActive (.inl accepted) with ⟨-, expired⟩
    exact Bool.false_ne_true (current.symm.trans expired)

end NodeSession

end Rooms
end ZepGpu
