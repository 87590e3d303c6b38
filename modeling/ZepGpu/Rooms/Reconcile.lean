import ZepGpu.Rooms.Lifecycle

namespace ZepGpu
namespace Rooms

open Foundation Dict List

/-!
# Reconciliation of a restarted provider

The first pass goes through the assignments that the provider reports, ends
those that are overdue and lets it resume the others.  The second pass hands
out the active assignments that were not reported, and looks neither at their
leases nor at a request for their cancellation.  Reports are compared as texts,
so that an assignment in another spelling is answered twice.
-/

/-- An assignment of a peer in a room that has not ended. -/
structure NodeTaskAssignment.Active (vpnNetworkId peerId : Uuid) (assignment : NodeTaskAssignment) :
    Prop where
  peer : assignment.peerId = some peerId
  room : assignment.vpnNetworkId = vpnNetworkId
  live : assignment.status.isTerminal = false

/-- Cancelled from outside, or past its lease. -/
def NodeTaskAssignment.Overdue (now : Time) (assignment : NodeTaskAssignment) : Prop :=
  assignment.cancelRequestedAt.isSome = true ∨ assignment.leaseExpired now = true

/-- A text among the reported ones reads as the identifier. -/
def Reports (texts : List String) (id : Uuid) : Prop :=
  ∃ text, text ∈ texts ∧ uuidOfString text = some id

namespace Database

/-- `outcome["action"] == "resume"` -/
def ReconcileAction.isResume : ReconcileAction -> Bool
  | .resume _ _ _ _ _ => true
  | _ => false

def namedBy (outcomes : List (String × ReconcileAction)) : List Uuid :=
  outcomes.filterMap (fun outcome => uuidOfString outcome.1)

variable {settings : Settings} {db : Database} {vpnNetworkId peerId : Uuid} {now : Time} {id : Uuid}

/-! ## One reported assignment -/

/-- What becomes of one reported assignment, in three cases. -/
inductive Answers (vpnNetworkId peerId : Uuid) (now : Time) (id : Uuid) (db : Database) :
    ReconcileAction -> Database -> Prop
  | abandons {action : ReconcileAction} (stops : action.isResume = false)
      (inactive : ∀ row, db.assignments.get? id = some row -> ¬ row.Active vpnNetworkId peerId) :
      Answers vpnNetworkId peerId now id db action db
  | ends {action : ReconcileAction} {after : Database} {row later : NodeTaskAssignment}
      (stops : action.isResume = false) (found : db.assignments.get? id = some row)
      (active : row.Active vpnNetworkId peerId) (overdue : row.Overdue now)
      (terminal : later.status.isTerminal = true)
      (same : after.assignments = db.assignments.set id later) :
      Answers vpnNetworkId peerId now id db action after
  | resumes {row : NodeTaskAssignment} (found : db.assignments.get? id = some row)
      (active : row.Active vpnNetworkId peerId) (current : ¬ row.Overdue now) :
      Answers vpnNetworkId peerId now id db (resumeAction row false) db

theorem terminate_assignments {row : NodeTaskAssignment} {status : NodeAssignmentStatus}
    {terminalReason : String} {error : Option String} {resultMetadata : Option (Dict String Json)}
    {taskStatus : Option TaskStatus} {endedAt : Time} (live : row.status.isTerminal = false)
    (terminal : status.isTerminal = true) :
    (db.terminate settings id row status terminalReason error resultMetadata taskStatus
      endedAt).assignments =
        db.assignments.set id (row.ended status terminalReason error endedAt) :=
  (Change.effect settings db id
    (.ended status terminalReason error resultMetadata taskStatus endedAt) ⟨live, terminal⟩).assignments

theorem reconcileOne_answers (settings : Settings) (db : Database) (vpnNetworkId peerId : Uuid)
    (now endedAt : Time) (id : Uuid) :
    Answers vpnNetworkId peerId now id db
      (db.reconcileOne settings vpnNetworkId peerId now endedAt id).1
      (db.reconcileOne settings vpnNetworkId peerId now endedAt id).2 := by
  unfold reconcileOne
  cases own : db.getForPeer id peerId with
  | none =>
    refine .abandons rfl fun row found active => ?_
    rw [getForPeer, found, Option.filter_some, if_pos (decide_eq_true active.peer)] at own
    cases own
  | some row =>
    obtain ⟨found, isPeer⟩ := getForPeer_eq_some own
    have only : ∀ other, db.assignments.get? id = some other -> other = row :=
      fun other isOther => Option.some.inj (isOther.symm.trans found)
    dsimp only
    split_ifs with otherRoom ended wanted expired
    · refine .abandons rfl fun other isOther active => ?_
      rw [only other isOther] at active
      exact otherRoom active.room
    · refine .abandons rfl fun other isOther active => ?_
      rw [only other isOther] at active
      exact Bool.false_ne_true (active.live.symm.trans ended)
    · have live := Bool.eq_false_of_not_eq_true ended
      have running : row.status ≠ .cancelled := by
        intro cancelled
        rw [cancelled] at live
        cases live
      have mine : ¬ (some peerId).any (fun peerId => row.peerId ≠ some peerId) = true := by
        rw [Option.any_some, decide_eq_true_eq, not_not]
        exact isPeer
      rw [markCancelled, found]
      dsimp only
      rw [if_neg mine, if_neg running, if_neg ended, markTerminal, if_neg ended]
      refine .ends rfl found ⟨isPeer, not_not.mp otherRoom, live⟩ (Or.inl wanted)
        ?_ (terminate_assignments live rfl)
      rw [NodeTaskAssignment.ended_status]
      rfl
    · have live := Bool.eq_false_of_not_eq_true ended
      rw [markTerminal, if_neg ended]
      refine .ends rfl found ⟨isPeer, not_not.mp otherRoom, live⟩ (Or.inr expired)
        ?_ (terminate_assignments live rfl)
      rw [NodeTaskAssignment.ended_status]
      rfl
    · exact .resumes found ⟨isPeer, not_not.mp otherRoom, Bool.eq_false_of_not_eq_true ended⟩
        (not_or.mpr ⟨wanted, expired⟩)

/-! ## The first pass -/

/-- How far the first pass is after some of the reported texts. -/
structure Answered (vpnNetworkId peerId : Uuid) (now : Time) (start : Database) (seen : List String)
    (outcomes : List (String × ReconcileAction)) (db : Database) : Prop where
  texts : outcomes.map Prod.fst = seen.reverse
  distinct : seen.Nodup
  readable : ∀ text, text ∈ seen -> (uuidOfString text).isSome = true
  untouched : ∀ id, (Reports seen id -> ∀ row, start.assignments.get? id = some row ->
    row.Active vpnNetworkId peerId -> ¬ row.Overdue now) ->
      db.assignments.get? id = start.assignments.get? id
  ended : ∀ id row, Reports seen id -> start.assignments.get? id = some row ->
    row.Active vpnNetworkId peerId -> row.Overdue now ->
      ∃ later, db.assignments.get? id = some later ∧ later.status.isTerminal = true
  resumed : ∀ text action, (text, action) ∈ outcomes -> action.isResume = true ->
    ∃ id row, uuidOfString text = some id ∧ start.assignments.get? id = some row ∧
      row.Active vpnNetworkId peerId ∧ ¬ row.Overdue now

section Pass

variable {start : Database} {seen : List String} {outcomes : List (String × ReconcileAction)}
  {row : NodeTaskAssignment}

theorem Answered.active (answered : Answered vpnNetworkId peerId now start seen outcomes db)
    (found : db.assignments.get? id = some row) (active : row.Active vpnNetworkId peerId) :
    start.assignments.get? id = some row ∧ (Reports seen id -> ¬ row.Overdue now) := by
  have current : Reports seen id -> ∀ before, start.assignments.get? id = some before ->
      before.Active vpnNetworkId peerId -> ¬ before.Overdue now := by
    intro reported before isBefore activeBefore overdue
    obtain ⟨later, isLater, terminal⟩ :=
      answered.ended id before reported isBefore activeBefore overdue
    obtain rfl := Option.some.inj (found.symm.trans isLater)
    exact Bool.false_ne_true (active.live.symm.trans terminal)
  have same := answered.untouched id current
  rw [found] at same
  exact ⟨same.symm, fun reported => current reported row same.symm active⟩

theorem reports_cons {text : String} {other : Uuid} (parsed : uuidOfString text = some id) :
    Reports (text :: seen) other ↔ other = id ∨ Reports seen other := by
  rw [Reports, Reports]
  simp only [mem_cons, exists_eq_or_imp, parsed, Option.some.injEq]
  rw [eq_comm]

theorem Answered.step {text : String} {action : ReconcileAction} {after : Database}
    (answered : Answered vpnNetworkId peerId now start seen outcomes db) (unseen : text ∉ seen)
    (parsed : uuidOfString text = some id)
    (answers : Answers vpnNetworkId peerId now id db action after) :
    Answered vpnNetworkId peerId now start (text :: seen) (outcomes ++ [(text, action)]) after := by
  have texts : (outcomes ++ [(text, action)]).map Prod.fst = (text :: seen).reverse := by
    rw [map_append, answered.texts, reverse_cons]
    rfl
  have distinct : (text :: seen).Nodup := nodup_cons.mpr ⟨unseen, answered.distinct⟩
  have readable : ∀ other, other ∈ text :: seen -> (uuidOfString other).isSome = true := by
    intro other member
    rcases mem_cons.mp member with rfl | member
    · rw [parsed]
      rfl
    · exact answered.readable other member
  have earlier : ∀ {other : Uuid}, (Reports (text :: seen) other -> ∀ row,
      start.assignments.get? other = some row -> row.Active vpnNetworkId peerId -> ¬ row.Overdue now) ->
        db.assignments.get? other = start.assignments.get? other := by
    intro other current
    exact answered.untouched other fun reported => current ((reports_cons parsed).mpr (Or.inr reported))
  have resumed : (action.isResume = true -> ∃ row, start.assignments.get? id = some row ∧
      row.Active vpnNetworkId peerId ∧ ¬ row.Overdue now) ->
      ∀ other given, (other, given) ∈ outcomes ++ [(text, action)] -> given.isResume = true ->
        ∃ id row, uuidOfString other = some id ∧ start.assignments.get? id = some row ∧
          row.Active vpnNetworkId peerId ∧ ¬ row.Overdue now := by
    intro last other given member resumes
    rcases mem_append.mp member with member | member
    · exact answered.resumed other given member resumes
    · cases mem_singleton.mp member
      obtain ⟨row, facts⟩ := last resumes
      exact ⟨id, row, parsed, facts⟩
  -- an overdue assignment that the database has unchanged is not the one just answered
  have kept : (∀ row, db.assignments.get? id = some row -> row.Active vpnNetworkId peerId ->
      ¬ row.Overdue now) -> ∀ other row, Reports (text :: seen) other ->
        start.assignments.get? other = some row -> row.Active vpnNetworkId peerId -> row.Overdue now ->
          ∃ later, db.assignments.get? other = some later ∧ later.status.isTerminal = true := by
    intro settled other row reported found active overdue
    by_cases before : Reports seen other
    · exact answered.ended other row before found active overdue
    · have same := answered.untouched other fun reported => absurd reported before
      obtain rfl := ((reports_cons parsed).mp reported).resolve_right before
      exact absurd overdue (settled row (same.trans found) active)
  cases answers with
  | abandons stops inactive =>
    refine ⟨texts, distinct, readable, fun other => earlier, ?_, resumed ?_⟩
    · exact kept fun row found active => absurd active (inactive row found)
    · intro resumes
      rw [stops] at resumes
      cases resumes
  | ends stops found active overdue terminal same =>
    obtain ⟨isStart, _⟩ := answered.active found active
    refine ⟨texts, distinct, readable, fun other current => ?_, ?_, resumed ?_⟩
    · have different : other ≠ id := by
        rintro rfl
        exact current ((reports_cons parsed).mpr (Or.inl rfl)) _ isStart active overdue
      rw [same, get?_set_of_ne different, earlier current]
    · intro other row reported isRow activeRow overdueRow
      rw [same]
      rcases eq_or_ne other id with rfl | different
      · exact ⟨_, get?_set_self, terminal⟩
      · rw [get?_set_of_ne different]
        exact answered.ended other row (((reports_cons parsed).mp reported).resolve_left different)
          isRow activeRow overdueRow
    · intro resumes
      rw [stops] at resumes
      cases resumes
  | resumes found active current =>
    obtain ⟨isStart, _⟩ := answered.active found active
    refine ⟨texts, distinct, readable, fun other => earlier, ?_,
      resumed fun _ => ⟨_, isStart, active, current⟩⟩
    refine kept fun row isRow _ => ?_
    rw [Option.some.inj (isRow.symm.trans found)]
    exact current

theorem answered_nil (vpnNetworkId peerId : Uuid) (now : Time) (start : Database) :
    Answered vpnNetworkId peerId now start [] [] start where
  texts := rfl
  distinct := nodup_nil
  readable := nofun
  untouched := fun _ _ => rfl
  ended := fun _ _ ⟨_, member, _⟩ => absurd member not_mem_nil
  resumed := nofun

theorem reconcileLoop_answered {texts finalSeen : List String} {endedAt : Uuid -> Time}
    {finalOutcomes : List (String × ReconcileAction)} {after : Database}
    (answered : Answered vpnNetworkId peerId now start seen outcomes db)
    (run : reconcileLoop settings vpnNetworkId peerId now endedAt texts seen outcomes db =
      .ok (finalSeen, finalOutcomes, after)) :
    Answered vpnNetworkId peerId now start finalSeen finalOutcomes after ∧
      ∀ text, text ∈ finalSeen ↔ text ∈ seen ∨ text ∈ texts := by
  induction texts generalizing seen outcomes db with
  | nil =>
    cases run
    exact ⟨answered, fun text => by simp⟩
  | cons text rest ih =>
    rw [reconcileLoop] at run
    split_ifs at run with member
    · obtain ⟨answeredLater, same⟩ := ih answered run
      refine ⟨answeredLater, fun other => (same other).trans ?_⟩
      rw [mem_cons]
      constructor
      · rintro (before | later)
        · exact Or.inl before
        · exact Or.inr (Or.inr later)
      · rintro (before | rfl | later)
        · exact Or.inl before
        · exact Or.inl member
        · exact Or.inr later
    · cases parsed : uuidOfString text with
      | none =>
        rw [parsed] at run
        cases run
      | some id =>
        rw [parsed] at run
        obtain ⟨answeredLater, same⟩ := ih (answered.step member parsed
          (reconcileOne_answers settings db vpnNetworkId peerId now (endedAt id) id)) run
        refine ⟨answeredLater, fun other => (same other).trans ?_⟩
        rw [mem_cons, mem_cons, or_assoc, or_left_comm]

theorem reconcileLoop_returns {texts : List String} {endedAt : Uuid -> Time}
    (readable : ∀ text, text ∈ texts -> (uuidOfString text).isSome = true) :
    ∃ finalSeen finalOutcomes after,
      reconcileLoop settings vpnNetworkId peerId now endedAt texts seen outcomes db =
        .ok (finalSeen, finalOutcomes, after) := by
  induction texts generalizing seen outcomes db with
  | nil => exact ⟨_, _, _, rfl⟩
  | cons text rest ih =>
    have later := fun text member => readable text (mem_cons_of_mem _ member)
    rw [reconcileLoop]
    split_ifs
    · exact ih later
    · obtain ⟨id, parsed⟩ := Option.isSome_iff_exists.mp (readable text mem_cons_self)
      rw [parsed]
      exact ih later

end Pass

/-! ## The second pass -/

section Recovered

variable {seen : List String} {outcomes : List (String × ReconcileAction)}

theorem mem_recovered {text : String} {action : ReconcileAction} :
    (text, action) ∈ db.recovered vpnNetworkId peerId seen ↔
      ∃ id row, text = strOfUuid id ∧ action = resumeAction row true ∧
        strOfUuid id ∉ seen ∧ db.assignments.get? id = some row ∧ row.Active vpnNetworkId peerId := by
  rw [recovered, mem_filterMap]
  constructor
  · rintro ⟨id, member, given⟩
    obtain ⟨row, found, active⟩ := mem_select.mp member
    obtain ⟨isPeer, live⟩ := of_decide_eq_true active
    rw [found, Option.bind_some] at given
    split_ifs at given with skipped
    rw [not_or, not_not] at skipped
    obtain ⟨isText, isAction⟩ := Prod.mk.inj (Option.some.inj given)
    exact ⟨id, row, isText.symm, isAction.symm, skipped.1, found, isPeer, skipped.2,
      Bool.eq_false_of_not_eq_true live⟩
  · rintro ⟨id, row, rfl, rfl, unseen, found, active⟩
    refine ⟨id, mem_select.mpr ⟨row, found, decide_eq_true ⟨active.peer, ?_⟩⟩, ?_⟩
    · rw [active.live]
      exact Bool.false_ne_true
    · rw [found, Option.bind_some, if_neg]
      rw [not_or, not_not]
      exact ⟨unseen, active.room⟩

theorem mem_namedBy : id ∈ namedBy outcomes ↔
    ∃ text action, (text, action) ∈ outcomes ∧ uuidOfString text = some id := by
  rw [namedBy, mem_filterMap]
  exact Prod.exists

theorem uuidOfString_strOfUuid (id : Uuid) : uuidOfString (strOfUuid id) = some id :=
  Ledger.Reference.uuidOfString_strOfUuid id

theorem nodup_recovered : (namedBy (db.recovered vpnNetworkId peerId seen)).Nodup := by
  rw [namedBy, recovered, filterMap_filterMap]
  refine List.Nodup.filterMap ?_ nodup_select
  have only : ∀ id other, (((db.assignments.get? id).bind (fun assignment =>
      if strOfUuid id ∈ seen ∨ assignment.vpnNetworkId ≠ vpnNetworkId then none
      else some (strOfUuid id, resumeAction assignment true))).bind fun outcome =>
        uuidOfString outcome.1) = some other -> id = other := by
    intro id other same
    obtain ⟨outcome, given, parsed⟩ := Option.bind_eq_some_iff.mp same
    obtain ⟨row, _, given⟩ := Option.bind_eq_some_iff.mp given
    split_ifs at given
    rw [← Option.some.inj given, uuidOfString_strOfUuid] at parsed
    exact Option.some.inj parsed
  intro first second other isFirst isSecond
  exact (only first other isFirst).trans (only second other isSecond).symm

theorem mem_namedBy_recovered : id ∈ namedBy (db.recovered vpnNetworkId peerId seen) ↔
    strOfUuid id ∉ seen ∧ ∃ row, db.assignments.get? id = some row ∧
      row.Active vpnNetworkId peerId := by
  rw [mem_namedBy]
  constructor
  · rintro ⟨text, action, member, parsed⟩
    obtain ⟨other, row, isText, _, unseen, found, active⟩ := mem_recovered.mp member
    rw [isText, uuidOfString_strOfUuid] at parsed
    obtain rfl := Option.some.inj parsed
    exact ⟨unseen, row, found, active⟩
  · rintro ⟨unseen, row, found, active⟩
    exact ⟨_, _, mem_recovered.mpr ⟨id, row, rfl, rfl, unseen, found, active⟩,
      uuidOfString_strOfUuid id⟩

end Recovered

/-! ## Both passes -/

/-- What a call of `reconcile_for_peer` is for: it returns; what it lets the
provider resume is active and not overdue; every assignment that was reported
or is active is named by exactly one outcome, and no other outcome names an
assignment twice; and what was overdue has ended. -/
structure Reconciles (vpnNetworkId peerId : Uuid) (now : Time) (texts : List String)
    (before after : Database) (outcomes : List (String × ReconcileAction)) : Prop where
  resumes : ∀ text action, (text, action) ∈ outcomes -> action.isResume = true ->
    ∃ id row, uuidOfString text = some id ∧ after.assignments.get? id = some row ∧
      row.Active vpnNetworkId peerId ∧ ¬ row.Overdue now
  once : (namedBy outcomes).Nodup
  covers : ∀ id, (Reports texts id ∨ ∃ row, after.assignments.get? id = some row ∧
    row.Active vpnNetworkId peerId) -> id ∈ namedBy outcomes
  ends : ∀ id row, before.assignments.get? id = some row -> row.Active vpnNetworkId peerId ->
    row.Overdue now ->
      ∃ later, after.assignments.get? id = some later ∧ later.status.isTerminal = true

/-- The provider reports UUIDs, each in one spelling and the assignments that
it can resume in the usual one, and all its overdue assignments are among them. -/
structure ReportsWell (vpnNetworkId peerId : Uuid) (now : Time) (db : Database) (texts : List String) :
    Prop where
  readable : ∀ text, text ∈ texts -> (uuidOfString text).isSome = true
  spelled : ∀ first, first ∈ texts -> ∀ second, second ∈ texts ->
    uuidOfString first = uuidOfString second -> first = second
  usual : ∀ text, text ∈ texts -> ∀ id row, uuidOfString text = some id ->
    db.assignments.get? id = some row -> row.Active vpnNetworkId peerId -> ¬ row.Overdue now ->
      text = strOfUuid id
  overdue : ∀ id row, db.assignments.get? id = some row -> row.Active vpnNetworkId peerId ->
    row.Overdue now -> Reports texts id

section Calls

variable {texts seen : List String} {outcomes first : List (String × ReconcileAction)}
  {after : Database}

section

variable (answered : Answered vpnNetworkId peerId now db seen first after)

include answered

theorem Answered.named : (namedBy first).map some = seen.reverse.map uuidOfString := by
  have parts : namedBy first = seen.reverse.filterMap uuidOfString := by
    rw [← answered.texts, filterMap_map]
    rfl
  rw [parts, List.map_filterMap_some_eq_filter_map_isSome, List.filter_eq_self]
  intro parsed member
  obtain ⟨text, isSeen, rfl⟩ := mem_map.mp member
  exact answered.readable text (mem_reverse.mp isSeen)

theorem Answered.mem_named : id ∈ namedBy first ↔ Reports seen id := by
  have member : id ∈ namedBy first ↔ some id ∈ (namedBy first).map some := by
    simp
  rw [member, answered.named, mem_map, Reports]
  simp only [mem_reverse]

theorem Answered.nodup_named_iff :
    (namedBy first).Nodup ↔ ∀ first, first ∈ seen -> ∀ second, second ∈ seen ->
      uuidOfString first = uuidOfString second -> first = second := by
  rw [← nodup_map_iff (Option.some_injective _), answered.named, map_reverse, nodup_reverse]
  constructor
  · intro distinct first isFirst second isSecond same
    exact inj_on_of_nodup_map distinct isFirst isSecond same
  · intro injective
    exact answered.distinct.map_on injective

theorem Answered.kept {row : NodeTaskAssignment} (found : db.assignments.get? id = some row)
    (stays : Reports seen id -> ¬ row.Overdue now) : after.assignments.get? id = some row := by
  rw [answered.untouched id, found]
  intro reported other isOther _
  rw [Option.some.inj (isOther.symm.trans found)]
  exact stays reported

end

theorem reconcileForPeer_eq_ok {endedAt : Uuid -> Time}
    (returns : (db.reconcileForPeer settings vpnNetworkId peerId texts now endedAt).result =
      .ok outcomes) :
    ∃ seen first, reconcileLoop settings vpnNetworkId peerId now endedAt texts [] [] db =
        .ok (seen, first,
          (db.reconcileForPeer settings vpnNetworkId peerId texts now endedAt).state) ∧
      outcomes = first ++ (db.reconcileForPeer settings vpnNetworkId peerId texts now
        endedAt).state.recovered vpnNetworkId peerId seen := by
  rw [reconcileForPeer] at returns ⊢
  obtain ⟨written, run⟩ := transaction_result_eq_ok.mp returns
  rw [transaction_of_ok run]
  obtain ⟨⟨seen, first, after⟩, loop, same⟩ := bind_eq_ok.mp run
  obtain ⟨isOutcomes, rfl⟩ := Prod.mk.inj (Except.ok.inj same)
  exact ⟨seen, first, loop, isOutcomes.symm⟩

theorem reconcileForPeer_of_loop {endedAt : Uuid -> Time}
    (loop : reconcileLoop settings vpnNetworkId peerId now endedAt texts [] [] db =
      .ok (seen, first, after)) :
    db.reconcileForPeer settings vpnNetworkId peerId texts now endedAt =
      ⟨.ok (first ++ after.recovered vpnNetworkId peerId seen), after⟩ := by
  rw [reconcileForPeer]
  exact transaction_of_ok (bind_eq_ok.mpr ⟨_, loop, rfl⟩)

theorem reportsWell_of_reconciles (answered : Answered vpnNetworkId peerId now db seen first after)
    (same : ∀ text, text ∈ seen ↔ text ∈ texts)
    (reconciles : Reconciles vpnNetworkId peerId now texts db after
      (first ++ after.recovered vpnNetworkId peerId seen)) :
    ReportsWell vpnNetworkId peerId now db texts := by
  have once := reconciles.once
  rw [namedBy, filterMap_append, nodup_append'] at once
  obtain ⟨distinct, _, apart⟩ := once
  have spelled := answered.nodup_named_iff.mp distinct
  refine ⟨fun text member => answered.readable text ((same text).mpr member), ?_, ?_, ?_⟩
  · intro one isOne other isOther
    exact spelled one ((same one).mpr isOne) other ((same other).mpr isOther)
  · intro text member id row parsed found active current
    by_contra unusual
    have isSeen := (same text).mpr member
    have unseen : strOfUuid id ∉ seen := fun usual =>
      unusual (spelled text isSeen _ usual (parsed.trans (uuidOfString_strOfUuid id).symm))
    have later := answered.kept found fun _ => current
    exact apart (answered.mem_named.mpr ⟨text, isSeen, parsed⟩)
      (mem_namedBy_recovered.mpr ⟨unseen, row, later, active⟩)
  · intro id row found active overdue
    by_contra unreported
    have unnamed : ¬ Reports seen id := fun ⟨text, isSeen, parsed⟩ =>
      unreported ⟨text, (same text).mp isSeen, parsed⟩
    have unseen : strOfUuid id ∉ seen := fun usual =>
      unnamed ⟨_, usual, uuidOfString_strOfUuid id⟩
    have later := answered.kept found fun reported => absurd reported unnamed
    obtain ⟨other, isRow, parsed, isLater, _, current⟩ := reconciles.resumes _ _
      (mem_append_right _ (mem_recovered.mpr ⟨id, row, rfl, rfl, unseen, later, active⟩)) rfl
    rw [uuidOfString_strOfUuid] at parsed
    obtain rfl := Option.some.inj parsed
    rw [Option.some.inj (isLater.symm.trans later)] at current
    exact current overdue

theorem reconciles_of_reportsWell (answered : Answered vpnNetworkId peerId now db seen first after)
    (same : ∀ text, text ∈ seen ↔ text ∈ texts)
    (well : ReportsWell vpnNetworkId peerId now db texts) :
    Reconciles vpnNetworkId peerId now texts db after
      (first ++ after.recovered vpnNetworkId peerId seen) := by
  have reported : ∀ id, Reports seen id ↔ Reports texts id := fun id =>
    exists_congr fun text => and_congr_left fun _ => same text
  -- what is still active after the first pass is not overdue
  have current : ∀ id row, after.assignments.get? id = some row ->
      row.Active vpnNetworkId peerId -> db.assignments.get? id = some row ∧ ¬ row.Overdue now := by
    intro id row found active
    obtain ⟨before, settled⟩ := answered.active found active
    exact ⟨before, fun overdue =>
      settled ((reported id).mpr (well.overdue id row before active overdue)) overdue⟩
  refine ⟨?_, ?_, ?_, ?_⟩
  · intro text action member resumes
    rcases mem_append.mp member with member | member
    · obtain ⟨id, row, parsed, found, active, fits⟩ := answered.resumed text action member resumes
      exact ⟨id, row, parsed, answered.kept found fun _ => fits, active, fits⟩
    · obtain ⟨id, row, isText, _, _, found, active⟩ := mem_recovered.mp member
      rw [isText]
      exact ⟨id, row, uuidOfString_strOfUuid id, found, active, (current id row found active).2⟩
  · rw [namedBy, filterMap_append, nodup_append']
    refine ⟨answered.nodup_named_iff.mpr ?_, nodup_recovered, ?_⟩
    · intro one isOne other isOther
      exact well.spelled one ((same one).mp isOne) other ((same other).mp isOther)
    · intro id named handed
      obtain ⟨text, isSeen, parsed⟩ := answered.mem_named.mp named
      obtain ⟨unseen, row, found, active⟩ := mem_namedBy_recovered.mp handed
      obtain ⟨before, fits⟩ := current id row found active
      have usual := well.usual text ((same text).mp isSeen) id row parsed before active fits
      rw [usual] at isSeen
      exact unseen isSeen
  · intro id wanted
    rw [namedBy, filterMap_append, mem_append]
    by_cases named : Reports seen id
    · exact Or.inl (answered.mem_named.mpr named)
    · right
      obtain active := wanted.resolve_left fun reports => named ((reported id).mpr reports)
      exact mem_namedBy_recovered.mpr
        ⟨fun usual => named ⟨_, usual, uuidOfString_strOfUuid id⟩, active⟩
  · intro id row found active overdue
    exact answered.ended id row ((reported id).mpr (well.overdue id row found active overdue)) found
      active overdue

end Calls

/-- A provider is let resume only what it may, each assignment is answered once
and what is overdue ends, exactly when the provider reports UUIDs, each in one
spelling and those it can resume in the usual one, and all its overdue
assignments among them. -/
theorem reconcileForPeer_reconciles_iff (settings : Settings) (db : Database)
    (vpnNetworkId peerId : Uuid) (texts : List String) (now : Time) (endedAt : Uuid -> Time) :
    (∃ outcomes,
      (db.reconcileForPeer settings vpnNetworkId peerId texts now endedAt).result = .ok outcomes ∧
      Reconciles vpnNetworkId peerId now texts db
        (db.reconcileForPeer settings vpnNetworkId peerId texts now endedAt).state outcomes) ↔
      ReportsWell vpnNetworkId peerId now db texts := by
  constructor
  · rintro ⟨outcomes, returns, reconciles⟩
    obtain ⟨seen, first, loop, rfl⟩ := reconcileForPeer_eq_ok returns
    obtain ⟨answered, same⟩ := reconcileLoop_answered (answered_nil vpnNetworkId peerId now db) loop
    exact reportsWell_of_reconciles answered (fun text => (same text).trans (by simp)) reconciles
  · intro well
    obtain ⟨seen, first, after, loop⟩ := reconcileLoop_returns well.readable
    obtain ⟨answered, same⟩ := reconcileLoop_answered (answered_nil vpnNetworkId peerId now db) loop
    rw [reconcileForPeer_of_loop loop]
    exact ⟨_, rfl, reconciles_of_reportsWell answered (fun text => (same text).trans (by simp)) well⟩

end Database

/-! ## An expired lease that was not reported -/

namespace Database

open Sample

/-- The provider has claimed the assignment at time zero. -/
def claimedRoom : Database :=
  (assignedRoom.markClaimed settings assignmentId peerId none 0).2

theorem claimedRoom_expired : ∃ row, claimedRoom.assignments.get? assignmentId = some row ∧
    row.Active roomId peerId ∧ row.Overdue (seconds 301) := by
  have found : (claimedRoom.assignments.get? assignmentId).any (fun row =>
      decide (row.peerId = some peerId) && decide (row.vpnNetworkId = roomId) &&
        !row.status.isTerminal && row.leaseExpired (seconds 301)) = true := by
    decide +kernel
  obtain ⟨row, found, facts⟩ := (Option.any_eq_true _ _).mp found
  simp only [Bool.and_eq_true, decide_eq_true_eq, Bool.not_eq_true'] at facts
  obtain ⟨⟨⟨isPeer, isRoom⟩, live⟩, expired⟩ := facts
  exact ⟨row, found, ⟨isPeer, isRoom, live⟩, Or.inr expired⟩

/-- A provider that restarts after its lease and reports nothing is told to resume. -/
theorem expired_lease_resumed :
    ¬ ∃ outcomes,
      (claimedRoom.reconcileForPeer settings roomId peerId [] (seconds 301)
        (fun _ => seconds 301)).result = .ok outcomes ∧
      Reconciles roomId peerId (seconds 301) [] claimedRoom
        (claimedRoom.reconcileForPeer settings roomId peerId [] (seconds 301)
          (fun _ => seconds 301)).state outcomes := by
  rintro ⟨outcomes, returns, reconciles⟩
  obtain ⟨seen, first, loop, rfl⟩ := reconcileForPeer_eq_ok returns
  obtain ⟨answered, same⟩ := reconcileLoop_answered
    (answered_nil roomId peerId (seconds 301) claimedRoom) loop
  have well := reportsWell_of_reconciles answered (fun text => (same text).trans (by simp)) reconciles
  obtain ⟨row, found, active, overdue⟩ := claimedRoom_expired
  obtain ⟨text, member, _⟩ := well.overdue assignmentId row found active overdue
  exact absurd member not_mem_nil

end Database

end Rooms
end ZepGpu
