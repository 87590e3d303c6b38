import ZepGpu.Foundation.Runs
import ZepGpu.Rooms.Lifecycle

namespace ZepGpu
namespace Rooms

open Foundation Database Dict List

/-!
# Exclusive reservations

An active reservation is the only one of its share, and its claim is the holder
of the share.  A room task cannot take such a share, because its holder is set,
and cannot give it back, because the holder is no task.  What ends a
reservation frees its share only if the claim is still there.
-/

/-- The calls of the reservation service, with the places where the rest of the
program writes the rows that it reads. -/
inductive TrainingCall where
  | reservePlan (runId : Uuid) (plan : PlacementPlan) (owner : String) (ttlSeconds : Int)
      (now : Time) (newId : Uuid -> Uuid)
  | renew (runId workerId : Uuid) (owner : String) (ttlSeconds : Int) (current : Time)
  | release (runId : Uuid) (owner reason : String) (now : Time)
  | releaseTerminal (runId : Uuid) (reason : String) (now : Time)
  | cleanupExpired (current : Time)
  | assignWorker (reservationId workerId : Uuid)
  | replaceRuns (runs : Dict Uuid TrainingRun) (workers : Dict Uuid TrainingWorker)
      (islands : Dict Uuid TrainingIsland)

def performTraining (db : Database) : TrainingCall -> Database
  | .reservePlan runId plan owner ttlSeconds now newId =>
    match db.runs.get? runId with
    | none => db
    | some run => (db.reservePlan runId run plan owner ttlSeconds now newId).state
  | .renew runId workerId owner ttlSeconds current =>
    (db.renew runId workerId owner ttlSeconds current).state
  | .release runId owner reason now => (db.release runId owner reason now).state
  | .releaseTerminal runId reason now => (db.releaseTerminal runId reason now).state
  | .cleanupExpired current => (db.cleanupExpired current).2
  | .assignWorker reservationId workerId => db.assignWorker reservationId workerId
  | .replaceRuns runs workers islands => { db with runs, workers, islands }

/-- A reservation call, or what the generic scheduler does to a share. -/
inductive ReservationCall where
  | training (call : TrainingCall)
  /-- A generic allocation of a share. -/
  | allocate (shareId : Uuid) (holder : Option String)
  | lifecycle (call : LifecycleCall)

def performReservation (settings : Settings) (db : Database) : ReservationCall -> Database
  | .training call => performTraining db call
  | .allocate shareId holder => (db.updateState shareId .allocated holder).2
  | .lifecycle call => db.performLifecycle settings call

/-- The reservation is active. -/
def Active (db : Database) (id : Uuid) (reservation : TrainingGpuReservation) : Prop :=
  db.reservations.get? id = some reservation ∧ reservation.state = .active

/-- A share has at most one active reservation, and that one holds it. -/
structure Reserved (db : Database) : Prop where
  single : ∀ {id other first second}, Active db id first -> Active db other second ->
    first.gpuShareId = second.gpuShareId -> id = other
  held : ∀ {id reservation}, Active db id reservation -> ∃ share,
    db.shares.get? reservation.gpuShareId = some share ∧
      share.currentTaskId = some reservation.claim

/-- An active reservation of the share ends, whose claim the share still carries. -/
def EndsClaim (db after : Database) (shareId : Uuid) (share : GpuShare) : Prop :=
  ∃ id reservation, Active db id reservation ∧ reservation.gpuShareId = shareId ∧
    share.currentTaskId = some reservation.claim ∧
    ∃ ended, after.reservations.get? id = some ended ∧ ended.state ≠ .active

/-- A share that changes carried the claim of an active reservation that is not
active any more. -/
def Frees (db after : Database) : Prop :=
  ∀ shareId share, db.shares.get? shareId = some share ->
    after.shares.get? shareId = some share ∨ EndsClaim db after shareId share

/-- A share that changes was held by nobody, or by the claim of an active
reservation that is not active any more. -/
def Gives (db after : Database) : Prop :=
  ∀ shareId share, db.shares.get? shareId = some share ->
    after.shares.get? shareId = some share ∨ share.currentTaskId = none ∨
      EndsClaim db after shareId share

section Invariant

variable {settings : Settings} {db middle after : Database} {id shareId : Uuid}
  {reservation : TrainingGpuReservation}

theorem Reserved.of_holders (holds : Reserved db) (same : after.reservations = db.reservations)
    (kept : ∀ {id reservation}, Active db id reservation ->
      ∀ share, db.shares.get? reservation.gpuShareId = some share ->
        share.currentTaskId = some reservation.claim ->
        ∃ later, after.shares.get? reservation.gpuShareId = some later ∧
          later.currentTaskId = some reservation.claim) : Reserved after := by
  have back : ∀ {id reservation}, Active after id reservation -> Active db id reservation := by
    intro id reservation active
    unfold Active at active
    rw [same] at active
    exact active
  constructor
  · exact fun first second => holds.single (back first) (back second)
  · intro id reservation active
    rcases holds.held (back active) with ⟨share, found, holder⟩
    exact kept (back active) share found holder

theorem Reserved.allocate (holds : Reserved db) (shareId : Uuid) (holder : Option String) :
    Reserved (db.updateState shareId .allocated holder).2 := by
  unfold updateState
  cases isShare : db.shares.get? shareId with
  | none => exact holds
  | some taken =>
    dsimp only
    split_ifs with busy
    · exact holds
    · refine Reserved.of_holders holds rfl ?_
      intro id reservation active share found claim
      refine ⟨share, ?_, claim⟩
      apply (get?_set_of_ne _).trans found
      rintro rfl
      rw [isShare] at found
      cases found
      rw [claim] at busy
      exact busy ⟨rfl, Or.inr rfl⟩

theorem Reserved.reaches {permitted : Database -> Uuid -> Change -> Prop} (holds : Reserved db)
    (reached : Reaches settings permitted db after) : Reserved after := by
  induction reached with
  | refl => exact holds
  | @tail before _ _ step ih =>
    rcases step with ⟨id, change, _, assignment, _, guard, rfl⟩
    have effect := change.effect settings before id guard
    apply ih.of_holders effect.rest.reservations
    intro id reservation _ share found claim
    rcases effect.shares with ⟨same, _⟩ | ⟨_, freed, other, _, isFreed, holder, newShares, _⟩
    · rw [same]
      exact ⟨share, found, claim⟩
    · refine ⟨share, ?_, claim⟩
      rw [newShares]
      apply (get?_set_of_ne _).trans found
      rintro rfl
      rw [isFreed] at found
      cases found
      rw [claim] at holder
      rcases holder with nobody | task
      · cases nobody
      · exact reservationClaim_ne_strOfUuid _ _ _ (Option.some.inj task)

/-- A call that ends reservations and gives their shares back. -/
structure Ends (db after : Database) : Prop where
  frees : Frees db after
  back : ∀ {id reservation}, Active after id reservation -> Active db id reservation
  dead : ∀ {id reservation}, db.reservations.get? id = some reservation ->
    reservation.state ≠ .active -> ∃ later, after.reservations.get? id = some later ∧
      later.state ≠ .active

theorem Ends.refl (db : Database) : Ends db db where
  frees := fun _ _ found => Or.inl found
  back := fun active => active
  dead := fun found ended => ⟨_, found, ended⟩

theorem Ends.trans (first : Ends db middle) (second : Ends middle after) : Ends db after where
  frees := by
    intro shareId share found
    rcases first.frees shareId share found with same | ⟨id, reservation, active, onShare, claim,
      ended, isEnded, dead⟩
    · rcases second.frees shareId share same with same | ⟨id, reservation, active, rest⟩
      · exact Or.inl same
      · exact Or.inr ⟨id, reservation, first.back active, rest⟩
    · exact Or.inr ⟨id, reservation, active, onShare, claim, second.dead isEnded dead⟩
  back := fun active => first.back (second.back active)
  dead := by
    intro id reservation found ended
    rcases first.dead found ended with ⟨later, isLater, dead⟩
    exact second.dead isLater dead

theorem freeClaimed_eq (db : Database) (shareId : Uuid) (claim : String) :
    db.freeClaimed shareId claim = { db with shares := (db.freeClaimed shareId claim).shares } := by
  unfold freeClaimed
  cases db.shares.get? shareId with
  | none => rfl
  | some share =>
    dsimp only
    split_ifs
    · rfl
    · rfl

theorem freeClaimed_shares (claim : String) {share : GpuShare}
    (found : db.shares.get? shareId = some share) (other : Uuid) :
    (db.freeClaimed other claim).shares.get? shareId = some share ∨
      (shareId = other ∧ share.currentTaskId = some claim) := by
  unfold freeClaimed
  cases isShare : db.shares.get? other with
  | none => exact Or.inl found
  | some held =>
    dsimp only
    split_ifs with carries
    · rcases eq_or_ne shareId other with rfl | different
      · rw [found] at isShare
        cases isShare
        exact Or.inr ⟨rfl, carries⟩
      · exact Or.inl ((get?_set_of_ne different).trans found)
    · exact Or.inl found

section Finish

variable {state : TrainingReservationState} {now : Time} {reason : String}

theorem finishReservation_reservations :
    (db.finishReservation id reservation state now reason).reservations =
      db.reservations.set id (reservation.finished state now reason) := by
  unfold finishReservation
  rw [freeClaimed_eq]
  rfl

theorem active_of_finished (ends : state ≠ .active) {other : Uuid} {later : TrainingGpuReservation}
    (active : Active (db.finishReservation id reservation state now reason) other later) :
    other ≠ id ∧ Active db other later := by
  unfold Active at active
  rw [finishReservation_reservations] at active
  rcases eq_or_ne other id with rfl | different
  · rw [get?_set_self] at active
    cases active.1
    exact absurd active.2 ends
  · rw [get?_set_of_ne different] at active
    exact ⟨different, active⟩

theorem Reserved.finishReservation (holds : Reserved db) (active : Active db id reservation)
    (ends : state ≠ .active) :
    Reserved (db.finishReservation id reservation state now reason) where
  single := fun first second =>
    holds.single (active_of_finished ends first).2 (active_of_finished ends second).2
  held := by
    intro other later still
    rcases active_of_finished ends still with ⟨different, before⟩
    rcases holds.held before with ⟨share, found, claim⟩
    refine ⟨share, ?_, claim⟩
    have found : (db.setReservation id (reservation.finished state now reason)).shares.get?
        later.gpuShareId = some share := found
    rcases freeClaimed_shares reservation.claim found reservation.gpuShareId with same | ⟨onShare, _⟩
    · exact same
    · exact absurd (holds.single before active onShare) different

theorem ends_finishReservation (active : Active db id reservation) (ends : state ≠ .active) :
    Ends db (db.finishReservation id reservation state now reason) where
  frees := by
    intro shareId share found
    have found : (db.setReservation id (reservation.finished state now reason)).shares.get? shareId =
        some share := found
    rcases freeClaimed_shares reservation.claim found reservation.gpuShareId with
      same | ⟨onShare, carries⟩
    · exact Or.inl same
    · refine Or.inr ⟨id, reservation, active, onShare.symm, carries,
        reservation.finished state now reason, ?_, ends⟩
      rw [finishReservation_reservations, get?_set_self]
  back := fun still => (active_of_finished ends still).2
  dead := by
    intro other later found dead
    rw [finishReservation_reservations]
    rcases eq_or_ne other id with rfl | different
    · exact ⟨_, get?_set_self, ends⟩
    · exact ⟨later, (get?_set_of_ne different).trans found, dead⟩

/-- The reservations of a list are active, and stay so until their turn. -/
def AllActive (db : Database) (ids : List Uuid) : Prop :=
  ids.Nodup ∧ ∀ id, id ∈ ids -> ∃ reservation, Active db id reservation

theorem AllActive.tail {rest : List Uuid} (all : AllActive db (id :: rest)) :
    AllActive (db.finishReservation id reservation state now reason) rest := by
  rcases all with ⟨distinct, active⟩
  refine ⟨(nodup_cons.mp distinct).2, fun other member => ?_⟩
  have different : other ≠ id := by
    rintro rfl
    exact (nodup_cons.mp distinct).1 member
  rcases active other (mem_cons_of_mem _ member) with ⟨later, found, state⟩
  refine ⟨later, ?_, state⟩
  rw [finishReservation_reservations]
  exact (get?_set_of_ne different).trans found

theorem finishAll_ends (ids : List Uuid) (holds : Reserved db) (all : AllActive db ids)
    (ends : state ≠ .active) :
    Reserved (finishAll state now reason ids db) ∧ Ends db (finishAll state now reason ids db) := by
  induction ids generalizing db with
  | nil => exact ⟨holds, .refl db⟩
  | cons id rest ih =>
    rcases all.2 id mem_cons_self with ⟨reservation, active⟩
    unfold finishAll
    rw [active.1]
    rcases ih (holds.finishReservation active ends) all.tail with ⟨later, after⟩
    exact ⟨later, (ends_finishReservation active ends).trans after⟩

theorem reclaim_ends (ids : List Uuid) (holds : Reserved db) (all : AllActive db ids)
    (run : reclaim now ids db = .ok after) : Reserved after ∧ Ends db after := by
  induction ids generalizing db with
  | nil =>
    cases run
    exact ⟨holds, .refl _⟩
  | cons id rest ih =>
    rcases all.2 id mem_cons_self with ⟨reservation, active⟩
    unfold reclaim at run
    rw [active.1] at run
    dsimp only at run
    split_ifs at run
    rcases ih (holds.finishReservation active (by decide)) all.tail run with ⟨later, ends⟩
    exact ⟨later, (ends_finishReservation active (by decide)).trans ends⟩

end Finish

theorem mem_orderByShare {ids : List Uuid} : id ∈ db.orderByShare ids ↔ id ∈ ids :=
  mem_insertionSort _

theorem nodup_orderByShare {ids : List Uuid} (distinct : ids.Nodup) : (db.orderByShare ids).Nodup :=
  (perm_insertionSort _ _).nodup_iff.mpr distinct

theorem allActive_select {condition : TrainingGpuReservation -> Bool}
    (active : ∀ reservation, condition reservation = true -> reservation.state = .active) :
    AllActive db (db.orderByShare (select db.reservations condition)) := by
  refine ⟨nodup_orderByShare nodup_select, fun id member => ?_⟩
  rw [mem_orderByShare, mem_select] at member
  rcases member with ⟨reservation, found, holds⟩
  exact ⟨reservation, found, active reservation holds⟩

theorem allActive_ofRun {runId : Uuid} {condition : TrainingGpuReservation -> Bool}
    (active : ∀ reservation, condition reservation = true -> reservation.state = .active) :
    AllActive db (db.ofRun runId condition) := by
  apply allActive_select
  intro reservation holds
  exact active reservation (of_decide_eq_true holds).2

theorem releaseBody_ends {runId : Uuid} {enforcedOwner : Option String} {reason : String} {now : Time}
    {count : Nat} (holds : Reserved db)
    (run : db.releaseBody runId enforcedOwner reason now = .ok (count, after)) :
    Reserved after ∧ Ends db after := by
  rcases raiseIf_bind_eq_ok.mp run with ⟨_, same⟩
  cases same
  exact finishAll_ends _ holds (allActive_ofRun (fun _ active => of_decide_eq_true active)) (by decide)

theorem cleanupLoop_ends (current : Time) (runIds : List Uuid) (count : Nat) (holds : Reserved db) :
    Reserved (cleanupLoop current runIds (count, db)).2 ∧
      Ends db (cleanupLoop current runIds (count, db)).2 := by
  induction runIds generalizing db count with
  | nil => exact ⟨holds, .refl db⟩
  | cons runId rest ih =>
    unfold cleanupLoop
    cases db.runs.get? runId with
    | none => exact ih count holds
    | some run =>
      have finished := @finishAll_ends db .expired current "reservation TTL expired"
        (db.ofRun runId (fun reservation =>
          reservation.isActive ∧ reservation.expiresAt ≤ current)) holds
        (allActive_ofRun (fun reservation expired =>
          of_decide_eq_true (of_decide_eq_true expired).1)) (by decide)
      rcases ih _ finished.1 with ⟨later, ends⟩
      exact ⟨later, finished.2.trans ends⟩

/-- A call that takes free shares for new reservations. -/
structure Claims (db after : Database) : Prop where
  free : ∀ shareId share, db.shares.get? shareId = some share ->
    after.shares.get? shareId = some share ∨ share.currentTaskId = none
  kept : ∀ {id reservation}, db.reservations.get? id = some reservation ->
    after.reservations.get? id = some reservation

theorem Claims.gives (claims : Claims middle after) (ends : Ends db middle) : Gives db after := by
  intro shareId share found
  rcases ends.frees shareId share found with same | ⟨id, reservation, active, onShare, claim, ended,
    isEnded, dead⟩
  · rcases claims.free shareId share same with same | nobody
    · exact Or.inl same
    · exact Or.inr (Or.inl nobody)
  · exact Or.inr (Or.inr ⟨id, reservation, active, onShare, claim, ended, claims.kept isEnded, dead⟩)

theorem Reserved.claim {share : GpuShare} (holds : Reserved db)
    (found : db.shares.get? shareId = some share) (free : share.currentTaskId = none)
    (onShare : reservation.gpuShareId = shareId) (fresh : id ∉ db.reservations.keys) :
    Reserved ((db.setShare shareId (share.heldBy reservation.claim)).setReservation id reservation) ∧
      Claims db
        ((db.setShare shareId (share.heldBy reservation.claim)).setReservation id reservation) := by
  have cases_active : ∀ {other later}, Active ((db.setShare shareId
      (share.heldBy reservation.claim)).setReservation id reservation) other later ->
      (other = id ∧ later = reservation) ∨ (Active db other later ∧ later.gpuShareId ≠ shareId) := by
    intro other later active
    rcases eq_or_ne other id with rfl | different
    · have same : some reservation = some later := get?_set_self.symm.trans active.1
      exact Or.inl ⟨rfl, (Option.some.inj same).symm⟩
    · have before : Active db other later :=
        ⟨(get?_set_of_ne different).symm.trans active.1, active.2⟩
      refine Or.inr ⟨before, ?_⟩
      rintro rfl
      rcases holds.held before with ⟨held, isHeld, claim⟩
      rw [found] at isHeld
      cases isHeld
      rw [free] at claim
      cases claim
  constructor
  · constructor
    · intro first second firstRow secondRow firstActive secondActive same
      rcases cases_active firstActive with ⟨rfl, rfl⟩ | ⟨firstBefore, apart⟩
      · rcases cases_active secondActive with ⟨rfl, _⟩ | ⟨_, apart⟩
        · rfl
        · exact absurd (same.symm.trans onShare) apart
      · rcases cases_active secondActive with ⟨rfl, rfl⟩ | ⟨secondBefore, _⟩
        · exact absurd (same.trans onShare) apart
        · exact holds.single firstBefore secondBefore same
    · intro other later active
      rcases cases_active active with ⟨rfl, rfl⟩ | ⟨before, apart⟩
      · rw [onShare]
        exact ⟨_, get?_set_self, rfl⟩
      · rcases holds.held before with ⟨held, isHeld, claim⟩
        exact ⟨held, (get?_set_of_ne apart).trans isHeld, claim⟩
  · constructor
    · intro other held isHeld
      rcases eq_or_ne other shareId with rfl | different
      · rw [found] at isHeld
        cases isHeld
        exact Or.inr free
      · exact Or.inl ((get?_set_of_ne different).trans isHeld)
    · intro other later isLater
      apply (get?_set_of_ne _).trans isLater
      rintro rfl
      exact fresh (mem_keys_of_get? isLater)

theorem checkShare_free {plan : PlacementPlan} {share : GpuShare} {selected : Placement.SelectedGpu}
    (passed : checkShare plan shareId share selected = .ok ()) :
    share.state = .idle ∧ share.currentTaskId = none := by
  unfold checkShare at passed
  rcases raiseIf_bind_eq_ok.mp passed with ⟨_, passed⟩
  rcases raiseIf_bind_eq_ok.mp passed with ⟨_, passed⟩
  rcases raiseIf_bind_eq_ok.mp passed with ⟨available, _⟩
  simp only [ne_eq, not_or, not_not] at available
  exact available

theorem claimShares_claims {runId : Uuid} {run : TrainingRun} {plan : PlacementPlan} {owner : String}
    {expiresAt : Time} {newId : Uuid -> Uuid} (shareIds : List Uuid) (holds : Reserved db)
    (claimed : claimShares runId run plan owner expiresAt newId shareIds db = .ok after) :
    Reserved after ∧ Claims db after := by
  induction shareIds generalizing db with
  | nil =>
    cases claimed
    exact ⟨holds, fun _ _ found => Or.inl found, fun found => found⟩
  | cons shareId rest ih =>
    unfold claimShares at claimed
    cases found : db.shares.get? shareId with
    | none =>
      rw [found] at claimed
      exact ih holds claimed
    | some share =>
      rw [found] at claimed
      dsimp only at claimed
      cases chosen : plan.selectedGpus.reverse.find? (fun item =>
          item.gpuShareId = strOfUuid shareId) with
      | none =>
        rw [chosen] at claimed
        cases claimed
      | some selected =>
        rw [chosen] at claimed
        rcases bind_eq_ok.mp claimed with ⟨_, checked, claimed⟩
        rcases raiseIf_bind_eq_ok.mp claimed with ⟨fresh, claimed⟩
        have first := @Reserved.claim db (newId shareId) shareId {
            runId := runId
            islandId := db.islandOf runId plan selected
            vpnNetworkId := run.vpnNetworkId
            peerId := share.peerId
            gpuShareId := shareId
            reservationOwner := owner
            state := .active
            expiresAt := expiresAt } share holds found (checkShare_free checked).2 rfl
          fresh
        rcases ih first.1 claimed with ⟨later, claims⟩
        refine ⟨later, ?_, fun isRow => claims.kept (first.2.kept isRow)⟩
        intro other held isHeld
        rcases first.2.free other held isHeld with same | nobody
        · exact claims.free other held same
        · exact Or.inr nobody

theorem reservePlanBody_gives {runId : Uuid} {run : TrainingRun} {plan : PlacementPlan}
    {owner : String} {ttlSeconds : Int} {now : Time} {newId : Uuid -> Uuid} {ids : List Uuid}
    (holds : Reserved db)
    (reserved : db.reservePlanBody runId run plan owner ttlSeconds now newId = .ok (ids, after)) :
    Reserved after ∧ Gives db after := by
  rcases reservePlanBody_eq_ok reserved with ⟨middle, shareIds, shares, reclaimed, claimed⟩
  rcases reclaim_ends _ holds (allActive_select (fun reservation active =>
    of_decide_eq_true (of_decide_eq_true active).2)) reclaimed with ⟨between, ends⟩
  rcases claimShares_claims _ between claimed with ⟨later, claims⟩
  exact ⟨later, claims.gives ends⟩

/-- No reservation expires earlier, and none that is not active changes. -/
def Renewed (db after : Database) : Prop :=
  ∀ id reservation, db.reservations.get? id = some reservation -> ∃ later,
    after.reservations.get? id = some later ∧ later.state = reservation.state ∧
      reservation.expiresAt ≤ later.expiresAt ∧ (reservation.state ≠ .active -> later = reservation)

theorem Renewed.refl (db : Database) : Renewed db db :=
  fun _ reservation found => ⟨reservation, found, rfl, le_rfl, fun _ => rfl⟩

theorem Reserved.setReservation {later : TrainingGpuReservation} (holds : Reserved db)
    (found : db.reservations.get? id = some reservation) (state : later.state = reservation.state)
    (onShare : later.gpuShareId = reservation.gpuShareId) (claim : later.claim = reservation.claim) :
    Reserved (db.setReservation id later) := by
  have back : ∀ {other row}, Active (db.setReservation id later) other row ->
      ∃ before, Active db other before ∧ before.gpuShareId = row.gpuShareId ∧
        before.claim = row.claim := by
    intro other row active
    rcases eq_or_ne other id with rfl | different
    · have same : some later = some row := get?_set_self.symm.trans active.1
      cases same
      exact ⟨reservation, ⟨found, state.symm.trans active.2⟩, onShare.symm, claim.symm⟩
    · exact ⟨row, ⟨(get?_set_of_ne different).symm.trans active.1, active.2⟩, rfl, rfl⟩
  constructor
  · intro first second firstRow secondRow firstActive secondActive same
    rcases back firstActive with ⟨_, firstBefore, firstShare, _⟩
    rcases back secondActive with ⟨_, secondBefore, secondShare, _⟩
    exact holds.single firstBefore secondBefore (firstShare.trans (same.trans secondShare.symm))
  · intro other row active
    rcases back active with ⟨before, isActive, isShare, isClaim⟩
    rcases holds.held isActive with ⟨share, isRow, carries⟩
    exact ⟨share, isShare ▸ isRow, isClaim ▸ carries⟩

theorem extendAll_renewed (expiresAt : Time) (ids : List Uuid) (holds : Reserved db)
    (all : AllActive db ids) :
    Reserved (extendAll expiresAt ids db) ∧ Renewed db (extendAll expiresAt ids db) := by
  induction ids generalizing db with
  | nil => exact ⟨holds, .refl db⟩
  | cons id rest ih =>
    rcases all.2 id mem_cons_self with ⟨reservation, active⟩
    unfold extendAll
    rw [active.1]
    dsimp only
    generalize isLater : { reservation with expiresAt := max reservation.expiresAt expiresAt } = later
    have others : AllActive (db.setReservation id later) rest := by
      refine ⟨(nodup_cons.mp all.1).2, fun other member => ?_⟩
      have different : other ≠ id := by
        rintro rfl
        exact (nodup_cons.mp all.1).1 member
      rcases all.2 other (mem_cons_of_mem _ member) with ⟨row, found, state⟩
      exact ⟨row, (get?_set_of_ne different).trans found, state⟩
    have next : Reserved (db.setReservation id later) :=
      holds.setReservation active.1 (by rw [← isLater]) (by rw [← isLater]) (by rw [← isLater]; rfl)
    rcases ih next others with ⟨held, renewed⟩
    refine ⟨held, fun other row found => ?_⟩
    rcases eq_or_ne other id with rfl | different
    · rw [active.1] at found
      cases found
      rcases renewed other later get?_set_self with ⟨last, isLast, state, further, _⟩
      refine ⟨last, isLast, ?_, ?_, fun dead => absurd active.2 dead⟩
      · rw [state, ← isLater]
      · apply le_trans _ further
        rw [← isLater]
        exact le_max_left _ _
    · exact renewed other row ((get?_set_of_ne different).trans found)

theorem renewBody_renewed {runId workerId : Uuid} {owner : String} {ttlSeconds : Int}
    {current : Time} {count : Nat} (holds : Reserved db)
    (run : db.renewBody runId workerId owner ttlSeconds current = .ok (count, after)) :
    Reserved after ∧ Renewed db after := by
  unfold renewBody at run
  dsimp only at run
  split at run
  · cases run
  · rcases raiseIf_bind_eq_ok.mp run with ⟨_, run⟩
    split at run
    · cases run
    · rcases raiseIf_bind_eq_ok.mp run with ⟨_, run⟩
      rcases raiseIf_bind_eq_ok.mp run with ⟨_, run⟩
      rcases raiseIf_bind_eq_ok.mp run with ⟨_, same⟩
      cases same
      exact extendAll_renewed _ _ holds (allActive_ofRun (fun reservation active =>
        of_decide_eq_true (of_decide_eq_true active).2))

theorem renew_renewed (holds : Reserved db) (runId workerId : Uuid) (owner : String)
    (ttlSeconds : Int) (current : Time) :
    Reserved (db.renew runId workerId owner ttlSeconds current).state ∧
      Renewed db (db.renew runId workerId owner ttlSeconds current).state := by
  unfold Database.renew
  apply @transaction_preserves Database _ _ (fun after => Reserved after ∧ Renewed db after) _ _
    ⟨holds, .refl db⟩
  intro count written run
  exact renewBody_renewed holds run

def TrainingCall.EndsReservations : TrainingCall -> Prop
  | .release _ _ _ _ | .releaseTerminal _ _ _ | .cleanupExpired _ => True
  | .reservePlan _ _ _ _ _ _ | .renew _ _ _ _ _ | .assignWorker _ _ | .replaceRuns _ _ _ => False

theorem Reserved.ending (holds : Reserved db) (call : TrainingCall) (ends : call.EndsReservations) :
    Reserved (performTraining db call) ∧ Frees db (performTraining db call) := by
  have released : ∀ runId enforcedOwner reason now,
      Reserved (transaction (fun db => db.releaseBody runId enforcedOwner reason now) db).state ∧
        Frees db (transaction (fun db => db.releaseBody runId enforcedOwner reason now) db).state := by
    intro runId enforcedOwner reason now
    apply @transaction_preserves Database TrainingReservationError Nat
      (fun after => Reserved after ∧ Frees db after) _ _ ⟨holds, (Ends.refl db).frees⟩
    intro count written run
    rcases releaseBody_ends holds run with ⟨later, ends⟩
    exact ⟨later, ends.frees⟩
  cases call with
  | release runId owner reason now => exact released _ _ _ _
  | releaseTerminal runId reason now => exact released _ _ _ _
  | cleanupExpired current =>
    rcases cleanupLoop_ends current _ 0 holds with ⟨later, ends⟩
    exact ⟨later, ends.frees⟩
  | reservePlan runId plan owner ttlSeconds now newId => exact ends.elim
  | renew runId workerId owner ttlSeconds current => exact ends.elim
  | assignWorker reservationId workerId => exact ends.elim
  | replaceRuns runs workers islands => exact ends.elim

theorem Reserved.reservePlan (holds : Reserved db) (runId : Uuid) (plan : PlacementPlan)
    (owner : String) (ttlSeconds : Int) (now : Time) (newId : Uuid -> Uuid) :
    Reserved (performTraining db (.reservePlan runId plan owner ttlSeconds now newId)) ∧
      Gives db (performTraining db (.reservePlan runId plan owner ttlSeconds now newId)) := by
  have stays : Reserved db ∧ Gives db db := ⟨holds, fun _ _ found => Or.inl found⟩
  simp only [Rooms.performTraining]
  cases db.runs.get? runId with
  | none => exact stays
  | some run =>
    unfold Database.reservePlan
    apply @transaction_preserves Database TrainingReservationError (List Uuid)
      (fun after => Reserved after ∧ Gives db after) _ _ stays
    intro ids written reserved
    exact reservePlanBody_gives holds reserved

theorem Reserved.performTraining (holds : Reserved db) (call : TrainingCall) :
    Reserved (performTraining db call) := by
  cases call with
  | reservePlan runId plan owner ttlSeconds now newId =>
    exact (holds.reservePlan runId plan owner ttlSeconds now newId).1
  | release runId owner reason now =>
    exact (holds.ending (.release runId owner reason now) trivial).1
  | releaseTerminal runId reason now =>
    exact (holds.ending (.releaseTerminal runId reason now) trivial).1
  | cleanupExpired current => exact (holds.ending (.cleanupExpired current) trivial).1
  | renew runId workerId owner ttlSeconds current => exact (renew_renewed holds _ _ _ _ _).1
  | assignWorker reservationId workerId =>
    simp only [Rooms.performTraining]
    unfold Database.assignWorker
    cases found : db.reservations.get? reservationId with
    | none => exact holds
    | some reservation => exact holds.setReservation found rfl rfl rfl
  | replaceRuns runs workers islands => exact holds.of_holders rfl (fun _ share found claim =>
    ⟨share, found, claim⟩)

theorem Reserved.perform (holds : Reserved db) (call : ReservationCall) :
    Reserved (performReservation settings db call) := by
  cases call with
  | training call => exact holds.performTraining call
  | allocate shareId holder => exact holds.allocate shareId holder
  | lifecycle call => exact holds.reaches (performLifecycle_reaches settings db call)

/-- What holds of every state of a run of these calls, and of every call that
is made in it. -/
structure ReservationLaws (db : Database) : Prop where
  reserved : Reserved db
  ending : ∀ call, TrainingCall.EndsReservations call -> Frees db (performTraining db call)
  reserving : ∀ runId plan owner ttlSeconds now newId,
    Gives db (performTraining db (.reservePlan runId plan owner ttlSeconds now newId))
  renewal : ∀ runId workerId owner ttlSeconds current,
    Renewed db (db.renew runId workerId owner ttlSeconds current).state
  raising : ∀ runId run plan owner ttlSeconds now newId error,
    (db.reservePlan runId run plan owner ttlSeconds now newId).result = .error error ->
      (db.reservePlan runId run plan owner ttlSeconds now newId).state = db

/-- After every run of reservations, allocations and releases an active reservation is
the only one of its share and holds it, whatever was tried in between. -/
theorem reservations_exclusive (settings : Settings) (db : Database) (calls : List ReservationCall)
    (inactive : ∀ id reservation, db.reservations.get? id = some reservation ->
      reservation.state ≠ .active) :
    ReservationLaws (calls.foldl (performReservation settings) db) := by
  have start : Reserved db := by
    constructor
    · exact fun first => absurd first.2 (inactive _ _ first.1)
    · exact fun active => absurd active.2 (inactive _ _ active.1)
  have holds : Reserved (calls.foldl (performReservation settings) db) :=
    foldl_invariant start (fun _ call holds => holds.perform call)
  refine ⟨holds, fun call ends => (holds.ending call ends).2, fun _ _ _ _ _ _ =>
    (holds.reservePlan _ _ _ _ _ _).2, fun _ _ _ _ _ => (renew_renewed holds _ _ _ _ _).2, ?_⟩
  intro runId run plan owner ttlSeconds now newId error raised
  unfold reservePlan at raised ⊢
  rcases transaction_cases (fun db => reservePlanBody db runId run plan owner ttlSeconds now newId)
    (calls.foldl (performReservation settings) db) with ⟨_, same⟩ | ⟨_, _, _, same⟩
  · rw [same]
  · rw [same] at raised
    cases raised

end Invariant

open Sample

def plan : PlacementPlan where
  roomId := strOfUuid roomId
  status := .capable
  selectedGpus := [⟨strOfUuid peerId, strOfUuid shareId, 0, 8192, ""⟩]

def contested : List ReservationCall :=
  [.training (.reservePlan runId plan "owner" 600 0 (fun _ => reservationId)),
    .allocate shareId (some (strOfUuid taskId))]

/-- A generic allocation does not get the share that is reserved. -/
theorem reservation_kept :
    ((contested.foldl (performReservation settings) idleRoom).shares.get? shareId).map
        (·.currentTaskId) = some (some (reservationClaim (strOfUuid runId) "owner")) ∧
      ReservationLaws (contested.foldl (performReservation settings) idleRoom) := by
  refine ⟨by decide, ?_⟩
  apply reservations_exclusive settings idleRoom contested
  intro id reservation found
  cases found

end Rooms
end ZepGpu
