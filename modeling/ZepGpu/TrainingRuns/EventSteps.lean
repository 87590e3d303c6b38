import ZepGpu.Rooms.Lifecycle
import ZepGpu.TrainingRuns.WorkerEvents

namespace ZepGpu
namespace TrainingRuns

open Foundation Rooms
open Training (filterSecrets)

/-!
# What an event can do

A transition is inverted once, and so is each handler.  The cases of `Handled`
name the row that the worker gets and what happens to the run afterwards, with
the conditions that the handler has checked.  Proofs about events go through
these cases and do not open the handlers again.
-/

namespace Stored

variable {E : Environment} {db after : Stored} {state : TrainingRunState} {error : Option String}
  {id : Uuid} {worker : TrainingWorker} {payload : Json} {now : Time}

/-! ## Transitions -/

def released (db : Stored) (reason : String) (now : Time) : Stored :=
  { db with
    rooms := Database.finishAll .released now reason
      (db.rooms.ofRun db.run.id (fun reservation => reservation.isActive)) db.rooms }

theorem releaseReservations_eq (db : Stored) (reason : String) (now : Time) :
    db.releaseReservations reason now = .ok (db.released reason now) := by
  unfold releaseReservations Database.releaseBody
  simp [raiseIf, released, bind, Except.bind]

def entered (db : Stored) (state : TrainingRunState) (error : Option String) (now : Time) : Stored :=
  let db := db.setRun (db.run.entering state error now)
  if state.isTerminal = true ∧ 3 ≤ db.run.configVersion then
    db.released ("training run became " ++ state.value) now
  else db

/-- What `transition` stores when it succeeds. -/
inductive Transitions (db : Stored) (state : TrainingRunState) (error : Option String) (now : Time) :
    Stored -> Prop where
  | kept (same : db.run.state = state) :
      Transitions db state error now
        (db.setRun { db.run with error := firstError db.run.error error })
  | entered (permitted : db.run.state.Permits state) :
      Transitions db state error now (db.entered state error now)

theorem transitions_of_ok (done : db.transition state error now = .ok after) :
    Transitions db state error now after := by
  unfold transition at done
  dsimp only at done
  by_cases same : db.run.state = state
  · rw [if_pos same] at done
    cases done
    exact .kept same
  · rw [if_neg same, raiseIf_bind_eq_ok, not_or, not_not] at done
    rcases done with ⟨⟨_, permitted⟩, done⟩
    have target : after = db.entered state error now := by
      unfold Stored.entered
      dsimp only
      split_ifs at done ⊢
      · rw [releaseReservations_eq] at done
        exact (Except.ok.inj done).symm
      · exact (Except.ok.inj done).symm
    rw [target]
    exact .entered permitted

theorem transition_of_permits (permitted : db.run.state.Permits state) :
    db.transition state error now = .ok (db.entered state error now) := by
  have different : db.run.state ≠ state := by
    rintro rfl
    revert permitted
    cases db.run.state <;> decide
  have running : ¬ db.run.state.isTerminal = true := by
    intro terminal
    revert permitted terminal
    cases db.run.state <;> simp [TrainingRunState.Permits, TrainingRunState.transitions,
      TrainingRunState.isTerminal]
  unfold transition Stored.entered
  dsimp only
  rw [if_neg different, raiseIf, if_neg (not_or.mpr ⟨running, not_not.mpr permitted⟩)]
  split_ifs
  · exact releaseReservations_eq _ _ _
  · rfl

/-! ## What the handlers leave -/

def preparing (db : Stored) (now : Time) : Stored :=
  (db.setRun { db.run with
    startupDeadlineAt := some (now + seconds db.run.config.startupTimeoutSeconds) }).entered
      .preparing none now

def failing (db : Stored) (error : Option String) (failedWorker : Uuid) (now : Time) : Stored :=
  (db.entered .failed error now).mapWorkers (fun id worker =>
    if id = failedWorker then { worker with credentialRevokedAt := some now }
    else worker.cancelled now)

def aborting (db : Stored) (now : Time) : Stored :=
  (db.entered .cancelled none now).cancelWorkers now

theorem prepare_of_created (created : db.run.state = .created) :
    db.prepare now = .ok (db.preparing now) := by
  unfold prepare
  rw [if_pos created]
  apply transition_of_permits
  unfold TrainingRunState.Permits setRun
  rw [created]
  decide

theorem fail_eq_ok (done : db.fail error id now = .ok after)
    (running : db.run.state.isTerminal = false) :
    db.run.state.Permits .failed ∧ after = db.failing error id now := by
  unfold fail at done
  rw [bind_eq_ok] at done
  rcases done with ⟨middle, moved, done⟩
  cases transitions_of_ok moved with
  | kept same =>
    rw [same] at running
    cases running
  | entered permitted => exact ⟨permitted, (Except.ok.inj done).symm⟩

theorem abort_eq_ok (done : db.abort now = .ok after) (running : db.run.state.isTerminal = false) :
    db.run.state.Permits .cancelled ∧ after = db.aborting now := by
  unfold abort at done
  have different : db.run.state ≠ .cancelled := by
    intro same
    rw [same] at running
    cases running
  rw [if_neg different, bind_eq_ok] at done
  rcases done with ⟨middle, moved, done⟩
  cases transitions_of_ok moved with
  | kept same => exact absurd same different
  | entered permitted => exact ⟨permitted, (Except.ok.inj done).symm⟩

/-- An update leaves the state and the round of a worker alone. -/
structure SameStanding (worker later : TrainingWorker) : Prop where
  state : later.state = worker.state
  currentRound : later.currentRound = worker.currentRound

def Offers (db stage offered : Stored) : Prop :=
  offered = stage ∨ ∃ clean : Json,
    (clean.get? "outer_round" = none ∨
      clean.get? "outer_round" = some (.int db.run.currentOuterRound)) ∧
    offered = stage.offerCheckpoint db.run.currentOuterRound clean

/-- A run that a ready worker finds created or being prepared. -/
def Prepares (db prepared : Stored) (now : Time) : Prop :=
  db.run.state = .created ∧ prepared = db.preparing now ∨
    db.run.state = .preparing ∧ prepared = db

theorem prepares_of_ok {prepared : Stored} (done : db.prepareCreated now = .ok prepared)
    (preparing : prepared.run.state = .preparing) : Prepares db prepared now := by
  unfold prepareCreated at done
  by_cases created : db.run.state = .created
  · rw [if_pos created, prepare_of_created created] at done
    exact Or.inl ⟨created, (Except.ok.inj done).symm⟩
  · rw [if_neg created] at done
    cases done
    exact Or.inr ⟨preparing, rfl⟩

/-- The cases of a handled event: what the worker's row becomes, and what
happens to the run. -/
inductive Handled (db : Stored) (id : Uuid) (worker : TrainingWorker) (now : Time) :
    WorkerEventKind -> Stored -> Prop where
  | seen {kind} (later : TrainingWorker)
      (alive : kind = .ready ∧ worker.state = .ready ∨ kind = .heartbeat ∨ kind = .progress ∨
        kind = .log)
      (standing : SameStanding worker later) :
      Handled db id worker now kind (db.setWorker id later)
  | readyLate (later : TrainingWorker) (version : 3 ≤ db.run.configVersion)
      (state : later.state = .ready ∨ later.state = .running)
      (round : later.currentRound = worker.currentRound) :
      Handled db id worker now .ready (db.setWorker id later)
  | readied (prepared : Stored) (later : TrainingWorker)
      (prepares : Prepares db prepared now)
      (state : later.state = .ready) (round : later.currentRound = worker.currentRound) :
      Handled db id worker now .ready (prepared.setWorker id later)
  | readiedAll (prepared : Stored) (later : TrainingWorker)
      (prepares : Prepares db prepared now)
      (state : later.state = .ready) (round : later.currentRound = worker.currentRound)
      (permitted : (prepared.setWorker id later).run.state.Permits .ready) :
      Handled db id worker now .ready ((prepared.setWorker id later).entered .ready none now)
  | roundStarted (number : Int) (later : TrainingWorker) (rising : worker.currentRound < number)
      (state : later.state = .syncing) (round : later.currentRound = number)
      (running : db.run.state = .syncing) :
      Handled db id worker now .roundStarted (db.setWorker id later)
  | roundStartedFirst (number : Int) (later : TrainingWorker)
      (rising : worker.currentRound < number)
      (state : later.state = .syncing) (round : later.currentRound = number)
      (running : db.run.state = .running) :
      Handled db id worker now .roundStarted ((db.setWorker id later).entered .syncing none now)
  | completionRejected (number : Int) (outerRound later : _) (rejected : List Json)
      (version : 3 ≤ db.run.configVersion) (found : db.rounds.get? number = some outerRound)
      (state : later.state = .reconnecting) (round : later.currentRound = worker.currentRound) :
      Handled db id worker now .roundCompleted
        ((db.setRound number { outerRound with rejectedUpdates := rejected }).setWorker id later)
  | completionAccepted (number : Int) (outerRound later : _)
      (version : 3 ≤ db.run.configVersion) (found : db.rounds.get? number = some outerRound)
      (finalized : outerRound.state = .finalized)
      (accepted : strOfUuid id ∈ outerRound.acceptedWorkerIds)
      (state : later.state = .running) (round : later.currentRound = number) :
      Handled db id worker now .roundCompleted (db.setWorker id later)
  | roundCompleted (later : TrainingWorker) (version : db.run.configVersion < 3)
      (state : later.state = .running) (round : later.currentRound = worker.currentRound) :
      Handled db id worker now .roundCompleted (db.setWorker id later)
  | roundCompletedAll {after : Stored} (number : Int) (later : TrainingWorker) (version : db.run.configVersion < 3)
      (state : later.state = .running) (round : later.currentRound = worker.currentRound)
      (done : Transitions ((db.setWorker id later).raiseOuterRound number) .running none now after) :
      Handled db id worker now .roundCompleted after
  | roundFailed (later : TrainingWorker) (version : 3 ≤ db.run.configVersion)
      (state : later.state = .reconnecting) (round : worker.currentRound ≤ later.currentRound)
      (enough : (db.setWorker id later).run.minimumWorkers ≤
        (db.setWorker id later).run.count (fun item => isActive item.state)) :
      Handled db id worker now .roundFailed (db.setWorker id later)
  | roundFailedRun (later : TrainingWorker)
      (state : later.state = if 3 ≤ db.run.configVersion then .reconnecting else .failed)
      (round : worker.currentRound ≤ later.currentRound)
      (few : ¬ (3 ≤ db.run.configVersion ∧ (db.setWorker id later).run.minimumWorkers ≤
        (db.setWorker id later).run.count (fun item => isActive item.state)))
      (permitted : db.run.state.Permits .failed) :
      Handled db id worker now .roundFailed
        ((db.setWorker id later).failing later.error id now)
  | checkpointing {after : Stored} (later : TrainingWorker) (state : later.state = .checkpointing)
      (round : later.currentRound = worker.currentRound)
      (done : Transitions (db.setWorker id later) .checkpointing none now after) :
      Handled db id worker now .checkpointing after
  | checkpointed (later : TrainingWorker) (offered : Stored)
      (state : later.state = .running) (round : later.currentRound = worker.currentRound)
      (offers : Offers db (db.setWorker id later) offered) :
      Handled db id worker now .checkpointCompleted offered
  | checkpointedAll (later : TrainingWorker) (offered : Stored)
      (state : later.state = .running) (round : later.currentRound = worker.currentRound)
      (offers : Offers db (db.setWorker id later) offered)
      (waiting : db.run.state = .checkpointing) :
      Handled db id worker now .checkpointCompleted (offered.entered .running none now)
  | reconnecting (later : TrainingWorker) (version : 3 ≤ db.run.configVersion)
      (state : later.state = .reconnecting) (round : later.currentRound = worker.currentRound) :
      Handled db id worker now .reconnected (db.setWorker id later)
  | reconnected (later : TrainingWorker)
      (state : later.state = .ready ∨ later.state = .running)
      (round : later.currentRound = worker.currentRound) :
      Handled db id worker now .reconnected (db.setWorker id later)
  | bootstrapCompleted (later : TrainingWorker) (before : worker.state = .reconnecting)
      (state : later.state = .running) (round : later.currentRound = worker.currentRound) :
      Handled db id worker now .bootstrapCompleted (db.setWorker id later)
  | shutdown (later : TrainingWorker) (state : later.state = .stopped)
      (round : later.currentRound = worker.currentRound)
      (enough : ¬ (3 ≤ db.run.configVersion ∧
        (db.setWorker id later).run.count (fun item => isActive item.state) <
          (db.setWorker id later).run.minimumWorkers)) :
      Handled db id worker now .shutdown (db.setWorker id later)
  | shutdownRun (error : Option String) (later : TrainingWorker) (state : later.state = .stopped)
      (round : later.currentRound = worker.currentRound)
      (few : 3 ≤ db.run.configVersion ∧
        (db.setWorker id later).run.count (fun item => isActive item.state) <
          (db.setWorker id later).run.minimumWorkers)
      (permitted : db.run.state.Permits .failed) :
      Handled db id worker now .shutdown ((db.setWorker id later).failing error id now)
  | aborted (later : TrainingWorker) (state : later.state = .aborted)
      (round : later.currentRound = worker.currentRound) :
      Handled db id worker now .aborted ((db.setWorker id later).aborting now)
  | completed (later : TrainingWorker) (state : later.state = .completed)
      (round : later.currentRound = worker.currentRound)
      (missing : (db.setWorker id later).run.membershipCompleted = false) :
      Handled db id worker now .completed (db.setWorker id later)
  | completedAll (later : TrainingWorker) (state : later.state = .completed)
      (round : later.currentRound = worker.currentRound)
      (all : (db.setWorker id later).run.membershipCompleted = true)
      (permitted : db.run.state.Permits .completed) :
      Handled db id worker now .completed ((db.setWorker id later).entered .completed none now)

theorem handled_ready (done : db.handleReadyEvent id worker now = .ok after) :
    Handled db id worker now .ready after := by
  unfold handleReadyEvent at done
  by_cases already : worker.state = .ready ∧ (db.run.state = .preparing ∨ db.run.state = .ready)
  · rw [if_pos already] at done
    cases done
    exact .seen _ (Or.inl ⟨rfl, already.1⟩) ⟨rfl, rfl⟩
  rw [if_neg already] at done
  by_cases late : 3 ≤ db.run.configVersion ∧ (db.run.state = .ready ∨ db.run.state = .running)
  · rw [if_pos late] at done
    cases done
    refine .readyLate _ late.1 ?_ rfl
    rcases ite_eq_or_eq (db.run.state = .running) TrainingWorkerState.running .ready with same | same
    · exact Or.inr same
    · exact Or.inl same
  rw [if_neg late, bind_eq_ok] at done
  rcases done with ⟨prepared, prepares, done⟩
  rw [raiseIf_bind_eq_ok, not_not] at done
  rcases done with ⟨preparing, done⟩
  dsimp only at done
  have prepares := prepares_of_ok prepares preparing
  split_ifs at done with all
  · cases transitions_of_ok done with
    | kept same =>
      have impossible := same.symm.trans preparing
      cases impossible
    | entered permitted => exact .readiedAll prepared _ prepares rfl rfl permitted
  · cases done
    exact .readied prepared _ prepares rfl rfl

theorem handled_heartbeat {kind : WorkerEventKind} (alive : kind = .heartbeat ∨ kind = .progress)
    (done : db.handleHeartbeatEvent id worker payload now = .ok after) :
    Handled db id worker now kind after := by
  have alive : kind = .ready ∧ worker.state = .ready ∨ kind = .heartbeat ∨ kind = .progress ∨
      kind = .log := by
    rcases alive with same | same
    · exact Or.inr (Or.inl same)
    · exact Or.inr (Or.inr (Or.inl same))
  unfold handleHeartbeatEvent at done
  dsimp only at done
  split at done
  · cases done
    exact .seen _ alive ⟨rfl, rfl⟩
  · cases done
    exact .seen _ alive ⟨rfl, rfl⟩

theorem handled_log (done : db.handleLogEvent id worker now = .ok after) :
    Handled db id worker now .log after := by
  cases done
  exact .seen _ (Or.inr (Or.inr (Or.inr rfl))) ⟨rfl, rfl⟩

theorem handled_roundStarted (done : db.handleRoundStartedEvent id worker payload now = .ok after) :
    Handled db id worker now .roundStarted after := by
  unfold handleRoundStartedEvent at done
  rw [bind_eq_ok] at done
  rcases done with ⟨number, _, done⟩
  rw [raiseIf_bind_eq_ok, raiseIf_bind_eq_ok] at done
  rcases done with ⟨underWay, rising, done⟩
  dsimp only at done
  rw [raiseIf_bind_eq_ok] at done
  rcases done with ⟨_, done⟩
  have rising : worker.currentRound < number := not_le.mp rising
  split_ifs at done with running
  · cases transitions_of_ok done with
    | kept same =>
      have impossible := same.symm.trans running
      cases impossible
    | entered permitted => exact .roundStartedFirst number _ rising rfl rfl running
  · cases done
    refine .roundStarted number _ rising rfl rfl ?_
    by_contra other
    exact underWay ⟨running, other⟩

theorem handled_completeOuterRound {number : Int} (version : 3 ≤ db.run.configVersion)
    (done : db.completeOuterRound id worker number = .ok after) :
    Handled db id worker now .roundCompleted after := by
  unfold completeOuterRound at done
  split at done
  · cases done
  · next outerRound found =>
      split_ifs at done with turned
      · cases done
        exact .completionRejected number outerRound _ _ version found rfl rfl
      · cases done
        rw [not_or, not_not, not_not] at turned
        exact .completionAccepted number outerRound _ version found turned.1 turned.2 rfl rfl

theorem handled_roundCompleted
    (done : db.handleRoundCompletedEvent id worker payload now = .ok after) :
    Handled db id worker now .roundCompleted after := by
  unfold handleRoundCompletedEvent at done
  rw [bind_eq_ok] at done
  rcases done with ⟨number, _, done⟩
  rw [raiseIf_bind_eq_ok] at done
  rcases done with ⟨_, done⟩
  by_cases version : 3 ≤ db.run.configVersion
  · rw [if_pos version] at done
    exact handled_completeOuterRound version done
  · rw [if_neg version] at done
    dsimp only at done
    split_ifs at done with enough
    · refine .roundCompletedAll number _ (not_le.mp version) ?_ ?_ (transitions_of_ok done)
      · rfl
      · rfl
    · cases done
      exact .roundCompleted _ (not_le.mp version) rfl rfl

theorem handled_roundFailed (running : db.run.state.isTerminal = false)
    (done : handleRoundFailedEvent E db id worker payload now = .ok after) :
    Handled db id worker now .roundFailed after := by
  unfold handleRoundFailedEvent at done
  rw [bind_eq_ok] at done
  rcases done with ⟨number, _, done⟩
  dsimp only at done
  split_ifs at done with enough
  · cases done
    exact .roundFailed _ enough.1 (if_pos enough.1) (le_max_left _ _) enough.2
  · rcases fail_eq_ok done running with ⟨permitted, rfl⟩
    exact .roundFailedRun _ rfl (le_max_left _ _) enough permitted

theorem handled_checkpointing (done : db.handleCheckpointingEvent id worker now = .ok after) :
    Handled db id worker now .checkpointing after := by
  unfold handleCheckpointingEvent at done
  rw [raiseIf_bind_eq_ok] at done
  refine .checkpointing _ ?_ ?_ (transitions_of_ok done.2)
  · rfl
  · rfl

theorem checkpointRound_eq_ok {fields : List (String × Json)} {number : Int}
    (done : db.checkpointRound fields = .ok number) :
    number = db.run.currentOuterRound ∧ ((Json.obj fields).get? "outer_round" = none ∨
      (Json.obj fields).get? "outer_round" = some (.int db.run.currentOuterRound)) := by
  unfold checkpointRound at done
  cases found : (Json.obj fields).get? "outer_round" with
  | none =>
    rw [found, Option.getD_none] at done
    dsimp only at done
    rw [if_pos rfl] at done
    exact ⟨(Except.ok.inj done).symm, Or.inl rfl⟩
  | some value =>
    rw [found, Option.getD_some] at done
    split at done
    · split_ifs at done with current
      cases done
      exact ⟨current, Or.inr (by rw [current])⟩
    · cases done

theorem handled_resumed {offered : Stored} (done : db.resumeWorker id worker payload = .ok offered) :
    ∃ later : TrainingWorker, later.state = .running ∧
      later.currentRound = worker.currentRound ∧ Offers db (db.setWorker id later) offered := by
  unfold resumeWorker at done
  split_ifs at done with version
  · unfold storeCheckpoint at done
    rw [bind_eq_ok] at done
    rcases done with ⟨checkpoint, _, done⟩
    split at done
    · cases done
      exact ⟨{ worker with state := .running }, rfl, rfl, Or.inl rfl⟩
    · next fields _ =>
        rw [bind_eq_ok] at done
        rcases done with ⟨number, current, done⟩
        cases done
        have numbered := checkpointRound_eq_ok current
        refine ⟨{ worker with
          bootstrapCheckpoint := some (filterSecrets (.obj fields))
          state := .running }, rfl, rfl, Or.inr ⟨filterSecrets (.obj fields), ?_, ?_⟩⟩
        · rw [Training.get?_filterSecrets (by decide)]
          rcases numbered.2 with absent | present
          · rw [absent]
            exact Or.inl rfl
          · rw [present]
            exact Or.inr rfl
        · rw [numbered.1]
  · cases done
    exact ⟨{ worker with state := .running }, rfl, rfl, Or.inl rfl⟩

theorem Offers.run {stage offered : Stored} (offers : Offers db stage offered) :
    offered.run.state = stage.run.state ∧ offered.run.configVersion = stage.run.configVersion ∧
      offered.run.workers.keys = stage.run.workers.keys ∧ ∀ other,
        (offered.run.workers.get? other).map TrainingWorker.state =
          (stage.run.workers.get? other).map TrainingWorker.state := by
  rcases offers with rfl | ⟨clean, _, rfl⟩
  · exact ⟨rfl, rfl, rfl, fun _ => rfl⟩
  · refine ⟨rfl, rfl, rfl, fun other => ?_⟩
    unfold offerCheckpoint mapWorkers
    rw [Dict.get?_adjust, Option.map_map]
    congr 1
    funext member
    rw [Function.comp_apply]
    split_ifs
    · rfl
    · rfl

theorem handled_checkpointCompleted
    (done : db.handleCheckpointCompletedEvent id worker payload now = .ok after) :
    Handled db id worker now .checkpointCompleted after := by
  unfold handleCheckpointCompletedEvent at done
  rw [raiseIf_bind_eq_ok, not_not, bind_eq_ok] at done
  rcases done with ⟨_, offered, resumed, done⟩
  rcases handled_resumed resumed with ⟨later, state, round, offers⟩
  have run := offers.run
  by_cases version : 3 ≤ offered.run.configVersion
  · rw [if_pos version] at done
    split_ifs at done with enough
    · cases transitions_of_ok done with
      | kept same =>
        have impossible := same.symm.trans enough.2
        cases impossible
      | entered permitted =>
        exact .checkpointedAll later offered state round offers (run.1.symm.trans enough.2)
    · cases done
      exact .checkpointed later _ state round offers
  · rw [if_neg version] at done
    split_ifs at done with all completed waiting
    · -- the worker itself is running now
      have own := run.2.2.2 id
      unfold setWorker at own
      rw [Dict.get?_set_self, Option.map_some, Option.map_eq_some_iff] at own
      rcases own with ⟨row, found, rowState⟩
      have finished := (TrainingRun.allWorkers_iff _).mp completed id row found
      rw [decide_eq_true_eq, rowState, state] at finished
      cases finished
    · cases transitions_of_ok done with
      | kept same =>
        have impossible := same.symm.trans waiting
        cases impossible
      | entered permitted =>
        exact .checkpointedAll later offered state round offers (run.1.symm.trans waiting)
    · cases done
      exact .checkpointed later _ state round offers
    · cases done
      exact .checkpointed later _ state round offers

theorem handled_reconnected (done : db.handleReconnectEvent id worker now = .ok after) :
    Handled db id worker now .reconnected after := by
  unfold handleReconnectEvent at done
  dsimp only at done
  by_cases waits : 3 ≤ db.run.configVersion ∧ 0 < db.run.currentOuterRound
  · rw [if_pos waits] at done
    cases done
    refine .reconnecting _ waits.1 ?_ ?_
    · rfl
    · rfl
  · rw [if_neg waits] at done
    cases done
    refine .reconnected _ ?_ ?_
    · exact ite_eq_or_eq _ _ _
    · rfl

theorem handled_bootstrapCompleted
    (done : db.handleBootstrapCompletedEvent id worker payload now = .ok after) :
    Handled db id worker now .bootstrapCompleted after := by
  unfold handleBootstrapCompletedEvent at done
  rw [raiseIf_bind_eq_ok, raiseIf_bind_eq_ok, not_not] at done
  rcases done with ⟨_, before, done⟩
  split at done
  · rw [raiseIf_bind_eq_ok, bind_eq_ok] at done
    rcases done with ⟨_, checkpoint, _, done⟩
    cases done
    refine .bootstrapCompleted _ before ?_ ?_
    · rfl
    · rfl
  · cases done

theorem handled_shutdown (running : db.run.state.isTerminal = false)
    (done : db.handleShutdownEvent id worker now = .ok after) :
    Handled db id worker now .shutdown after := by
  unfold handleShutdownEvent at done
  dsimp only at done
  split_ifs at done with few
  · rcases fail_eq_ok done running with ⟨permitted, rfl⟩
    exact .shutdownRun _ _ rfl rfl few permitted
  · cases done
    exact .shutdown _ rfl rfl few

theorem handled_aborted (running : db.run.state.isTerminal = false)
    (done : db.handleAbortEvent id worker now = .ok after) :
    Handled db id worker now .aborted after := by
  unfold handleAbortEvent at done
  rcases abort_eq_ok done running with ⟨_, rfl⟩
  exact .aborted _ rfl rfl

theorem handled_completed (running : db.run.state.isTerminal = false)
    (done : db.handleCompletedEvent id worker now = .ok after) :
    Handled db id worker now .completed after := by
  unfold handleCompletedEvent at done
  dsimp only at done
  split_ifs at done with all
  · cases transitions_of_ok done with
    | kept same =>
      have same : db.run.state = .completed := same
      rw [same] at running
      cases running
    | entered permitted => exact .completedAll _ rfl rfl all permitted
  · cases done
    exact .completed _ rfl rfl (Bool.eq_false_iff.mpr all)

theorem handled_of_ok {kind : WorkerEventKind} (running : db.run.state.isTerminal = false)
    (done : applyWorkerEvent E db id worker payload now kind = .ok after) :
    Handled db id worker now kind after := by
  cases kind with
  | ready => exact handled_ready done
  | heartbeat => exact handled_heartbeat (Or.inl rfl) done
  | progress => exact handled_heartbeat (Or.inr rfl) done
  | log => exact handled_log done
  | roundStarted => exact handled_roundStarted done
  | roundCompleted => exact handled_roundCompleted done
  | roundFailed => exact handled_roundFailed running done
  | checkpointing => exact handled_checkpointing done
  | checkpointCompleted => exact handled_checkpointCompleted done
  | reconnected => exact handled_reconnected done
  | bootstrapCompleted => exact handled_bootstrapCompleted done
  | shutdown => exact handled_shutdown running done
  | aborted => exact handled_aborted running done
  | completed => exact handled_completed running done

end Stored

/-! ## A run of the third schema that goes on with one of its two workers -/

namespace Sample

/-- `str(exc)`, as far as the runs here raise it -/
def strOfError : RunError -> String
  | .transition message => message
  | .conflict message => message
  | .validation message => message
  | .valueError message => message
  | .reservation (.error message) => message
  | .reservation (.conflict message) => message
  | .reservation (.ownership message) => message
  | .launch message => message
  | .runtime message => message
  | .keyError key => "'" ++ key ++ "'"
  | _ => ""

def environment : Environment where
  strOfJson := Ledger.Reference.strOfJson
  strOfError := strOfError
  sha256Hex := fun text => hexText (sha256 (utf8 text))

def firstWorker : Uuid := 10
def secondWorker : Uuid := 12

def config : RunConfig where
  startupTimeoutSeconds := 300
  phase18 := some {
    strategy := .diloco
    minK := 1
    readinessTimeoutSeconds := 300
    maximumRuntimeSeconds := 86400
    reservationTtlSeconds := 600 }
  document := .obj []

def createdRun : Stored where
  run := {
    id := Rooms.Sample.runId
    vpnNetworkId := Rooms.Sample.roomId
    userId := Rooms.Sample.userId
    configVersion := 3
    config := config
    createdAt := 0
    workers := (Dict.empty.set firstWorker { peerId := 3 }).set secondWorker { peerId := 13 } }
  rooms := Rooms.Sample.idleRoom

def preparedRun : Stored :=
  createdRun.preparing 0

end Sample

end TrainingRuns
end ZepGpu
