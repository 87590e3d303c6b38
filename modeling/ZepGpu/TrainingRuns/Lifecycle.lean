import ZepGpu.Rooms.Exclusivity
import ZepGpu.TrainingRuns.EventIdempotence
import ZepGpu.TrainingRuns.FailedLaunches

namespace ZepGpu
namespace TrainingRuns

open Foundation Rooms Dict

/-!
# The life of a run

The requests of the control plane come in any order, and each is committed or
rolled back as a whole.  What all of them have in common is stated once, as a
relation between what is stored before and after, and carried along a whole
life.  The requests of the outer rounds, which a separate coordinator serves,
are not among them.
-/

namespace Stored

variable {E : Environment} {db after : Stored} {id : Uuid} {worker later : TrainingWorker}
  {kind : WorkerEventKind} {state : TrainingRunState} {error : Option String} {now : Time}

/-- A run of the third schema that has ended holds no reservation. -/
def HoldsNothing (db : Stored) : Prop :=
  db.run.state.isTerminal = true -> 3 ≤ db.run.configVersion ->
    ∀ id reservation, db.rooms.reservations.get? id = some reservation ->
      reservation.runId = db.run.id -> reservation.isActive = false

/-- No worker falls back behind the round that it has reached. -/
def RoundsRise (db after : Stored) : Prop :=
  ∀ id worker, db.run.workers.get? id = some worker ->
    ∃ later, after.run.workers.get? id = some later ∧ worker.currentRound ≤ later.currentRound

/-- The state moves along permitted transitions, and no round goes back. -/
structure Advances (db after : Stored) : Prop where
  states : Relation.ReflTransGen TrainingRunState.Permits db.run.state after.run.state
  runId : after.run.id = db.run.id
  version : after.run.configVersion = db.run.configVersion
  outerRound : db.run.currentOuterRound ≤ after.run.currentOuterRound
  rounds : db.run.configVersion < 3 -> RoundsRise db after
  holdsNothing : HoldsNothing db -> HoldsNothing after

theorem Advances.refl (db : Stored) : Advances db db where
  states := .refl
  runId := rfl
  version := rfl
  outerRound := le_rfl
  rounds := fun _ _ worker found => ⟨worker, found, le_rfl⟩
  holdsNothing := id

theorem Advances.trans {middle : Stored} (first : Advances db middle)
    (second : Advances middle after) : Advances db after where
  states := first.states.trans second.states
  runId := second.runId.trans first.runId
  version := second.version.trans first.version
  outerRound := first.outerRound.trans second.outerRound
  rounds := by
    intro old id worker found
    obtain ⟨between, reached, rise⟩ := first.rounds old id worker found
    obtain ⟨last, left, more⟩ := second.rounds (first.version.trans_lt old) id between reached
    exact ⟨last, left, rise.trans more⟩
  holdsNothing := fun nothing => second.holdsNothing (first.holdsNothing nothing)

/-! ## The writes -/

theorem Advances.of_same_state (same : after.run.state = db.run.state)
    (runId : after.run.id = db.run.id) (version : after.run.configVersion = db.run.configVersion)
    (outerRound : db.run.currentOuterRound ≤ after.run.currentOuterRound)
    (rounds : db.run.configVersion < 3 -> RoundsRise db after)
    (reservations : after.rooms.reservations = db.rooms.reservations) : Advances db after where
  states := by rw [same]
  runId := runId
  version := version
  outerRound := outerRound
  rounds := rounds
  holdsNothing := by
    unfold HoldsNothing
    rw [same, runId, version, reservations]
    exact id

theorem roundsRise_of_same (same : after.run.workers = db.run.workers) : RoundsRise db after := by
  intro id worker found
  exact ⟨worker, same ▸ found, le_rfl⟩

theorem advances_setWorker (found : db.run.workers.get? id = some worker)
    (rise : db.run.configVersion < 3 -> worker.currentRound ≤ later.currentRound) :
    Advances db (db.setWorker id later) := by
  refine .of_same_state rfl rfl rfl le_rfl ?_ rfl
  intro old other member foundOther
  by_cases same : other = id
  · subst same
    obtain rfl : member = worker := Option.some.inj (foundOther.symm.trans found)
    exact ⟨later, get?_set_self, rise old⟩
  · exact ⟨member, (get?_set_of_ne same).trans foundOther, le_rfl⟩

theorem advances_mapWorkers {change : Uuid -> TrainingWorker -> TrainingWorker}
    (kept : ∀ id worker, (change id worker).currentRound = worker.currentRound) :
    Advances db (db.mapWorkers change) := by
  refine .of_same_state rfl rfl rfl le_rfl ?_ rfl
  intro _ id worker found
  refine ⟨change id worker, ?_, (kept id worker).ge⟩
  show (db.run.workers.adjust change).get? id = _
  rw [get?_adjust, found]
  rfl

theorem advances_rooms (running : db.run.state.isTerminal = false) (same : after.run = db.run) :
    Advances db after where
  states := by rw [same]
  runId := by rw [same]
  version := by rw [same]
  outerRound := by rw [same]
  rounds := fun _ => roundsRise_of_same (by rw [same])
  holdsNothing := by
    intro _ terminal
    rw [same, running] at terminal
    cases terminal

theorem finishAll_active {ended : TrainingReservationState} (ends : ended ≠ .active)
    {reason : String} {ids : List Uuid} {rooms : Database} {reservation : TrainingGpuReservation}
    (found : (Database.finishAll ended now reason ids rooms).reservations.get? id = some reservation)
    (active : reservation.isActive = true) :
    rooms.reservations.get? id = some reservation ∧ id ∉ ids := by
  induction ids generalizing rooms with
  | nil => exact ⟨found, List.not_mem_nil⟩
  | cons first rest ih =>
    unfold Database.finishAll at found
    cases present : rooms.reservations.get? first with
    | none =>
      rw [present] at found
      obtain ⟨before, outside⟩ := ih found
      have different : id ≠ first := by
        rintro rfl
        rw [present] at before
        cases before
      exact ⟨before, List.not_mem_cons_of_ne_of_not_mem different outside⟩
    | some ending =>
      rw [present] at found
      obtain ⟨before, outside⟩ := ih found
      rw [finishReservation_reservations] at before
      by_cases same : id = first
      · subst same
        obtain rfl := Option.some.inj (get?_set_self.symm.trans before)
        exact absurd (of_decide_eq_true active) ends
      · exact ⟨(get?_set_of_ne same).symm.trans before,
          List.not_mem_cons_of_ne_of_not_mem same outside⟩

theorem entered_run (db : Stored) (state : TrainingRunState) (error : Option String) (now : Time) :
    (db.entered state error now).run = db.run.entering state error now := by
  unfold entered
  dsimp only
  split_ifs
  · rfl
  · rfl

theorem holdsNothing_entered : HoldsNothing (db.entered state error now) := by
  intro terminal version id reservation found own
  rw [entered_run] at terminal version own
  by_contra active
  rw [Bool.not_eq_false] at active
  unfold entered at found
  rw [if_pos ⟨terminal, version⟩] at found
  obtain ⟨before, outside⟩ := finishAll_active (by decide) found active
  apply outside
  rw [Database.ofRun, mem_orderByShare, Database.mem_select]
  exact ⟨reservation, before, decide_eq_true ⟨own, active⟩⟩

theorem advances_entered (permitted : db.run.state.Permits state) :
    Advances db (db.entered state error now) where
  states := by
    rw [entered_run]
    exact .single permitted
  runId := by rw [entered_run]; rfl
  version := by rw [entered_run]; rfl
  outerRound := by rw [entered_run]; exact le_rfl
  rounds := fun _ => roundsRise_of_same (by rw [entered_run]; rfl)
  holdsNothing := fun _ => holdsNothing_entered

theorem Transitions.advances (done : Transitions db state error now after) : Advances db after := by
  cases done with
  | kept same => exact .of_same_state rfl rfl rfl le_rfl (fun _ => roundsRise_of_same rfl) rfl
  | entered permitted => exact advances_entered permitted

/-! ## The events of the workers -/

theorem Prepares.advances {prepared : Stored} (prepares : Prepares db prepared now) :
    Advances db prepared ∧ prepared.run.workers = db.run.workers := by
  rcases prepares with ⟨created, rfl⟩ | ⟨-, rfl⟩
  · have timed : Advances db (db.setRun { db.run with
        startupDeadlineAt := some (now + seconds db.run.config.startupTimeoutSeconds) }) :=
      .of_same_state rfl rfl rfl le_rfl (fun _ => roundsRise_of_same rfl) rfl
    refine ⟨timed.trans (advances_entered ?_), ?_⟩
    · show db.run.state.Permits .preparing
      rw [created]
      decide
    · rw [preparing, entered_run]
      rfl
  · exact ⟨.refl _, rfl⟩

theorem Offers.advances {stage offered : Stored} (offers : Offers db stage offered) :
    Advances stage offered := by
  rcases offers with rfl | ⟨clean, -, rfl⟩
  · exact .refl _
  · refine @Advances.trans stage _ (stage.setRun _) ?_ (advances_mapWorkers ?_)
    · exact .of_same_state rfl rfl rfl le_rfl (fun _ => roundsRise_of_same rfl) rfl
    · intro _ member
      split_ifs
      · rfl
      · rfl

theorem failing_advances (permitted : db.run.state.Permits .failed) :
    Advances db (db.failing error id now) := by
  refine (advances_entered permitted).trans (advances_mapWorkers ?_)
  intro _ member
  split_ifs
  · rfl
  · rfl

theorem cancelWorkers_advances : Advances db (db.cancelWorkers now) :=
  advances_mapWorkers (fun _ _ => rfl)

theorem Handled.advances (handled : Handled db id worker now kind after)
    (running : db.run.state.isTerminal = false) (found : db.run.workers.get? id = some worker) :
    Advances db after := by
  have set : ∀ {later : TrainingWorker}, worker.currentRound ≤ later.currentRound ->
      Advances db (db.setWorker id later) := fun rise => advances_setWorker found (fun _ => rise)
  cases handled with
  | seen later alive standing => exact set standing.currentRound.ge
  | readied prepared later prepares state round =>
    refine prepares.advances.1.trans (advances_setWorker ?_ (fun _ => round.ge))
    rw [prepares.advances.2]
    exact found
  | readiedAll prepared later prepares state round permitted =>
    refine (prepares.advances.1.trans (advances_setWorker ?_ (fun _ => round.ge))).trans
      (advances_entered permitted)
    rw [prepares.advances.2]
    exact found
  | roundStartedFirst number later rising state round underWay =>
    refine (set (rising.le.trans round.ge)).trans (advances_entered ?_)
    show db.run.state.Permits .syncing
    rw [underWay]
    decide
  | completionRejected number outerRound later rejected version listed state round =>
    have noted : Advances db (db.setRound number { outerRound with rejectedUpdates := rejected }) :=
      .of_same_state rfl rfl rfl le_rfl (fun _ => roundsRise_of_same rfl) rfl
    exact noted.trans (advances_setWorker found (fun _ => round.ge))
  | completionAccepted number outerRound later version =>
    -- of the third schema: nothing compares the round with the one before
    exact advances_setWorker found (fun old => absurd version (not_le.mpr old))
  | roundCompletedAll number later version state round done =>
    have raised : Advances (db.setWorker id later) ((db.setWorker id later).raiseOuterRound number) :=
      .of_same_state rfl rfl rfl (le_max_left _ _) (fun _ => roundsRise_of_same rfl) rfl
    exact ((set round.ge).trans raised).trans done.advances
  | roundFailed later version state round => exact set round
  | roundFailedRun later state round few permitted => exact (set round).trans (failing_advances permitted)
  | checkpointing later state round done => exact (set round.ge).trans done.advances
  | checkpointed later offered state round offers => exact (set round.ge).trans offers.advances
  | checkpointedAll later offered state round offers waiting =>
    refine ((set round.ge).trans offers.advances).trans (advances_entered ?_)
    rw [offers.run.1]
    show db.run.state.Permits .running
    rw [waiting]
    decide
  | shutdownRun error later state round few permitted =>
    exact (set round.ge).trans (failing_advances permitted)
  | aborted later state round =>
    have permitted : db.run.state.Permits .cancelled := by
      cases current : db.run.state with
      | created | preparing | ready | running | syncing | checkpointing => decide
      | completed | failed | cancelled | timedOut =>
        rw [current] at running
        cases running
    exact ((set round.ge).trans (advances_entered permitted)).trans cancelWorkers_advances
  | completedAll later state round all permitted =>
    exact (set round.ge).trans (advances_entered permitted)
  | readyLate | roundStarted | roundCompleted | reconnecting | reconnected | bootstrapCompleted |
    shutdown | completed => exact set (by omega)

theorem submit_cases (E : Environment) (db : Stored) (submission : Submission) (now : Time) :
    (db.submit E submission now).state = db ∨ ∃ noted worker,
      (noted.run = db.run ∧ noted.rooms = db.rooms) ∧ db.run.state.isTerminal = false ∧
        db.run.workers.get? submission.workerId = some worker ∧
        Handled noted submission.workerId worker now submission.kind
          (db.submit E submission now).state := by
  unfold submit
  rcases transaction_cases (fun db => db.recordWorkerEvent E submission now) db with
    ⟨error, failed⟩ | ⟨value, written, done, committed⟩
  · rw [failed]
    exact Or.inl rfl
  rw [committed]
  unfold recordWorkerEvent at done
  split at done
  · split_ifs at done
    cases done
    exact Or.inl rfl
  · unfold recordNew at done
    split at done
    · cases done
    · next worker found =>
        rw [raiseIf_bind_eq_ok, bind_eq_ok] at done
        rcases done with ⟨running, handled, applied, same⟩
        obtain ⟨rfl, rfl⟩ := Prod.mk.inj (Except.ok.inj same)
        rw [not_or, Bool.not_eq_true] at running
        have handles := handled_of_ok (by exact running.1) applied
        exact Or.inr ⟨_, worker, ⟨by rfl, by rfl⟩, running.1, found, handles⟩

theorem advances_submit (E : Environment) (db : Stored) (submission : Submission) (now : Time) :
    Advances db (db.submit E submission now).state := by
  rcases submit_cases E db submission now with same | ⟨noted, worker, same, running, found, handled⟩
  · rw [same]
    exact .refl db
  · have unchanged : Advances db noted :=
      .of_same_state (by rw [same.1]) (by rw [same.1]) (by rw [same.1]) (by rw [same.1])
        (fun _ => roundsRise_of_same (by rw [same.1])) (by rw [same.2])
    rw [← same.1] at running found
    exact unchanged.trans (handled.advances running found)

/-! ## The other requests -/

theorem enforceStartupDeadline_advances (done : db.enforceStartupDeadline now = .ok after) :
    Advances db after := by
  unfold enforceStartupDeadline at done
  split_ifs at done
  · obtain ⟨ended, moved, same⟩ := bind_eq_ok.mp done
    obtain rfl := Except.ok.inj same
    exact (transitions_of_ok moved).advances.trans cancelWorkers_advances
  · obtain ⟨ended, moved, same⟩ := bind_eq_ok.mp done
    obtain rfl := Except.ok.inj same
    exact (transitions_of_ok moved).advances.trans cancelWorkers_advances
  · cases done
    exact .refl db

theorem get_advances (done : db.get now = .ok after) : Advances db after := by
  obtain ⟨timely, enforced, done⟩ := bind_eq_ok.mp done
  refine (enforceStartupDeadline_advances enforced).trans ?_
  unfold reconcileCompletedWorkers at done
  split_ifs at done
  · cases done
    exact .refl _
  · exact (transitions_of_ok done).advances

theorem start_advances (done : db.start now = .ok after) : Advances db after := by
  unfold start at done
  obtain ⟨timely, enforced, done⟩ := bind_eq_ok.mp done
  rw [raiseIf_bind_eq_ok] at done
  obtain ⟨started, moved, same⟩ := bind_eq_ok.mp done.2
  obtain rfl := Except.ok.inj same
  refine ((enforceStartupDeadline_advances enforced).trans (transitions_of_ok moved).advances).trans
    (advances_mapWorkers ?_)
  intro _ member
  split_ifs
  · rfl
  · rfl

theorem abort_advances (done : db.abort now = .ok after) : Advances db after := by
  unfold abort at done
  split_ifs at done
  · cases done
    exact .refl db
  · obtain ⟨ended, moved, same⟩ := bind_eq_ok.mp done
    obtain rfl := Except.ok.inj same
    exact (transitions_of_ok moved).advances.trans cancelWorkers_advances

theorem prepare_advances (done : db.prepare now = .ok after) : Advances db after := by
  unfold prepare at done
  split_ifs at done
  · refine Advances.trans ?_ (transitions_of_ok done).advances
    exact .of_same_state rfl rfl rfl le_rfl (fun _ => roundsRise_of_same rfl) rfl
  · cases done
    exact .refl db

theorem prepareCreated_advances (done : db.prepareCreated now = .ok after) : Advances db after := by
  unfold prepareCreated at done
  split_ifs at done
  · exact prepare_advances done
  · cases done
    exact .refl db

theorem persistIslands_run {islands : List String} (done : persistIslands islands db = .ok after) :
    after.run = db.run := by
  induction islands generalizing db with
  | nil =>
    cases done
    rfl
  | cons islandId rest ih =>
    obtain ⟨middle, persisted, done⟩ := bind_eq_ok.mp done
    rw [ih done]
    unfold persistIsland at persisted
    repeat' split at persisted
    all_goals cases persisted
    all_goals rfl

theorem placeReservations_run {plan : PlacementPlan} {ids : List Uuid}
    (done : placeReservations plan ids db = .ok after) : after.run = db.run := by
  induction ids generalizing db with
  | nil =>
    cases done
    rfl
  | cons id rest ih =>
    obtain ⟨middle, placed, done⟩ := bind_eq_ok.mp done
    rw [ih done]
    unfold placeReservation at placed
    repeat' split at placed
    all_goals cases placed
    all_goals rfl

theorem placeRun_advances {plan : PlacementPlan} {launchKey : String} {readings : LaunchReadings}
    {ids : List Uuid} (running : db.run.state.isTerminal = false)
    (done : db.placeRun plan launchKey readings ids = .ok after) : Advances db after := by
  unfold placeRun at done
  obtain ⟨assigned, _, done⟩ := bind_eq_ok.mp done
  obtain ⟨rendezvous, _, done⟩ := bind_eq_ok.mp done
  obtain ⟨placed, places, done⟩ := bind_eq_ok.mp done
  obtain ⟨_, _, done⟩ := bind_eq_ok.mp done
  have equipped : Advances db (db.equipWorkers assigned rendezvous) :=
    advances_mapWorkers (fun _ _ => rfl)
  have credentials : Advances placed placed.issueCredentials := advances_mapWorkers (fun _ _ => rfl)
  refine ((equipped.trans (advances_rooms running (placeReservations_run places))).trans
    credentials).trans (Advances.trans ?_ (prepareCreated_advances done))
  exact .of_same_state rfl rfl rfl le_rfl (fun _ => roundsRise_of_same rfl) rfl

theorem launch_advances {owner : String} {readings : LaunchReadings} {done : Unit}
    (launched : (launch E db owner readings).result = .ok done) :
    Advances db (launch E db owner readings).state := by
  unfold launch at launched ⊢
  split at launched
  · cases launched
  next phase18 plan _ =>
  split at launched
  · cases launched
  next timely enforced =>
  refine (enforceStartupDeadline_advances enforced).trans ?_
  unfold launchLocked at launched ⊢
  dsimp only at launched ⊢
  split_ifs at launched ⊢ with ended late
  rw [Bool.not_eq_true] at ended
  split at launched
  · next existing known =>
      split_ifs at launched ⊢
      exact .refl timely
  · next unknown =>
      unfold launchNew at launched ⊢
      split_ifs at launched ⊢
      split at launched
      · cases launched
      next islands persisted =>
      dsimp only at launched ⊢
      have sameRun := persistIslands_run persisted
      have running : islands.run.state.isTerminal = false := by
        rw [sameRun]
        exact ended
      refine (advances_rooms ended sameRun).trans ?_
      split at launched
      · rename_i failed
        obtain ⟨detail, refused⟩ := launchFailed_result _ _ readings.now
        rw [refused] at launched
        cases launched
      next ids reserved =>
      split at launched
      · obtain ⟨detail, refused⟩ := launchFailed_result _ _ readings.now
        rw [refused] at launched
        cases launched
      next placed places =>
      have held : Advances islands
          (islands.reserve plan owner phase18.reservationTtlSeconds readings).state :=
        advances_rooms running rfl
      exact held.trans (placeRun_advances running places)

/-! ## Whole lives -/

/-- A request about a run. -/
inductive Request where
  | event (submission : Submission) (now : Time)
  | prepare (now : Time)
  | start (now : Time)
  | abort (now : Time)
  | inspect (now : Time)
  | launch (user : Uuid) (readings : LaunchReadings)

/-- What a request commits; one that raises is rolled back. -/
def serve (E : Environment) (db : Stored) : Request -> Stored
  | .event submission now => (db.submit E submission now).state
  | .prepare now => (db.prepare now).toOption.getD db
  | .start now => (db.start now).toOption.getD db
  | .abort now => (db.abort now).toOption.getD db
  | .inspect now => (db.get now).toOption.getD db
  | .launch user readings => (launchTrainingRun E db user readings).state

theorem advances_committed {done : Except RunError Stored}
    (advances : ∀ after, done = .ok after -> Advances db after) :
    Advances db (done.toOption.getD db) := by
  cases done with
  | error error => exact .refl db
  | ok after => exact advances after rfl

theorem advances_launchRoute {user : Uuid} {readings : LaunchReadings} {done : Unit}
    (launched : (launchRoute E user readings db).result = .ok done) :
    Advances db (launchRoute E user readings db).state := by
  unfold launchRoute at launched ⊢
  split at launched
  · cases launched
  next read reading =>
  refine (get_advances reading).trans ?_
  split_ifs at launched ⊢
  dsimp only at launched ⊢
  split at launched
  · cases launched
  · cases launched
  next finished => exact launch_advances finished

theorem advances_serve (E : Environment) (db : Stored) (request : Request) :
    Advances db (db.serve E request) := by
  cases request with
  | event submission now => exact advances_submit E db submission now
  | prepare now => exact advances_committed (fun _ => prepare_advances)
  | start now => exact advances_committed (fun _ => start_advances)
  | abort now => exact advances_committed (fun _ => abort_advances)
  | inspect now => exact advances_committed (fun _ => get_advances)
  | launch user readings =>
    show Advances db (session (launchRoute E user readings) db).state
    unfold session
    split
    · next launched => exact advances_launchRoute launched
    · exact .refl db

theorem advances_life (E : Environment) (db : Stored) (requests : List Request) :
    Advances db (requests.foldl (serve E) db) := by
  induction requests generalizing db with
  | nil => exact .refl db
  | cons request rest ih => exact (advances_serve E db request).trans (ih _)

/-- A run that was going on with whatever reservations holds none of them once it has
ended. -/
theorem ended_life_holds_nothing (E : Environment) (db : Stored) (requests : List Request)
    (running : db.run.state.isTerminal = false) :
    HoldsNothing (requests.foldl (serve E) db) := by
  apply (advances_life E db requests).holdsNothing
  intro ended
  rw [running] at ended
  cases ended

/-- A run of the third schema that is being prepared and has the share reserved. -/
def reservedRun : Stored := { Sample.preparedRun with
  rooms := contested.foldl (performReservation Rooms.Sample.settings) Rooms.Sample.idleRoom }

/-- A run with a reservation is aborted. -/
theorem aborted_life_holds_nothing :
    (reservedRun.rooms.reservations.get? Rooms.Sample.reservationId).any (·.isActive) = true ∧
      (([.abort 1] : List Request).foldl (serve Sample.environment) reservedRun).run.state =
        .cancelled ∧
      HoldsNothing (([.abort 1] : List Request).foldl (serve Sample.environment) reservedRun) := by
  refine ⟨by decide, by decide, ?_⟩
  exact ended_life_holds_nothing Sample.environment reservedRun [.abort 1] rfl

/-- The outer round never falls back, nor does, before the third schema, the round of
a worker. -/
theorem rounds_rise_in_life (E : Environment) (db : Stored) (requests : List Request) :
    db.run.currentOuterRound ≤ (requests.foldl (serve E) db).run.currentOuterRound ∧
      (db.run.configVersion < 3 -> RoundsRise db (requests.foldl (serve E) db)) :=
  ⟨(advances_life E db requests).outerRound, (advances_life E db requests).rounds⟩

end Stored

end TrainingRuns
end ZepGpu
