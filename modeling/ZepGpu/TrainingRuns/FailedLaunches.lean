import ZepGpu.TrainingRuns.EventSteps
import ZepGpu.TrainingRuns.Launch

namespace ZepGpu
namespace TrainingRuns

open Foundation Rooms

/-!
# Launches that fail

The launcher fails the run and gives its reservations back, and then raises.
The route turns the exception into an answer, and the session of the request
sees that answer as an exception: what the launcher wrote is rolled back.  A
deadline that the launch finds expired is rolled back in the same way.
-/

namespace Stored

variable {E : Environment} {db middle current : Stored} {now : Time} {user : Uuid}
  {owner : String} {readings : LaunchReadings} {cause error : RunError}

/-- `launch_training_run`, as its session sees it.  What it writes to the workers
after a launch is left out. -/
def launchRoute (E : Environment) (user : Uuid) (readings : LaunchReadings) (db : Stored) :
    Outcome Stored RunError Unit :=
  match db.get readings.now with
  | .error error => ⟨.error error, db⟩
  | .ok db =>
    if db.run.userId ≠ user then
      ⟨.error (.httpException 403 "Training run belongs to another user"), db⟩
    else
      let launched := launch E db (strOfUuid user) readings
      match launched.result with
      | .error (.launch detail) => ⟨.error (.httpException 409 detail), launched.state⟩
      | .error error => ⟨.error error, launched.state⟩
      | .ok _ => ⟨.ok (), launched.state⟩

/-- `POST /training/{run_id}/launch` -/
def launchTrainingRun (E : Environment) (db : Stored) (user : Uuid) (readings : LaunchReadings) :
    Outcome Stored RunError Unit :=
  session (launchRoute E user readings) db

theorem enforceStartupDeadline_of_terminal (terminal : db.run.state.isTerminal = true) :
    db.enforceStartupDeadline now = .ok db := by
  have notPreparing : db.startupExpired now = false := by
    unfold startupExpired
    rw [decide_eq_false_iff_not]
    rintro ⟨preparing, -⟩
    rw [preparing] at terminal
    cases terminal
  have notUnderWay : db.runtimeExpired now = false := by
    unfold runtimeExpired isUnderWay
    rw [decide_eq_false_iff_not]
    rintro ⟨-, underWay, -⟩
    rw [decide_eq_true_eq] at underWay
    rcases underWay with same | same | same
    all_goals
      rw [same] at terminal
      cases terminal
  unfold enforceStartupDeadline
  rw [notPreparing, notUnderWay]
  rfl

theorem get_of_terminal (terminal : db.run.state.isTerminal = true) : db.get now = .ok db := by
  unfold get
  rw [enforceStartupDeadline_of_terminal terminal]
  exact if_pos (Or.inl terminal)

theorem entered_state (db : Stored) (state : TrainingRunState) (error : Option String) (now : Time) :
    (db.entered state error now).run.state = state := by
  unfold entered
  dsimp only
  split_ifs
  · rfl
  · rfl

theorem enforceStartupDeadline_of_expired (expired : db.startupExpired now = true) :
    ∃ later, db.enforceStartupDeadline now = .ok later ∧
      later.run.state.isTerminal = true := by
  have preparing : db.run.state = .preparing := by
    unfold startupExpired at expired
    exact (of_decide_eq_true expired).1
  have permitted : db.run.state.Permits .timedOut := by
    rw [preparing]
    decide
  unfold enforceStartupDeadline
  rw [if_pos expired, transition_of_permits permitted]
  refine ⟨_, rfl, ?_⟩
  show TrainingRunState.isTerminal (db.entered .timedOut _ now).run.state = true
  rw [entered_state]
  rfl

theorem launch_of_terminal (terminal : db.run.state.isTerminal = true) :
    ∃ error, (launch E db owner readings).result = .error error := by
  unfold launch
  split
  · exact ⟨_, rfl⟩
  · rw [enforceStartupDeadline_of_terminal terminal]
    unfold launchLocked
    dsimp only
    rw [if_pos terminal]
    exact ⟨_, rfl⟩

theorem launchFailed_result (db : Stored) (cause : RunError) (now : Time) :
    ∃ detail, (launchFailed E db cause now).result = .error (.launch detail) := by
  unfold launchFailed
  dsimp only
  split
  · exact ⟨_, rfl⟩
  · exact ⟨_, rfl⟩

/-- A step of the launch raises, with what it leaves behind. -/
inductive StepFails (db : Stored) (plan : PlacementPlan) (phase18 : Phase18Config)
    (owner launchKey : String) (readings : LaunchReadings) : RunError -> Stored -> Prop where
  | reserve (cause : RunError)
      (failed : (db.reserve plan owner phase18.reservationTtlSeconds readings).result =
        .error cause) :
      StepFails db plan phase18 owner launchKey readings cause
        (db.reserve plan owner phase18.reservationTtlSeconds readings).state
  | place (ids : List Uuid) (cause : RunError)
      (reserved : (db.reserve plan owner phase18.reservationTtlSeconds readings).result = .ok ids)
      (failed : (db.reserve plan owner phase18.reservationTtlSeconds readings).state.placeRun plan
        launchKey readings ids = .error cause) :
      StepFails db plan phase18 owner launchKey readings cause
        (db.reserve plan owner phase18.reservationTtlSeconds readings).state

/-- The launch passes its checks, and its reservation, its rank assignment, its
rendezvous or its credentials fail. -/
structure LaunchFails (E : Environment) (db : Stored) (owner : String) (readings : LaunchReadings)
    (cause : RunError) (left : Stored) : Prop where
  steps : ∃ phase18 plan current prepared,
    db.launchable = .ok (phase18, plan) ∧
    db.enforceStartupDeadline readings.now = .ok current ∧
    current.run.state.isTerminal = false ∧
    ¬ (current.run.state = .created ∧
      current.run.createdAt + seconds phase18.readinessTimeoutSeconds ≤ readings.now) ∧
    current.run.launchKey = none ∧
    current.run.providers = plan.selectedProviderIds.insertionSort (· ≤ ·) ∧
    persistIslands (plan.candidateIslands.filter (fun islandId =>
      islandId ∈ plan.selectedIslandIds)) current = .ok prepared ∧
    StepFails prepared plan phase18 owner
      (E.sha256Hex (strOfUuid current.run.id ++ ":" ++ plan.planId)) readings cause left

theorem LaunchFails.launch {left : Stored} (fails : LaunchFails E db owner readings cause left) :
    launch E db owner readings = launchFailed E left cause readings.now := by
  rcases fails.steps with
    ⟨phase18, plan, current, prepared, launchable, enforced, running, early, fresh, providers,
      islands, step⟩
  have notTerminal : ¬ current.run.state.isTerminal = true := by
    rw [running]
    exact Bool.false_ne_true
  have sameProviders : ¬ current.run.providers ≠ plan.selectedProviderIds.insertionSort (· ≤ ·) :=
    not_not.mpr providers
  unfold Stored.launch
  rw [launchable]
  dsimp only
  rw [enforced]
  dsimp only
  unfold launchLocked
  dsimp only
  rw [if_neg notTerminal, if_neg early, fresh]
  dsimp only
  unfold launchNew
  rw [if_neg sameProviders, islands]
  cases step with
  | reserve _ failed =>
    dsimp only
    rw [failed]
  | place ids cause reserved failed =>
    dsimp only
    rw [reserved]
    dsimp only
    rw [failed]

theorem LaunchFails.running {left : Stored} (fails : LaunchFails E db owner readings cause left) :
    db.run.state.isTerminal = false := by
  rcases fails.steps with ⟨phase18, plan, current, prepared, -, enforced, running, -⟩
  by_contra ended
  rw [Bool.not_eq_false] at ended
  rw [enforceStartupDeadline_of_terminal ended] at enforced
  cases enforced
  rw [running] at ended
  cases ended

/-- The failure is stored, and no reservation of the run is active. -/
structure Recorded (detail : String) (db : Stored) : Prop where
  state : db.run.state = .failed
  error : db.run.error = some detail
  released : ∀ id reservation, db.rooms.reservations.get? id = some reservation ->
    reservation.runId = db.run.id -> reservation.state ≠ .active

/-- A launch with a step that fails is answered with an error, and nothing of it
is stored: the run is as it was, and it has not failed.  Nor is it stored that a
startup deadline has ended the run. -/
theorem failed_launch_not_recorded (E : Environment) (db : Stored) (user : Uuid)
    (readings : LaunchReadings) :
    (∀ middle cause left, db.get readings.now = .ok middle -> middle.run.userId = user ->
      LaunchFails E middle (strOfUuid user) readings cause left ->
      ∃ detail, launchTrainingRun E db user readings =
          ⟨.error (.httpException 409 detail), db⟩ ∧
        ¬ Recorded detail (launchTrainingRun E db user readings).state) ∧
    (db.startupExpired readings.now = true ->
      (launchTrainingRun E db user readings).state.run.state.isTerminal = false) := by
  constructor
  · intro middle cause left loaded owned fails
    rcases @launchFailed_result E left cause readings.now with ⟨detail, raised⟩
    have answered : (launchRoute E user readings db).result =
        .error (.httpException 409 detail) := by
      unfold launchRoute
      rw [loaded]
      dsimp only
      rw [if_neg (not_not.mpr owned), fails.launch, raised]
    have rolledBack : launchTrainingRun E db user readings =
        ⟨.error (.httpException 409 detail), db⟩ := session_of_error answered
    refine ⟨detail, rolledBack, ?_⟩
    rw [rolledBack]
    intro recorded
    have terminal : db.run.state.isTerminal = true := by
      rw [recorded.state]
      rfl
    rw [get_of_terminal terminal] at loaded
    cases loaded
    rw [fails.running] at terminal
    cases terminal
  · intro expired
    have preparing : db.run.state = .preparing := by
      unfold startupExpired at expired
      exact (of_decide_eq_true expired).1
    rcases enforceStartupDeadline_of_expired expired with ⟨later, enforced, terminal⟩
    have loaded : db.get readings.now = .ok later := by
      unfold get
      rw [enforced]
      exact if_pos (Or.inl terminal)
    have raised : ∃ error, (launchRoute E user readings db).result = .error error := by
      unfold launchRoute
      rw [loaded]
      dsimp only
      split_ifs
      · exact ⟨_, rfl⟩
      · rcases @launch_of_terminal E later (strOfUuid user) readings terminal with ⟨error, failed⟩
        rw [failed]
        cases error with
        | launch detail => exact ⟨_, rfl⟩
        | _ => exact ⟨_, rfl⟩
    rcases raised with ⟨error, raised⟩
    rw [show launchTrainingRun E db user readings = ⟨.error error, db⟩ from session_of_error raised]
    dsimp only
    rw [preparing]
    rfl

open Sample

/-- The plan of a run whose only share is allocated to a task. -/
def takenPlan : PlacementPlan where
  roomId := strOfUuid Rooms.Sample.roomId
  status := .capable
  selectedGpus := [{
    providerId := strOfUuid Rooms.Sample.peerId
    gpuShareId := strOfUuid Rooms.Sample.shareId
    deviceIndex := 0
    perGpuVramMb := 8192
    islandId := strOfUuid 20 }]
  planId := "plan"
  selectedProviderIds := [strOfUuid Rooms.Sample.peerId]
  document := .obj []

def plannedRun : Stored where
  run := { createdRun.run with
    placementPlan := some takenPlan
    workers := Dict.empty.set firstWorker { peerId := Rooms.Sample.peerId } }
  rooms := { Rooms.Sample.idleRoom with
    shares := Dict.empty.set Rooms.Sample.shareId (Rooms.Sample.share.heldBy "task") }

def launchReadings (now : Time) : LaunchReadings where
  now := now
  rendezvous := .ok Dict.empty
  credentials := .ok ()
  newId := fun id => id

/-- The launch conflicts with the task that holds the share.  The answer says
that it failed, and the run is still a created one without an error. -/
theorem conflicting_launch_not_stored :
    (launchTrainingRun environment plannedRun Rooms.Sample.userId (launchReadings 1)).result =
      .error (.httpException 409 ("launch failed: GPU share " ++
        "00000000-0000-0000-0000-000000000004 is not available")) ∧
    (launchTrainingRun environment plannedRun Rooms.Sample.userId
      (launchReadings 1)).state.run.state = .created ∧
    (launchTrainingRun environment plannedRun Rooms.Sample.userId
      (launchReadings 1)).state.run.error = none := by
  with_unfolding_all exact ⟨rfl, rfl, rfl⟩

theorem plannedRun_launchFails : ∃ cause left,
    LaunchFails environment plannedRun (strOfUuid Rooms.Sample.userId) (launchReadings 1) cause
      left := by
  refine ⟨_, _, ⟨_, takenPlan, plannedRun, plannedRun, rfl, rfl, rfl, by decide, rfl, ?_, rfl,
    .reserve (.reservation (.conflict
      "GPU share 00000000-0000-0000-0000-000000000004 is not available")) ?_⟩⟩
  · with_unfolding_all rfl
  · with_unfolding_all rfl

/-- The two parts of the theorem, at the launch that conflicts and at one after
the startup deadline. -/
theorem failed_launch_not_recorded_sample :
    (∃ detail, ¬ Recorded detail (launchTrainingRun environment plannedRun Rooms.Sample.userId
      (launchReadings 1)).state) ∧
    (launchTrainingRun environment preparedRun Rooms.Sample.userId
      (launchReadings (seconds 301))).state.run.state.isTerminal = false := by
  constructor
  · rcases plannedRun_launchFails with ⟨cause, left, fails⟩
    rcases (failed_launch_not_recorded environment plannedRun Rooms.Sample.userId
      (launchReadings 1)).1 plannedRun cause left rfl rfl fails with ⟨detail, -, unrecorded⟩
    exact ⟨detail, unrecorded⟩
  · exact (failed_launch_not_recorded environment preparedRun Rooms.Sample.userId
      (launchReadings (seconds 301))).2 (by decide)

end Stored

end TrainingRuns
end ZepGpu
