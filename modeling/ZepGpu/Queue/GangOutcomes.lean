import ZepGpu.Queue.Gangs
import ZepGpu.Queue.TaskSteps

namespace ZepGpu
namespace Queue

open Foundation Rooms Dict

/-!
# What is recorded of a gang run

A run that returns commits what it has written.  A run that raises leaves the gang
pending and its owner uncharged, because the record of the failure is part of what
is rolled back.  A rejected payload is recorded, but nobody is charged for it.
-/

namespace GangStore

variable {store after : GangStore} {gangTaskId : Uuid} {gang : GangTask} {run : GangRun}
  {now : Time} {gpuIds : List Int}

/-- The gang is pending, and devices are found for it. -/
def Attempted (store : GangStore) (gang : GangTask) : Prop :=
  gang.status = .pending ∧
    ∃ gpuIds, gang.chooseGpus store.tasks.gpus = some gpuIds ∧ gpuIds ≠ []

/-- The row says how the operation ended. -/
def RowRecords (row : GangTask) : OperationOutcome -> Prop
  | .success => row.status = .completed
  | .unsafePayload message => row.status = .failed ∧ row.error = some message
  | .raised error => row.status = .failed ∧ row.error = some error

/-- One counter of one bucket of the owner goes up by one. -/
def Counted (userId : Uuid) (outcome : OperationOutcome) (store after : GangStore) : Prop :=
  ∃ bucketId bucket later, store.buckets.get? bucketId = some bucket ∧
    bucket.userId = some userId ∧ after.buckets = store.buckets.set bucketId later ∧
    match outcome with
    | .success => later.tasksCompleted = bucket.tasksCompleted + 1 ∧
        later.tasksFailed = bucket.tasksFailed
    | _ => later.tasksCompleted = bucket.tasksCompleted ∧
        later.tasksFailed = bucket.tasksFailed + 1

/-- The outcome of a run is recorded: in the row, in the devices and in the counters. -/
structure Recorded (gangTaskId : Uuid) (gang : GangTask) (outcome : OperationOutcome)
    (store after : GangStore) : Prop where
  attempted : Attempted store gang ->
    ∃ row, after.gangs.get? gangTaskId = some row ∧ RowRecords row outcome
  waiting : ¬ Attempted store gang ->
    ∃ row, after.gangs.get? gangTaskId = some row ∧ row.status = .pending
  clear : GpuTable.Clear (strOfUuid gangTaskId) after.tasks.gpus
  charged : Attempted store gang -> ∀ userId, gang.userId = some userId ->
    Counted userId outcome store after
  uncharged : ¬ Attempted store gang -> after.buckets = store.buckets

/-- The runs that record their outcome: the gang is pending, and its operation succeeds
for nobody or for an owner with one bucket, or is rejected for nobody, or there are not
enough devices for it and none names it. -/
def Records (gangTaskId : Uuid) (gang : GangTask) (outcome : OperationOutcome) (store : GangStore) :
    Prop :=
  gang.status = .pending ∧
    ((Attempted store gang ∧
        ((outcome = .success ∧ ∀ userId, gang.userId = some userId ->
            ∃ bucketId, store.bucketsOf userId = [bucketId]) ∨
          ((∃ message, outcome = .unsafePayload message) ∧ gang.userId = none))) ∨
      (¬ Attempted store gang ∧ GpuTable.Clear (strOfUuid gangTaskId) store.tasks.gpus))

section Updates

variable {status : GangStatus} {fields : GangTask -> GangTask}

theorem updateStatus_gang (found : store.gangs.get? gangTaskId = some gang) :
    (store.updateStatus gangTaskId status now fields).gangs.get? gangTaskId =
      some (fields (gang.withStatus status now)) := by
  unfold updateStatus
  rw [found]
  exact get?_set_self

theorem updateStatus_tasks : (store.updateStatus gangTaskId status now fields).tasks = store.tasks := by
  unfold updateStatus
  split
  · rfl
  · rfl

theorem updateStatus_buckets :
    (store.updateStatus gangTaskId status now fields).buckets = store.buckets := by
  unfold updateStatus
  split
  · rfl
  · rfl

theorem recordCallback_spec (delivery : Json) (found : store.gangs.get? gangTaskId = some gang) :
    (∃ metadata, (store.recordCallback gangTaskId delivery).gangs.get? gangTaskId =
        some { gang with metadataJson := metadata }) ∧
      (store.recordCallback gangTaskId delivery).tasks = store.tasks ∧
      (store.recordCallback gangTaskId delivery).buckets = store.buckets := by
  unfold recordCallback
  rw [found]
  dsimp only
  split_ifs
  · exact ⟨⟨_, get?_set_self⟩, rfl, rfl⟩
  · exact ⟨⟨gang.metadataJson, found⟩, rfl, rfl⟩

end Updates

/-- The store after an attempt that has marked the row and released the devices. -/
structure Settled (gangTaskId : Uuid) (row : GangTask) (store after : GangStore) : Prop where
  row : after.gangs.get? gangTaskId = some row
  clear : GpuTable.Clear (strOfUuid gangTaskId) after.tasks.gpus
  buckets : after.buckets = store.buckets

theorem settled_completed (found : store.gangs.get? gangTaskId = some gang) :
    Settled gangTaskId (gang.withStatus .completed now) store
      ((store.markCompleted gangTaskId now).releaseGang gangTaskId) :=
  ⟨updateStatus_gang found, GpuTable.clear_releaseGang _ _, updateStatus_buckets⟩

theorem settled_failed (error : String) (traceback : Option String)
    (found : store.gangs.get? gangTaskId = some gang) :
    Settled gangTaskId
      { gang.withStatus .failed now with error := some error, traceback := traceback } store
      ((store.markFailed gangTaskId error traceback now).releaseGang gangTaskId) :=
  ⟨updateStatus_gang found, GpuTable.clear_releaseGang _ _, updateStatus_buckets⟩

theorem Settled.recorded {row : GangTask} (settled : Settled gangTaskId row store after)
    (delivery : Json) :
    (∃ last, (after.recordCallback gangTaskId delivery).gangs.get? gangTaskId = some last ∧
        last.status = row.status ∧ last.error = row.error) ∧
      GpuTable.Clear (strOfUuid gangTaskId) (after.recordCallback gangTaskId delivery).tasks.gpus ∧
      (after.recordCallback gangTaskId delivery).buckets = store.buckets := by
  rcases recordCallback_spec delivery settled.row with ⟨⟨metadata, written⟩, tasks, buckets⟩
  refine ⟨⟨_, written, rfl, rfl⟩, ?_, buckets.trans settled.buckets⟩
  rw [tasks]
  exact settled.clear

theorem recordGpuUsage_cases (store : GangStore) (userId : Uuid) (gpuSeconds : Float) (usage : Usage)
    (now : Time) :
    (store.bucketsOf userId = [] ∧ store.recordGpuUsage userId gpuSeconds usage now = .ok store) ∨
      (∃ bucketId bucket, store.bucketsOf userId = [bucketId] ∧
        store.buckets.get? bucketId = some bucket ∧ bucket.userId = some userId ∧
        store.recordGpuUsage userId gpuSeconds usage now = .ok { store with
          buckets := store.buckets.set bucketId (bucket.charged gpuSeconds usage now) }) ∨
      (∀ bucketId, store.bucketsOf userId ≠ [bucketId]) ∧
        ∃ error, store.recordGpuUsage userId gpuSeconds usage now = .error error := by
  unfold recordGpuUsage
  cases list : store.bucketsOf userId with
  | nil => exact Or.inl ⟨rfl, rfl⟩
  | cons bucketId rest =>
    cases rest with
    | nil =>
      have member : bucketId ∈ store.bucketsOf userId := list ▸ List.mem_singleton_self bucketId
      rcases Database.mem_select.mp member with ⟨bucket, found, owned⟩
      dsimp only
      rw [found]
      exact Or.inr (Or.inl ⟨bucketId, bucket, rfl, found, of_decide_eq_true owned, rfl⟩)
    | cons second others => exact Or.inr (Or.inr ⟨nofun, _, rfl⟩)

theorem executeGangTask_of_ok {reply : GangReply}
    (returned : gangBody gangTaskId run store = .ok (reply, after)) :
    executeGangTask gangTaskId run store = after := by
  unfold executeGangTask
  rw [transaction_of_ok returned]

theorem executeGangTask_of_error {error : String}
    (raised : gangBody gangTaskId run store = .error error) :
    (executeGangTask gangTaskId run store).gangs = store.gangs ∧
      (executeGangTask gangTaskId run store).tasks.gpus = store.tasks.gpus ∧
      (executeGangTask gangTaskId run store).buckets = store.buckets := by
  unfold executeGangTask
  rw [transaction_of_error raised]
  exact ⟨rfl, TaskStore.updateStatus_gpus, rfl⟩

theorem chooseGpus_spec {gpus : GpuTable} (chosen : gang.chooseGpus gpus = some gpuIds) :
    gpuIds.Nodup ∧ ∀ index, index ∈ gpuIds ->
      ∃ device, gpus.get? index = some device ∧ device.isFree = true := by
  have same : gpuIds = gpus.listAvailableForGang gang.numGpusRequired gang.gpuMemoryMbPerGpu
      gang.gpuType := by
    unfold GangTask.chooseGpus at chosen
    dsimp only at chosen
    split_ifs at chosen
    · exact (Option.some.inj chosen).symm
    · exact (Option.some.inj chosen).symm
  rw [same]
  exact GpuTable.listAvailableForGang_spec

theorem gangBody_of_attempted (found : store.gangs.get? gangTaskId = some gang)
    (attempted : Attempted store gang) :
    ∃ (middle : GangStore) (row : GangTask) (gpuIds : List Int), middle.gangs.get? gangTaskId = some row ∧
      middle.buckets = store.buckets ∧
      gangBody gangTaskId run store = middle.attemptGang gangTaskId gang.userId gpuIds run := by
  rcases attempted with ⟨pending, gpuIds, chosen, nonempty⟩
  rcases chooseGpus_spec chosen with ⟨distinct, free⟩
  have taken := @GpuTable.allocateGang_all store.tasks.gpus (strOfUuid gangTaskId) gpuIds distinct free
  have scheduled : (store.updateStatus gangTaskId .scheduling (run.clock 0) id).gangs.get? gangTaskId =
      some (gang.withStatus .scheduling (run.clock 0)) := updateStatus_gang found
  unfold gangBody
  rw [found]
  dsimp only
  rw [if_neg (not_not.mpr pending), updateStatus_tasks, chosen]
  dsimp only
  rw [taken, if_neg (by simpa using nonempty)]
  have written := @updateStatus_gang ((store.updateStatus gangTaskId .scheduling (run.clock 0) id).withGpus
    (store.tasks.gpus.allocateGang gpuIds (strOfUuid gangTaskId)).2) gangTaskId _ (run.clock 0)
    .allocated (fun gang => { gang with allocatedGpuIds := some gpuIds }) scheduled
  refine ⟨_, _, gpuIds, written, ?_, rfl⟩
  exact updateStatus_buckets.trans updateStatus_buckets

theorem gangBody_of_not_attempted (found : store.gangs.get? gangTaskId = some gang)
    (pending : gang.status = .pending) (waits : ¬ Attempted store gang) :
    ∃ (reply : GangReply) (after : GangStore) (row : GangTask),
      gangBody gangTaskId run store = .ok (reply, after) ∧
      after.gangs.get? gangTaskId = some row ∧ row.status = .pending ∧
      after.tasks.gpus = store.tasks.gpus ∧ after.buckets = store.buckets := by
  have scheduled : (store.updateStatus gangTaskId .scheduling (run.clock 0) id).gangs.get? gangTaskId =
      some (gang.withStatus .scheduling (run.clock 0)) := updateStatus_gang found
  unfold gangBody
  rw [found]
  dsimp only
  rw [if_neg (not_not.mpr pending), updateStatus_tasks]
  cases chosen : gang.chooseGpus store.tasks.gpus with
  | none =>
    refine ⟨_, _, _, rfl, updateStatus_gang scheduled, rfl, ?_, ?_⟩
    · rw [updateStatus_tasks, updateStatus_tasks]
    · exact updateStatus_buckets.trans updateStatus_buckets
  | some gpuIds =>
    have none : gpuIds = [] := by
      by_contra some
      exact waits ⟨pending, gpuIds, chosen, some⟩
    subst none
    dsimp only
    rw [GpuTable.allocateGang_nil]
    refine ⟨_, _, _, rfl, updateStatus_gang scheduled, rfl, ?_, ?_⟩
    · rw [updateStatus_tasks]
      rfl
    · exact updateStatus_buckets.trans updateStatus_buckets

theorem not_rowRecords (pending : gang.status = .pending) (outcome : OperationOutcome) :
    ¬ RowRecords gang outcome := by
  cases outcome with
  | success =>
    intro completed
    exact absurd (pending.symm.trans completed) nofun
  | unsafePayload message =>
    rintro ⟨failed, -⟩
    exact absurd (pending.symm.trans failed) nofun
  | raised error =>
    rintro ⟨failed, -⟩
    exact absurd (pending.symm.trans failed) nofun

theorem not_recorded_of_error {error : String} (found : store.gangs.get? gangTaskId = some gang)
    (attempted : Attempted store gang) (raised : gangBody gangTaskId run store = .error error) :
    ¬ Recorded gangTaskId gang run.outcome store (executeGangTask gangTaskId run store) := by
  intro recorded
  rcases recorded.attempted attempted with ⟨row, here, records⟩
  rw [(executeGangTask_of_error raised).1, found] at here
  obtain rfl := Option.some.inj here
  exact not_rowRecords attempted.1 _ records

theorem not_counted {userId : Uuid} {outcome : OperationOutcome}
    (same : after.buckets = store.buckets) : ¬ Counted userId outcome store after := by
  rintro ⟨bucketId, bucket, later, found, -, written, counts⟩
  have here : after.buckets.get? bucketId = some later := by
    rw [written]
    exact get?_set_self
  rw [same, found] at here
  obtain rfl := Option.some.inj here
  cases outcome with
  | success =>
    have := counts.1
    omega
  | unsafePayload message =>
    have := counts.2
    omega
  | raised error =>
    have := counts.2
    omega

theorem bucketsOf_of_same (same : after.buckets = store.buckets) (userId : Uuid) :
    after.bucketsOf userId = store.bucketsOf userId := by
  unfold bucketsOf
  rw [same]

/-- The ways in which a gang run ends whose work has succeeded. -/
inductive Succeeds (owner : Option Uuid) (gangTaskId : Uuid) (store : GangStore) :
    Except String (GangReply × GangStore) -> Prop
  | several {error : String} {userId : Uuid} (owned : owner = some userId)
      (many : ∀ bucketId, store.bucketsOf userId ≠ [bucketId]) :
      Succeeds owner gangTaskId store (.error error)
  | ended {reply : GangReply} {after : GangStore} {row : GangTask}
      (written : after.gangs.get? gangTaskId = some row) (completed : row.status = .completed)
      (clear : GpuTable.Clear (strOfUuid gangTaskId) after.tasks.gpus)
      (charged : ∀ userId, owner = some userId ->
        (store.bucketsOf userId = [] ∧ after.buckets = store.buckets) ∨
          ((∃ bucketId, store.bucketsOf userId = [bucketId]) ∧
            Counted userId .success store after)) :
      Succeeds owner gangTaskId store (.ok (reply, after))

theorem attemptGang_success (found : store.gangs.get? gangTaskId = some gang)
    (success : run.outcome = .success) (owner : Option Uuid) :
    Succeeds owner gangTaskId store (store.attemptGang gangTaskId owner gpuIds run) := by
  have settled := @settled_completed store gangTaskId gang (run.clock 1) found
  unfold attemptGang
  rw [success]
  dsimp only
  generalize (store.markCompleted gangTaskId (run.clock 1)).releaseGang gangTaskId = ended at settled ⊢
  cases owner with
  | none =>
    rcases settled.recorded run.delivery with ⟨⟨row, written, status, -⟩, clear, buckets⟩
    exact .ended written status clear nofun
  | some userId =>
    have same := bucketsOf_of_same settled.buckets userId
    rcases ended.recordGpuUsage_cases userId (executionSeconds (run.clock 0) (run.clock 2)) .completed
      (run.clock 3) with ⟨none, charge⟩ | ⟨bucketId, bucket, single, isBucket, owned, charge⟩ |
        ⟨many, error, charge⟩
    · simp only [chargeOwner, charge]
      rcases settled.recorded run.delivery with ⟨⟨row, written, status, -⟩, clear, buckets⟩
      refine .ended written status clear ?_
      rintro other ⟨⟩
      exact Or.inl ⟨same.symm.trans none, buckets⟩
    · simp only [chargeOwner, charge]
      have charged : Settled gangTaskId (gang.withStatus .completed (run.clock 1))
          { ended with buckets := ended.buckets.set bucketId (bucket.charged
            (executionSeconds (run.clock 0) (run.clock 2)) .completed (run.clock 3)) }
          { ended with buckets := ended.buckets.set bucketId (bucket.charged
            (executionSeconds (run.clock 0) (run.clock 2)) .completed (run.clock 3)) } :=
        ⟨settled.row, settled.clear, rfl⟩
      rcases charged.recorded run.delivery with ⟨⟨row, written, status, -⟩, clear, buckets⟩
      refine .ended written status clear ?_
      rintro other ⟨⟩
      refine Or.inr ⟨⟨bucketId, same.symm.trans single⟩, bucketId, bucket,
        bucket.charged (executionSeconds (run.clock 0) (run.clock 2)) .completed (run.clock 3),
        settled.buckets ▸ isBucket, owned, ?_, rfl, rfl⟩
      rw [buckets, settled.buckets]
    · simp only [chargeOwner, charge]
      exact .several rfl fun bucketId => same ▸ many bucketId

theorem attemptGang_insecure {message : String} (found : store.gangs.get? gangTaskId = some gang)
    (rejected : run.outcome = .unsafePayload message) (owner : Option Uuid) :
    ∃ (reply : GangReply) (after : GangStore) (row : GangTask),
      store.attemptGang gangTaskId owner gpuIds run = .ok (reply, after) ∧
        after.gangs.get? gangTaskId = some row ∧ row.status = .failed ∧ row.error = some message ∧
        GpuTable.Clear (strOfUuid gangTaskId) after.tasks.gpus ∧ after.buckets = store.buckets := by
  have settled := @settled_failed store gangTaskId gang (run.clock 1) message none found
  rcases settled.recorded run.delivery with ⟨⟨row, written, status, error⟩, clear, buckets⟩
  unfold attemptGang
  rw [rejected]
  exact ⟨_, _, row, rfl, written, status, error, clear, buckets⟩

theorem attemptGang_raised {error : String} (raised : run.outcome = .raised error)
    (owner : Option Uuid) :
    ∃ last, store.attemptGang gangTaskId owner gpuIds run = .error last := by
  unfold attemptGang
  rw [raised]
  dsimp only
  generalize chargeOwner _ owner 0 .failed (run.clock 2) = charge
  cases charge with
  | error last => exact ⟨last, rfl⟩
  | ok charged => exact ⟨error, rfl⟩

theorem recorded_success_iff (found : store.gangs.get? gangTaskId = some gang)
    (attempted : Attempted store gang) (success : run.outcome = .success) :
    Recorded gangTaskId gang run.outcome store (executeGangTask gangTaskId run store) ↔
      ∀ userId, gang.userId = some userId ->
        ∃ bucketId, store.bucketsOf userId = [bucketId] := by
  rcases @gangBody_of_attempted _ _ _ run found attempted with
    ⟨middle, row, gpuIds, isRow, buckets, body⟩
  have succeeds := @attemptGang_success _ _ _ run gpuIds isRow success gang.userId
  rw [← body] at succeeds
  have same := bucketsOf_of_same buckets
  cases result : gangBody gangTaskId run store with
  | error error =>
    rw [result] at succeeds
    cases succeeds with
    | several owned many =>
      refine iff_of_false (not_recorded_of_error found attempted result) ?_
      intro single
      rcases single _ owned with ⟨bucketId, only⟩
      exact many bucketId ((same _).trans only)
  | ok returned =>
    rw [result] at succeeds
    cases succeeds with
    | @ended reply after last written completed clear charged =>
      rw [executeGangTask_of_ok result]
      constructor
      · intro recorded userId owned
        rcases charged userId owned with ⟨-, unchanged⟩ | ⟨⟨bucketId, single⟩, -⟩
        · exact absurd (recorded.charged attempted userId owned)
            (not_counted (unchanged.trans buckets))
        · exact ⟨bucketId, (same userId).symm.trans single⟩
      · intro single
        refine ⟨fun _ => ⟨last, written, success ▸ completed⟩, fun waits => absurd attempted waits,
          clear, ?_, fun waits => absurd attempted waits⟩
        intro _ userId owned
        rcases charged userId owned with ⟨none, -⟩ | ⟨-, counted⟩
        · rcases single userId owned with ⟨bucketId, only⟩
          rw [same, only] at none
          cases none
        · unfold Counted at counted ⊢
          rw [success, ← buckets]
          exact counted

theorem recorded_unsafe_iff {message : String} (found : store.gangs.get? gangTaskId = some gang)
    (attempted : Attempted store gang) (rejected : run.outcome = .unsafePayload message) :
    Recorded gangTaskId gang run.outcome store (executeGangTask gangTaskId run store) ↔
      gang.userId = none := by
  rcases @gangBody_of_attempted _ _ _ run found attempted with
    ⟨middle, row, gpuIds, isRow, buckets, body⟩
  rcases @attemptGang_insecure _ _ _ run gpuIds message isRow rejected gang.userId with
    ⟨reply, after, last, returned, written, failed, error, clear, unchanged⟩
  rw [executeGangTask_of_ok (body.trans returned)]
  constructor
  · intro recorded
    cases owned : gang.userId with
    | none => rfl
    | some userId =>
      exact absurd (recorded.charged attempted userId owned) (not_counted (unchanged.trans buckets))
  · intro nobody
    refine ⟨fun _ => ⟨last, written, rejected ▸ ⟨failed, error⟩⟩, fun waits => absurd attempted waits,
      clear, ?_, fun waits => absurd attempted waits⟩
    intro _ userId owned
    rw [nobody] at owned
    cases owned

theorem not_recorded_raised {error : String} (found : store.gangs.get? gangTaskId = some gang)
    (attempted : Attempted store gang) (raised : run.outcome = .raised error) :
    ¬ Recorded gangTaskId gang run.outcome store (executeGangTask gangTaskId run store) := by
  rcases @gangBody_of_attempted _ _ _ run found attempted with
    ⟨middle, row, gpuIds, isRow, buckets, body⟩
  rcases @attemptGang_raised middle gangTaskId run gpuIds error raised gang.userId with ⟨last, failed⟩
  exact not_recorded_of_error found attempted (body.trans failed)

theorem recorded_waiting_iff (found : store.gangs.get? gangTaskId = some gang)
    (waits : ¬ Attempted store gang) :
    Recorded gangTaskId gang run.outcome store (executeGangTask gangTaskId run store) ↔
      gang.status = .pending ∧ GpuTable.Clear (strOfUuid gangTaskId) store.tasks.gpus := by
  by_cases pending : gang.status = .pending
  · rcases @gangBody_of_not_attempted _ _ _ run found pending waits with
      ⟨reply, after, row, returned, written, still, gpus, buckets⟩
    rw [executeGangTask_of_ok returned]
    constructor
    · intro recorded
      exact ⟨pending, gpus ▸ recorded.clear⟩
    · rintro ⟨-, clear⟩
      exact ⟨fun attempted => absurd attempted waits, fun _ => ⟨row, written, still⟩, gpus ▸ clear,
        fun attempted => absurd attempted waits, fun _ => buckets⟩
  · have returned : gangBody gangTaskId run store = .ok (.skipped gang.status, store) := by
      unfold gangBody
      rw [found]
      exact if_pos pending
    rw [executeGangTask_of_ok returned]
    refine iff_of_false ?_ fun both => pending both.1
    intro recorded
    rcases recorded.waiting waits with ⟨row, here, isPending⟩
    obtain rfl := Option.some.inj (found.symm.trans here)
    exact pending isPending

/-- After a run, and the report of its failure if it raised, the outcome is recorded
exactly for the runs of a pending gang that succeed for nobody or for an owner with one
bucket, are rejected for nobody, or wait for devices while none names the gang. -/
theorem gang_outcome_recorded_iff (store : GangStore) (gangTaskId : Uuid) (gang : GangTask)
    (run : GangRun) (found : store.gangs.get? gangTaskId = some gang) :
    Recorded gangTaskId gang run.outcome store (executeGangTask gangTaskId run store) ↔
      Records gangTaskId gang run.outcome store := by
  unfold Records
  by_cases attempted : Attempted store gang
  · rw [and_iff_right attempted.1, and_iff_right attempted, or_iff_left fun both => both.1 attempted]
    cases outcome : run.outcome with
    | success =>
      rw [← outcome, recorded_success_iff found attempted outcome]
      simp [outcome]
    | unsafePayload message =>
      rw [← outcome, recorded_unsafe_iff found attempted outcome]
      simp [outcome]
    | raised error =>
      rw [← outcome]
      refine iff_of_false (not_recorded_raised found attempted outcome) ?_
      simp [outcome]
  · rw [recorded_waiting_iff found attempted]
    simp [attempted]

/-! ## The devices after the runs -/

theorem recordCallback_tasks (store : GangStore) (delivery : Json) :
    (store.recordCallback gangTaskId delivery).tasks = store.tasks := by
  unfold recordCallback
  split
  · rfl
  · split_ifs
    · rfl
    · rfl

theorem chargeOwner_tasks {owner : Option Uuid} {gpuSeconds : Float} {usage : Usage}
    (charged : store.chargeOwner owner gpuSeconds usage now = .ok after) :
    after.tasks = store.tasks := by
  cases owner with
  | none =>
    cases charged
    rfl
  | some userId =>
    change store.recordGpuUsage userId gpuSeconds usage now = .ok after at charged
    rcases store.recordGpuUsage_cases userId gpuSeconds usage now with
      ⟨_, charge⟩ | ⟨_, _, _, _, _, charge⟩ | ⟨_, _, charge⟩
    · rw [charge] at charged
      cases charged
      rfl
    · rw [charge] at charged
      cases charged
      rfl
    · rw [charge] at charged
      cases charged

theorem attemptGang_gpus {owner : Option Uuid} {reply : GangReply}
    (returned : store.attemptGang gangTaskId owner gpuIds run = .ok (reply, after)) :
    after.tasks.gpus = store.tasks.gpus.releaseGang (strOfUuid gangTaskId) := by
  have released : ∀ (status : GangStatus) (fields : GangTask -> GangTask),
      ((store.updateStatus gangTaskId status (run.clock 1) fields).releaseGang gangTaskId).tasks.gpus =
        store.tasks.gpus.releaseGang (strOfUuid gangTaskId) := by
    intro status fields
    rw [← @updateStatus_tasks store gangTaskId (run.clock 1) status fields]
    rfl
  unfold attemptGang at returned
  split at returned
  · obtain ⟨charged, charge, same⟩ := bind_eq_ok.mp returned
    obtain ⟨-, rfl⟩ := Prod.mk.inj (Except.ok.inj same)
    rw [recordCallback_tasks, chargeOwner_tasks charge]
    exact released _ _
  · obtain ⟨-, rfl⟩ := Prod.mk.inj (Except.ok.inj returned)
    rw [recordCallback_tasks]
    exact released _ _
  · obtain ⟨charged, _, impossible⟩ := bind_eq_ok.mp returned
    cases impossible

theorem executeGangTask_gpus (unnamed : store.tasks.gpus.IdleUnnamed)
    (clear : GpuTable.Clear (strOfUuid gangTaskId) store.tasks.gpus) :
    (executeGangTask gangTaskId run store).tasks.gpus = store.tasks.gpus := by
  cases body : gangBody gangTaskId run store with
  | error error => exact (executeGangTask_of_error body).2.1
  | ok done =>
    obtain ⟨reply, after⟩ := done
    rw [executeGangTask_of_ok body]
    unfold gangBody at body
    split at body
    · cases body
      rfl
    next gang found =>
    split_ifs at body with waits
    · cases body
      rfl
    · dsimp only at body
      split at body
      · cases body
        rw [updateStatus_tasks, updateStatus_tasks]
      next gpuIds chosen =>
      rw [updateStatus_tasks] at chosen body
      obtain ⟨distinct, free⟩ := chooseGpus_spec chosen
      rw [GpuTable.allocateGang_all distinct free] at body
      split_ifs at body with empty
      · obtain rfl : gpuIds = [] := by simpa using empty
        cases body
        rw [updateStatus_tasks, GpuTable.allocateGang_nil]
        rfl
      · rw [attemptGang_gpus body, markAllocated, updateStatus_tasks]
        exact GpuTable.releaseGang_allocateGang unnamed clear

/-- Whatever the operations do, the runs of gangs leave every device as it was: none
is kept, and none of another holder is given away. -/
theorem gang_runs_keep_devices (store : GangStore) (runs : List (Uuid × GangRun))
    (unnamed : store.tasks.gpus.IdleUnnamed)
    (clear : ∀ call, call ∈ runs -> GpuTable.Clear (strOfUuid call.1) store.tasks.gpus) :
    (runs.foldl (fun store call => executeGangTask call.1 call.2 store) store).tasks.gpus =
      store.tasks.gpus := by
  induction runs generalizing store with
  | nil => rfl
  | cons call rest ih =>
    have kept : (executeGangTask call.1 call.2 store).tasks.gpus = store.tasks.gpus :=
      executeGangTask_gpus unnamed (clear call List.mem_cons_self)
    refine (ih _ ?_ ?_).trans kept
    · rw [kept]
      exact unnamed
    · intro later member
      rw [kept]
      exact clear later (List.mem_cons_of_mem call member)

def gangId : Uuid := 21

def ownerId : Uuid := 2

def twoGpus : GpuTable :=
  (Dict.empty.set 0 { availableMemoryMb := some 24000 }).set 1 { availableMemoryMb := some 24000 }

def ownedGang : GangTask where
  userId := some ownerId

def gangStore : GangStore where
  tasks := { rooms := Sample.idleRoom, columns := fun _ => {}, gpus := twoGpus }
  gangs := Dict.empty.set gangId ownedGang
  buckets := Dict.empty.set 22 { userId := some ownerId, updatedAt := 0 }

def gangRun (outcome : OperationOutcome) : GangRun where
  outcome := outcome
  clock := fun reading => reading
  traceback := ""
  delivery := .null

theorem gangStore_attempted : Attempted gangStore ownedGang :=
  ⟨rfl, [0, 1], by decide, by decide⟩

/-- The gang of a user with one bucket. -/
theorem successful_gang_recorded :
    Recorded gangId ownedGang .success gangStore
      (executeGangTask gangId (gangRun .success) gangStore) := by
  apply (gang_outcome_recorded_iff gangStore gangId ownedGang (gangRun .success) rfl).mpr
  refine ⟨rfl, Or.inl ⟨gangStore_attempted, Or.inl ⟨rfl, ?_⟩⟩⟩
  rintro userId ⟨⟩
  exact ⟨22, rfl⟩

/-- The operation raises, and the gang is pending again. -/
theorem failed_gang_not_recorded :
    ¬ ∀ (store : GangStore) (gangTaskId : Uuid) (gang : GangTask) (run : GangRun),
      store.gangs.get? gangTaskId = some gang ->
        Recorded gangTaskId gang run.outcome store (executeGangTask gangTaskId run store) := by
  intro recorded
  rcases (recorded gangStore gangId ownedGang (gangRun (.raised "boom")) rfl).attempted
    gangStore_attempted with ⟨row, found, failed, -⟩
  have pending : row.status = .pending := by
    rw [← Option.some.inj found]
    rfl
  exact absurd (pending.symm.trans failed) nofun

theorem twoGpus_free {index : Int} {device : GpuDevice}
    (found : twoGpus.get? index = some device) : device.currentTaskId = none := by
  unfold twoGpus at found
  by_cases second : index = 1
  · rw [second, get?_set_self] at found
    rw [← Option.some.inj found]
  · rw [get?_set_of_ne second] at found
    by_cases first : index = 0
    · rw [first, get?_set_self] at found
      rw [← Option.some.inj found]
    · rw [get?_set_of_ne first] at found
      cases found

/-- A run that raises makes the gang pending, and the next one takes the same two
devices and completes it. -/
theorem twoGpus_kept :
    let after := [(gangId, gangRun (.raised "boom")), (gangId, gangRun .success)].foldl
      (fun store call => executeGangTask call.1 call.2 store) gangStore
    after.tasks.gpus = twoGpus ∧
      (after.gangs.get? gangId).map (fun gang => (gang.status, gang.allocatedGpuIds)) =
        some (.completed, some [0, 1]) := by
  refine ⟨gang_runs_keep_devices gangStore _ (fun index device found _ => twoGpus_free found) ?_, ?_⟩
  · intro call _ index device found named
    rw [twoGpus_free found] at named
    cases named
  · decide +kernel

end GangStore

end Queue
end ZepGpu
