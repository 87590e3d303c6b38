import ZepGpu.Foundation.Runs
import ZepGpu.Training.Rounds

namespace ZepGpu
namespace Training

open Foundation
open Reference (platform)

/-!
# Rounds finalized before their deadline

Before the deadline a round is finalized when it holds as many updates as there
are active workers.  The updates are counted, not compared with the workers: an
update of a worker that has left or failed since stands in for one that an
active worker has not sent.
-/

namespace Coordinator

variable {N : Numpy} {P : Platform} {c : Coordinator N} {active : Round N}

def missing (c : Coordinator N) (active : Round N) : List String :=
  c.activeWorkerIds.filter (fun worker => worker ∉ active.updates.keys)

def departed (c : Coordinator N) (active : Round N) : List String :=
  active.updates.keys.filter (fun worker => worker ∉ c.activeWorkerIds)

/-- The updates of the round can be averaged and applied. -/
def Aggregates (c : Coordinator N) (active : Round N) : Prop :=
  ∃ update values, c.averaged active = .ok update ∧
    (c.outerOptimizer.apply c.globalState update).result = .ok values

/-- The deadline of the round has not passed. -/
def BeforeDeadline (c : Coordinator N) (now : Int) : Prop :=
  ∀ active, c.activeRound = some active -> now < active.deadlineAt

/-- A finalization before the deadline, without the early switch, finds an
update of every active worker. -/
def FinalizesComplete (P : Platform) (c : Coordinator N) : Call N -> Prop
  | .finalizeRound now false wall =>
    BeforeDeadline c now -> ∀ round,
      finalization c (c.perform P (.finalizeRound now false wall)) = some round ->
        ∀ worker, worker ∈ c.activeWorkerIds -> worker ∈ round.updates.keys
  | _ => True

/-- Where a round could be finalized, departed workers do not make up for the
missing ones: if any is missing, fewer have departed. -/
def NotMadeUp (c : Coordinator N) : Call N -> Prop
  | .finalizeRound now false _ =>
    BeforeDeadline c now -> ∀ active, c.activeRound = some active ->
      active.state ≠ .finalized -> c.job.minK ≤ active.updates.keys.length ->
        Aggregates c active -> 0 < (c.missing active).length ->
          (c.departed active).length < (c.missing active).length
  | _ => True

theorem nodup_activeWorkerIds (c : Coordinator N) : c.activeWorkerIds.Nodup := by
  rw [activeWorkerIds, (List.perm_insertionSort _ _).nodup_iff]
  exact c.members.nodup.filter _

theorem length_missing_departed (c : Coordinator N) (active : Round N) :
    c.activeWorkerIds.length + (c.departed active).length =
      active.updates.keys.length + (c.missing active).length := by
  have split : ∀ (list other : List String),
      list.length = (list.filter (fun worker => worker ∈ other)).length +
        (list.filter (fun worker => worker ∉ other)).length := by
    intro list other
    rw [List.length_eq_length_filter_add (l := list) (fun worker => worker ∈ other)]
    simp
  have common : (c.activeWorkerIds.filter (fun worker => worker ∈ active.updates.keys)).length =
      (active.updates.keys.filter (fun worker => worker ∈ c.activeWorkerIds)).length := by
    apply List.Perm.length_eq
    refine (List.perm_ext_iff_of_nodup ((nodup_activeWorkerIds c).filter _)
      (active.updates.nodup.filter _)).mpr ?_
    intro worker
    simp only [List.mem_filter, decide_eq_true_eq]
    exact And.comm
  have left := split c.activeWorkerIds active.updates.keys
  have right := split active.updates.keys c.activeWorkerIds
  rw [← missing] at left
  rw [← departed] at right
  omega

theorem missing_eq_nil_iff :
    c.missing active = [] ↔
      ∀ worker, worker ∈ c.activeWorkerIds -> worker ∈ active.updates.keys := by
  simp [missing, List.filter_eq_nil_iff]

/-- The round is pending, holds enough updates that can be aggregated, and does
not have to wait any longer. -/
structure Due (c : Coordinator N) (now : Int) (allow : Bool) (active : Round N) : Prop where
  isActive : c.activeRound = some active
  pending : active.state ≠ .finalized
  ready : ¬ (active.updates.keys.length < c.activeWorkerIds.length ∧ now < active.deadlineAt ∧
    allow = false)
  enough : c.job.minK ≤ active.updates.keys.length
  aggregates : Aggregates c active

theorem Due.finalization {now wall : Int} {allow : Bool} (due : Due c now allow active) :
    finalization c (c.finalizeRound now allow wall).state = some { active with state := .finalized } := by
  obtain ⟨update, values, isMean, applied⟩ := due.aggregates
  have after : (c.finalizeRound now allow wall).state = c.finalizing active update values wall := by
    rw [finalizeRound, due.isActive]
    dsimp only
    rw [if_neg due.pending, if_neg due.ready, if_neg (not_lt.mpr due.enough), isMean]
    dsimp only
    rw [applied]
    rfl
  have isActive : (c.finalizing active update values wall).activeRound =
      some { active with state := .finalized } := rfl
  rw [after, Coordinator.finalization, isActive, Option.filter_some, if_pos]
  rw [decide_eq_true_eq, due.isActive, Option.any_some, decide_eq_false_iff_not]
  exact ⟨rfl, due.pending⟩

theorem finalization_of_not_due {now wall : Int} {allow : Bool}
    (notDue : ∀ active, ¬ Due c now allow active) :
    finalization c (c.finalizeRound now allow wall).state = none := by
  rw [finalizeRound]
  cases isActive : c.activeRound with
  | none => exact finalization_kept rfl
  | some active =>
    dsimp only
    split_ifs with ended waiting few early
    · cases c.metrics.getLast? <;> exact finalization_kept rfl
    · exact finalization_kept rfl
    · exact finalization_kept rfl
    · exact finalization_of_pending rfl RoundState.noConfusion
    · cases isMean : c.averaged active with
      | error error => exact finalization_kept rfl
      | ok update =>
        dsimp only
        cases applied : (c.outerOptimizer.apply c.globalState update).result with
        | error error =>
          dsimp only
          exact finalization_kept isActive.symm
        | ok values =>
          exact absurd ⟨isActive, ended, waiting, not_lt.mp few, update, values, isMean, applied⟩
            (notDue active)

theorem finalization_finalizeRound_iff {now wall : Int} {allow : Bool} {round : Round N} :
    finalization c (c.finalizeRound now allow wall).state = some round ↔
      ∃ active, Due c now allow active ∧ round = { active with state := .finalized } := by
  by_cases due : ∃ active, Due c now allow active
  · obtain ⟨active, due⟩ := due
    rw [due.finalization]
    constructor
    · intro same
      exact ⟨active, due, (Option.some.inj same).symm⟩
    · rintro ⟨other, otherDue, rfl⟩
      rw [Option.some.inj (due.isActive.symm.trans otherDue.isActive)]
  · rw [finalization_of_not_due (fun active isDue => due ⟨active, isDue⟩)]
    constructor
    · intro impossible
      cases impossible
    · rintro ⟨active, isDue, _⟩
      exact absurd ⟨active, isDue⟩ due

theorem finalizesComplete_iff (P : Platform) (c : Coordinator N) (call : Call N) :
    FinalizesComplete P c call ↔ NotMadeUp c call := by
  cases call with
  | finalizeRound now allow wall =>
    cases allow with
    | true => exact Iff.rfl
    | false =>
      constructor
      · intro complete early active isActive pending enough aggregates some_
        by_contra many
        have counts := length_missing_departed c active
        have due : Due c now false active :=
          ⟨isActive, pending, fun waiting => by omega, enough, aggregates⟩
        have none : c.missing active = [] :=
          missing_eq_nil_iff.mpr
            (complete early { active with state := .finalized } due.finalization)
        rw [none] at some_
        exact absurd some_ (by decide)
      · intro notMadeUp early round finalized
        obtain ⟨active, due, rfl⟩ := finalization_finalizeRound_iff.mp finalized
        have counts := length_missing_departed c active
        have full : ¬ active.updates.keys.length < c.activeWorkerIds.length :=
          fun few => due.ready ⟨few, early active due.isActive, rfl⟩
        have fewer := notMadeUp early active due.isActive due.pending due.enough due.aggregates
        have none : c.missing active = [] := by
          rw [← List.length_eq_zero_iff]
          omega
        exact missing_eq_nil_iff.mp none
  | _ => exact Iff.rfl

/-- In a run of any coordinator, new or restored, every finalization before the
deadline finds an update of each active worker, exactly when in no call that
could finalize so many contributors have departed as active workers are
missing. -/
theorem finalizations_complete_iff (P : Platform) (start : Coordinator N) (calls : List (Call N)) :
    Meets (perform P) (FinalizesComplete P) start calls ↔ Meets (perform P) NotMadeUp start calls :=
  ⟨fun meets => meets.imp (fun c call => (finalizesComplete_iff P c call).mp),
    fun meets => meets.imp (fun c call => (finalizesComplete_iff P c call).mpr)⟩

/-- The first worker sends its update and fails, and the round is finalized
long before its deadline without the second worker. -/
def departedCalls : List (Call Reference.numpy) :=
  [.startRound 0,
    .submitEncoded (Reference.updateBytes Reference.firstWorker Reference.firstTransfer 1
      Reference.packedOne (utf8 "4")) 1700000000000000001,
    .markFailed (platform.strOfUuid Reference.firstWorker) "connection lost",
    .finalizeRound 1 false 5]

/-- The one update is of a worker that has left, and the other has sent none. -/
theorem departed_worker_counted :
    new platform (platform.strOfUuid Reference.roomId)
      (platform.strOfUuid Reference.runId) (Reference.config false) (Reference.tensors 0)
      Reference.workers (.obj []) [] ⟨Dict.empty⟩ = .ok (Reference.start false) ∧
    ¬ Meets (perform platform) (FinalizesComplete platform)
      (Reference.start false) departedCalls := by
  refine ⟨Reference.new_start false, fun complete => ?_⟩
  have last : FinalizesComplete platform
      ((departedCalls.take 3).foldl (perform platform) (Reference.start false))
      (.finalizeRound 1 false 5) := Meets.at complete
  have facts : ((departedCalls.take 3).foldl (perform platform)
      (Reference.start false)).activeRound.all (fun active => 1 < active.deadlineAt) = true ∧
    (platform.strOfUuid Reference.secondWorker) ∈ ((departedCalls.take 3).foldl
      (perform platform) (Reference.start false)).activeWorkerIds ∧
    (finalization ((departedCalls.take 3).foldl (perform platform) (Reference.start false))
      (((departedCalls.take 3).foldl (perform platform) (Reference.start false)).perform
        platform (.finalizeRound 1 false 5))).any (fun round =>
          platform.strOfUuid Reference.secondWorker ∉ round.updates.keys) = true := by
    decide +kernel
  obtain ⟨early, isActive, incomplete⟩ := facts
  obtain ⟨round, finalized, absent⟩ := Option.any_eq_true _ _ |>.mp incomplete
  refine of_decide_eq_true absent (last ?_ round finalized _ isActive)
  intro active found
  rw [found, Option.all_some, decide_eq_true_eq] at early
  exact early

end Coordinator

end Training
end ZepGpu
