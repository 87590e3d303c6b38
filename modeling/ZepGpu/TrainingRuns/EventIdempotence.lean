import ZepGpu.Foundation.Runs
import ZepGpu.TrainingRuns.EventSteps

namespace ZepGpu
namespace TrainingRuns

open Foundation Rooms List
open Training (filterSecrets)

/-!
# Repeated events

The identifier of an event is looked up before anything else, and no handler
touches the events that are stored.  A submission that comes again is therefore
answered from the table, in whatever state the run is by then.  Only what is
left of a payload after the redaction is stored and compared.
-/

namespace Stored

variable {E : Environment} {db after : Stored} {id : Uuid} {worker : TrainingWorker}
  {kind : WorkerEventKind} {now : Time} {submission earlier : Submission}

/-! ## What no handler touches -/

/-- A call leaves the stored events alone. -/
structure SameLog (db after : Stored) : Prop where
  events : after.events = db.events
  runId : after.run.id = db.run.id

theorem SameLog.trans {middle : Stored} (first : SameLog db middle) (second : SameLog middle after) :
    SameLog db after :=
  ⟨second.events.trans first.events, second.runId.trans first.runId⟩

theorem entered_sameLog (db : Stored) (state : TrainingRunState) (error : Option String)
    (now : Time) : SameLog db (db.entered state error now) := by
  unfold entered
  dsimp only
  split_ifs
  · exact ⟨rfl, rfl⟩
  · exact ⟨rfl, rfl⟩

theorem Transitions.sameLog {state : TrainingRunState} {error : Option String}
    (done : Transitions db state error now after) : SameLog db after := by
  cases done with
  | kept same => exact ⟨rfl, rfl⟩
  | entered permitted => exact entered_sameLog db state error now

theorem Prepares.sameLog {prepared : Stored} (prepares : Prepares db prepared now) :
    SameLog db prepared := by
  rcases prepares with ⟨-, rfl⟩ | ⟨-, rfl⟩
  · have last := entered_sameLog (db.setRun { db.run with
      startupDeadlineAt := some (now + seconds db.run.config.startupTimeoutSeconds) }) .preparing
      none now
    exact ⟨last.events, last.runId⟩
  · exact ⟨rfl, rfl⟩

theorem Offers.sameLog {stage offered : Stored} (offers : Offers db stage offered) :
    SameLog stage offered := by
  rcases offers with rfl | ⟨clean, -, rfl⟩
  · exact ⟨rfl, rfl⟩
  · exact ⟨rfl, rfl⟩

theorem setWorker_sameLog (db : Stored) (id : Uuid) (worker : TrainingWorker) :
    SameLog db (db.setWorker id worker) :=
  ⟨rfl, rfl⟩

theorem failing_sameLog (db : Stored) (error : Option String) (id : Uuid) (now : Time) :
    SameLog db (db.failing error id now) :=
  (entered_sameLog db .failed error now).trans ⟨rfl, rfl⟩

theorem aborting_sameLog (db : Stored) (now : Time) : SameLog db (db.aborting now) :=
  (entered_sameLog db .cancelled none now).trans ⟨rfl, rfl⟩

theorem Handled.sameLog (handled : Handled db id worker now kind after) : SameLog db after := by
  cases handled with
  | readied prepared later prepares => exact prepares.sameLog.trans (setWorker_sameLog _ _ _)
  | readiedAll prepared later prepares =>
    exact (prepares.sameLog.trans (setWorker_sameLog _ _ _)).trans (entered_sameLog _ _ _ _)
  | roundStartedFirst => exact (setWorker_sameLog db _ _).trans (entered_sameLog _ _ _ _)
  | roundCompletedAll number later version state round done =>
    exact ⟨done.sameLog.events, done.sameLog.runId⟩
  | roundFailedRun => exact (setWorker_sameLog db _ _).trans (failing_sameLog _ _ _ _)
  | checkpointing later state round done => exact (setWorker_sameLog db _ _).trans done.sameLog
  | checkpointed later offered state round offers =>
    exact (setWorker_sameLog db _ _).trans offers.sameLog
  | checkpointedAll later offered state round offers =>
    exact ((setWorker_sameLog db _ _).trans offers.sameLog).trans (entered_sameLog _ _ _ _)
  | shutdownRun => exact (setWorker_sameLog db _ _).trans (failing_sameLog _ _ _ _)
  | aborted => exact (setWorker_sameLog db _ _).trans (aborting_sameLog _ _)
  | completedAll => exact (setWorker_sameLog db _ _).trans (entered_sameLog _ _ _ _)
  | _ => exact ⟨rfl, rfl⟩

/-! ## Submissions -/

/-- `record_worker_event` in the transaction of its request. -/
def submit (E : Environment) (db : Stored) (submission : Submission) (now : Time) :
    Outcome Stored RunError Bool :=
  transaction (fun db => db.recordWorkerEvent E submission now) db

/-- What the answer to an event says about the events that were stored. -/
inductive Submitted (E : Environment) (db : Stored) (submission : Submission) (now : Time) :
    Except RunError Bool -> Stored -> Prop where
  | known (existing : TrainingWorkerEvent)
      (found : db.events.get? submission.eventId = some existing)
      (repeated : db.repeats submission existing = true) :
      Submitted E db submission now (.ok false) db
  | refused (error : RunError) : Submitted E db submission now (.error error) db
  | recorded (after : Stored) (fresh : db.events.get? submission.eventId = none)
      (written : after.events = db.events.set submission.eventId (db.eventOf submission))
      (runId : after.run.id = db.run.id) : Submitted E db submission now (.ok true) after

theorem submitted (E : Environment) (db : Stored) (submission : Submission) (now : Time) :
    Submitted E db submission now (db.submit E submission now).result
      (db.submit E submission now).state := by
  rcases transaction_cases (fun db => db.recordWorkerEvent E submission now) db with
    ⟨error, failed⟩ | ⟨value, written, done, committed⟩
  · rw [show db.submit E submission now = _ from failed]
    exact .refused error
  rw [show db.submit E submission now = _ from committed]
  unfold recordWorkerEvent at done
  split at done
  · next existing found =>
      split_ifs at done with repeated
      cases done
      exact .known existing found repeated
  · next fresh =>
      unfold recordNew at done
      split at done
      · cases done
      · rw [raiseIf_bind_eq_ok, bind_eq_ok] at done
        rcases done with ⟨running, handled, applied, same⟩
        obtain ⟨rfl, rfl⟩ := Prod.mk.inj (Except.ok.inj same)
        rw [not_or, Bool.not_eq_true] at running
        have running : ({ db with
            events := db.events.set submission.eventId (db.eventOf submission) } : Stored
            ).run.state.isTerminal = false := running.1
        have kept := (handled_of_ok running applied).sameLog
        exact .recorded _ fresh kept.events kept.runId

/-- A submission with the time of its arrival, and whether it is one that was
inserted as a repetition. -/
structure Arrival where
  submission : Submission
  now : Time
  inserted : Bool

open Sample

def heartbeat (fields : List (String × Json)) (keyed : (Json.obj fields).keyed = true)
    (inserted : Bool) : Arrival where
  submission := {
    workerId := firstWorker
    eventId := 7
    kind := .heartbeat
    occurredAt := 0
    payload := .obj fields
    keyed := keyed }
  now := 0
  inserted := inserted

def twice : List Arrival :=
  [heartbeat [("token", .str "a")] rfl false, heartbeat [("token", .str "a")] rfl true]

end Stored

end TrainingRuns
end ZepGpu
