import ZepGpu.Foundation.Runs
import ZepGpu.Security.AccessControl

namespace ZepGpu
namespace Security

open Function Foundation Rooms

/-!
# The limit on concurrent tasks

A task is started right after a successful check, so that the limit holds as
long as the counter of the record is the number of tasks that are running.  The
reset at the end of a period sets the counter to zero with everything else, also
while tasks are running.
-/

/-- A call of the access control from a request. -/
inductive Call where
  | checkTaskSubmission (userId : String) (gpuMemoryMb : Int) (clock : Clock)
  | recordTaskStart (userId : String) (gpuMemoryMb : Int) (clock : Clock)
  | recordTaskEnd (userId : String) (executionSeconds : Float)
  | getUsage (userId : String) (clock : Clock)
  | getRemainingQuota (userId : String) (clock : Clock)

/-- The counters beside the tasks that are really in progress. -/
structure Usage where
  control : AccessControl
  /-- The tasks of a user that have started and not ended. -/
  inFlight : String -> Nat := fun _ => 0
  /-- The user for whom the call just before was a successful check. -/
  admitted : Option String := none

namespace Usage

variable (state : Usage)

/-- One call.  A task starts only after a successful check for its user, and ends
only after it has started; a call against this rule is not made. -/
def step : Call -> Usage
  | .checkTaskSubmission userId gpuMemoryMb clock =>
    { state with
      control := state.control.refreshed userId clock
      admitted :=
        if (state.control.checkTaskSubmission userId gpuMemoryMb clock).1 = true then some userId
        else none }
  | .recordTaskStart userId gpuMemoryMb clock =>
    if state.admitted = some userId then
      { control := state.control.recordTaskStart userId gpuMemoryMb clock
        inFlight := update state.inFlight userId (state.inFlight userId + 1)
        admitted := none }
    else state
  | .recordTaskEnd userId executionSeconds =>
    if 0 < state.inFlight userId then
      { control := state.control.recordTaskEnd userId executionSeconds
        inFlight := update state.inFlight userId (state.inFlight userId - 1)
        admitted := none }
    else state
  | .getUsage userId clock =>
    { state with control := state.control.refreshed userId clock, admitted := none }
  | .getRemainingQuota userId clock =>
    { state with control := (state.control.getRemainingQuota userId clock).2, admitted := none }

/-- No user has more tasks running than its quota says. -/
def WithinQuota : Prop :=
  ∀ userId, (state.inFlight userId : Int) ≤ (state.control.getQuota userId).maxConcurrentTasks

/-- The call does not reset the record of a user with running tasks. -/
def Undisturbed (state : Usage) : Call -> Prop
  | .checkTaskSubmission userId _ clock => state.control.Resets userId clock -> state.inFlight userId = 0
  | .recordTaskStart userId _ clock => state.control.Resets userId clock -> state.inFlight userId = 0
  | .recordTaskEnd _ _ => True
  | .getUsage userId clock => state.control.Resets userId clock -> state.inFlight userId = 0
  | .getRemainingQuota userId clock => state.control.Resets userId clock -> state.inFlight userId = 0

instance (call : Call) : Decidable (Undisturbed state call) :=
  match call with
  | .checkTaskSubmission .. => inferInstanceAs (Decidable (_ -> _))
  | .recordTaskStart .. => inferInstanceAs (Decidable (_ -> _))
  | .recordTaskEnd .. => .isTrue trivial
  | .getUsage .. => inferInstanceAs (Decidable (_ -> _))
  | .getRemainingQuota .. => inferInstanceAs (Decidable (_ -> _))

/-! ## What undisturbed calls keep -/

variable {state} {userId : String} {clock : Clock} {gpuMemoryMb : Int}

/-- The counter of a record is the number of running tasks.  A limit below zero is
exceeded by no tasks at all, so the bound is about the other ones. -/
structure Counting (state : Usage) : Prop where
  counted : ∀ userId, state.control.counted userId = state.inFlight userId
  within : ∀ userId, 0 ≤ (state.control.getQuota userId).maxConcurrentTasks ->
    (state.inFlight userId : Int) ≤ (state.control.getQuota userId).maxConcurrentTasks
  room : ∀ userId, state.admitted = some userId ->
    (state.inFlight userId : Int) < (state.control.getQuota userId).maxConcurrentTasks

theorem Counting.getUsage (counting : state.Counting)
    (undisturbed : state.control.Resets userId clock -> state.inFlight userId = 0) :
    (state.control.getUsage userId clock).concurrentTasks = state.inFlight userId := by
  by_cases resets : state.control.Resets userId clock
  · rw [AccessControl.getUsage_of_resets resets, undisturbed resets]
  · rw [AccessControl.getUsage_concurrentTasks resets, counting.counted]

theorem Counting.refreshed {admitted : Option String} (counting : state.Counting)
    (undisturbed : state.control.Resets userId clock -> state.inFlight userId = 0)
    (room : ∀ other, admitted = some other ->
      (state.inFlight other : Int) < (state.control.getQuota other).maxConcurrentTasks) :
    Counting { state with control := state.control.refreshed userId clock, admitted := admitted } where
  counted := by
    intro other
    rcases eq_or_ne other userId with rfl | different
    · exact AccessControl.counted_refreshed.trans (counting.getUsage undisturbed)
    · exact (AccessControl.counted_refreshed_of_ne different).trans (counting.counted other)
  within := by
    intro other
    dsimp only
    rw [AccessControl.refreshed_quota]
    exact counting.within other
  room := by
    intro other same
    dsimp only
    rw [AccessControl.refreshed_quota]
    exact room other same

theorem Counting.start (counting : state.Counting) (admitted : state.admitted = some userId)
    (undisturbed : state.control.Resets userId clock -> state.inFlight userId = 0) :
    Counting {
      control := state.control.recordTaskStart userId gpuMemoryMb clock
      inFlight := update state.inFlight userId (state.inFlight userId + 1)
      admitted := none } where
  counted := by
    intro other
    dsimp only
    rcases eq_or_ne other userId with rfl | different
    · rw [AccessControl.counted_recordTaskStart, counting.getUsage undisturbed, update_self]
    · rw [AccessControl.counted_recordTaskStart_of_ne different, update_of_ne different]
      exact counting.counted other
  within := by
    intro other
    dsimp only
    rcases eq_or_ne other userId with rfl | different
    · rw [update_self]
      exact fun _ => Int.add_one_le_of_lt (counting.room other admitted)
    · rw [update_of_ne different]
      exact counting.within other
  room := by
    intro other same
    cases same

theorem Counting.finish {executionSeconds : Float} (counting : state.Counting) :
    Counting {
      control := state.control.recordTaskEnd userId executionSeconds
      inFlight := update state.inFlight userId (state.inFlight userId - 1)
      admitted := none } where
  counted := by
    intro other
    dsimp only
    rcases eq_or_ne other userId with rfl | different
    · rw [AccessControl.counted_recordTaskEnd, counting.counted, update_self]
    · rw [AccessControl.counted_recordTaskEnd_of_ne different, update_of_ne different]
      exact counting.counted other
  within := by
    intro other
    dsimp only
    rw [AccessControl.recordTaskEnd_quota]
    rcases eq_or_ne other userId with rfl | different
    · rw [update_self]
      exact fun limit => (Int.ofNat_le.mpr (Nat.sub_le _ _)).trans (counting.within other limit)
    · rw [update_of_ne different]
      exact counting.within other
  room := by
    intro other same
    cases same

theorem counting_step (state : Usage) (call : Call) (counting : state.Counting)
    (undisturbed : Undisturbed state call) : (state.step call).Counting := by
  cases call with
  | checkTaskSubmission userId gpuMemoryMb clock =>
    refine counting.refreshed undisturbed (fun other admitted => ?_)
    split_ifs at admitted with passed
    cases admitted
    rw [← counting.getUsage undisturbed]
    exact AccessControl.checkTaskSubmission_room passed
  | recordTaskStart userId gpuMemoryMb clock =>
    unfold step
    dsimp only
    split_ifs with admitted
    · exact counting.start admitted undisturbed
    · exact counting
  | recordTaskEnd userId executionSeconds =>
    unfold step
    dsimp only
    split_ifs
    · exact counting.finish
    · exact counting
  | getUsage userId clock =>
    exact counting.refreshed undisturbed (fun other none => by cases none)
  | getRemainingQuota userId clock =>
    exact counting.refreshed undisturbed (fun other none => by cases none)

/-- An access control that has not been used, with any quotas. -/
def unused (defaultQuota : Quota) (periodHours : Int) (quotas : Dict String Quota) : Usage where
  control := { defaultQuota := defaultQuota, periodHours := periodHours, quotas := quotas }

theorem counting_unused {defaultQuota : Quota} {periodHours : Int} {quotas : Dict String Quota} :
    (unused defaultQuota periodHours quotas).Counting where
  counted := fun userId => rfl
  within := fun userId limit => limit
  room := by
    intro userId same
    cases same

theorem step_quota (state : Usage) (call : Call) (userId : String) :
    (state.step call).control.getQuota userId = state.control.getQuota userId := by
  cases call with
  | checkTaskSubmission user gpuMemoryMb clock => exact AccessControl.refreshed_quota
  | recordTaskStart user gpuMemoryMb clock =>
    unfold step
    dsimp only
    split_ifs
    · rfl
    · rfl
  | recordTaskEnd user executionSeconds =>
    unfold step
    dsimp only
    split_ifs
    · exact AccessControl.recordTaskEnd_quota
    · rfl
  | getUsage user clock => exact AccessControl.refreshed_quota
  | getRemainingQuota user clock => exact AccessControl.refreshed_quota

theorem run_quota (state : Usage) (calls : List Call) (userId : String) :
    (calls.foldl step state).control.getQuota userId = state.control.getQuota userId :=
  @foldl_invariant _ _ _ _ _ (fun later => later.control.getQuota userId =
    state.control.getQuota userId) rfl fun later call same => (step_quota later call userId).trans same

/-- In a run in which no call resets the record of a user with running tasks, no
user ever has more tasks running than its quota says, exactly when no quota says
less than zero. -/
theorem withinQuota_of_undisturbed (defaultQuota : Quota) (periodHours : Int)
    (quotas : Dict String Quota) (calls : List Call)
    (undisturbed : Meets step Undisturbed (unused defaultQuota periodHours quotas) calls) :
    (∀ front back, calls = front ++ back ->
      (front.foldl step (unused defaultQuota periodHours quotas)).WithinQuota) ↔
      ∀ userId, 0 ≤ ((unused defaultQuota periodHours quotas).control.getQuota
        userId).maxConcurrentTasks := by
  constructor
  · intro within userId
    exact within [] calls rfl userId
  · intro limits front back split userId
    rw [split] at undisturbed
    have counting := (meets_append.mp undisturbed).1.invariant counting_unused counting_step
    apply counting.within
    rw [run_quota]
    exact limits userId

def single : Quota where
  maxConcurrentTasks := 1

/-- A task ends before its period does, and another one starts in the next. -/
def inTurn : List Call :=
  [.checkTaskSubmission "user" 1024 (.still 0), .recordTaskStart "user" 1024 (.still 0),
    .recordTaskEnd "user" 60, .checkTaskSubmission "user" 1024 (.still (seconds 90000)),
    .recordTaskStart "user" 1024 (.still (seconds 90000))]

/-- Two tasks of a user whose quota is one, in turn. -/
theorem withinQuota_inTurn : (inTurn.foldl step (unused single 24 .empty)).WithinQuota :=
  (withinQuota_of_undisturbed single 24 .empty inTurn
    ⟨by decide, by decide, by decide, by decide, by decide, trivial⟩).mpr
    (fun _ => Int.one_nonneg) inTurn [] (List.append_nil _).symm

def overlapping : List Call :=
  [.checkTaskSubmission "user" 1024 (.still 0), .recordTaskStart "user" 1024 (.still 0),
    .checkTaskSubmission "user" 1024 (.still (seconds 90000)),
    .recordTaskStart "user" 1024 (.still (seconds 90000))]

/-- The check after the end of the period resets the counter and lets a second
task start. -/
theorem overlapping_exceeds :
    (overlapping.foldl step (unused single 24 .empty)).inFlight "user" = 2 ∧
      ¬ (overlapping.foldl step (unused single 24 .empty)).WithinQuota := by
  have started : (overlapping.foldl step (unused single 24 .empty)).inFlight "user" = 2 := by decide
  refine ⟨started, fun within => ?_⟩
  have limit := within "user"
  rw [started] at limit
  exact absurd limit (by decide)

end Usage

end Security
end ZepGpu
