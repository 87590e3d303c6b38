import ZepGpu.Rooms.Tables

namespace ZepGpu
namespace Security

open Foundation Rooms

/-!
# Access control

`AccessControl` keeps one record of usage for every user.  The record counts
the tasks of a period and the tasks that are running, and it is reset as a whole
at the first call that finds its period over.
-/

/-- The limits are whatever numbers a caller gives, negative ones included. -/
structure Quota where
  maxTasks : Int := 100
  maxGpuHours : Float := 24
  maxGpuMemoryMb : Int := 16384
  maxConcurrentTasks : Int := 4
  maxStorageGb : Int := 100

/-- What is counted for a user in the period. -/
structure ResourceUsage where
  tasksSubmitted : Nat := 0
  gpuSeconds : Float := 0
  peakGpuMemoryMb : Int := 0
  concurrentTasks : Nat := 0
  storageUsedGb : Float := 0
  periodStart : Time

/-- `reset` -/
def ResourceUsage.restarted (now : Time) (usage : ResourceUsage) : ResourceUsage :=
  { usage with
    tasksSubmitted := 0
    gpuSeconds := 0
    concurrentTasks := 0
    storageUsedGb := 0
    periodStart := now }

/-- The readings of the clock during a call: when it makes a record, when it asks
whether the period is over, when it starts a new period, and when it computes what
is left of one. -/
structure Clock where
  created : Time
  asked : Time
  started : Time
  measured : Time

/-- A clock that stands still during the call. -/
def Clock.still (now : Time) : Clock :=
  ⟨now, now, now, now⟩

/-- The quotas and the usage of the users. -/
structure AccessControl where
  defaultQuota : Quota := {}
  periodHours : Int := 24
  quotas : Dict String Quota := .empty
  usage : Dict String ResourceUsage := .empty

/-- What `get_remaining_quota` returns. -/
structure RemainingQuota where
  tasksRemaining : Int
  gpuHoursRemaining : Float
  concurrentTasksRemaining : Int
  gpuMemoryRemainingMb : Int
  storageRemainingGb : Float
  periodHoursRemaining : Float

namespace AccessControl

variable (control : AccessControl)

def getQuota (userId : String) : Quota :=
  (control.quotas.get? userId).getD control.defaultQuota

def isPeriodExpired (usage : ResourceUsage) (now : Time) : Prop :=
  usage.periodStart + seconds (control.periodHours * 3600) < now

instance (usage : ResourceUsage) (now : Time) : Decidable (control.isPeriodExpired usage now) :=
  inferInstanceAs (Decidable (_ < _))

def current (clock : Clock) (usage : ResourceUsage) : ResourceUsage :=
  if control.isPeriodExpired usage clock.asked then usage.restarted clock.started else usage

/-- The record that `get_usage` returns. -/
def getUsage (userId : String) (clock : Clock) : ResourceUsage :=
  match control.usage.get? userId with
  | none => { periodStart := clock.created }
  | some usage => control.current clock usage

/-- What `get_usage` leaves behind. -/
def refreshed (userId : String) (clock : Clock) : AccessControl :=
  match control.usage.get? userId with
  | none => control
  | some usage => { control with usage := control.usage.set userId (control.current clock usage) }

/-- The answer of `check_task_submission`, which also leaves the refreshed record. -/
def checkTaskSubmission (userId : String) (gpuMemoryMb : Int) (clock : Clock) : Bool × String :=
  let usage := control.getUsage userId clock
  let quota := control.getQuota userId
  if quota.maxTasks ≤ usage.tasksSubmitted then
    (false, "Task limit reached: " ++ toString quota.maxTasks ++ " tasks per " ++
      toString control.periodHours ++ "h")
  else if quota.maxConcurrentTasks ≤ usage.concurrentTasks then
    (false, "Concurrent task limit reached: " ++ toString quota.maxConcurrentTasks)
  else if quota.maxGpuMemoryMb < gpuMemoryMb then
    (false, "Memory request exceeds limit: " ++ toString quota.maxGpuMemoryMb ++ "MB")
  else (true, "OK")

def recordTaskStart (userId : String) (gpuMemoryMb : Int) (clock : Clock) : AccessControl :=
  let usage := control.current clock
    ((control.usage.get? userId).getD { periodStart := clock.created })
  { control with
    usage := control.usage.set userId { usage with
      tasksSubmitted := usage.tasksSubmitted + 1
      concurrentTasks := usage.concurrentTasks + 1
      peakGpuMemoryMb := max usage.peakGpuMemoryMb gpuMemoryMb } }

def recordTaskEnd (userId : String) (executionSeconds : Float) : AccessControl :=
  match control.usage.get? userId with
  | none => control
  | some usage =>
    { control with
      usage := control.usage.set userId { usage with
        concurrentTasks := usage.concurrentTasks - 1
        gpuSeconds := usage.gpuSeconds + executionSeconds } }

/-- The answer of `get_remaining_quota`, with the refreshed record that it leaves. -/
def getRemainingQuota (userId : String) (clock : Clock) : RemainingQuota × AccessControl :=
  let usage := control.getUsage userId clock
  let quota := control.getQuota userId
  let elapsed := Double.ofRat ((clock.measured - usage.periodStart : Int) / 1000000) / 3600
  let periodElapsed := min elapsed (.ofInt control.periodHours)
  ({ tasksRemaining := max 0 (quota.maxTasks - usage.tasksSubmitted)
     gpuHoursRemaining := max 0 (quota.maxGpuHours - usage.gpuSeconds / 3600)
     concurrentTasksRemaining := max 0 (quota.maxConcurrentTasks - usage.concurrentTasks)
     gpuMemoryRemainingMb := max 0 (quota.maxGpuMemoryMb - usage.peakGpuMemoryMb)
     storageRemainingGb := max 0 (.ofInt quota.maxStorageGb - usage.storageUsedGb)
     periodHoursRemaining := max 0 (.ofInt control.periodHours - periodElapsed) },
    control.refreshed userId clock)

/-! ## The counter of running tasks -/

variable {control} {userId other : String} {clock : Clock} {gpuMemoryMb : Int}

def counted (control : AccessControl) (userId : String) : Nat :=
  ((control.usage.get? userId).map ResourceUsage.concurrentTasks).getD 0

theorem counted_set {usage : ResourceUsage} :
    counted { control with usage := control.usage.set userId usage } userId =
      usage.concurrentTasks := by
  unfold counted
  rw [Dict.get?_set_self]
  rfl

theorem counted_set_of_ne {usage : ResourceUsage} (different : other ≠ userId) :
    counted { control with usage := control.usage.set userId usage } other = control.counted other := by
  unfold counted
  rw [Dict.get?_set_of_ne different]

theorem refreshed_quota : (control.refreshed userId clock).getQuota other = control.getQuota other := by
  unfold refreshed
  split
  · rfl
  · rfl

theorem recordTaskEnd_quota {executionSeconds : Float} :
    (control.recordTaskEnd userId executionSeconds).getQuota other = control.getQuota other := by
  unfold recordTaskEnd
  split
  · rfl
  · rfl

def Resets (control : AccessControl) (userId : String) (clock : Clock) : Prop :=
  ∃ usage, control.usage.get? userId = some usage ∧ control.isPeriodExpired usage clock.asked

instance : Decidable (control.Resets userId clock) :=
  match found : control.usage.get? userId with
  | none => .isFalse (fun ⟨_, same, _⟩ => by rw [found] at same; cases same)
  | some usage =>
    decidable_of_iff (control.isPeriodExpired usage clock.asked) ⟨fun expired => ⟨usage, found, expired⟩,
      fun ⟨_, same, expired⟩ => by rw [found] at same; cases same; exact expired⟩

theorem getUsage_concurrentTasks (kept : ¬ control.Resets userId clock) :
    (control.getUsage userId clock).concurrentTasks = control.counted userId := by
  unfold getUsage counted
  cases found : control.usage.get? userId with
  | none => rfl
  | some usage =>
    dsimp only
    unfold current
    rw [if_neg (fun expired => kept ⟨usage, found, expired⟩)]
    rfl

theorem getUsage_of_resets (resets : control.Resets userId clock) :
    (control.getUsage userId clock).concurrentTasks = 0 := by
  rcases resets with ⟨usage, found, expired⟩
  unfold getUsage
  rw [found]
  dsimp only
  unfold current
  rw [if_pos expired]
  rfl

theorem counted_refreshed :
    (control.refreshed userId clock).counted userId =
      (control.getUsage userId clock).concurrentTasks := by
  unfold refreshed getUsage
  cases found : control.usage.get? userId with
  | none =>
    dsimp only
    unfold counted
    rw [found]
    rfl
  | some usage => exact counted_set

theorem counted_refreshed_of_ne (different : other ≠ userId) :
    (control.refreshed userId clock).counted other = control.counted other := by
  unfold refreshed
  split
  · rfl
  · exact counted_set_of_ne different

theorem counted_recordTaskStart :
    (control.recordTaskStart userId gpuMemoryMb clock).counted userId =
      (control.getUsage userId clock).concurrentTasks + 1 := by
  refine counted_set.trans ?_
  dsimp only
  unfold getUsage
  cases control.usage.get? userId with
  | none =>
    dsimp only [Option.getD_none]
    unfold current
    split_ifs
    · rfl
    · rfl
  | some usage => rfl

theorem counted_recordTaskStart_of_ne (different : other ≠ userId) :
    (control.recordTaskStart userId gpuMemoryMb clock).counted other = control.counted other :=
  counted_set_of_ne different

theorem counted_recordTaskEnd {executionSeconds : Float} :
    (control.recordTaskEnd userId executionSeconds).counted userId = control.counted userId - 1 := by
  unfold recordTaskEnd
  cases found : control.usage.get? userId with
  | none =>
    dsimp only
    unfold counted
    rw [found]
    rfl
  | some usage =>
    dsimp only
    rw [counted_set]
    unfold counted
    rw [found]
    rfl

theorem counted_recordTaskEnd_of_ne {executionSeconds : Float} (different : other ≠ userId) :
    (control.recordTaskEnd userId executionSeconds).counted other = control.counted other := by
  unfold recordTaskEnd
  split
  · rfl
  · exact counted_set_of_ne different

/-- A check that succeeds has found room for one more running task. -/
theorem checkTaskSubmission_room
    (passed : (control.checkTaskSubmission userId gpuMemoryMb clock).1 = true) :
    ((control.getUsage userId clock).concurrentTasks : Int) <
      (control.getQuota userId).maxConcurrentTasks := by
  unfold checkTaskSubmission at passed
  dsimp only at passed
  split_ifs at passed with tasks running
  exact Int.lt_of_not_ge running

end AccessControl

end Security
end ZepGpu
