import ZepGpu.Foundation.Arithmetic
import ZepGpu.Foundation.Runs
import Mathlib.Algebra.Order.Field.Rat
import Mathlib.Data.Rat.Cast.Order
import Mathlib.Tactic.Linarith
import Mathlib.Tactic.NormNum

namespace ZepGpu
namespace Utils

open Foundation List

/-!
# The simulation clock

Simulated time is not stored.  It is the base `_current_time` and, while the clock
is running, the real time since `_start_real` at the speed of the clock.  A call
that sets `_start_real` or stops the clock without adding to the base what has
accrued takes the time back by that much.

Times and speeds are exact rationals, and every call is given its reading of the
real clock.
-/

/-- A clock with a speed, from the moment that it was last set. -/
structure SimulationClock where
  currentTime : Rat
  speed : Rat
  paused : Bool
  startReal : Rat

namespace SimulationClock

/-- `SimulationClock(start_time)`, which reads the real clock for the time to start
from, where none is given, and again for `_start_real`. -/
def create (startTime : Option Rat) (first second : Rat) : SimulationClock where
  currentTime := startTime.getD first
  speed := 1
  paused := false
  startReal := second

def now (self : SimulationClock) (real : Rat) : Rat :=
  if self.paused then self.currentTime
  else self.currentTime + (real - self.startReal) * self.speed

def advance (self : SimulationClock) (delta : Rat) : SimulationClock :=
  { self with currentTime := self.currentTime + delta }

def setSpeed (self : SimulationClock) (speed real : Rat) : SimulationClock :=
  { self with speed := max 0 speed, startReal := real }

def pause (self : SimulationClock) : SimulationClock :=
  { self with paused := true }

def resume (self : SimulationClock) (real : Rat) : SimulationClock :=
  { self with paused := false, startReal := real }

/-- A call of the clock. -/
inductive Call where
  | now
  | advance (delta : Rat)
  | setSpeed (speed : Rat)
  | pause
  | resume
  deriving DecidableEq

def step (self : SimulationClock) : Rat × Call -> SimulationClock
  | (_, .now) => self
  | (_, .advance delta) => self.advance delta
  | (real, .setSpeed speed) => self.setSpeed speed real
  | (_, .pause) => self.pause
  | (real, .resume) => self.resume real

/-- The values that `now` returns in a run. -/
def returned : SimulationClock -> List (Rat × Call) -> List Rat
  | _, [] => []
  | self, (real, .now) :: rest => self.now real :: returned self rest
  | self, call :: rest => returned (self.step call) rest

def Call.delta : Call -> Rat
  | .advance delta => delta
  | _ => 0

def advanced (calls : List (Rat × Call)) : Rat :=
  (calls.map (fun call => call.2.delta)).sum

/-- No value of `now` is below an earlier one, and from a paused clock to the next
`resume` it changes by what is advanced alone. -/
structure RunsForward (clock : SimulationClock) (calls : List (Rat × Call)) : Prop where
  forward : (returned clock calls).Pairwise (· ≤ ·)
  stands : ∀ front stretch back, calls = front ++ stretch ++ back ->
    (front.foldl step clock).paused = true -> (∀ call, call ∈ stretch -> call.2 ≠ .resume) ->
    ∀ real later, ((front ++ stretch).foldl step clock).now later =
      (front.foldl step clock).now real + advanced stretch

/-- The calls after which time goes on from the base. -/
def Rebases : Call -> Prop
  | .setSpeed _ | .pause | .resume => True
  | .now | .advance _ => False

/-- The simulated time that is not in the base yet. -/
def accrued (self : SimulationClock) (real : Rat) : Rat :=
  if self.paused then 0 else (real - self.startReal) * self.speed

/-- Nothing has accrued when the time goes on from the base. -/
def KeepsTime (self : SimulationClock) (call : Rat × Call) : Prop :=
  Rebases call.2 -> self.accrued call.1 = 0

variable {self : SimulationClock} {calls stretch : List (Rat × Call)} {call : Rat × Call} {real later : Rat}

theorem now_eq (self : SimulationClock) (real : Rat) :
    self.now real = self.currentTime + self.accrued real := by
  unfold now accrued
  split_ifs
  · exact (add_zero _).symm
  · rfl

theorem now_mono (speed : 0 ≤ self.speed) (forward : real ≤ later) : self.now real ≤ self.now later := by
  unfold now
  split_ifs
  · exact le_rfl
  · have more := mul_le_mul_of_nonneg_right (sub_le_sub_right forward self.startReal) speed
    exact add_le_add_right more _

/-- A clock whose speed is not negative and that was last rebased no later than
the reading. -/
structure Valid (clock : SimulationClock) (real : Rat) : Prop where
  speed_nonneg : 0 ≤ clock.speed
  startReal_le : clock.startReal ≤ real

theorem Valid.mono (valid : Valid self real) (forward : real ≤ later) : Valid self later :=
  ⟨valid.speed_nonneg, valid.startReal_le.trans forward⟩

theorem Valid.accrued_nonneg (valid : Valid self real) : 0 ≤ self.accrued real := by
  unfold accrued
  split_ifs
  · exact le_rfl
  · exact mul_nonneg (sub_nonneg.mpr valid.startReal_le) valid.speed_nonneg

theorem Valid.step (valid : Valid self call.1) : Valid (self.step call) call.1 := by
  rcases call with ⟨real, call⟩
  cases call with
  | now => exact valid
  | advance delta => exact ⟨valid.speed_nonneg, valid.startReal_le⟩
  | setSpeed speed => exact ⟨le_max_left 0 speed, le_rfl⟩
  | pause => exact ⟨valid.speed_nonneg, valid.startReal_le⟩
  | resume => exact ⟨valid.speed_nonneg, le_rfl⟩

theorem valid_create (startTime : Option Rat) (first second : Rat) :
    Valid (create startTime first second) second :=
  ⟨zero_le_one, le_rfl⟩

theorem now_step_rebases (rebases : Rebases call.2) :
    (self.step call).now call.1 = self.currentTime := by
  rcases call with ⟨real, call⟩
  cases call with
  | now => exact rebases.elim
  | advance delta => exact rebases.elim
  | setSpeed speed => simp [SimulationClock.step, setSpeed, SimulationClock.now]
  | pause => simp [SimulationClock.step, SimulationClock.pause, SimulationClock.now]
  | resume => simp [SimulationClock.step, SimulationClock.resume, SimulationClock.now]

theorem now_le_step_iff (valid : Valid self call.1) (nonneg : 0 ≤ call.2.delta) :
    self.now call.1 ≤ (self.step call).now call.1 ↔ self.KeepsTime call := by
  by_cases rebases : Rebases call.2
  · rw [now_step_rebases rebases, now_eq]
    constructor
    · intro kept _
      exact le_antisymm (by linarith) valid.accrued_nonneg
    · intro keeps
      rw [keeps rebases, add_zero]
  · refine iff_of_true ?_ (fun impossible => absurd impossible rebases)
    rcases call with ⟨real, call⟩
    cases call with
    | now => exact le_rfl
    | advance delta =>
      have same : (self.advance delta).accrued real = self.accrued real := rfl
      rw [SimulationClock.step, now_eq, now_eq, same]
      exact add_le_add_left (le_add_of_nonneg_right nonneg) _
    | setSpeed speed => exact absurd trivial rebases
    | pause => exact absurd trivial rebases
    | resume => exact absurd trivial rebases

theorem step_paused (paused : self.paused = true) (stays : call.2 ≠ .resume) :
    (self.step call).paused = true ∧
      (self.step call).currentTime = self.currentTime + call.2.delta := by
  rcases call with ⟨real, call⟩
  cases call with
  | now => exact ⟨paused, (add_zero _).symm⟩
  | advance delta => exact ⟨paused, rfl⟩
  | setSpeed speed => exact ⟨paused, (add_zero _).symm⟩
  | pause => exact ⟨rfl, (add_zero _).symm⟩
  | resume => exact absurd rfl stays

theorem now_foldl_paused (paused : self.paused = true)
    (stays : ∀ call, call ∈ stretch -> call.2 ≠ .resume) (real later : Rat) :
    (stretch.foldl step self).now later = self.now real + advanced stretch := by
  induction stretch generalizing self with
  | nil =>
    rw [foldl_nil, now, now, if_pos paused, if_pos paused]
    exact (add_zero _).symm
  | cons call rest ih =>
    have next := step_paused paused (stays call mem_cons_self)
    rw [foldl_cons, ih next.1 (fun other member => stays other (mem_cons_of_mem _ member)),
      now, now, if_pos next.1, if_pos paused, next.2, add_assoc]
    rfl

theorem now_stands (clock : SimulationClock) (front stretch : List (Rat × Call))
    (paused : (front.foldl step clock).paused = true)
    (stays : ∀ call, call ∈ stretch -> call.2 ≠ .resume) (real later : Rat) :
    ((front ++ stretch).foldl step clock).now later =
      (front.foldl step clock).now real + advanced stretch := by
  rw [foldl_append]
  exact now_foldl_paused paused stays real later

theorem sorted_cons_cons {first second : Rat} {rest : List Rat} (le : first ≤ second)
    (sorted : (second :: rest).Pairwise (· ≤ ·)) :
    (first :: second :: rest).Pairwise (· ≤ ·) := by
  refine pairwise_cons.mpr ⟨?_, sorted⟩
  intro value member
  rcases mem_cons.mp member with rfl | member
  · exact le
  · exact le.trans (rel_of_pairwise_cons sorted member)

theorem sorted_cons_of_le {first second : Rat} {rest : List Rat} (le : first ≤ second)
    (sorted : (second :: rest).Pairwise (· ≤ ·)) : (first :: rest).Pairwise (· ≤ ·) :=
  (sorted_cons_cons le sorted).sublist ((sublist_cons_self second rest).cons_cons first)

theorem returned_cons (self : SimulationClock) (call : Rat × Call) (rest : List (Rat × Call)) :
    returned self (call :: rest) =
      (if call.2 = .now then [self.now call.1] else []) ++ returned (self.step call) rest := by
  rcases call with ⟨real, call⟩
  cases call with
  | now => rfl
  | advance delta => rfl
  | setSpeed speed => rfl
  | pause => rfl
  | resume => rfl

theorem returned_sorted (valid : Valid self real)
    (forward : (real :: calls.map Prod.fst).Pairwise (· ≤ ·))
    (deltas : ∀ call, call ∈ calls -> 0 ≤ call.2.delta) (meets : Meets step KeepsTime self calls) :
    (self.now real :: returned self calls).Pairwise (· ≤ ·) := by
  induction calls generalizing self real with
  | nil => exact pairwise_singleton _ _
  | cons call rest ih =>
    have ahead : real ≤ call.1 := rel_of_pairwise_cons forward mem_cons_self
    have there := valid.mono ahead
    have reached : self.now real ≤ self.now call.1 := now_mono valid.speed_nonneg ahead
    have passed : self.now call.1 ≤ (self.step call).now call.1 :=
      (now_le_step_iff there (deltas call mem_cons_self)).mpr meets.1
    have rest_sorted := ih there.step forward.of_cons
      (fun other member => deltas other (mem_cons_of_mem _ member)) meets.2
    rw [returned_cons]
    split_ifs with isNow
    · exact sorted_cons_cons reached (sorted_cons_of_le passed rest_sorted)
    · exact sorted_cons_of_le (reached.trans passed) rest_sorted

/-- The run with a call of `now` just before and just after each call. -/
def observed (calls : List (Rat × Call)) : List (Rat × Call) :=
  calls.flatMap (fun call => [(call.1, .now), call, (call.1, .now)])

theorem returned_observed_cons (self : SimulationClock) (call : Rat × Call)
    (rest : List (Rat × Call)) :
    returned self (observed (call :: rest)) =
      self.now call.1 :: ((if call.2 = .now then [self.now call.1] else []) ++
        (self.step call).now call.1 :: returned (self.step call) (observed rest)) := by
  rw [observed, flatMap_cons, cons_append, returned, cons_append, returned_cons]
  rfl

theorem meets_of_observed (valid : Valid self real)
    (forward : (real :: calls.map Prod.fst).Pairwise (· ≤ ·))
    (deltas : ∀ call, call ∈ calls -> 0 ≤ call.2.delta)
    (sorted : (returned self (observed calls)).Pairwise (· ≤ ·)) :
    Meets step KeepsTime self calls := by
  induction calls generalizing self real with
  | nil => trivial
  | cons call rest ih =>
    have there := valid.mono (rel_of_pairwise_cons forward mem_cons_self)
    rw [returned_observed_cons] at sorted
    constructor
    · apply (now_le_step_iff there (deltas call mem_cons_self)).mp
      apply rel_of_pairwise_cons sorted
      exact mem_append_right _ mem_cons_self
    · apply ih there.step forward.of_cons
        (fun other member => deltas other (mem_cons_of_mem _ member))
      exact (pairwise_append.mp sorted.of_cons).2.1.of_cons

theorem observed_forward (forward : (real :: calls.map Prod.fst).Pairwise (· ≤ ·)) :
    (real :: (observed calls).map Prod.fst).Pairwise (· ≤ ·) := by
  induction calls generalizing real with
  | nil => exact pairwise_singleton _ _
  | cons call rest ih =>
    have ahead : real ≤ call.1 := rel_of_pairwise_cons forward mem_cons_self
    have after := ih forward.of_cons
    exact sorted_cons_cons ahead (sorted_cons_cons le_rfl (sorted_cons_cons le_rfl after))

theorem meets_observed (meets : Meets step KeepsTime self calls) :
    Meets step KeepsTime self (observed calls) := by
  induction calls generalizing self with
  | nil => trivial
  | cons call rest ih => exact ⟨False.elim, meets.1, False.elim, ih meets.2⟩

theorem observed_deltas (deltas : ∀ call, call ∈ calls -> 0 ≤ call.2.delta) :
    ∀ call, call ∈ observed calls -> 0 ≤ call.2.delta := by
  intro call member
  rcases mem_flatMap.mp member with ⟨around, listed, member⟩
  simp only [mem_cons, not_mem_nil, or_false] at member
  rcases member with rfl | rfl | rfl
  · exact le_rfl
  · exact deltas call listed
  · exact le_rfl

theorem runsForward_of_meets (valid : Valid self real)
    (forward : (real :: calls.map Prod.fst).Pairwise (· ≤ ·))
    (deltas : ∀ call, call ∈ calls -> 0 ≤ call.2.delta) (meets : Meets step KeepsTime self calls) :
    RunsForward self calls where
  forward := (returned_sorted valid forward deltas meets).of_cons
  stands := fun front stretch _ _ => now_stands self front stretch

/-- Simulated time runs forward in every run that never rebases after time has
accrued.  Any other run goes back, as calls of `now` around its calls show. -/
theorem runs_forward_iff (startTime : Option Rat) (first second : Rat) (calls : List (Rat × Call))
    (forward : (second :: calls.map Prod.fst).Pairwise (· ≤ ·))
    (deltas : ∀ call, call ∈ calls -> 0 ≤ call.2.delta) :
    (Meets step KeepsTime (create startTime first second) calls ->
      RunsForward (create startTime first second) calls) ∧
    (RunsForward (create startTime first second) (observed calls) ↔
      Meets step KeepsTime (create startTime first second) calls) := by
  have valid := valid_create startTime first second
  refine ⟨runsForward_of_meets valid forward deltas, ?_, ?_⟩
  · intro runs
    exact meets_of_observed valid forward deltas runs.forward
  · intro meets
    exact runsForward_of_meets valid (observed_forward forward) (observed_deltas deltas)
      (meets_observed meets)

/-- Set before time accrues, speed and mode lose nothing. -/
theorem runs_forward_sample :
    RunsForward (create (some 100) 0 0)
      [(0, .setSpeed 2), (0, .pause), (3, .advance 5), (4, .now), (6, .resume), (6, .now), (8, .now)] := by
  apply (runs_forward_iff (some 100) 0 0 _ (by norm_num) (by simp [Call.delta])).1
  simp [Meets, KeepsTime, Rebases, accrued, step, create, setSpeed, SimulationClock.pause, advance,
    SimulationClock.resume]

/-- Ten seconds into a run `pause` takes the time back to its start. -/
theorem pause_goes_back :
    ¬ RunsForward (create (some 0) 0 0) [(10, .now), (10, .pause), (10, .now)] := by
  intro runs
  have backwards := runs.forward
  norm_num [returned, step, create, SimulationClock.pause, SimulationClock.now] at backwards

end SimulationClock

end Utils
end ZepGpu
