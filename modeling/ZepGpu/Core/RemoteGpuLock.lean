import ZepGpu.Foundation.Expiring
import ZepGpu.Foundation.Runs

namespace ZepGpu
namespace Core

open Function Foundation

/-!
# The lock of a remote share

A lock is a Redis key that names the task that holds it and that expires.  To
acquire it is one command.  To release it is two: the client reads the holder
and, when it is itself the holder, deletes the key.  Any number of clients send
their commands to one Redis, and a client that is between its two commands
sends no other.
-/

abbrev Redis := Expiring String String

def lockPrefix : String := "zepgpu:vpn:gpu_share:"

def lockKey (share : String) : String := lockPrefix ++ share

namespace RemoteGpuLock

/-- `SET key task NX EX ttl`.  Without a client every lock is granted, and Redis
refuses a time to live that is not positive. -/
def acquire (conn : Option Redis) (share task : String) (ttl : Int) :
    Except String (Bool × Option Redis) :=
  match conn with
  | none => .ok (true, none)
  | some redis =>
    if ttl ≤ 0 then .error "invalid expire time in set command"
    else
      let answer := redis.setIfAbsent (lockKey share) task ttl.toNat
      .ok (answer.1, some answer.2)

/-- The check of `release`: `GET key` answers the task itself. -/
def isHolder (redis : Redis) (share task : String) : Bool :=
  redis.get (lockKey share) == some task

def release (conn : Option Redis) (share task : String) : Bool × Option Redis :=
  match conn with
  | none => (true, none)
  | some redis =>
    if isHolder redis share task then (true, some (redis.delete (lockKey share)))
    else (false, some redis)

variable {share task other : String} {redis : Redis} {ttl : Int}

theorem isHolder_iff : isHolder redis share task = true ↔ redis.get (lockKey share) = some task := by
  simp [isHolder]

theorem release_of_get (held : redis.get (lockKey share) = some task) :
    release (some redis) share task = (true, some (redis.delete (lockKey share))) := by
  simp [release, isHolder_iff.mpr held]

theorem release_of_not_get (other : redis.get (lockKey share) ≠ some task) :
    release (some redis) share task = (false, some redis) := by
  simp [release, isHolder, other]

end RemoteGpuLock

/-! ## Clients of one share -/

/-- `believes` has, for a task whose acquire succeeded and whose release has not
returned, the moment until which it asked for the lock; `checked` has, for a
task that is between the two commands of its release, how many acquires had
succeeded when it read the holder. -/
structure LockState where
  redis : Redis
  acquisitions : Nat
  believes : String -> Option Nat
  checked : String -> Option Nat

/-- A command on one lock, or time that passes. -/
inductive LockCommand
  | acquire (task : String) (ttl : Int)
  | check (task : String)
  | delete (task : String)
  | advance (seconds : Nat)

namespace LockState

open RemoteGpuLock

def initial (redis : Redis) : LockState where
  redis := redis
  acquisitions := 0
  believes := fun _ => none
  checked := fun _ => none

/-- The answer of `acquire` reaches its client. -/
def acquired (state : LockState) (task : String) (ttl : Int) :
    Except String (Bool × Option Redis) -> LockState
  | .ok (true, some redis) =>
    { redis := redis
      acquisitions := state.acquisitions + 1
      believes := update state.believes task (some (state.redis.now + ttl.toNat))
      checked := state.checked }
  | _ => state

def step (share : String) (state : LockState) : LockCommand -> LockState
  | .acquire task ttl =>
    if (state.checked task).isSome then state
    else state.acquired task ttl (acquire (some state.redis) share task ttl)
  | .check task =>
    if (state.checked task).isSome then state
    else if isHolder state.redis share task then
      { state with checked := update state.checked task (some state.acquisitions) }
    else { state with believes := update state.believes task none }
  | .delete task =>
    if (state.checked task).isSome then
      { redis := state.redis.delete (lockKey share)
        acquisitions := state.acquisitions
        believes := update state.believes task none
        checked := update state.checked task none }
    else state
  | .advance seconds => { state with redis := state.redis.advance seconds }

/-- The acquire of the task succeeded, it has not released and its time has not
run out. -/
def Believes (state : LockState) (task : String) : Prop :=
  ∃ expiry, state.believes task = some expiry ∧ state.redis.now < expiry

/-- No two tasks believe that they hold the lock, and who does is stored as the holder. -/
def Exclusive (share : String) (state : LockState) : Prop :=
  (∀ task other, state.Believes task -> state.Believes other -> task = other) ∧
    ∀ task, state.Believes task -> state.redis.get (lockKey share) = some task

/-- A release deletes no lock that another task holds. -/
def DeletesOwn (share : String) (state : LockState) : LockCommand -> Prop
  | .delete task => (state.checked task).isSome ->
      ∀ holder, state.redis.get (lockKey share) = some holder -> holder = task
  | _ => True

/-- When a release gets to its second command the lock is free, or no acquire has
succeeded since its first. -/
def Undisturbed (share : String) (state : LockState) : LockCommand -> Prop
  | .delete task => ∀ seen, state.checked task = some seen ->
      state.redis.get (lockKey share) = none ∨ state.acquisitions = seen
  | _ => True

/-! ## What a check still says -/

variable {share task : String} {state : LockState} {commands : List LockCommand}

/-- Between the two commands of a release the lock is the task's own exactly as
long as nobody acquired it. -/
def ChecksSound (share : String) (state : LockState) : Prop :=
  ∀ task seen, state.checked task = some seen ->
    seen ≤ state.acquisitions ∧
      ∀ holder, state.redis.get (lockKey share) = some holder ->
        (holder = task ↔ state.acquisitions = seen)

theorem acquired_cases (state : LockState) (share task : String) (ttl : Int) :
    state.acquired task ttl (acquire (some state.redis) share task ttl) = state ∨
      ∃ written, state.redis.live (lockKey share) = none ∧
        written.now = state.redis.now ∧
        written.live (lockKey share) = some (task, state.redis.now + ttl.toNat) ∧
        state.acquired task ttl (acquire (some state.redis) share task ttl) =
          { redis := written
            acquisitions := state.acquisitions + 1
            believes := update state.believes task (some (state.redis.now + ttl.toNat))
            checked := state.checked } := by
  by_cases refused : ttl ≤ 0
  · left
    simp [acquire, acquired, refused]
  · have positive : 0 < ttl.toNat := by omega
    rcases state.redis.setIfAbsent_cases (lockKey share) task positive with
      ⟨present, -, answer⟩ | ⟨free, written, answer, clock, now, -⟩
    · left
      simp [acquire, acquired, refused, answer]
    · right
      refine ⟨written, free, clock, now, ?_⟩
      simp [acquire, acquired, refused, answer]

theorem step_checksSound (sound : ChecksSound share state) (command : LockCommand) :
    ChecksSound share (step share state command) := by
  cases command with
  | acquire task ttl =>
    simp only [step]
    split_ifs with busy
    · exact sound
    · rcases acquired_cases state share task ttl with same | ⟨written, -, -, now, same⟩
      · rw [same]
        exact sound
      · rw [same]
        intro client seen checked
        have earlier := (sound client seen checked).1
        refine ⟨Nat.le_succ_of_le earlier, ?_⟩
        intro holder found
        have owner : holder = task := by
          rw [Expiring.get_of_live now] at found
          exact (Option.some.inj found).symm
        have other : task ≠ client := by
          rintro rfl
          exact busy (by rw [show state.checked task = some seen from checked]; rfl)
        constructor
        · intro same
          exact absurd (owner.symm.trans same) other
        · intro same
          simp only at same
          omega
  | check task =>
    simp only [step]
    split_ifs with busy holds
    · exact sound
    · intro client seen checked
      by_cases same : client = task
      · subst same
        simp only [update_self, Option.some.injEq] at checked
        subst checked
        refine ⟨Nat.le_refl _, ?_⟩
        intro holder found
        have owner : state.redis.get (lockKey share) = some client := isHolder_iff.mp holds
        have : holder = client := by
          rw [owner] at found
          exact (Option.some.inj found).symm
        simp [this]
      · simp only [update_of_ne same] at checked
        exact sound client seen checked
    · exact sound
  | delete task =>
    simp only [step]
    split_ifs with busy
    · intro client seen checked
      by_cases same : client = task
      · subst same
        simp at checked
      · simp only [update_of_ne same] at checked
        refine ⟨(sound client seen checked).1, ?_⟩
        intro holder found
        simp [Expiring.get, Expiring.live_delete] at found
    · exact sound
  | advance seconds =>
    intro client seen checked
    refine ⟨(sound client seen checked).1, ?_⟩
    intro holder found
    rcases Expiring.exists_live_of_get found with ⟨expiry, present⟩
    exact (sound client seen checked).2 holder
      (Expiring.get_of_live (Expiring.live_of_live_advance present))

theorem deletesOwn_iff (sound : ChecksSound share state) (command : LockCommand) :
    DeletesOwn share state command ↔ Undisturbed share state command := by
  cases command with
  | delete task =>
    constructor
    · intro own seen checked
      cases found : state.redis.get (lockKey share) with
      | none => exact Or.inl rfl
      | some holder =>
        right
        have same : holder = task := own (by rw [checked]; rfl) holder found
        exact ((sound task seen checked).2 holder found).mp same
    · intro undisturbed busy holder found
      rcases Option.isSome_iff_exists.mp busy with ⟨seen, checked⟩
      rcases undisturbed seen checked with free | same
      · rw [free] at found
        cases found
      · exact ((sound task seen checked).2 holder found).mpr same
  | acquire task ttl => rfl
  | check task => rfl
  | advance seconds => rfl

/-! ## What a client believes -/

/-- Who believes to hold the lock has it, until the moment it asked for. -/
def BeliefsSound (share : String) (state : LockState) : Prop :=
  ∀ task expiry, state.believes task = some expiry -> state.redis.now < expiry ->
    state.redis.live (lockKey share) = some (task, expiry)

theorem BeliefsSound.exclusive (sound : BeliefsSound share state) : Exclusive share state := by
  have holder : ∀ task, state.Believes task ->
      state.redis.get (lockKey share) = some task := by
    rintro task ⟨expiry, believed, remains⟩
    exact Expiring.get_of_live (sound task expiry believed remains)
  refine ⟨?_, holder⟩
  intro task other first second
  have same := (holder task first).symm.trans (holder other second)
  exact Option.some.inj same

theorem step_beliefsSound (sound : BeliefsSound share state) {command : LockCommand}
    (own : DeletesOwn share state command) : BeliefsSound share (step share state command) := by
  cases command with
  | acquire task ttl =>
    simp only [step]
    split_ifs with busy
    · exact sound
    · rcases acquired_cases state share task ttl with same | ⟨written, free, clock, now, same⟩
      · rw [same]
        exact sound
      · rw [same]
        intro client expiry believed remains
        by_cases same : client = task
        · subst same
          simp only [update_self, Option.some.injEq] at believed
          subst believed
          exact now
        · simp only [update_of_ne same] at believed
          have earlier : state.redis.now < expiry := clock ▸ remains
          have present := sound client expiry believed earlier
          rw [free] at present
          cases present
  | check task =>
    simp only [step]
    split_ifs with busy holds
    · exact sound
    · exact sound
    · intro client expiry believed remains
      by_cases same : client = task
      · subst same
        simp at believed
      · simp only [update_of_ne same] at believed
        exact sound client expiry believed remains
  | delete task =>
    simp only [step]
    split_ifs with busy
    · intro client expiry believed remains
      by_cases same : client = task
      · subst same
        simp at believed
      · simp only [update_of_ne same] at believed
        -- a client that still believes would be the holder of what is deleted
        have present := sound client expiry believed remains
        exact absurd (own busy client (Expiring.get_of_live present)) same
    · exact sound
  | advance seconds =>
    intro client expiry believed remains
    have earlier : state.redis.now < expiry := Nat.lt_of_le_of_lt (Nat.le_add_right ..) remains
    exact Expiring.live_advance (sound client expiry believed earlier) remains

theorem checksSound_initial (redis : Redis) : ChecksSound share (initial redis) := by
  intro task seen checked
  cases checked

theorem beliefsSound_initial (redis : Redis) : BeliefsSound share (initial redis) := by
  intro task expiry believed
  cases believed

/-- Over any interleaving, no release deletes the lock of another task and at
every moment the one task that believes to hold the share is the stored holder,
exactly when no lock that was acquired between the two commands of a release is
still there at the second. -/
theorem lock_safe_iff (share : String) (redis : Redis) (commands : List LockCommand) :
    (Meets (step share) (DeletesOwn share) (initial redis) commands ∧
      ∀ front back, commands = front ++ back ->
        Exclusive share (front.foldl (step share) (initial redis))) ↔
      Meets (step share) (Undisturbed share) (initial redis) commands := by
  have always : Meets (step share) (fun _ _ => True) (initial redis) commands :=
    meets_of_forall fun _ _ => trivial
  have same : Meets (step share) (DeletesOwn share) (initial redis) commands ↔
      Meets (step share) (Undisturbed share) (initial redis) commands :=
    always.congr (checksSound_initial redis)
      (fun _ command sound _ => step_checksSound sound command)
      (fun _ command sound _ => deletesOwn_iff sound command)
  rw [← same, and_iff_left_iff_imp]
  rintro own front back rfl
  have sound : BeliefsSound share (front.foldl (step share) (initial redis)) :=
    (meets_append.mp own).1.invariant (beliefsSound_initial redis)
      (fun _ _ sound own => step_beliefsSound sound own)
  exact sound.exclusive

/-- The lock of `a` expires after `a` has checked that it holds it, and `b`
acquires the share before `a` deletes the key. -/
def overtakenRelease : List LockCommand :=
  [.acquire "a" 7200, .check "a", .advance 7200, .acquire "b" 7200, .delete "a"]

/-- The lock expires and is taken by another between the check and the deletion. -/
theorem release_deletes_other_lock :
    ¬ ∀ (share : String) (redis : Redis) (commands : List LockCommand),
      Meets (step share) (DeletesOwn share) (initial redis) commands ∧
        ∀ front back, commands = front ++ back ->
          Exclusive share (front.foldl (step share) (initial redis)) := by
  intro safe
  have run := (safe "s" ⟨0, fun _ => none⟩ overtakenRelease).1
  have last := @Meets.at _ _ _ _ _ (overtakenRelease.take 4) [] _ run
  have same : "b" = "a" := last (by decide) "b" (by decide)
  exact absurd same (by decide)

end LockState

end Core
end ZepGpu
