import ZepGpu.Foundation.Credit
import Mathlib.Algebra.Order.Field.Rat
import Mathlib.Data.Rat.Cast.Order

namespace ZepGpu
namespace Utils

open Foundation

/-!
# The rate limiter of task submissions

Times and tokens are exact rationals, and every call is given its reading of the
clock.  The code keeps both in doubles: what is proved here is about the counts
without rounding.
-/

/-- The token bucket and the time of its last refill. -/
structure RateLimiter where
  maxPerSecond : Rat
  burst : Int
  tokens : Rat
  lastUpdate : Rat

namespace RateLimiter

/-- `RateLimiter(max_per_second, burst)` -/
def create (maxPerSecond : Rat) (burst : Int) (now : Rat) : RateLimiter where
  maxPerSecond := maxPerSecond
  burst := burst
  tokens := burst
  lastUpdate := now

/-- The tokens that `allow` looks at. -/
def refilled (self : RateLimiter) (now : Rat) : Rat :=
  min (self.burst : Rat) (self.tokens + (now - self.lastUpdate) * self.maxPerSecond)

def allow (self : RateLimiter) (now : Rat) : Bool × RateLimiter :=
  let self := { self with tokens := self.refilled now, lastUpdate := now }
  if 1 ≤ self.tokens then (true, { self with tokens := self.tokens - 1 }) else (false, self)

def waitTime (self : RateLimiter) : Rat :=
  if 1 ≤ self.tokens then 0 else (1 - self.tokens) / self.maxPerSecond

/-- The bucket has the given rate and size, and its tokens are within the size. -/
structure Bounded (rate : Rat) (burst : Int) (limiter : RateLimiter) : Prop where
  rate_eq : limiter.maxPerSecond = rate
  burst_eq : limiter.burst = burst
  tokens_nonneg : 0 ≤ limiter.tokens
  tokens_le : limiter.tokens ≤ burst

variable {rate : Rat} {burst : Int} {self : RateLimiter} {now : Rat}

theorem allow_lastUpdate (self : RateLimiter) (now : Rat) : (self.allow now).2.lastUpdate = now := by
  unfold allow
  dsimp only
  split_ifs
  · rfl
  · rfl

theorem allow_tokens (self : RateLimiter) (now : Rat) :
    (self.allow now).2.tokens + charge (self.allow now).1 = self.refilled now := by
  unfold allow
  dsimp only
  split_ifs
  · exact sub_add_cancel _ _
  · exact add_zero _

theorem allow_iff (self : RateLimiter) (now : Rat) :
    (self.allow now).1 = true ↔ 1 ≤ self.refilled now := by
  unfold allow
  dsimp only
  split_ifs with enough
  · exact iff_of_true rfl enough
  · exact iff_of_false id enough

theorem Bounded.refilled_bounds (bounded : Bounded rate burst self) (positive : 0 < rate)
    (forward : self.lastUpdate ≤ now) : 0 ≤ self.refilled now ∧ self.refilled now ≤ burst := by
  have earned : 0 ≤ (now - self.lastUpdate) * self.maxPerSecond := by
    rw [bounded.rate_eq]
    exact mul_nonneg (sub_nonneg.mpr forward) positive.le
  have whole : (0 : Rat) ≤ burst := bounded.tokens_nonneg.trans bounded.tokens_le
  unfold refilled
  rw [bounded.burst_eq]
  exact ⟨le_min whole (add_nonneg bounded.tokens_nonneg earned), min_le_left _ _⟩

theorem Bounded.allow (bounded : Bounded rate burst self) (positive : 0 < rate)
    (forward : self.lastUpdate ≤ now) : Bounded rate burst (self.allow now).2 := by
  have bounds := bounded.refilled_bounds positive forward
  unfold RateLimiter.allow
  dsimp only
  split_ifs with enough
  · refine ⟨bounded.rate_eq, bounded.burst_eq, sub_nonneg.mpr enough, ?_⟩
    exact (sub_le_self _ zero_le_one).trans bounds.2
  · exact ⟨bounded.rate_eq, bounded.burst_eq, bounds.1, bounds.2⟩

theorem bounded_create (atLeastOne : 1 ≤ burst) : Bounded rate burst (create rate burst now) where
  rate_eq := rfl
  burst_eq := rfl
  tokens_nonneg := Int.cast_nonneg (zero_le_one.trans atLeastOne)
  tokens_le := le_rfl

def credit (rate : Rat) (burst : Int) (positive : 0 < rate) (atLeastOne : 1 ≤ burst) :
    Credit allow where
  rate := rate
  capacity := burst
  amount := RateLimiter.tokens
  since := RateLimiter.lastUpdate
  invariant := Bounded rate burst
  rate_nonneg := positive.le
  capacity_nonneg := Int.cast_nonneg (zero_le_one.trans atLeastOne)
  kept := fun bounded forward => bounded.allow positive forward
  since_step := allow_lastUpdate
  nonneg := fun bounded => bounded.tokens_nonneg
  earned := by
    intro self now bounded forward
    rw [allow_tokens, refilled, bounded.rate_eq, mul_comm rate]
    exact min_le_right _ _
  capped := by
    intro self now bounded forward
    rw [allow_tokens]
    exact (bounded.refilled_bounds positive forward).2

/-- The tokens stay within bounds, between the calls and within each of them, and
no interval sees more grants than the burst and what the rate gives. -/
theorem allow_bounded (rate : Rat) (burst : Int) (start : Rat) (readings : List Rat)
    (positive : 0 < rate) (atLeastOne : 1 ≤ burst)
    (forward : (start :: readings).Pairwise (· ≤ ·)) :
    (∀ front back, readings = front ++ back ->
      let self := afterReadings allow (create rate burst start) front
      (0 ≤ self.tokens ∧ self.tokens ≤ burst) ∧
        ∀ now, back.head? = some now -> 0 ≤ self.refilled now ∧ self.refilled now ≤ burst) ∧
    ∀ first length, 0 ≤ length ->
      (grantsWithin first (first + length)
        (answers allow (create rate burst start) readings) : Rat) ≤ burst + rate * length := by
  have bounded : Bounded rate burst (create rate burst start) := bounded_create atLeastOne
  constructor
  · rintro front back rfl
    have front_sorted : (start :: front).Pairwise (· ≤ ·) :=
      forward.sublist ((List.sublist_append_left front back).cons_cons start)
    have after := (credit rate burst positive atLeastOne).invariant_after bounded front_sorted
    refine ⟨⟨after.tokens_nonneg, after.tokens_le⟩, ?_⟩
    intro now next
    rcases List.head?_eq_some_iff.mp next with ⟨rest, rfl⟩
    have since_le : (credit rate burst positive atLeastOne).since
        (afterReadings allow (create rate burst start) front) ≤ now :=
      Credit.since_after_le _ forward
    exact after.refilled_bounds positive since_le
  · intro first length nonneg
    have within := (credit rate burst positive atLeastOne).grants_within bounded forward
      (le_add_of_nonneg_right nonneg : first ≤ first + length)
    rw [add_sub_cancel_left] at within
    exact within

/-- After three calls at once, two of them granted, half a second is too short and a
whole second brings one token. -/
theorem allow_bounded_two :
    (grantsWithin (0 : Rat) (0 + 1) (answers allow (create 1 2 0) [0, 0, 0, 1 / 2, 1, 3 / 2]) : Rat) ≤
        ((2 : Int) : Rat) + 1 * 1 ∧
      answers allow (create 1 2 0) [0, 0, 0, 1 / 2, 1, 3 / 2] =
        [(0, true), (0, true), (0, false), (1 / 2, false), (1, true), (3 / 2, false)] := by
  constructor
  · exact (allow_bounded 1 2 0 [0, 0, 0, 1 / 2, 1, 3 / 2] one_pos one_le_two (by norm_num)).2
      0 1 zero_le_one
  · norm_num [answers, create, allow, refilled]

theorem Bounded.allow_after_waitTime (bounded : Bounded rate burst self) (positive : 0 < rate)
    (atLeastOne : 1 ≤ burst) (waited : self.lastUpdate + self.waitTime ≤ now) :
    (self.allow now).1 = true := by
  rw [allow_iff, refilled, bounded.rate_eq, bounded.burst_eq]
  have elapsed : self.waitTime ≤ now - self.lastUpdate := le_sub_iff_add_le'.mpr waited
  refine le_min (Int.cast_one_le_of_pos atLeastOne) ?_
  unfold waitTime at elapsed
  split_ifs at elapsed with enough
  · exact le_add_of_le_of_nonneg enough (mul_nonneg elapsed positive.le)
  · rw [bounded.rate_eq, div_le_iff₀ positive] at elapsed
    exact sub_le_iff_le_add'.mp elapsed

theorem Bounded.allow_before_waitTime (bounded : Bounded rate burst self) (positive : 0 < rate)
    (early : now < self.lastUpdate + self.waitTime) (short : self.tokens < 1) :
    (self.allow now).1 = false := by
  rw [Bool.eq_false_iff, ne_eq, allow_iff, refilled, bounded.rate_eq, not_le]
  refine min_lt_of_right_lt ?_
  rw [waitTime, if_neg (not_le.mpr short), bounded.rate_eq, ← sub_lt_iff_lt_add',
    lt_div_iff₀ positive] at early
  exact lt_sub_iff_add_lt'.mp early

theorem Bounded.waitTime_bounds (bounded : Bounded rate burst self) (positive : 0 < rate) :
    0 ≤ self.waitTime ∧ self.waitTime ≤ 1 / rate := by
  unfold waitTime
  rw [bounded.rate_eq]
  split_ifs with enough
  · exact ⟨le_rfl, one_div_nonneg.mpr positive.le⟩
  · refine ⟨div_nonneg (sub_nonneg.mpr (not_le.mp enough).le) positive.le, ?_⟩
    exact div_le_div_of_nonneg_right (sub_le_self 1 bounded.tokens_nonneg) positive.le

/-- After any run `wait_time` is the exact time to the next grant, in exact tokens: a
call is granted if and only if it comes no earlier than that after the last reading, and the time is
never more than one token takes. -/
theorem allow_iff_waited (rate : Rat) (burst : Int) (start : Rat) (readings : List Rat) (now : Rat)
    (positive : 0 < rate) (atLeastOne : 1 ≤ burst)
    (forward : (start :: (readings ++ [now])).Pairwise (· ≤ ·)) :
    let self := afterReadings allow (create rate burst start) readings
    ((self.allow now).1 = true ↔ self.lastUpdate + self.waitTime ≤ now) ∧
      0 ≤ self.waitTime ∧ self.waitTime ≤ 1 / rate := by
  intro self
  have begun : Bounded rate burst (create rate burst start) := bounded_create atLeastOne
  have sorted : (start :: readings).Pairwise (· ≤ ·) :=
    forward.sublist ((List.sublist_append_left readings [now]).cons_cons start)
  have bounded : Bounded rate burst self :=
    (credit rate burst positive atLeastOne).invariant_after begun sorted
  have since_le : self.lastUpdate ≤ now :=
    Credit.since_after_le (credit rate burst positive atLeastOne) forward
  refine ⟨⟨?_, bounded.allow_after_waitTime positive atLeastOne⟩, bounded.waitTime_bounds positive⟩
  intro granted
  by_contra early
  rcases le_or_gt 1 self.tokens with enough | short
  · rw [waitTime, if_pos enough, add_zero] at early
    exact early since_le
  · rw [bounded.allow_before_waitTime positive (not_le.mp early) short] at granted
    cases granted

/-- With a burst of one and two tokens a second, half a second after a grant is
enough. -/
theorem allow_iff_waited_half :
    ((afterReadings allow (create 2 1 0) [0]).allow (1 / 2)).1 = true ∧
      (afterReadings allow (create 2 1 0) [0]).waitTime = 1 / 2 := by
  have wait : (afterReadings allow (create 2 1 0) [0]).waitTime = 1 / 2 := by
    norm_num [afterReadings, create, allow, refilled, waitTime]
  refine ⟨?_, wait⟩
  refine (allow_iff_waited 2 1 0 [0] (1 / 2) two_pos le_rfl (by norm_num)).1.mpr ?_
  rw [wait]
  norm_num [afterReadings, create, allow, refilled]

end RateLimiter

end Utils
end ZepGpu
