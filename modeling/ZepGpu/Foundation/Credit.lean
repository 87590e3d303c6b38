import Mathlib.Algebra.Order.Field.Basic
import Mathlib.Data.List.Count
import Mathlib.Tactic.Linarith
import Mathlib.Tactic.Ring

namespace ZepGpu
namespace Foundation

/-!
# Grants that a growing credit pays for

A step at a reading of a clock grants or refuses.  Its state carries a credit,
which grows at no more than a rate and never beyond a capacity, and a grant
takes one unit of it.  Then no interval sees more grants than the capacity and
what the interval earns.
-/

variable {σ K : Type} [Field K] [LinearOrder K] [IsStrictOrderedRing K]

/-- The answers of a run, each with the reading at which it was given. -/
def answers (step : σ -> K -> Bool × σ) : σ -> List K -> List (K × Bool)
  | _, [] => []
  | state, now :: rest => (now, (step state now).1) :: answers step (step state now).2 rest

def afterReadings (step : σ -> K -> Bool × σ) (state : σ) (readings : List K) : σ :=
  readings.foldl (fun state now => (step state now).2) state

def charge (granted : Bool) : K :=
  if granted then 1 else 0

/-- The number of grants from the reading `first` to the reading `last`. -/
def grantsWithin (first last : K) (given : List (K × Bool)) : Nat :=
  given.countP (fun answer => answer.2 && decide (first ≤ answer.1 ∧ answer.1 ≤ last))

/-- What a step owes to its credit, under an invariant of the states. -/
structure Credit (step : σ -> K -> Bool × σ) where
  rate : K
  capacity : K
  amount : σ -> K
  /-- The reading up to which the credit is counted. -/
  since : σ -> K
  invariant : σ -> Prop
  rate_nonneg : 0 ≤ rate
  capacity_nonneg : 0 ≤ capacity
  kept : ∀ {state now}, invariant state -> since state ≤ now -> invariant (step state now).2
  since_step : ∀ state now, since (step state now).2 = now
  nonneg : ∀ {state}, invariant state -> 0 ≤ amount state
  earned : ∀ {state now}, invariant state -> since state ≤ now ->
    amount (step state now).2 + charge (step state now).1 ≤ amount state + rate * (now - since state)
  capped : ∀ {state now}, invariant state -> since state ≤ now ->
    amount (step state now).2 + charge (step state now).1 ≤ capacity

variable {step : σ -> K -> Bool × σ} {first last : K} {readings : List K} {state : σ}

omit [Field K] [LinearOrder K] [IsStrictOrderedRing K] in
theorem map_fst_answers (step : σ -> K -> Bool × σ) (state : σ) (readings : List K) :
    (answers step state readings).map Prod.fst = readings := by
  induction readings generalizing state with
  | nil => rfl
  | cons now rest ih => rw [answers, List.map_cons, ih]

omit [IsStrictOrderedRing K] in
theorem grantsWithin_cons_inside {now : K} {granted : Bool} {given : List (K × Bool)}
    (after : first ≤ now) (before : now ≤ last) :
    (grantsWithin first last ((now, granted) :: given) : K) =
      grantsWithin first last given + charge granted := by
  cases granted with
  | false => simp [grantsWithin, charge]
  | true => simp [grantsWithin, charge, after, before]

omit [Field K] [IsStrictOrderedRing K] in
theorem grantsWithin_cons_outside {now : K} {granted : Bool} {given : List (K × Bool)}
    (outside : ¬ (first ≤ now ∧ now ≤ last)) :
    grantsWithin first last ((now, granted) :: given) = grantsWithin first last given := by
  rw [grantsWithin, grantsWithin, List.countP_cons_of_neg]
  simp only [outside, decide_false, Bool.and_false, Bool.false_eq_true, not_false_eq_true]

omit [Field K] [IsStrictOrderedRing K] in
theorem grantsWithin_eq_zero (past : ∀ now, now ∈ readings -> last < now) :
    grantsWithin first last (answers step state readings) = 0 := by
  rw [grantsWithin, List.countP_eq_zero]
  intro answer member counted
  have read : answer.1 ∈ readings := by
    rw [← map_fst_answers step state readings]
    exact List.mem_map_of_mem member
  simp only [Bool.and_eq_true, decide_eq_true_eq] at counted
  exact absurd counted.2.2 (not_le.mpr (past answer.1 read))

omit [Field K] [IsStrictOrderedRing K] in
theorem grantsWithin_past {now : K} (sorted : (now :: readings).Pairwise (· ≤ ·)) (past : last < now) :
    grantsWithin first last (answers step state (now :: readings)) = 0 := by
  apply grantsWithin_eq_zero
  intro later member
  rcases List.mem_cons.mp member with rfl | member
  · exact past
  · exact lt_of_lt_of_le past (List.rel_of_pairwise_cons sorted member)

namespace Credit

variable (credit : Credit step)

omit [IsStrictOrderedRing K] in
theorem invariant_after (valid : credit.invariant state)
    (sorted : (credit.since state :: readings).Pairwise (· ≤ ·)) :
    credit.invariant (afterReadings step state readings) := by
  induction readings generalizing state with
  | nil => exact valid
  | cons now rest ih =>
    have forward : credit.since state ≤ now := List.rel_of_pairwise_cons sorted List.mem_cons_self
    apply ih (credit.kept valid forward)
    rw [credit.since_step]
    exact sorted.of_cons

omit [IsStrictOrderedRing K] in
theorem since_after_le {now : K} {rest : List K}
    (sorted : (credit.since state :: (readings ++ now :: rest)).Pairwise (· ≤ ·)) :
    credit.since (afterReadings step state readings) ≤ now := by
  induction readings generalizing state with
  | nil => exact List.rel_of_pairwise_cons sorted List.mem_cons_self
  | cons next later ih =>
    apply ih
    rw [credit.since_step]
    exact sorted.of_cons

theorem grants_until (valid : credit.invariant state)
    (sorted : (credit.since state :: readings).Pairwise (· ≤ ·)) (ahead : credit.since state ≤ last) :
    (grantsWithin first last (answers step state readings) : K) ≤
      credit.amount state + credit.rate * (last - credit.since state) := by
  induction readings generalizing state with
  | nil =>
    have held := credit.nonneg valid
    have earns := mul_nonneg credit.rate_nonneg (sub_nonneg.mpr ahead)
    rw [answers, grantsWithin, List.countP_nil, Nat.cast_zero]
    exact add_nonneg held earns
  | cons now rest ih =>
    have forward : credit.since state ≤ now := List.rel_of_pairwise_cons sorted List.mem_cons_self
    have later : (now :: rest).Pairwise (· ≤ ·) := sorted.of_cons
    rcases lt_or_ge last now with past | inside
    · have held := credit.nonneg valid
      have earns := mul_nonneg credit.rate_nonneg (sub_nonneg.mpr ahead)
      rw [grantsWithin_past later past, Nat.cast_zero]
      exact add_nonneg held earns
    · have rest_le := ih (credit.kept valid forward) (by rw [credit.since_step]; exact later)
        (by rw [credit.since_step]; exact inside)
      rw [credit.since_step] at rest_le
      have paid := credit.earned valid forward
      rw [answers]
      by_cases after : first ≤ now
      · rw [grantsWithin_cons_inside after inside]
        linarith
      · have free : (0 : K) ≤ charge (step state now).1 := by
          unfold charge
          split_ifs
          · exact zero_le_one
          · exact le_rfl
        rw [grantsWithin_cons_outside (fun within => after within.1)]
        linarith

theorem grants_within (valid : credit.invariant state)
    (sorted : (credit.since state :: readings).Pairwise (· ≤ ·)) (ordered : first ≤ last) :
    (grantsWithin first last (answers step state readings) : K) ≤
      credit.capacity + credit.rate * (last - first) := by
  have room : 0 ≤ credit.capacity + credit.rate * (last - first) :=
    add_nonneg credit.capacity_nonneg (mul_nonneg credit.rate_nonneg (sub_nonneg.mpr ordered))
  induction readings generalizing state with
  | nil =>
    rw [answers, grantsWithin, List.countP_nil, Nat.cast_zero]
    exact room
  | cons now rest ih =>
    have forward : credit.since state ≤ now := List.rel_of_pairwise_cons sorted List.mem_cons_self
    have later : (now :: rest).Pairwise (· ≤ ·) := sorted.of_cons
    have next := credit.kept valid forward
    have sorted' : (credit.since (step state now).2 :: rest).Pairwise (· ≤ ·) := by
      rw [credit.since_step]
      exact later
    rcases lt_or_ge last now with past | before
    · rw [grantsWithin_past later past, Nat.cast_zero]
      exact room
    · rw [answers]
      by_cases after : first ≤ now
      · -- The first call within the interval leaves at most the capacity, charge included.
        have rest_le : (grantsWithin first last (answers step (step state now).2 rest) : K) ≤ _ :=
          credit.grants_until next sorted' (by
            rw [credit.since_step]
            exact before)
        have left := credit.capped valid forward
        have shorter := mul_le_mul_of_nonneg_left (sub_le_sub_left after last) credit.rate_nonneg
        rw [credit.since_step] at rest_le
        rw [grantsWithin_cons_inside after before]
        linarith
      · rw [grantsWithin_cons_outside (fun within => after within.1)]
        exact ih next sorted'

end Credit

end Foundation
end ZepGpu
