import Mathlib.Data.List.Basic
import Mathlib.Order.Lattice

namespace ZepGpu
namespace Foundation

open List

/-!
# Numbering the values of a list, and those of each group

One pass gives each value two numbers: how many values came before it, and how
many of its own group did.  Both number without gaps.  Where the list is sorted by
group, the numbers of a group are consecutive in the whole list as well.
-/

section Ranking

variable {α γ : Type} [DecidableEq γ] (group : α -> γ)

/-- A value with its number in the list and in its group. -/
structure Ranked (α : Type) where
  value : α
  overall : Nat
  within : Nat
  deriving DecidableEq

/-- How many of the values are in the group of `value`. -/
def groupCount (values : List α) (value : α) : Nat :=
  values.countP (fun other => group other = group value)

/-- Number the values behind those of `front`. -/
def ranked : List α -> List α -> List (Ranked α)
  | _, [] => []
  | front, value :: rest => ⟨value, front.length, groupCount group front value⟩ :: ranked (front ++ [value]) rest

variable {group} {front rest values : List α} {g : γ}

theorem map_value_ranked : (ranked group front rest).map Ranked.value = rest := by
  induction rest generalizing front with
  | nil => rfl
  | cons value rest ih => rw [ranked, map_cons, ih]

theorem ranked_concat {value : α} : ranked group front (rest ++ [value]) =
    ranked group front rest ++
      [⟨value, (front ++ rest).length, groupCount group (front ++ rest) value⟩] := by
  induction rest generalizing front with
  | nil => rw [nil_append, append_nil, ranked, ranked, ranked, nil_append]
  | cons head rest ih =>
    rw [cons_append, ranked, ranked, ih, append_assoc, singleton_append, cons_append]

theorem map_overall_ranked :
    (ranked group front rest).map Ranked.overall = List.range' front.length rest.length := by
  induction rest generalizing front with
  | nil => rfl
  | cons value rest ih =>
    rw [ranked, map_cons, ih, length_cons, List.range'_succ, length_append, length_singleton]

theorem map_within_ranked :
    ((ranked group front rest).filter (fun entry => group entry.value = g)).map Ranked.within =
      List.range' (front.countP (fun value => group value = g))
        (rest.countP (fun value => group value = g)) := by
  induction rest generalizing front with
  | nil => rfl
  | cons value rest ih =>
    rw [ranked, filter_cons]
    by_cases same : group value = g
    · have here : decide (group value = g) = true := decide_eq_true same
      have behind : (front ++ [value]).countP (fun value => group value = g) =
          front.countP (fun value => group value = g) + 1 := by
        rw [countP_append, countP_singleton, if_pos here]
      rw [if_pos here, map_cons, ih, behind, countP_cons, if_pos here, List.range'_succ,
        groupCount, same]
    · have elsewhere : ¬ decide (group value = g) = true := by simp [same]
      have behind : (front ++ [value]).countP (fun value => group value = g) =
          front.countP (fun value => group value = g) := by
        rw [countP_append, countP_singleton, if_neg elsewhere, Nat.add_zero]
      rw [if_neg elsewhere, ih, behind, countP_cons, if_neg elsewhere, Nat.add_zero]

theorem exists_split_of_mem_ranked {entry : Ranked α} (listed : entry ∈ ranked group front rest) :
    ∃ before after, rest = before ++ entry.value :: after ∧
      entry.overall = (front ++ before).length ∧
      entry.within = groupCount group (front ++ before) entry.value := by
  induction rest generalizing front with
  | nil => cases listed
  | cons value rest ih =>
    rw [ranked] at listed
    rcases mem_cons.mp listed with rfl | later
    · refine ⟨[], rest, rfl, ?_, ?_⟩
      · rw [append_nil]
      · rw [append_nil]
    · rcases ih later with ⟨before, after, split, overall, within⟩
      rw [append_assoc] at overall within
      exact ⟨value :: before, after, congrArg (value :: ·) split, overall, within⟩

/-- In a list that is sorted by group, the number in the list is the number in the
group behind all values of earlier groups. -/
theorem overall_eq_of_sorted {γ : Type} [LinearOrder γ] {group : α -> γ}
    (sorted : values.Pairwise (fun left right => group left ≤ group right)) {entry : Ranked α}
    (listed : entry ∈ ranked group [] values) :
    entry.overall = values.countP (fun value => group value < group entry.value) + entry.within := by
  rcases exists_split_of_mem_ranked listed with ⟨before, after, rfl, overall, within⟩
  rw [nil_append] at overall within
  have parts := pairwise_append.mp sorted
  have below : ∀ value, value ∈ before -> group value ≤ group entry.value :=
    fun value member => parts.2.2 value member entry.value mem_cons_self
  have above : ∀ value, value ∈ entry.value :: after -> ¬ group value < group entry.value := by
    intro value member
    rcases mem_cons.mp member with rfl | behind
    · exact lt_irrefl _
    · exact not_lt.mpr (rel_of_pairwise_cons parts.2.1 behind)
  have none_behind : (entry.value :: after).countP (fun value => group value < group entry.value) = 0 := by
    rw [countP_eq_zero]
    intro value member counted
    exact above value member (of_decide_eq_true counted)
  -- Each value before is of an earlier group or of the same one.
  have same : before.countP (fun value => ¬ decide (group value < group entry.value) = true) =
      before.countP (fun value => group value = group entry.value) := by
    apply countP_congr
    intro value member
    rw [decide_eq_true_iff, decide_eq_true_iff, decide_eq_true_iff]
    constructor
    · exact fun notLess => le_antisymm (below value member) (not_lt.mp notLess)
    · exact fun equal less => less.ne equal
  rw [overall, within, countP_append, none_behind, Nat.add_zero, groupCount, ← same]
  exact length_eq_countP_add_countP _

end Ranking

/-! ## Groups put together again -/

section Regrouping

variable {α κ : Type} [DecidableEq κ] {key : α -> κ} {keys : List κ} {values : List α}

theorem perm_filter_cons (k : κ) (keys : List κ) (fresh : k ∉ keys) (values : List α) :
    (values.filter (fun value => key value ∈ k :: keys)).Perm
      (values.filter (fun value => key value = k) ++ values.filter (fun value => key value ∈ keys)) := by
  have split := (filter_append_perm (fun value => decide (key value = k))
    (values.filter (fun value => key value ∈ k :: keys))).symm
  rw [filter_filter, filter_filter] at split
  have first : values.filter (fun value => decide (key value = k) && decide (key value ∈ k :: keys)) =
      values.filter (fun value => key value = k) := by
    apply filter_congr
    intro value _
    simp only [mem_cons, Bool.decide_or, Bool.and_or_distrib_left, Bool.and_self, Bool.or_eq_left_iff_imp,
      Bool.and_eq_true]
    exact fun both => both.1
  have others : values.filter (fun value => !decide (key value = k) && decide (key value ∈ k :: keys)) =
      values.filter (fun value => key value ∈ keys) := by
    apply filter_congr
    intro value _
    by_cases same : key value = k
    · simp [same, fresh]
    · simp [same]
  rw [first, others] at split
  exact split

theorem perm_flatMap_filter (distinct : keys.Nodup) (covered : ∀ value, value ∈ values -> key value ∈ keys) :
    (keys.flatMap (fun k => values.filter (fun value => key value = k))).Perm values := by
  have grouped : (keys.flatMap (fun k => values.filter (fun value => key value = k))).Perm
      (values.filter (fun value => key value ∈ keys)) := by
    clear covered
    induction keys with
    | nil => simp
    | cons k rest ih =>
      rw [nodup_cons] at distinct
      rw [flatMap_cons]
      exact ((ih distinct.2).append_left _).trans (perm_filter_cons k rest distinct.1 values).symm
  have all : values.filter (fun value => key value ∈ keys) = values := by
    apply filter_eq_self.mpr
    intro value member
    exact decide_eq_true (covered value member)
  rw [all] at grouped
  exact grouped

end Regrouping

end Foundation
end ZepGpu
