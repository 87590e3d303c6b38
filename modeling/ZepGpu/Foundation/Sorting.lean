import Mathlib.Data.List.Sort

namespace ZepGpu
namespace Foundation

/-!
# Sorting by a key

Values with equal keys keep their order.  Where the keys are distinct the result
depends on the values alone, and not on the order in which they came.
-/

section SortedBy

variable {α κ : Type} [LinearOrder κ] (key : α -> κ)

/-- `sorted(values, key=key)` -/
def sortedBy (values : List α) : List α :=
  values.insertionSort (fun left right => key left ≤ key right)

variable {key} {left right values : List α}

theorem perm_sortedBy : (sortedBy key values).Perm values :=
  List.perm_insertionSort _ _

theorem mem_sortedBy {value : α} : value ∈ sortedBy key values ↔ value ∈ values :=
  List.mem_insertionSort _

theorem length_sortedBy : (sortedBy key values).length = values.length :=
  List.length_insertionSort _ _

instance total_byKey : Std.Total (fun left right : α => key left ≤ key right) :=
  ⟨fun left right => le_total (key left) (key right)⟩

instance isTrans_byKey : IsTrans α (fun left right : α => key left ≤ key right) :=
  ⟨fun _ _ _ first second => le_trans first second⟩

theorem pairwise_sortedBy :
    (sortedBy key values).Pairwise (fun left right => key left ≤ key right) :=
  List.pairwise_insertionSort _ _

theorem sortedBy_eq_self (sorted : values.Pairwise (fun left right => key left ≤ key right)) :
    sortedBy key values = values :=
  sorted.insertionSort_eq

theorem sortedBy_eq_of_perm (perm : left.Perm right) (distinct : (left.map key).Nodup) :
    sortedBy key left = sortedBy key right := by
  apply List.Perm.eq_of_pairwise _ pairwise_sortedBy pairwise_sortedBy
  · exact (perm_sortedBy.trans perm).trans perm_sortedBy.symm
  · intro first second firstMember secondMember below above
    have same : key first = key second := le_antisymm below above
    exact List.inj_on_of_nodup_map distinct (mem_sortedBy.mp firstMember)
      (perm.mem_iff.mpr (mem_sortedBy.mp secondMember)) same

theorem exists_sortedBy_cons (value : α) (values : List α) : ∃ before after,
    sortedBy key (value :: values) = before ++ value :: after ∧
      sortedBy key values = before ++ after := by
  refine ⟨_, _, List.insertionSort_cons_eq_take_drop _ value values, ?_⟩
  exact (List.takeWhile_append_dropWhile ..).symm

end SortedBy

section Related

variable {α β κ : Type} {related : α -> α -> Prop} {left right : List α}

theorem map_eq_of_forall₂ {f : α -> β} (same : List.Forall₂ related left right)
    (agree : ∀ first second, first ∈ left -> related first second -> f first = f second) :
    left.map f = right.map f := by
  induction same with
  | nil => rfl
  | cons here _ ih =>
    rw [List.map_cons, List.map_cons, agree _ _ List.mem_cons_self here,
      ih (fun first second member => agree first second (List.mem_cons_of_mem _ member))]

variable [LinearOrder κ] {key : α -> κ}

theorem forall₂_orderedInsert {first second : α} (here : related first second)
    (same : List.Forall₂ related left right)
    (keys : ∀ first second, related first second -> key first = key second) :
    List.Forall₂ related (left.orderedInsert (fun one other => key one ≤ key other) first)
      (right.orderedInsert (fun one other => key one ≤ key other) second) := by
  induction same with
  | nil => exact List.Forall₂.cons here List.Forall₂.nil
  | cons head rest ih =>
    rw [List.orderedInsert_cons, List.orderedInsert_cons, keys _ _ here, keys _ _ head]
    split_ifs
    · exact List.Forall₂.cons here (List.Forall₂.cons head rest)
    · exact List.Forall₂.cons head ih

theorem forall₂_sortedBy (same : List.Forall₂ related left right)
    (keys : ∀ first second, related first second -> key first = key second) :
    List.Forall₂ related (sortedBy key left) (sortedBy key right) := by
  induction same with
  | nil => exact List.Forall₂.nil
  | cons head _ ih => exact forall₂_orderedInsert head ih keys

end Related

end Foundation
end ZepGpu
