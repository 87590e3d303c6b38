import Mathlib.Data.List.Basic

namespace ZepGpu
namespace Foundation

open List

/-!
# Slices

A slice that stops before the beginning of a list counts from its end.  The
pieces of one size are a list again when they are joined.
-/

variable {α : Type} {l : List α} {stop : Int}

/-- `l[:stop]` -/
def sliceTo (l : List α) (stop : Int) : List α :=
  if 0 ≤ stop then l.take stop.toNat else l.take (l.length - (-stop).toNat)

theorem sliceTo_sublist (l : List α) (stop : Int) : (sliceTo l stop).Sublist l := by
  unfold sliceTo
  split
  · exact take_sublist _ _
  · exact take_sublist _ _

theorem length_sliceTo_le (room : 0 ≤ stop) : ((sliceTo l stop).length : Int) ≤ stop := by
  unfold sliceTo
  rw [if_pos room, length_take]
  omega

/-- A property holds of nothing in the first places of a list exactly when whatever
has it stands behind as many others. -/
theorem forall_take_iff {P : α -> Prop} {count : Nat} :
    (∀ x, x ∈ l.take count -> ¬ P x) ↔
      ∀ before x rest, l = before ++ x :: rest -> P x -> count ≤ before.length := by
  constructor
  · intro none before x rest split holds
    by_contra short
    refine none x ?_ holds
    rw [split, take_append, take_of_length_le (by omega)]
    apply mem_append_right
    rw [mem_take_iff_getElem]
    exact ⟨0, by simp only [length_cons]; omega, rfl⟩
  · intro behind x member holds
    rcases mem_take_iff_getElem.mp member with ⟨index, bound, rfl⟩
    have inside : index < l.length := by omega
    have split : l = l.take index ++ l[index] :: l.drop (index + 1) := by
      rw [getElem_cons_drop, take_append_drop]
    have := behind _ _ _ split holds
    rw [length_take] at this
    omega

theorem forall_take_filter_iff {P : α -> Prop} {chosen : α -> Bool} {count : Nat}
    (all : ∀ x, x ∈ l -> P x -> chosen x = true) :
    (∀ x, x ∈ (l.filter chosen).take count -> ¬ P x) ↔
      ∀ before x rest, l = before ++ x :: rest -> P x ->
        count ≤ (before.filter chosen).length := by
  rw [forall_take_iff]
  constructor
  · intro behind before x rest split holds
    have member : x ∈ l := by
      rw [split]
      exact mem_append_right _ (mem_cons_self ..)
    refine behind _ x (rest.filter chosen) ?_ holds
    rw [split, filter_append, filter_cons_of_pos (all x member holds)]
  · intro behind before x rest split holds
    rcases filter_eq_append_iff.mp split with ⟨front, back, whole, rfl, tail⟩
    rcases filter_eq_cons_iff.mp tail with ⟨skipped, after, rest', passed, -, -⟩
    have bound := behind (front ++ skipped) x after (by rw [whole, rest', append_assoc]) holds
    rw [filter_append, filter_eq_nil_iff.mpr passed, append_nil] at bound
    exact bound

theorem flatten_slices (l : List α) (size count : Nat) :
    ((List.range count).map fun index => (l.drop (index * size)).take size).flatten =
      l.take (count * size) := by
  induction count with
  | zero => rw [Nat.zero_mul, take_zero, range_zero, map_nil, flatten_nil]
  | succ count ih =>
    rw [range_succ, map_append, flatten_append, ih, map_singleton,
      flatten_singleton, Nat.succ_mul, take_add]

/-- `[l[start : start + size] for start in range(0, len(l), size)]` -/
def pieces (size : Nat) (l : List α) : List (List α) :=
  (List.range ((l.length + size - 1) / size)).map fun index => (l.drop (index * size)).take size

theorem length_pieces_le_iff {size count : Nat} (positive : 1 ≤ size) :
    (pieces size l).length ≤ count ↔ l.length ≤ count * size := by
  unfold pieces
  rw [length_map, length_range, ← Nat.lt_succ_iff, Nat.div_lt_iff_lt_mul positive, Nat.succ_mul]
  omega

theorem flatten_pieces {size : Nat} (positive : 1 ≤ size) : (pieces size l).flatten = l := by
  have covers := (length_pieces_le_iff (l := l) positive).mp (Nat.le_refl _)
  have length : (pieces size l).length = (l.length + size - 1) / size := by
    rw [pieces, length_map, length_range]
  rw [length] at covers
  rw [pieces, flatten_slices, take_of_length_le covers]

end Foundation
end ZepGpu
