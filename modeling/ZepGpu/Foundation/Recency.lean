import Mathlib.Data.List.Basic

namespace ZepGpu
namespace Foundation

/-!
# The order of last use

A history is a list of calls, each of which may use a key.  A list of keys is in
the order of last use when each key has not been used any more since the last use
of every key behind it.  A policy that discards what has not been used for the
longest time keeps such a list, and moves a key to its end at every use.
-/

section Recency

variable {ι κ : Type} {uses : ι -> κ -> Prop} {history : List ι} {order : List κ} {call : ι}
  {early late key other : κ}

/-- From some point of the history on `late` is used and `early` is not. -/
def UsedBefore (uses : ι -> κ -> Prop) (history : List ι) (early late : κ) : Prop :=
  ∃ front back, history = front ++ back ∧ (∀ call, call ∈ back -> ¬ uses call early) ∧
    ∃ call ∈ back, uses call late

theorem UsedBefore.append (before : UsedBefore uses history early late)
    (unused : ¬ uses call early) : UsedBefore uses (history ++ [call]) early late := by
  rcases before with ⟨front, back, rfl, idle, used, member, uses_late⟩
  refine ⟨front, back ++ [call], List.append_assoc _ _ _, ?_, used,
    List.mem_append_left _ member, uses_late⟩
  intro later listed
  rcases List.mem_append.mp listed with inside | last
  · exact idle later inside
  · rw [List.mem_singleton.mp last]
    exact unused

theorem usedBefore_last (unused : ¬ uses call early) (used : uses call late) :
    UsedBefore uses (history ++ [call]) early late := by
  refine ⟨history, [call], rfl, ?_, call, List.mem_singleton_self call, used⟩
  intro later listed
  rw [List.mem_singleton.mp listed]
  exact unused

/-- The order is that of the last uses, oldest first. -/
def ByLastUse (uses : ι -> κ -> Prop) (history : List ι) (order : List κ) : Prop :=
  order.Pairwise (UsedBefore uses history)

theorem byLastUse_nil : ByLastUse uses history [] :=
  List.Pairwise.nil

theorem ByLastUse.sublist {fewer : List κ} (sorted : ByLastUse uses history order)
    (sub : fewer.Sublist order) : ByLastUse uses history fewer :=
  List.Pairwise.sublist sub sorted

theorem ByLastUse.append (sorted : ByLastUse uses history order)
    (unused : ∀ key, key ∈ order -> ¬ uses call key) :
    ByLastUse uses (history ++ [call]) order := by
  apply List.Pairwise.imp_of_mem _ sorted
  intro early late listed _ before
  exact before.append (unused early listed)

theorem ByLastUse.append_used (sorted : ByLastUse uses history order)
    (unused : ∀ other, other ∈ order -> ¬ uses call other) (used : uses call key) :
    ByLastUse uses (history ++ [call]) (order ++ [key]) := by
  refine List.pairwise_append.mpr ⟨sorted.append unused, List.pairwise_singleton _ _, ?_⟩
  intro early listed late last
  rw [List.mem_singleton.mp last]
  exact usedBefore_last (unused early listed) used

theorem ByLastUse.first {rest : List κ} (sorted : ByLastUse uses history (key :: rest))
    (listed : other ∈ rest) : UsedBefore uses history key other :=
  List.rel_of_pairwise_cons sorted listed

end Recency

end Foundation
end ZepGpu
