import Mathlib.Data.List.Induction
import Mathlib.Data.List.Sort

namespace ZepGpu
namespace Foundation

open List

/-!
# Append-only histories

A history is the list of its entries, oldest first.  What is required of an
entry may refer to the entries below it, and is required of every entry.
Since entries are only added at the end, such a requirement is established
once for each new entry.

The last section is about rows that are found again by a query: a list of
rows in the order of a key is not changed by sorting it, and a row is found
by a key that no other row has.
-/

section Throughout

variable {α : Type} {holds stronger : List α -> α -> Prop} {entries : List α} {entry : α}

/-- Every entry satisfies the requirement over the entries below it. -/
def Throughout (holds : List α -> α -> Prop) (entries : List α) : Prop :=
  ∀ front entry back, entries = front ++ entry :: back -> holds front entry

theorem throughout_nil : Throughout holds ([] : List α) := by
  intro front entry back same
  exact absurd same (by simp)

theorem throughout_append_singleton :
    Throughout holds (entries ++ [entry]) ↔ Throughout holds entries ∧ holds entries entry := by
  constructor
  · intro all
    refine ⟨fun front other back same => ?_, all entries entry [] rfl⟩
    exact all front other (back ++ [entry]) (by rw [same, append_assoc, cons_append])
  · rintro ⟨all, last⟩ front other back same
    rcases eq_nil_or_concat back with rfl | ⟨inner, final, rfl⟩
    · obtain ⟨rfl, rfl⟩ := append_inj' same rfl |>.imp id (fun h => singleton_inj.mp h)
      exact last
    · rw [concat_eq_append, ← cons_append, ← append_assoc] at same
      exact all front other inner (append_inj' same rfl).1

theorem Throughout.map {β : Type} {change : α -> β} {after : List β -> β -> Prop}
    (transfer : ∀ front entry, holds front entry -> after (front.map change) (change entry))
    (all : Throughout holds entries) : Throughout after (entries.map change) := by
  intro front entry back same
  obtain ⟨oldFront, rest, rfl, rfl, restEq⟩ := map_eq_append_iff.mp same
  obtain ⟨oldEntry, oldBack, rfl, rfl, rfl⟩ := map_eq_cons_iff.mp restEq
  exact transfer oldFront oldEntry (all oldFront oldEntry oldBack rfl)

theorem Throughout.pairwise {below : α -> α -> Prop}
    (all : Throughout (fun front entry => ∀ other, other ∈ front -> below other entry) entries) :
    entries.Pairwise below := by
  induction entries using List.reverseRecOn with
  | nil => exact List.Pairwise.nil
  | append_singleton front last ih =>
    obtain ⟨allFront, atLast⟩ := throughout_append_singleton.mp all
    rw [pairwise_append]
    refine ⟨ih allFront, pairwise_singleton _ _, ?_⟩
    intro other member final here
    rw [mem_singleton.mp here]
    exact atLast other member

/-- Entries numbered by the number of those below them are numbered from zero
without a gap. -/
theorem Throughout.map_eq_range {number : α -> Int}
    (all : Throughout (fun front entry => number entry = (front.length : Int)) entries) :
    entries.map number = (List.range entries.length).map Int.ofNat := by
  induction entries using List.reverseRecOn with
  | nil => rfl
  | append_singleton front last ih =>
    obtain ⟨allFront, atLast⟩ := throughout_append_singleton.mp all
    rw [map_append, ih allFront, length_append, length_singleton, range_succ,
      map_append, map_singleton, map_singleton, atLast]
    rfl

end Throughout

section Rows

variable {α κ : Type} [DecidableEq κ]

theorem find?_of_nodup_keys {key : α -> κ} {rows : List α} {row : α} (condition : α -> Bool)
    (distinct : (rows.map key).Nodup) (member : row ∈ rows) :
    rows.find? (fun other => decide (key row = key other) && condition other) =
      if condition row then some row else none := by
  induction rows with
  | nil => exact absurd member (by simp)
  | cons head rest ih =>
    rw [map_cons, nodup_cons] at distinct
    rcases mem_cons.mp member with rfl | inside
    · have others : rest.find? (fun other => decide (key row = key other) && condition other) =
          none := by
        rw [find?_eq_none]
        intro other listed accepted
        rw [Bool.and_eq_true, decide_eq_true_eq] at accepted
        exact distinct.1 (mem_map.mpr ⟨other, listed, accepted.1.symm⟩)
      rw [find?_cons, others, decide_eq_true rfl, Bool.true_and]
      cases condition row <;> rfl
    · have different : key row ≠ key head := by
        intro same
        exact distinct.1 (mem_map.mpr ⟨row, inside, same⟩)
      rw [find?_cons, decide_eq_false different, Bool.false_and]
      exact ih distinct.2 inside

omit [DecidableEq κ] in
theorem nodup_keys_append_singleton {key : α -> κ} {rows : List α} {row : α}
    (distinct : (rows.map key).Nodup) (fresh : ∀ other, other ∈ rows -> key other ≠ key row) :
    ((rows ++ [row]).map key).Nodup := by
  rw [map_append, nodup_append]
  refine ⟨distinct, nodup_singleton _, ?_⟩
  intro first old second new same
  rw [map_singleton, mem_singleton] at new
  obtain ⟨other, member, rfl⟩ := mem_map.mp old
  exact fresh other member (same.trans new)

omit [DecidableEq κ] in
theorem map_zipIdx_fst (change : α -> κ) (rows : List α) :
    rows.zipIdx.map (fun entry => change entry.1) = rows.map change := by
  have composed : rows.zipIdx.map (fun entry => change entry.1) =
      (rows.zipIdx.map Prod.fst).map change := by
    rw [map_map]
    rfl
  rw [composed, zipIdx_map_fst]

end Rows

end Foundation
end ZepGpu
