import Mathlib.Data.List.Perm.Basic

namespace ZepGpu
namespace Foundation

/-!
# Binary heaps

A heap is a list in which the children of the element at `n` are at `2 * n + 1`
and `2 * n + 2`.  Elements move only by exchanging two of them, so whatever the
order says, an operation takes out and puts in one element and keeps the rest.
-/

namespace Heap

variable {α : Type} {heap : List α} {item : α} {i j : Nat}

def exchange (heap : List α) (i j : Nat) : List α :=
  match heap[i]?, heap[j]? with
  | some a, some b => (heap.set i b).set j a
  | _, _ => heap

theorem exchange_perm : (exchange heap i j).Perm heap := by
  unfold exchange
  split
  · next a b atI atJ =>
      rcases List.getElem?_eq_some_iff.mp atI with ⟨boundI, rfl⟩
      rcases List.getElem?_eq_some_iff.mp atJ with ⟨boundJ, rfl⟩
      have swapped := @Array.swap_perm _ heap.toArray i j boundI boundJ
      simpa [Array.swap, Array.perm_iff_toList_perm] using swapped
  · exact List.Perm.refl heap

section Sift

variable (before : α -> α -> Bool)

/-- The element at `i` comes before the one at `j`. -/
def earlier (heap : List α) (i j : Nat) : Bool :=
  match heap[i]?, heap[j]? with
  | some a, some b => before a b
  | _, _ => false

/-- Move the element at `pos` towards the root, down to `start`.  Each step at
least halves the position. -/
def siftDown (start : Nat) : Nat -> List α -> Nat -> List α
  | 0, heap, _ => heap
  | fuel + 1, heap, pos =>
    let parent := (pos - 1) / 2
    if start < pos ∧ earlier before heap pos parent then
      siftDown start fuel (exchange heap pos parent) parent
    else heap

/-- Move the element at `pos` to a leaf, always below the child that comes first,
and from there back towards `start`. -/
def siftUp (start : Nat) : Nat -> List α -> Nat -> List α
  | 0, heap, pos => siftDown before start (pos + 1) heap pos
  | fuel + 1, heap, pos =>
    let child := 2 * pos + 1
    if child < heap.length then
      let child :=
        if child + 1 < heap.length && !earlier before heap child (child + 1) then child + 1
        else child
      siftUp start fuel (exchange heap pos child) child
    else siftDown before start (pos + 1) heap pos

def push (heap : List α) (item : α) : List α :=
  siftDown before 0 (heap.length + 1) (heap ++ [item]) heap.length

def pop (heap : List α) : Option (α × List α) :=
  match heap.getLast? with
  | none => none
  | some last =>
    match heap.dropLast with
    | [] => some (last, [])
    | first :: rest => some (first, siftUp before 0 heap.length (last :: rest) 0)

def heapify (heap : List α) : List α :=
  (List.range (heap.length / 2)).reverse.foldl
    (fun heap pos => siftUp before pos heap.length heap pos) heap

variable {before}

theorem siftDown_perm {start fuel pos : Nat} : (siftDown before start fuel heap pos).Perm heap := by
  induction fuel generalizing heap pos with
  | zero => exact List.Perm.refl heap
  | succ fuel ih =>
    unfold siftDown
    dsimp only
    split
    · exact ih.trans exchange_perm
    · exact List.Perm.refl heap

theorem siftUp_perm {start fuel pos : Nat} : (siftUp before start fuel heap pos).Perm heap := by
  induction fuel generalizing heap pos with
  | zero => exact siftDown_perm
  | succ fuel ih =>
    unfold siftUp
    dsimp only
    split
    · exact ih.trans exchange_perm
    · exact siftDown_perm

theorem push_perm : (push before heap item).Perm (item :: heap) :=
  siftDown_perm.trans (List.perm_append_singleton item heap)

theorem pop_perm {rest : List α} (popped : pop before heap = some (item, rest)) :
    heap.Perm (item :: rest) := by
  rcases List.eq_nil_or_concat heap with rfl | ⟨front, last, rfl⟩
  · simp [pop] at popped
  · cases front with
    | nil =>
      simp only [pop, List.nil_append, List.concat_eq_append, List.getLast?_singleton,
        List.dropLast_singleton, Option.some.injEq, Prod.mk.injEq] at popped
      rcases popped with ⟨rfl, rfl⟩
      exact List.Perm.refl _
    | cons first tail =>
      simp only [pop, List.concat_eq_append, List.getLast?_concat, List.dropLast_concat,
        Option.some.injEq, Prod.mk.injEq] at popped
      rcases popped with ⟨rfl, rfl⟩
      have moved : (tail ++ [last]).Perm (last :: tail) := List.perm_append_singleton last tail
      rw [List.concat_eq_append, List.cons_append]
      exact (moved.trans siftUp_perm.symm).cons first

theorem heapify_perm : (heapify before heap).Perm heap := by
  unfold heapify
  generalize (List.range (heap.length / 2)).reverse = positions
  induction positions generalizing heap with
  | nil => exact List.Perm.refl heap
  | cons pos rest ih => exact ih.trans siftUp_perm

end Sift

end Heap

end Foundation
end ZepGpu
