import Mathlib.Logic.Equiv.Basic
import Mathlib.Order.Lattice
import ZepGpu.Foundation.Heap

namespace ZepGpu
namespace Foundation
namespace Heap

open List

/-!
# The order of a binary heap

In a heap no element comes before its parent, so that none comes before the
first one.  An element that is out of place is in order with all but its own
neighbours, and while it moves its old neighbours come into order.  The lemmas
on one exchange say this once for the way to the root and once for the way to a
leaf.
-/

variable {α : Type} {before : α -> α -> Bool} {heap : List α} {item : α}
  {start pos child i j k : Nat}

/-- An order that leaves no gaps: whatever is put between two elements comes after
the first or before the second. -/
structure Orders (before : α -> α -> Bool) : Prop where
  asymm : ∀ a b, before a b = true -> before b a = false
  between : ∀ a b c, before a c = true -> before a b = true ∨ before b c = true

theorem orders_of_key {β : Type} [LinearOrder β] {key : α -> β}
    (same : ∀ a b, before a b = decide (key a < key b)) : Orders before where
  asymm := by
    intro a b first
    rw [same, decide_eq_true_eq] at first
    rw [same, decide_eq_false_iff_not]
    exact lt_asymm first
  between := by
    intro a b c first
    rw [same, decide_eq_true_eq] at first
    rw [same, same, decide_eq_true_eq, decide_eq_true_eq]
    rcases lt_or_ge (key a) (key b) with below | above
    · exact Or.inl below
    · exact Or.inr (above.trans_lt first)

theorem earlier_of_length_le (outside : heap.length ≤ i) : earlier before heap i j = false := by
  unfold earlier
  rw [getElem?_eq_none outside]

theorem Orders.earlier_asymm (orders : Orders before) (first : earlier before heap i j = true) :
    earlier before heap j i = false := by
  unfold earlier at first ⊢
  cases atI : heap[i]? with
  | none =>
    rw [atI] at first
    cases first
  | some a =>
    cases atJ : heap[j]? with
    | none => rfl
    | some b =>
      rw [atI, atJ] at first
      exact orders.asymm a b first

theorem Orders.not_earlier_trans (orders : Orders before) (inside : j < heap.length)
    (upper : earlier before heap j i = false) (lower : earlier before heap k j = false) :
    earlier before heap k i = false := by
  unfold earlier at upper lower ⊢
  cases atK : heap[k]? with
  | none => rfl
  | some c =>
    cases atI : heap[i]? with
    | none => rfl
    | some a =>
      rw [atI, getElem?_eq_getElem inside] at upper
      rw [atK, getElem?_eq_getElem inside] at lower
      dsimp only at upper lower ⊢
      rw [Bool.eq_false_iff]
      intro first
      rcases orders.between c heap[j] a first with impossible | impossible
      · rw [lower] at impossible
        cases impossible
      · rw [upper] at impossible
        cases impossible

theorem length_exchange : (exchange heap i j).length = heap.length :=
  exchange_perm.length_eq

theorem getElem?_exchange (atI : i < heap.length) (atJ : j < heap.length) :
    (exchange heap i j)[k]? = heap[Equiv.swap i j k]? := by
  unfold exchange
  rw [getElem?_eq_getElem atI, getElem?_eq_getElem atJ]
  dsimp only
  rw [getElem?_set, getElem?_set, length_set, Equiv.swap_apply_def]
  by_cases isJ : j = k
  · subst isJ
    by_cases isI : j = i
    · subst isI
      simp [atI]
    · simp [isI, atI, atJ]
  · rw [if_neg isJ]
    by_cases isI : i = k
    · subst isI
      simp [atI, atJ]
    · rw [if_neg isI, if_neg (Ne.symm isI), if_neg (Ne.symm isJ)]

theorem earlier_exchange (atI : i < heap.length) (atJ : j < heap.length) (a b : Nat) :
    earlier before (exchange heap i j) a b =
      earlier before heap (Equiv.swap i j a) (Equiv.swap i j b) := by
  unfold earlier
  rw [getElem?_exchange atI atJ, getElem?_exchange atI atJ]

/-- The positions of the subtree under a position. -/
inductive Below (start : Nat) : Nat -> Prop
  | here : Below start start
  | left {pos : Nat} (below : Below start pos) : Below start (2 * pos + 1)
  | right {pos : Nat} (below : Below start pos) : Below start (2 * pos + 2)

theorem Below.le (below : Below start pos) : start ≤ pos := by
  induction below with
  | here => exact le_refl _
  | left _ ih => omega
  | right _ ih => omega

theorem Below.parent (below : Below start pos) (deeper : start < pos) :
    Below start ((pos - 1) / 2) := by
  cases below with
  | here => exact absurd deeper (lt_irrefl _)
  | @left up below =>
    have same : (2 * up + 1 - 1) / 2 = up := by omega
    rw [same]
    exact below
  | @right up below =>
    have same : (2 * up + 2 - 1) / 2 = up := by omega
    rw [same]
    exact below

/-- No element comes before its parent, for the parents from `start` on. -/
def OrderedFrom (before : α -> α -> Bool) (start : Nat) (heap : List α) : Prop :=
  ∀ i, 0 < i -> start ≤ (i - 1) / 2 -> earlier before heap i ((i - 1) / 2) = false

theorem OrderedFrom.root_first (orders : Orders before) (ordered : OrderedFrom before 0 heap)
    (i : Nat) : earlier before heap i 0 = false := by
  induction i using Nat.strongRecOn with
  | ind i ih =>
    rcases Nat.eq_zero_or_pos i with rfl | pos
    · rw [Bool.eq_false_iff]
      intro first
      rw [orders.earlier_asymm first] at first
      cases first
    · by_cases inside : i < heap.length
      · have above : (i - 1) / 2 < i := by omega
        exact orders.not_earlier_trans (above.trans inside) (ih _ above)
          (ordered i pos (Nat.zero_le _))
      · exact earlier_of_length_le (not_lt.mp inside)

/-- All pairs are in order but that of `pos` and its parent. -/
structure Rising (before : α -> α -> Bool) (start pos : Nat) (heap : List α) : Prop where
  below : Below start pos
  inside : pos < heap.length
  except : ∀ i, 0 < i -> start ≤ (i - 1) / 2 -> i ≠ pos ->
    earlier before heap i ((i - 1) / 2) = false
  grand : ∀ i, 0 < i -> start < pos -> (i - 1) / 2 = pos ->
    earlier before heap i ((pos - 1) / 2) = false

/-- All pairs are in order but those that `pos` belongs to. -/
structure Sinking (before : α -> α -> Bool) (start pos : Nat) (heap : List α) : Prop where
  below : Below start pos
  except : ∀ i, 0 < i -> start ≤ (i - 1) / 2 -> i ≠ pos -> (i - 1) / 2 ≠ pos ->
    earlier before heap i ((i - 1) / 2) = false
  grand : ∀ i, 0 < i -> start < pos -> (i - 1) / 2 = pos ->
    earlier before heap i ((pos - 1) / 2) = false

theorem Rising.ordered (rising : Rising before start pos heap)
    (rests : start < pos -> earlier before heap pos ((pos - 1) / 2) = false) :
    OrderedFrom before start heap := by
  intro i isPos inRange
  by_cases same : i = pos
  · subst same
    apply rests
    omega
  · exact rising.except i isPos inRange same

theorem Rising.up (orders : Orders before) (rising : Rising before start pos heap)
    (deeper : start < pos) (first : earlier before heap pos ((pos - 1) / 2) = true) :
    Rising before start ((pos - 1) / 2) (exchange heap pos ((pos - 1) / 2)) := by
  have inside := rising.inside
  have above : (pos - 1) / 2 < pos := by omega
  have insideUp : (pos - 1) / 2 < heap.length := above.trans inside
  have low := (rising.below.parent deeper).le
  -- what the element comes before does not come before the element
  have behind := orders.earlier_asymm first
  refine ⟨rising.below.parent deeper, by rw [length_exchange]; exact insideUp, ?_, ?_⟩
  · intro i isPos inRange different
    rw [earlier_exchange inside insideUp]
    by_cases same : i = pos
    · subst same
      rw [Equiv.swap_apply_left, Equiv.swap_apply_right]
      exact behind
    · rw [Equiv.swap_apply_of_ne_of_ne same different]
      by_cases sibling : (i - 1) / 2 = (pos - 1) / 2
      · rw [sibling, Equiv.swap_apply_right]
        have pair := rising.except i isPos inRange same
        rw [sibling] at pair
        exact orders.not_earlier_trans insideUp behind pair
      · by_cases under : (i - 1) / 2 = pos
        · rw [under, Equiv.swap_apply_left]
          exact rising.grand i isPos deeper under
        · rw [Equiv.swap_apply_of_ne_of_ne under sibling]
          exact rising.except i isPos inRange same
  · intro i isPos deep under
    have order := (rising.below.parent deeper).parent deep
    have lowUp := order.le
    rw [earlier_exchange inside insideUp,
      Equiv.swap_apply_of_ne_of_ne (a := pos) (x := ((pos - 1) / 2 - 1) / 2) (by omega) (by omega)]
    have upper := rising.except ((pos - 1) / 2) (by omega) (by omega) (by omega)
    by_cases same : i = pos
    · subst same
      rw [Equiv.swap_apply_left]
      exact upper
    · rw [Equiv.swap_apply_of_ne_of_ne same (by omega)]
      have pair := rising.except i isPos (by omega) same
      rw [under] at pair
      exact orders.not_earlier_trans insideUp upper pair

theorem orderedFrom_siftDown (orders : Orders before) {fuel : Nat}
    (rising : Rising before start pos heap) (enough : pos < fuel) :
    OrderedFrom before start (siftDown before start fuel heap pos) := by
  induction fuel generalizing pos heap with
  | zero => exact absurd enough (Nat.not_lt_zero _)
  | succ fuel ih =>
    unfold siftDown
    dsimp only
    split_ifs with moves
    · exact ih (rising.up orders moves.1 moves.2) (by omega)
    · apply rising.ordered
      intro deeper
      rw [Bool.eq_false_iff]
      exact fun first => moves ⟨deeper, first⟩

theorem Sinking.rising (sinking : Sinking before start pos heap) (inside : pos < heap.length)
    (leaf : heap.length ≤ 2 * pos + 1) : Rising before start pos heap where
  below := sinking.below
  inside := inside
  except := by
    intro i isPos inRange different
    by_cases under : (i - 1) / 2 = pos
    · exact earlier_of_length_le (by omega)
    · exact sinking.except i isPos inRange different under
  grand := sinking.grand

theorem Sinking.down (sinking : Sinking before start pos heap)
    (isChild : child = 2 * pos + 1 ∨ child = 2 * pos + 2) (inside : child < heap.length)
    (first : ∀ i, 0 < i -> (i - 1) / 2 = pos -> earlier before heap i child = false) :
    Sinking before start child (exchange heap pos child) := by
  have under : (child - 1) / 2 = pos := by omega
  have insideUp : pos < heap.length := by omega
  have low := sinking.below.le
  refine ⟨?_, ?_, ?_⟩
  · rcases isChild with rfl | rfl
    · exact .left sinking.below
    · exact .right sinking.below
  · intro i isPos inRange different notUnder
    rw [earlier_exchange insideUp inside]
    by_cases same : i = pos
    · subst same
      have deeper : start < i := by omega
      rw [Equiv.swap_apply_left, Equiv.swap_apply_of_ne_of_ne (by omega) (by omega)]
      exact sinking.grand child (by omega) deeper under
    · rw [Equiv.swap_apply_of_ne_of_ne same different]
      by_cases sibling : (i - 1) / 2 = pos
      · rw [sibling, Equiv.swap_apply_left]
        exact first i isPos sibling
      · rw [Equiv.swap_apply_of_ne_of_ne sibling notUnder]
        exact sinking.except i isPos inRange same sibling
  · intro i isPos deep isUnder
    rw [earlier_exchange insideUp inside, under, Equiv.swap_apply_left,
      Equiv.swap_apply_of_ne_of_ne (by omega) (by omega)]
    have pair := sinking.except i isPos (by omega) (by omega) (by omega)
    rw [isUnder] at pair
    exact pair

theorem first_child (orders : Orders before) (more : 2 * pos + 1 < heap.length) :
    let chosen := if 2 * pos + 1 + 1 < heap.length &&
        !earlier before heap (2 * pos + 1) (2 * pos + 1 + 1) then 2 * pos + 1 + 1 else 2 * pos + 1
    (chosen = 2 * pos + 1 ∨ chosen = 2 * pos + 2) ∧ chosen < heap.length ∧
      ∀ i, 0 < i -> (i - 1) / 2 = pos -> earlier before heap i chosen = false := by
  intro chosen
  have self : ∀ i, earlier before heap i i = false := by
    intro i
    rw [Bool.eq_false_iff]
    intro first
    rw [orders.earlier_asymm first] at first
    cases first
  by_cases right : (2 * pos + 1 + 1 < heap.length &&
      !earlier before heap (2 * pos + 1) (2 * pos + 1 + 1)) = true
  · have isRight : chosen = 2 * pos + 1 + 1 := if_pos right
    rw [isRight]
    rw [Bool.and_eq_true, decide_eq_true_eq, Bool.not_eq_true'] at right
    refine ⟨Or.inr rfl, right.1, ?_⟩
    intro i isPos under
    have cases : i = 2 * pos + 1 ∨ i = 2 * pos + 1 + 1 := by omega
    rcases cases with rfl | rfl
    · exact right.2
    · exact self _
  · have isLeft : chosen = 2 * pos + 1 := if_neg right
    rw [isLeft]
    rw [Bool.and_eq_true, decide_eq_true_eq, Bool.not_eq_true', not_and, Bool.not_eq_false] at right
    refine ⟨Or.inl rfl, more, ?_⟩
    intro i isPos under
    have cases : i = 2 * pos + 1 ∨ i = 2 * pos + 1 + 1 := by omega
    rcases cases with rfl | rfl
    · exact self _
    · by_cases inside : 2 * pos + 1 + 1 < heap.length
      · exact orders.earlier_asymm (right inside)
      · exact earlier_of_length_le (not_lt.mp inside)

theorem orderedFrom_siftUp (orders : Orders before) {fuel : Nat}
    (sinking : Sinking before start pos heap) (inside : pos < heap.length)
    (enough : heap.length ≤ fuel + pos) :
    OrderedFrom before start (siftUp before start fuel heap pos) := by
  induction fuel generalizing pos heap with
  | zero => exact absurd inside (by omega)
  | succ fuel ih =>
    unfold siftUp
    dsimp only
    by_cases more : 2 * pos + 1 < heap.length
    · rw [if_pos more]
      have chosen := first_child orders more
      dsimp only at chosen
      rcases chosen with ⟨isChild, childInside, first⟩
      apply ih (sinking.down isChild childInside first)
      · rw [length_exchange]
        exact childInside
      · rw [length_exchange]
        omega
    · rw [if_neg more]
      exact orderedFrom_siftDown orders (sinking.rising inside (not_lt.mp more))
        (Nat.lt_succ_self pos)

theorem orderedFrom_nil : OrderedFrom before start ([] : List α) :=
  fun _ _ _ => earlier_of_length_le (Nat.zero_le _)

theorem ordered_push (orders : Orders before) (ordered : OrderedFrom before 0 heap) :
    OrderedFrom before 0 (push before heap item) := by
  unfold push
  have kept : ∀ i j, i < heap.length -> j < heap.length ->
      earlier before (heap ++ [item]) i j = earlier before heap i j := by
    intro i j atI atJ
    unfold earlier
    rw [getElem?_append_left atI, getElem?_append_left atJ]
  have root : ∀ pos, Below 0 pos := by
    intro pos
    induction pos using Nat.strongRecOn with
    | ind pos ih =>
      rcases Nat.eq_zero_or_pos pos with rfl | isPos
      · exact .here
      · have up := ih ((pos - 1) / 2) (by omega)
        rcases Nat.mod_two_eq_zero_or_one pos with even | odd
        · have same : pos = 2 * ((pos - 1) / 2) + 2 := by omega
          rw [same]
          exact .right up
        · have same : pos = 2 * ((pos - 1) / 2) + 1 := by omega
          rw [same]
          exact .left up
  apply orderedFrom_siftDown orders _ (Nat.lt_succ_self _)
  refine ⟨root _, by simp, ?_, ?_⟩
  · intro i isPos _ different
    by_cases inside : i < heap.length
    · rw [kept i _ inside (by omega)]
      exact ordered i isPos (Nat.zero_le _)
    · apply earlier_of_length_le
      rw [length_append, length_singleton]
      omega
  · intro i isPos _ under
    apply earlier_of_length_le
    rw [length_append, length_singleton]
    omega

theorem earlier_cons (other : α) (rest : List α) (atI : 0 < i) (atJ : 0 < j) (longer : List α) :
    earlier before (other :: rest) i j = true ->
      earlier before (item :: (rest ++ longer)) i j = true := by
  intro first
  unfold earlier at first ⊢
  rcases Nat.exists_eq_succ_of_ne_zero atI.ne' with ⟨i, rfl⟩
  rcases Nat.exists_eq_succ_of_ne_zero atJ.ne' with ⟨j, rfl⟩
  simp only [Nat.succ_eq_add_one, getElem?_cons_succ] at first ⊢
  cases isI : rest[i]? with
  | none =>
    rw [isI] at first
    cases first
  | some a =>
    cases isJ : rest[j]? with
    | none =>
      rw [isI, isJ] at first
      cases first
    | some b =>
      rw [List.getElem?_append_left (List.getElem?_eq_some_iff.mp isI).1,
        List.getElem?_append_left (List.getElem?_eq_some_iff.mp isJ).1, isI, isJ]
      rw [isI, isJ] at first
      exact first

theorem ordered_pop (orders : Orders before) (ordered : OrderedFrom before 0 heap)
    {rest : List α} (popped : pop before heap = some (item, rest)) :
    OrderedFrom before 0 rest ∧ ∀ other, other ∈ rest -> before other item = false := by
  have perm := pop_perm popped
  have least : ∀ other, other ∈ heap -> heap[0]? = some item -> before other item = false := by
    intro other member root
    rcases getElem?_of_mem member with ⟨i, atI⟩
    have first := ordered.root_first orders i
    unfold earlier at first
    rw [atI, root] at first
    exact first
  rcases eq_nil_or_concat heap with rfl | ⟨front, last, rfl⟩
  · simp [pop] at popped
  cases front with
  | nil =>
    simp only [pop, nil_append, concat_eq_append, getLast?_singleton,
      dropLast_singleton, Option.some.injEq, Prod.mk.injEq] at popped
    rcases popped with ⟨rfl, rfl⟩
    refine ⟨orderedFrom_nil, ?_⟩
    intro other impossible
    cases impossible
  | cons first tail =>
    simp only [pop, concat_eq_append, getLast?_concat, dropLast_concat,
      Option.some.injEq, Prod.mk.injEq] at popped
    rcases popped with ⟨rfl, rfl⟩
    constructor
    · apply orderedFrom_siftUp orders
      · refine ⟨.here, ?_, ?_⟩
        · intro i isPos inRange _ notUnder
          rw [Bool.eq_false_iff]
          intro earlier'
          have longer := @earlier_cons α before first i ((i - 1) / 2) last tail isPos (by omega)
            [last] earlier'
          have pair := ordered i isPos inRange
          rw [concat_eq_append, cons_append, longer] at pair
          cases pair
        · intro i _ impossible
          exact absurd impossible (lt_irrefl _)
      · exact Nat.succ_pos _
      · simp
    · intro other member
      exact least other (perm.mem_iff.mpr (mem_cons_of_mem _ member)) rfl

theorem ordered_heapify (orders : Orders before) (heap : List α) :
    OrderedFrom before 0 (heapify before heap) := by
  unfold heapify
  have built : ∀ count (heap : List α), count ≤ heap.length -> OrderedFrom before count heap ->
      OrderedFrom before 0 ((List.range count).reverse.foldl
        (fun heap pos => siftUp before pos heap.length heap pos) heap) := by
    intro count
    induction count with
    | zero =>
      intro heap _ ordered
      exact ordered
    | succ count ih =>
      intro heap fits ordered
      rw [range_succ, reverse_append, reverse_singleton, singleton_append, foldl_cons]
      have same : (siftUp before count heap.length heap count).length = heap.length :=
        siftUp_perm.length_eq
      apply ih
      · rw [same]
        omega
      · apply orderedFrom_siftUp orders
        · refine ⟨.here, ?_, ?_⟩
          · intro i isPos inRange _ notUnder
            exact ordered i isPos (by omega)
          · intro i _ impossible
            exact absurd impossible (lt_irrefl _)
        · omega
        · omega
  apply built
  · omega
  · intro i isPos inRange
    exact earlier_of_length_le (by omega)

end Heap
end Foundation
end ZepGpu
