import Mathlib.Data.Nat.Log
import Mathlib.Data.List.Basic

namespace ZepGpu
namespace Foundation

open List

/-!
# Binary hash trees that repeat an odd last node

A level of nodes is combined pairwise into the level above it.  When a level
has an odd number of nodes its last node is combined with a copy of itself,
and the process stops at a single node, the root.  The combining function is
arbitrary: nothing here is about a particular hash.

Because of the repetition a tree position does not determine a leaf by a plain
binary expansion.  `slot` computes the leaf a path really ends at.  The two
binding results are stated relative to the pairs that the two computations
actually combine, so that they can be used with a function that is injective
on those pairs only.
-/

namespace MerkleTree

variable {α : Type} (combine : α -> α -> α)

/-- One level up.  A last node without a partner is combined with itself. -/
def pairUp : List α -> List α
  | [] => []
  | [last] => [combine last last]
  | left :: right :: rest => combine left right :: pairUp rest

/-- Go up until at most one node is left, at most `fuel` times. -/
def collapse : Nat -> List α -> List α
  | 0, level => level
  | fuel + 1, level =>
    if 1 < level.length then collapse fuel (pairUp combine level) else level

/-- The list of the root, empty for the empty tree.  Every level is shorter
than the one below it, so the number of leaves is enough fuel. -/
def root (leaves : List α) : List α :=
  collapse combine leaves.length leaves

theorem length_pairUp (level : List α) :
    (pairUp combine level).length = (level.length + 1) / 2 := by
  induction level using pairUp.induct with
  | case1 => simp [pairUp]
  | case2 last => simp [pairUp]
  | case3 left right rest ih =>
    simp only [pairUp, length_cons, ih]
    omega

theorem getElem?_pairUp (level : List α) (index : Nat) :
    (pairUp combine level)[index]? =
      (level[2 * index]?).map (fun left => combine left ((level[2 * index + 1]?).getD left)) := by
  induction level using pairUp.induct generalizing index with
  | case1 => simp [pairUp]
  | case2 last =>
    cases index with
    | zero => simp [pairUp]
    | succ index => simp [pairUp]
  | case3 left right rest ih =>
    cases index with
    | zero => simp [pairUp]
    | succ index =>
      have double : 2 * (index + 1) = 2 * index + 1 + 1 := by omega
      simp only [pairUp, getElem?_cons_succ, double]
      exact ih index

theorem length_pairUp_lt (level : List α) (several : 1 < level.length) :
    (pairUp combine level).length < level.length := by
  rw [length_pairUp]
  omega

theorem collapse_of_not_several (fuel : Nat) (level : List α) (single : ¬ 1 < level.length) :
    collapse combine fuel level = level := by
  cases fuel with
  | zero => rfl
  | succ fuel => rw [collapse, if_neg single]

theorem collapse_fuel (low high : Nat) (level : List α) (lowEnough : level.length ≤ low)
    (highEnough : level.length ≤ high) :
    collapse combine low level = collapse combine high level := by
  induction low generalizing high level with
  | zero => rw [collapse_of_not_several combine 0 level (by omega),
      collapse_of_not_several combine high level (by omega)]
  | succ low ih =>
    by_cases several : 1 < level.length
    · have shorter := length_pairUp_lt combine level several
      obtain ⟨high, rfl⟩ : ∃ next, high = next + 1 := ⟨high - 1, by omega⟩
      rw [collapse, collapse, if_pos several, if_pos several]
      exact ih high _ (by omega) (by omega)
    · rw [collapse_of_not_several combine _ level several,
        collapse_of_not_several combine _ level several]

theorem root_pairUp (level : List α) (several : 1 < level.length) :
    root combine level = root combine (pairUp combine level) := by
  have shorter := length_pairUp_lt combine level several
  obtain ⟨size, sizeEq⟩ : ∃ size, level.length = size + 1 := ⟨level.length - 1, by omega⟩
  rw [root, sizeEq, collapse, if_pos several]
  exact collapse_fuel combine _ _ _ (by omega) (Nat.le_refl _)

theorem root_singleton (node : α) : root combine [node] = [node] := rfl

theorem length_root (leaves : List α) (nonempty : leaves ≠ []) :
    (root combine leaves).length = 1 := by
  induction sizeEq : leaves.length using Nat.strong_induction_on generalizing leaves with
  | _ size ih =>
    have positive : 0 < leaves.length := length_pos_iff.mpr nonempty
    by_cases several : 1 < leaves.length
    · have shorter := length_pairUp_lt combine leaves several
      rw [root_pairUp combine leaves several]
      refine ih _ (by omega) _ (length_pos_iff.mp ?_) rfl
      rw [length_pairUp]
      omega
    · rw [root, collapse_of_not_several combine _ leaves several]
      omega

theorem clog_pairUp (level : List α) (several : 1 < level.length) :
    Nat.clog 2 level.length = Nat.clog 2 (pairUp combine level).length + 1 := by
  rw [length_pairUp]
  exact Nat.clog_of_two_le (by decide) several

def adjacent : List α -> List (α × α)
  | [] => []
  | [last] => [(last, last)]
  | left :: right :: rest => (left, right) :: adjacent rest

/-- Every pair combined on the way from the leaves to the root. -/
def treePairsFuel : Nat -> List α -> List (α × α)
  | 0, _ => []
  | fuel + 1, level =>
    if 1 < level.length then adjacent level ++ treePairsFuel fuel (pairUp combine level) else []

def treePairs (leaves : List α) : List (α × α) :=
  treePairsFuel combine leaves.length leaves

theorem treePairsFuel_of_not_several (fuel : Nat) (level : List α)
    (single : ¬ 1 < level.length) : treePairsFuel combine fuel level = [] := by
  cases fuel with
  | zero => rfl
  | succ fuel => rw [treePairsFuel, if_neg single]

theorem treePairsFuel_fuel (low high : Nat) (level : List α) (lowEnough : level.length ≤ low)
    (highEnough : level.length ≤ high) :
    treePairsFuel combine low level = treePairsFuel combine high level := by
  induction low generalizing high level with
  | zero => rw [treePairsFuel_of_not_several combine 0 level (by omega),
      treePairsFuel_of_not_several combine high level (by omega)]
  | succ low ih =>
    by_cases several : 1 < level.length
    · have shorter := length_pairUp_lt combine level several
      obtain ⟨high, rfl⟩ : ∃ next, high = next + 1 := ⟨high - 1, by omega⟩
      rw [treePairsFuel, treePairsFuel, if_pos several, if_pos several,
        ih high _ (by omega) (by omega)]
    · rw [treePairsFuel_of_not_several combine _ level several,
        treePairsFuel_of_not_several combine _ level several]

theorem treePairs_pairUp (level : List α) (several : 1 < level.length) :
    treePairs combine level = adjacent level ++ treePairs combine (pairUp combine level) := by
  have shorter := length_pairUp_lt combine level several
  obtain ⟨size, sizeEq⟩ : ∃ size, level.length = size + 1 := ⟨level.length - 1, by omega⟩
  rw [treePairs, sizeEq, treePairsFuel, if_pos several]
  rw [treePairsFuel_fuel combine size _ _ (by omega) (Nat.le_refl _)]
  rfl

theorem adjacent_subset_treePairs {level : List α} {pair : α × α} (several : 1 < level.length)
    (member : pair ∈ adjacent level) : pair ∈ treePairs combine level := by
  rw [treePairs_pairUp combine level several]
  exact mem_append_left _ member

theorem treePairs_pairUp_subset {level : List α} {pair : α × α} (several : 1 < level.length)
    (member : pair ∈ treePairs combine (pairUp combine level)) : pair ∈ treePairs combine level := by
  rw [treePairs_pairUp combine level several]
  exact mem_append_right _ member

theorem getElem?_adjacent (level : List α) (index : Nat) :
    (adjacent level)[index]? =
      (level[2 * index]?).map (fun left => (left, (level[2 * index + 1]?).getD left)) := by
  induction level using adjacent.induct generalizing index with
  | case1 => simp [adjacent]
  | case2 last =>
    cases index with
    | zero => simp [adjacent]
    | succ index => simp [adjacent]
  | case3 left right rest ih =>
    cases index with
    | zero => simp [adjacent]
    | succ index =>
      have double : 2 * (index + 1) = 2 * index + 1 + 1 := by omega
      simp only [adjacent, getElem?_cons_succ, double]
      exact ih index

theorem mem_adjacent {level : List α} {index : Nat} {node : α}
    (nodeAt : level[2 * index]? = some node) :
    (node, (level[2 * index + 1]?).getD node) ∈ adjacent level := by
  apply mem_of_getElem? (i := index)
  rw [getElem?_adjacent, nodeAt]
  rfl

theorem pairUp_forall {good : α -> Prop} (combined : ∀ left right, good (combine left right))
    (level : List α) : ∀ node, node ∈ pairUp combine level -> good node := by
  induction level using pairUp.induct with
  | case1 => simp [pairUp]
  | case2 last =>
    intro node member
    rw [pairUp, mem_singleton] at member
    exact member ▸ combined last last
  | case3 left right rest ih =>
    intro node member
    rw [pairUp, mem_cons] at member
    rcases member with here | later
    · exact here ▸ combined left right
    · exact ih node later

theorem adjacent_forall {good : α -> Prop} (level : List α)
    (levelGood : ∀ node, node ∈ level -> good node) :
    ∀ pair, pair ∈ adjacent level -> good pair.1 ∧ good pair.2 := by
  induction level using adjacent.induct with
  | case1 => simp [adjacent]
  | case2 last =>
    intro pair member
    rw [adjacent, mem_singleton] at member
    subst pair
    exact ⟨levelGood last (by simp), levelGood last (by simp)⟩
  | case3 left right rest ih =>
    intro pair member
    rw [adjacent, mem_cons] at member
    rcases member with here | later
    · subst pair
      exact ⟨levelGood left (by simp), levelGood right (by simp)⟩
    · exact ih (fun node inside => levelGood node (by simp [inside])) pair later

theorem treePairs_forall {good : α -> Prop} (combined : ∀ left right, good (combine left right))
    (leaves : List α) (leavesGood : ∀ leaf, leaf ∈ leaves -> good leaf) :
    ∀ pair, pair ∈ treePairs combine leaves -> good pair.1 ∧ good pair.2 := by
  induction sizeEq : leaves.length using Nat.strong_induction_on generalizing leaves with
  | _ size ih =>
    intro pair member
    by_cases several : 1 < leaves.length
    · rw [treePairs_pairUp combine leaves several, mem_append] at member
      rcases member with here | above
      · exact adjacent_forall leaves leavesGood pair here
      · have shorter := length_pairUp_lt combine leaves several
        exact ih _ (by omega) _ (pairUp_forall combine combined leaves) rfl pair above
    · rw [treePairs, treePairsFuel_of_not_several combine _ leaves several] at member
      exact absurd member not_mem_nil

theorem pairUp_inj {left right : List α} (sameLength : left.length = right.length)
    (binding : ∀ p, p ∈ adjacent left -> ∀ q, q ∈ adjacent right ->
      combine p.1 p.2 = combine q.1 q.2 -> p = q)
    (same : pairUp combine left = pairUp combine right) : left = right := by
  induction left using pairUp.induct generalizing right with
  | case1 => exact (eq_nil_of_length_eq_zero sameLength.symm).symm
  | case2 last =>
    obtain ⟨other, rfl⟩ := length_eq_one_iff.mp sameLength.symm
    simp only [pairUp, List.cons.injEq, and_true] at same
    have pairs := binding (last, last) (by simp [adjacent]) (other, other) (by simp [adjacent]) same
    rw [(Prod.mk.inj pairs).1]
  | case3 first second rest ih =>
    match right, sameLength with
    | third :: fourth :: others, sameLength =>
      simp only [pairUp, List.cons.injEq] at same
      have pairs := binding (first, second) (by simp [adjacent]) (third, fourth)
        (by simp [adjacent]) same.1
      have tails := ih (by simpa using sameLength)
        (fun p pMember q qMember => binding p (by simp [adjacent, pMember]) q
          (by simp [adjacent, qMember])) same.2
      rw [(Prod.mk.inj pairs).1, (Prod.mk.inj pairs).2, tails]

/-- Trees with the same number of leaves and the same root have the same
leaves.  The number of leaves must be given: the repetition of an odd last
node makes different numbers of leaves share a root. -/
theorem root_inj {left right : List α} (sameLength : left.length = right.length)
    (binding : ∀ p, p ∈ treePairs combine left -> ∀ q, q ∈ treePairs combine right ->
      combine p.1 p.2 = combine q.1 q.2 -> p = q)
    (same : root combine left = root combine right) : left = right := by
  induction sizeEq : left.length using Nat.strong_induction_on generalizing left right with
  | _ size ih =>
    by_cases several : 1 < left.length
    · have severalRight : 1 < right.length := by omega
      have shorter := length_pairUp_lt combine left several
      rw [root_pairUp combine left several, root_pairUp combine right severalRight] at same
      have above : pairUp combine left = pairUp combine right := by
        refine ih _ (by omega) ?_ ?_ same rfl
        · rw [length_pairUp, length_pairUp, sameLength]
        · intro p pMember q qMember
          exact binding p (treePairs_pairUp_subset combine several pMember) q
            (treePairs_pairUp_subset combine severalRight qMember)
      refine pairUp_inj combine sameLength ?_ above
      intro p pMember q qMember
      exact binding p (adjacent_subset_treePairs combine several pMember) q
        (adjacent_subset_treePairs combine severalRight qMember)
    · rw [root, root, collapse_of_not_several combine _ left several,
        collapse_of_not_several combine _ right (by omega)] at same
      exact same

theorem root_repeat_last (front : List α) (last : α) (odd : front.length % 2 = 0)
    (several : front ≠ []) :
    root combine (front ++ [last]) = root combine (front ++ [last, last]) := by
  have levels : ∀ nodes : List α, nodes.length % 2 = 0 ->
      pairUp combine (nodes ++ [last]) = pairUp combine (nodes ++ [last, last]) := by
    intro nodes
    induction nodes using pairUp.induct with
    | case1 => intro _; rfl
    | case2 node => intro impossible; simp at impossible
    | case3 left right rest ih =>
      intro even
      simp only [cons_append, pairUp]
      rw [ih (by simp only [length_cons] at even; omega)]
  have positive : 0 < front.length := length_pos_iff.mpr several
  rw [root_pairUp combine (front ++ [last]) (by simp; omega),
    root_pairUp combine (front ++ [last, last]) (by simp), levels front odd]

/-- The side on which the sibling of the running node stands. -/
inductive Side where
  | left
  | right
  deriving DecidableEq, Repr

def join (running : α) (step : Side × α) : α :=
  match step.1 with
  | .right => combine running step.2
  | .left => combine step.2 running

def climb (running : α) (path : List (Side × α)) : α :=
  path.foldl (join combine) running

def joinPair (running : α) (step : Side × α) : α × α :=
  match step.1 with
  | .right => (running, step.2)
  | .left => (step.2, running)

def climbPairs : α -> List (Side × α) -> List (α × α)
  | _, [] => []
  | running, step :: path =>
    joinPair running step :: climbPairs (join combine running step) path

/-- The leaf below the end of a path in a tree of `size` leaves.  Each level
has its own number of nodes, and a step to the missing right neighbour of an
odd last node stays at that node. -/
def slot : Nat -> List Side -> Nat
  | _, [] => 0
  | size, side :: sides =>
    min (2 * slot ((size + 1) / 2) sides + (if side = .left then 1 else 0)) (size - 1)

theorem join_eq (running : α) (step : Side × α) :
    join combine running step =
      combine (joinPair running step).1 (joinPair running step).2 := by
  obtain ⟨side, sibling⟩ := step
  cases side <;> rfl

theorem climb_append (running : α) (front back : List (Side × α)) :
    climb combine running (front ++ back) = climb combine (climb combine running front) back :=
  foldl_append

theorem climbPairs_append (running : α) (front back : List (Side × α)) :
    climbPairs combine running (front ++ back) =
      climbPairs combine running front ++ climbPairs combine (climb combine running front) back := by
  induction front generalizing running with
  | nil => rfl
  | cons step front ih => simp only [cons_append, climbPairs, ih, climb, foldl_cons]

theorem climbPairs_forall (good : α -> Prop) (combined : ∀ left right, good (combine left right))
    (running : α) (path : List (Side × α)) (first : good running) :
    ∀ pair, pair ∈ climbPairs combine running path -> good pair.1 ∨ good pair.2 := by
  induction path generalizing running with
  | nil =>
    intro pair impossible
    exact absurd impossible not_mem_nil
  | cons step path ih =>
    intro pair member
    rcases mem_cons.mp member with here | later
    · obtain ⟨side, sibling⟩ := step
      subst here
      cases side with
      | right => exact Or.inl first
      | left => exact Or.inr first
    · refine ih _ ?_ pair later
      rw [join_eq]
      exact combined _ _

/-- A path of full length that reaches the root starts at the leaf of its
slot.  The siblings are arbitrary: only the pairs that are really combined
have to be told apart. -/
theorem climb_binds (path : List (Side × α)) (leaves : List α) (running : α)
    (nonempty : leaves ≠ []) (full : path.length = Nat.clog 2 leaves.length)
    (binding : ∀ p, p ∈ treePairs combine leaves ->
      ∀ q, q ∈ climbPairs combine running path ->
        combine q.1 q.2 = combine p.1 p.2 -> q = p)
    (reaches : root combine leaves = [climb combine running path]) :
    leaves[slot leaves.length (path.map Prod.fst)]? = some running := by
  induction path generalizing leaves running with
  | nil =>
    have positive : 0 < leaves.length := length_pos_iff.mpr nonempty
    have single : ¬ 1 < leaves.length := by
      intro several
      have levels := Nat.clog_pos (by decide : 1 < 2) several
      simp only [length_nil] at full
      omega
    rw [root, collapse_of_not_several combine _ leaves single] at reaches
    rw [reaches]
    rfl
  | cons step path ih =>
    have positive : 0 < leaves.length := length_pos_iff.mpr nonempty
    have several : 1 < leaves.length := by
      by_contra single
      rw [Nat.clog_of_right_le_one (by omega)] at full
      simp at full
    have above := length_pairUp combine leaves
    have levels := clog_pairUp combine leaves several
    simp only [length_cons] at full
    rw [root_pairUp combine leaves several] at reaches
    have parent := ih (pairUp combine leaves) (join combine running step)
      (length_pos_iff.mp (by omega)) (by omega)
      (fun p pMember q qMember => binding p (treePairs_pairUp_subset combine several pMember) q
        (by simp [climbPairs, qMember])) reaches
    rw [getElem?_pairUp, above] at parent
    simp only [map_cons, slot]
    generalize slot ((leaves.length + 1) / 2) (path.map Prod.fst) = index at parent ⊢
    rw [Option.map_eq_some_iff] at parent
    obtain ⟨leftNode, leftAt, combined⟩ := parent
    have leftBound : 2 * index < leaves.length := (List.getElem?_eq_some_iff.mp leftAt).1
    rw [join_eq] at combined
    have pairs := binding _ (adjacent_subset_treePairs combine several (mem_adjacent leftAt))
      (joinPair running step) (by simp [climbPairs]) combined.symm
    obtain ⟨side, sibling⟩ := step
    cases side with
    | right =>
      have here := (Prod.mk.inj pairs).1
      rw [if_neg (by simp), Nat.add_zero, Nat.min_eq_left (by omega), leftAt, here]
    | left =>
      have here := (Prod.mk.inj pairs).2
      rw [if_pos rfl]
      -- the right child is the odd last node itself when it has no neighbour
      by_cases neighbour : 2 * index + 1 < leaves.length
      · rw [Nat.min_eq_left (by omega), here]
        rw [getElem?_eq_getElem neighbour, Option.getD_some]
      · rw [Nat.min_eq_right (by omega), here]
        rw [getElem?_eq_none (by omega : leaves.length ≤ 2 * index + 1), Option.getD_none]
        rw [show leaves.length - 1 = 2 * index by omega, leftAt]

theorem climb_short (path : List (Side × α)) (leaves : List α) (running : α)
    (short : path.length < Nat.clog 2 leaves.length)
    (binding : ∀ p, p ∈ treePairs combine leaves ->
      ∀ q, q ∈ climbPairs combine running path ->
        combine q.1 q.2 = combine p.1 p.2 -> q = p)
    (reaches : root combine leaves = [climb combine running path]) :
    ∃ p, p ∈ treePairs combine leaves ∧ running = combine p.1 p.2 := by
  induction sizeEq : leaves.length using Nat.strong_induction_on generalizing leaves with
  | _ size ih =>
    have several : 1 < leaves.length := by
      by_contra single
      rw [Nat.clog_of_right_le_one (by omega)] at short
      omega
    have shorter := length_pairUp_lt combine leaves several
    have levels := clog_pairUp combine leaves several
    have above := length_pairUp combine leaves
    have bindingAbove : ∀ p, p ∈ treePairs combine (pairUp combine leaves) ->
        ∀ q, q ∈ climbPairs combine running path ->
          combine q.1 q.2 = combine p.1 p.2 -> q = p := fun p member =>
      binding p (treePairs_pairUp_subset combine several member)
    rw [root_pairUp combine leaves several] at reaches
    by_cases full : path.length = Nat.clog 2 (pairUp combine leaves).length
    · have found := climb_binds combine path (pairUp combine leaves) running
        (length_pos_iff.mp (by omega)) full bindingAbove reaches
      rw [getElem?_pairUp, Option.map_eq_some_iff] at found
      obtain ⟨leftNode, leftAt, combined⟩ := found
      generalize slot (pairUp combine leaves).length (path.map Prod.fst) = index at leftAt combined
      exact ⟨_, adjacent_subset_treePairs combine several (mem_adjacent leftAt), combined.symm⟩
    · obtain ⟨p, member, combined⟩ := ih _ (by omega) (pairUp combine leaves) (by omega)
        bindingAbove reaches rfl
      exact ⟨p, treePairs_pairUp_subset combine several member, combined⟩

/-- The sibling of the node at an index, with its side.  The sibling of an odd
last node is the node itself. -/
def siblingOf [Inhabited α] (level : List α) (index : Nat) : Side × α :=
  if index % 2 = 0 then (.right, (level[index + 1]?).getD ((level[index]?).getD default))
  else (.left, (level[index - 1]?).getD default)

/-- Collect the siblings from a node to the root, together with the list of
the root. -/
def openPath [Inhabited α] : Nat -> List α -> Nat -> List (Side × α) × List α
  | 0, level, _ => ([], level)
  | fuel + 1, level, index =>
    if 1 < level.length then
      let above := openPath fuel (pairUp combine level) (index / 2)
      (siblingOf level index :: above.1, above.2)
    else ([], level)

theorem join_siblingOf [Inhabited α] {level : List α} {index : Nat} {node : α}
    (nodeAt : level[index]? = some node) :
    (pairUp combine level)[index / 2]? = some (join combine node (siblingOf level index)) := by
  have bound := (List.getElem?_eq_some_iff.mp nodeAt).1
  rw [getElem?_pairUp, siblingOf]
  by_cases even : index % 2 = 0
  · rw [show 2 * (index / 2) = index by omega, nodeAt, if_pos even]
    rfl
  · have before : level[index - 1]? = some level[index - 1] :=
      getElem?_eq_getElem (by omega)
    rw [show 2 * (index / 2) + 1 = index by omega, nodeAt,
      show 2 * (index / 2) = index - 1 by omega, before, if_neg even]
    rfl

theorem climb_openPath [Inhabited α] (fuel : Nat) (level : List α) (index : Nat) (node : α)
    (enough : level.length ≤ fuel) (nodeAt : level[index]? = some node) :
    root combine level = [climb combine node (openPath combine fuel level index).1] := by
  induction fuel generalizing level index node with
  | zero =>
    have bound := (List.getElem?_eq_some_iff.mp nodeAt).1
    omega
  | succ fuel ih =>
    have bound := (List.getElem?_eq_some_iff.mp nodeAt).1
    by_cases several : 1 < level.length
    · have shorter := length_pairUp_lt combine level several
      rw [root_pairUp combine level several, openPath, if_pos several, climb, foldl_cons]
      exact ih _ _ _ (by omega) (join_siblingOf combine nodeAt)
    · have single : level.length = 1 := by omega
      obtain ⟨other, rfl⟩ := length_eq_one_iff.mp single
      have atZero : index = 0 := by simpa using bound
      subst atZero
      rw [openPath, if_neg several, root_singleton]
      exact congrArg (fun node => [node]) (Option.some.inj nodeAt)

theorem openPath_top [Inhabited α] (fuel : Nat) (level : List α) (index : Nat) :
    (openPath combine fuel level index).2 = collapse combine fuel level := by
  induction fuel generalizing level index with
  | zero => rfl
  | succ fuel ih =>
    rw [openPath, collapse]
    by_cases several : 1 < level.length
    · rw [if_pos several, if_pos several]
      exact ih _ _
    · rw [if_neg several, if_neg several]

theorem length_openPath [Inhabited α] (fuel : Nat) (level : List α) (index : Nat)
    (enough : level.length ≤ fuel) :
    (openPath combine fuel level index).1.length = Nat.clog 2 level.length := by
  induction fuel generalizing level index with
  | zero => rw [openPath, Nat.clog_of_right_le_one (by omega), length_nil]
  | succ fuel ih =>
    rw [openPath]
    by_cases several : 1 < level.length
    · have shorter := length_pairUp_lt combine level several
      rw [if_pos several, length_cons, ih _ _ (by omega), clog_pairUp combine level several]
    · rw [if_neg several, Nat.clog_of_right_le_one (by omega), length_nil]

theorem joinPair_siblingOf [Inhabited α] {level : List α} {index : Nat} {node : α}
    (nodeAt : level[index]? = some node) :
    joinPair node (siblingOf level index) ∈ adjacent level := by
  have bound := (List.getElem?_eq_some_iff.mp nodeAt).1
  rw [siblingOf]
  by_cases even : index % 2 = 0
  · have pair : (node, (level[2 * (index / 2) + 1]?).getD node) ∈ adjacent level :=
      mem_adjacent (by rw [show 2 * (index / 2) = index by omega]; exact nodeAt)
    rw [show 2 * (index / 2) + 1 = index + 1 by omega] at pair
    rw [if_pos even, nodeAt, Option.getD_some]
    exact pair
  · have before : level[index - 1]? = some level[index - 1] := getElem?_eq_getElem (by omega)
    have pair : (level[index - 1], (level[2 * (index / 2) + 1]?).getD level[index - 1]) ∈
        adjacent level :=
      mem_adjacent (by rw [show 2 * (index / 2) = index - 1 by omega]; exact before)
    rw [show 2 * (index / 2) + 1 = index by omega, nodeAt, Option.getD_some] at pair
    rw [if_neg even, before, Option.getD_some]
    exact pair

theorem climbPairs_openPath [Inhabited α] (fuel : Nat) (level : List α) (index : Nat) (node : α)
    (enough : level.length ≤ fuel) (nodeAt : level[index]? = some node) :
    ∀ pair, pair ∈ climbPairs combine node (openPath combine fuel level index).1 ->
      pair ∈ treePairs combine level := by
  induction fuel generalizing level index node with
  | zero =>
    intro pair impossible
    exact absurd impossible not_mem_nil
  | succ fuel ih =>
    intro pair member
    rw [openPath] at member
    by_cases several : 1 < level.length
    · have shorter := length_pairUp_lt combine level several
      rw [if_pos several] at member
      rcases mem_cons.mp member with here | above
      · rw [here]
        exact adjacent_subset_treePairs combine several (joinPair_siblingOf nodeAt)
      · exact treePairs_pairUp_subset combine several
          (ih _ _ _ (by omega) (join_siblingOf combine nodeAt) pair above)
    · rw [if_neg several] at member
      exact absurd member not_mem_nil

section SameRoot

variable {left right : List α} [Inhabited α]

/-- A leaf of one tree is found in another tree with the same root that is not
less deep, unless it is an inner node there. -/
theorem mem_of_root_eq {leaf : α} (nonempty : left ≠ []) (member : leaf ∈ right)
    (shallow : Nat.clog 2 right.length ≤ Nat.clog 2 left.length)
    (outer : ∀ p, p ∈ treePairs combine left -> leaf ≠ combine p.1 p.2)
    (binding : ∀ p, p ∈ treePairs combine left -> ∀ q, q ∈ treePairs combine right ->
      combine q.1 q.2 = combine p.1 p.2 -> q = p)
    (same : root combine left = root combine right) :
    Nat.clog 2 right.length = Nat.clog 2 left.length ∧ leaf ∈ left := by
  obtain ⟨index, leafAt⟩ := mem_iff_getElem?.mp member
  have reaches := climb_openPath combine right.length right index leaf (Nat.le_refl _) leafAt
  have size := length_openPath combine right.length right index (Nat.le_refl _)
  have pairs := climbPairs_openPath combine right.length right index leaf (Nat.le_refl _) leafAt
  rw [← same] at reaches
  by_cases short : Nat.clog 2 right.length < Nat.clog 2 left.length
  · obtain ⟨p, pMember, inner⟩ := climb_short combine _ left leaf (by rw [size]; exact short)
      (fun p pMember q qMember => binding p pMember q (pairs q qMember)) reaches
    exact absurd inner (outer p pMember)
  · have full : Nat.clog 2 right.length = Nat.clog 2 left.length := by omega
    have found := climb_binds combine _ left leaf nonempty (by rw [size]; exact full)
      (fun p pMember q qMember => binding p pMember q (pairs q qMember)) reaches
    exact ⟨full, mem_of_getElem? found⟩

theorem root_inj_of_nodup (leftNonempty : left ≠ []) (rightNonempty : right ≠ [])
    (leftDistinct : left.Nodup) (rightDistinct : right.Nodup)
    (leftOuter : ∀ leaf, leaf ∈ left -> ∀ p, p ∈ treePairs combine right ->
      leaf ≠ combine p.1 p.2)
    (rightOuter : ∀ leaf, leaf ∈ right -> ∀ p, p ∈ treePairs combine left ->
      leaf ≠ combine p.1 p.2)
    (binding : ∀ p, p ∈ treePairs combine left -> ∀ q, q ∈ treePairs combine right ->
      combine p.1 p.2 = combine q.1 q.2 -> p = q)
    (same : root combine left = root combine right) : left = right := by
  have fromRight : Nat.clog 2 right.length ≤ Nat.clog 2 left.length -> ∀ leaf, leaf ∈ right ->
      Nat.clog 2 right.length = Nat.clog 2 left.length ∧ leaf ∈ left := by
    intro shallow leaf member
    exact mem_of_root_eq combine leftNonempty member shallow (rightOuter leaf member)
      (fun p pMember q qMember combined => (binding p pMember q qMember combined.symm).symm) same
  have fromLeft : Nat.clog 2 left.length ≤ Nat.clog 2 right.length -> ∀ leaf, leaf ∈ left ->
      Nat.clog 2 left.length = Nat.clog 2 right.length ∧ leaf ∈ right := by
    intro shallow leaf member
    exact mem_of_root_eq combine rightNonempty member shallow (leftOuter leaf member)
      (fun p pMember q qMember combined => binding q qMember p pMember combined) same.symm
  have sameDepth : Nat.clog 2 left.length = Nat.clog 2 right.length := by
    rcases Nat.le_total (Nat.clog 2 right.length) (Nat.clog 2 left.length) with low | low
    · exact (fromRight low _ (head_mem rightNonempty)).1.symm
    · exact (fromLeft low _ (head_mem leftNonempty)).1
  have sameLength : left.length = right.length := by
    apply Nat.le_antisymm
    · exact List.Nodup.length_le_of_subset leftDistinct
        (fun leaf member => (fromLeft (Nat.le_of_eq sameDepth) leaf member).2)
    · exact List.Nodup.length_le_of_subset rightDistinct
        (fun leaf member => (fromRight (Nat.le_of_eq sameDepth.symm) leaf member).2)
  exact root_inj combine sameLength binding same

end SameRoot

end MerkleTree

end Foundation
end ZepGpu
