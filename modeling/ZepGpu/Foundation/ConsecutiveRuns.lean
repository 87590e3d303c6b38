import Mathlib.Algebra.BigOperators.Group.Finset.Basic
import Mathlib.Algebra.Order.BigOperators.Group.List
import Mathlib.Data.Int.Interval
import Mathlib.Order.Interval.Finset.Nat

namespace ZepGpu
namespace Foundation

open List

/-!
# Runs of consecutive numbers

An ascending list of numbers falls into runs of consecutive ones, with a gap
between any two runs.  A block of consecutive numbers lies within one run.  The
blocks of one size that are pairwise disjoint are therefore counted run by run:
a run has room for as many of them as its length is divided by their size.
-/

def block (first : Int) (size : Nat) : List Int :=
  (List.range size).map (fun offset : Nat => first + (offset : Int))

theorem mem_block {first number : Int} {size : Nat} :
    number ∈ block first size ↔ first ≤ number ∧ number < first + size := by
  unfold block
  rw [mem_map]
  constructor
  · rintro ⟨offset, member, rfl⟩
    rw [mem_range] at member
    omega
  · rintro ⟨low, high⟩
    refine ⟨(number - first).toNat, ?_, ?_⟩
    · rw [mem_range]
      omega
    · omega

/-- The block from a number on lies in the numbers. -/
def HasBlock (numbers : List Int) (size : Nat) (first : Int) : Prop :=
  ∀ number, number ∈ block first size -> number ∈ numbers

/-- The numbers from the first one on, as many as the length says. -/
structure NumberRun where
  first : Int
  length : Nat
  pos : 0 < length

namespace NumberRun

def Has (run : NumberRun) (number : Int) : Prop :=
  run.first ≤ number ∧ number < run.first + run.length

def extend (run : NumberRun) : List Int -> List NumberRun
  | [] => [run]
  | number :: rest =>
    if number = run.first + run.length then
      extend ⟨run.first, run.length + 1, Nat.succ_pos _⟩ rest
    else run :: extend ⟨number, 1, Nat.one_pos⟩ rest

def runsOf : List Int -> List NumberRun
  | [] => []
  | number :: rest => extend ⟨number, 1, Nat.one_pos⟩ rest

/-- Between two runs there is a gap, and the later one is above it. -/
def Apart (left right : NumberRun) : Prop :=
  left.first + left.length < right.first

end NumberRun

open NumberRun

variable {numbers rest : List Int} {run : NumberRun} {number first : Int} {size : Nat}

theorem exists_extend_has : (∃ part, part ∈ extend run rest ∧ part.Has number) ↔
    run.Has number ∨ number ∈ rest := by
  induction rest generalizing run with
  | nil => simp [extend]
  | cons next rest ih =>
    unfold extend
    split_ifs with joins
    · rw [ih, mem_cons]
      constructor
      · rintro (has | member)
        · by_cases last : number = next
          · exact Or.inr (Or.inl last)
          · left
            unfold Has at has ⊢
            dsimp only at has
            omega
        · exact Or.inr (Or.inr member)
      · rintro (has | rfl | member)
        · left
          unfold Has at has ⊢
          dsimp only
          omega
        · left
          unfold Has
          dsimp only
          omega
        · exact Or.inr member
    · simp only [mem_cons, exists_eq_or_imp, ih]
      have alone : (⟨next, 1, Nat.one_pos⟩ : NumberRun).Has number ↔ number = next := by
        unfold Has
        dsimp only
        omega
      rw [alone]

/-- A list in ascending order above the run begun. -/
def Above (run : NumberRun) (rest : List Int) : Prop :=
  rest.Pairwise (· < ·) ∧ ∀ number, number ∈ rest -> run.first + run.length ≤ number

theorem Above.tail {next : Int} (above : Above run (next :: rest)) :
    Above ⟨next, 1, Nat.one_pos⟩ rest := by
  rcases pairwise_cons.mp above.1 with ⟨later, sorted⟩
  refine ⟨sorted, ?_⟩
  intro number member
  have order := later number member
  dsimp only
  omega

theorem Above.join {next : Int} (above : Above run (next :: rest))
    (joins : next = run.first + run.length) :
    Above ⟨run.first, run.length + 1, Nat.succ_pos _⟩ rest := by
  rcases pairwise_cons.mp above.1 with ⟨later, sorted⟩
  refine ⟨sorted, ?_⟩
  intro number member
  have order := later number member
  dsimp only
  omega

theorem extend_apart (above : Above run rest) :
    (extend run rest).Pairwise Apart ∧
      ∀ part, part ∈ extend run rest -> run.first ≤ part.first := by
  induction rest generalizing run with
  | nil => simp [extend]
  | cons next rest ih =>
    have order := above.2 next (mem_cons_self ..)
    unfold extend
    split_ifs with joins
    · exact ih (above.join joins)
    · rcases ih above.tail with ⟨apart, lowest⟩
      refine ⟨pairwise_cons.mpr ⟨?_, apart⟩, ?_⟩
      · intro part member
        have low := lowest part member
        unfold Apart
        dsimp only at low
        omega
      · intro part member
        rcases mem_cons.mp member with rfl | member
        · exact le_refl _
        · have low := lowest part member
          dsimp only at low
          omega

theorem above_tail {next : Int} (sorted : (next :: rest).Pairwise (· < ·)) :
    Above ⟨next, 1, Nat.one_pos⟩ rest := by
  rcases pairwise_cons.mp sorted with ⟨later, ascending⟩
  refine ⟨ascending, ?_⟩
  intro number member
  have order := later number member
  dsimp only
  omega

theorem runsOf_apart (sorted : numbers.Pairwise (· < ·)) : (runsOf numbers).Pairwise Apart := by
  cases numbers with
  | nil => exact List.Pairwise.nil
  | cons next rest => exact (extend_apart (above_tail sorted)).1

theorem exists_runsOf_has :
    (∃ part, part ∈ runsOf numbers ∧ part.Has number) ↔ number ∈ numbers := by
  cases numbers with
  | nil => simp [runsOf]
  | cons next rest =>
    have alone : (⟨next, 1, Nat.one_pos⟩ : NumberRun).Has number ↔ number = next := by
      unfold Has
      dsimp only
      omega
    rw [runsOf, exists_extend_has, alone, mem_cons]

variable {runs : List NumberRun}

theorem apart_or_apart {left right : NumberRun} (apart : runs.Pairwise Apart) (isLeft : left ∈ runs)
    (isRight : right ∈ runs) (different : left ≠ right) : Apart left right ∨ Apart right left := by
  induction apart with
  | nil => cases isLeft
  | cons before rest ih =>
    rcases mem_cons.mp isLeft with rfl | leftLater
    · rcases mem_cons.mp isRight with rfl | rightLater
      · exact absurd rfl different
      · exact Or.inl (before right rightLater)
    · rcases mem_cons.mp isRight with rfl | rightLater
      · exact Or.inr (before left leftLater)
      · exact ih leftLater rightLater

/-- The block lies within one run. -/
def LiesIn (size : Nat) (first : Int) (run : NumberRun) : Prop :=
  run.first ≤ first ∧ first + size ≤ run.first + run.length

theorem exists_within (apart : runs.Pairwise Apart) (pos : 0 < size)
    (covered : ∀ number, number ∈ block first size -> ∃ run, run ∈ runs ∧ run.Has number) :
    ∃ run, run ∈ runs ∧ LiesIn size first run := by
  induction size with
  | zero => exact absurd pos (lt_irrefl _)
  | succ size ih =>
    rcases covered (first + size) (mem_block.mpr (by omega)) with ⟨last, isLast, low, high⟩
    rcases Nat.eq_zero_or_pos size with rfl | longer
    · refine ⟨last, isLast, ?_, ?_⟩
      · omega
      · omega
    have shorter : ∀ number, number ∈ block first size ->
        ∃ run, run ∈ runs ∧ run.Has number := by
      intro number member
      rw [mem_block] at member
      exact covered number (mem_block.mpr (by omega))
    rcases ih longer shorter with ⟨run, isRun, starts, ends⟩
    by_cases same : run = last
    · subst same
      refine ⟨run, isRun, starts, ?_⟩
      omega
    · -- the last number would be beyond a gap
      have gap := apart_or_apart apart isRun isLast same
      unfold Apart at gap
      omega

theorem hasBlock_iff (sorted : numbers.Pairwise (· < ·)) (pos : 0 < size) :
    HasBlock numbers size first ↔ ∃ run, run ∈ runsOf numbers ∧ LiesIn size first run := by
  constructor
  · intro has
    apply exists_within (runsOf_apart sorted) pos
    intro number member
    exact exists_runsOf_has.mpr (has number member)
  · rintro ⟨run, isRun, starts, ends⟩ number member
    rw [mem_block] at member
    refine exists_runsOf_has.mp ⟨run, isRun, ?_⟩
    unfold NumberRun.Has
    omega

/-- Blocks of one size that lie in the numbers and do not overlap. -/
structure Packs (numbers : List Int) (size : Nat) (starts : Finset Int) : Prop where
  blocks : ∀ first, first ∈ starts -> HasBlock numbers size first
  disjoint : ∀ first other, first ∈ starts -> other ∈ starts -> first ≠ other ->
    List.Disjoint (block first size) (block other size)

def room (size : Nat) (runs : List NumberRun) : Nat :=
  (runs.map (fun run => run.length / size)).sum

/-- The blocks do not overlap. -/
def Spaced (size : Nat) (starts : Finset Int) : Prop :=
  ∀ first other, first ∈ starts -> other ∈ starts -> first < other -> first + size ≤ other

theorem Packs.spaced {starts : Finset Int} (packs : Packs numbers size starts) (pos : 0 < size) :
    Spaced size starts := by
  intro first other isFirst isOther below
  by_contra overlaps
  have common := packs.disjoint first other isFirst isOther (ne_of_lt below)
  apply common (a := other)
  · exact mem_block.mpr ⟨below.le, not_le.mp overlaps⟩
  · exact mem_block.mpr ⟨le_refl other, Int.lt_add_of_pos_right other (Int.natCast_pos.mpr pos)⟩

theorem card_le_of_liesIn {starts : Finset Int} (pos : 0 < size) (spaced : Spaced size starts)
    (within : ∀ first, first ∈ starts -> LiesIn size first run) :
    starts.card ≤ run.length / size := by
  rw [← Finset.card_range (run.length / size)]
  -- a block goes to the number of blocks that fit before it
  apply Finset.card_le_card_of_injOn (fun first => (first - run.first).toNat / size)
  · intro first isFirst
    rcases within first isFirst with ⟨starts, ends⟩
    rw [Finset.coe_range, Set.mem_Iio, Nat.div_lt_iff_lt_mul pos]
    have most := Nat.div_add_mod run.length size
    have left := Nat.mod_lt run.length pos
    rw [Nat.mul_comm] at most
    omega
  · intro first isFirst other isOther same
    rcases within first isFirst with ⟨low, -⟩
    rcases within other isOther with ⟨otherLow, -⟩
    dsimp only at same
    have lower := Nat.div_add_mod (first - run.first).toNat size
    have upper := Nat.div_add_mod (other - run.first).toNat size
    have firstLeft := Nat.mod_lt (first - run.first).toNat pos
    have otherLeft := Nat.mod_lt (other - run.first).toNat pos
    rw [same] at lower
    rcases lt_trichotomy first other with below | equal | above
    · have apart := spaced first other isFirst isOther below
      omega
    · exact equal
    · have apart := spaced other first isOther isFirst above
      omega

theorem card_le_room {starts : Finset Int} (pos : 0 < size) (spaced : Spaced size starts)
    (within : ∀ first, first ∈ starts -> ∃ run, run ∈ runs ∧ LiesIn size first run) :
    starts.card ≤ room size runs := by
  classical
  induction runs generalizing starts with
  | nil =>
    have none : starts = ∅ := by
      apply Finset.eq_empty_of_forall_notMem
      intro first isFirst
      rcases within first isFirst with ⟨run, impossible, -⟩
      cases impossible
    rw [none, Finset.card_empty]
    exact Nat.zero_le _
  | cons run rest ih =>
    have here := @card_le_of_liesIn run size (starts.filter (fun first => LiesIn size first run))
      pos (fun first other isFirst isOther => spaced first other (Finset.mem_of_mem_filter _ isFirst)
        (Finset.mem_of_mem_filter _ isOther))
      (fun first isFirst => (Finset.mem_filter.mp isFirst).2)
    have there := @ih (starts.filter (fun first => ¬ LiesIn size first run))
      (fun first other isFirst isOther => spaced first other (Finset.mem_of_mem_filter _ isFirst)
        (Finset.mem_of_mem_filter _ isOther))
      (by
        intro first isFirst
        rcases Finset.mem_filter.mp isFirst with ⟨isStart, elsewhere⟩
        rcases within first isStart with ⟨other, isOther, fits⟩
        rcases mem_cons.mp isOther with rfl | isOther
        · exact absurd fits elsewhere
        · exact ⟨other, isOther, fits⟩)
    rw [← Finset.card_filter_add_card_filter_not (s := starts) (fun first => LiesIn size first run)]
    unfold room at there ⊢
    rw [map_cons, sum_cons]
    exact Nat.add_le_add here there

def startsIn (size : Nat) (run : NumberRun) : Finset Int :=
  (Finset.range (run.length / size)).image (fun turn => run.first + (turn * size : Nat))

theorem mem_startsIn {run : NumberRun} : first ∈ startsIn size run ↔
    ∃ turn, turn < run.length / size ∧ run.first + (turn * size : Nat) = first := by
  unfold startsIn
  simp only [Finset.mem_image, Finset.mem_range]

theorem liesIn_of_mem_startsIn (isStart : first ∈ startsIn size run) : LiesIn size first run := by
  rcases mem_startsIn.mp isStart with ⟨turn, fits, rfl⟩
  have ends : (turn + 1) * size ≤ run.length :=
    (Nat.mul_le_mul_right size (Nat.succ_le_of_lt fits)).trans (Nat.div_mul_le_self _ _)
  rw [Nat.add_mul, Nat.one_mul] at ends
  unfold LiesIn
  omega

theorem startsIn_spaced : Spaced size (startsIn size run) := by
  intro first other isFirst isOther below
  rcases mem_startsIn.mp isFirst with ⟨turn, -, rfl⟩
  rcases mem_startsIn.mp isOther with ⟨later, -, rfl⟩
  have order : turn < later := by
    by_contra back
    have bound := Nat.mul_le_mul_right size (not_lt.mp back)
    omega
  have bound := Nat.mul_le_mul_right size (Nat.succ_le_of_lt order)
  rw [Nat.succ_mul] at bound
  omega

theorem card_startsIn (pos : 0 < size) : (startsIn size run).card = run.length / size := by
  unfold startsIn
  rw [Finset.card_image_of_injective, Finset.card_range]
  intro turn later same
  dsimp only at same
  have products : turn * size = later * size := by omega
  exact Nat.eq_of_mul_eq_mul_right pos products

theorem exists_card_eq_room (apart : runs.Pairwise Apart) (pos : 0 < size) :
    ∃ starts : Finset Int, starts.card = room size runs ∧ Spaced size starts ∧
      ∀ first, first ∈ starts -> ∃ run, run ∈ runs ∧ LiesIn size first run := by
  classical
  induction apart with
  | nil =>
    refine ⟨∅, rfl, ?_, ?_⟩
    · intro first other impossible
      exact absurd impossible (Finset.notMem_empty first)
    · intro first impossible
      exact absurd impossible (Finset.notMem_empty first)
  | @cons run rest gaps _ ih =>
    rcases ih with ⟨others, count, spaced, within⟩
    have before : ∀ first other, first ∈ startsIn size run -> other ∈ others ->
        first + size ≤ other ∧ first < other := by
      intro first other isFirst isOther
      have ends := (liesIn_of_mem_startsIn isFirst).2
      rcases within other isOther with ⟨later, isLater, low, -⟩
      have gap := gaps later isLater
      unfold Apart at gap
      omega
    have disjoint : Disjoint (startsIn size run) others := by
      rw [Finset.disjoint_left]
      intro first isFirst isOther
      exact lt_irrefl first (before first first isFirst isOther).2
    refine ⟨startsIn size run ∪ others, ?_, ?_, ?_⟩
    · rw [Finset.card_union_of_disjoint disjoint, card_startsIn pos, count]
      rfl
    · intro first other isFirst isOther below
      rcases Finset.mem_union.mp isFirst with here | there
      · rcases Finset.mem_union.mp isOther with here' | there'
        · exact startsIn_spaced first other here here' below
        · exact (before first other here there').1
      · rcases Finset.mem_union.mp isOther with here' | there'
        · exact absurd below (lt_asymm (before other first here' there).2)
        · exact spaced first other there there' below
    · intro first isFirst
      rcases Finset.mem_union.mp isFirst with here | there
      · exact ⟨run, mem_cons_self .., liesIn_of_mem_startsIn here⟩
      · rcases within first there with ⟨later, isLater, fits⟩
        exact ⟨later, mem_cons_of_mem _ isLater, fits⟩

theorem disjoint_of_spaced {starts : Finset Int} {other : Int} (spaced : Spaced size starts)
    (isFirst : first ∈ starts) (isOther : other ∈ starts) (different : first ≠ other) :
    List.Disjoint (block first size) (block other size) := by
  intro number inFirst inOther
  rw [mem_block] at inFirst inOther
  rcases lt_or_gt_of_ne different with below | above
  · have apart := spaced first other isFirst isOther below
    omega
  · have apart := spaced other first isOther isFirst above
    omega

theorem isGreatest_room (sorted : numbers.Pairwise (· < ·)) (pos : 0 < size) :
    IsGreatest {count | ∃ starts, Packs numbers size starts ∧ starts.card = count}
      (room size (runsOf numbers)) := by
  constructor
  · rcases exists_card_eq_room (runsOf_apart sorted) pos with ⟨starts, count, spaced, within⟩
    refine ⟨starts, ⟨?_, ?_⟩, count⟩
    · intro first isFirst
      exact (hasBlock_iff sorted pos).mpr (within first isFirst)
    · intro first other isFirst isOther different
      exact disjoint_of_spaced spaced isFirst isOther different
  · rintro count ⟨starts, packs, rfl⟩
    apply card_le_room pos (packs.spaced pos)
    intro first isFirst
    exact (hasBlock_iff sorted pos).mp (packs.blocks first isFirst)

theorem countP_le_room (runs : List NumberRun) (pos : 0 < size) :
    runs.countP (fun run => size ≤ run.length) ≤ room size runs := by
  induction runs with
  | nil => exact le_refl _
  | cons run rest ih =>
    unfold room at ih ⊢
    rw [countP_cons, map_cons, sum_cons]
    split_ifs with long
    · have one := Nat.div_pos (of_decide_eq_true long) pos
      omega
    · exact ih.trans (Nat.le_add_left _ _)

/-- To count every run once that is long enough counts all blocks exactly when
no run is twice as long. -/
theorem countP_eq_room_iff (runs : List NumberRun) (pos : 0 < size) :
    runs.countP (fun run => size ≤ run.length) = room size runs ↔
      ∀ run, run ∈ runs -> run.length < 2 * size := by
  induction runs with
  | nil => simp [room]
  | cons run rest ih =>
    have lower := countP_le_room rest pos
    have twice := @Nat.div_lt_iff_lt_mul size run.length 2 pos
    unfold room at ih lower ⊢
    rw [countP_cons, map_cons, sum_cons, forall_mem_cons, ← ih, ← twice]
    split_ifs with long
    · have one := Nat.div_pos (of_decide_eq_true long) pos
      omega
    · have none : run.length / size = 0 := by
        rw [decide_eq_true_eq, not_le] at long
        exact Nat.div_eq_of_lt long
      omega

theorem forall_short_iff (sorted : numbers.Pairwise (· < ·)) (pos : 0 < size) :
    (∀ run, run ∈ runsOf numbers -> run.length < size) ↔
      ¬ ∃ first, HasBlock numbers size first := by
  constructor
  · rintro short ⟨first, has⟩
    rcases (hasBlock_iff sorted pos).mp has with ⟨run, isRun, starts, ends⟩
    have bound := short run isRun
    omega
  · intro none run isRun
    by_contra long
    apply none
    refine ⟨run.first, (hasBlock_iff sorted pos).mpr ⟨run, isRun, le_refl _, ?_⟩⟩
    omega

end Foundation
end ZepGpu
