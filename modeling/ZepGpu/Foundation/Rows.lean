import Mathlib.Data.List.Basic

namespace ZepGpu
namespace Foundation

open List

/-!
# Rows of numbers

A matrix is the list of its rows, and its values are written row after row.
The operations along the last axis act on every row for itself.
-/

variable {α β : Type}

def Columns (columns : Nat) (rows : List (List α)) : Prop :=
  ∀ row, row ∈ rows -> row.length = columns

/-- `values.reshape(count, columns)`, for values of this number -/
def rowsOf (columns : Nat) : Nat -> List α -> List (List α)
  | 0, _ => []
  | count + 1, values => values.take columns :: rowsOf columns count (values.drop columns)

theorem Columns.tail {columns : Nat} {row : List α} {rows : List (List α)}
    (lengths : Columns columns (row :: rows)) : Columns columns rows :=
  fun other member => lengths other (mem_cons_of_mem _ member)

theorem length_rowsOf {columns count : Nat} {values : List α} :
    (rowsOf columns count values).length = count := by
  induction count generalizing values with
  | zero => rfl
  | succ count ih => rw [rowsOf, length_cons, ih]

theorem columns_rowsOf {columns count : Nat} {values : List α}
    (size : values.length = count * columns) : Columns columns (rowsOf columns count values) := by
  induction count generalizing values with
  | zero => exact fun _ impossible => absurd impossible not_mem_nil
  | succ count ih =>
    rw [Nat.succ_mul] at size
    intro row member
    rcases mem_cons.mp member with rfl | later
    · rw [length_take]
      omega
    · refine ih ?_ row later
      rw [length_drop]
      omega

variable {rows : List (List α)} {columns : Nat}

theorem rowsOf_flatten (lengths : Columns columns rows) :
    rowsOf columns rows.length rows.flatten = rows := by
  induction rows with
  | nil => rfl
  | cons row rest ih =>
    have here := lengths row mem_cons_self
    rw [length_cons, flatten_cons, rowsOf, take_left' here, drop_left' here, ih lengths.tail]

theorem length_flatten_of_rows (lengths : Columns columns rows) :
    rows.flatten.length = rows.length * columns := by
  induction rows with
  | nil => rw [length_nil, Nat.zero_mul]; rfl
  | cons row rest ih =>
    rw [flatten_cons, length_append, lengths row mem_cons_self,
      ih lengths.tail, length_cons, Nat.succ_mul, Nat.add_comm]

theorem add_pad {size columns : Nat} (positive : 0 < columns) :
    size + ((-(size : Int)) % columns).toNat = (size + columns - 1) / columns * columns := by
  have nonzero : (columns : Int) ≠ 0 := by omega
  have nonneg := Int.emod_nonneg (-(size : Int)) nonzero
  have below := Int.emod_lt_of_pos (-(size : Int)) (Int.natCast_pos.mpr positive)
  obtain ⟨pad, same⟩ := Int.eq_ofNat_of_zero_le nonneg
  have divides : columns ∣ size + pad := by
    rw [← Int.natCast_dvd_natCast, Int.natCast_add, ← same]
    apply Int.dvd_of_emod_eq_zero
    rw [Int.add_emod_emod, Int.add_right_neg, Int.zero_emod]
  obtain ⟨count, whole⟩ := divides
  have rows : (size + columns - 1) / columns = count := by
    rw [Nat.mul_comm] at whole
    apply Nat.div_eq_of_lt_le
    · omega
    · rw [Nat.succ_mul]
      omega
  rw [same, Int.toNat_natCast, whole, rows, Nat.mul_comm]

/-- `np.take_along_axis`, which refuses an index outside the row. -/
def takeAlong (row : List α) (indices : List Nat) : Option (List α) :=
  indices.mapM fun index => row[index]?

/-- `np.put_along_axis`, which refuses an index outside the row.  The last of
several values for one index stays. -/
def putAlong : List α -> List (Nat × α) -> Option (List α)
  | row, [] => some row
  | row, (index, value) :: rest =>
    if index < row.length then putAlong (row.set index value) rest else none

theorem exists_takeAlong {row : List α} {indices : List Nat}
    (inside : ∀ index, index ∈ indices -> index < row.length) :
    ∃ values, takeAlong row indices = some values ∧ values.length = indices.length := by
  induction indices with
  | nil => exact ⟨[], rfl, rfl⟩
  | cons index rest ih =>
    obtain ⟨values, taken, length⟩ := ih fun other member => inside other (mem_cons_of_mem _ member)
    have here := inside index mem_cons_self
    refine ⟨row.get ⟨index, here⟩ :: values, ?_, by simp [length]⟩
    rw [takeAlong] at taken ⊢
    simp [mapM_cons, taken, here]

theorem exists_putAlong {row : List α} {entries : List (Nat × α)}
    (inside : ∀ entry, entry ∈ entries -> entry.1 < row.length) :
    ∃ written, putAlong row entries = some written ∧ written.length = row.length := by
  induction entries generalizing row with
  | nil => exact ⟨row, rfl, rfl⟩
  | cons entry rest ih =>
    have insideRest : ∀ other, other ∈ rest -> other.1 < (row.set entry.1 entry.2).length := by
      intro other member
      rw [length_set]
      exact inside other (mem_cons_of_mem _ member)
    obtain ⟨written, put, length⟩ := ih insideRest
    rw [length_set] at length
    exact ⟨written, by rw [putAlong, if_pos (inside entry mem_cons_self), put], length⟩

def takeAlongAxis : List (List α) -> List (List Nat) -> Option (List (List α))
  | [], [] => some []
  | row :: rows, indices :: rest => do
      let values ← takeAlong row indices
      let others ← takeAlongAxis rows rest
      some (values :: others)
  | _, _ => none

def putAlongAxis : List (List α) -> List (List Nat) -> List (List α) -> Option (List (List α))
  | [], [], [] => some []
  | row :: rows, indices :: rest, values :: others => do
      let written ← putAlong row (indices.zip values)
      let below ← putAlongAxis rows rest others
      some (written :: below)
  | _, _, _ => none

def Within (columns : Nat) (indices : List (List Nat)) : Prop :=
  ∀ row, row ∈ indices -> ∀ index, index ∈ row -> index < columns

theorem Within.tail {columns : Nat} {row : List Nat} {indices : List (List Nat)}
    (within : Within columns (row :: indices)) : Within columns indices :=
  fun other member => within other (mem_cons_of_mem _ member)

theorem exists_takeAlongAxis {columns width : Nat} {indices : List (List Nat)}
    (same : rows.length = indices.length) (lengths : Columns columns rows)
    (widths : Columns width indices) (within : Within columns indices) :
    ∃ values, takeAlongAxis rows indices = some values ∧ values.length = rows.length ∧
      Columns width values := by
  induction rows generalizing indices with
  | nil =>
    rw [eq_nil_of_length_eq_zero same.symm]
    exact ⟨[], rfl, rfl, fun _ impossible => absurd impossible not_mem_nil⟩
  | cons row rows ih =>
    cases indices with
    | nil => cases same
    | cons first rest =>
      have here := lengths row mem_cons_self
      have inside : ∀ index, index ∈ first -> index < row.length := by
        rw [here]
        exact within first mem_cons_self
      obtain ⟨values, taken, length⟩ := exists_takeAlong inside
      obtain ⟨others, takenOthers, count, columnsOthers⟩ :=
        ih (Nat.succ.inj same) lengths.tail widths.tail within.tail
      refine ⟨values :: others, ?_, by rw [length_cons, count, length_cons], ?_⟩
      · rw [takeAlongAxis, taken, takenOthers]
        rfl
      · intro other member
        rcases mem_cons.mp member with rfl | later
        · rw [length, widths first mem_cons_self]
        · exact columnsOthers other later

theorem exists_putAlongAxis {rows values : List (List α)} {indices : List (List Nat)}
    (same : rows.length = indices.length) (sameValues : rows.length = values.length)
    (lengths : Columns columns rows) (within : Within columns indices) :
    ∃ written, putAlongAxis rows indices values = some written ∧ written.length = rows.length ∧
      Columns columns written := by
  induction rows generalizing indices values with
  | nil =>
    rw [eq_nil_of_length_eq_zero same.symm, eq_nil_of_length_eq_zero sameValues.symm]
    exact ⟨[], rfl, rfl, fun _ impossible => absurd impossible not_mem_nil⟩
  | cons row rows ih =>
    cases indices with
    | nil => cases same
    | cons first rest =>
      cases values with
      | nil => cases sameValues
      | cons value others =>
        have here := lengths row mem_cons_self
        have inside : ∀ entry, entry ∈ first.zip value -> entry.1 < row.length := by
          intro entry member
          rw [here]
          exact within first mem_cons_self _ (of_mem_zip member).1
        obtain ⟨written, put, length⟩ := exists_putAlong inside
        obtain ⟨below, putBelow, count, columnsBelow⟩ :=
          ih (Nat.succ.inj same) (Nat.succ.inj sameValues) lengths.tail within.tail
        refine ⟨written :: below, ?_, by rw [length_cons, count, length_cons], ?_⟩
        · rw [putAlongAxis, put, putBelow]
          rfl
        · intro other member
          rcases mem_cons.mp member with rfl | later
          · rw [length, here]
          · exact columnsBelow other later

theorem map_const_rows (lengths : Columns columns rows) (value : β) :
    rows.map (fun row => row.map fun _ => value) =
      List.replicate rows.length (List.replicate columns value) := by
  induction rows with
  | nil => rfl
  | cons row rows ih =>
    rw [map_cons, map_const', lengths row mem_cons_self, ih lengths.tail,
      length_cons, replicate_succ]

/-- A binary operation on one-dimensional arrays.  An array of one number
stands for an array of any length. -/
def broadcast (combine : α -> α -> α) (left right : List α) : Option (List α) :=
  if left.length = right.length then some (List.zipWith combine left right)
  else
    match left, right with
    | [value], _ => some (right.map fun other => combine value other)
    | _, [value] => some (left.map fun other => combine other value)
    | _, _ => none

theorem broadcast_of_length {combine : α -> α -> α} {left right : List α}
    (same : left.length = right.length) :
    broadcast combine left right = some (List.zipWith combine left right) :=
  if_pos same

end Foundation
end ZepGpu
