import ZepGpu.Foundation.Dict

namespace ZepGpu
namespace Foundation

open List

/-!
# Dictionaries that forget their oldest entries

A dictionary in the order of insertion is used as a cache: when it grows over
its capacity the first entries are taken away, and a table with times loses
its first entries as long as they are expired.

An entry stays as long as few enough entries have been added after it and it
is not expired itself.  `Held` is that bound, and each operation moves it by a
known amount.
-/

namespace Dict

variable {κ α : Type} [DecidableEq κ] {d : Dict κ α} {key other : κ} {value new : α}
  {capacity younger : Nat}

/-- `popitem(last=False)` -/
def popFirst (d : Dict κ α) : Dict κ α :=
  match d.keys with
  | [] => d
  | key :: _ => d.erase key

/-- `while len(d) > capacity: d.popitem(last=False)` -/
def trim (capacity : Nat) (d : Dict κ α) : Dict κ α :=
  popFirst^[d.keys.length - capacity] d

/-- The loop of `dropExpired` over the entries from the first on. -/
def dropWhileExpired (expired : α -> Bool) : List κ -> Dict κ α -> Dict κ α
  | [], d => d
  | key :: rest, d =>
    if (d.get? key).any expired then dropWhileExpired expired rest (d.erase key) else d

/-- Take entries from the front as long as they are expired. -/
def dropExpired (expired : α -> Bool) (d : Dict κ α) : Dict κ α :=
  dropWhileExpired expired d.keys d

theorem keys_popFirst : d.popFirst.keys = d.keys.tail := by
  have distinct := d.nodup
  unfold popFirst
  split
  next empty => rw [empty, tail_nil]
  next first rest keys =>
    rw [keys, nodup_cons] at distinct
    rw [keys_erase, keys, List.filter_cons, if_neg (by simp), List.tail_cons, List.filter_eq_self]
    intro candidate member
    apply decide_eq_true
    rintro rfl
    exact distinct.1 member

theorem keys_iterate_popFirst (count : Nat) : (popFirst^[count] d).keys = d.keys.drop count := by
  induction count generalizing d with
  | zero => rfl
  | succ count ih =>
    rw [Function.iterate_succ_apply, ih, keys_popFirst, drop_tail]

theorem keys_trim : (d.trim capacity).keys = d.keys.drop (d.keys.length - capacity) :=
  keys_iterate_popFirst _

theorem get?_popFirst (member : key ∈ d.popFirst.keys) : d.popFirst.get? key = d.get? key := by
  revert member
  unfold popFirst
  split
  next => exact fun _ => rfl
  next first rest keys =>
    intro member
    rw [keys_erase, mem_filter, decide_eq_true_eq] at member
    exact get?_erase_of_ne member.2

theorem get?_iterate_popFirst {count : Nat} (member : key ∈ (popFirst^[count] d).keys) :
    (popFirst^[count] d).get? key = d.get? key := by
  induction count generalizing d with
  | zero => rfl
  | succ count ih =>
    rw [Function.iterate_succ_apply] at member ⊢
    have inside : key ∈ d.popFirst.keys := by
      rw [keys_iterate_popFirst] at member
      exact mem_of_mem_drop member
    rw [ih member, get?_popFirst inside]

theorem get?_trim (member : key ∈ (d.trim capacity).keys) : (d.trim capacity).get? key = d.get? key :=
  get?_iterate_popFirst member

/-- The entry is there, and at most so many entries stand after it. -/
def Held (d : Dict κ α) (key : κ) (value : α) (younger : Nat) : Prop :=
  d.get? key = some value ∧ ∃ front back, d.keys = front ++ key :: back ∧ back.length ≤ younger

omit [DecidableEq κ] in
theorem Held.mem (held : d.Held key value younger) : key ∈ d.keys :=
  mem_keys_of_get? held.1

omit [DecidableEq κ] in
theorem Held.mono {bound : Nat} (held : d.Held key value younger) (le : younger ≤ bound) :
    d.Held key value bound := by
  rcases held with ⟨found, front, back, keys, few⟩
  exact ⟨found, front, back, keys, few.trans le⟩

theorem held_set (fresh : key ∉ d.keys) : (d.set key value).Held key value 0 :=
  ⟨get?_set_self, d.keys, [], keys_set_of_not_mem fresh, Nat.le_refl 0⟩

theorem Held.set (held : d.Held key value younger) (different : other ≠ key) :
    (d.set other new).Held key value (younger + 1) := by
  rcases held with ⟨found, front, back, keys, few⟩
  refine ⟨(get?_set_of_ne different.symm).trans found, ?_⟩
  by_cases member : other ∈ d.keys
  · exact ⟨front, back, (keys_set_of_mem member).trans keys, few.trans (Nat.le_succ _)⟩
  · refine ⟨front, back ++ [other], ?_, ?_⟩
    · rw [keys_set_of_not_mem member, keys, append_assoc, cons_append]
    · rw [length_append, length_singleton]
      omega

theorem Held.replace (held : d.Held key value younger) : (d.set key new).Held key new younger := by
  have keys : (d.set key new).keys = d.keys := keys_set_of_mem held.mem
  rcases held with ⟨_, front, back, split, few⟩
  exact ⟨get?_set_self, front, back, keys.trans split, few⟩

theorem Held.trim (held : d.Held key value younger) (room : younger < capacity) :
    (d.trim capacity).Held key value younger := by
  rcases held with ⟨found, front, back, keys, few⟩
  have dropped : (d.trim capacity).keys =
      front.drop (d.keys.length - capacity) ++ key :: back := by
    rw [keys_trim, keys, drop_append_of_le_length]
    rw [length_append, length_cons]
    omega
  have member : key ∈ (d.trim capacity).keys := by
    rw [dropped]
    exact mem_append_right _ (mem_cons_self ..)
  exact ⟨(get?_trim member).trans found, _, back, dropped, few⟩

theorem Held.dropWhileExpired {expired : α -> Bool} {names : List κ}
    (held : d.Held key value younger) (live : expired value = false)
    (aligned : ∃ rest, names = d.keys ++ rest) :
    (dropWhileExpired expired names d).Held key value younger := by
  induction names generalizing d with
  | nil => exact held
  | cons first names ih =>
    rw [Dict.dropWhileExpired]
    split
    next old =>
      rcases held with ⟨found, front, back, keys, few⟩
      rcases aligned with ⟨rest, aligned⟩
      cases front with
      | nil =>
        rw [keys, nil_append, cons_append, List.cons.injEq] at aligned
        rw [aligned.1, found, Option.any_some, live] at old
        exact absurd old Bool.false_ne_true
      | cons head front =>
        rw [keys, cons_append, cons_append, List.cons.injEq] at aligned
        have distinct := d.nodup
        rw [keys, cons_append, nodup_cons] at distinct
        rw [aligned.1]
        have different : key ≠ head := by
          rintro rfl
          exact distinct.1 (mem_append_right _ (mem_cons_self ..))
        have erased : (d.erase head).keys = front ++ key :: back := by
          rw [keys_erase, keys, cons_append, filter_cons, if_neg (by simp), List.filter_eq_self]
          intro candidate member
          apply decide_eq_true
          rintro rfl
          exact distinct.1 member
        apply ih
        · exact ⟨(get?_erase_of_ne different).trans found, front, back, erased, few⟩
        · exact ⟨rest, aligned.2.trans (by rw [erased])⟩
    next => exact held

theorem Held.dropExpired {expired : α -> Bool} (held : d.Held key value younger)
    (live : expired value = false) : (d.dropExpired expired).Held key value younger :=
  Held.dropWhileExpired held live ⟨[], (append_nil _).symm⟩

end Dict

end Foundation
end ZepGpu
