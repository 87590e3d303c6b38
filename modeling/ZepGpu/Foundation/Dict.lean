import Mathlib.Data.List.Sort
import Mathlib.Logic.Function.Basic
import ZepGpu.Foundation.Requests

namespace ZepGpu
namespace Foundation

open List

/-!
# Dictionaries

A dictionary keeps its keys in the order in which they were first inserted,
and a value for each of them.  Whoever goes through a dictionary in the order
of sorted keys sees nothing of the order of insertion: two dictionaries with
the same lookups have the same sorted keys.
-/

/-- A dictionary: its keys in the order of insertion, and the values. -/
structure Dict (κ α : Type) where
  keys : List κ
  get? : κ -> Option α
  nodup : keys.Nodup
  mem_keys : ∀ key, key ∈ keys ↔ (get? key).isSome

namespace Dict

variable {κ α β : Type} {d e : Dict κ α} {key other : κ} {value : α}

def empty : Dict κ α where
  keys := []
  get? := fun _ => none
  nodup := nodup_nil
  mem_keys := fun key => by simp

/-- Change every value, knowing its key. -/
def adjust (change : κ -> α -> β) (d : Dict κ α) : Dict κ β where
  keys := d.keys
  get? := fun key => (d.get? key).map (change key)
  nodup := d.nodup
  mem_keys := fun key => by rw [d.mem_keys, Option.isSome_map]

theorem get?_empty : (empty : Dict κ α).get? key = none :=
  rfl

theorem get?_adjust {change : κ -> α -> β} :
    (d.adjust change).get? key = (d.get? key).map (change key) :=
  rfl

theorem eq_of_lookups (keys : d.keys = e.keys) (values : d.get? = e.get?) : d = e := by
  cases d
  cases e
  subst keys
  subst values
  rfl

theorem get?_eq_none_iff : d.get? key = none ↔ key ∉ d.keys := by
  rw [d.mem_keys, Option.not_isSome_iff_eq_none]

theorem mem_keys_of_get? (found : d.get? key = some value) : key ∈ d.keys := by
  rw [d.mem_keys, found]
  rfl

theorem exists_get?_of_mem (member : key ∈ d.keys) : ∃ value, d.get? key = some value :=
  Option.isSome_iff_exists.mp ((d.mem_keys key).mp member)

section Update

variable [DecidableEq κ]

/-- `d[key] = value` -/
def set (d : Dict κ α) (key : κ) (value : α) : Dict κ α where
  keys := if key ∈ d.keys then d.keys else d.keys ++ [key]
  get? := Function.update d.get? key (some value)
  nodup := by
    split_ifs with member
    · exact d.nodup
    · rw [nodup_append]
      refine ⟨d.nodup, nodup_singleton key, ?_⟩
      intro first old second new same
      rw [mem_singleton] at new
      exact member (new ▸ same ▸ old)
  mem_keys := fun candidate => by
    rcases eq_or_ne candidate key with rfl | different
    · rw [Function.update_self]
      split_ifs with member
      · simp [member]
      · simp
    · rw [Function.update_of_ne different, ← d.mem_keys]
      split_ifs with member
      · rfl
      · simp [different]

def filter (keep : κ -> α -> Bool) (d : Dict κ α) : Dict κ α where
  keys := d.keys.filter (fun key => (d.get? key).any (keep key))
  get? := fun key => (d.get? key).filter (keep key)
  nodup := d.nodup.filter _
  mem_keys := fun key => by
    rw [mem_filter, d.mem_keys]
    cases d.get? key with
    | none => simp
    | some value => cases keep key value <;> simp [*]

/-- `del d[key]`, or nothing when there is no such key. -/
def erase (d : Dict κ α) (key : κ) : Dict κ α :=
  d.filter (fun other _ => other ≠ key)

def tabulate (keys : List κ) (nodup : keys.Nodup) (value : κ -> α) : Dict κ α where
  keys := keys
  get? := fun key => if key ∈ keys then some (value key) else none
  nodup := nodup
  mem_keys := fun key => by
    split_ifs with member
    · simp [member]
    · simp [member]

theorem get?_set_self : (d.set key value).get? key = some value :=
  Function.update_self _ _ _

theorem get?_set_of_ne (different : other ≠ key) : (d.set key value).get? other = d.get? other :=
  Function.update_of_ne different _ _

omit [DecidableEq κ] in
theorem get?_filter {keep : κ -> α -> Bool} :
    (d.filter keep).get? key = (d.get? key).filter (keep key) :=
  rfl

omit [DecidableEq κ] in
theorem length_keys_filter_le {keep : κ -> α -> Bool} :
    (d.filter keep).keys.length ≤ d.keys.length :=
  length_filter_le _ _

omit [DecidableEq κ] in
theorem filter_eq_self {keep : κ -> α -> Bool}
    (all : ∀ key value, d.get? key = some value -> keep key value = true) : d.filter keep = d := by
  have keys : (d.filter keep).keys = d.keys := by
    apply List.filter_eq_self.mpr
    intro key member
    obtain ⟨value, found⟩ := exists_get?_of_mem member
    rw [found]
    exact all key value found
  have values : (d.filter keep).get? = d.get? := by
    funext key
    rw [get?_filter]
    cases found : d.get? key with
    | none => rfl
    | some value => rw [Option.filter_some, if_pos (all key value found)]
  exact eq_of_lookups keys values

theorem get?_erase_self : (d.erase key).get? key = none := by
  rw [erase, get?_filter]
  cases d.get? key with
  | none => rfl
  | some value => simp

theorem get?_erase_of_ne (different : other ≠ key) : (d.erase key).get? other = d.get? other := by
  rw [erase, get?_filter]
  cases d.get? other with
  | none => rfl
  | some value => simp [different]

theorem get?_erase_eq_some (found : (d.erase key).get? other = some value) :
    other ≠ key ∧ d.get? other = some value := by
  rcases eq_or_ne other key with rfl | different
  · rw [get?_erase_self] at found
    cases found
  · rw [get?_erase_of_ne different] at found
    exact ⟨different, found⟩

theorem keys_erase : (d.erase key).keys = d.keys.filter (· ≠ key) := by
  apply filter_congr
  intro candidate member
  obtain ⟨found, isFound⟩ := exists_get?_of_mem member
  rw [isFound, Option.any_some]

theorem perm_keys_erase (member : key ∈ d.keys) : d.keys.Perm (key :: (d.erase key).keys) := by
  have same : (d.erase key).keys = d.keys.erase key := by
    rw [keys_erase, d.nodup.erase_eq_filter]
    apply filter_congr
    intro candidate inside
    by_cases equal : candidate = key
    · simp [equal]
    · simp [equal]
  rw [same]
  exact perm_cons_erase member

theorem length_keys_erase (member : key ∈ d.keys) : (d.erase key).keys.length + 1 = d.keys.length :=
  (perm_keys_erase member).length_eq.symm

theorem mem_keys_set : other ∈ (d.set key value).keys ↔ other = key ∨ other ∈ d.keys := by
  rcases eq_or_ne other key with rfl | different
  · rw [(d.set other value).mem_keys, get?_set_self]
    simp
  · rw [(d.set key value).mem_keys, get?_set_of_ne different, ← d.mem_keys]
    simp [different]

theorem keys_set_of_mem (member : key ∈ d.keys) : (d.set key value).keys = d.keys :=
  if_pos member

theorem keys_set_of_not_mem (fresh : key ∉ d.keys) : (d.set key value).keys = d.keys ++ [key] :=
  if_neg fresh

omit [DecidableEq κ] in
def arranged (d : Dict κ α) (keys : List κ) (perm : keys.Perm d.keys) : Dict κ α where
  keys := keys
  get? := d.get?
  nodup := perm.nodup_iff.mpr d.nodup
  mem_keys := fun key => by rw [perm.mem_iff, d.mem_keys]

omit [DecidableEq κ] in
def entriesOf (d : Dict κ α) (keys : List κ) : List (κ × α) :=
  keys.filterMap fun key => (d.get? key).map fun value => (key, value)

/-- `d[key] = value` for one entry after the other. -/
def setAll (d : Dict κ α) (entries : List (κ × α)) : Dict κ α :=
  entries.foldl (fun d entry => d.set entry.1 entry.2) d

omit [DecidableEq κ] in
theorem entriesOf_cons {keys : List κ} (found : d.get? key = some value) :
    d.entriesOf (key :: keys) = (key, value) :: d.entriesOf keys := by
  rw [entriesOf, filterMap_cons, found]
  rfl

omit [DecidableEq κ] in
theorem mem_entriesOf {keys : List κ} :
    (key, value) ∈ d.entriesOf keys ↔ key ∈ keys ∧ d.get? key = some value := by
  simp only [entriesOf, mem_filterMap, Option.map_eq_some_iff, Prod.mk.injEq]
  constructor
  · rintro ⟨_, member, _, found, rfl, rfl⟩
    exact ⟨member, found⟩
  · rintro ⟨member, found⟩
    exact ⟨key, member, value, found, rfl, rfl⟩

omit [DecidableEq κ] in
theorem map_fst_entriesOf {keys : List κ} (present : ∀ key, key ∈ keys -> key ∈ d.keys) :
    (d.entriesOf keys).map Prod.fst = keys := by
  induction keys with
  | nil => rfl
  | cons key rest ih =>
    obtain ⟨value, found⟩ := exists_get?_of_mem (present key mem_cons_self)
    rw [entriesOf_cons found, map_cons,
      ih fun other member => present other (mem_cons_of_mem _ member)]

theorem setAll_of_fresh {entries : List (κ × α)} (nodup : (entries.map Prod.fst).Nodup)
    (fresh : ∀ key, key ∈ entries.map Prod.fst -> key ∉ d.keys) :
    (d.setAll entries).keys = d.keys ++ entries.map Prod.fst ∧
      (∀ key value, (key, value) ∈ entries -> (d.setAll entries).get? key = some value) ∧
      ∀ key, key ∉ entries.map Prod.fst -> (d.setAll entries).get? key = d.get? key := by
  induction entries generalizing d with
  | nil => exact ⟨by rw [map_nil, append_nil]; rfl, by simp, fun _ _ => rfl⟩
  | cons entry rest ih =>
    obtain ⟨key, value⟩ := entry
    rw [map_cons, nodup_cons] at nodup
    have keys : (d.set key value).keys = d.keys ++ [key] :=
      keys_set_of_not_mem (fresh key mem_cons_self)
    have others : ∀ other, other ∈ rest.map Prod.fst -> other ∉ (d.set key value).keys := by
      intro other member
      rw [mem_keys_set, not_or]
      refine ⟨?_, fresh other (mem_cons_of_mem _ member)⟩
      rintro rfl
      exact nodup.1 member
    obtain ⟨order, written, kept⟩ := ih nodup.2 others
    refine ⟨?_, ?_, ?_⟩
    · rw [setAll, foldl_cons, map_cons, append_cons]
      exact order.trans (by rw [keys])
    · intro other found member
      rcases mem_cons.mp member with same | later
      · obtain ⟨rfl, rfl⟩ := Prod.mk.inj same
        exact (kept _ nodup.1).trans get?_set_self
      · exact written other found later
    · intro other absent
      rw [map_cons, mem_cons, not_or] at absent
      exact (kept other absent.2).trans (get?_set_of_ne absent.1)

theorem setAll_entriesOf {keys : List κ} (perm : keys.Perm d.keys) :
    empty.setAll (d.entriesOf keys) = d.arranged keys perm := by
  have names := map_fst_entriesOf fun key member => perm.mem_iff.mp member
  have nodup : ((d.entriesOf keys).map Prod.fst).Nodup := by
    rw [names]
    exact perm.nodup_iff.mpr d.nodup
  obtain ⟨order, written, kept⟩ := setAll_of_fresh (d := empty) nodup fun _ _ => not_mem_nil
  apply eq_of_lookups
  · rw [order, names]
    rfl
  · funext key
    cases found : d.get? key with
    | none =>
      have absent : key ∉ (d.entriesOf keys).map Prod.fst := by
        rw [names, perm.mem_iff]
        exact get?_eq_none_iff.mp found
      exact (kept key absent).trans found.symm
    | some value =>
      have member := perm.mem_iff.mpr (mem_keys_of_get? found)
      exact (written key value (mem_entriesOf.mpr ⟨member, found⟩)).trans found.symm

variable {ε : Type} {make remake : κ -> Except ε α} {names : List κ} {result : Dict κ α}

/-- `{name: make(name) for name in names}`, added to a dictionary. -/
def buildOnto (make : κ -> Except ε α) : List κ -> Dict κ α -> Except ε (Dict κ α)
  | [], d => .ok d
  | name :: rest, d => do
      let value ← make name
      buildOnto make rest (d.set name value)

def build (make : κ -> Except ε α) (names : List κ) : Except ε (Dict κ α) :=
  buildOnto make names empty

theorem get?_buildOnto (built : buildOnto make names d = .ok result) :
    (∀ name, name ∈ names -> ∃ value, make name = .ok value ∧
      result.get? name = some value) ∧
    ∀ name, name ∉ names -> result.get? name = d.get? name := by
  induction names generalizing d with
  | nil =>
    obtain rfl := Except.ok.inj built
    exact ⟨fun name member => absurd member not_mem_nil, fun name _ => rfl⟩
  | cons head rest ih =>
    obtain ⟨value, made, later⟩ := bind_eq_ok.mp built
    obtain ⟨inside, outside⟩ := ih later
    constructor
    · intro name member
      by_cases again : name ∈ rest
      · exact inside name again
      · rcases mem_cons.mp member with rfl | again'
        · exact ⟨value, made, by rw [outside _ again, get?_set_self]⟩
        · exact absurd again' again
    · intro name absent
      rw [mem_cons, not_or] at absent
      rw [outside name absent.2, get?_set_of_ne absent.1]

theorem buildOnto_of_ok (all : ∀ name, name ∈ names -> ∃ value, make name = .ok value) :
    ∃ result, buildOnto make names d = .ok result := by
  induction names generalizing d with
  | nil => exact ⟨d, rfl⟩
  | cons head rest ih =>
    obtain ⟨value, made⟩ := all head mem_cons_self
    obtain ⟨result, built⟩ := ih (fun name member => all name (mem_cons_of_mem _ member))
    exact ⟨result, bind_eq_ok.mpr ⟨value, made, built⟩⟩

theorem build_of_ok (all : ∀ name, name ∈ names -> ∃ value, make name = .ok value) :
    ∃ result : Dict κ α, build make names = .ok result :=
  buildOnto_of_ok all

theorem get?_build (built : build make names = .ok result) :
    (∀ name, name ∈ names -> ∃ value, make name = .ok value ∧
      result.get? name = some value) ∧
    ∀ name, name ∉ names -> result.get? name = none :=
  get?_buildOnto built

theorem build_congr (same : ∀ name, name ∈ names -> make name = remake name) :
    build make names = build remake names := by
  have onto : ∀ d : Dict κ α, buildOnto make names d = buildOnto remake names d := by
    induction names with
    | nil => exact fun _ => rfl
    | cons head rest ih =>
      intro d
      rw [buildOnto, buildOnto, same head mem_cons_self]
      have later := ih (fun name member => same name (mem_cons_of_mem _ member))
      simp only [later]
  exact onto empty

end Update

section Sorted

variable [LinearOrder κ]

/-- `sorted(d)` -/
def sortedKeys (d : Dict κ α) : List κ :=
  d.keys.insertionSort (· ≤ ·)

theorem mem_sortedKeys : key ∈ d.sortedKeys ↔ key ∈ d.keys :=
  mem_insertionSort _

theorem length_sortedKeys : d.sortedKeys.length = d.keys.length :=
  length_insertionSort _ _

theorem insertionSort_eq_of_mem_iff {left right : List κ} (leftNodup : left.Nodup)
    (rightNodup : right.Nodup) (same : ∀ key, key ∈ left ↔ key ∈ right) :
    left.insertionSort (· ≤ ·) = right.insertionSort (· ≤ ·) := by
  have perm : left.Perm right := (perm_ext_iff_of_nodup leftNodup rightNodup).mpr same
  apply List.Perm.eq_of_pairwise' (pairwise_insertionSort (· ≤ ·) left)
    (pairwise_insertionSort (· ≤ ·) right)
  exact ((perm_insertionSort _ _).trans perm).trans (perm_insertionSort _ _).symm

theorem sortedKeys_eq_of_get? (same : ∀ key, d.get? key = e.get? key) :
    d.sortedKeys = e.sortedKeys := by
  apply insertionSort_eq_of_mem_iff d.nodup e.nodup
  intro key
  rw [d.mem_keys, e.mem_keys, same]

theorem length_keys_eq_of_get? (same : ∀ key, d.get? key = e.get? key) :
    d.keys.length = e.keys.length := by
  rw [← length_sortedKeys, sortedKeys_eq_of_get? same, length_sortedKeys]

end Sorted

end Dict

end Foundation
end ZepGpu
