import Mathlib.Data.Finset.Basic
import ZepGpu.Foundation.Dict

namespace ZepGpu
namespace Foundation

/-!
# Indexes of sets

An index is a dictionary of sets that makes the set of a key when something is
first added to it and deletes the key with the last element.  Two indexes that
mirror each other hold the two sides of one relation.
-/

namespace Dict

variable {κ α : Type} [DecidableEq κ] [DecidableEq α] {d : Dict κ (Finset α)} {key other : κ}
  {element member : α}

/-- `d.get(key, set())` -/
def members (d : Dict κ (Finset α)) (key : κ) : Finset α :=
  (d.get? key).getD ∅

/-- `d[key].add(element)`, where a missing key has an empty set -/
def addTo (d : Dict κ (Finset α)) (key : κ) (element : α) : Dict κ (Finset α) :=
  d.set key (insert element (d.members key))

def discardFrom (d : Dict κ (Finset α)) (key : κ) (element : α) : Dict κ (Finset α) :=
  match d.get? key with
  | none => d
  | some set => if set.erase element = ∅ then d.erase key else d.set key (set.erase element)

omit [DecidableEq κ] [DecidableEq α] in
theorem members_of_get?_none (missing : d.get? key = none) : d.members key = ∅ := by
  unfold members
  rw [missing]
  rfl

omit [DecidableEq κ] [DecidableEq α] in
theorem members_congr {e : Dict κ (Finset α)} (same : d.get? key = e.get? other) :
    d.members key = e.members other := by
  unfold members
  rw [same]

omit [DecidableEq κ] [DecidableEq α] in
theorem members_of_get? {set : Finset α} (found : d.get? key = some set) : d.members key = set := by
  unfold members
  rw [found]
  rfl

theorem members_addTo_self : (d.addTo key element).members key = insert element (d.members key) :=
  members_of_get? get?_set_self

theorem members_addTo_of_ne (different : other ≠ key) :
    (d.addTo key element).members other = d.members other :=
  members_congr (get?_set_of_ne different)

omit [DecidableEq α] in
theorem members_erase_self : (d.erase key).members key = ∅ :=
  members_of_get?_none get?_erase_self

omit [DecidableEq α] in
theorem members_erase_of_ne (different : other ≠ key) : (d.erase key).members other = d.members other :=
  members_congr (get?_erase_of_ne different)

theorem members_discardFrom_self :
    (d.discardFrom key element).members key = (d.members key).erase element := by
  unfold discardFrom
  cases found : d.get? key with
  | none =>
    rw [members_of_get?_none found, Finset.erase_empty]
  | some set =>
    rw [members_of_get? found]
    dsimp only
    split_ifs with last
    · rw [members_erase_self, last]
    · exact members_of_get? get?_set_self

theorem members_discardFrom_of_ne (different : other ≠ key) :
    (d.discardFrom key element).members other = d.members other := by
  unfold discardFrom
  split
  · rfl
  · split_ifs
    · exact members_erase_of_ne different
    · exact members_congr (get?_set_of_ne different)

theorem mem_members_addTo :
    member ∈ (d.addTo key element).members other ↔
      (other = key ∧ member = element) ∨ member ∈ d.members other := by
  rcases eq_or_ne other key with rfl | different
  · rw [members_addTo_self, Finset.mem_insert]
    simp
  · rw [members_addTo_of_ne different]
    simp [different]

theorem mem_members_discardFrom :
    member ∈ (d.discardFrom key element).members other ↔
      ¬ (other = key ∧ member = element) ∧ member ∈ d.members other := by
  rcases eq_or_ne other key with rfl | different
  · rw [members_discardFrom_self, Finset.mem_erase]
    simp
  · rw [members_discardFrom_of_ne different]
    simp [different]

omit [DecidableEq α] in
theorem mem_members_erase :
    member ∈ (d.erase key).members other ↔ other ≠ key ∧ member ∈ d.members other := by
  rcases eq_or_ne other key with rfl | different
  · rw [members_erase_self]
    simp
  · rw [members_erase_of_ne different]
    simp [different]

/-- No set of the index is empty. -/
def Inhabited (d : Dict κ (Finset α)) : Prop :=
  ∀ key, d.get? key ≠ some ∅

omit [DecidableEq κ] [DecidableEq α] in
theorem Inhabited.get?_eq_none (inhabited : d.Inhabited) (empty : d.members key = ∅) :
    d.get? key = none := by
  cases found : d.get? key with
  | none => rfl
  | some set =>
    rw [members_of_get? found] at empty
    exact absurd (empty ▸ found) (inhabited key)

theorem Inhabited.addTo (inhabited : d.Inhabited) : (d.addTo key element).Inhabited := by
  intro candidate
  rcases eq_or_ne candidate key with rfl | different
  · rw [Dict.addTo, get?_set_self, ne_eq, Option.some.injEq]
    exact Finset.insert_ne_empty _ _
  · rw [Dict.addTo, get?_set_of_ne different]
    exact inhabited candidate

omit [DecidableEq α] in
theorem Inhabited.erase (inhabited : d.Inhabited) : (d.erase key).Inhabited := by
  intro candidate found
  exact inhabited candidate (get?_erase_eq_some found).2

theorem Inhabited.discardFrom (inhabited : d.Inhabited) : (d.discardFrom key element).Inhabited := by
  unfold Dict.discardFrom
  split
  · exact inhabited
  · split_ifs with last
    · exact inhabited.erase
    · intro candidate
      rcases eq_or_ne candidate key with rfl | different
      · rw [get?_set_self, ne_eq, Option.some.injEq]
        exact last
      · rw [get?_set_of_ne different]
        exact inhabited candidate

/-- The two indexes relate the same keys and elements. -/
def Mirrored (left : Dict κ (Finset α)) (right : Dict α (Finset κ)) : Prop :=
  ∀ key element, element ∈ left.members key ↔ key ∈ right.members element

variable {left : Dict κ (Finset α)} {right : Dict α (Finset κ)}

theorem Mirrored.add (mirrored : Mirrored left right) :
    Mirrored (left.addTo key element) (right.addTo element key) := by
  intro candidate member
  rw [mem_members_addTo, mem_members_addTo, mirrored candidate member]
  tauto

theorem Mirrored.discard (mirrored : Mirrored left right) :
    Mirrored (left.discardFrom key element) (right.discardFrom element key) := by
  intro candidate member
  rw [mem_members_discardFrom, mem_members_discardFrom, mirrored candidate member]
  tauto

/-! ## Discarding an element from several keys -/

def discardFromAll (d : Dict κ (Finset α)) (keys : List κ) (element : α) : Dict κ (Finset α) :=
  keys.foldl (fun d key => d.discardFrom key element) d

theorem mem_members_discardFromAll {keys : List κ} :
    member ∈ (d.discardFromAll keys element).members other ↔
      ¬ (other ∈ keys ∧ member = element) ∧ member ∈ d.members other := by
  induction keys generalizing d with
  | nil => simp [discardFromAll]
  | cons key rest ih =>
    rw [discardFromAll, List.foldl_cons, ← discardFromAll, ih, mem_members_discardFrom,
      List.mem_cons]
    tauto

theorem Mirrored.eraseElement {keys : List κ} (mirrored : Mirrored left right)
    (all : ∀ key, key ∈ right.members element -> key ∈ keys) :
    Mirrored (left.discardFromAll keys element) (right.erase element) := by
  intro candidate member
  rw [mem_members_discardFromAll, mem_members_erase, mirrored candidate member]
  constructor
  · rintro ⟨kept, related⟩
    refine ⟨?_, related⟩
    rintro rfl
    exact kept ⟨all candidate related, rfl⟩
  · rintro ⟨different, related⟩
    exact ⟨fun taken => different taken.2, related⟩

end Dict

end Foundation
end ZepGpu
