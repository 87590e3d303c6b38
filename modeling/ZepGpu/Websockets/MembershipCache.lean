import Mathlib.Data.Finset.Basic
import Mathlib.Logic.Function.Basic

namespace ZepGpu
namespace Websockets

/-!
# The membership cache

`RoomMembershipCache` keeps a Redis set of room identifiers for every user.
Redis has no empty sets: a key with no member is a key that does not exist.  A
user that is known to have no rooms has a set with a marker in it.
-/

/-- `_EMPTY_MARKER` -/
def emptyMarker : String :=
  "__empty__"

/-- The identifier of a room, as the database prints it.  It is never the marker. -/
structure RoomId where
  text : String
  proper : text ≠ emptyMarker

/-- The Redis sets, without the prefix of their keys. -/
structure RoomMembershipCache where
  sets : String -> Finset String

namespace RoomMembershipCache

variable (cache : RoomMembershipCache)

def empty : RoomMembershipCache where
  sets := fun _ => ∅

/-- Whether the key of the user exists. -/
def Known (user : String) : Prop :=
  cache.sets user ≠ ∅

instance (user : String) : Decidable (cache.Known user) :=
  inferInstanceAs (Decidable (cache.sets user ≠ ∅))

def write (user : String) (rooms : Finset String) : RoomMembershipCache where
  sets := Function.update cache.sets user rooms

def getRooms (user : String) : Option (Finset String) :=
  if cache.Known user then some ((cache.sets user).erase emptyMarker) else none

def contains (user room : String) : Bool :=
  decide (room ∈ cache.sets user)

def replace (user : String) (rooms : Finset String) : RoomMembershipCache :=
  cache.write user (if rooms = ∅ then {emptyMarker} else rooms)

def add (user room : String) : RoomMembershipCache :=
  cache.write user ((insert room (cache.sets user)).erase emptyMarker)

def remove (user room : String) : RoomMembershipCache :=
  cache.write user ((cache.sets user).erase room)

def expire (user : String) : RoomMembershipCache :=
  cache.write user ∅

variable {cache} {user other room : String} {rooms : Finset String}

theorem write_self : (cache.write user rooms).sets user = rooms :=
  Function.update_self _ _ _

theorem write_of_ne (different : other ≠ user) :
    (cache.write user rooms).sets other = cache.sets other :=
  Function.update_of_ne different _ _

theorem contains_iff : cache.contains user room = true ↔ room ∈ cache.sets user :=
  decide_eq_true_iff

/-! ## Trusted keys -/

/-- The key of the user does not exist, or it lists exactly these rooms. -/
def Agrees (cache : RoomMembershipCache) (user : String) (rooms : Finset String) : Prop :=
  ∀ listed, cache.getRooms user = some listed -> listed = rooms

theorem agrees_iff :
    cache.Agrees user rooms ↔ (cache.Known user -> (cache.sets user).erase emptyMarker = rooms) := by
  unfold Agrees getRooms
  constructor
  · intro agrees known
    rw [if_pos known] at agrees
    exact agrees _ rfl
  · intro lists listed found
    split_ifs at found with known
    · cases found
      exact lists known

theorem Agrees.mem (agrees : cache.Agrees user rooms) (proper : room ≠ emptyMarker)
    (contained : room ∈ cache.sets user) : room ∈ rooms := by
  have known : cache.Known user := Finset.ne_empty_of_mem contained
  rw [← agrees_iff.mp agrees known, Finset.mem_erase]
  exact ⟨proper, contained⟩

theorem agrees_congr {later : RoomMembershipCache} (same : later.sets user = cache.sets user) :
    later.Agrees user rooms ↔ cache.Agrees user rooms := by
  rw [agrees_iff, agrees_iff]
  unfold Known
  rw [same]

theorem agrees_expire : (cache.expire user).Agrees user rooms := by
  rw [agrees_iff]
  intro known
  exact absurd write_self known

theorem agrees_replace (proper : emptyMarker ∉ rooms) : (cache.replace user rooms).Agrees user rooms := by
  rw [agrees_iff]
  intro _
  unfold replace
  rw [write_self]
  split_ifs with none
  · rw [none]
    rfl
  · exact Finset.erase_eq_of_notMem proper

theorem Agrees.remove (agrees : cache.Agrees user rooms) :
    (cache.remove user room).Agrees user (rooms.erase room) := by
  rw [agrees_iff]
  intro known
  unfold Known RoomMembershipCache.remove at *
  rw [write_self] at known
  have before : cache.Known user := by
    intro none
    rw [none, Finset.erase_empty] at known
    exact known rfl
  rw [write_self, Finset.erase_right_comm, agrees_iff.mp agrees before]

theorem agrees_add_iff (agrees : cache.Agrees user rooms) (proper : room ≠ emptyMarker) :
    (cache.add user room).Agrees user (insert room rooms) ↔
      (cache.Known user ∨ rooms ⊆ {room}) := by
  have added : ((cache.add user room).sets user).erase emptyMarker =
      insert room ((cache.sets user).erase emptyMarker) := by
    unfold add
    rw [write_self, Finset.erase_idem, Finset.erase_insert_of_ne proper]
  have known : (cache.add user room).Known user := by
    unfold Known add
    rw [write_self]
    exact Finset.ne_empty_of_mem (Finset.mem_erase.mpr ⟨proper, Finset.mem_insert_self _ _⟩)
  rw [agrees_iff, added]
  constructor
  · intro lists
    by_cases before : cache.Known user
    · exact Or.inl before
    · right
      unfold Known at before
      have alone := lists known
      rw [not_not.mp before, Finset.erase_empty] at alone
      have included : rooms ⊆ insert room rooms := Finset.subset_insert _ _
      rw [← alone] at included
      exact included
  · rintro (before | alone) -
    · rw [agrees_iff.mp agrees before]
    · by_cases before : cache.Known user
      · rw [agrees_iff.mp agrees before]
      · unfold Known at before
        rw [not_not.mp before, Finset.erase_empty]
        rcases Finset.subset_singleton_iff.mp alone with none | one
        · rw [none]
        · rw [one, Finset.insert_eq_of_mem (Finset.mem_singleton_self _)]
          rfl

end RoomMembershipCache

end Websockets
end ZepGpu
