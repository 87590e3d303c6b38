import Mathlib.Logic.Function.Basic

namespace ZepGpu
namespace Foundation

/-!
# A store whose entries expire

Every entry of the store has a moment from which on it is gone.  A reader and a
writer that finds such an entry both behave as if there were none, so the entry
need not be taken out when its moment comes.  Each operation is one command: it
sees the store as it is at one moment.
-/

/-- Values with the time at which each of them expires. -/
structure Expiring (κ α : Type) where
  now : Nat
  entries : κ -> Option (α × Nat)

namespace Expiring

variable {κ α : Type} {store : Expiring κ α} {key other : κ} {value : α} {expiry ttl seconds : Nat}

/-- What a reader finds under a key, with the moment at which it goes. -/
def live (store : Expiring κ α) (key : κ) : Option (α × Nat) :=
  (store.entries key).filter fun entry => decide (store.now < entry.2)

def get (store : Expiring κ α) (key : κ) : Option α :=
  (store.live key).map Prod.fst

def advance (store : Expiring κ α) (seconds : Nat) : Expiring κ α :=
  { store with now := store.now + seconds }

theorem live_eq_some_iff :
    store.live key = some (value, expiry) ↔
      store.entries key = some (value, expiry) ∧ store.now < expiry := by
  unfold live
  rw [Option.filter_eq_some_iff]
  simp

theorem live_congr {later : Expiring κ α} (clock : later.now = store.now)
    (same : later.entries key = store.entries key) : later.live key = store.live key := by
  unfold live
  rw [clock, same]

theorem get_of_live (found : store.live key = some (value, expiry)) :
    store.get key = some value := by
  unfold get
  rw [found]
  rfl

theorem exists_live_of_get (found : store.get key = some value) :
    ∃ expiry, store.live key = some (value, expiry) := by
  unfold get at found
  rcases Option.map_eq_some_iff.mp found with ⟨⟨holder, expiry⟩, present, rfl⟩
  exact ⟨expiry, present⟩

theorem live_of_live_advance (found : (store.advance seconds).live key = some (value, expiry)) :
    store.live key = some (value, expiry) := by
  rw [live_eq_some_iff] at found ⊢
  refine ⟨found.1, ?_⟩
  have later : store.now + seconds < expiry := found.2
  omega

theorem live_advance (found : store.live key = some (value, expiry))
    (remains : store.now + seconds < expiry) :
    (store.advance seconds).live key = some (value, expiry) := by
  rw [live_eq_some_iff] at found ⊢
  exact ⟨found.1, remains⟩

section Write

variable [DecidableEq κ]

def setIfAbsent (store : Expiring κ α) (key : κ) (value : α) (ttl : Nat) :
    Bool × Expiring κ α :=
  if (store.get key).isSome then (false, store)
  else (true, { store with
    entries := Function.update store.entries key (some (value, store.now + ttl)) })

def delete (store : Expiring κ α) (key : κ) : Expiring κ α :=
  { store with entries := Function.update store.entries key none }

theorem live_delete : (store.delete key).live key = none := by
  simp [live, delete]

theorem live_delete_of_ne (different : other ≠ key) :
    (store.delete key).live other = store.live other :=
  live_congr rfl (Function.update_of_ne different ..)

theorem setIfAbsent_of_get (present : store.get key = some value) {later : α} :
    store.setIfAbsent key later ttl = (false, store) := by
  simp [setIfAbsent, present]

theorem setIfAbsent_cases (store : Expiring κ α) (key : κ) (value : α) (positive : 0 < ttl) :
    (∃ present, store.get key = some present ∧
      store.setIfAbsent key value ttl = (false, store)) ∨
    (store.live key = none ∧
      ∃ written, store.setIfAbsent key value ttl = (true, written) ∧
        written.now = store.now ∧
        written.live key = some (value, store.now + ttl) ∧
        ∀ other, other ≠ key -> written.live other = store.live other) := by
  cases found : store.get key with
  | some present =>
    left
    exact ⟨present, rfl, setIfAbsent_of_get found⟩
  | none =>
    right
    refine ⟨Option.map_eq_none_iff.mp found, ?_⟩
    refine ⟨{ store with
      entries := Function.update store.entries key (some (value, store.now + ttl)) }, ?_⟩
    refine ⟨?_, rfl, ?_, ?_⟩
    · simp [setIfAbsent, found]
    · simp [live, positive]
    · intro other different
      exact live_congr rfl (Function.update_of_ne different ..)

end Write

end Expiring

end Foundation
end ZepGpu
