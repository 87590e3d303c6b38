import ZepGpu.Training.RedisRelay

namespace ZepGpu
namespace Training

open Foundation Dict

/-!
# What a command reads after others

Strings and hashes that a database holds are followed through the commands that
write them.  When an entry expires plays no part here.
-/

namespace RedisDatabase

variable {db : RedisDatabase} {key other : String} {data : Bytes}

theorem mget_eq_some : db.mget key = some data ↔
    ∃ expiry, db.get? key = some ⟨.string data, expiry⟩ := by
  unfold mget
  split
  case h_1 old expiry found =>
    rw [found]
    constructor
    · rintro ⟨rfl⟩
      exact ⟨expiry, rfl⟩
    · rintro ⟨_, ⟨rfl⟩⟩
      rfl
  case h_2 none =>
    constructor
    · intro impossible
      cases impossible
    · rintro ⟨expiry, found⟩
      exact absurd found (none data expiry)

theorem mget_of_get (read : db.get key = .ok (some data)) : db.mget key = some data := by
  unfold get at read
  split at read
  · cases read
  case h_2 old expiry found =>
    obtain rfl := Option.some.inj (Except.ok.inj read)
    exact mget_eq_some.mpr ⟨expiry, found⟩
  · cases read

theorem mget_of_filter {keep : String -> RedisEntry -> Bool}
    (found : RedisDatabase.mget (db.filter keep) key = some data) : db.mget key = some data := by
  obtain ⟨expiry, entry⟩ := mget_eq_some.mp found
  rw [get?_filter] at entry
  exact mget_eq_some.mpr ⟨expiry, (Option.filter_eq_some_iff.mp entry).1⟩

variable {expiresAt : Rat} {fields : List (String × Bytes)} {old : Bytes}

theorem mget_setString_self : (db.setString key data expiresAt).mget key = some data :=
  mget_eq_some.mpr ⟨some expiresAt, get?_set_self⟩

theorem mget_setString_of_ne (different : other ≠ key) :
    (db.setString key old expiresAt).mget other = db.mget other := by
  unfold mget setString
  rw [get?_set_of_ne different]

theorem mget_setNew_of_ne (different : other ≠ key) :
    (db.setNew key old expiresAt).mget other = db.mget other := by
  unfold setNew
  split_ifs
  · rfl
  · exact mget_setString_of_ne different

theorem mget_of_hset (found : (db.hset key fields).mget other = some data) :
    db.mget other = some data := by
  unfold hset at found
  dsimp only at found
  split at found
  · rcases eq_or_ne other key with rfl | different
    · obtain ⟨expiry, entry⟩ := mget_eq_some.mp found
      rw [get?_set_self] at entry
      cases entry
    · unfold mget at found
      rw [get?_set_of_ne different] at found
      exact found
  · exact found

theorem mget_of_expire (found : (db.expire key expiresAt).mget other = some data) :
    db.mget other = some data := by
  unfold expire at found
  split at found
  case h_1 entry here =>
    rcases eq_or_ne other key with rfl | different
    · obtain ⟨expiry, same⟩ := mget_eq_some.mp found
      rw [get?_set_self] at same
      have value := congrArg RedisEntry.value (Option.some.inj same)
      dsimp only at value
      exact mget_eq_some.mpr ⟨entry.expiresAt, by rw [here, ← value]⟩
    · unfold mget at found
      rw [get?_set_of_ne different] at found
      exact found
  · exact found

theorem get?_setString_of_ne (different : other ≠ key) :
    Dict.get? (db.setString key old expiresAt) other = db.get? other :=
  get?_set_of_ne different

theorem get?_setNew_of_ne (different : other ≠ key) :
    Dict.get? (db.setNew key old expiresAt) other = db.get? other := by
  unfold setNew
  split_ifs
  · rfl
  · exact get?_setString_of_ne different

theorem get?_hset_of_ne (different : other ≠ key) :
    Dict.get? (db.hset key fields) other = db.get? other := by
  unfold hset
  dsimp only
  split
  · exact get?_set_of_ne different
  · rfl

theorem get?_expire_of_ne (different : other ≠ key) :
    Dict.get? (db.expire key expiresAt) other = db.get? other := by
  unfold expire
  split
  · exact get?_set_of_ne different
  · rfl

def value? (db : RedisDatabase) (key : String) : Option RedisValue :=
  (db.get? key).map RedisEntry.value

theorem get_of_value? (found : db.value? key = some (.string data)) : db.get key = .ok (some data) := by
  obtain ⟨⟨_, expiry⟩, entry, rfl⟩ := Option.map_eq_some_iff.mp found
  rw [get, entry]

theorem mget_of_value? (found : db.value? key = some (.string data)) : db.mget key = some data :=
  mget_of_get (get_of_value? found)

theorem hgetall_of_value? {fields : Dict String Bytes} (found : db.value? key = some (.hash fields)) :
    db.hgetall key = .ok fields := by
  obtain ⟨⟨_, expiry⟩, entry, rfl⟩ := Option.map_eq_some_iff.mp found
  rw [hgetall, entry]

theorem get_of_absent (absent : db.value? key = none) : db.get key = .ok none := by
  rw [get, Option.map_eq_none_iff.mp absent]

theorem mget_of_absent (absent : db.value? key = none) : db.mget key = none := by
  rw [mget, Option.map_eq_none_iff.mp absent]

theorem hgetall_of_absent (absent : db.value? key = none) : db.hgetall key = .ok Dict.empty := by
  rw [hgetall, Option.map_eq_none_iff.mp absent]

theorem get_of_map {found : Option Bytes} (holds : db.value? key = found.map .string) :
    db.get key = .ok found := by
  cases found with
  | none => exact get_of_absent holds
  | some data => exact get_of_value? holds

theorem mget_of_map {found : Option Bytes} (holds : db.value? key = found.map .string) :
    db.mget key = found := by
  cases found with
  | none => exact mget_of_absent holds
  | some data => exact mget_of_value? holds

theorem value?_setString : (db.setString key data expiresAt).value? key = some (.string data) := by
  rw [value?, setString, get?_set_self]
  rfl

theorem value?_setNew (absent : db.value? key = none) :
    (db.setNew key data expiresAt).value? key = some (.string data) := by
  have fresh : key ∉ db.keys := get?_eq_none_iff.mp (Option.map_eq_none_iff.mp absent)
  rw [setNew, if_neg fresh]
  exact value?_setString

theorem value?_hset {old : Dict String Bytes} (found : db.value? key = some (.hash old)) :
    (db.hset key fields).value? key =
      some (.hash (fields.foldl (fun hash field => hash.set field.1 field.2) old)) := by
  obtain ⟨⟨_, expiry⟩, entry, rfl⟩ := Option.map_eq_some_iff.mp found
  rw [value?, hset, entry]
  dsimp only [Option.getD_some]
  rw [get?_set_self]
  rfl

theorem value?_hset_of_absent (absent : db.value? key = none) :
    (db.hset key fields).value? key =
      some (.hash (fields.foldl (fun hash field => hash.set field.1 field.2) Dict.empty)) := by
  rw [value?, hset, Option.map_eq_none_iff.mp absent]
  dsimp only [Option.getD_none]
  rw [get?_set_self]
  rfl

theorem value?_expire : (db.expire key expiresAt).value? other = db.value? other := by
  unfold expire
  split
  case h_1 entry here =>
    rcases eq_or_ne other key with rfl | different
    · rw [value?, value?, get?_set_self, here]
      rfl
    · rw [value?, get?_set_of_ne different]
      rfl
  · rfl

theorem value?_of_ne {after : RedisDatabase} (same : after.get? other = db.get? other) :
    after.value? other = db.value? other := by
  rw [value?, same]
  rfl

end RedisDatabase
end Training
end ZepGpu
