import ZepGpu.Training.Relay

namespace ZepGpu
namespace Training

open Foundation

/-!
# The relay store on Redis

The same protocol over a Redis database.  A transfer is spread over an index
entry, a hash of metadata, one string for each chunk and one for the payload,
all under names that are put together from the identifiers.  Commands are
atomic, and so are the sections under a lock, so that a call happens at one
reading of the clock of the server.  What has expired by then is not there.
-/

/-! ## The database -/

inductive RedisValue where
  | string (data : Bytes)
  | hash (fields : Dict String Bytes)

/-- A value in Redis and the time at which it expires. -/
structure RedisEntry where
  value : RedisValue
  expiresAt : Option Rat := none

abbrev RedisDatabase := Dict String RedisEntry

namespace RedisDatabase

variable (db : RedisDatabase)

/-- What has not expired. -/
def live (now : Rat) : RedisDatabase :=
  db.filter (fun _ entry => entry.expiresAt.all (fun expiry => now < expiry))

def wrongType : TrainingError :=
  .responseError "WRONGTYPE Operation against a key holding the wrong kind of value"

/-- `GET` -/
def get (key : String) : Except TrainingError (Option Bytes) :=
  match db.get? key with
  | none => .ok none
  | some ⟨.string data, _⟩ => .ok (some data)
  | some ⟨.hash _, _⟩ => .error wrongType

/-- `HGETALL` -/
def hgetall (key : String) : Except TrainingError (Dict String Bytes) :=
  match db.get? key with
  | none => .ok Dict.empty
  | some ⟨.hash fields, _⟩ => .ok fields
  | some ⟨.string _, _⟩ => .error wrongType

/-- `MGET`, one key: other values than strings are passed over. -/
def mget (key : String) : Option Bytes :=
  match db.get? key with
  | some ⟨.string data, _⟩ => some data
  | _ => none

/-- `SET` with `EX` -/
def setString (key : String) (data : Bytes) (expiresAt : Rat) : RedisDatabase :=
  db.set key ⟨.string data, some expiresAt⟩

/-- `SET` with `EX` and `NX` -/
def setNew (key : String) (data : Bytes) (expiresAt : Rat) : RedisDatabase :=
  if key ∈ db.keys then db else db.setString key data expiresAt

/-- `HSET`, on a key that was just read as a hash. -/
def hset (key : String) (fields : List (String × Bytes)) : RedisDatabase :=
  let entry := (db.get? key).getD ⟨.hash Dict.empty, none⟩
  match entry.value with
  | .hash old => db.set key
      { entry with value := .hash (fields.foldl (fun hash field => hash.set field.1 field.2) old) }
  | .string _ => db

/-- `EXPIRE` -/
def expire (key : String) (expiresAt : Rat) : RedisDatabase :=
  match db.get? key with
  | some entry => db.set key { entry with expiresAt := some expiresAt }
  | none => db

end RedisDatabase

/-! ## The store -/

/-- `int(data)` -/
def readIntBytes? (data : Bytes) : Option Int :=
  (ascii? data).bind readInt?

/-- `RedisBinaryRelayStore`, with what it takes from its platform. -/
structure RedisRelay where
  maxTransferBytes : Nat
  maxChunkBytes : Nat
  ttlSeconds : Nat
  one_le_maxTransferBytes : 1 ≤ maxTransferBytes
  one_le_maxChunkBytes : 1 ≤ maxChunkBytes
  one_le_ttlSeconds : 1 ≤ ttlSeconds
  /-- `str(time)` -/
  reprFloat : Rat -> String
  /-- `float(text)` -/
  floatOfText : String -> Option Rat
  /-- `MATCH pattern` of `SCAN` -/
  globMatches : String -> String -> Bool

namespace RedisRelay

def indexKey (transferId : String) : String :=
  "zepgpu:training:relay:index:" ++ transferId

def base (roomId runId transferId : String) : String :=
  "zepgpu:training:relay:" ++ roomId ++ ":" ++ runId ++ ":" ++ transferId

def metaKey (base : String) : String :=
  base ++ ":meta"

def payloadKey (base : String) : String :=
  base ++ ":payload"

def chunkKey (base : String) (index : Int) : String :=
  base ++ ":chunk:" ++ toString index

def metadata (announced : Announcement) (createdAt : String) : List (String × Bytes) :=
  [("room_id", utf8 announced.roomId), ("run_id", utf8 announced.runId),
    ("worker_id", utf8 (announced.workerId.getD "")),
    ("target_worker_id", utf8 (announced.targetWorkerId.getD "")),
    ("total_chunks", utf8 (toString announced.totalChunks)), ("received_bytes", utf8 "0"),
    ("status", utf8 "uploading"), ("round", utf8 (toString (announced.roundNumber.getD (-1)))),
    ("created_at", utf8 createdAt)]

/-- `existing_scope` -/
def scopeText (roomId runId : String) : Bytes :=
  utf8 (roomId ++ ":" ++ runId)

variable (P : Platform) (relay : RedisRelay)

/-- `_lookup`, without the base that it also returns. -/
def lookup (db : RedisDatabase) (transferId : String) : Except TrainingError (String × String) := do
  let found ← db.get (indexKey transferId)
  match found.filter (fun value => value ≠ []) with
  | none => .error (.envelopeError "unknown transfer")
  | some value =>
    match ascii? value with
    | none => .error .unicodeDecodeError
    | some text =>
      match splitOnce? [':'] text with
      | none => .error (.valueError "not enough values to unpack")
      | some (roomId, runId) => .ok (String.ofList roomId, String.ofList runId)

def deadline (now : Rat) : Rat :=
  now + relay.ttlSeconds

def beginBody (transferId : String) (announced : Announcement) (now clock : Rat)
    (db : RedisDatabase) : Except TrainingError (Unit × RedisDatabase) := do
  raiseIf (announced.totalChunks < 1 ∨ 65536 < announced.totalChunks)
    (.envelopeError "invalid chunk count")
  let metaKey := metaKey (base announced.roomId announced.runId transferId)
  let expectedScope := scopeText announced.roomId announced.runId
  let existingScope ← db.get (indexKey transferId)
  raiseIf (existingScope.any (fun scope => scope ≠ [] ∧ scope ≠ expectedScope))
    (.transferConflictError "conflicting duplicate transfer")
  let existing ← db.hgetall metaKey
  raiseIf (existing.get? "status" = some (utf8 "completed"))
    (.transferConflictError "transfer is already completed")
  let metadata := metadata announced (relay.reprFloat clock)
  if existing.keys = [] then
    let db := db.setNew (indexKey transferId) expectedScope (relay.deadline now)
    .ok ((), (db.hset metaKey metadata).expire metaKey (relay.deadline now))
  else do
    raiseIf (metadata.any (fun field => field.1 ≠ "received_bytes" ∧
        (existing.get? field.1).getD [] ≠ field.2))
      (.transferConflictError "conflicting duplicate transfer")
    .ok ((), db)

/-- `begin`; `clock` is the wall clock of the caller. -/
def begin (db : RedisDatabase) (transferId : String) (announced : Announcement) (now clock : Rat) :
    Outcome RedisDatabase TrainingError Unit :=
  transaction (relay.beginBody transferId announced now clock) (db.live now)

/-- `int(meta[field])` -/
def intField (fields : Dict String Bytes) (field : String) : Except TrainingError Int :=
  match fields.get? field with
  | none => .error (.keyError field)
  | some data =>
    match readIntBytes? data with
    | none => .error (.valueError "invalid literal for int() with base 10")
    | some value => .ok value

/-- `int(meta.get(field, default))` -/
def intFieldOr (fields : Dict String Bytes) (field : String) (default : Int) :
    Except TrainingError Int :=
  if field ∈ fields.keys then intField fields field else .ok default

/-- `meta.get(field, b"").decode()` -/
def textField (fields : Dict String Bytes) (field : String) : Except TrainingError String :=
  match ofUtf8? ((fields.get? field).getD []) with
  | none => .error .unicodeDecodeError
  | some text => .ok text

def putChunkBody (transferId : String) (index : Int) (chunk : Bytes) (now : Rat)
    (db : RedisDatabase) : Except TrainingError (Unit × RedisDatabase) := do
  let (roomId, runId) ← lookup db transferId
  let base := base roomId runId transferId
  let fields ← db.hgetall (metaKey base)
  raiseIf (fields.keys = [] ∨ fields.get? "status" ≠ some (utf8 "uploading"))
    (.envelopeError "transfer is not accepting chunks")
  let totalChunks ← intField fields "total_chunks"
  raiseIf (index < 0 ∨ totalChunks ≤ index) (.envelopeError "chunk index out of range")
  raiseIf (relay.maxChunkBytes < chunk.length) (.envelopeError "chunk exceeds size limit")
  let existing ← db.get (chunkKey base index)
  match existing with
  | some old => do
      raiseIf (P.sha256 old ≠ P.sha256 chunk)
        (.transferConflictError "conflicting duplicate chunk")
      .ok ((), db)
  | none => do
      let received ← intFieldOr fields "received_bytes" 0
      raiseIf (relay.maxTransferBytes < received + chunk.length)
        (.envelopeError "transfer exceeds size limit")
      let db := db.setNew (chunkKey base index) chunk (relay.deadline now)
      let db := db.hset (metaKey base)
        [("received_bytes", utf8 (toString (received + chunk.length)))]
      let db := db.expire (metaKey base) (relay.deadline now)
      .ok ((), db.expire (indexKey transferId) (relay.deadline now))

def putChunk (db : RedisDatabase) (transferId : String) (index : Int) (chunk : Bytes) (now : Rat) :
    Outcome RedisDatabase TrainingError Unit :=
  transaction (relay.putChunkBody P transferId index chunk now) (db.live now)

def readPayload (db : RedisDatabase) (roomId runId base : String) :
    Except TrainingError BinaryEnvelope := do
  let encoded ← db.get (payloadKey base)
  match encoded with
  | none => .error (.envelopeError "completed transfer payload expired")
  | some encoded =>
    BinaryEnvelope.decode P encoded { roomId := some roomId, runId := some runId }

/-- The bytes of a transfer whose chunks are all there, and the scope to decode
them in. -/
def gathered (db : RedisDatabase) (roomId runId base : String) (fields : Dict String Bytes) :
    Except TrainingError (Bytes × Scope) := do
  let totalChunks ← intField fields "total_chunks"
  let chunks := (List.range totalChunks.toNat).map (fun index : Nat => db.mget (chunkKey base index))
  raiseIf (chunks.any (fun chunk => chunk = none)) (.envelopeError "transfer is incomplete")
  let encoded := (chunks.filterMap id).flatten
  raiseIf (relay.maxTransferBytes < encoded.length) (.envelopeError "transfer exceeds size limit")
  let workerId ← textField fields "worker_id"
  let round ← intFieldOr fields "round" (-1)
  .ok (encoded, {
    roomId := some roomId
    runId := some runId
    workerId := if workerId = "" then none else some workerId
    round := if 0 ≤ round then some round else none })

def completeBody (transferId : String) (now : Rat) (db : RedisDatabase) :
    Except TrainingError (BinaryEnvelope × RedisDatabase) := do
  let (roomId, runId) ← lookup db transferId
  let base := base roomId runId transferId
  let fields ← db.hgetall (metaKey base)
  raiseIf (fields.keys = []) (.envelopeError "unknown transfer")
  if fields.get? "status" = some (utf8 "completed") then do
    let envelope ← readPayload P db roomId runId base
    .ok (envelope, db)
  else do
    let (encoded, scope) ← relay.gathered db roomId runId base fields
    let envelope ← BinaryEnvelope.decode P encoded scope relay.maxTransferBytes
    let db := db.setString (payloadKey base) encoded (relay.deadline now)
    let db := db.hset (metaKey base) [("status", utf8 "completed")]
    .ok (envelope, db.expire (metaKey base) (relay.deadline now))

def complete (db : RedisDatabase) (transferId : String) (now : Rat) :
    Outcome RedisDatabase TrainingError BinaryEnvelope :=
  transaction (relay.completeBody P transferId now) (db.live now)

def receive (db : RedisDatabase) (transferId targetWorkerId : String) (now : Rat) :
    Except TrainingError BinaryEnvelope := do
  let db := db.live now
  let (roomId, runId) ← lookup db transferId
  let base := base roomId runId transferId
  let fields ← db.hgetall (metaKey base)
  raiseIf (fields.keys = [] ∨ fields.get? "status" ≠ some (utf8 "completed"))
    (.envelopeError "transfer is not completed")
  let expectedTarget ← textField fields "target_worker_id"
  raiseIf (expectedTarget ≠ "" ∧ expectedTarget ≠ targetWorkerId)
    (.transferConflictError "transfer belongs to another target worker")
  readPayload P db roomId runId base

/-! ## Removal -/

def deleted (db : RedisDatabase) (transferId base : String) : RedisDatabase :=
  db.filter (fun key _ => ¬ relay.globMatches (base ++ ":*") key ∧ key ≠ indexKey transferId)

def abortBody (transferId : String) (db : RedisDatabase) :
    Except TrainingError (Bool × RedisDatabase) :=
  match lookup db transferId with
  | .error (.envelopeError _) => .ok (false, db)
  | .error error => .error error
  | .ok (roomId, runId) => .ok (true, relay.deleted db transferId (base roomId runId transferId))

def abort (db : RedisDatabase) (transferId : String) (now : Rat) :
    Outcome RedisDatabase TrainingError Bool :=
  transaction (relay.abortBody transferId) (db.live now)

/-- `index_key.rsplit(":", 1)[-1]` -/
def lastPart (key : String) : String :=
  String.ofList ((key.toList.splitOn ':').getLast?.getD [])

/-- `float(created_raw)`, or zero when it is none. -/
def readCreatedAt (data : Bytes) : Rat :=
  ((ofUtf8? data).bind relay.floatOfText).getD 0

/-- One round of the loop of `cleanup`. -/
def cleanupStep (current : Rat) (db : RedisDatabase) (key : String) :
    Except TrainingError (Nat × RedisDatabase) :=
  let transferId := lastPart key
  match lookup db transferId with
  | .error (.envelopeError _) => .ok (1, db.erase key)
  | .error error => .error error
  | .ok (roomId, runId) => do
      let base := base roomId runId transferId
      let fields ← db.hgetall (metaKey base)
      match fields.get? "created_at" with
      | none =>
        -- an entry without a time of creation goes when it would stay for ever
        if (db.get? key).any (fun entry => entry.expiresAt = none) then
          .ok (1, relay.deleted (db.erase key) transferId base)
        else .ok (0, db)
      | some created =>
        if (relay.ttlSeconds : Rat) ≤ current - relay.readCreatedAt created then
          .ok (1, relay.deleted (db.erase key) transferId base)
        else .ok (0, db)

def cleanupLoop (current : Rat) : List String -> Nat -> RedisDatabase ->
    Outcome RedisDatabase TrainingError Nat
  | [], count, db => ⟨.ok count, db⟩
  | key :: rest, count, db =>
    match relay.cleanupStep current db key with
    | .error error => ⟨.error error, db⟩
    | .ok (more, db) => cleanupLoop current rest (count + more) db

/-- `cleanup`, which `SCAN` leads through the index entries. -/
def cleanup (db : RedisDatabase) (now current : Rat) : Outcome RedisDatabase TrainingError Nat :=
  let db := db.live now
  relay.cleanupLoop current
    (db.keys.filter (fun key => relay.globMatches "zepgpu:training:relay:index:*" key)) 0 db

end RedisRelay

end Training
end ZepGpu
