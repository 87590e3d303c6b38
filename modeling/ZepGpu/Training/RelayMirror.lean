import ZepGpu.Training.RelayIdentity

namespace ZepGpu
namespace Training

open Foundation Dict RedisDatabase RedisRelay
open RedisRelay (Plain keyTag keyTag_indexKey keyTag_metaKey keyTag_payloadKey keyTag_chunkKey
  indexKey metaKey payloadKey chunkKey base scopeText lookup)

/-!
# What Redis holds of a transfer in memory

Both relay stores get the same calls.  A relation says what the database holds
of a transfer that the store in memory does not know, that is being uploaded or
that is complete, and what each command of the store on Redis does to it then.
A call touches the keys of its own transfer only.
-/

def Ascii (text : String) : Prop :=
  ∀ c, c ∈ text.toList -> c.toNat < 128

instance (text : String) : Decidable (Ascii text) :=
  inferInstanceAs (Decidable (∀ c, c ∈ text.toList -> c.toNat < 128))

/-! ## Finding a transfer -/

section Lookup

variable {db : RedisDatabase} {id room run : String}

theorem toList_scope (room run : String) :
    (room ++ ":" ++ run).toList = room.toList ++ ([':'] ++ run.toList) := by
  rw [String.toList_append, String.toList_append, List.append_assoc]
  rfl

theorem scopeText_injective {room' run' : String} (same : scopeText room run = scopeText room' run') :
    room ++ ":" ++ run = room' ++ ":" ++ run' := by
  have read := congrArg ofUtf8? same
  rw [scopeText, scopeText, ofUtf8?_utf8, ofUtf8?_utf8] at read
  exact Option.some.inj read

theorem base_of_scope {room' run' : String} (same : room ++ ":" ++ run = room' ++ ":" ++ run') :
    base room run id = base room' run' id := by
  have split : ∀ room run, base room run id =
      "zepgpu:training:relay:" ++ (room ++ ":" ++ run) ++ ":" ++ id := by
    intro room run
    unfold base
    simp only [String.append_assoc]
  rw [split, split, same]

/-- The first part of the scope of a transfer is its room, unless the room has a
colon in it; then a colon is left in the second part. -/
theorem lookup_of_index (found : db.value? (indexKey id) = some (.string (scopeText room run)))
    (roomAscii : Ascii room) (runAscii : Ascii run) :
    ∃ front back, lookup db id = .ok (front, back) ∧ base front back id = base room run id ∧
      (Plain room -> front = room ∧ back = run) ∧ (¬ Plain room -> ¬ Plain back) := by
  have ascii : ascii? (scopeText room run) = some (room.toList ++ ([':'] ++ run.toList)) := by
    rw [scopeText, ascii?_utf8, toList_scope]
    intro c member
    rw [toList_scope] at member
    rcases List.mem_append.mp member with first | later
    · exact roomAscii c first
    · rcases List.mem_cons.mp later with colon | last
      · rw [colon]
        decide
      · exact runAscii c last
  have filled : scopeText room run ≠ [] := by
    intro empty
    rw [empty] at ascii
    have length := congrArg List.length (Option.some.inj ascii)
    rw [List.length_append, List.length_append, List.length_singleton] at length
    exact absurd length (by rw [asciiReplace, List.map_nil, List.length_nil]; omega)
  have split : ∀ front back, splitOnce? [':'] (room.toList ++ ([':'] ++ run.toList)) =
      some (front, back) -> lookup db id = .ok (String.ofList front, String.ofList back) := by
    intro front back parts
    unfold lookup
    rw [get_of_value? found]
    simp only [bind, Except.bind, Option.filter_some, decide_eq_true filled, if_true, ascii]
    rw [parts]
  by_cases plain : Plain room
  · refine ⟨room, run, ?_, rfl, fun _ => ⟨rfl, rfl⟩, fun other => absurd plain other⟩
    have first := split _ _ (splitOnce?_append plain)
    rw [String.ofList_toList, String.ofList_toList] at first
    exact first
  · obtain ⟨front, back, same, fresh⟩ := List.eq_append_cons_of_mem (not_not.mp plain)
    have whole : room.toList ++ ([':'] ++ run.toList) =
        front ++ ([':'] ++ (back ++ ([':'] ++ run.toList))) := by
      rw [same]
      simp only [List.append_assoc, List.cons_append, List.nil_append]
    have first := split front (back ++ ([':'] ++ run.toList)) (by rw [whole]; exact splitOnce?_append fresh)
    refine ⟨_, _, first, base_of_scope ?_, fun other => absurd other plain, fun _ simple => ?_⟩
    · apply String.toList_injective
      rw [toList_scope, toList_scope, String.toList_ofList, String.toList_ofList, whole]
    · apply simple
      rw [String.toList_ofList]
      exact List.mem_append_right _ List.mem_cons_self

end Lookup

/-! ## Both stores -/

/-- The stores, and the wall clock at the last announcement. -/
structure BothStores where
  memory : BinaryRelayStore
  redis : RedisDatabase
  latest : Rat

/-- A call of both stores, with the readings of the clocks of each. -/
inductive RelayRequest where
  | begin (transferId : String) (announced : Announcement) (cleanedAt createdAt now clock : Rat)
  | putChunk (transferId : String) (index : Int) (chunk : Bytes) (now : Rat)
  | complete (transferId : String) (completedAt now : Rat)
  | receive (transferId targetWorkerId : String) (now : Rat)

/-- What an announcement says that both stores keep as it is. -/
structure Announcement.Named (announced : Announcement) : Prop where
  roomAscii : Ascii announced.roomId
  runAscii : Ascii announced.runId
  worker : announced.workerId ≠ some ""
  target : announced.targetWorkerId ≠ some ""
  -- an integer of more digits has no text
  round : ∀ round, announced.roundNumber = some round ->
    0 ≤ round ∧ (Nat.toDigits 10 round.natAbs).length ≤ 4300

def RelayRequest.Named : RelayRequest -> Prop
  | .begin id announced _ _ _ _ => Plain id ∧ announced.Named
  | .putChunk id _ _ _ | .complete id _ _ | .receive id _ _ => Plain id

namespace BothStores

def perform (P : Platform) (relay : RedisRelay) (both : BothStores) : RelayRequest -> BothStores
  | .begin id announced cleanedAt createdAt now clock => {
      memory := (both.memory.begin id announced cleanedAt createdAt).state
      redis := (relay.begin both.redis id announced now clock).state
      latest := clock }
  | .putChunk id index chunk now => { both with
      memory := (both.memory.putChunk P id index chunk).state
      redis := (relay.putChunk P both.redis id index chunk now).state }
  | .complete id completedAt now => { both with
      memory := (both.memory.complete P id completedAt).state
      redis := (relay.complete P both.redis id now).state }
  | .receive _ _ now => { both with redis := both.redis.live now }

/-- Both accept the call, with the same envelope where there is one, or both refuse it. -/
def SameAnswer (P : Platform) (relay : RedisRelay) (both : BothStores) : RelayRequest -> Prop
  | .begin id announced cleanedAt createdAt now clock =>
    (both.memory.begin id announced cleanedAt createdAt).result.toOption =
      (relay.begin both.redis id announced now clock).result.toOption
  | .putChunk id index chunk now =>
    (both.memory.putChunk P id index chunk).result.toOption =
      (relay.putChunk P both.redis id index chunk now).result.toOption
  | .complete id completedAt now =>
    (both.memory.complete P id completedAt).result.toOption =
      (relay.complete P both.redis id now).result.toOption
  | .receive id target now =>
    (both.memory.receive id target).toOption =
      (RedisRelay.receive P both.redis id target now).toOption

/-- Nothing has expired, no limit is reached, and the wall clock goes forward.
Its readings are floats, which read back from their texts. -/
def Unlimited (relay : RedisRelay) (both : BothStores) : RelayRequest -> Prop
  | .begin id _ cleanedAt _ now clock =>
    both.redis.live now = both.redis ∧ both.memory.cleaned cleanedAt = both.memory ∧
    (id ∉ both.memory.transfers.keys -> id ∉ both.memory.completed.keys ->
      both.memory.transfers.keys.length + both.memory.completed.keys.length <
        both.memory.limits.maxTransfers) ∧
    both.latest < clock ∧ relay.floatOfText (relay.reprFloat clock) = some clock
  | .putChunk id index chunk now =>
    both.redis.live now = both.redis ∧
    chunk.length ≤ both.memory.limits.maxChunkBytes ∧ chunk.length ≤ relay.maxChunkBytes ∧
    ∀ transfer, both.memory.transfers.get? id = some transfer ->
      index ∉ transfer.chunks.keys ->
      transfer.receivedBytes + chunk.length ≤ both.memory.limits.maxTransferBytes ∧
      transfer.receivedBytes + chunk.length ≤ relay.maxTransferBytes ∧
      transfer.receivedBytes + chunk.length ≤ maxPayloadBytes
  | .complete _ _ now | .receive _ _ now => both.redis.live now = both.redis

/-- No transfer that is being uploaded is announced again with the same arguments. -/
def NotRepeated (both : BothStores) : RelayRequest -> Prop
  | .begin id announced _ _ _ _ => ∀ transfer,
      both.memory.transfers.get? id = some transfer -> transfer.announced ≠ announced
  | _ => True

end BothStores

/-! ## What Redis holds of a transfer -/

/-- The metadata in Redis say what was announced and how much has come. -/
structure Describes (fields : Dict String Bytes) (announced : Announcement) (received : Nat)
    (status created : String) : Prop where
  status : fields.get? "status" = some (utf8 status)
  total : fields.get? "total_chunks" = some (utf8 (toString announced.totalChunks))
  received : fields.get? "received_bytes" = some (utf8 (toString (received : Int)))
  worker : fields.get? "worker_id" = some (utf8 (announced.workerId.getD ""))
  target : fields.get? "target_worker_id" = some (utf8 (announced.targetWorkerId.getD ""))
  round : fields.get? "round" = some (utf8 (toString (announced.roundNumber.getD (-1))))
  created : fields.get? "created_at" = some (utf8 created)

/-- A pending transfer of the memory store as Redis holds it. -/
structure PendingAt (relay : RedisRelay) (latest : Rat) (db : RedisDatabase) (id : String)
    (transfer : Transfer) : Prop where
  named : transfer.announced.Named
  counted : 1 ≤ transfer.announced.totalChunks ∧ transfer.announced.totalChunks ≤ 65536
  small : transfer.receivedBytes ≤ relay.maxTransferBytes ∧ transfer.receivedBytes ≤ maxPayloadBytes
  index : db.value? (indexKey id) =
    some (.string (scopeText transfer.announced.roomId transfer.announced.runId))
  about : ∃ fields created,
    db.value? (metaKey (base transfer.announced.roomId transfer.announced.runId id)) =
      some (.hash fields) ∧
    Describes fields transfer.announced transfer.receivedBytes "uploading" (relay.reprFloat created) ∧
    created ≤ latest ∧ relay.floatOfText (relay.reprFloat created) = some created
  chunks : ∀ index,
    db.value? (chunkKey (base transfer.announced.roomId transfer.announced.runId id) index) =
      (transfer.chunks.get? index).map .string

/-- A completed transfer of the memory store as Redis holds it. -/
structure CompletedAt (P : Platform) (db : RedisDatabase) (id : String) (done : CompletedTransfer)
    (room run : String) (fields : Dict String Bytes) (encoded : Bytes) : Prop where
  plain : Plain room
  roomAscii : Ascii room
  runAscii : Ascii run
  index : db.value? (indexKey id) = some (.string (scopeText room run))
  about : db.value? (metaKey (base room run id)) = some (.hash fields)
  status : fields.get? "status" = some (utf8 "completed")
  target : fields.get? "target_worker_id" = some (utf8 (done.targetWorkerId.getD ""))
  named : done.targetWorkerId ≠ some ""
  payload : db.value? (payloadKey (base room run id)) = some (.string encoded)
  decoded : BinaryEnvelope.decode P encoded { roomId := some room, runId := some run } =
    .ok done.envelope

/-- Both stores know the same about one transfer. -/
structure MirrorsAt (P : Platform) (relay : RedisRelay) (both : BothStores) (id : String) : Prop where
  unknown : both.memory.completed.get? id = none -> both.memory.transfers.get? id = none ->
    ∀ key, (keyTag key).1 = id.toList -> both.redis.get? key = none
  pending : ∀ transfer, both.memory.transfers.get? id = some transfer ->
    PendingAt relay both.latest both.redis id transfer
  completed : ∀ done, both.memory.completed.get? id = some done ->
    ∃ room run fields encoded, CompletedAt P both.redis id done room run fields encoded

/-- Both stores know the same about every transfer. -/
structure Mirrors (P : Platform) (relay : RedisRelay) (both : BothStores) : Prop where
  sound : BinaryRelayStore.Sound P both.memory
  mirrors : ∀ id, Plain id -> MirrorsAt P relay both id

/-! ## Other transfers -/

/-- Two databases hold the same under the keys of a transfer. -/
def AgreesOn (id : String) (db after : RedisDatabase) : Prop :=
  ∀ key, (keyTag key).1 = id.toList -> after.get? key = db.get? key

section Frame

variable {P : Platform} {relay : RedisRelay} {latest later : Rat} {db after : RedisDatabase}
  {id other : String}

theorem AgreesOn.index (agrees : AgreesOn id db after) (plain : Plain id) :
    after.value? (indexKey id) = db.value? (indexKey id) :=
  value?_of_ne (agrees _ (by rw [keyTag_indexKey plain]))

theorem AgreesOn.meta (agrees : AgreesOn id db after) (plain : Plain id) (room run : String) :
    after.value? (metaKey (base room run id)) = db.value? (metaKey (base room run id)) :=
  value?_of_ne (agrees _ (by rw [keyTag_metaKey plain]))

theorem AgreesOn.payload (agrees : AgreesOn id db after) (plain : Plain id) (room run : String) :
    after.value? (payloadKey (base room run id)) = db.value? (payloadKey (base room run id)) :=
  value?_of_ne (agrees _ (by rw [keyTag_payloadKey plain]))

theorem AgreesOn.chunk (agrees : AgreesOn id db after) (plain : Plain id) (room run : String)
    (index : Int) :
    after.value? (chunkKey (base room run id) index) = db.value? (chunkKey (base room run id) index) :=
  value?_of_ne (agrees _ (by rw [keyTag_chunkKey plain]))

theorem PendingAt.agree {transfer : Transfer} (pending : PendingAt relay latest db id transfer)
    (plain : Plain id) (agrees : AgreesOn id db after) (forward : latest ≤ later) :
    PendingAt relay later after id transfer where
  named := pending.named
  counted := pending.counted
  small := pending.small
  index := (agrees.index plain).trans pending.index
  about := by
    obtain ⟨fields, created, found, describes, before, reads⟩ := pending.about
    exact ⟨fields, created, (agrees.meta plain _ _).trans found, describes, before.trans forward, reads⟩
  chunks := fun index => (agrees.chunk plain _ _ index).trans (pending.chunks index)

theorem CompletedAt.agree {done : CompletedTransfer} {room run : String}
    {fields : Dict String Bytes} {encoded : Bytes}
    (completed : CompletedAt P db id done room run fields encoded) (plain : Plain id)
    (agrees : AgreesOn id db after) : CompletedAt P after id done room run fields encoded :=
  { completed with
    index := (agrees.index plain).trans completed.index
    about := (agrees.meta plain _ _).trans completed.about
    payload := (agrees.payload plain _ _).trans completed.payload }

theorem MirrorsAt.agree {both next : BothStores} (mirrors : MirrorsAt P relay both id)
    (plain : Plain id)
    (transfers : next.memory.transfers.get? id = both.memory.transfers.get? id)
    (completed : next.memory.completed.get? id = both.memory.completed.get? id)
    (agrees : AgreesOn id both.redis next.redis) (forward : both.latest ≤ next.latest) :
    MirrorsAt P relay next id where
  unknown := fun noneDone nonePending key tag =>
    (agrees key tag).trans (mirrors.unknown (completed ▸ noneDone) (transfers ▸ nonePending) key tag)
  pending := fun transfer found =>
    (mirrors.pending transfer (transfers ▸ found)).agree plain agrees forward
  completed := fun done found => by
    obtain ⟨room, run, fields, encoded, holds⟩ := mirrors.completed done (completed ▸ found)
    exact ⟨room, run, fields, encoded, holds.agree plain agrees⟩

theorem Mirrors.update {both next : BothStores} (mirrors : Mirrors P relay both) (id : String)
    (sound : BinaryRelayStore.Sound P next.memory) (forward : both.latest ≤ next.latest)
    (transfers : ∀ other, other ≠ id ->
      next.memory.transfers.get? other = both.memory.transfers.get? other)
    (completed : ∀ other, other ≠ id ->
      next.memory.completed.get? other = both.memory.completed.get? other)
    (agrees : ∀ other, other ≠ id -> AgreesOn other both.redis next.redis)
    (own : MirrorsAt P relay next id) : Mirrors P relay next where
  sound := sound
  mirrors := by
    intro other plain
    rcases eq_or_ne other id with rfl | different
    · exact own
    · exact (mirrors.mirrors other plain).agree plain (transfers other different)
        (completed other different) (agrees other different) forward

theorem Mirrors.wait {both next : BothStores} (mirrors : Mirrors P relay both)
    (memory : next.memory = both.memory) (redis : next.redis = both.redis)
    (forward : both.latest ≤ next.latest) : Mirrors P relay next where
  sound := memory ▸ mirrors.sound
  mirrors := fun other plain => (mirrors.mirrors other plain).agree plain (by rw [memory])
    (by rw [memory]) (fun key _ => by rw [redis]) forward

theorem ne_of_tag {key used : String} {kind : List Char} (tag : (keyTag key).1 = other.toList)
    (different : other ≠ id) (own : keyTag used = (id.toList, kind)) : key ≠ used := by
  rintro rfl
  rw [own] at tag
  exact different (String.toList_injective tag.symm)

end Frame

/-! ## Announcements -/

section Begin

variable {P : Platform} {relay : RedisRelay} {db : RedisDatabase} {id : String}
  {announced : Announcement} {now clock : Rat}

theorem describes_metadata (announced : Announcement) (created : String) :
    Describes ((RedisRelay.metadata announced created).foldl
      (fun hash field => hash.set field.1 field.2) Dict.empty) announced 0 "uploading" created := by
  unfold RedisRelay.metadata
  constructor <;> rfl

theorem mem_keys_describes {fields : Dict String Bytes} {received : Nat} {status created : String}
    (describes : Describes fields announced received status created) : fields.keys ≠ [] := by
  intro empty
  have member := mem_keys_of_get? describes.status
  rw [empty] at member
  cases member

def announcedIn (relay : RedisRelay) (db : RedisDatabase) (id : String) (announced : Announcement)
    (now clock : Rat) : RedisDatabase :=
  ((db.setNew (indexKey id) (scopeText announced.roomId announced.runId) (relay.deadline now)).hset
    (metaKey (base announced.roomId announced.runId id))
    (RedisRelay.metadata announced (relay.reprFloat clock))).expire
      (metaKey (base announced.roomId announced.runId id)) (relay.deadline now)

theorem beginBody_fresh (plain : Plain id)
    (counted : 1 ≤ announced.totalChunks ∧ announced.totalChunks ≤ 65536)
    (absent : ∀ key, (keyTag key).1 = id.toList -> db.get? key = none) :
    relay.beginBody id announced now clock db =
      .ok ((), announcedIn relay db id announced now clock) := by
  have none : ∀ key, (keyTag key).1 = id.toList -> db.value? key = none :=
    fun key tag => Option.map_eq_none_iff.mpr (absent key tag)
  have index := get_of_absent (none (indexKey id) (by rw [keyTag_indexKey plain]))
  have about := hgetall_of_absent
    (none (metaKey (base announced.roomId announced.runId id)) (by rw [keyTag_metaKey plain]))
  unfold RedisRelay.beginBody
  refine raiseIf_bind_eq_ok.mpr ⟨by omega, bind_eq_ok.mpr ⟨_, index, raiseIf_bind_eq_ok.mpr
    ⟨Bool.false_ne_true, bind_eq_ok.mpr ⟨_, about, raiseIf_bind_eq_ok.mpr ⟨nofun, ?_⟩⟩⟩⟩⟩
  exact if_pos rfl

theorem beginBody_known {room run : String} {fields : Dict String Bytes} {result : Unit × RedisDatabase}
    (index : db.value? (indexKey id) = some (.string (scopeText room run)))
    (about : db.value? (metaKey (base room run id)) = some (.hash fields))
    (filled : fields.keys ≠ [])
    (accepted : relay.beginBody id announced now clock db = .ok result) :
    fields.get? "status" ≠ some (utf8 "completed") ∧
      (fields.get? "created_at").getD [] = utf8 (relay.reprFloat clock) := by
  unfold RedisRelay.beginBody at accepted
  obtain ⟨_, rest⟩ := raiseIf_bind_eq_ok.mp accepted
  rw [get_of_value? index] at rest
  obtain ⟨_, found, rest⟩ := bind_eq_ok.mp rest
  obtain rfl := Except.ok.inj found
  obtain ⟨sameScope, rest⟩ := raiseIf_bind_eq_ok.mp rest
  have nonempty : scopeText room run ≠ [] := by
    intro empty
    rw [scopeText, utf8_eq_nil_iff] at empty
    have colon := congrArg String.toList empty
    rw [toList_scope] at colon
    exact absurd (List.append_eq_nil_iff.mp colon).2 nofun
  have scope : room ++ ":" ++ run = announced.roomId ++ ":" ++ announced.runId := by
    apply scopeText_injective
    by_contra other
    exact sameScope (by simpa using ⟨nonempty, other⟩)
  rw [← base_of_scope scope, hgetall_of_value? about] at rest
  obtain ⟨_, found, rest⟩ := bind_eq_ok.mp rest
  obtain rfl := Except.ok.inj found
  obtain ⟨uploading, rest⟩ := raiseIf_bind_eq_ok.mp rest
  rw [if_neg filled] at rest
  obtain ⟨same, _⟩ := raiseIf_bind_eq_ok.mp rest
  refine ⟨uploading, ?_⟩
  by_contra other
  apply same
  rw [List.any_eq_true]
  exact ⟨("created_at", utf8 (relay.reprFloat clock)), by simp [RedisRelay.metadata],
    decide_eq_true ⟨(by decide : "created_at" ≠ "received_bytes"), other⟩⟩

theorem agreesOn_announcedIn {other : String} (plain : Plain id) (different : other ≠ id) :
    AgreesOn other db (announcedIn relay db id announced now clock) := by
  intro key tag
  have notIndex : key ≠ indexKey id := ne_of_tag tag different (keyTag_indexKey plain)
  have notMeta : key ≠ metaKey (base announced.roomId announced.runId id) :=
    ne_of_tag tag different (keyTag_metaKey plain)
  unfold announcedIn
  rw [get?_expire_of_ne notMeta, get?_hset_of_ne notMeta, get?_setNew_of_ne notIndex]

theorem pendingAt_begun {createdAt : Rat} (plain : Plain id) (named : announced.Named)
    (counted : 1 ≤ announced.totalChunks ∧ announced.totalChunks ≤ 65536)
    (absent : ∀ key, (keyTag key).1 = id.toList -> db.get? key = none)
    (reads : relay.floatOfText (relay.reprFloat clock) = some clock) :
    PendingAt relay clock (announcedIn relay db id announced now clock) id
      { announced, createdAt } := by
  have none : ∀ key, (keyTag key).1 = id.toList -> db.value? key = none :=
    fun key tag => Option.map_eq_none_iff.mpr (absent key tag)
  have noMeta : (db.setNew (indexKey id) (scopeText announced.roomId announced.runId)
      (relay.deadline now)).value? (metaKey (base announced.roomId announced.runId id)) = Option.none := by
    rw [value?_of_ne (get?_setNew_of_ne (indexKey_ne_metaKey plain plain).symm)]
    exact none _ (by rw [keyTag_metaKey plain])
  constructor
  case named => exact named
  case counted => exact counted
  case small => exact ⟨Nat.zero_le _, Nat.zero_le _⟩
  case index =>
    rw [announcedIn, value?_expire, value?_of_ne (get?_hset_of_ne
      (indexKey_ne_metaKey plain plain))]
    exact value?_setNew (none _ (by rw [keyTag_indexKey plain]))
  case about =>
    refine ⟨_, clock, ?_, describes_metadata announced (relay.reprFloat clock), le_refl clock, reads⟩
    rw [announcedIn, value?_expire]
    exact value?_hset_of_absent noMeta
  case chunks =>
    intro index
    rw [announcedIn, value?_expire, value?_of_ne (get?_hset_of_ne
      (chunkKey_ne_metaKey plain plain index)),
      value?_of_ne (get?_setNew_of_ne
        (chunkKey_ne_indexKey plain plain index))]
    exact none _ (by rw [keyTag_chunkKey plain])

end Begin

/-! ## Chunks -/

section Chunks

variable {P : Platform} {relay : RedisRelay} {latest now : Rat} {db : RedisDatabase} {id : String}
  {transfer : Transfer} {fields : Dict String Bytes} {field : String} {value index : Int}
  {chunk : Bytes}

theorem intField_of_text (found : fields.get? field = some (utf8 (toString value)))
    (short : (Nat.toDigits 10 value.natAbs).length ≤ 4300) :
    RedisRelay.intField fields field = .ok value := by
  have read : readIntBytes? (utf8 (toString value)) = some value := readInt?_ascii short
  rw [RedisRelay.intField, found]
  dsimp only
  rw [read]

theorem intFieldOr_of_text {default : Int}
    (found : fields.get? field = some (utf8 (toString value)))
    (short : (Nat.toDigits 10 value.natAbs).length ≤ 4300) :
    RedisRelay.intFieldOr fields field default = .ok value := by
  rw [RedisRelay.intFieldOr, if_pos (mem_keys_of_get? found), intField_of_text found short]

theorem lookup_of_absent (absent : db.value? (indexKey id) = none) :
    lookup db id = .error (.envelopeError "unknown transfer") := by
  unfold lookup
  rw [get_of_absent absent]
  rfl

def chunkIn (relay : RedisRelay) (db : RedisDatabase) (id : String) (transfer : Transfer)
    (index : Int) (chunk : Bytes) (now : Rat) : RedisDatabase :=
  let base := base transfer.announced.roomId transfer.announced.runId id
  let db := db.setNew (chunkKey base index) chunk (relay.deadline now)
  let db := db.hset (metaKey base)
    [("received_bytes", utf8 (toString ((transfer.receivedBytes : Int) + chunk.length)))]
  let db := db.expire (metaKey base) (relay.deadline now)
  db.expire (indexKey id) (relay.deadline now)

theorem putChunkBody_pending (pending : PendingAt relay latest db id transfer) :
    relay.putChunkBody P id index chunk now db = (do
      raiseIf (index < 0 ∨ transfer.announced.totalChunks ≤ index)
        (.envelopeError "chunk index out of range")
      raiseIf (relay.maxChunkBytes < chunk.length) (.envelopeError "chunk exceeds size limit")
      match transfer.chunks.get? index with
      | some old => do
          raiseIf (P.sha256 old ≠ P.sha256 chunk)
            (.transferConflictError "conflicting duplicate chunk")
          .ok ((), db)
      | none => do
          raiseIf ((relay.maxTransferBytes : Int) < transfer.receivedBytes + chunk.length)
            (.envelopeError "transfer exceeds size limit")
          .ok ((), chunkIn relay db id transfer index chunk now)) := by
  obtain ⟨front, back, found, sameBase, _⟩ :=
    lookup_of_index pending.index pending.named.roomAscii pending.named.runAscii
  obtain ⟨fields, created, about, describes, _⟩ := pending.about
  have total := intField_of_text describes.total (short_of_lt (by
    have counted := pending.counted
    omega))
  have received := @intFieldOr_of_text fields "received_bytes" _ 0 describes.received (short_of_lt (by
    have small := pending.small.2
    rw [Int.natAbs_natCast]
    exact small.trans_lt (by decide)))
  have uploading : ¬ (fields.keys = [] ∨ fields.get? "status" ≠ some (utf8 "uploading")) :=
    not_or.mpr ⟨mem_keys_describes describes, not_not.mpr describes.status⟩
  unfold RedisRelay.putChunkBody
  rw [found]
  dsimp only [bind, Except.bind]
  rw [sameBase, hgetall_of_value? about]
  dsimp only
  rw [raiseIf, if_neg uploading]
  dsimp only
  rw [total]
  dsimp only
  rw [get_of_map (pending.chunks index)]
  cases transfer.chunks.get? index with
  | some old => rfl
  | none =>
    dsimp only
    rw [received]
    rfl

theorem agreesOn_chunkIn {other : String} (plain : Plain id) (different : other ≠ id) :
    AgreesOn other db (chunkIn relay db id transfer index chunk now) := by
  intro key tag
  have notIndex : key ≠ indexKey id := ne_of_tag tag different (keyTag_indexKey plain)
  have notMeta : key ≠ metaKey (base transfer.announced.roomId transfer.announced.runId id) :=
    ne_of_tag tag different (keyTag_metaKey plain)
  have notChunk : key ≠ chunkKey (base transfer.announced.roomId transfer.announced.runId id) index :=
    ne_of_tag tag different (keyTag_chunkKey plain index)
  unfold chunkIn
  dsimp only
  rw [get?_expire_of_ne notIndex, get?_expire_of_ne notMeta,
    get?_hset_of_ne notMeta, get?_setNew_of_ne notChunk]

theorem Describes.count {announced : Announcement} {received count : Nat} {status created : String}
    (describes : Describes fields announced received status created) :
    Describes (fields.set "received_bytes" (utf8 (toString ((received : Int) + count)))) announced
      (received + count) status created where
  status := (get?_set_of_ne (by decide)).trans describes.status
  total := (get?_set_of_ne (by decide)).trans describes.total
  received := by
    rw [get?_set_self, Int.natCast_add]
  worker := (get?_set_of_ne (by decide)).trans describes.worker
  target := (get?_set_of_ne (by decide)).trans describes.target
  round := (get?_set_of_ne (by decide)).trans describes.round
  created := (get?_set_of_ne (by decide)).trans describes.created

theorem pendingAt_chunkIn (plain : Plain id) (pending : PendingAt relay latest db id transfer)
    (new : transfer.chunks.get? index = none)
    (small : transfer.receivedBytes + chunk.length ≤ relay.maxTransferBytes ∧
      transfer.receivedBytes + chunk.length ≤ maxPayloadBytes) :
    PendingAt relay latest (chunkIn relay db id transfer index chunk now) id
      (transfer.withChunk P index chunk) := by
  obtain ⟨fields, created, about, describes, before, reads⟩ := pending.about
  let under := base transfer.announced.roomId transfer.announced.runId id
  have chunkMeta : ∀ other, chunkKey under other ≠ metaKey under :=
    fun other => chunkKey_ne_metaKey plain plain other
  have chunkIndex : ∀ other, chunkKey under other ≠ indexKey id :=
    fun other => chunkKey_ne_indexKey plain plain other
  have metaIndex : indexKey id ≠ metaKey under := indexKey_ne_metaKey plain plain
  constructor
  case named => exact pending.named
  case counted => exact pending.counted
  case small => exact small
  case index =>
    unfold chunkIn
    dsimp only
    rw [value?_expire, value?_expire,
      value?_of_ne (get?_hset_of_ne metaIndex),
      value?_of_ne (get?_setNew_of_ne (chunkIndex index).symm)]
    exact pending.index
  case about =>
    refine ⟨_, created, ?_, describes.count, before, reads⟩
    have kept : (db.setNew (chunkKey under index) chunk (relay.deadline now)).value? (metaKey under) =
        some (.hash fields) := by
      rw [value?_of_ne (get?_setNew_of_ne (chunkMeta index).symm)]
      exact about
    unfold chunkIn
    dsimp only
    rw [value?_expire, value?_expire]
    exact value?_hset kept
  case chunks =>
    intro other
    change (chunkIn relay db id transfer index chunk now).value? (chunkKey under other) =
      ((transfer.chunks.set index chunk).get? other).map .string
    unfold chunkIn
    dsimp only
    rw [value?_expire, value?_expire, value?_of_ne (get?_hset_of_ne (chunkMeta other))]
    rcases eq_or_ne other index with rfl | different
    · have absent := pending.chunks other
      rw [new] at absent
      rw [get?_set_self]
      exact value?_setNew absent
    · rw [get?_set_of_ne different, value?_of_ne
        (get?_setNew_of_ne (chunkKey_ne_chunkKey plain different))]
      exact pending.chunks other

theorem putChunkBody_other {both : BothStores} (own : MirrorsAt P relay both id) (plain : Plain id)
    (other : both.memory.transfers.get? id = none) (result : Unit × RedisDatabase) :
    relay.putChunkBody P id index chunk now both.redis ≠ .ok result := by
  intro accepted
  unfold RedisRelay.putChunkBody at accepted
  cases completed : both.memory.completed.get? id with
  | none =>
    have absent := own.unknown completed other (indexKey id) (by rw [keyTag_indexKey plain])
    rw [lookup_of_absent (Option.map_eq_none_iff.mpr absent)] at accepted
    cases accepted
  | some done =>
    obtain ⟨room, run, fields, encoded, holds⟩ := own.completed done completed
    obtain ⟨front, back, found, _, same, _⟩ :=
      lookup_of_index holds.index holds.roomAscii holds.runAscii
    obtain ⟨rfl, rfl⟩ := same holds.plain
    rw [found] at accepted
    dsimp only [bind, Except.bind] at accepted
    rw [hgetall_of_value? holds.about] at accepted
    dsimp only at accepted
    have closed : fields.keys = [] ∨ fields.get? "status" ≠ some (utf8 "uploading") := by
      apply Or.inr
      rw [holds.status]
      decide
    rw [raiseIf, if_pos closed] at accepted
    cases accepted

end Chunks

/-! ## Completion -/

def Transfer.inOrder (transfer : Transfer) : Bytes :=
  ((List.range transfer.announced.totalChunks.toNat).map (fun index : Nat =>
    (transfer.chunks.get? index).getD [])).flatten

/-- No chunk of the transfer is missing. -/
def Transfer.Whole (transfer : Transfer) : Prop :=
  ∀ index : Nat, index < transfer.announced.totalChunks.toNat ->
    (transfer.chunks.get? index).isSome = true

section Joined

variable {P : Platform} {limits : RelayLimits} {transfer : Transfer}

def Transfer.places (transfer : Transfer) : List Int :=
  (List.range transfer.announced.totalChunks.toNat).map (fun index : Nat => (index : Int))

theorem nodup_places : transfer.places.Nodup :=
  List.nodup_range.map (fun _ _ same => Int.ofNat.inj same)

theorem keys_subset_places (sound : transfer.Sound P limits) : transfer.chunks.keys ⊆ transfer.places := by
  intro index member
  obtain ⟨nonneg, below⟩ := sound.indices index member
  apply List.mem_map.mpr
  exact ⟨index.toNat, List.mem_range.mpr (by omega), Int.toNat_of_nonneg nonneg⟩

theorem places_subset_keys (whole : transfer.Whole) : transfer.places ⊆ transfer.chunks.keys := by
  intro place member
  obtain ⟨index, inside, rfl⟩ := List.mem_map.mp member
  obtain ⟨chunk, found⟩ := Option.isSome_iff_exists.mp (whole index (List.mem_range.mp inside))
  exact mem_keys_of_get? found

theorem length_places : transfer.places.length = transfer.announced.totalChunks.toNat := by
  rw [Transfer.places, List.length_map, List.length_range]

theorem whole_iff_count (sound : transfer.Sound P limits) (counted : 1 ≤ transfer.announced.totalChunks) :
    transfer.Whole ↔ (transfer.chunks.keys.length : Int) = transfer.announced.totalChunks := by
  have total : ((transfer.announced.totalChunks.toNat : Nat) : Int) = transfer.announced.totalChunks :=
    Int.toNat_of_nonneg (by omega)
  have few := (List.subperm_of_subset transfer.chunks.nodup (keys_subset_places sound)).length_le
  rw [length_places] at few
  constructor
  · intro whole
    have many := (List.subperm_of_subset nodup_places (places_subset_keys whole)).length_le
    rw [length_places] at many
    omega
  · intro count index below
    have same : transfer.chunks.keys.Perm transfer.places := by
      apply (List.subperm_of_subset transfer.chunks.nodup (keys_subset_places sound)).perm_of_length_le
      rw [length_places]
      omega
    have member : (index : Int) ∈ transfer.chunks.keys :=
      same.mem_iff.mpr (List.mem_map.mpr ⟨index, List.mem_range.mpr below, rfl⟩)
    obtain ⟨chunk, found⟩ := exists_get?_of_mem member
    rw [found]
    rfl

theorem joined_of_whole (whole : transfer.Whole) : transfer.joined = .ok transfer.inOrder := by
  have pieces : ∀ indices : List Nat,
      (∀ index, index ∈ indices -> (transfer.chunks.get? (index : Int)).isSome = true) ->
      indices.mapM (fun index : Nat =>
        match transfer.chunks.get? index with
        | some chunk => (.ok chunk : Except TrainingError Bytes)
        | none => .error (.keyError (toString index))) =
      .ok (indices.map (fun index : Nat => (transfer.chunks.get? index).getD [])) := by
    intro indices
    induction indices with
    | nil => exact fun _ => rfl
    | cons index rest ih =>
      intro here
      obtain ⟨chunk, found⟩ := Option.isSome_iff_exists.mp (here index List.mem_cons_self)
      rw [List.mapM_cons, ih (fun other member => here other (List.mem_cons_of_mem _ member)), found,
        List.map_cons, found]
      rfl
  rw [Transfer.joined]
  refine bind_eq_ok.mpr ⟨_, pieces _ (fun index member => whole index (List.mem_range.mp member)), rfl⟩

theorem length_inOrder (sound : transfer.Sound P limits) (whole : transfer.Whole) :
    transfer.inOrder.length = transfer.receivedBytes := by
  have same : transfer.places.Perm transfer.chunks.keys :=
    (List.perm_ext_iff_of_nodup nodup_places transfer.chunks.nodup).mpr (fun place =>
      ⟨fun member => places_subset_keys whole member, fun member => keys_subset_places sound member⟩)
  rw [sound.received, Transfer.storedBytes, ← (same.map _).sum_eq, Transfer.inOrder,
    List.length_flatten, List.map_map, Transfer.places, List.map_map]
  rfl

end Joined

section Decoding

variable {P : Platform} {data : Bytes} {scope : Scope} {limit other : Nat} {envelope : BinaryEnvelope}

theorem decode_limit (small : data.length ≤ other)
    (decoded : BinaryEnvelope.decode P data scope limit = .ok envelope) :
    BinaryEnvelope.decode P data scope other = .ok envelope := by
  simp only [BinaryEnvelope.decode, bind_eq_ok] at decoded ⊢
  rcases decoded with ⟨header, validated, rest⟩
  refine ⟨header, ?_, rest⟩
  rw [validatedHeader_eq_ok] at validated ⊢
  obtain ⟨long, isHeader, isMagic, version, _, timestamp, count, shapes, metadata, length⟩ := validated
  exact ⟨long, isHeader, isMagic, version, by omega, timestamp, count, shapes, metadata, length⟩

theorem decode_room_run (decoded : BinaryEnvelope.decode P data scope limit = .ok envelope) :
    BinaryEnvelope.decode P data { roomId := scope.roomId, runId := scope.runId } limit =
      .ok envelope := by
  apply decode_in_scope (decode_anywhere decoded)
  simp only [BinaryEnvelope.decode, bind_eq_ok] at decoded
  rcases decoded with ⟨header, _, body, _, _, inside, same⟩
  obtain rfl := Except.ok.inj same
  simp only [verifyScope, bind_eq_ok, raiseIf_eq_ok] at inside ⊢
  obtain ⟨_, room, _, run, _⟩ := inside
  exact ⟨(), room, (), run, (), by rintro ⟨⟩, by rintro ⟨⟩⟩

theorem decode_plain (colonFree : ∀ id, Plain (P.strOfUuid id))
    (decoded : BinaryEnvelope.decode P data scope limit = .ok envelope) :
    (∀ room, scope.roomId = some room -> Plain room) ∧
      ∀ run, scope.runId = some run -> Plain run := by
  simp only [BinaryEnvelope.decode, bind_eq_ok] at decoded
  rcases decoded with ⟨header, _, body, _, _, inside, same⟩
  simp only [verifyScope, bind_eq_ok, raiseIf_eq_ok] at inside
  obtain ⟨_, room, _, run, _⟩ := inside
  constructor
  · intro text isRoom
    rw [isRoom, Option.any_some, decide_eq_true_iff, not_not] at room
    rw [room]
    exact colonFree _
  · intro text isRun
    rw [isRun, Option.any_some, decide_eq_true_iff, not_not] at run
    rw [run]
    exact colonFree _

end Decoding

section Complete

variable {P : Platform} {relay : RedisRelay} {latest now : Rat} {db : RedisDatabase} {id : String}
  {transfer : Transfer} {limits : RelayLimits} {fields : Dict String Bytes} {created : String}

theorem textField_of_text {field text : String} (found : fields.get? field = some (utf8 text)) :
    RedisRelay.textField fields field = .ok text := by
  rw [RedisRelay.textField, found, Option.getD_some, ofUtf8?_utf8]

theorem name_of_text {name : Option String} (named : name ≠ some "") :
    (if name.getD "" = "" then none else some (name.getD "")) = name := by
  cases name with
  | none => rfl
  | some text => exact if_neg (fun empty => named (congrArg some empty))

theorem round_of_text {round : Option Int} (nonneg : ∀ value, round = some value -> 0 ≤ value) :
    (if 0 ≤ round.getD (-1) then some (round.getD (-1)) else none) = round := by
  cases round with
  | none => rfl
  | some value => exact if_pos (nonneg value rfl)

/-- The scope that Redis decodes a transfer in, once its room and run are found. -/
def foundScope (announced : Announcement) (front back : String) : Scope where
  roomId := some front
  runId := some back
  workerId := announced.workerId
  round := announced.roundNumber

theorem gathered_eq_ok {front back under : String} {encoded : Bytes} {scope : Scope}
    (named : transfer.announced.Named) (sound : transfer.Sound P limits)
    (counted : 1 ≤ transfer.announced.totalChunks ∧ transfer.announced.totalChunks ≤ 65536)
    (small : transfer.receivedBytes ≤ relay.maxTransferBytes)
    (describes : Describes fields transfer.announced transfer.receivedBytes "uploading" created)
    (chunks : ∀ index, db.value? (chunkKey under index) = (transfer.chunks.get? index).map .string)
     :
    relay.gathered db front back under fields = .ok (encoded, scope) ↔
      transfer.Whole ∧ encoded = transfer.inOrder ∧ scope = foundScope transfer.announced front back := by
  have total := intField_of_text describes.total (short_of_lt (by omega))
  have round := @intFieldOr_of_text fields "round" _ (-1) describes.round (by
    cases isRound : transfer.announced.roundNumber with
    | none => exact short_of_lt (by decide)
    | some round => exact (named.round round isRound).2)
  have worker := textField_of_text describes.worker
  have read : (List.range transfer.announced.totalChunks.toNat).map
      (fun index : Nat => db.mget (chunkKey under index)) =
      (List.range transfer.announced.totalChunks.toNat).map
        (fun index : Nat => transfer.chunks.get? (index : Int)) := by
    apply List.map_congr_left
    intro index _
    exact mget_of_map (chunks index)
  have missing : ((List.range transfer.announced.totalChunks.toNat).map
      (fun index : Nat => transfer.chunks.get? (index : Int))).any (fun chunk => chunk = none) = true ↔
      ¬ transfer.Whole := by
    unfold Transfer.Whole
    simp [Option.isSome_iff_ne_none]
  have joined : transfer.Whole -> (((List.range transfer.announced.totalChunks.toNat).map
      (fun index : Nat => transfer.chunks.get? (index : Int))).filterMap id).flatten =
      transfer.inOrder := by
    intro whole
    rw [Transfer.inOrder, List.filterMap_map]
    congr 1
    rw [← List.filterMap_eq_map]
    apply List.filterMap_congr
    intro index member
    obtain ⟨chunk, found⟩ := Option.isSome_iff_exists.mp (whole index (List.mem_range.mp member))
    simp only [Function.comp_apply, id_eq, found, Option.getD_some]
  unfold RedisRelay.gathered
  rw [total]
  simp only [bind_eq_ok, raiseIf_eq_ok, worker, round, Except.ok.injEq, exists_eq_left', exists_const,
    read, missing, not_not, name_of_text named.worker,
    round_of_text (fun value isRound => (named.round value isRound).1), Prod.mk.injEq]
  constructor
  · rintro ⟨whole, _, isJoined, isScope⟩
    exact ⟨whole, isJoined.symm.trans (joined whole), isScope.symm⟩
  · rintro ⟨whole, rfl, rfl⟩
    refine ⟨whole, ?_, joined whole, rfl⟩
    rw [joined whole, length_inOrder sound whole]
    exact not_lt.mpr small

def completedIn (relay : RedisRelay) (db : RedisDatabase) (id : String) (transfer : Transfer)
    (now : Rat) : RedisDatabase :=
  let base := base transfer.announced.roomId transfer.announced.runId id
  ((db.setString (payloadKey base) transfer.inOrder (relay.deadline now)).hset (metaKey base)
    [("status", utf8 "completed")]).expire (metaKey base) (relay.deadline now)

theorem completeBody_pending (colonFree : ∀ id, Plain (P.strOfUuid id))
    (sound : transfer.Sound P limits) (pending : PendingAt relay latest db id transfer)
    {envelope : BinaryEnvelope} {after : RedisDatabase} :
    relay.completeBody P id now db = .ok (envelope, after) ↔
      transfer.Whole ∧
        BinaryEnvelope.decode P transfer.inOrder transfer.announced.scope = .ok envelope ∧
        after = completedIn relay db id transfer now := by
  obtain ⟨front, back, found, sameBase, simple, split⟩ :=
    lookup_of_index pending.index pending.named.roomAscii pending.named.runAscii
  obtain ⟨fields, created, about, describes, _⟩ := pending.about
  have read := hgetall_of_value? about
  have uploading : fields.get? "status" ≠ some (utf8 "completed") := by
    rw [describes.status]
    decide
  have gathered : ∀ encoded scope, relay.gathered db front back (base front back id) fields =
      .ok (encoded, scope) ↔ transfer.Whole ∧ encoded = transfer.inOrder ∧
        scope = foundScope transfer.announced front back := by
    intro encoded scope
    rw [sameBase]
    exact gathered_eq_ok pending.named sound pending.counted pending.small.1 describes pending.chunks
  have sameScope : Plain transfer.announced.roomId ->
      foundScope transfer.announced front back = transfer.announced.scope := by
    intro plain
    obtain ⟨rfl, rfl⟩ := simple plain
    rfl
  rw [completeBody_eq_ok]
  constructor
  · rintro (⟨room, run, other, known, isFields, _, done, _⟩ |
      ⟨room, run, encoded, ⟨known, other, scope, isFields, _, _, gathers, decoded⟩, rfl⟩)
    · obtain ⟨rfl, rfl⟩ := Prod.mk.inj (Except.ok.inj (known.symm.trans found))
      rw [sameBase] at isFields
      obtain rfl := Except.ok.inj (isFields.symm.trans read)
      exact absurd done uploading
    · obtain ⟨rfl, rfl⟩ := Prod.mk.inj (Except.ok.inj (known.symm.trans found))
      rw [sameBase] at isFields
      obtain rfl := Except.ok.inj (isFields.symm.trans read)
      obtain ⟨whole, rfl, rfl⟩ := (gathered encoded scope).mp gathers
      have plain : Plain transfer.announced.roomId := by
        by_contra colon
        exact split colon ((decode_plain colonFree decoded).2 run rfl)
      rw [sameScope plain] at decoded
      refine ⟨whole, decode_limit ?_ decoded, ?_⟩
      · rw [length_inOrder sound whole]
        exact pending.small.2
      · rw [completedIn, sameBase]
  · rintro ⟨whole, decoded, rfl⟩
    have plain := (decode_plain colonFree decoded).1 transfer.announced.roomId rfl
    refine Or.inr ⟨front, back, transfer.inOrder, ⟨found, fields,
      foundScope transfer.announced front back, ?_, mem_keys_describes describes, uploading,
      (gathered _ _).mpr ⟨whole, rfl, rfl⟩, ?_⟩, ?_⟩
    · rw [sameBase]
      exact read
    · rw [sameScope plain]
      apply decode_limit _ decoded
      rw [length_inOrder sound whole]
      exact pending.small.1
    · rw [completedIn, sameBase]

theorem agreesOn_completedIn {other : String} (plain : Plain id) (different : other ≠ id) :
    AgreesOn other db (completedIn relay db id transfer now) := by
  intro key tag
  have notMeta : key ≠ metaKey (base transfer.announced.roomId transfer.announced.runId id) :=
    ne_of_tag tag different (keyTag_metaKey plain)
  have notPayload : key ≠ payloadKey (base transfer.announced.roomId transfer.announced.runId id) :=
    ne_of_tag tag different (keyTag_payloadKey plain)
  unfold completedIn
  dsimp only
  rw [get?_expire_of_ne notMeta, get?_hset_of_ne notMeta, get?_setString_of_ne notPayload]

theorem completedAt_completedIn (plain : Plain id) (pending : PendingAt relay latest db id transfer)
    (roomPlain : Plain transfer.announced.roomId) {envelope : BinaryEnvelope} {completedAt : Rat}
    (decoded : BinaryEnvelope.decode P transfer.inOrder transfer.announced.scope = .ok envelope) :
    ∃ fields, CompletedAt P (completedIn relay db id transfer now) id
      ⟨envelope, transfer.announced.targetWorkerId, completedAt⟩ transfer.announced.roomId
      transfer.announced.runId fields transfer.inOrder := by
  obtain ⟨fields, created, about, describes, _⟩ := pending.about
  let under := base transfer.announced.roomId transfer.announced.runId id
  have metaPayload : metaKey under ≠ payloadKey under :=
    (payloadKey_ne_metaKey plain plain).symm
  have indexMeta : indexKey id ≠ metaKey under := indexKey_ne_metaKey plain plain
  have indexPayload : indexKey id ≠ payloadKey under :=
    (payloadKey_ne_indexKey plain plain).symm
  refine ⟨fields.set "status" (utf8 "completed"), ?_⟩
  constructor
  case plain => exact roomPlain
  case roomAscii => exact pending.named.roomAscii
  case runAscii => exact pending.named.runAscii
  case index =>
    unfold completedIn
    dsimp only
    rw [value?_expire, value?_of_ne (get?_hset_of_ne indexMeta),
      value?_of_ne (get?_setString_of_ne indexPayload)]
    exact pending.index
  case about =>
    unfold completedIn
    dsimp only
    rw [value?_expire]
    apply value?_hset
    rw [value?_of_ne (get?_setString_of_ne metaPayload)]
    exact about
  case status => exact get?_set_self
  case target => exact (get?_set_of_ne (by decide)).trans describes.target
  case named => exact pending.named.target
  case payload =>
    unfold completedIn
    dsimp only
    rw [value?_expire, value?_of_ne (get?_hset_of_ne metaPayload.symm)]
    exact value?_setString
  case decoded => exact decode_room_run decoded

end Complete

end Training
end ZepGpu
