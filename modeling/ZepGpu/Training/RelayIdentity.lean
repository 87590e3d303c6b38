import ZepGpu.Foundation.Runs
import ZepGpu.Training.RedisCommands
import ZepGpu.Training.RedisKeys
import ZepGpu.Training.RelayDelivery

namespace ZepGpu
namespace Training

open Foundation Dict RedisDatabase List
open Reference

/-!
# The identifier of a transfer, outside and inside

A transfer is announced under an identifier, and the header of the uploaded
bytes names one as well.  Room, run, worker and round of the two are compared
when the transfer is completed, the identifiers are not.  What is returned
under an identifier carries it when all bytes that were completed did.
-/

/-- The identifier in the header of an encoded envelope. -/
def transferText (P : Platform) (encoded : Bytes) : String :=
  uuidText P (headerCodec.decode (encoded.take headerCodec.width)).transfer

theorem transferId_of_decode {P : Platform} {encoded : Bytes} {scope : Scope} {limit : Nat}
    {envelope : BinaryEnvelope}
    (decoded : BinaryEnvelope.decode P encoded scope limit = .ok envelope) :
    envelope.transferId = transferText P encoded := by
  simp only [BinaryEnvelope.decode, bind_eq_ok] at decoded
  rcases decoded with ⟨header, validated, body, _, _, _, same⟩
  have isHeader : header = headerCodec.decode (encoded.take headerCodec.width) :=
    (validatedHeader_eq_ok.mp validated).2.1
  rw [← Except.ok.inj same, transferText, ← isHeader]
  rfl

/-! ## In memory -/

namespace BinaryRelayStore

variable {P : Platform} {store : BinaryRelayStore}

/-- Whatever is returned for a transfer id is the envelope of that id. -/
def ReturnsOwn (P : Platform) (store : BinaryRelayStore) : RelayCall -> Prop
  | .complete id completedAt => ∀ envelope,
      (store.complete P id completedAt).result = .ok envelope -> envelope.transferId = id
  | .receive id target => ∀ envelope,
      store.receive id target = .ok envelope -> envelope.transferId = id
  | _ => True

/-- Where a call completes a transfer, the header of its bytes names the transfer. -/
def FinishesOwn (P : Platform) (store : BinaryRelayStore) : RelayCall -> Prop
  | .complete id _ => ∀ transfer encoded envelope,
      (transfer.chunks.keys.length : Int) = transfer.announced.totalChunks ->
      Completes P store id transfer encoded envelope -> transferText P encoded = id
  | _ => True

/-- Every completed transfer is the envelope of its own id. -/
def KeepsOwn (store : BinaryRelayStore) : Prop :=
  ∀ id done, store.completed.get? id = some done -> done.envelope.transferId = id

theorem complete_result {id : String} {completedAt : Rat} {envelope : BinaryEnvelope}
    (fresh : id ∉ store.completed.keys) :
    (store.complete P id completedAt).result = .ok envelope ↔
      ∃ transfer encoded, (transfer.chunks.keys.length : Int) = transfer.announced.totalChunks ∧
        Completes P store id transfer encoded envelope := by
  rw [complete, get?_eq_none_iff.mpr fresh]
  constructor
  · intro returned
    cases isPending : store.transfers.get? id with
    | none =>
      rw [isPending] at returned
      cases returned
    | some transfer =>
      rw [isPending] at returned
      dsimp only at returned
      split_ifs at returned with missing
      cases joined : transfer.joined with
      | error error =>
        rw [joined] at returned
        cases returned
      | ok encoded =>
        rw [joined] at returned
        dsimp only at returned
        cases decoded : BinaryEnvelope.decode P encoded transfer.announced.scope with
        | error error =>
          rw [decoded] at returned
          cases returned
        | ok other =>
          rw [decoded] at returned
          obtain rfl := Except.ok.inj returned
          exact ⟨transfer, encoded, not_not.mp missing, isPending, fresh, joined, decoded⟩
  · rintro ⟨transfer, encoded, count, completes⟩
    rw [completes.isPending]
    dsimp only
    rw [if_neg (not_not.mpr count), completes.joined]
    dsimp only
    rw [completes.decoded]

theorem keepsOwn_new (limits : RelayLimits) : KeepsOwn (new limits) := by
  intro id done found
  cases found

theorem KeepsOwn.returns (own : KeepsOwn store) (call : RelayCall)
    (finishes : FinishesOwn P store call) : ReturnsOwn P store call := by
  cases call with
  | complete id completedAt =>
    intro envelope returned
    by_cases member : id ∈ store.completed.keys
    · obtain ⟨done, found⟩ := exists_get?_of_mem member
      rw [complete, found] at returned
      rw [← Except.ok.inj returned]
      exact own id done found
    · obtain ⟨transfer, encoded, count, completes⟩ := (complete_result member).mp returned
      exact (transferId_of_decode completes.decoded).trans (finishes _ _ _ count completes)
  | receive id target =>
    intro envelope returned
    unfold receive at returned
    cases found : store.completed.get? id with
    | none =>
      rw [found] at returned
      cases returned
    | some done =>
      rw [found] at returned
      dsimp only at returned
      split_ifs at returned
      rw [← Except.ok.inj returned]
      exact own id done found
  | begin | putChunk | abort | cleanup => trivial

theorem ReturnsOwn.finishes {call : RelayCall} (own : ReturnsOwn P store call) :
    FinishesOwn P store call := by
  cases call with
  | complete id completedAt =>
    intro transfer encoded envelope count completes
    have named := own envelope ((complete_result completes.fresh).mpr
      ⟨transfer, encoded, count, completes⟩)
    exact (transferId_of_decode completes.decoded).symm.trans named
  | begin | putChunk | receive | abort | cleanup => trivial

theorem RelayStep.keepsOwn {call : RelayCall} {after : BinaryRelayStore}
    (step : RelayStep P store call after) (own : KeepsOwn store)
    (other : ∀ id completedAt, call ≠ .complete id completedAt) : KeepsOwn after := by
  cases step with
  | kept => exact own
  | cleaned _ current => exact fun id done found => own id done (get?_cleaned_completed found)
  | begun => exact fun id done found => own id done (get?_cleaned_completed found)
  | stored => exact own
  | finished => exact absurd rfl (other _ _)
  | aborted => exact fun id done found => own id done (get?_erase_eq_some found).2

theorem KeepsOwn.perform (own : KeepsOwn store) (call : RelayCall)
    (finishes : FinishesOwn P store call) : KeepsOwn (store.perform P call) := by
  have step := step_perform P store call
  cases call with
  | complete id completedAt =>
    have returns := own.returns (.complete id completedAt) finishes
    rw [BinaryRelayStore.perform]
    rcases complete_cases P store id completedAt with ⟨done, found, same⟩ | ⟨error, same⟩ |
      ⟨transfer, encoded, envelope, completes, same⟩
    · rw [same]
      exact own
    · rw [same]
      exact own
    · have named := returns envelope (by rw [same])
      rw [same]
      intro other done found
      rcases eq_or_ne other id with rfl | different
      · rw [← Option.some.inj (get?_set_self.symm.trans found)]
        exact named
      · exact own other done ((get?_set_of_ne different).symm.trans found)
  | begin | putChunk | receive | abort | cleanup =>
    exact step.keepsOwn own (by rintro _ _ ⟨⟩)

theorem returnsOwn_iff (P : Platform) (limits : RelayLimits) (calls : List RelayCall) :
    Meets (perform P) (ReturnsOwn P) (new limits) calls ↔
      Meets (perform P) (FinishesOwn P) (new limits) calls := by
  constructor
  · intro returns
    exact returns.imp (fun _ _ own => own.finishes)
  · intro finishes
    exact finishes.gives (keepsOwn_new limits) (fun _ call own => own.perform call)
      (fun _ call own => own.returns call)

end BinaryRelayStore
/-! ## On Redis -/

namespace RedisRelay

/-- A call of the relay in Redis, with the clocks that it reads. -/
inductive RedisCall where
  | begin (transferId : String) (announced : Announcement) (now clock : Rat)
  | putChunk (transferId : String) (index : Int) (chunk : Bytes) (now : Rat)
  | complete (transferId : String) (now : Rat)
  | receive (transferId targetWorkerId : String) (now : Rat)
  | abort (transferId : String) (now : Rat)
  | cleanup (now current : Rat)

def RedisCall.Plain : RedisCall -> Prop
  | .begin id _ _ _ | .putChunk id _ _ _ | .complete id _ | .receive id _ _ | .abort id _ =>
    RedisRelay.Plain id
  | .cleanup _ _ => True

/-- The database after a call, whether it returned or raised. -/
def perform (P : Platform) (relay : RedisRelay) (db : RedisDatabase) : RedisCall -> RedisDatabase
  | .begin id announced now clock => (relay.begin db id announced now clock).state
  | .putChunk id index chunk now => (relay.putChunk P db id index chunk now).state
  | .complete id now => (relay.complete P db id now).state
  | .receive _ _ now => db.live now
  | .abort id now => (relay.abort db id now).state
  | .cleanup now current => (relay.cleanup db now current).state

variable {P : Platform} {relay : RedisRelay} {db : RedisDatabase}

/-- A transfer that is not completed can be, with these bytes and this envelope. -/
structure Completes (P : Platform) (relay : RedisRelay) (db : RedisDatabase) (id : String)
    (room run : String) (encoded : Bytes) (envelope : BinaryEnvelope) : Prop where
  known : lookup db id = .ok (room, run)
  gathers : ∃ fields scope, db.hgetall (metaKey (base room run id)) = .ok fields ∧
    fields.keys ≠ [] ∧ fields.get? "status" ≠ some (utf8 "completed") ∧
    relay.gathered db room run (base room run id) fields = .ok (encoded, scope) ∧
    BinaryEnvelope.decode P encoded scope relay.maxTransferBytes = .ok envelope

def ReturnsOwn (P : Platform) (relay : RedisRelay) (db : RedisDatabase) : RedisCall -> Prop
  | .complete id now => ∀ envelope,
      (relay.complete P db id now).result = .ok envelope -> envelope.transferId = id
  | .receive id target now => ∀ envelope,
      receive P db id target now = .ok envelope -> envelope.transferId = id
  | _ => True

/-- Where a call completes a transfer, the header of its bytes names the transfer. -/
def FinishesOwn (P : Platform) (relay : RedisRelay) (db : RedisDatabase) : RedisCall -> Prop
  | .complete id now => ∀ room run encoded envelope,
      Completes P relay (db.live now) id room run encoded envelope -> transferText P encoded = id
  | _ => True

/-- Every payload is stored under the identifier in its header. -/
def KeepsOwn (P : Platform) (db : RedisDatabase) : Prop :=
  ∀ room run id encoded, Plain id -> db.mget (payloadKey (base room run id)) = some encoded ->
    transferText P encoded = id

theorem KeepsOwn.of_mget {after : RedisDatabase} (own : KeepsOwn P db)
    (fewer : ∀ room run id encoded, Plain id ->
      after.mget (payloadKey (base room run id)) = some encoded ->
      db.mget (payloadKey (base room run id)) = some encoded) : KeepsOwn P after :=
  fun room run id encoded plain found => own room run id encoded plain (fewer room run id encoded plain found)

theorem completeBody_eq_ok {id : String} {now : Rat} {envelope : BinaryEnvelope}
    {after : RedisDatabase} :
    relay.completeBody P id now db = .ok (envelope, after) ↔
      (∃ room run fields, lookup db id = .ok (room, run) ∧
        db.hgetall (metaKey (base room run id)) = .ok fields ∧ fields.keys ≠ [] ∧
        fields.get? "status" = some (utf8 "completed") ∧
        readPayload P db room run (base room run id) = .ok envelope ∧ after = db) ∨
      ∃ room run encoded, Completes P relay db id room run encoded envelope ∧
        after = (((db.setString (payloadKey (base room run id)) encoded (relay.deadline now)).hset
          (metaKey (base room run id)) [("status", utf8 "completed")]).expire
            (metaKey (base room run id)) (relay.deadline now)) := by
  unfold completeBody
  simp only [bind_eq_ok, raiseIf_eq_ok]
  constructor
  · rintro ⟨⟨room, run⟩, known, fields, found, _, present, rest⟩
    split_ifs at rest with done
    · obtain ⟨other, read, same⟩ := bind_eq_ok.mp rest
      obtain ⟨rfl, rfl⟩ := Prod.mk.inj (Except.ok.inj same)
      exact Or.inl ⟨room, run, fields, known, found, present, done, read, rfl⟩
    · obtain ⟨⟨encoded, scope⟩, gathered, later⟩ := bind_eq_ok.mp rest
      obtain ⟨other, decoded, same⟩ := bind_eq_ok.mp later
      obtain ⟨rfl, rfl⟩ := Prod.mk.inj (Except.ok.inj same)
      exact Or.inr ⟨room, run, encoded,
        ⟨known, fields, scope, found, present, done, gathered, decoded⟩, rfl⟩
  · rintro (⟨room, run, fields, known, found, present, done, read, rfl⟩ |
      ⟨room, run, encoded, ⟨known, fields, scope, found, present, done, gathered, decoded⟩, rfl⟩)
    · refine ⟨(room, run), known, fields, found, (), present, ?_⟩
      rw [if_pos done]
      exact bind_eq_ok.mpr ⟨envelope, read, rfl⟩
    · refine ⟨(room, run), known, fields, found, (), present, ?_⟩
      rw [if_neg done]
      exact bind_eq_ok.mpr ⟨(encoded, scope), gathered, bind_eq_ok.mpr ⟨envelope, decoded, rfl⟩⟩

theorem readPayload_eq_ok {room run under : String} {envelope : BinaryEnvelope} :
    readPayload P db room run under = .ok envelope ↔
      ∃ encoded, db.get (payloadKey under) = .ok (some encoded) ∧
        BinaryEnvelope.decode P encoded { roomId := some room, runId := some run } = .ok envelope := by
  unfold readPayload
  rw [bind_eq_ok]
  constructor
  · rintro ⟨found, read, rest⟩
    cases found with
    | none => cases rest
    | some encoded => exact ⟨encoded, read, rest⟩
  · rintro ⟨encoded, read, decoded⟩
    exact ⟨some encoded, read, decoded⟩

theorem KeepsOwn.readPayload {room run id : String} {envelope : BinaryEnvelope}
    (own : KeepsOwn P db) (plain : Plain id)
    (read : RedisRelay.readPayload P db room run (base room run id) = .ok envelope) :
    envelope.transferId = id := by
  obtain ⟨encoded, found, decoded⟩ := readPayload_eq_ok.mp read
  rw [transferId_of_decode decoded]
  exact own room run id encoded plain (mget_of_get found)

theorem KeepsOwn.live (own : KeepsOwn P db) (now : Rat) : KeepsOwn P (db.live now) :=
  own.of_mget (fun _ _ _ _ _ found => mget_of_filter found)

theorem KeepsOwn.begin (own : KeepsOwn P db) {id : String} (plain : Plain id)
    (announced : Announcement) (now clock : Rat) :
    KeepsOwn P (relay.begin db id announced now clock).state := by
  apply transaction_preserves (own.live now)
  intro _ written committed
  unfold beginBody at committed
  simp only [bind_eq_ok] at committed
  obtain ⟨_, _, scope, _, _, _, existing, _, _, _, rest⟩ := committed
  have live := own.live now
  split_ifs at rest with empty
  · obtain ⟨_, rfl⟩ := Prod.mk.inj (Except.ok.inj rest)
    apply live.of_mget
    intro room run other encoded simple found
    rw [← mget_setNew_of_ne (payloadKey_ne_indexKey simple plain)]
    exact mget_of_hset (mget_of_expire found)
  · obtain ⟨_, _, same⟩ := bind_eq_ok.mp rest
    obtain ⟨_, rfl⟩ := Prod.mk.inj (Except.ok.inj same)
    exact live

theorem KeepsOwn.putChunk (own : KeepsOwn P db) {id : String} (plain : Plain id)
    (index : Int) (chunk : Bytes) (now : Rat) :
    KeepsOwn P (relay.putChunk P db id index chunk now).state := by
  apply transaction_preserves (own.live now)
  intro _ written committed
  unfold putChunkBody at committed
  simp only [bind_eq_ok] at committed
  obtain ⟨⟨room, run⟩, _, fields, _, _, _, total, _, _, _, _, _, existing, _, rest⟩ := committed
  have live := own.live now
  cases existing with
  | some old =>
    obtain ⟨_, _, same⟩ := bind_eq_ok.mp rest
    obtain ⟨_, rfl⟩ := Prod.mk.inj (Except.ok.inj same)
    exact live
  | none =>
    simp only [bind_eq_ok] at rest
    obtain ⟨received, _, _, _, same⟩ := rest
    obtain ⟨_, rfl⟩ := Prod.mk.inj (Except.ok.inj same)
    apply live.of_mget
    intro room' run' other encoded simple found
    rw [← mget_setNew_of_ne (payloadKey_ne_chunkKey simple plain index)]
    exact mget_of_hset (mget_of_expire (mget_of_expire found))

theorem KeepsOwn.complete (own : KeepsOwn P db) {id : String} (plain : Plain id) (now : Rat)
    (finishes : FinishesOwn P relay db (.complete id now)) :
    KeepsOwn P (relay.complete P db id now).state := by
  apply transaction_preserves (own.live now)
  intro envelope written committed
  rcases completeBody_eq_ok.mp committed with ⟨_, _, _, _, _, _, _, _, rfl⟩ |
    ⟨room, run, encoded, completes, rfl⟩
  · exact own.live now
  · intro room' run' other bytes simple found
    have stored := mget_of_hset (mget_of_expire found)
    by_cases same : payloadKey (base room' run' other) = payloadKey (base room run id)
    · rw [same, mget_setString_self] at stored
      have tags := congrArg keyTag same
      rw [keyTag_payloadKey simple, keyTag_payloadKey plain] at tags
      rw [← Option.some.inj stored, String.toList_injective (Prod.mk.inj tags).1]
      exact finishes room run encoded envelope completes
    · rw [mget_setString_of_ne same] at stored
      exact own.live now room' run' other bytes simple stored

theorem mget_of_cleanupStep {current : Rat} {after : RedisDatabase} {key other : String}
    {count : Nat} {data : Bytes} (stepped : relay.cleanupStep current db key = .ok (count, after))
    (found : after.mget other = some data) : db.mget other = some data := by
  have erased : ∀ (room : String), RedisDatabase.mget
      (relay.deleted (db.erase key) (lastPart key) room) other = some data ->
      db.mget other = some data :=
    fun _ kept => mget_of_filter (mget_of_filter kept)
  unfold cleanupStep at stepped
  dsimp only at stepped
  split at stepped
  · obtain ⟨_, rfl⟩ := Prod.mk.inj (Except.ok.inj stepped)
    exact mget_of_filter found
  · cases stepped
  · obtain ⟨fields, _, rest⟩ := bind_eq_ok.mp stepped
    split at rest <;> split_ifs at rest <;> obtain ⟨_, rfl⟩ := Prod.mk.inj (Except.ok.inj rest)
    · exact erased _ found
    · exact found
    · exact erased _ found
    · exact found

theorem KeepsOwn.cleanupLoop (own : KeepsOwn P db) (current : Rat) (keys : List String)
    (count : Nat) : KeepsOwn P (relay.cleanupLoop current keys count db).state := by
  induction keys generalizing db count with
  | nil => exact own
  | cons key rest ih =>
    rw [RedisRelay.cleanupLoop]
    split
    · exact own
    case h_2 more after stepped =>
      exact ih (own.of_mget (fun _ _ _ _ _ found => mget_of_cleanupStep stepped found)) _

theorem KeepsOwn.perform (own : KeepsOwn P db) {call : RedisCall} (plain : call.Plain)
    (finishes : FinishesOwn P relay db call) : KeepsOwn P (perform P relay db call) := by
  cases call with
  | begin id announced now clock => exact own.begin plain announced now clock
  | putChunk id index chunk now => exact own.putChunk plain index chunk now
  | complete id now => exact own.complete plain now finishes
  | receive id target now => exact own.live now
  | abort id now =>
    apply transaction_preserves (own.live now)
    intro _ written committed
    unfold abortBody at committed
    split at committed
    · obtain ⟨_, rfl⟩ := Prod.mk.inj (Except.ok.inj committed)
      exact own.live now
    · cases committed
    · obtain ⟨_, rfl⟩ := Prod.mk.inj (Except.ok.inj committed)
      exact (own.live now).of_mget (fun _ _ _ _ _ found => mget_of_filter found)
  | cleanup now current => exact (own.live now).cleanupLoop current _ 0

theorem KeepsOwn.returns (own : KeepsOwn P db) {call : RedisCall} (plain : call.Plain)
    (finishes : FinishesOwn P relay db call) : ReturnsOwn P relay db call := by
  cases call with
  | complete id now =>
    intro envelope returned
    obtain ⟨written, committed⟩ := transaction_result_eq_ok.mp returned
    rcases completeBody_eq_ok.mp committed with ⟨room, run, _, _, _, _, _, read, _⟩ |
      ⟨room, run, encoded, completes, _⟩
    · exact (own.live now).readPayload plain read
    · obtain ⟨_, _, _, _, _, _, decoded⟩ := completes.gathers
      exact (transferId_of_decode decoded).trans (finishes room run encoded envelope completes)
  | receive id target now =>
    intro envelope returned
    unfold receive at returned
    simp only [bind_eq_ok] at returned
    obtain ⟨⟨room, run⟩, _, _, _, _, _, _, _, _, _, read⟩ := returned
    exact (own.live now).readPayload plain read
  | begin | putChunk | abort | cleanup => trivial

theorem ReturnsOwn.finishes {call : RedisCall} (own : ReturnsOwn P relay db call) :
    FinishesOwn P relay db call := by
  cases call with
  | complete id now =>
    intro room run encoded envelope completes
    have returned : (relay.complete P db id now).result = .ok envelope :=
      transaction_result_eq_ok.mpr ⟨_, completeBody_eq_ok.mpr
        (Or.inr ⟨room, run, encoded, completes, rfl⟩)⟩
    obtain ⟨_, _, _, _, _, _, decoded⟩ := completes.gathers
    exact (transferId_of_decode decoded).symm.trans (own envelope returned)
  | begin | putChunk | receive | abort | cleanup => trivial

theorem returnsOwn_iff (P : Platform) (relay : RedisRelay) (calls : List RedisCall)
    (plain : ∀ call, call ∈ calls -> call.Plain) :
    Meets (perform P relay) (ReturnsOwn P relay) Dict.empty calls ↔
      Meets (perform P relay) (FinishesOwn P relay) Dict.empty calls := by
  constructor
  · intro returns
    exact returns.imp (fun _ _ own => own.finishes)
  · intro finishes
    have empty : KeepsOwn P (Dict.empty : RedisDatabase) := by
      intro room run id encoded _ found
      cases found
    exact (finishes.and_of_forall plain).gives empty
      (fun _ _ own step => own.perform step.2 step.1) (fun _ _ own step => own.returns step.2 step.1)

end RedisRelay
/-- In both stores, a run returns envelopes under their own identifiers exactly
when it completes no transfer with the bytes of another. -/
theorem returned_ids_own_iff (P : Platform) :
    (∀ (limits : RelayLimits) (calls : List BinaryRelayStore.RelayCall),
      Meets (BinaryRelayStore.perform P) (BinaryRelayStore.ReturnsOwn P)
          (BinaryRelayStore.new limits) calls ↔
        Meets (BinaryRelayStore.perform P) (BinaryRelayStore.FinishesOwn P)
          (BinaryRelayStore.new limits) calls) ∧
    ∀ (relay : RedisRelay) (calls : List RedisRelay.RedisCall),
      (∀ call, call ∈ calls -> call.Plain) ->
      (Meets (RedisRelay.perform P relay) (RedisRelay.ReturnsOwn P relay) Dict.empty calls ↔
        Meets (RedisRelay.perform P relay) (RedisRelay.FinishesOwn P relay) Dict.empty calls) :=
  ⟨BinaryRelayStore.returnsOwn_iff P, RedisRelay.returnsOwn_iff P⟩

/-! ## Bytes of another transfer -/

/-- A store of which the clock shows whole seconds and every pattern ends in its
only star. -/
def sampleRelay : RedisRelay where
  maxTransferBytes := 1024
  maxChunkBytes := 512
  ttlSeconds := 300
  one_le_maxTransferBytes := BinaryRelayStore.sampleLimits.one_le_maxTransferBytes
  one_le_maxChunkBytes := BinaryRelayStore.sampleLimits.one_le_maxChunkBytes
  one_le_ttlSeconds := by decide
  reprFloat := fun time => toString time.num ++ ".0"
  floatOfText := fun text => ((splitOnce? ['.'] text.toList).bind (fun split =>
    readInt? split.1)).map (fun seconds => (seconds : Rat))
  globMatches := fun pattern key => pattern.toList.dropLast.isPrefixOf key.toList

def foreignId : String := "44444444-4444-4444-8444-444444444444"

def foreignAnnouncement : Announcement where
  roomId := envelope.roomId
  runId := envelope.runId
  totalChunks := 1

def foreignBytes : Bytes :=
  (envelope.encode platform).toOption.getD []

def foreignCalls : List BinaryRelayStore.RelayCall :=
  [.begin foreignId foreignAnnouncement 0 0, .putChunk foreignId 0 foreignBytes]

/-- One envelope, relayed under an identifier. -/
def relayedAs (id : String) : List RedisRelay.RedisCall :=
  [.begin id foreignAnnouncement 0 0, .putChunk id 0 foreignBytes 1]

def collected (id : String) : List RedisRelay.RedisCall :=
  relayedAs id ++ [.complete id 2, .receive id "" 3]

theorem completed_relayedAs :
    ∀ id, id ∈ [envelope.transferId, foreignId] ->
      (sampleRelay.complete platform ((relayedAs id).foldl
        (RedisRelay.perform platform sampleRelay) Dict.empty) id 2).result =
          .ok envelope := by
  intro id member
  rcases mem_pair.mp member with rfl | rfl
  · exact ok_of_toOption (by decide +kernel)
  · exact ok_of_toOption (by decide +kernel)

theorem received_relayedAs :
    RedisRelay.receive platform (((relayedAs envelope.transferId ++
      [RedisRelay.RedisCall.complete envelope.transferId 2]).foldl
        (RedisRelay.perform platform sampleRelay) Dict.empty))
      envelope.transferId "" 3 = .ok envelope :=
  ok_of_toOption (by decide +kernel)

theorem plain_collected : ∀ id, id ∈ [envelope.transferId, foreignId] ->
    ∀ call, call ∈ collected id -> call.Plain := by
  intro id member call inside
  have plain : RedisRelay.Plain id := by
    rcases mem_pair.mp member with rfl | rfl
    · decide
    · decide
  simp only [collected, relayedAs, cons_append, nil_append, mem_cons,
    not_mem_nil, or_false] at inside
  rcases inside with rfl | rfl | rfl | rfl
  · exact plain
  · exact plain
  · exact plain
  · exact plain

/-- The envelope comes back under its own identifier when it was relayed under it,
and not when it was relayed under another. -/
theorem returned_ids_own_at_samples :
    Meets (RedisRelay.perform platform sampleRelay)
        (RedisRelay.FinishesOwn platform sampleRelay) Dict.empty
        (collected envelope.transferId) ∧
      ¬ Meets (RedisRelay.perform platform sampleRelay)
        (RedisRelay.FinishesOwn platform sampleRelay) Dict.empty (collected foreignId) := by
  constructor
  · apply ((returned_ids_own_iff platform).2 sampleRelay _
      (plain_collected _ (mem_cons_self ..))).mp
    refine ⟨trivial, trivial, ?_, ?_, trivial⟩
    · intro envelope returned
      cases (completed_relayedAs _ (mem_cons_self ..)).symm.trans returned
      rfl
    · intro envelope returned
      cases received_relayedAs.symm.trans returned
      rfl
  · intro finishes
    have member : foreignId ∈ [envelope.transferId, foreignId] :=
      mem_cons_of_mem _ (mem_cons_self ..)
    have returns := ((returned_ids_own_iff platform).2 sampleRelay _
      (plain_collected foreignId member)).mpr finishes
    have own := returns.2.2.1 envelope (completed_relayedAs foreignId member)
    exact absurd own (by decide +kernel)

/-- Both stores complete a transfer with the bytes of another and return its envelope. -/
theorem foreign_envelope_returned :
    ((BinaryRelayStore.runCalls platform (BinaryRelayStore.new BinaryRelayStore.sampleLimits)
        foreignCalls).complete platform foreignId 2).result = .ok envelope ∧
      (sampleRelay.complete platform ((relayedAs foreignId).foldl
        (RedisRelay.perform platform sampleRelay) Dict.empty) foreignId 2).result =
        .ok envelope ∧
      envelope.transferId ≠ foreignId :=
  ⟨ok_of_toOption (by decide +kernel), ok_of_toOption (by decide +kernel), by decide +kernel⟩

end Training
end ZepGpu
