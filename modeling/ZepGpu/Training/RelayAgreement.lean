import ZepGpu.Training.RelayMirror

namespace ZepGpu
namespace Training

open Foundation Dict RedisDatabase
open Reference (platform)
open RedisRelay (Plain keyTag_indexKey indexKey metaKey base lookup)

/-!
# The two relay stores, side by side

Nothing expires, no limit is reached and the wall clock only goes forward.
Then the stores answer alike until a transfer that is being uploaded is
announced once more with the same arguments.  The store in memory takes that for
a repetition; the store on Redis also compares the times of the announcements,
and refuses.
-/

namespace BothStores

variable {P : Platform} {relay : RedisRelay} {both : BothStores} {id : String}

theorem redis_refuses {α : Type} {body : RedisDatabase -> Except TrainingError (α × RedisDatabase)}
    {now : Rat} (unexpired : both.redis.live now = both.redis)
    (never : ∀ result, body both.redis ≠ .ok result) :
    (transaction body (both.redis.live now)).result.toOption = none ∧
      (transaction body (both.redis.live now)).state = both.redis := by
  rw [unexpired]
  exact transaction_rejects (fun value written => never (value, written))

theorem begin_step (mirrors : Mirrors P relay both) {announced : Announcement}
    {cleanedAt createdAt now clock : Rat} (named : Plain id ∧ announced.Named)
    (unlimited : both.Unlimited relay (.begin id announced cleanedAt createdAt now clock)) :
    Mirrors P relay (both.perform P relay (.begin id announced cleanedAt createdAt now clock)) ∧
      (both.SameAnswer P relay (.begin id announced cleanedAt createdAt now clock) ↔
        both.NotRepeated (.begin id announced cleanedAt createdAt now clock)) := by
  obtain ⟨unexpired, clean, capacity, forward, reads⟩ := unlimited
  obtain ⟨plain, named⟩ := named
  have own := mirrors.mirrors id plain
  have sound : BinaryRelayStore.Sound P (both.memory.begin id announced cleanedAt createdAt).state :=
    (BinaryRelayStore.step_begin id announced cleanedAt createdAt).sound mirrors.sound
  -- both refuse and stay as they are
  have refused : ∀ (error : TrainingError),
      both.memory.begin id announced cleanedAt createdAt = ⟨.error error, both.memory⟩ ->
      (∀ result, relay.beginBody id announced now clock both.redis ≠ .ok result) ->
      both.NotRepeated (.begin id announced cleanedAt createdAt now clock) ->
      Mirrors P relay (both.perform P relay (.begin id announced cleanedAt createdAt now clock)) ∧
        (both.SameAnswer P relay (.begin id announced cleanedAt createdAt now clock) ↔
          both.NotRepeated (.begin id announced cleanedAt createdAt now clock)) := by
    intro error memory never fresh
    obtain ⟨answer, state⟩ := redis_refuses unexpired never
    refine ⟨mirrors.wait (by rw [perform, memory]) state forward.le, iff_of_true ?_ fresh⟩
    rw [SameAnswer, memory]
    exact answer.symm
  by_cases counted : announced.totalChunks < 1 ∨ 65536 < announced.totalChunks
  · refine refused (.envelopeError "invalid chunk count") ?_ ?_ ?_
    · rw [BinaryRelayStore.begin, if_pos counted]
    · intro result accepted
      exact (raiseIf_bind_eq_ok.mp accepted).1 counted
    · intro transfer found same
      have before := (own.pending transfer found).counted
      rw [same] at before
      omega
  · cases completed : both.memory.completed.get? id with
    | some done =>
      obtain ⟨room, run, fields, encoded, holds⟩ := own.completed done completed
      have known : fields.keys ≠ [] := by
        intro empty
        have member := mem_keys_of_get? holds.status
        rw [empty] at member
        cases member
      have refuses : ∃ error, both.memory.begin id announced cleanedAt createdAt =
          ⟨.error error, both.memory⟩ := by
        rw [BinaryRelayStore.begin, if_neg counted, completed]
        dsimp only
        split_ifs
        · exact ⟨_, rfl⟩
        · exact ⟨_, rfl⟩
      obtain ⟨error, memory⟩ := refuses
      refine refused error memory ?_ ?_
      · intro result accepted
        exact (beginBody_known holds.index holds.about known accepted).1 holds.status
      · intro transfer found
        exact absurd (mem_keys_of_get? completed) (mirrors.sound.apart id (mem_keys_of_get? found))
    | none =>
      cases pending : both.memory.transfers.get? id with
      | some existing =>
        have holds := own.pending existing pending
        obtain ⟨fields, created, about, describes, before, readsBack⟩ := holds.about
        have never : ∀ result, relay.beginBody id announced now clock both.redis ≠
            .ok result := by
          intro result accepted
          have same := (beginBody_known holds.index about (mem_keys_describes describes)
            accepted).2
          rw [describes.created, Option.getD_some] at same
          have texts := congrArg ofUtf8? same
          rw [ofUtf8?_utf8, ofUtf8?_utf8] at texts
          rw [← Option.some.inj texts, readsBack] at reads
          exact absurd (Option.some.inj reads) (before.trans_lt forward).ne
        by_cases same : existing.announced = announced
        · have memory : both.memory.begin id announced cleanedAt createdAt =
              ⟨.ok (), both.memory⟩ := by
            rw [BinaryRelayStore.begin, if_neg counted, completed, pending]
            exact if_pos same
          obtain ⟨answer, state⟩ := redis_refuses unexpired never
          refine ⟨mirrors.wait (by rw [perform, memory]) state forward.le, iff_of_false ?_ ?_⟩
          · rw [SameAnswer, memory]
            intro accepts
            cases accepts.trans answer
          · exact fun fresh => fresh existing pending same
        · refine refused (.transferConflictError "conflicting duplicate transfer") ?_ never ?_
          · rw [BinaryRelayStore.begin, if_neg counted, completed, pending]
            exact if_neg same
          · intro transfer found
            rw [pending] at found
            rw [← Option.some.inj found]
            exact same
      | none =>
        have space := capacity (get?_eq_none_iff.mp pending) (get?_eq_none_iff.mp completed)
        have memory : both.memory.begin id announced cleanedAt createdAt = ⟨.ok (),
            { both.memory with
              transfers := both.memory.transfers.set id { announced, createdAt } }⟩ := by
          rw [BinaryRelayStore.begin, if_neg counted, completed, pending]
          dsimp only
          rw [clean, if_neg (not_le.mpr space)]
        have range : 1 ≤ announced.totalChunks ∧ announced.totalChunks ≤ 65536 := by omega
        have absent := own.unknown completed pending
        have redis : relay.begin both.redis id announced now clock =
            ⟨.ok (), announcedIn relay both.redis id announced now clock⟩ := by
          rw [RedisRelay.begin, unexpired]
          exact transaction_of_ok (beginBody_fresh plain range absent)
        have next : both.perform P relay (.begin id announced cleanedAt createdAt now clock) = {
            memory := { both.memory with
              transfers := both.memory.transfers.set id { announced, createdAt } }
            redis := announcedIn relay both.redis id announced now clock
            latest := clock } := by
          rw [perform, memory, redis]
        rw [memory] at sound
        refine ⟨?_, iff_of_true ?_ ?_⟩
        · rw [next]
          refine mirrors.update id sound forward.le ?_ ?_ ?_ ?_
          · exact fun other different => get?_set_of_ne different
          · exact fun other different => rfl
          · exact fun other different => agreesOn_announcedIn plain different
          · constructor
            · intro _ nonePending
              cases get?_set_self.symm.trans nonePending
            · intro transfer found
              rw [← Option.some.inj (get?_set_self.symm.trans found)]
              exact pendingAt_begun plain named range absent reads
            · intro done found
              cases completed.symm.trans found
        · rw [SameAnswer, memory, redis]
        · intro transfer found
          cases pending.symm.trans found

theorem putChunk_step (mirrors : Mirrors P relay both) {index : Int} {chunk : Bytes} {now : Rat}
    (plain : Plain id) (unlimited : both.Unlimited relay (.putChunk id index chunk now)) :
    Mirrors P relay (both.perform P relay (.putChunk id index chunk now)) ∧
      both.SameAnswer P relay (.putChunk id index chunk now) := by
  obtain ⟨unexpired, smallMemory, smallRedis, room⟩ := unlimited
  have own := mirrors.mirrors id plain
  have refused : ∀ (error : TrainingError),
      both.memory.putChunk P id index chunk = ⟨.error error, both.memory⟩ ->
      (∀ result, relay.putChunkBody P id index chunk now both.redis ≠ .ok result) ->
      Mirrors P relay (both.perform P relay (.putChunk id index chunk now)) ∧
        both.SameAnswer P relay (.putChunk id index chunk now) := by
    intro error memory never
    obtain ⟨answer, state⟩ := redis_refuses unexpired never
    refine ⟨mirrors.wait (by rw [perform, memory]) state le_rfl, ?_⟩
    rw [SameAnswer, memory]
    exact answer.symm
  cases pending : both.memory.transfers.get? id with
  | none =>
    refine refused (.envelopeError "unknown transfer") ?_ (putChunkBody_other own plain pending)
    rw [BinaryRelayStore.putChunk, pending]
  | some transfer =>
    have holds := own.pending transfer pending
    have body := @putChunkBody_pending P relay _ now _ id transfer index chunk holds
    by_cases outside : index < 0 ∨ transfer.announced.totalChunks ≤ index
    · refine refused (.envelopeError "chunk index out of range") ?_ ?_
      · rw [BinaryRelayStore.putChunk, pending]
        exact if_pos outside
      · intro result accepted
        rw [body] at accepted
        exact (raiseIf_bind_eq_ok.mp accepted).1 outside
    · cases held : transfer.chunks.get? index with
      | some old =>
        have known : index ∈ transfer.chunks.keys := mem_keys_of_get? held
        have fingerprint : transfer.fingerprints.get? index = some (P.sha256 old) := by
          rw [(mirrors.sound.pending id transfer pending).fingerprints index, held]
          rfl
        rw [held] at body
        by_cases differs : P.sha256 old ≠ P.sha256 chunk
        · refine refused (.transferConflictError "conflicting duplicate chunk") ?_ ?_
          · rw [BinaryRelayStore.putChunk, pending]
            dsimp only
            rw [if_neg outside, if_neg (not_lt.mpr smallMemory), if_pos known, fingerprint]
            exact if_pos differs
          · intro result accepted
            rw [body] at accepted
            obtain ⟨_, rest⟩ := raiseIf_bind_eq_ok.mp accepted
            obtain ⟨_, rest⟩ := raiseIf_bind_eq_ok.mp rest
            exact (raiseIf_bind_eq_ok.mp rest).1 differs
        · have memory : both.memory.putChunk P id index chunk = ⟨.ok (), both.memory⟩ := by
            rw [BinaryRelayStore.putChunk, pending]
            dsimp only
            rw [if_neg outside, if_neg (not_lt.mpr smallMemory), if_pos known, fingerprint]
            exact if_neg differs
          have redis : relay.putChunk P both.redis id index chunk now = ⟨.ok (), both.redis⟩ := by
            rw [RedisRelay.putChunk, unexpired]
            apply transaction_of_ok
            rw [body]
            exact raiseIf_bind_eq_ok.mpr ⟨outside, raiseIf_bind_eq_ok.mpr
              ⟨not_lt.mpr smallRedis, raiseIf_bind_eq_ok.mpr ⟨differs, rfl⟩⟩⟩
          refine ⟨mirrors.wait (by rw [perform, memory]) (by rw [perform, redis]) le_rfl, ?_⟩
          rw [SameAnswer, memory, redis]
      | none =>
        have new : index ∉ transfer.chunks.keys := get?_eq_none_iff.mp held
        obtain ⟨fitsMemory, fitsRedis⟩ := room transfer pending new
        have inside := not_or.mp outside
        have memory := @BinaryRelayStore.putChunk_of_new P _ _ _ _ _ pending
          (not_lt.mp inside.1) (not_le.mp inside.2) new smallMemory fitsMemory
        have redis : relay.putChunk P both.redis id index chunk now =
            ⟨.ok (), chunkIn relay both.redis id transfer index chunk now⟩ := by
          rw [RedisRelay.putChunk, unexpired]
          apply transaction_of_ok
          rw [body, held]
          refine raiseIf_bind_eq_ok.mpr ⟨outside, raiseIf_bind_eq_ok.mpr
            ⟨not_lt.mpr smallRedis, raiseIf_bind_eq_ok.mpr ⟨?_, rfl⟩⟩⟩
          have fits := fitsRedis.1
          omega
        have next : both.perform P relay (.putChunk id index chunk now) = { both with
            memory := { both.memory with
              transfers := both.memory.transfers.set id (transfer.withChunk P index chunk) }
            redis := chunkIn relay both.redis id transfer index chunk now } := by
          rw [perform, memory, redis]
        have sound := (BinaryRelayStore.step_putChunk id index chunk).sound mirrors.sound
        rw [memory] at sound
        refine ⟨?_, by rw [SameAnswer, memory, redis]⟩
        rw [next]
        refine mirrors.update id sound (le_refl both.latest) ?_ ?_ ?_ ?_
        · exact fun other different => get?_set_of_ne different
        · exact fun other different => rfl
        · exact fun other different => agreesOn_chunkIn plain different
        · constructor
          · intro _ nonePending
            cases get?_set_self.symm.trans nonePending
          · intro changed found
            rw [← Option.some.inj (get?_set_self.symm.trans found)]
            exact pendingAt_chunkIn plain holds held fitsRedis
          · intro done found
            exact absurd (mem_keys_of_get? found)
              (mirrors.sound.apart id (mem_keys_of_get? pending))

theorem readPayload_completed {db : RedisDatabase} {done : CompletedTransfer} {room run : String}
    {fields : Dict String Bytes} {encoded : Bytes}
    (holds : CompletedAt P db id done room run fields encoded) :
    lookup db id = .ok (room, run) ∧ db.hgetall (metaKey (base room run id)) = .ok fields ∧
      fields.keys ≠ [] ∧ RedisRelay.readPayload P db room run (base room run id) = .ok done.envelope := by
  obtain ⟨front, back, found, _, same, _⟩ :=
    lookup_of_index holds.index holds.roomAscii holds.runAscii
  obtain ⟨rfl, rfl⟩ := same holds.plain
  refine ⟨found, hgetall_of_value? holds.about, ?_, ?_⟩
  · intro empty
    have member := mem_keys_of_get? holds.status
    rw [empty] at member
    cases member
  · exact RedisRelay.readPayload_eq_ok.mpr ⟨encoded, get_of_value? holds.payload,
      holds.decoded⟩

theorem complete_step (colonFree : ∀ id, Plain (P.strOfUuid id)) (mirrors : Mirrors P relay both)
    {completedAt now : Rat} (plain : Plain id)
    (unexpired : both.Unlimited relay (.complete id completedAt now)) :
    Mirrors P relay (both.perform P relay (.complete id completedAt now)) ∧
      both.SameAnswer P relay (.complete id completedAt now) := by
  have own := mirrors.mirrors id plain
  have refused : ∀ (error : TrainingError),
      both.memory.complete P id completedAt = ⟨.error error, both.memory⟩ ->
      (∀ result, relay.completeBody P id now both.redis ≠ .ok result) ->
      Mirrors P relay (both.perform P relay (.complete id completedAt now)) ∧
        both.SameAnswer P relay (.complete id completedAt now) := by
    intro error memory never
    obtain ⟨answer, state⟩ := redis_refuses unexpired never
    refine ⟨mirrors.wait (by rw [perform, memory]) state le_rfl, ?_⟩
    rw [SameAnswer, memory]
    exact answer.symm
  cases completed : both.memory.completed.get? id with
  | some done =>
    obtain ⟨room, run, fields, encoded, holds⟩ := own.completed done completed
    obtain ⟨found, about, filled, read⟩ := readPayload_completed holds
    have memory : both.memory.complete P id completedAt = ⟨.ok done.envelope, both.memory⟩ := by
      rw [BinaryRelayStore.complete, completed]
    have redis : relay.complete P both.redis id now = ⟨.ok done.envelope, both.redis⟩ := by
      rw [RedisRelay.complete, unexpired]
      exact transaction_of_ok (RedisRelay.completeBody_eq_ok.mpr
        (Or.inl ⟨room, run, fields, found, about, filled, holds.status, read, rfl⟩))
    refine ⟨mirrors.wait (by rw [perform, memory]) (by rw [perform, redis]) le_rfl, ?_⟩
    rw [SameAnswer, memory, redis]
  | none =>
    have fresh := get?_eq_none_iff.mp completed
    cases pending : both.memory.transfers.get? id with
    | none =>
      refine refused (.envelopeError "unknown transfer") ?_ ?_
      · rw [BinaryRelayStore.complete, completed, pending]
      · intro result accepted
        have absent := own.unknown completed pending (indexKey id) (by rw [keyTag_indexKey plain])
        unfold RedisRelay.completeBody at accepted
        rw [lookup_of_absent (Option.map_eq_none_iff.mpr absent)] at accepted
        cases accepted
    | some transfer =>
      have holds := own.pending transfer pending
      have sound := mirrors.sound.pending id transfer pending
      have body := fun envelope after => @completeBody_pending P relay both.latest now both.redis id
        transfer _ colonFree sound holds envelope after
      by_cases whole : transfer.Whole
      · have count := (whole_iff_count sound holds.counted.1).mp whole
        have joined := joined_of_whole whole
        cases decoded : BinaryEnvelope.decode P transfer.inOrder transfer.announced.scope with
        | error error =>
          refine refused error ?_ ?_
          · rw [BinaryRelayStore.complete, completed, pending]
            dsimp only
            rw [if_neg (not_not.mpr count), joined]
            dsimp only
            rw [decoded]
          · rintro ⟨envelope, after⟩ accepted
            have accepts := ((body envelope after).mp accepted).2.1
            rw [decoded] at accepts
            cases accepts
        | ok envelope =>
          have memory : both.memory.complete P id completedAt =
              ⟨.ok envelope, both.memory.finish id transfer envelope completedAt⟩ := by
            rw [BinaryRelayStore.complete, completed, pending]
            dsimp only
            rw [if_neg (not_not.mpr count), joined]
            dsimp only
            rw [decoded]
          have redis : relay.complete P both.redis id now =
              ⟨.ok envelope, completedIn relay both.redis id transfer now⟩ := by
            rw [RedisRelay.complete, unexpired]
            exact transaction_of_ok ((body _ _).mpr ⟨whole, decoded, rfl⟩)
          have next : both.perform P relay (.complete id completedAt now) = { both with
              memory := both.memory.finish id transfer envelope completedAt
              redis := completedIn relay both.redis id transfer now } := by
            rw [perform, memory, redis]
          have kept : BinaryRelayStore.Sound P
              (both.memory.finish id transfer envelope completedAt) :=
            (BinaryRelayStore.RelayStep.finished ⟨pending, fresh, joined, decoded⟩).sound
              mirrors.sound
          refine ⟨?_, by rw [SameAnswer, memory, redis]⟩
          rw [next]
          refine mirrors.update id kept (le_refl both.latest) ?_ ?_ ?_ ?_
          · exact fun other different => get?_erase_of_ne different
          · exact fun other different => get?_set_of_ne different
          · exact fun other different => agreesOn_completedIn plain different
          · constructor
            · intro noneDone _
              cases get?_set_self.symm.trans noneDone
            · intro other found
              cases get?_erase_self.symm.trans found
            · intro done found
              rw [← Option.some.inj (get?_set_self.symm.trans found)]
              have roomPlain := (decode_plain colonFree decoded).1 _ rfl
              obtain ⟨fields, last⟩ := completedAt_completedIn plain holds roomPlain decoded
              exact ⟨_, _, fields, _, last⟩
      · refine refused (.envelopeError "transfer is incomplete") ?_ ?_
        · have count : ¬ (transfer.chunks.keys.length : Int) = transfer.announced.totalChunks :=
            fun same => whole ((whole_iff_count sound holds.counted.1).mpr same)
          rw [BinaryRelayStore.complete, completed, pending]
          dsimp only
          rw [if_pos count]
        · rintro ⟨envelope, after⟩ accepted
          exact whole ((body envelope after).mp accepted).1

theorem receive_step (mirrors : Mirrors P relay both) {target : String} {now : Rat}
    (plain : Plain id) (unexpired : both.Unlimited relay (.receive id target now)) :
    Mirrors P relay (both.perform P relay (.receive id target now)) ∧
      both.SameAnswer P relay (.receive id target now) := by
  have own := mirrors.mirrors id plain
  refine ⟨mirrors.wait rfl unexpired le_rfl, ?_⟩
  rw [SameAnswer, BinaryRelayStore.receive, RedisRelay.receive, unexpired]
  cases completed : both.memory.completed.get? id with
  | some done =>
    obtain ⟨room, run, fields, encoded, holds⟩ := own.completed done completed
    obtain ⟨found, about, filled, read⟩ := readPayload_completed holds
    have done' : ¬ (fields.keys = [] ∨ fields.get? "status" ≠ some (utf8 "completed")) :=
      not_or.mpr ⟨filled, not_not.mpr holds.status⟩
    rw [found]
    dsimp only [bind, Except.bind]
    rw [about]
    dsimp only
    rw [raiseIf, if_neg done']
    dsimp only
    rw [textField_of_text holds.target]
    dsimp only
    rw [read, raiseIf]
    cases isTarget : done.targetWorkerId with
    | none => rfl
    | some expected =>
      have nonempty : expected ≠ "" := by
        rintro rfl
        exact holds.named isTarget
      by_cases same : expected = target
      · simp [same]
      · simp [same, nonempty]
  | none =>
    cases pending : both.memory.transfers.get? id with
    | none =>
      have absent := own.unknown completed pending (indexKey id) (by rw [keyTag_indexKey plain])
      rw [lookup_of_absent (Option.map_eq_none_iff.mpr absent)]
      rfl
    | some transfer =>
      have holds := own.pending transfer pending
      obtain ⟨front, back, found, sameBase, _⟩ :=
        lookup_of_index holds.index holds.named.roomAscii holds.named.runAscii
      obtain ⟨fields, created, about, describes, _⟩ := holds.about
      have uploading : fields.keys = [] ∨ fields.get? "status" ≠ some (utf8 "completed") := by
        apply Or.inr
        rw [describes.status]
        decide +kernel
      rw [found]
      dsimp only [bind, Except.bind]
      rw [sameBase, hgetall_of_value? about]
      dsimp only
      rw [raiseIf, if_pos uploading]

/-! ## Runs -/

def new (limits : RelayLimits) (latest : Rat) : BothStores where
  memory := BinaryRelayStore.new limits
  redis := Dict.empty
  latest := latest

theorem mirrors_new (limits : RelayLimits) (latest : Rat) : Mirrors P relay (new limits latest) where
  sound := BinaryRelayStore.sound_new limits
  mirrors := fun _ _ => {
    unknown := fun _ _ _ _ => rfl
    pending := fun _ found => nomatch found
    completed := fun _ found => nomatch found }

theorem step (colonFree : ∀ id, Plain (P.strOfUuid id)) (mirrors : Mirrors P relay both)
    (request : RelayRequest) (unlimited : both.Unlimited relay request) (named : request.Named) :
    Mirrors P relay (both.perform P relay request) ∧
      (both.SameAnswer P relay request ↔ both.NotRepeated request) := by
  cases request with
  | begin id announced cleanedAt createdAt now clock => exact begin_step mirrors named unlimited
  | putChunk id index chunk now =>
    obtain ⟨kept, same⟩ := putChunk_step mirrors named unlimited
    exact ⟨kept, iff_of_true same trivial⟩
  | complete id completedAt now =>
    obtain ⟨kept, same⟩ := complete_step colonFree mirrors named unlimited
    exact ⟨kept, iff_of_true same trivial⟩
  | receive id target now =>
    obtain ⟨kept, same⟩ := receive_step mirrors named unlimited
    exact ⟨kept, iff_of_true same trivial⟩

/-- The two stores answer a run of calls alike exactly when none of them
announces a transfer again, with the same arguments, while it is uploaded. -/
theorem stores_agree_iff (P : Platform) (relay : RedisRelay) (limits : RelayLimits) (latest : Rat)
    (requests : List RelayRequest) (colonFree : ∀ id, Plain (P.strOfUuid id))
    (named : ∀ request, request ∈ requests -> request.Named)
    (unlimited : Meets (perform P relay) (Unlimited relay) (new limits latest) requests) :
    Meets (perform P relay) (SameAnswer P relay) (new limits latest) requests ↔
      Meets (perform P relay) NotRepeated (new limits latest) requests :=
  (unlimited.and_of_forall named).congr (mirrors_new limits latest)
    (fun _ request mirrors holds => (step colonFree mirrors request holds.1 holds.2).1)
    (fun _ request mirrors holds => (step colonFree mirrors request holds.1 holds.2).2)

/-! ## A repeated announcement -/

theorem live_eq_self {db : RedisDatabase} {now : Rat}
    (all : ∀ key, key ∈ db.keys -> (db.get? key).all (fun entry =>
      entry.expiresAt.all (fun expiry => now < expiry)) = true) : db.live now = db := by
  apply filter_eq_self
  intro key entry found
  have holds := all key (mem_keys_of_get? found)
  rw [found] at holds
  exact holds

theorem cleaned_eq_self {store : BinaryRelayStore} {current : Rat}
    (transfers : ∀ id, id ∈ store.transfers.keys -> (store.transfers.get? id).all (fun transfer =>
      current - transfer.createdAt < store.limits.ttlSeconds) = true)
    (completed : ∀ id, id ∈ store.completed.keys -> (store.completed.get? id).all (fun done =>
      current - done.completedAt < store.limits.ttlSeconds) = true) :
    store.cleaned current = store := by
  have kept : store.transfers.filter (fun _ transfer =>
      ¬ store.limits.ttlSeconds ≤ current - transfer.createdAt) = store.transfers := by
    apply filter_eq_self
    intro id transfer found
    have holds := transfers id (mem_keys_of_get? found)
    rw [found] at holds
    exact decide_eq_true (not_le.mpr (of_decide_eq_true holds))
  have done : store.completed.filter (fun _ transfer =>
      ¬ store.limits.ttlSeconds ≤ current - transfer.completedAt) = store.completed := by
    apply filter_eq_self
    intro id transfer found
    have holds := completed id (mem_keys_of_get? found)
    rw [found] at holds
    exact decide_eq_true (not_le.mpr (of_decide_eq_true holds))
  rw [BinaryRelayStore.cleaned, kept, done]

theorem plain_reference (id : Uuid) : Plain (platform.strOfUuid id) := by
  intro member
  exact absurd (Ledger.Reference.mem_strOfUuid member) (by decide)

theorem ascii_reference (id : Uuid) : Ascii (platform.strOfUuid id) := by
  have digits : ∀ digit, digit < 16 -> (Nat.digitChar digit).toNat < 128 := by decide
  intro c member
  rcases Ledger.Reference.mem_strOfUuid member with rfl | ⟨digit, small, rfl⟩
  · decide
  · exact digits digit small

def uploadAnnouncement : Announcement :=
  { foreignAnnouncement with totalChunks := 2, targetWorkerId := some "receiver" }

/-- An upload in two chunks, the last one first, that is completed and received. -/
def uploadRequests : List RelayRequest := [
  .begin foreignId uploadAnnouncement 1 1 1 1,
  .putChunk foreignId 1 (foreignBytes.drop 100) 2,
  .putChunk foreignId 0 (foreignBytes.take 100) 3,
  .complete foreignId 4 4,
  .receive foreignId "receiver" 5]

theorem upload_named (request : RelayRequest) (member : request ∈ uploadRequests) :
    request.Named := by
  have announced : uploadAnnouncement.Named :=
    ⟨ascii_reference Reference.roomId, ascii_reference Reference.runId, nofun, by decide, nofun⟩
  have plain : Plain foreignId := by decide
  simp only [uploadRequests, List.mem_cons, List.not_mem_nil, or_false] at member
  rcases member with rfl | rfl | rfl | rfl | rfl
  · exact ⟨plain, announced⟩
  all_goals exact plain

theorem upload_unlimited :
    Meets (perform platform sampleRelay) (Unlimited sampleRelay)
      (new BinaryRelayStore.sampleLimits 0) uploadRequests := by
  have small : ∀ {stored : Option Transfer} {size : Nat},
      stored.all (fun transfer => transfer.receivedBytes + size ≤ 1024) = true ->
      ∀ transfer, stored = some transfer ->
        transfer.receivedBytes + size ≤ 1024 ∧ transfer.receivedBytes + size ≤ 1024 ∧
          transfer.receivedBytes + size ≤ maxPayloadBytes := by
    intro stored size all transfer found
    rw [found] at all
    have bound : transfer.receivedBytes + size ≤ 1024 := of_decide_eq_true all
    exact ⟨bound, bound, bound.trans (by decide)⟩
  refine ⟨⟨rfl, rfl, fun _ _ => by decide, by decide, by decide +kernel⟩,
    ⟨live_eq_self (by decide +kernel), by decide +kernel, by decide +kernel, ?_⟩,
    ⟨live_eq_self (by decide +kernel), by decide +kernel, by decide +kernel, ?_⟩,
    live_eq_self (by decide +kernel), live_eq_self (by decide +kernel), trivial⟩
  · intro transfer found _
    exact small (by decide +kernel) transfer found
  · intro transfer found _
    exact small (by decide +kernel) transfer found

/-- Both stores accept the upload and give out its envelope. -/
theorem stores_agree_on_upload :
    Meets (perform platform sampleRelay) (SameAnswer platform sampleRelay)
        (new BinaryRelayStore.sampleLimits 0) uploadRequests ∧
      ((uploadRequests.foldl (perform platform sampleRelay)
        (new BinaryRelayStore.sampleLimits 0)).memory.receive foreignId "receiver").toOption =
          some Reference.envelope :=
  ⟨(stores_agree_iff platform sampleRelay BinaryRelayStore.sampleLimits 0 uploadRequests
    plain_reference upload_named upload_unlimited).mpr ⟨nofun, trivial, trivial, trivial, trivial,
      trivial⟩, by decide +kernel⟩

/-- A sender that does not hear the answer to its announcement repeats it a
second later. -/
def repeatedRequests : List RelayRequest :=
  [.begin foreignId foreignAnnouncement 1 1 1 1, .begin foreignId foreignAnnouncement 2 2 2 2]

theorem repeated_named (request : RelayRequest) (member : request ∈ repeatedRequests) : request.Named := by
  have announced : foreignAnnouncement.Named :=
    ⟨ascii_reference Reference.roomId, ascii_reference Reference.runId, nofun, nofun, nofun⟩
  simp only [repeatedRequests, List.mem_cons, List.not_mem_nil, or_false] at member
  rcases member with rfl | rfl
  · exact ⟨by decide, announced⟩
  · exact ⟨by decide, announced⟩

theorem repeated_unlimited :
    Meets (perform platform sampleRelay) (Unlimited sampleRelay)
      (new BinaryRelayStore.sampleLimits 0) repeatedRequests := by
  refine ⟨⟨rfl, rfl, fun _ _ => by decide, by decide, by decide +kernel⟩,
    ⟨live_eq_self (by decide +kernel), cleaned_eq_self (by decide +kernel) (by decide +kernel),
      fun _ _ => by decide +kernel, by decide, by decide +kernel⟩, trivial⟩

/-- The store in memory accepts the repetition, the store on Redis refuses it. -/
theorem repeated_begin_refused :
    (∀ request, request ∈ repeatedRequests -> request.Named) ∧
      Meets (perform platform sampleRelay) (Unlimited sampleRelay)
        (new BinaryRelayStore.sampleLimits 0) repeatedRequests ∧
      ¬ Meets (perform platform sampleRelay) (SameAnswer platform sampleRelay)
        (new BinaryRelayStore.sampleLimits 0) repeatedRequests := by
  refine ⟨repeated_named, repeated_unlimited, ?_⟩
  rintro ⟨_, same, _⟩
  have differ : ¬ (BothStores.SameAnswer platform sampleRelay
      (perform platform sampleRelay (new BinaryRelayStore.sampleLimits 0)
        (.begin foreignId foreignAnnouncement 1 1 1 1))
      (.begin foreignId foreignAnnouncement 2 2 2 2)) := by
    unfold SameAnswer
    decide +kernel
  exact differ same

end BothStores

end Training
end ZepGpu
