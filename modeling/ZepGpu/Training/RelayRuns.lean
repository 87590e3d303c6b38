import ZepGpu.Training.Relay

namespace ZepGpu
namespace Training

open Foundation Dict List

/-!
# Runs of the relay store

One relation lists everything that a call can do to a store.  The invariant of
the store and the origin of its entries are followed along the steps of this
relation, for any order of the calls of any number of transfers.
-/

def Transfer.storedBytes (transfer : Transfer) : Nat :=
  (transfer.chunks.keys.map (fun index => ((transfer.chunks.get? index).getD []).length)).sum

/-- The bytes of a transfer are counted, and are within the limits. -/
structure Transfer.Sound (P : Platform) (limits : RelayLimits) (transfer : Transfer) : Prop where
  received : transfer.receivedBytes = transfer.storedBytes
  bounded : transfer.receivedBytes ≤ limits.maxTransferBytes
  indices : ∀ index, index ∈ transfer.chunks.keys ->
    0 ≤ index ∧ index < transfer.announced.totalChunks
  fingerprints : ∀ index, transfer.fingerprints.get? index =
    (transfer.chunks.get? index).map P.sha256

namespace BinaryRelayStore

variable {P : Platform} {store : BinaryRelayStore}

/-- The invariant of the memory store. -/
structure Sound (P : Platform) (store : BinaryRelayStore) : Prop where
  pending : ∀ id transfer, store.transfers.get? id = some transfer ->
    transfer.Sound P store.limits
  capacity : store.transfers.keys.length + store.completed.keys.length ≤ store.limits.maxTransfers
  apart : ∀ id, id ∈ store.transfers.keys -> id ∉ store.completed.keys

/-! ## Calls -/

/-- A call of the memory store, with the clocks that it reads. -/
inductive RelayCall where
  | begin (transferId : String) (announced : Announcement) (cleanedAt createdAt : Rat)
  | putChunk (transferId : String) (index : Int) (chunk : Bytes)
  | complete (transferId : String) (completedAt : Rat)
  | receive (transferId targetWorkerId : String)
  | abort (transferId : String)
  | cleanup (current : Rat)

/-- The store after a call, whether it returned or raised. -/
def perform (P : Platform) (store : BinaryRelayStore) : RelayCall -> BinaryRelayStore
  | .begin transferId announced cleanedAt createdAt =>
    (store.begin transferId announced cleanedAt createdAt).state
  | .putChunk transferId index chunk => (store.putChunk P transferId index chunk).state
  | .complete transferId completedAt => (store.complete P transferId completedAt).state
  | .receive _ _ => store
  | .abort transferId => (store.abort transferId).state
  | .cleanup current => (store.cleanup current).state

def runCalls (P : Platform) (store : BinaryRelayStore) (calls : List RelayCall) : BinaryRelayStore :=
  calls.foldl (perform P) store

/-- The conditions under which a transfer is completed. -/
structure Completes (P : Platform) (store : BinaryRelayStore) (id : String) (transfer : Transfer)
    (encoded : Bytes) (envelope : BinaryEnvelope) : Prop where
  isPending : store.transfers.get? id = some transfer
  fresh : id ∉ store.completed.keys
  joined : transfer.joined = .ok encoded
  decoded : BinaryEnvelope.decode P encoded transfer.announced.scope = .ok envelope

/-- What a call does to the store. -/
inductive RelayStep (P : Platform) (store : BinaryRelayStore) : RelayCall -> BinaryRelayStore -> Prop
  | kept (call : RelayCall) : RelayStep P store call store
  | cleaned (call : RelayCall) (current : Rat) : RelayStep P store call (store.cleaned current)
  | begun {id : String} {announced : Announcement} {cleanedAt createdAt : Rat}
      (freshPending : id ∉ store.transfers.keys) (freshCompleted : id ∉ store.completed.keys)
      (space : (store.cleaned cleanedAt).transfers.keys.length +
        (store.cleaned cleanedAt).completed.keys.length < store.limits.maxTransfers) :
      RelayStep P store (.begin id announced cleanedAt createdAt) { store.cleaned cleanedAt with
        transfers := (store.cleaned cleanedAt).transfers.set id { announced, createdAt } }
  | stored {id : String} {index : Int} {chunk : Bytes} {transfer : Transfer}
      (isPending : store.transfers.get? id = some transfer) (nonneg : 0 ≤ index)
      (below : index < transfer.announced.totalChunks) (new : index ∉ transfer.chunks.keys)
      (fits : transfer.receivedBytes + chunk.length ≤ store.limits.maxTransferBytes) :
      RelayStep P store (.putChunk id index chunk) { store with
        transfers := store.transfers.set id (transfer.withChunk P index chunk) }
  | finished {id : String} {completedAt : Rat} {transfer : Transfer} {encoded : Bytes}
      {envelope : BinaryEnvelope} (completes : Completes P store id transfer encoded envelope) :
      RelayStep P store (.complete id completedAt) (store.finish id transfer envelope completedAt)
  | aborted (id : String) : RelayStep P store (.abort id) { store with
      transfers := store.transfers.erase id
      completed := store.completed.erase id }

theorem step_begin (id : String) (announced : Announcement) (cleanedAt createdAt : Rat) :
    RelayStep P store (.begin id announced cleanedAt createdAt)
      (store.begin id announced cleanedAt createdAt).state := by
  rw [begin]
  split_ifs with badCount
  · exact .kept _
  · cases isCompleted : store.completed.get? id with
    | some done =>
      dsimp only
      split_ifs
      · exact .kept _
      · exact .kept _
    | none =>
      cases isPending : store.transfers.get? id with
      | some existing =>
        dsimp only
        split_ifs
        · exact .kept _
        · exact .kept _
      | none =>
        dsimp only
        split_ifs with full
        · exact .cleaned _ cleanedAt
        · exact .begun (get?_eq_none_iff.mp isPending) (get?_eq_none_iff.mp isCompleted)
            (not_le.mp full)

theorem putChunk_of_new {id : String} {transfer : Transfer} {index : Int} {chunk : Bytes}
    (isPending : store.transfers.get? id = some transfer) (nonneg : 0 ≤ index)
    (below : index < transfer.announced.totalChunks) (new : index ∉ transfer.chunks.keys)
    (small : chunk.length ≤ store.limits.maxChunkBytes)
    (fits : transfer.receivedBytes + chunk.length ≤ store.limits.maxTransferBytes) :
    store.putChunk P id index chunk = ⟨.ok (), { store with
      transfers := store.transfers.set id (transfer.withChunk P index chunk) }⟩ := by
  rw [putChunk, isPending]
  dsimp only
  rw [if_neg (not_or.mpr ⟨not_lt.mpr nonneg, not_le.mpr below⟩), if_neg (not_lt.mpr small),
    if_neg new, if_neg (not_lt.mpr fits)]

theorem step_putChunk (id : String) (index : Int) (chunk : Bytes) :
    RelayStep P store (.putChunk id index chunk) (store.putChunk P id index chunk).state := by
  rw [putChunk]
  cases isPending : store.transfers.get? id with
  | none => exact .kept _
  | some transfer =>
    dsimp only
    split_ifs with outside large again many
    · exact .kept _
    · exact .kept _
    · cases transfer.fingerprints.get? index with
      | none => exact .kept _
      | some fingerprint =>
        dsimp only
        split_ifs
        · exact .kept _
        · exact .kept _
    · exact .kept _
    · rw [not_or] at outside
      exact .stored isPending (not_lt.mp outside.1) (not_le.mp outside.2) again (not_lt.mp many)

theorem complete_cases (P : Platform) (store : BinaryRelayStore) (id : String) (completedAt : Rat) :
    (∃ done, store.completed.get? id = some done ∧
      store.complete P id completedAt = ⟨.ok done.envelope, store⟩) ∨
    (∃ error, store.complete P id completedAt = ⟨.error error, store⟩) ∨
    ∃ transfer encoded envelope, Completes P store id transfer encoded envelope ∧
      store.complete P id completedAt =
        ⟨.ok envelope, store.finish id transfer envelope completedAt⟩ := by
  rw [complete]
  cases isCompleted : store.completed.get? id with
  | some done => exact Or.inl ⟨done, rfl, rfl⟩
  | none =>
    refine Or.inr ?_
    cases isPending : store.transfers.get? id with
    | none => exact Or.inl ⟨_, rfl⟩
    | some transfer =>
      dsimp only
      split_ifs with missing
      · exact Or.inl ⟨_, rfl⟩
      · cases joined : transfer.joined with
        | error error => exact Or.inl ⟨error, rfl⟩
        | ok encoded =>
          dsimp only
          cases decoded : BinaryEnvelope.decode P encoded transfer.announced.scope with
          | error error => exact Or.inl ⟨error, rfl⟩
          | ok envelope =>
            exact Or.inr ⟨transfer, encoded, envelope,
              ⟨isPending, get?_eq_none_iff.mp isCompleted, joined, decoded⟩, rfl⟩

theorem step_perform (P : Platform) (store : BinaryRelayStore) (call : RelayCall) :
    RelayStep P store call (store.perform P call) := by
  cases call with
  | begin id announced cleanedAt createdAt => exact step_begin id announced cleanedAt createdAt
  | putChunk id index chunk => exact step_putChunk id index chunk
  | complete id completedAt =>
    rw [perform]
    rcases complete_cases P store id completedAt with ⟨done, _, same⟩ | ⟨error, same⟩ |
      ⟨transfer, encoded, envelope, completes, same⟩
    · rw [same]
      exact .kept _
    · rw [same]
      exact .kept _
    · rw [same]
      exact .finished completes
  | receive id target => exact .kept _
  | abort id => exact .aborted id
  | cleanup current => exact .cleaned _ current

/-! ## The invariant -/

variable {calls : List RelayCall} {id : String} {transfer : Transfer} {current : Rat}

theorem storedBytes_withChunk {index : Int} {chunk : Bytes} (new : index ∉ transfer.chunks.keys) :
    (transfer.withChunk P index chunk).storedBytes = transfer.storedBytes + chunk.length := by
  have older : transfer.chunks.keys.map (fun other =>
        (((transfer.chunks.set index chunk).get? other).getD []).length) =
      transfer.chunks.keys.map (fun other => ((transfer.chunks.get? other).getD []).length) := by
    apply map_congr_left
    intro other member
    have different : other ≠ index := by
      rintro rfl
      exact new member
    rw [get?_set_of_ne different]
  rw [Transfer.storedBytes, Transfer.withChunk, keys_set_of_not_mem new, map_append, older,
    sum_append, map_singleton, sum_singleton, get?_set_self, Option.getD_some,
    Transfer.storedBytes]

theorem sound_withChunk {limits : RelayLimits} {index : Int} {chunk : Bytes}
    (sound : transfer.Sound P limits) (nonneg : 0 ≤ index)
    (below : index < transfer.announced.totalChunks) (new : index ∉ transfer.chunks.keys)
    (fits : transfer.receivedBytes + chunk.length ≤ limits.maxTransferBytes) :
    (transfer.withChunk P index chunk).Sound P limits := by
  refine ⟨?_, fits, ?_, ?_⟩
  · rw [storedBytes_withChunk new, ← sound.received]
    rfl
  · intro other member
    rcases mem_keys_set.mp member with rfl | old
    · exact ⟨nonneg, below⟩
    · exact sound.indices other old
  · intro other
    rw [Transfer.withChunk]
    rcases eq_or_ne other index with rfl | different
    · rw [get?_set_self, get?_set_self, Option.map_some]
    · rw [get?_set_of_ne different, get?_set_of_ne different]
      exact sound.fingerprints other

theorem get?_cleaned_transfers (found : (store.cleaned current).transfers.get? id = some transfer) :
    store.transfers.get? id = some transfer :=
  (Option.filter_eq_some_iff.mp found).1

theorem get?_cleaned_completed {done : CompletedTransfer}
    (found : (store.cleaned current).completed.get? id = some done) :
    store.completed.get? id = some done :=
  (Option.filter_eq_some_iff.mp found).1

theorem mem_cleaned_transfers (member : id ∈ (store.cleaned current).transfers.keys) :
    id ∈ store.transfers.keys :=
  (mem_filter.mp member).1

theorem mem_cleaned_completed (member : id ∈ (store.cleaned current).completed.keys) :
    id ∈ store.completed.keys :=
  (mem_filter.mp member).1

theorem Sound.cleaned (sound : Sound P store) (current : Rat) : Sound P (store.cleaned current) := by
  refine ⟨?_, ?_, ?_⟩
  · intro id transfer found
    exact sound.pending id transfer (get?_cleaned_transfers found)
  · exact (Nat.add_le_add length_keys_filter_le length_keys_filter_le).trans sound.capacity
  · intro id pending completed
    exact sound.apart id (mem_cleaned_transfers pending) (mem_cleaned_completed completed)

theorem RelayStep.sound {call : RelayCall} {after : BinaryRelayStore}
    (step : RelayStep P store call after) (sound : Sound P store) : Sound P after := by
  cases step with
  | kept => exact sound
  | cleaned _ current => exact sound.cleaned current
  | @begun id announced cleanedAt createdAt freshPending freshCompleted space =>
    have cleaned := sound.cleaned cleanedAt
    have absent : id ∉ (store.cleaned cleanedAt).transfers.keys := fun member =>
      freshPending (mem_cleaned_transfers member)
    refine ⟨?_, ?_, ?_⟩
    · intro other transfer found
      rcases eq_or_ne other id with rfl | different
      · obtain rfl := Option.some.inj (get?_set_self.symm.trans found)
        refine ⟨rfl, Nat.zero_le _, ?_, fun index => rfl⟩
        intro index member
        cases member
      · exact cleaned.pending other transfer ((get?_set_of_ne different).symm.trans found)
    · dsimp only
      rw [keys_set_of_not_mem absent, length_append, length_singleton]
      have limits : (store.cleaned cleanedAt).limits = store.limits := rfl
      rw [limits]
      omega
    · intro other member
      rcases mem_keys_set.mp member with rfl | old
      · exact fun completed => freshCompleted (mem_cleaned_completed completed)
      · exact cleaned.apart other old
  | @stored id index chunk transfer isPending nonneg below new fits =>
    have known := mem_keys_of_get? isPending
    refine ⟨?_, ?_, ?_⟩
    · intro other changed found
      rcases eq_or_ne other id with rfl | different
      · obtain rfl := Option.some.inj (get?_set_self.symm.trans found)
        exact sound_withChunk (sound.pending _ _ isPending) nonneg below new fits
      · exact sound.pending other changed ((get?_set_of_ne different).symm.trans found)
    · dsimp only
      rw [keys_set_of_mem known]
      exact sound.capacity
    · dsimp only
      rw [keys_set_of_mem known]
      exact sound.apart
  | @finished id completedAt transfer encoded envelope completes =>
    have known := mem_keys_of_get? completes.isPending
    refine ⟨?_, ?_, ?_⟩
    · intro other pending found
      exact sound.pending other pending (get?_erase_eq_some found).2
    · rw [finish]
      dsimp only
      rw [keys_set_of_not_mem completes.fresh, length_append, length_singleton]
      have shorter := length_keys_erase known
      have capacity := sound.capacity
      omega
    · intro other pending completed
      obtain ⟨value, found⟩ := exists_get?_of_mem pending
      obtain ⟨different, old⟩ := get?_erase_eq_some found
      rcases mem_keys_set.mp completed with rfl | before
      · exact different rfl
      · exact sound.apart other (mem_keys_of_get? old) before
  | aborted id =>
    refine ⟨?_, ?_, ?_⟩
    · intro other transfer found
      exact sound.pending other transfer (get?_erase_eq_some found).2
    · exact (Nat.add_le_add length_keys_filter_le length_keys_filter_le).trans
        sound.capacity
    · intro other pending completed
      obtain ⟨_, isPending⟩ := exists_get?_of_mem pending
      obtain ⟨_, isCompleted⟩ := exists_get?_of_mem completed
      exact sound.apart other (mem_keys_of_get? (get?_erase_eq_some isPending).2)
        (mem_keys_of_get? (get?_erase_eq_some isCompleted).2)

theorem sound_new (limits : RelayLimits) : Sound P (new limits) := by
  refine ⟨?_, Nat.zero_le _, ?_⟩
  · intro id transfer found
    cases found
  · intro id member
    cases member

theorem runCalls_append (calls : List RelayCall) (call : RelayCall) :
    runCalls P store (calls ++ [call]) = (runCalls P store calls).perform P call := by
  rw [runCalls, foldl_append]
  rfl

theorem sound_runCalls (P : Platform) (limits : RelayLimits) (calls : List RelayCall) :
    Sound P (runCalls P (new limits) calls) := by
  induction calls using List.reverseRecOn with
  | nil => exact sound_new limits
  | append_singleton calls call ih =>
    rw [runCalls_append]
    exact (step_perform P _ call).sound ih

/-! ## Where the entries come from -/

/-- The transfer was begun by a call of the run. -/
def Begun (calls : List RelayCall) (id : String) (transfer : Transfer) : Prop :=
  ∃ front cleanedAt back,
    calls = front ++ RelayCall.begin id transfer.announced cleanedAt transfer.createdAt :: back

/-- The envelope was decoded by a completion of the run, from the chunks that
the transfer had at that moment, in the scope announced for it. -/
def Decoded (P : Platform) (start : BinaryRelayStore) (calls : List RelayCall) (id : String)
    (done : CompletedTransfer) : Prop :=
  ∃ front back transfer encoded,
    calls = front ++ RelayCall.complete id done.completedAt :: back ∧ Begun front id transfer ∧
    Completes P (runCalls P start front) id transfer encoded done.envelope ∧
    done.targetWorkerId = transfer.announced.targetWorkerId

theorem Begun.append (begun : Begun calls id transfer) (call : RelayCall) :
    Begun (calls ++ [call]) id transfer := by
  obtain ⟨front, cleanedAt, back, same⟩ := begun
  exact ⟨front, cleanedAt, back ++ [call], by rw [same, append_assoc, cons_append]⟩

theorem Decoded.append {start : BinaryRelayStore} {done : CompletedTransfer}
    (decoded : Decoded P start calls id done) (call : RelayCall) :
    Decoded P start (calls ++ [call]) id done := by
  obtain ⟨front, back, transfer, encoded, same, rest⟩ := decoded
  refine ⟨front, back ++ [call], transfer, encoded, ?_, rest⟩
  rw [same, append_assoc, cons_append]

/-- Whatever the store holds was put there by calls of the run. -/
structure Origins (P : Platform) (start : BinaryRelayStore) (calls : List RelayCall) : Prop where
  pending : ∀ id transfer, (runCalls P start calls).transfers.get? id = some transfer ->
    Begun calls id transfer
  completed : ∀ id done, (runCalls P start calls).completed.get? id = some done ->
    Decoded P start calls id done

theorem Begun.of_announced {transfer changed : Transfer} (begun : Begun calls id transfer)
    (announced : changed.announced = transfer.announced)
    (createdAt : changed.createdAt = transfer.createdAt) : Begun calls id changed := by
  rw [Begun, announced, createdAt]
  exact begun

theorem Origins.append {start : BinaryRelayStore} (origins : Origins P start calls)
    (call : RelayCall) : Origins P start (calls ++ [call]) := by
  have run : runCalls P start (calls ++ [call]) = (runCalls P start calls).perform P call :=
    runCalls_append calls call
  have step := step_perform P (runCalls P start calls) call
  rw [← run] at step
  have older : ∀ id transfer, (runCalls P start calls).transfers.get? id = some transfer ->
      Begun (calls ++ [call]) id transfer :=
    fun id transfer found => (origins.pending id transfer found).append call
  have finishedBefore : ∀ id done, (runCalls P start calls).completed.get? id = some done ->
      Decoded P start (calls ++ [call]) id done :=
    fun id done found => (origins.completed id done found).append call
  generalize reached : runCalls P start (calls ++ [call]) = after at step
  have split : (∀ id transfer, after.transfers.get? id = some transfer ->
        Begun (calls ++ [call]) id transfer) ∧
      ∀ id done, after.completed.get? id = some done -> Decoded P start (calls ++ [call]) id done := by
    cases step with
    | kept => exact ⟨older, finishedBefore⟩
    | cleaned _ current =>
      exact ⟨fun id transfer found => older id transfer (get?_cleaned_transfers found),
        fun id done found => finishedBefore id done (get?_cleaned_completed found)⟩
    | @begun id announced cleanedAt createdAt freshPending freshCompleted space =>
      refine ⟨?_, fun other done found => finishedBefore other done (get?_cleaned_completed found)⟩
      intro other transfer found
      rcases eq_or_ne other id with rfl | different
      · obtain rfl := Option.some.inj (get?_set_self.symm.trans found)
        exact ⟨calls, cleanedAt, [], rfl⟩
      · exact older other transfer
          (get?_cleaned_transfers ((get?_set_of_ne different).symm.trans found))
    | @stored id index chunk transfer isPending nonneg below new fits =>
      refine ⟨?_, finishedBefore⟩
      intro other changed found
      rcases eq_or_ne other id with rfl | different
      · obtain rfl := Option.some.inj (get?_set_self.symm.trans found)
        exact (older _ _ isPending).of_announced rfl rfl
      · exact older other changed ((get?_set_of_ne different).symm.trans found)
    | @finished id completedAt transfer encoded envelope completes =>
      refine ⟨fun other pending found => older other pending (get?_erase_eq_some found).2, ?_⟩
      intro other done found
      rcases eq_or_ne other id with rfl | different
      · obtain rfl := Option.some.inj (get?_set_self.symm.trans found)
        exact ⟨calls, [], transfer, encoded, rfl, origins.pending _ _ completes.isPending, completes,
          rfl⟩
      · exact finishedBefore other done ((get?_set_of_ne different).symm.trans found)
    | aborted id =>
      exact ⟨fun other transfer found => older other transfer (get?_erase_eq_some found).2,
        fun other done found => finishedBefore other done (get?_erase_eq_some found).2⟩
  rw [← reached] at split
  exact ⟨split.1, split.2⟩

theorem origins_runCalls (P : Platform) (limits : RelayLimits) (calls : List RelayCall) :
    Origins P (new limits) calls := by
  induction calls using List.reverseRecOn with
  | nil =>
    refine ⟨?_, ?_⟩
    · intro id transfer found
      cases found
    · intro id done found
      cases found
  | append_singleton calls call ih => exact ih.append call

end BinaryRelayStore

end Training
end ZepGpu
