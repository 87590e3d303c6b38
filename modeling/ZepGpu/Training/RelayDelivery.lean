import ZepGpu.Foundation.Loops
import ZepGpu.Foundation.Slices
import ZepGpu.Training.RelayRuns

namespace ZepGpu
namespace Training

open Foundation Dict List
open Reference (platform)

/-!
# Delivery through the relay store

The sender cuts the bytes of an envelope into pieces of one size, the last of
which may be shorter, and uploads them in order.  Joined again they are the
same bytes, and decoding gives the envelope back, when its identifiers are
written in the form in which the decoder writes them.
-/

namespace BinaryRelayStore

variable {P : Platform} {store : BinaryRelayStore}

/-! ## Pieces -/

/-- `encoded[start : start + self.chunk_size]` -/
def piece (encoded : Bytes) (chunkSize index : Nat) : Bytes :=
  (encoded.drop (index * chunkSize)).take chunkSize

theorem flatten_pieces (encoded : Bytes) (chunkSize count : Nat) :
    ((List.range count).map (piece encoded chunkSize)).flatten = encoded.take (count * chunkSize) :=
  flatten_slices encoded chunkSize count

theorem length_piece_le (encoded : Bytes) (chunkSize index : Nat) :
    (piece encoded chunkSize index).length ≤ min chunkSize encoded.length := by
  rw [piece, length_take, length_drop]
  omega

theorem le_totalChunksOf_mul {length chunkSize : Nat} (positive : 1 ≤ chunkSize) :
    length ≤ totalChunksOf length chunkSize * chunkSize := by
  rw [totalChunksOf]
  have division := Nat.div_add_mod (length + chunkSize - 1) chunkSize
  have rest := Nat.mod_lt (length + chunkSize - 1) positive
  rw [Nat.mul_comm] at division
  omega

theorem one_le_totalChunksOf {length chunkSize : Nat} (positive : 1 ≤ chunkSize)
    (filled : 1 ≤ length) : 1 ≤ totalChunksOf length chunkSize := by
  rw [totalChunksOf, Nat.le_div_iff_mul_le positive]
  omega

/-! ## Uploading -/

def uploaded (P : Platform) (base : Transfer) (encoded : Bytes) (chunkSize : Nat) : Nat -> Transfer
  | 0 => base
  | count + 1 => (uploaded P base encoded chunkSize count).withChunk P count
      (piece encoded chunkSize count)

section Uploaded

variable {base : Transfer} {encoded : Bytes} {chunkSize : Nat}

theorem announced_uploaded (count : Nat) :
    (uploaded P base encoded chunkSize count).announced = base.announced := by
  induction count with
  | zero => rfl
  | succ count ih => exact ih

theorem keys_uploaded (empty : base.chunks.keys = []) (count : Nat) :
    (uploaded P base encoded chunkSize count).chunks.keys =
      (List.range count).map (fun index : Nat => (index : Int)) := by
  induction count with
  | zero => exact empty
  | succ count ih =>
    have new : (count : Int) ∉ (uploaded P base encoded chunkSize count).chunks.keys := by
      rw [ih, mem_map]
      rintro ⟨index, member, same⟩
      have below := mem_range.mp member
      omega
    rw [uploaded, Transfer.withChunk, keys_set_of_not_mem new, ih, range_succ,
      map_append, map_singleton]

theorem get?_uploaded {count index : Nat} (below : index < count) :
    (uploaded P base encoded chunkSize count).chunks.get? index =
      some (piece encoded chunkSize index) := by
  induction count with
  | zero => exact absurd below (Nat.not_lt_zero _)
  | succ count ih =>
    rw [uploaded, Transfer.withChunk]
    rcases eq_or_ne index count with rfl | different
    · rw [get?_set_self]
    · have apart : (index : Int) ≠ count := fun same => different (Int.ofNat_inj.mp same)
      rw [get?_set_of_ne apart]
      exact ih (by omega)

theorem received_uploaded (nothing : base.receivedBytes = 0) (count : Nat) :
    (uploaded P base encoded chunkSize count).receivedBytes =
      (encoded.take (count * chunkSize)).length := by
  induction count with
  | zero => rw [uploaded, nothing, Nat.zero_mul, take_zero, length_nil]
  | succ count ih =>
    rw [uploaded, Transfer.withChunk, ih, Nat.succ_mul, take_add, length_append, piece]

theorem joined_uploaded {count : Nat} (total : base.announced.totalChunks = count)
    (covers : encoded.length ≤ count * chunkSize) :
    (uploaded P base encoded chunkSize count).joined = .ok encoded := by
  rw [Transfer.joined, announced_uploaded, total, Int.toNat_natCast]
  refine bind_eq_ok.mpr ⟨(List.range count).map (piece encoded chunkSize), ?_, ?_⟩
  · rw [mapM_eq_ok_iff, List.forall₂_map_right_iff, List.forall₂_same]
    intro index member
    rw [get?_uploaded (mem_range.mp member)]
  rw [flatten_pieces, take_of_length_le covers]

theorem putChunks_uploaded {id : String} {count index : Nat}
    (empty : base.chunks.keys = []) (nothing : base.receivedBytes = 0)
    (isPending : store.transfers.get? id = some (uploaded P base encoded chunkSize index))
    (total : base.announced.totalChunks = ((index + count : Nat) : Int))
    (small : min chunkSize encoded.length ≤ store.limits.maxChunkBytes)
    (fits : encoded.length ≤ store.limits.maxTransferBytes) :
    ∃ after, putChunks P id encoded chunkSize count index store = ⟨.ok (), after⟩ ∧
      after.transfers.get? id = some (uploaded P base encoded chunkSize (index + count)) ∧
      after.completed = store.completed := by
  induction count generalizing index store with
  | zero => exact ⟨store, rfl, isPending, rfl⟩
  | succ count ih =>
    have below : (index : Int) <
        (uploaded P base encoded chunkSize index).announced.totalChunks := by
      rw [announced_uploaded, total]
      omega
    have new : (index : Int) ∉ (uploaded P base encoded chunkSize index).chunks.keys := by
      rw [keys_uploaded empty, mem_map]
      rintro ⟨other, member, same⟩
      have before := mem_range.mp member
      omega
    have received : (uploaded P base encoded chunkSize index).receivedBytes +
        (piece encoded chunkSize index).length ≤ store.limits.maxTransferBytes := by
      rw [received_uploaded nothing, piece, length_take, length_take, length_drop]
      omega
    have stored := putChunk_of_new (P := P) isPending (Int.natCast_nonneg index) below new
      ((length_piece_le encoded chunkSize index).trans small) received
    obtain ⟨after, put, found, same⟩ := @ih
      { store with transfers := store.transfers.set id (uploaded P base encoded chunkSize (index + 1)) }
      (index + 1) get?_set_self (by rw [total]; congr 1; omega) small fits
    refine ⟨after, ?_, ?_, same⟩
    · rw [putChunks]
      change (store.putChunk P id index (piece encoded chunkSize index)).andThen _ = _
      rw [stored]
      exact put
    · rw [found]
      congr 2
      omega

end Uploaded

/-! ## Delivery -/

/-- The store has room for the transfer, and the chunks are within the limits. -/
structure Fits (store : BinaryRelayStore) (encoded : Bytes) (chunkSize : Nat) (cleanedAt : Rat) :
    Prop where
  positive : 1 ≤ chunkSize
  chunks : totalChunksOf encoded.length chunkSize ≤ 65536
  chunk : min chunkSize encoded.length ≤ store.limits.maxChunkBytes
  bytes : encoded.length ≤ store.limits.maxTransferBytes
  space : (store.cleaned cleanedAt).transfers.keys.length +
    (store.cleaned cleanedAt).completed.keys.length < store.limits.maxTransfers

variable {envelope : BinaryEnvelope} {encoded : Bytes} {id : String}

theorem length_encode_pos (isEncoded : envelope.encode P = .ok encoded) : 1 ≤ encoded.length := by
  obtain ⟨room, run, worker, transfer, _, _, _, _, framed⟩ := encode_eq_ok_iff.mp isEncoded
  rw [framed.bytes, length_append, headerCodec.length_encode _ framed.header_fits,
    headerCodec_width]
  omega

def announcing (envelope : BinaryEnvelope) (target : String) (count : Nat) : Announcement where
  roomId := envelope.roomId
  runId := envelope.runId
  totalChunks := count
  workerId := some envelope.workerId
  targetWorkerId := some target
  roundNumber := some envelope.round

theorem complete_uploaded {chunkSize : Nat} {target : String} {createdAt : Rat} (completedAt : Rat)
    (unfinished : store.completed.get? envelope.transferId = none)
    (canonical : envelope.Canonical P) (positive : 0 < envelope.timestampNs)
    (isEncoded : envelope.encode P = .ok encoded) (least : 1 ≤ chunkSize)
    (isPending : store.transfers.get? envelope.transferId = some (uploaded P
      { announced := announcing envelope target (totalChunksOf encoded.length chunkSize), createdAt }
      encoded chunkSize (totalChunksOf encoded.length chunkSize))) :
    ∃ transfer, transfer.announced.targetWorkerId = some target ∧
      store.complete P envelope.transferId completedAt =
        ⟨.ok envelope, store.finish envelope.transferId transfer envelope completedAt⟩ := by
  let count := totalChunksOf encoded.length chunkSize
  let base : Transfer := { announced := announcing envelope target count, createdAt }
  have whole : ((uploaded P base encoded chunkSize count).chunks.keys.length : Int) =
      (uploaded P base encoded chunkSize count).announced.totalChunks := by
    rw [keys_uploaded rfl, length_map, length_range, announced_uploaded]
    rfl
  have joined : (uploaded P base encoded chunkSize count).joined = .ok encoded :=
    joined_uploaded rfl (le_totalChunksOf_mul least)
  have scope : (uploaded P base encoded chunkSize count).announced.scope =
      { roomId := some envelope.roomId, runId := some envelope.runId,
        workerId := some envelope.workerId, round := some envelope.round } := by
    rw [announced_uploaded]
    rfl
  have inScope : verifyScope envelope (uploaded P base encoded chunkSize count).announced.scope =
      .ok () := by
    rw [scope, verifyScope]
    simp [raiseIf]
    rfl
  have decoded := decode_in_scope (decode_encode canonical positive isEncoded) inScope
  refine ⟨uploaded P base encoded chunkSize count, ?_, ?_⟩
  · rw [announced_uploaded]
    rfl
  · rw [complete, unfinished, isPending]
    dsimp only
    rw [if_neg (not_not.mpr whole), joined]
    dsimp only
    rw [decoded]

theorem download_of_completed {envelope : BinaryEnvelope} {target : String} {completedAt : Rat}
    (isCompleted : store.completed.get? envelope.transferId =
      some ⟨envelope, some target, completedAt⟩) (named : target ≠ "") :
    store.download envelope.transferId envelope.roomId envelope.runId envelope.workerId
      envelope.round (some target) = .ok envelope := by
  have received : store.receive envelope.transferId target = .ok envelope := by
    rw [receive, isCompleted]
    dsimp only
    rw [if_neg]
    simp
  rw [download, Option.filter_some, if_pos (decide_eq_true named)]
  dsimp only
  refine bind_eq_ok.mpr ⟨envelope, received, ?_⟩
  simp [raiseIf]
  rfl

theorem download_of_absent {id target : String} (absent : id ∉ store.completed.keys)
    (named : target ≠ "") (roomId runId sourceWorkerId : String) (round : Int) :
    store.download id roomId runId sourceWorkerId round (some target) =
      .error (.envelopeError "transfer is not completed") := by
  rw [download, Option.filter_some, if_pos (decide_eq_true named)]
  dsimp only
  rw [receive, get?_eq_none_iff.mpr absent]
  rfl

theorem transfer_download {chunkSize : Nat} {target : String} {cleanedAt : Rat}
    (createdAt completedAt : Rat) (freshPending : envelope.transferId ∉ store.transfers.keys)
    (freshCompleted : envelope.transferId ∉ store.completed.keys) (canonical : envelope.Canonical P)
    (positive : 0 < envelope.timestampNs) (named : target ≠ "")
    (isEncoded : envelope.encode P = .ok encoded) (fits : Fits store encoded chunkSize cleanedAt) :
    ∃ after, store.transfer P chunkSize envelope target cleanedAt createdAt completedAt =
        ⟨.ok (), after⟩ ∧
      after.download envelope.transferId envelope.roomId envelope.runId envelope.workerId
        envelope.round (some target) = .ok envelope := by
  let count := totalChunksOf encoded.length chunkSize
  let announced : Announcement := announcing envelope target count
  let base : Transfer := { announced, createdAt }
  have least : 1 ≤ count := one_le_totalChunksOf fits.positive (length_encode_pos isEncoded)
  have most : count ≤ 65536 := fits.chunks
  have begun : store.begin envelope.transferId announced cleanedAt createdAt =
      ⟨.ok (), { store.cleaned cleanedAt with
        transfers := (store.cleaned cleanedAt).transfers.set envelope.transferId base }⟩ := by
    have counted : ¬ (announced.totalChunks < 1 ∨ 65536 < announced.totalChunks) := by
      change ¬ ((count : Int) < 1 ∨ 65536 < (count : Int))
      omega
    have space : ¬ (store.cleaned cleanedAt).limits.maxTransfers ≤
        (store.cleaned cleanedAt).transfers.keys.length +
          (store.cleaned cleanedAt).completed.keys.length := not_le.mpr fits.space
    rw [begin, if_neg counted, get?_eq_none_iff.mpr freshCompleted,
      get?_eq_none_iff.mpr freshPending]
    dsimp only
    rw [if_neg space]
  obtain ⟨sent, put, isPending, same⟩ := @putChunks_uploaded P
    { store.cleaned cleanedAt with
      transfers := (store.cleaned cleanedAt).transfers.set envelope.transferId base }
    base encoded chunkSize envelope.transferId count 0 rfl rfl get?_set_self
    (by rw [Nat.zero_add]; rfl) fits.chunk fits.bytes
  rw [Nat.zero_add] at isPending
  have unfinished : sent.completed.get? envelope.transferId = none := by
    rw [same, get?_eq_none_iff]
    exact fun member => freshCompleted (mem_cleaned_completed member)
  obtain ⟨transfer, forTarget, completes⟩ := complete_uploaded completedAt unfinished canonical
    positive isEncoded fits.positive isPending
  refine ⟨sent.finish envelope.transferId transfer envelope completedAt, ?_, ?_⟩
  · rw [BinaryRelayStore.transfer, isEncoded]
    dsimp only
    change (store.begin envelope.transferId announced cleanedAt createdAt).andThen _ = _
    rw [begun, Outcome.andThen]
    dsimp only
    change (putChunks P envelope.transferId encoded chunkSize count 0 _).andThen _ = _
    rw [put, Outcome.andThen]
    dsimp only
    rw [completes]
    rfl
  · refine @download_of_completed _ envelope target completedAt ?_ named
    rw [finish, get?_set_self, forTarget]

/-! ## What a transfer changes -/

def SameBut (id : String) (store after : BinaryRelayStore) : Prop :=
  ∀ other, other ≠ id ->
    after.completed.get? other = store.completed.get? other ∧
    after.transfers.get? other = store.transfers.get? other

theorem SameBut.refl (id : String) (store : BinaryRelayStore) : SameBut id store store :=
  fun _ _ => ⟨rfl, rfl⟩

theorem SameBut.trans {id : String} {middle after : BinaryRelayStore} (first : SameBut id store middle)
    (second : SameBut id middle after) : SameBut id store after := by
  intro other different
  exact ⟨(second other different).1.trans (first other different).1,
    (second other different).2.trans (first other different).2⟩

theorem sameBut_pending (id : String) (transfer : Transfer) :
    SameBut id store { store with transfers := store.transfers.set id transfer } :=
  fun _ different => ⟨rfl, get?_set_of_ne different⟩

theorem sameBut_finish (id : String) (transfer : Transfer) (envelope : BinaryEnvelope)
    (completedAt : Rat) : SameBut id store (store.finish id transfer envelope completedAt) :=
  fun _ different => ⟨get?_set_of_ne different, get?_erase_of_ne different⟩

def OnlyLoses (id : String) (store after : BinaryRelayStore) : Prop :=
  ∀ other, other ≠ id ->
    (∀ done, after.completed.get? other = some done -> store.completed.get? other = some done) ∧
    (∀ transfer, after.transfers.get? other = some transfer ->
      store.transfers.get? other = some transfer)

theorem SameBut.onlyLoses {after : BinaryRelayStore} {current : Rat}
    (same : SameBut id store after ∨ SameBut id (store.cleaned current) after) :
    OnlyLoses id store after := by
  intro other different
  rcases same with same | same
  · rw [(same other different).1, (same other different).2]
    exact ⟨fun _ found => found, fun _ found => found⟩
  · rw [(same other different).1, (same other different).2]
    exact ⟨fun _ => get?_cleaned_completed, fun _ => get?_cleaned_transfers⟩

theorem OnlyLoses.absent {id other : String} {after : BinaryRelayStore}
    (loses : OnlyLoses id store after) (different : other ≠ id) :
    (other ∉ store.completed.keys -> other ∉ after.completed.keys) ∧
      (other ∉ store.transfers.keys -> other ∉ after.transfers.keys) := by
  constructor
  · intro absent member
    rcases exists_get?_of_mem member with ⟨done, found⟩
    exact absent (mem_keys_of_get? ((loses other different).1 done found))
  · intro absent member
    rcases exists_get?_of_mem member with ⟨transfer, found⟩
    exact absent (mem_keys_of_get? ((loses other different).2 transfer found))

theorem putChunk_frame (id : String) (index : Int) (chunk : Bytes) :
    SameBut id store (store.putChunk P id index chunk).state ∧
      (store.putChunk P id index chunk).state.completed = store.completed := by
  have same := SameBut.refl id store
  rw [putChunk]
  cases store.transfers.get? id with
  | none => exact ⟨same, rfl⟩
  | some transfer =>
    dsimp only
    split_ifs with outside large again many
    · exact ⟨same, rfl⟩
    · exact ⟨same, rfl⟩
    · cases transfer.fingerprints.get? index with
      | none => exact ⟨same, rfl⟩
      | some fingerprint =>
        dsimp only
        split_ifs
        · exact ⟨same, rfl⟩
        · exact ⟨same, rfl⟩
    · exact ⟨same, rfl⟩
    · exact ⟨sameBut_pending id _, rfl⟩

theorem putChunks_frame (id : String) (encoded : Bytes) (chunkSize count index : Nat) :
    SameBut id store (putChunks P id encoded chunkSize count index store).state ∧
      (putChunks P id encoded chunkSize count index store).state.completed = store.completed := by
  induction count generalizing index store with
  | zero => exact ⟨SameBut.refl id store, rfl⟩
  | succ count ih =>
    have first := @putChunk_frame P store id index
      ((encoded.drop (index * chunkSize)).take chunkSize)
    rw [putChunks, Outcome.andThen]
    split
    · exact ⟨first.1.trans (ih _).1, (ih _).2.trans first.2⟩
    · exact first

theorem putChunk_stores {transfer : Transfer} {index : Int} {chunk : Bytes}
    (isPending : store.transfers.get? id = some transfer) (new : index ∉ transfer.chunks.keys)
    (accepted : (store.putChunk P id index chunk).result = .ok ()) :
    (store.putChunk P id index chunk).state.transfers.get? id =
      some (transfer.withChunk P index chunk) := by
  rw [putChunk, isPending] at accepted ⊢
  dsimp only at accepted ⊢
  split_ifs at accepted ⊢
  exact get?_set_self

theorem putChunks_stores {base : Transfer} {id : String} {encoded : Bytes}
    {chunkSize count index : Nat} (empty : base.chunks.keys = [])
    (isPending : store.transfers.get? id = some (uploaded P base encoded chunkSize index))
    (accepted : (putChunks P id encoded chunkSize count index store).result = .ok ()) :
    (putChunks P id encoded chunkSize count index store).state.transfers.get? id =
      some (uploaded P base encoded chunkSize (index + count)) := by
  induction count generalizing index store with
  | zero => exact isPending
  | succ count ih =>
    have new : (index : Int) ∉ (uploaded P base encoded chunkSize index).chunks.keys := by
      rw [keys_uploaded empty, mem_map]
      rintro ⟨other, member, same⟩
      have before := mem_range.mp member
      omega
    rw [putChunks, Outcome.andThen] at accepted ⊢
    split at accepted
    · rename_i value passed
      have stored := putChunk_stores isPending new passed
      have later := ih stored accepted
      rw [later]
      congr 2
      omega
    · cases accepted

theorem begin_cases (freshPending : id ∉ store.transfers.keys)
    (freshCompleted : id ∉ store.completed.keys) (announced : Announcement)
    (cleanedAt createdAt : Rat) :
    (∃ error, store.begin id announced cleanedAt createdAt = ⟨.error error, store⟩) ∨
    (∃ error, store.begin id announced cleanedAt createdAt =
      ⟨.error error, store.cleaned cleanedAt⟩) ∨
    store.begin id announced cleanedAt createdAt = ⟨.ok (), { store.cleaned cleanedAt with
      transfers := (store.cleaned cleanedAt).transfers.set id { announced, createdAt } }⟩ := by
  rw [begin, get?_eq_none_iff.mpr freshCompleted, get?_eq_none_iff.mpr freshPending]
  dsimp only
  split_ifs
  · exact Or.inl ⟨_, rfl⟩
  · exact Or.inr (Or.inl ⟨_, rfl⟩)
  · exact Or.inr (Or.inr rfl)

/-- The sender of an envelope that the store does not know finds it completed,
or hears why not; the other transfers stay as they are, or as a clean-up
leaves them. -/
theorem transfer_cases {chunkSize : Nat} (target : String) (cleanedAt createdAt completedAt : Rat)
    (freshPending : envelope.transferId ∉ store.transfers.keys)
    (freshCompleted : envelope.transferId ∉ store.completed.keys) (canonical : envelope.Canonical P)
    (positive : 0 < envelope.timestampNs) (isEncoded : envelope.encode P = .ok encoded)
    (least : 1 ≤ chunkSize) :
    (∃ after, store.transfer P chunkSize envelope target cleanedAt createdAt completedAt =
        ⟨.ok (), after⟩ ∧
      after.completed.get? envelope.transferId = some ⟨envelope, some target, completedAt⟩ ∧
      SameBut envelope.transferId (store.cleaned cleanedAt) after) ∨
    ∃ error after, store.transfer P chunkSize envelope target cleanedAt createdAt completedAt =
        ⟨.error error, after⟩ ∧
      (SameBut envelope.transferId store after ∨
        SameBut envelope.transferId (store.cleaned cleanedAt) after) := by
  let count := totalChunksOf encoded.length chunkSize
  let announced := announcing envelope target count
  let base : Transfer := { announced, createdAt }
  let begun : BinaryRelayStore := { store.cleaned cleanedAt with
    transfers := (store.cleaned cleanedAt).transfers.set envelope.transferId base }
  have unfold : store.transfer P chunkSize envelope target cleanedAt createdAt completedAt =
      (store.begin envelope.transferId announced cleanedAt createdAt).andThen (fun _ store =>
        (putChunks P envelope.transferId encoded chunkSize count 0 store).andThen (fun _ store =>
          (store.complete P envelope.transferId completedAt).andThen (fun _ store =>
            ⟨.ok (), store⟩))) := by
    rw [transfer, isEncoded]
    rfl
  rw [unfold]
  rcases begin_cases freshPending freshCompleted announced cleanedAt createdAt with
    ⟨error, begins⟩ | ⟨error, begins⟩ | begins
  · rw [begins]
    exact Or.inr ⟨error, store, rfl, Or.inl (SameBut.refl _ _)⟩
  · rw [begins]
    exact Or.inr ⟨error, store.cleaned cleanedAt, rfl, Or.inr (SameBut.refl _ _)⟩
  · rw [begins, Outcome.andThen]
    dsimp only
    have framed := @putChunks_frame P begun envelope.transferId encoded chunkSize count 0
    have before : SameBut envelope.transferId (store.cleaned cleanedAt) begun :=
      sameBut_pending envelope.transferId base
    have uploads := before.trans framed.1
    cases puts : putChunks P envelope.transferId encoded chunkSize count 0 begun with
    | mk result sent =>
      rw [puts] at framed uploads
      cases result with
      | error error =>
        rw [Outcome.andThen]
        exact Or.inr ⟨error, sent, rfl, Or.inr uploads⟩
      | ok done =>
        have isPending : sent.transfers.get? envelope.transferId =
            some (uploaded P base encoded chunkSize count) := by
          have stores := @putChunks_stores P begun base envelope.transferId encoded chunkSize
            count 0 rfl get?_set_self (by rw [puts])
          rw [puts, Nat.zero_add] at stores
          exact stores
        have unfinished : sent.completed.get? envelope.transferId = none := by
          rw [framed.2, get?_eq_none_iff]
          exact fun member => freshCompleted (mem_cleaned_completed member)
        rcases complete_uploaded completedAt unfinished canonical positive isEncoded least
          isPending with ⟨whole, forTarget, completes⟩
        refine Or.inl ⟨sent.finish envelope.transferId whole envelope completedAt, ?_, ?_,
          uploads.trans (sameBut_finish _ _ _ _)⟩
        · rw [Outcome.andThen]
          dsimp only
          rw [completes]
          rfl
        · rw [finish, get?_set_self, forTarget]

theorem RelayStep.limits {call : RelayCall} {after : BinaryRelayStore}
    (step : RelayStep P store call after) : after.limits = store.limits := by
  cases step <;> rfl

theorem limits_runCalls (P : Platform) (limits : RelayLimits) (calls : List RelayCall) :
    (runCalls P (new limits) calls).limits = limits := by
  induction calls using List.reverseRecOn with
  | nil => rfl
  | append_singleton calls call ih =>
    rw [runCalls_append]
    exact (step_perform P (runCalls P (new limits) calls) call).limits.trans ih

/-- Over every run of a new store, the bytes received of a pending transfer are
those of its chunks, within the limit and at announced places; the transfers
that the store knows are no more than it may hold, and none is both pending
and completed; and a completed envelope was decoded from the joined chunks of
an announced transfer, in the announced scope.  An envelope with canonical
identifiers and a positive time stamp, for a named receiver, is delivered
unchanged by the store that the run reaches. -/
theorem relay_invariant_and_delivery (P : Platform) (limits : RelayLimits)
    (calls : List RelayCall) :
    (∀ id transfer, (runCalls P (new limits) calls).transfers.get? id = some transfer ->
      transfer.receivedBytes = transfer.storedBytes ∧
      transfer.receivedBytes ≤ limits.maxTransferBytes ∧
      (∀ index, index ∈ transfer.chunks.keys ->
        0 ≤ index ∧ index < transfer.announced.totalChunks) ∧
      Begun calls id transfer) ∧
    (runCalls P (new limits) calls).transfers.keys.length +
      (runCalls P (new limits) calls).completed.keys.length ≤ limits.maxTransfers ∧
    (∀ id, id ∈ (runCalls P (new limits) calls).transfers.keys ->
      id ∉ (runCalls P (new limits) calls).completed.keys) ∧
    (∀ id done, (runCalls P (new limits) calls).completed.get? id = some done ->
      Decoded P (new limits) calls id done) ∧
    ∀ (envelope : BinaryEnvelope) (encoded : Bytes) (chunkSize : Nat) (target : String)
      (cleanedAt createdAt completedAt : Rat),
      envelope.transferId ∉ (runCalls P (new limits) calls).transfers.keys ->
      envelope.transferId ∉ (runCalls P (new limits) calls).completed.keys ->
      envelope.Canonical P -> 0 < envelope.timestampNs -> target ≠ "" ->
      envelope.encode P = .ok encoded ->
      Fits (runCalls P (new limits) calls) encoded chunkSize cleanedAt ->
      ∃ after, (runCalls P (new limits) calls).transfer P chunkSize envelope target cleanedAt
          createdAt completedAt = ⟨.ok (), after⟩ ∧
        after.download envelope.transferId envelope.roomId envelope.runId envelope.workerId
          envelope.round (some target) = .ok envelope := by
  have sound := sound_runCalls P limits calls
  have origins := origins_runCalls P limits calls
  have same := limits_runCalls P limits calls
  refine ⟨?_, ?_, sound.apart, origins.completed, ?_⟩
  · intro id transfer found
    have pending := sound.pending id transfer found
    have bounded := pending.bounded
    rw [same] at bounded
    exact ⟨pending.received, bounded, pending.indices, origins.pending id transfer found⟩
  · have capacity := sound.capacity
    rw [same] at capacity
    exact capacity
  · intro envelope encoded chunkSize target cleanedAt createdAt completedAt freshPending
      freshCompleted canonical positive named isEncoded fits
    exact transfer_download createdAt completedAt freshPending freshCompleted canonical positive
      named isEncoded fits

/-! ## Completed transfers -/

/-- The calls that neither abort a transfer nor clean up from its deadline on. -/
def Spares (id : String) (deadline : Rat) : RelayCall -> Prop
  | .abort transferId => transferId ≠ id
  | .cleanup current => current < deadline
  | .begin _ _ cleanedAt _ => cleanedAt < deadline
  | .putChunk _ _ _ | .complete _ _ | .receive _ _ => True

theorem completed_perform {done : CompletedTransfer} {call : RelayCall}
    (found : store.completed.get? id = some done)
    (spared : Spares id (done.completedAt + store.limits.ttlSeconds) call) :
    (store.perform P call).completed.get? id = some done := by
  have cleaned : ∀ {current : Rat}, current < done.completedAt + store.limits.ttlSeconds ->
      (store.cleaned current).completed.get? id = some done := by
    intro current early
    have fresh : ¬ store.limits.ttlSeconds ≤ current - done.completedAt :=
      not_le.mpr (sub_lt_iff_lt_add'.mpr early)
    rw [BinaryRelayStore.cleaned, get?_filter, found, Option.filter_some,
      if_pos (decide_eq_true fresh)]
  cases call with
  | begin other announced cleanedAt createdAt =>
    show (store.begin other announced cleanedAt createdAt).state.completed.get? id = some done
    unfold BinaryRelayStore.begin
    repeat' split
    any_goals exact found
    -- only a new transfer has the old ones cleaned away first
    dsimp only
    split
    · exact cleaned spared
    · exact cleaned spared
  | putChunk other index chunk =>
    show (store.putChunk P other index chunk).state.completed.get? id = some done
    rw [(putChunk_frame other index chunk).2]
    exact found
  | complete other completedAt =>
    rw [perform]
    rcases complete_cases P store other completedAt with
      ⟨_, _, same⟩ | ⟨_, same⟩ | ⟨_, _, _, completes, same⟩
    · rw [same]
      exact found
    · rw [same]
      exact found
    · rw [same]
      have different : id ≠ other := by
        rintro rfl
        exact completes.fresh (mem_keys_of_get? found)
      exact (get?_set_of_ne different).trans found
  | receive other target => exact found
  | abort other => exact (get?_erase_of_ne (Ne.symm spared)).trans found
  | cleanup current => exact cleaned spared

/-- Once a transfer is completed, its envelope is given out again and again until its
time is over or it is aborted, whatever else is asked of the store. -/
theorem completed_given_until_deadline (P : Platform) (store : BinaryRelayStore) (id : String)
    (done : CompletedTransfer) (calls : List RelayCall)
    (found : store.completed.get? id = some done)
    (spared : ∀ call, call ∈ calls -> Spares id (done.completedAt + store.limits.ttlSeconds) call) :
    (∀ completedAt, ((runCalls P store calls).complete P id completedAt).result =
      .ok done.envelope) ∧
    ∀ target, (∀ named, done.targetWorkerId = some named -> named = target) ->
      (runCalls P store calls).receive id target = .ok done.envelope := by
  have kept : (runCalls P store calls).completed.get? id = some done := by
    induction calls generalizing store with
    | nil => exact found
    | cons call rest ih =>
      have same := (step_perform P store call).limits
      refine ih (store.perform P call) (completed_perform found (spared call mem_cons_self)) ?_
      intro later member
      rw [same]
      exact spared later (mem_cons_of_mem call member)
  constructor
  · intro completedAt
    rw [complete, kept]
  · intro target isTarget
    rw [receive, kept]
    refine if_neg ?_
    cases named : done.targetWorkerId with
    | none => exact Bool.false_ne_true
    | some name => simp [isTarget name named]

/-! ## Identifiers in another form -/

def sampleLimits : RelayLimits where
  maxTransferBytes := 1024
  maxChunkBytes := 512
  maxTransfers := 2
  ttlSeconds := 300
  one_le_maxTransferBytes := by decide
  one_le_maxChunkBytes := by decide
  one_le_maxTransfers := by decide
  ttlSeconds_pos := by decide

def undashedEnvelope : BinaryEnvelope :=
  { Reference.envelope with transferId := "fc161b5948905d66877ef7e9c0747558" }

/-- The receiver of an envelope with an undashed identifier gets another
envelope, in which the identifier has its usual form. -/
theorem undashed_transfer_delivered_changed :
    ∃ encoded delivered,
      undashedEnvelope.encode platform = .ok encoded ∧
      Fits (new sampleLimits) encoded 128 0 ∧
      ((new sampleLimits).transfer platform 128 undashedEnvelope "receiver" 0 0 0).result =
        .ok () ∧
      ((new sampleLimits).transfer platform 128 undashedEnvelope "receiver" 0 0 0).state.download
        undashedEnvelope.transferId undashedEnvelope.roomId undashedEnvelope.runId
        undashedEnvelope.workerId undashedEnvelope.round (some "receiver") = .ok delivered ∧
      delivered ≠ undashedEnvelope := by
  have evaluated :
      (undashedEnvelope.encode platform).toOption.any (fun encoded =>
        decide (totalChunksOf encoded.length 128 ≤ 65536 ∧ encoded.length ≤ 512)) = true ∧
      ((new sampleLimits).transfer platform 128 undashedEnvelope "receiver" 0 0
        0).result.toOption = some () ∧
      (((new sampleLimits).transfer platform 128 undashedEnvelope "receiver" 0 0
        0).state.download undashedEnvelope.transferId undashedEnvelope.roomId undashedEnvelope.runId
        undashedEnvelope.workerId undashedEnvelope.round (some "receiver")).toOption =
          some Reference.envelope := by
    decide +kernel
  obtain ⟨encodes, transferred, downloaded⟩ := evaluated
  obtain ⟨encoded, isEncoded, sizes⟩ := (Option.any_eq_true _ _).mp encodes
  obtain ⟨few, small⟩ := of_decide_eq_true sizes
  refine ⟨encoded, Reference.envelope, ok_of_toOption isEncoded, ⟨by decide, few, ?_, ?_, by decide⟩,
    ok_of_toOption transferred, ok_of_toOption downloaded, by decide +kernel⟩
  · exact (min_le_right _ _).trans small
  · exact small.trans (by decide)

/-- An envelope is delivered in three chunks while another transfer is uploading. -/
theorem reference_envelope_delivered :
    let calls : List RelayCall := [
      .begin "other" { roomId := "room", runId := "run", totalChunks := 2 } 0 0,
      .putChunk "other" 1 [7]]
    ∃ after, (runCalls platform (new sampleLimits) calls).transfer platform
        64 Reference.envelope "receiver" 1 1 2 = ⟨.ok (), after⟩ ∧
      after.download Reference.envelope.transferId Reference.envelope.roomId Reference.envelope.runId
        Reference.envelope.workerId Reference.envelope.round (some "receiver") =
          .ok Reference.envelope := by
  intro calls
  have evaluated : (Reference.envelope.encode platform).toOption.any (fun encoded =>
      decide (totalChunksOf encoded.length 64 ≤ 65536 ∧ encoded.length ≤ 512)) = true := by
    decide +kernel
  obtain ⟨encoded, isEncoded, sizes⟩ := (Option.any_eq_true _ _).mp evaluated
  obtain ⟨few, small⟩ := of_decide_eq_true sizes
  have delivered := (relay_invariant_and_delivery platform sampleLimits calls).2.2.2.2
  exact delivered Reference.envelope encoded 64 "receiver" 1 1 2 (by decide +kernel)
    (by decide +kernel) Reference.envelope_canonical (by decide) (by decide)
    (ok_of_toOption isEncoded)
    ⟨by decide, few, (min_le_right _ _).trans small, small.trans (by decide), by decide +kernel⟩

/-- The clock has not reached the deadline at 300 seconds. -/
theorem completed_given_after_cleanup :
    let store : BinaryRelayStore := { new sampleLimits with
      completed := Dict.empty.set "t" ⟨Reference.envelope, some "receiver", 0⟩ }
    (runCalls platform store [.cleanup 299, .abort "u"]).receive "t" "receiver" =
      .ok Reference.envelope := by
  intro store
  refine (completed_given_until_deadline platform store "t"
    ⟨Reference.envelope, some "receiver", 0⟩ _ get?_set_self ?_).2 "receiver" ?_
  · intro call member
    rcases mem_cons.mp member with rfl | later
    · show (299 : Rat) < 0 + 300
      norm_num
    · rw [mem_singleton.mp later]
      show "u" ≠ "t"
      decide
  · rintro named ⟨⟩
    rfl

end BinaryRelayStore

end Training
end ZepGpu
