import Mathlib.Algebra.Order.BigOperators.Group.List
import ZepGpu.Training.Envelope
import ZepGpu.Foundation.Dict

namespace ZepGpu
namespace Training

open Foundation

/-!
# The relay store in memory

A sender announces a transfer, uploads its chunks in any order and completes
it.  The bytes of all chunks are then decoded once, in the scope announced at
the beginning, and the envelope waits for its receiver.  Readings of the
monotonic clock are arguments; a call that reads the clock twice has two of
them.
-/

/-- The limits of a store, which its construction requires to be positive. -/
structure RelayLimits where
  maxTransferBytes : Nat
  maxChunkBytes : Nat
  maxTransfers : Nat
  ttlSeconds : Rat
  one_le_maxTransferBytes : 1 ≤ maxTransferBytes
  one_le_maxChunkBytes : 1 ≤ maxChunkBytes
  one_le_maxTransfers : 1 ≤ maxTransfers
  ttlSeconds_pos : 0 < ttlSeconds

/-- The arguments of `begin` besides the identifier of the transfer. -/
structure Announcement where
  roomId : String
  runId : String
  totalChunks : Int
  workerId : Option String := none
  targetWorkerId : Option String := none
  roundNumber : Option Int := none
  deriving DecidableEq

/-- `_Transfer` -/
structure Transfer where
  announced : Announcement
  createdAt : Rat
  receivedBytes : Nat := 0
  chunks : Dict Int Bytes := Dict.empty
  fingerprints : Dict Int Bytes := Dict.empty

/-- `_CompletedTransfer` -/
structure CompletedTransfer where
  envelope : BinaryEnvelope
  targetWorkerId : Option String
  completedAt : Rat

/-- The transfers in memory, pending and completed. -/
structure BinaryRelayStore where
  limits : RelayLimits
  transfers : Dict String Transfer
  completed : Dict String CompletedTransfer

def Announcement.scope (announced : Announcement) : Scope where
  roomId := some announced.roomId
  runId := some announced.runId
  workerId := announced.workerId
  round := announced.roundNumber

/-- `b"".join(transfer.chunks[index] for index in range(transfer.total_chunks))` -/
def Transfer.joined (transfer : Transfer) : Except TrainingError Bytes := do
  let pieces ← (List.range transfer.announced.totalChunks.toNat).mapM (fun index : Nat =>
    match transfer.chunks.get? index with
    | some chunk => .ok chunk
    | none => .error (.keyError (toString index)))
  .ok pieces.flatten

def Transfer.withChunk (P : Platform) (transfer : Transfer) (index : Int) (chunk : Bytes) : Transfer :=
  { transfer with
    chunks := transfer.chunks.set index chunk
    fingerprints := transfer.fingerprints.set index (P.sha256 chunk)
    receivedBytes := transfer.receivedBytes + chunk.length }

namespace BinaryRelayStore

/-- `__init__` -/
def new (limits : RelayLimits) : BinaryRelayStore where
  limits := limits
  transfers := Dict.empty
  completed := Dict.empty

variable (P : Platform) (store : BinaryRelayStore)

def cleaned (current : Rat) : BinaryRelayStore :=
  { store with
    transfers := store.transfers.filter (fun _ transfer =>
      ¬ store.limits.ttlSeconds ≤ current - transfer.createdAt)
    completed := store.completed.filter (fun _ transfer =>
      ¬ store.limits.ttlSeconds ≤ current - transfer.completedAt) }

def cleanup (current : Rat) : Outcome BinaryRelayStore TrainingError Nat :=
  let cleaned := store.cleaned current
  ⟨.ok ((store.transfers.keys.length - cleaned.transfers.keys.length) +
    (store.completed.keys.length - cleaned.completed.keys.length)), cleaned⟩

def matchesCompleted (announced : Announcement) (done : CompletedTransfer) : Bool :=
  decide (done.envelope.roomId = announced.roomId ∧ done.envelope.runId = announced.runId ∧
    -- an absent or empty worker stands for the one of the envelope
    done.envelope.workerId = (announced.workerId.filter (· ≠ "")).getD done.envelope.workerId ∧
    done.targetWorkerId = announced.targetWorkerId ∧
    done.envelope.round = announced.roundNumber.getD done.envelope.round)

def begin (transferId : String) (announced : Announcement) (cleanedAt createdAt : Rat) :
    Outcome BinaryRelayStore TrainingError Unit :=
  if announced.totalChunks < 1 ∨ 65536 < announced.totalChunks then
    ⟨.error (.envelopeError "invalid chunk count"), store⟩
  else
    match store.completed.get? transferId with
    | some done =>
      if matchesCompleted announced done then
        ⟨.error (.transferConflictError "transfer is already completed"), store⟩
      else ⟨.error (.transferConflictError "conflicting completed transfer"), store⟩
    | none =>
      match store.transfers.get? transferId with
      | some existing =>
        if existing.announced = announced then ⟨.ok (), store⟩
        else ⟨.error (.transferConflictError "conflicting duplicate transfer"), store⟩
      | none =>
        let store := store.cleaned cleanedAt
        if store.limits.maxTransfers ≤
            store.transfers.keys.length + store.completed.keys.length then
          ⟨.error (.envelopeError "relay transfer capacity reached"), store⟩
        else
          ⟨.ok (), { store with
            transfers := store.transfers.set transferId { announced, createdAt } }⟩

def putChunk (transferId : String) (index : Int) (chunk : Bytes) :
    Outcome BinaryRelayStore TrainingError Unit :=
  match store.transfers.get? transferId with
  | none => ⟨.error (.envelopeError "unknown transfer"), store⟩
  | some transfer =>
    if index < 0 ∨ transfer.announced.totalChunks ≤ index then
      ⟨.error (.envelopeError "chunk index out of range"), store⟩
    else if store.limits.maxChunkBytes < chunk.length then
      ⟨.error (.envelopeError "chunk exceeds size limit"), store⟩
    else if index ∈ transfer.chunks.keys then
      match transfer.fingerprints.get? index with
      | none => ⟨.error (.keyError (toString index)), store⟩
      | some fingerprint =>
        if fingerprint ≠ P.sha256 chunk then
          ⟨.error (.transferConflictError "conflicting duplicate chunk"), store⟩
        else ⟨.ok (), store⟩
    else if store.limits.maxTransferBytes < transfer.receivedBytes + chunk.length then
      ⟨.error (.envelopeError "transfer exceeds size limit"), store⟩
    else
      ⟨.ok (), { store with
        transfers := store.transfers.set transferId (transfer.withChunk P index chunk) }⟩

/-- The transfer is taken from the pending ones and kept as completed. -/
def finish (transferId : String) (transfer : Transfer) (envelope : BinaryEnvelope)
    (completedAt : Rat) : BinaryRelayStore :=
  { store with
    transfers := store.transfers.erase transferId
    completed := store.completed.set transferId
      ⟨envelope, transfer.announced.targetWorkerId, completedAt⟩ }

def complete (transferId : String) (completedAt : Rat) :
    Outcome BinaryRelayStore TrainingError BinaryEnvelope :=
  match store.completed.get? transferId with
  | some done => ⟨.ok done.envelope, store⟩
  | none =>
    match store.transfers.get? transferId with
    | none => ⟨.error (.envelopeError "unknown transfer"), store⟩
    | some transfer =>
      if (transfer.chunks.keys.length : Int) ≠ transfer.announced.totalChunks then
        ⟨.error (.envelopeError "transfer is incomplete"), store⟩
      else
        match transfer.joined with
        | .error error => ⟨.error error, store⟩
        | .ok encoded =>
          match BinaryEnvelope.decode P encoded transfer.announced.scope with
          | .error error => ⟨.error error, store⟩
          | .ok envelope => ⟨.ok envelope, store.finish transferId transfer envelope completedAt⟩

def receive (transferId targetWorkerId : String) : Except TrainingError BinaryEnvelope :=
  match store.completed.get? transferId with
  | none => .error (.envelopeError "transfer is not completed")
  | some done =>
    if done.targetWorkerId.any (fun target => target ≠ targetWorkerId) then
      .error (.transferConflictError "transfer belongs to another target worker")
    else .ok done.envelope

def abort (transferId : String) : Outcome BinaryRelayStore TrainingError Bool :=
  ⟨.ok (decide (transferId ∈ store.transfers.keys ∨ transferId ∈ store.completed.keys)), { store with
    transfers := store.transfers.erase transferId
    completed := store.completed.erase transferId }⟩

/-! ## The channel in memory -/

/-- `InMemoryRelayChannel.transfer` from its second line on: the chunks from
`index` on, of which `count` are left. -/
def putChunks (transferId : String) (encoded : Bytes) (chunkSize : Nat) :
    Nat -> Nat -> BinaryRelayStore -> Outcome BinaryRelayStore TrainingError Unit
  | 0, _, store => ⟨.ok (), store⟩
  | count + 1, index, store =>
    (store.putChunk P transferId index ((encoded.drop (index * chunkSize)).take chunkSize)).andThen
      (fun _ store => putChunks transferId encoded chunkSize count (index + 1) store)

/-- `math.ceil(length / chunk_size)`.  The quotient is a float; below the
limits on payload and metadata it is exact enough for the ceiling to be that
of the fraction. -/
def totalChunksOf (length chunkSize : Nat) : Nat :=
  (length + chunkSize - 1) / chunkSize

def transfer (chunkSize : Nat) (envelope : BinaryEnvelope) (targetWorkerId : String)
    (cleanedAt createdAt completedAt : Rat) : Outcome BinaryRelayStore TrainingError Unit :=
  match envelope.encode P with
  | .error error => ⟨.error error, store⟩
  | .ok encoded =>
    let count := totalChunksOf encoded.length chunkSize
    (store.begin envelope.transferId {
        roomId := envelope.roomId
        runId := envelope.runId
        totalChunks := count
        workerId := some envelope.workerId
        targetWorkerId := some targetWorkerId
        roundNumber := some envelope.round } cleanedAt createdAt).andThen (fun _ store =>
      (putChunks P envelope.transferId encoded chunkSize count 0 store).andThen (fun _ store =>
        (store.complete P envelope.transferId completedAt).andThen (fun _ store => ⟨.ok (), store⟩)))

def download (transferId roomId runId sourceWorkerId : String) (roundNumber : Int)
    (targetWorkerId : Option String) : Except TrainingError BinaryEnvelope :=
  match targetWorkerId.filter (· ≠ "") with
  | none => .error (.valueError "InMemoryRelayChannel.download requires target_worker_id")
  | some target => do
      let envelope ← store.receive transferId target
      raiseIf (envelope.roomId ≠ roomId ∨ envelope.runId ≠ runId)
        (.envelopeError "relay download scope mismatch")
      raiseIf (envelope.workerId ≠ sourceWorkerId)
        (.envelopeError "relay download source worker mismatch")
      raiseIf (envelope.round ≠ roundNumber) (.envelopeError "relay download round mismatch")
      .ok envelope

end BinaryRelayStore

end Training
end ZepGpu
