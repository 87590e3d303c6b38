import ZepGpu.Training.Coordinator
import ZepGpu.Training.Relay

namespace ZepGpu
namespace Training

open Foundation

/-!
# One round of two workers

Two orchestrators that are each other's peer run `sync_round` for one round.
Each sends the bytes of its envelope to the other, directly or through the
relay store, announces its transfer on the bus, and then waits for the update
of the other, either in its own inbox or on the bus and at the store.  At every
`await` the other orchestrator may run, so a call of the model is the part of
`sync_round` between two of them.  A wait that is not over leaves the state as
it is; time-outs of waits are not modelled.
-/

inductive Side where
  | left
  | right
  deriving DecidableEq

def Side.peer : Side -> Side
  | .left => .right
  | .right => .left

theorem Side.peer_peer (side : Side) : side.peer.peer = side := by
  cases side <;> rfl

theorem Side.peer_ne (side : Side) : side.peer ≠ side := by
  cases side <;> decide

theorem Side.eq_or_eq_peer (side other : Side) : other = side ∨ other = side.peer := by
  cases side <;> cases other <;> decide

/-- What a side expects, and the payloads it has seen. -/
structure BinaryInbox where
  roomId : String
  runId : String
  workerId : Option String := none
  fingerprints : Dict String Bytes := Dict.empty

def BinaryInbox.receive (P : Platform) (inbox : BinaryInbox) (encoded : Bytes)
    (expectedRound : Option Int := none) :
    Outcome BinaryInbox TrainingError (Option BinaryEnvelope) :=
  match BinaryEnvelope.decode P encoded {
      roomId := some inbox.roomId
      runId := some inbox.runId
      workerId := inbox.workerId
      round := expectedRound } with
  | .error error => ⟨.error error, inbox⟩
  | .ok envelope =>
    match inbox.fingerprints.get? envelope.transferId with
    | some previous =>
      if previous ≠ P.sha256 encoded then
        ⟨.error (.duplicateTransferError "conflicting duplicate transfer"), inbox⟩
      else ⟨.ok none, inbox⟩
    | none =>
      ⟨.ok (some envelope), { inbox with
        fingerprints := inbox.fingerprints.set envelope.transferId (P.sha256 encoded) }⟩

inductive Path where
  | direct
  | relay
  deriving DecidableEq

/-- How an attempt of `direct.send` ends. -/
inductive Attempt where
  | accepted
  /-- `DirectUnavailable` or `TimeoutError`, which the bytes may still have outrun. -/
  | unavailable (reached : Bool)
  | failed (error : TrainingError)

/-- An orchestrator with its transfer manager and its call of `sync_round`. -/
structure SyncOrchestrator where
  workerId : String
  /-- `self.compressor.codec_id` -/
  codecId : String
  maxRetries : Nat
  chunkSize : Nat
  one_le_chunkSize : 1 ≤ chunkSize
  preferRelayDownload : Bool := false
  /-- `precompressed`, or what the compressor makes of the local deltas -/
  update : CompressedUpdate
  transferId : String
  timestampNs : Int
  /-- How the attempts to send directly end, by their number. -/
  attempts : Nat -> Attempt

/-- A round of two sides with the bytes that they exchange. -/
structure SyncRound (N : Numpy) where
  roomId : String
  runId : String
  number : Int
  orchestrator : Side -> SyncOrchestrator
  /-- `decompress` of the compressor with this codec, after its check of the codec. -/
  unpack : String -> Bytes -> Except TrainingError (Tensors N)
  /-- `0.5` -/
  half : N.Scalar

/-- How an update was sent. -/
structure TransferMetric where
  transferId : String
  path : Path
  bytes : Nat
  retries : Nat
  deriving DecidableEq

/-- What a side reports at the end of the round. -/
structure SyncRoundResult (N : Numpy) where
  round : Int
  path : Path
  bytesSent : Nat
  bytesReceived : Nat
  uncompressedBytes : Nat
  compressedBytes : Nat
  peerUpdate : Tensors N
  averaged : Tensors N
  transfer : TransferMetric

namespace SyncRound

variable {N : Numpy} (P : Platform) (shared : SyncRound N)

def envelopeFor (side : Side) : BinaryEnvelope :=
  let own := shared.orchestrator side
  { roomId := shared.roomId
    runId := shared.runId
    workerId := own.workerId
    transferId := own.transferId
    round := shared.number
    payloadType := "adapter_delta"
    shape := [own.update.payload.length]
    dtype := "uint8"
    compression := own.update.codec
    payload := own.update.payload
    timestampNs := own.timestampNs }

def workerOf (side : Side) : String :=
  (shared.orchestrator side).workerId

def transferOf (side : Side) : String :=
  (shared.orchestrator side).transferId

/-- `self.compressor.decompress(update)` -/
def decompress (side : Side) (update : CompressedUpdate) : Except TrainingError (Tensors N) := do
  let codecId := (shared.orchestrator side).codecId
  raiseIf (update.codec ≠ codecId)
    (.valueError ("expected codec " ++ codecId ++ ", got " ++ update.codec))
  shared.unpack codecId update.payload

/-- `((local_hat[name] + peer_np[name]) * 0.5)` -/
def averageAt (localHat peer : Tensors N) (name : String) : Except TrainingError N.Array := do
  let mine ← lookup localHat name
  let other ← lookup peer name
  let sum ← N.add mine other
  .ok (N.scale shared.half sum)

/-- `sync_round` from the envelope of the peer on. -/
def finish (side : Side) (metric : TransferMetric) (peerEnvelope : BinaryEnvelope) :
    Except TrainingError (SyncRoundResult N) := do
  let update := (shared.orchestrator side).update
  raiseIf (peerEnvelope.compression ≠ update.codec)
    (.syncError ("peer codec " ++ peerEnvelope.compression ++ " does not match local " ++
      update.codec))
  let peer ← shared.decompress side ⟨peerEnvelope.compression, peerEnvelope.payload, 0⟩
  let localHat ← shared.decompress side update
  validateMatchingShapes localHat peer
  let averaged ← Dict.build (shared.averageAt localHat peer) localHat.keys
  let received ← peerEnvelope.encode P
  .ok {
    round := shared.number
    path := metric.path
    bytesSent := metric.bytes
    bytesReceived := received.length
    uncompressedBytes := update.uncompressedBytes
    compressedBytes := update.payload.length
    peerUpdate := peer
    averaged
    transfer := metric }

end SyncRound

/-- How far a call of `sync_round` is. -/
inductive Phase (N : Numpy) where
  | ready
  /-- before the direct attempt of this number -/
  | sending (encoded : Bytes) (attempt : Nat)
  | relaying (encoded : Bytes)
  /-- `send` has raised -/
  | unsent (error : TrainingError)
  | sent (metric : TransferMetric)
  | listening (metric : TransferMetric)
  | returned (result : SyncRoundResult N)
  | raised (metric : TransferMetric) (error : TrainingError)

/-- What `send` has returned. -/
def Phase.metric {N : Numpy} : Phase N -> Option TransferMetric
  | .ready | .sending _ _ | .relaying _ | .unsent _ => none
  | .sent metric | .listening metric | .raised metric _ => some metric
  | .returned result => some result.transfer

/-- The inbox of a side and what its peer has put there. -/
structure Mailbox where
  inbox : BinaryInbox
  peerQueue : List Bytes := []

/-- The two sides, what is on the way, the relay and the bus. -/
structure SyncState (N : Numpy) where
  phase : Side -> Phase N
  mailbox : Side -> Mailbox
  /-- The messages on their way to a side. -/
  wire : Side -> List Bytes
  /-- `InMemoryTransferIdBus` -/
  bus : Dict (Int × String) String
  relay : BinaryRelayStore

/-- A step of one side up to its next await. -/
inductive SyncCall where
  | start (side : Side)
  | attempt (side : Side)
  | relay (side : Side) (cleanedAt createdAt completedAt : Rat)
  | publish (side : Side)
  | deliver (side : Side) (index : Nat)
  | listen (side : Side)

namespace SyncState

variable {N : Numpy} (P : Platform) (shared : SyncRound N) (state : SyncState N)

def setPhase (side : Side) (phase : Phase N) : SyncState N :=
  { state with phase := Function.update state.phase side phase }

def setMailbox (side : Side) (mailbox : Mailbox) : SyncState N :=
  { state with mailbox := Function.update state.mailbox side mailbox }

def setWire (side : Side) (messages : List Bytes) : SyncState N :=
  { state with wire := Function.update state.wire side messages }

def receiveEncoded (side : Side) (mailbox : Mailbox) (encoded : Bytes)
    (expectedRound : Option Int := none) :
    Outcome Mailbox TrainingError (Option BinaryEnvelope) :=
  let received := mailbox.inbox.receive P encoded expectedRound
  let mailbox := { mailbox with inbox := received.state }
  match received.result with
  | .error error => ⟨.error error, mailbox⟩
  | .ok none => ⟨.ok none, mailbox⟩
  | .ok (some envelope) =>
    if envelope.workerId = shared.workerOf side then ⟨.ok (some envelope), mailbox⟩
    else if envelope.workerId ≠ shared.workerOf side.peer then
      ⟨.error (.syncError ("envelope from unexpected worker " ++ envelope.workerId ++
        "; expected peer " ++ shared.workerOf side.peer)), mailbox⟩
    else ⟨.ok (some envelope), { mailbox with peerQueue := mailbox.peerQueue ++ [encoded] }⟩

def decodePeer (side : Side) (encoded : Bytes) : Except TrainingError BinaryEnvelope := do
  let envelope ← BinaryEnvelope.decode P encoded {
    roomId := some shared.roomId
    runId := some shared.runId
    workerId := some (shared.workerOf side.peer)
    round := some shared.number }
  raiseIf (envelope.workerId = shared.workerOf side)
    (.syncError "peer envelope was produced by this worker")
  .ok envelope

/-- `_wait_peer_envelope`, which waits for something in the queue. -/
def waitPeerEnvelope (side : Side) : Option (Mailbox × Except TrainingError BinaryEnvelope) :=
  match (state.mailbox side).peerQueue with
  | [] => none
  | encoded :: rest =>
    some ({ state.mailbox side with peerQueue := rest }, decodePeer P shared side encoded)

/-- `_download_peer_envelope`, which waits for the announcement. -/
def downloadPeerEnvelope (side : Side) : Option (Mailbox × Except TrainingError BinaryEnvelope) :=
  (state.bus.get? (shared.number, shared.workerOf side.peer)).map (fun peerTransferId =>
    (state.mailbox side, state.relay.download peerTransferId shared.roomId shared.runId
      (shared.workerOf side.peer) shared.number (some (shared.workerOf side))))

/-- The branches of `sync_round` without `peer_encoded` and with a bus. -/
def fetchPeerEnvelope (side : Side) (metric : TransferMetric) :
    Option (Mailbox × Except TrainingError BinaryEnvelope) :=
  if metric.path = .direct then state.waitPeerEnvelope P shared side
  else if (shared.orchestrator side).preferRelayDownload ∨ metric.path = .relay then
    state.downloadPeerEnvelope shared side
  else state.waitPeerEnvelope P shared side

/-- `start`: the bytes of the envelope are made. -/
def start (side : Side) : SyncState N :=
  match state.phase side with
  | .ready =>
    match (shared.envelopeFor side).encode P with
    | .error error => state.setPhase side (.unsent error)
    | .ok encoded => state.setPhase side (.sending encoded 0)
  | _ => state

/-- One turn of the loop of `TransferManager.send`. -/
def attempt (side : Side) : SyncState N :=
  let own := shared.orchestrator side
  match state.phase side with
  | .sending encoded number =>
    match own.attempts number with
    | .accepted =>
      (state.setWire side.peer (state.wire side.peer ++ [encoded])).setPhase side
        (.sent ⟨own.transferId, .direct, encoded.length, number⟩)
    | .unavailable reached =>
      (state.setWire side.peer (state.wire side.peer ++ if reached then [encoded] else [])).setPhase
        side (if number < own.maxRetries then .sending encoded (number + 1)
          else .relaying encoded)
    | .failed error => state.setPhase side (.unsent error)
  | _ => state

/-- `TransferManager.send` after its loop, on the relay channel in memory. -/
def relayTransfer (side : Side) (cleanedAt createdAt completedAt : Rat) : SyncState N :=
  let own := shared.orchestrator side
  match state.phase side with
  | .relaying encoded =>
    let outcome := state.relay.transfer P own.chunkSize (shared.envelopeFor side)
      (shared.workerOf side.peer) cleanedAt createdAt completedAt
    { state.setPhase side (match outcome.result with
        | .error error => .unsent error
        | .ok () => .sent ⟨own.transferId, .relay, encoded.length, own.maxRetries⟩) with
      relay := outcome.state }
  | _ => state

def publish (side : Side) : SyncState N :=
  match state.phase side with
  | .sent metric =>
    { state.setPhase side (.listening metric) with
      bus := state.bus.set (shared.number, shared.workerOf side) (shared.transferOf side) }
  | _ => state

/-- A message arrives; what the receiver raises stays in the channel. -/
def deliver (side : Side) (index : Nat) : SyncState N :=
  match (state.wire side)[index]? with
  | none => state
  | some encoded =>
    (state.setWire side ((state.wire side).eraseIdx index)).setMailbox side
      (receiveEncoded P shared side (state.mailbox side) encoded).state

/-- The update of the peer, when it is there, and the rest of the round. -/
def listen (side : Side) : SyncState N :=
  match state.phase side with
  | .listening metric =>
    match state.fetchPeerEnvelope P shared side metric with
    | none => state
    | some (mailbox, fetched) =>
      (state.setMailbox side mailbox).setPhase side
        (match fetched >>= shared.finish P side metric with
        | .error error => .raised metric error
        | .ok result => .returned result)
  | _ => state

def perform : SyncCall -> SyncState N
  | .start side => state.start P shared side
  | .attempt side => state.attempt shared side
  | .relay side cleanedAt createdAt completedAt =>
    state.relayTransfer P shared side cleanedAt createdAt completedAt
  | .publish side => state.publish shared side
  | .deliver side index => state.deliver P shared side index
  | .listen side => state.listen P shared side

/-- No step changes the state any more. -/
def Settled : Prop :=
  ∀ call, state.perform P shared call = state

end SyncState

end Training
end ZepGpu
