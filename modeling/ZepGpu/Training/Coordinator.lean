import ZepGpu.Training.Checkpoint
import ZepGpu.Training.Integrity
import ZepGpu.Training.OuterOptimizer

namespace ZepGpu
namespace Training

open Foundation

/-!
# The elastic DiLoCo coordinator

The coordinator is an object in memory.  Each of its methods is a function
from its state to a result or an exception, together with the state it leaves
behind: an exception does not undo what was assigned before it.  Clock
readings are arguments.  Wall-clock times are microseconds, those in envelopes
and update records are nanoseconds.
-/

inductive MembershipState where
  | active
  | bootstrapping
  | left
  | failed
  deriving DecidableEq

inductive RoundState where
  | open_
  | paused
  | finalized
  deriving DecidableEq

inductive UpdateDisposition where
  | accepted
  | duplicate
  | late
  | stale
  | inactive
  deriving DecidableEq

/-- What the coordinator knows about a worker. -/
structure WorkerMembership where
  state : MembershipState
  bootstrappedRound : Int := 0
  rejoinCount : Nat := 0
  reason : Option String := none
  deriving DecidableEq

/-- The answer to an update. -/
structure UpdateReceipt where
  disposition : UpdateDisposition
  workerId : String
  roundNumber : Int
  reason : String
  deriving DecidableEq

/-- The record of a round that has ended. -/
structure OuterRoundMetric where
  roundNumber : Int
  state : RoundState
  expectedWorkers : Nat
  acceptedWorkers : Nat
  minK : Nat
  stragglerWorkerIds : List String
  uncompressedBytes : Int
  compressedBytes : Nat
  deriving DecidableEq

/-- `_Round` -/
structure Round (N : Numpy) where
  number : Int
  deadlineAt : Int
  expectedWorkerIds : List String
  state : RoundState := .open_
  updates : Dict String (Tensors N) := Dict.empty
  transferIds : List String := []
  uncompressedBytes : Int := 0
  compressedBytes : Nat := 0
  rejected : List UpdateReceipt := []

/-- What a compressor returns, as far as an envelope carries it. -/
structure CompressedUpdate where
  codec : String
  payload : Bytes
  uncompressedBytes : Nat

/-- `UpdateCompressor`; its state is a dictionary of residuals. -/
structure UpdateCompressor (N : Numpy) where
  compress : Tensors N -> Tensors N -> Except TrainingError (CompressedUpdate × Tensors N)
  /-- Only the codec and the payload of an update are looked at. -/
  decompress : String -> Bytes -> Except TrainingError (Tensors N)

/-- The checks of the configuration are part of its type. -/
structure Phase18TrainingConfig (N : Numpy) where
  requestedNodeCount : Nat
  minK : Nat
  syncDeadline : Int
  dilocoH : Nat
  outerOptimizer : OuterOptimizerConfig N
  one_le_minK : 1 ≤ minK
  minK_le_requestedNodeCount : minK ≤ requestedNodeCount
  requestedNodeCount_le : requestedNodeCount ≤ 256
  syncDeadline_nonneg : 0 ≤ syncDeadline
  one_le_dilocoH : 1 ≤ dilocoH

/-- The part of the configuration that a checkpoint carries. -/
structure TrainingRunConfig (N : Numpy) where
  schemaVersion : Int
  phase18 : Option (Phase18TrainingConfig N)
  codecId : String
  compressor : UpdateCompressor N
  /-- `config.to_public_dict()` -/
  publicDict : Json
  compressionDump : Json

/-- `ElasticDiLoCoCoordinator` -/
structure Coordinator (N : Numpy) where
  roomId : String
  runId : String
  config : TrainingRunConfig N
  job : Phase18TrainingConfig N
  placement : Json
  /-- `placement.get("selected_island_ids", [])` -/
  selectedIslandIds : List String
  globalState : Tensors N
  members : Dict String WorkerMembership
  outerOptimizer : OuterOptimizer N
  currentRound : Int := 0
  activeRound : Option (Round N) := none
  latestCheckpoint : Option Checkpoint := none
  metrics : List OuterRoundMetric := []
  roomMacKey : Option String := none
  replayGuard : ReplayGuard

namespace Coordinator

variable {N : Numpy} (P : Platform)

/-- `str(uuid.UUID(value))` -/
def canonicalId (value : String) : Except TrainingError String :=
  match P.uuidOfString value with
  | some id => .ok (P.strOfUuid id)
  | none => .error (.valueError "badly formed hexadecimal UUID string")

def requireJob (config : TrainingRunConfig N) : Except TrainingError (Phase18TrainingConfig N) :=
  match config.phase18 with
  | some job =>
    if config.schemaVersion = 3 then .ok job
    else .error (.diLoCoError "elastic DiLoCo requires a schema-version 3 Phase 18 config")
  | none => .error (.diLoCoError "elastic DiLoCo requires a schema-version 3 Phase 18 config")

def initialMembers (workerIds : List String) : Dict String WorkerMembership :=
  (workerIds.insertionSort (· ≤ ·)).foldl
    (fun members worker => members.set worker { state := .active }) Dict.empty

/-- `__init__`, with the replay guard that is read from its file. -/
def new (roomId runId : String) (config : TrainingRunConfig N) (initialState : Tensors N)
    (workerIds : List String) (placement : Json) (selectedIslandIds : List String)
    (replayGuard : ReplayGuard) :
    Except TrainingError (Coordinator N) := do
  let job ← requireJob config
  raiseIf (¬ workerIds.Nodup) (.diLoCoError "worker_ids must be unique")
  raiseIf (workerIds.length ≠ job.requestedNodeCount)
    (.diLoCoError "worker_ids must match requested_node_count")
  let roomId ← canonicalId P roomId
  let runId ← canonicalId P runId
  raiseIf (initialState.keys = []) (.diLoCoError "initial_state cannot be empty")
  .ok {
    roomId, runId, config, job, placement, selectedIslandIds, replayGuard
    globalState := initialState
    members := initialMembers workerIds
    outerOptimizer := OuterOptimizer.new job.outerOptimizer }

variable (c : Coordinator N)

def activeWorkerIds : List String :=
  (c.members.keys.filter (fun worker =>
    (c.members.get? worker).any (fun member => member.state = .active))).insertionSort (· ≤ ·)

def startRound (now : Int) : Outcome (Coordinator N) TrainingError Int :=
  if c.activeRound.any (fun active => active.state ≠ .finalized) then
    ⟨.error (.diLoCoError "an outer round is already active"), c⟩
  else if c.activeWorkerIds.length < c.job.minK then
    ⟨.error (.diLoCoError ("cannot start round below min_k: " ++
      toString c.activeWorkerIds.length ++ " < " ++ toString c.job.minK)), c⟩
  else
    ⟨.ok (c.currentRound + 1), { c with
      activeRound := some {
        number := c.currentRound + 1
        deadlineAt := now + c.job.syncDeadline
        expectedWorkerIds := c.activeWorkerIds } }⟩

def reject (disposition : UpdateDisposition) (workerId : String) (roundNumber : Int)
    (reason : String) : Outcome (Coordinator N) TrainingError UpdateReceipt :=
  let receipt : UpdateReceipt := ⟨disposition, workerId, roundNumber, reason⟩
  ⟨.ok receipt, { c with
    activeRound := c.activeRound.map (fun active =>
      { active with rejected := active.rejected ++ [receipt] }) }⟩

/-- The rejections that come before the payload is looked at. -/
def screen (envelope : BinaryEnvelope) : Option (UpdateDisposition × String) :=
  match c.activeRound with
  | none => some (.late, "round finalized")
  | some active =>
    if envelope.round < c.currentRound + 1 then some (.late, "round finalized")
    else if envelope.round ≠ active.number then some (.stale, "update is not for the active round")
    else if active.state = .finalized then some (.late, "round finalized")
    else if active.state = .paused then some (.late, "round is paused")
    else
      match c.members.get? envelope.workerId with
      | none => some (.inactive, "worker inactive")
      | some member =>
        if member.state ≠ .active then some (.inactive, "worker inactive")
        else if member.bootstrappedRound < envelope.round - 1 then
          some (.stale, "worker has not bootstrapped the latest checkpoint")
        else if envelope.workerId ∈ active.updates.keys ∨
            envelope.transferId ∈ active.transferIds then
          some (.duplicate, "duplicate worker update")
        else none

/-- `self.room_mac_key and b"|mac=" in envelope.extensions` -/
def macKeyFor (envelope : BinaryEnvelope) : Option String :=
  c.roomMacKey.filter (fun key => key ≠ "" ∧ occursIn (utf8 "|mac=") envelope.extensions = true)

def checkIntegrity (envelope : BinaryEnvelope) (timeNs : Int) : Except TrainingError ReplayGuard :=
  match c.macKeyFor envelope with
  | some key => acceptLiveOuterEnvelope P envelope c.roomId c.runId key c.replayGuard timeNs
  | none => .ok c.replayGuard

/-- The tensors of an update, once they are known to fit the global state. -/
def decodeUpdate (envelope : BinaryEnvelope) : Except TrainingError (Tensors N) := do
  raiseIf (envelope.compression ≠ c.config.codecId)
    (.diLoCoError "outer update compressor does not match run config")
  let decoded ← c.config.compressor.decompress envelope.compression envelope.payload
  validateMatchingShapes c.globalState decoded
  .ok decoded

/-- The size that the extensions announce, else the size of the tensors. -/
def uncompressedBytesOf (extensions : Bytes) (decoded : Tensors N) : Int :=
  let announced := (ascii? extensions).bind (fun text =>
    readInt? (((splitOnce? ['|'] text).map Prod.fst).getD text))
  announced.getD ((decoded.keys.filterMap decoded.get?).map N.nbytes).sum

def Round.accept (active : Round N) (envelope : BinaryEnvelope) (decoded : Tensors N) : Round N :=
  { active with
    updates := active.updates.set envelope.workerId decoded
    transferIds := active.transferIds ++ [envelope.transferId]
    uncompressedBytes := active.uncompressedBytes + uncompressedBytesOf envelope.extensions decoded
    compressedBytes := active.compressedBytes + envelope.payload.length }

def admitUpdate (envelope : BinaryEnvelope) (timeNs : Int) :
    Outcome (Coordinator N) TrainingError UpdateReceipt :=
  if envelope.payloadType ≠ "diloco_outer_delta" then
    ⟨.error (.diLoCoError "unexpected binary payload type"), c⟩
  else
    match c.checkIntegrity P envelope timeNs with
    | .error (.updateIntegrityError message) =>
      c.reject .stale envelope.workerId envelope.round ("integrity: " ++ message)
    | .error error => ⟨.error error, c⟩
    | .ok guard =>
      let c := { c with replayGuard := guard }
      match c.decodeUpdate envelope with
      | .error error => ⟨.error error, c⟩
      | .ok decoded =>
        ⟨.ok ⟨.accepted, envelope.workerId, envelope.round, "outer update accepted"⟩,
          { c with activeRound := c.activeRound.map (Round.accept · envelope decoded) }⟩

def submitEncoded (encoded : Bytes) (timeNs : Int) :
    Outcome (Coordinator N) TrainingError UpdateReceipt :=
  match BinaryEnvelope.decode P encoded { roomId := c.roomId, runId := c.runId } with
  | .error error => ⟨.error error, c⟩
  | .ok envelope =>
    match c.screen envelope with
    | some (disposition, reason) => c.reject disposition envelope.workerId envelope.round reason
    | none => c.admitUpdate P envelope timeNs

def roundMetric (active : Round N) : OuterRoundMetric where
  roundNumber := active.number
  state := active.state
  expectedWorkers := active.expectedWorkerIds.length
  acceptedWorkers := active.updates.keys.length
  minK := c.job.minK
  stragglerWorkerIds := (active.expectedWorkerIds.filter (fun worker =>
    worker ∉ active.updates.keys)).insertionSort (· ≤ ·)
  uncompressedBytes := active.uncompressedBytes
  compressedBytes := active.compressedBytes

/-- `create_checkpoint`, without saving. -/
def createCheckpoint (wall : Int) : Checkpoint where
  runId := c.runId
  step := c.currentRound * c.job.dilocoH
  createdAt := wall
  config := filterSecrets c.config.publicDict
  outerRound := c.currentRound
  modelState := arraysToJson c.globalState
  outerOptimizerState := c.outerOptimizer.stateDict
  activeMembership := c.activeWorkerIds.insertionSort (· ≤ ·)
  compressionConfig := filterSecrets c.config.compressionDump
  placement := filterSecrets c.placement
  islandIds := c.selectedIslandIds.insertionSort (· ≤ ·)

/-- The updates, worker by worker in the order of their names. -/
def orderedUpdates (active : Round N) : List (Tensors N) :=
  active.updates.sortedKeys.filterMap active.updates.get?

def meanOf (active : Round N) (name : String) : Except TrainingError N.Array := do
  let items ← (orderedUpdates active).mapM (fun update => lookup update name)
  N.meanOfStack items

def averaged (active : Round N) : Except TrainingError (Tensors N) :=
  Dict.build (meanOf active) c.globalState.sortedKeys

/-- The assignments of a finalization, from the state after the optimizer's
step.  Members are never removed, so that every worker with an update is one. -/
def finalized (active : Round N) (globalState : Tensors N) (wall : Int) : Coordinator N :=
  let active := { active with state := .finalized }
  let c := { c with
    globalState := globalState
    activeRound := some active
    currentRound := active.number
    members := c.members.adjust (fun worker (member : WorkerMembership) =>
      if worker ∈ active.updates.keys then { member with bootstrappedRound := active.number }
      else member)
    metrics := c.metrics ++ [c.roundMetric active] }
  { c with latestCheckpoint := some (c.createCheckpoint wall) }

/-- `finalize_round`; `wall` is the time of the checkpoint. -/
def finalizeRound (now : Int) (allowMinKBeforeDeadline : Bool) (wall : Int) :
    Outcome (Coordinator N) TrainingError (Option OuterRoundMetric) :=
  match c.activeRound with
  | none => ⟨.error (.diLoCoError "no active outer round"), c⟩
  | some active =>
    if active.state = .finalized then
      match c.metrics.getLast? with
      | some metric => ⟨.ok (some metric), c⟩
      | none => ⟨.error .indexError, c⟩
    else
      let accepted := active.updates.keys.length
      if accepted < c.activeWorkerIds.length ∧ now < active.deadlineAt ∧
          allowMinKBeforeDeadline = false then
        ⟨.ok none, c⟩
      else if accepted < c.job.minK then
        if now < active.deadlineAt then ⟨.ok none, c⟩
        else
          let active := { active with state := .paused }
          ⟨.ok (some (c.roundMetric active)), { c with activeRound := some active }⟩
      else
        match c.averaged active with
        | .error error => ⟨.error error, c⟩
        | .ok update =>
          let applied := c.outerOptimizer.apply c.globalState update
          let c := { c with outerOptimizer := applied.state }
          match applied.result with
          | .error error => ⟨.error error, c⟩
          | .ok globalState =>
            ⟨.ok (some (c.roundMetric { active with state := .finalized })),
              c.finalized active globalState wall⟩

/-- `mark_failed` and `graceful_leave` -/
def setMember (workerId : String) (state : MembershipState) (reason : String) :
    Outcome (Coordinator N) TrainingError Unit :=
  match c.members.get? workerId with
  | none => ⟨.error (.diLoCoError ("unknown worker " ++ workerId)), c⟩
  | some member =>
    ⟨.ok (), { c with
      members := c.members.set workerId { member with state := state, reason := some reason } }⟩

def markFailed (workerId reason : String) : Outcome (Coordinator N) TrainingError Unit :=
  c.setMember workerId .failed reason

def gracefulLeave (workerId reason : String) : Outcome (Coordinator N) TrainingError Unit :=
  c.setMember workerId .left reason

def requestJoin (workerId : String) :
    Outcome (Coordinator N) TrainingError (Option Checkpoint) :=
  let member : WorkerMembership :=
    match c.members.get? workerId with
    | none => { state := .bootstrapping }
    | some member =>
      if c.currentRound = 0 then { member with state := .active, bootstrappedRound := 0 }
      else { member with state := .bootstrapping }
  ⟨.ok c.latestCheckpoint, { c with members := c.members.set workerId member }⟩

def readBootstrap (checkpoint : Checkpoint) : Except TrainingError (Tensors N) := do
  raiseIf (checkpoint.runId ≠ c.runId) (.diLoCoError "checkpoint belongs to a different run")
  raiseIf (checkpoint.outerRound ≠ c.currentRound)
    (.diLoCoError "worker must bootstrap the latest finalized outer round")
  let restored ← arraysFromJson N checkpoint.modelState
  validateMatchingShapes c.globalState restored
  raiseIf (∃ name, name ∈ c.globalState.keys ∧
      ((c.globalState.get? name).bind (fun current => (restored.get? name).map (fun value =>
        N.arrayEqual current value))) = some false)
    (.diLoCoError "checkpoint model state is not the current global state")
  .ok restored

def bootstrapWorker (workerId : String) (checkpoint : Checkpoint) :
    Outcome (Coordinator N) TrainingError (Tensors N) :=
  match c.members.get? workerId with
  | none => ⟨.error (.diLoCoError ("unknown worker " ++ workerId)), c⟩
  | some member =>
    match c.readBootstrap checkpoint with
    | .error error => ⟨.error error, c⟩
    | .ok restored =>
      ⟨.ok restored, { c with
        members := c.members.set workerId { member with
          state := .active
          bootstrappedRound := checkpoint.outerRound
          rejoinCount := member.rejoinCount + 1
          reason := none } }⟩

/-- `restore_checkpoint`.  No caller keeps a coordinator that failed to
restore. -/
def restoreCheckpoint (checkpoint : Checkpoint) : Except TrainingError (Coordinator N) := do
  raiseIf (checkpoint.runId ≠ c.runId) (.diLoCoError "checkpoint belongs to a different run")
  let globalState ← arraysFromJson N checkpoint.modelState
  let outerOptimizer ← c.outerOptimizer.loadStateDict checkpoint.outerOptimizerState
  .ok { c with
    globalState, outerOptimizer
    currentRound := checkpoint.outerRound
    latestCheckpoint := some checkpoint
    activeRound := none
    members := c.members.adjust (fun worker (member : WorkerMembership) => { member with
      bootstrappedRound := checkpoint.outerRound
      state := if worker ∈ checkpoint.activeMembership then .active else .bootstrapping }) }

end Coordinator

end Training
end ZepGpu
