import ZepGpu.Foundation.Fifo
import ZepGpu.Vpn.PeerMessages

namespace ZepGpu
namespace Vpn

open Foundation

/-!
# The peer endpoint

The endpoint keeps three tables in memory: the results of the tasks it has
executed, their owners, and the identifiers of the messages it has seen.  A
message enters the table of seen messages before it is executed, and nothing
takes it out again when the execution fails.

Identifiers are drawn and clocks are read by the endpoint; they are part of a
request here.  A request is handled at once after its body is read.
-/

/-- The answers of the routes that are no result, and exceptions. -/
inductive PeerError where
  | http (statusCode : Nat) (detail : String)
  /-- An exception that no route turns into a response of its own. -/
  | raised (error : PeerMessages.PeerError)
  | typeError (message : String)
  deriving DecidableEq, Repr

variable {F : Type}

def maxCachedResults : Nat := 1024
def maxSeenMessages : Nat := 4096

/-- The globals of `peer_node.py`. -/
structure PeerNode (F : Type) where
  roomId : String := ""
  peerId : String := ""
  authorizedPeerTokens : Dict String String := Dict.empty
  ledgerPrivateKey : String := ""
  ledgerPublicKey : String := ""
  taskResults : Dict String (PeerMessages.TaskResultMessage F) := Dict.empty
  taskResultOwners : Dict String String := Dict.empty
  seenMessageIds : Dict String Rat := Dict.empty

/-- A request to `/execute` with the clocks that are read. -/
structure ExecuteRequest (F : Type) where
  authorization : Option String
  contentType : String
  contentLength : Option String
  chunks : List Bytes
  /-- `time.time()` and `time.monotonic()`, in seconds. -/
  wall : Rat
  monotonic : Rat
  /-- How long the operation takes. -/
  elapsed : F
  resultId : Training.Uuid

def ExecuteRequest.raw (request : ExecuteRequest F) : Bytes :=
  request.chunks.flatten

/-- `int(value)` for a float -/
def truncate (value : Rat) : Int :=
  value.num.tdiv value.den

/-- A request to one of the two routes. -/
inductive PeerRequest (F : Type) where
  | execute (request : ExecuteRequest F)
  | result (taskId : String) (authorization : Option String)

def isAscii (text : String) : Bool :=
  text.toList.all (fun c => c.toNat < 128)

/-- `text.lower()`, as far as ASCII letters go. -/
def lower (text : List Char) : List Char :=
  text.map (fun c => if 'A' ≤ c ∧ c ≤ 'Z' then Char.ofNat (c.toNat + 32) else c)

namespace PeerNode

variable (P : Platform) (floats : Json.Floats F) (node : PeerNode F)

/-- `_authenticate_sender`: of several senders with the presented token it is
the last.  Tokens are compared only when all of them are ASCII texts. -/
def authenticateSender (authorization : Option String) : Except PeerError (String × String) :=
  match authorization.filter (fun text => text ≠ "") with
  | none => .error (.http 401 "Missing bearer token")
  | some text =>
    match splitOnce? [' '] text.toList with
    | none => .error (.http 401 "Invalid bearer credentials")
    | some (scheme, token) => do
        raiseIf (lower scheme ≠ "bearer".toList ∨ token = [])
          (.http 401 "Invalid bearer credentials")
        let token := String.ofList token
        raiseIf (maxAuthTokenLength < (utf8 token).length)
          (.http 401 "Invalid bearer credentials")
        let tokens := node.authorizedPeerTokens.keys.filterMap node.authorizedPeerTokens.get?
        raiseIf (tokens ≠ [] ∧ (token :: tokens).any (fun text => !isAscii text))
          (.typeError "comparing strings with non-ASCII characters is not supported")
        match node.authorizedPeerTokens.keys.reverse.find? (fun peer =>
            node.authorizedPeerTokens.get? peer = some token) with
        | none => .error (.http 401 "Invalid bearer credentials")
        | some peer => .ok (peer, token)

/-- The loop of `_read_bounded_json` over the parts of the body. -/
def readChunks (body : Bytes) : List Bytes -> Except PeerError Bytes
  | [] => .ok body
  | chunk :: rest => do
      raiseIf (maxEncodedMessageSize < body.length + chunk.length)
        (.http 413 "Peer message is too large")
      readChunks (body ++ chunk) rest

def readBoundedJson (request : ExecuteRequest F) : Except PeerError Bytes := do
  let mediaType := ((splitOnce? [';'] request.contentType.toList).map Prod.fst).getD
    request.contentType.toList
  raiseIf (lower (strip mediaType) ≠ "application/json".toList)
    (.http 415 "Content-Type must be application/json")
  match request.contentLength with
  | none => readChunks [] request.chunks
  | some text =>
    match readInt? text.toList with
    | none => .error (.http 400 "Invalid Content-Length")
    | some claimedLength => do
        raiseIf (claimedLength < 0) (.http 400 "Invalid Content-Length")
        raiseIf (maxEncodedMessageSize < claimedLength) (.http 413 "Peer message is too large")
        readChunks [] request.chunks

def authorizeMessage (message : ExecuteTaskMessage) (authenticatedPeerId : String) (wall : Rat) :
    Except PeerError Unit := do
  raiseIf (message.senderPeerId ≠ authenticatedPeerId)
    (.http 403 "Sender identity does not match credentials")
  raiseIf (message.roomId ≠ node.roomId) (.http 403 "Message is outside this room")
  raiseIf (message.recipientPeerId ≠ node.peerId) (.http 403 "Message targets a different peer")
  let now := truncate wall
  raiseIf (message.issuedAt < now - messageMaxAgeSeconds) (.http 409 "Peer message has expired")
  raiseIf (now + messageFutureSkewSeconds < message.issuedAt)
    (.http 409 "Peer message timestamp is in the future")

/-- `decode_message(raw, secret=token, expected_kind="task.execute")`, with the
responses of the route to its exceptions -/
def decodeExecute (raw : Bytes) (token : String) : Except PeerError ExecuteTaskMessage :=
  match PeerMessages.decodeMessage P floats raw token (some .execute) with
  | .ok (.execute message) => .ok message
  | .ok (.result _) => .error (.http 400 "Unexpected peer message kind")
  | .error (.protocol error) => .error (.http error.statusCode error.detail)
  | .error error => .error (.raised error)

/-- What `execute_task` checks before it claims the message: the sender with
its token, and the message. -/
def admits (request : ExecuteRequest F) : Except PeerError (String × String × ExecuteTaskMessage) := do
  raiseIf (node.roomId = "" ∨ node.peerId = "" ∨ node.authorizedPeerTokens.keys = [])
    (.http 503 "Peer protocol is not configured")
  let (sender, token) ← node.authenticateSender request.authorization
  let raw ← readBoundedJson request
  let message ← decodeExecute P floats raw token
  node.authorizeMessage message sender request.wall
  .ok (sender, token, message)

def expiredAt (now seenAt : Rat) : Bool :=
  ¬ now - seenAt ≤ messageMaxAgeSeconds

def pruned (now : Rat) : PeerNode F :=
  { node with seenMessageIds := node.seenMessageIds.dropExpired (expiredAt now) }

def claimMessage (message : ExecuteTaskMessage) (now : Rat) :
    Outcome (PeerNode F) PeerError Unit :=
  let node := node.pruned now
  if message.messageId ∈ node.seenMessageIds.keys then
    ⟨.error (.http 409 "Duplicate peer message"), node⟩
  else if message.taskId ∈ node.taskResults.keys then
    ⟨.error (.http 409 "Duplicate peer task"), node⟩
  else
    ⟨.ok (), { node with
      seenMessageIds := (node.seenMessageIds.set message.messageId now).trim maxSeenMessages }⟩

/-- One step of the loop of `_store_result` -/
def evictFirst : PeerNode F :=
  match node.taskResults.keys with
  | [] => node
  | first :: _ =>
    { node with
      taskResults := node.taskResults.popFirst
      taskResultOwners := node.taskResultOwners.erase first }

def storeResult (result : PeerMessages.TaskResultMessage F) (ownerPeerId : String) : PeerNode F :=
  let node := { node with
    taskResults := node.taskResults.set result.taskId result
    taskResultOwners := node.taskResultOwners.set result.taskId ownerPeerId }
  evictFirst^[node.taskResults.keys.length - maxCachedResults] node

/-- The only float of the object is the time of the execution. -/
def hashResultAttestation (taskId : String) (executionTime : F) (resultDigest : String) : String :=
  hexText (P.sha256 (utf8Chars ((Json.obj [("task_id", .str taskId), ("peer_id", .str node.peerId),
    ("success", .bool true), ("execution_time", .float 0), ("result_digest", .str resultDigest)]).encode
      (fun _ => String.ofList (floats.repr executionTime)))))

def attestationFields (taskId : String) (executionTime : F) (resultDigest : String) :
    Except PeerError (Option String × Option String) :=
  if node.ledgerPrivateKey = "" ∨ node.peerId = "" then .ok (none, none)
  else
    match P.signMessage node.ledgerPrivateKey
        (node.hashResultAttestation P floats taskId executionTime resultDigest) with
    | none => .error (.raised (.valueError "malformed private key"))
    | some signature =>
      .ok (some signature,
        if node.ledgerPublicKey = "" then none else some node.ledgerPublicKey)

/-- The arguments of `create_result_message` for a task that succeeded. -/
def resultArguments (sender : String) (message : ExecuteTaskMessage) (resultId : Training.Uuid)
    (result : NoopResult) (executionTime : F) (resultDigest : String)
    (attestation : Option String × Option String) : PeerMessages.ResultArguments F where
  messageId := P.strOfUuid resultId
  requestMessageId := message.messageId
  roomId := node.roomId
  senderPeerId := node.peerId
  recipientPeerId := sender
  taskId := message.taskId
  success := .bool true
  result := some result
  error := .null
  executionTime := .float executionTime
  resultDigest := .str resultDigest
  attestationSignature := PeerMessages.dumpText attestation.1
  ledgerPublicKey := PeerMessages.dumpText attestation.2

def runTask (sender token : String) (message : ExecuteTaskMessage) (request : ExecuteRequest F) :
    Except PeerError (PeerMessages.TaskResultMessage F) := do
  let result : NoopResult := { message := message.payload.message }
  let encoded ← (PeerMessages.canonicalJson floats
    [("status", .str result.status), ("message", .str result.message)]).mapError .raised
  let resultDigest := hexText (P.sha256 encoded)
  let attestation ← node.attestationFields P floats message.taskId request.elapsed resultDigest
  (PeerMessages.createResultMessage P floats token (node.resultArguments P sender message
    request.resultId result request.elapsed resultDigest attestation)).mapError .raised

def maxAuthorizedPeers : Nat := 1024

/-- The loop of `configure_peer_protocol` over the authorized senders. -/
def normalizeTokens : List (String × String) -> Dict String String ->
    Except PeerMessages.PeerError (Dict String String)
  | [], tokens => .ok tokens
  | (sender, token) :: rest, tokens => do
      let sender ← PeerMessages.normalizedUuid P sender "authorized sender peer_id"
      let _ ← PeerMessages.secretKey token
      normalizeTokens rest (tokens.set sender token)

/-- `configure_peer_protocol`: the tables start empty. -/
def configurePeerProtocol (roomId peerId : String) (authorizedPeerTokens : List (String × String)) :
    Except PeerMessages.PeerError (PeerNode F) := do
  raiseIf (authorizedPeerTokens = []) (.valueError "At least one authorized sender is required")
  raiseIf (maxAuthorizedPeers < authorizedPeerTokens.length)
    (.valueError "Too many authorized peer identities")
  let roomId ← PeerMessages.normalizedUuid P roomId "room_id"
  let peerId ← PeerMessages.normalizedUuid P peerId "peer_id"
  let tokens ← normalizeTokens P authorizedPeerTokens Dict.empty
  .ok { node with
    roomId := roomId
    peerId := peerId
    authorizedPeerTokens := tokens
    taskResults := Dict.empty
    taskResultOwners := Dict.empty
    seenMessageIds := Dict.empty }

/-- `POST /execute` -/
def executeTask (request : ExecuteRequest F) :
    Outcome (PeerNode F) PeerError (PeerMessages.TaskResultMessage F) :=
  match node.admits P floats request with
  | .error error => ⟨.error error, node⟩
  | .ok (sender, token, message) =>
    (node.claimMessage message request.monotonic).andThen (fun _ node =>
      match node.runTask P floats sender token message request with
      | .error error => ⟨.error error, node⟩
      | .ok result => ⟨.ok result, node.storeResult result sender⟩)

/-- `GET /result/{task_id}` -/
def getResult (taskId : String) (authorization : Option String) :
    Except PeerError (PeerMessages.TaskResultMessage F) := do
  let (authenticatedPeerId, _) ← node.authenticateSender authorization
  match normalizeUuid P taskId with
  | none => .error (.http 400 "Invalid task id")
  | some normalizedTaskId =>
    match node.taskResults.get? normalizedTaskId with
    | none => .error (.http 404 "Result not found")
    | some result => do
        raiseIf (node.taskResultOwners.get? normalizedTaskId ≠ some authenticatedPeerId)
          (.http 403 "Result belongs to a different sender")
        .ok result

def step (node : PeerNode F) : PeerRequest F -> PeerNode F
  | .execute request => (node.executeTask P floats request).state
  | .result _ _ => node

end PeerNode

end Vpn
end ZepGpu
