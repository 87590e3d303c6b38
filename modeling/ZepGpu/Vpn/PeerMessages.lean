import ZepGpu.Foundation.JsonValues
import ZepGpu.Vpn.PeerProtocol

namespace ZepGpu
namespace Vpn
namespace PeerMessages

open Foundation
open Foundation.Json

/-!
# Building, encoding and decoding peer messages

The builders sign what the caller passes and validate it afterwards, so the
code is taken over the values as they were passed.  The encoder writes what
the schema stored.  The schema is strict, with one exception: a field for a
float takes an integer and stores the equal float.

Whatever is not text in the signature of a builder is a dynamic value here,
since nothing but the schema checks it.
-/

/-- The errors of writing and reading messages. -/
inductive PeerError where
  | protocol (error : ProtocolError)
  | valueError (message : String)
  | validationError
  deriving DecidableEq, Repr

inductive Kind where
  | execute
  | result
  deriving DecidableEq, Repr

def Kind.name : Kind -> String
  | .execute => "task.execute"
  | .result => "task.result"

/-- `TaskResultMessage`, over the floats of the platform. -/
structure TaskResultMessage (F : Type) where
  messageId : String
  requestMessageId : String
  roomId : String
  senderPeerId : String
  recipientPeerId : String
  taskId : String
  success : Bool
  result : Option NoopResult
  error : Option String
  executionTime : F
  resultDigest : Option String
  attestationSignature : Option String
  ledgerPublicKey : Option String
  integrity : String

/-- A message of one of the two kinds. -/
inductive PeerMessage (F : Type) where
  | execute (message : ExecuteTaskMessage)
  | result (message : TaskResultMessage F)

def PeerMessage.kind {F : Type} : PeerMessage F -> Kind
  | .execute _ => .execute
  | .result _ => .result

def PeerMessage.integrity {F : Type} : PeerMessage F -> String
  | .execute message => message.integrity
  | .result message => message.integrity

/-- The arguments of `create_execute_message`. -/
structure ExecuteArguments (F : Type) where
  messageId : String
  roomId : String
  senderPeerId : String
  recipientPeerId : String
  taskId : String
  issuedAt : Value F
  gpuDeviceId : Value F
  gpuMemoryMb : Value F
  timeoutSeconds : Value F
  message : Value F := .str "remote noop completed"

/-- The arguments of `create_result_message`. -/
structure ResultArguments (F : Type) where
  messageId : String
  requestMessageId : String
  roomId : String
  senderPeerId : String
  recipientPeerId : String
  taskId : String
  success : Value F
  result : Option NoopResult
  error : Value F
  executionTime : Value F
  resultDigest : Value F := .null
  attestationSignature : Value F := .null
  ledgerPublicKey : Value F := .null

section Messages

variable {F : Type} (P : Platform) (floats : Floats F)

abbrev Fields (F : Type) := List (String × Value F)

def canonicalJson (fields : Fields F) : Except PeerError Bytes :=
  if writable floats (.obj fields) then .ok (utf8Chars (text floats (sorted (.obj fields))))
  else .error (.protocol ⟨"Message contains non-JSON values", 400⟩)

def secretKey (secret : String) : Except PeerError Bytes :=
  (validateProtocolSecret secret).mapError (fun error => .valueError error.detail)

/-- `normalize_uuid` -/
def normalizedUuid (value fieldName : String) : Except PeerError String :=
  match normalizeUuid P value with
  | some text => .ok text
  | none => .error (.valueError (fieldName ++ " must be a UUID"))

def unsignedPayload (fields : Fields F) : Fields F :=
  fields.filter (fun field => field.1 ≠ "integrity")

/-- Bind every declared field to the authenticated sender token. -/
def calculateIntegrity (fields : Fields F) (secret : String) : Except PeerError String := do
  let key ← secretKey secret
  let encoded ← canonicalJson floats (unsignedPayload fields)
  .ok (P.hmacSha256Hex key encoded)

def signPayload (fields : Fields F) (secret : String) : Except PeerError (Fields F) := do
  let integrity ← calculateIntegrity P floats fields secret
  .ok (fields ++ [("integrity", .str integrity)])

def textField (test : String -> Bool) (fields : Fields F) (key : String) : Option String :=
  match lookup fields key with
  | some (.str text) => if test text then some text else none
  | _ => none

/-- A field with a string that passes a test or nothing, which it is when it
is missing. -/
def optionalTextField (test : String -> Bool) (fields : Fields F) (key : String) :
    Option (Option String) :=
  match lookup fields key with
  | none => some none
  | some .null => some none
  | some (.str text) => if test text then some (some text) else none
  | _ => none

def intField (least : Int) (greatest : Option Int) (fields : Fields F) (key : String) : Option Int :=
  match lookup fields key with
  | some (.int value) =>
    if least ≤ value ∧ greatest.all (fun bound => value ≤ bound) then some value else none
  | _ => none

def boolField (fields : Fields F) (key : String) : Option Bool :=
  match lookup fields key with
  | some (.bool value) => some value
  | _ => none

/-- The float that a strict field stores.  An integer is no other type here. -/
def storedFloat : Value F -> Option F
  | .float value => some value
  | .int value => some (floats.ofInt value)
  | _ => none

def floatField (least greatest : Rat) (fields : Fields F) (key : String) : Option F := do
  let value ← (lookup fields key).bind (storedFloat floats)
  let number ← floats.value value
  guard (least ≤ number ∧ number ≤ greatest)
  some value

/-- `Field(min_length=1, max_length=256)` -/
def noopText (text : String) : Bool :=
  1 ≤ text.length && text.length ≤ 256

/-- `NoopPayload.model_validate` -/
def validateNoopPayload : Value F -> Option NoopPayload
  | .obj fields => do
      guard (fields.all (fun field => field.1 ∈ ["message"]) = true)
      match lookup fields "message" with
      | none => some {}
      | some _ => (textField noopText fields "message").map NoopPayload.mk
  | _ => none

/-- `status: Literal["ok"] = "ok"` -/
def statusField (fields : Fields F) : Option String :=
  match lookup fields "status" with
  | none => some "ok"
  | some _ => textField (· = "ok") fields "status"

/-- `NoopResult.model_validate` -/
def validateNoopResult : Value F -> Option NoopResult
  | .obj fields => do
      guard (fields.all (fun field => field.1 ∈ ["status", "message"]) = true)
      let status ← statusField fields
      let message ← textField noopText fields "message"
      some ⟨status, message⟩
  | _ => none

/-- `ExecuteTaskMessage.model_validate` -/
def validateExecute (fields : Fields F) : Option ExecuteTaskMessage := do
  guard (fields.all (fun field => field.1 ∈ executeFields) = true)
  let _ ← intField 1 (some 1) fields "version"
  let _ ← textField (· = "task.execute") fields "kind"
  let messageId ← textField matchesUuid fields "message_id"
  let roomId ← textField matchesUuid fields "room_id"
  let senderPeerId ← textField matchesUuid fields "sender_peer_id"
  let recipientPeerId ← textField matchesUuid fields "recipient_peer_id"
  let taskId ← textField matchesUuid fields "task_id"
  let issuedAt ← intField 0 none fields "issued_at"
  let _ ← textField (· = "noop") fields "operation"
  let gpuDeviceId ← intField 0 (some maxGpuDeviceId) fields "gpu_device_id"
  let gpuMemoryMb ← intField 0 (some maxGpuMemoryMb) fields "gpu_memory_mb"
  let timeoutSeconds ← intField 1 (some maxTimeoutSeconds) fields "timeout_seconds"
  let payload ← (lookup fields "payload").bind validateNoopPayload
  let integrity ← textField matchesSha256 fields "integrity"
  some {
    messageId, roomId, senderPeerId, recipientPeerId, taskId, issuedAt, gpuDeviceId, gpuMemoryMb
    timeoutSeconds, payload, integrity }

def resultFields : List String :=
  ["version", "kind", "message_id", "request_message_id", "room_id", "sender_peer_id",
    "recipient_peer_id", "task_id", "success", "result", "error", "execution_time", "result_digest",
    "attestation_signature", "ledger_public_key", "integrity"]

/-- `NoopResult | None` -/
def optionalResult (fields : Fields F) : Option (Option NoopResult) :=
  match lookup fields "result" with
  | none => some none
  | some .null => some none
  | some value => (validateNoopResult value).map some

/-- `validate_outcome` -/
def outcomeAllowed (success : Bool) (result : Option NoopResult) (error : Option String) : Bool :=
  if success then result.isSome && error.isNone
  else result.isNone && error.any (fun text => text ≠ "")

/-- `TaskResultMessage.model_validate` -/
def validateResult (fields : Fields F) : Option (TaskResultMessage F) := do
  guard (fields.all (fun field => field.1 ∈ resultFields) = true)
  let _ ← intField 1 (some 1) fields "version"
  let _ ← textField (· = "task.result") fields "kind"
  let messageId ← textField matchesUuid fields "message_id"
  let requestMessageId ← textField matchesUuid fields "request_message_id"
  let roomId ← textField matchesUuid fields "room_id"
  let senderPeerId ← textField matchesUuid fields "sender_peer_id"
  let recipientPeerId ← textField matchesUuid fields "recipient_peer_id"
  let taskId ← textField matchesUuid fields "task_id"
  let success ← boolField fields "success"
  let result ← optionalResult fields
  let error ← optionalTextField (fun text => text.length ≤ 2048) fields "error"
  let executionTime ← floatField floats 0 maxTimeoutSeconds fields "execution_time"
  let resultDigest ← optionalTextField matchesSha256 fields "result_digest"
  let attestationSignature ←
    optionalTextField (fun text => text.length ≤ 512) fields "attestation_signature"
  let ledgerPublicKey ← optionalTextField (fun text => text.length ≤ 512) fields "ledger_public_key"
  let integrity ← textField matchesSha256 fields "integrity"
  guard (outcomeAllowed success result error = true)
  some {
    messageId, requestMessageId, roomId, senderPeerId, recipientPeerId, taskId, success, result, error
    executionTime, resultDigest, attestationSignature, ledgerPublicKey, integrity }

def validateModel (kind : Kind) (fields : Fields F) : Option (PeerMessage F) :=
  match kind with
  | .execute => (validateExecute fields).map PeerMessage.execute
  | .result => (validateResult floats fields).map PeerMessage.result

/-- The identifiers of a request in their canonical spelling. -/
structure ExecuteIds where
  messageId : String
  roomId : String
  senderPeerId : String
  recipientPeerId : String
  taskId : String

def executeIds (args : ExecuteArguments F) : Except PeerError ExecuteIds := do
  let messageId ← normalizedUuid P args.messageId "message_id"
  let roomId ← normalizedUuid P args.roomId "room_id"
  let senderPeerId ← normalizedUuid P args.senderPeerId "sender_peer_id"
  let recipientPeerId ← normalizedUuid P args.recipientPeerId "recipient_peer_id"
  let taskId ← normalizedUuid P args.taskId "task_id"
  .ok ⟨messageId, roomId, senderPeerId, recipientPeerId, taskId⟩

def executePayload (ids : ExecuteIds) (args : ExecuteArguments F) : Fields F :=
  [("version", .int 1), ("kind", .str "task.execute"), ("message_id", .str ids.messageId),
    ("room_id", .str ids.roomId), ("sender_peer_id", .str ids.senderPeerId),
    ("recipient_peer_id", .str ids.recipientPeerId), ("task_id", .str ids.taskId),
    ("issued_at", args.issuedAt), ("operation", .str "noop"), ("gpu_device_id", args.gpuDeviceId),
    ("gpu_memory_mb", args.gpuMemoryMb), ("timeout_seconds", args.timeoutSeconds),
    ("payload", .obj [("message", args.message)])]

def createExecuteMessage (secret : String) (args : ExecuteArguments F) :
    Except PeerError ExecuteTaskMessage := do
  let ids ← executeIds P args
  let signed ← signPayload P floats (executePayload ids args) secret
  match validateExecute signed with
  | some message => .ok message
  | none => .error .validationError

/-- `result.model_dump(mode="json") if result is not None else None` -/
def dumpNoopResult : Option NoopResult -> Value F
  | none => .null
  | some result => .obj [("status", .str result.status), ("message", .str result.message)]

/-- The identifiers of a result in their canonical spelling. -/
structure ResultIds where
  messageId : String
  requestMessageId : String
  roomId : String
  senderPeerId : String
  recipientPeerId : String
  taskId : String

def resultIds (args : ResultArguments F) : Except PeerError ResultIds := do
  let messageId ← normalizedUuid P args.messageId "message_id"
  let requestMessageId ← normalizedUuid P args.requestMessageId "request_message_id"
  let roomId ← normalizedUuid P args.roomId "room_id"
  let senderPeerId ← normalizedUuid P args.senderPeerId "sender_peer_id"
  let recipientPeerId ← normalizedUuid P args.recipientPeerId "recipient_peer_id"
  let taskId ← normalizedUuid P args.taskId "task_id"
  .ok ⟨messageId, requestMessageId, roomId, senderPeerId, recipientPeerId, taskId⟩

def resultPayload (ids : ResultIds) (args : ResultArguments F) : Fields F :=
  [("version", .int 1), ("kind", .str "task.result"), ("message_id", .str ids.messageId),
    ("request_message_id", .str ids.requestMessageId), ("room_id", .str ids.roomId),
    ("sender_peer_id", .str ids.senderPeerId), ("recipient_peer_id", .str ids.recipientPeerId),
    ("task_id", .str ids.taskId), ("success", args.success), ("result", dumpNoopResult args.result),
    ("error", args.error), ("execution_time", args.executionTime),
    ("result_digest", args.resultDigest), ("attestation_signature", args.attestationSignature),
    ("ledger_public_key", args.ledgerPublicKey)]

def createResultMessage (secret : String) (args : ResultArguments F) :
    Except PeerError (TaskResultMessage F) := do
  let ids ← resultIds P args
  let signed ← signPayload P floats (resultPayload ids args) secret
  match validateResult floats signed with
  | some message => .ok message
  | none => .error .validationError

def dumpText : Option String -> Value F
  | none => .null
  | some text => .str text

/-- `message.model_dump(mode="json")` -/
def dumpExecute (message : ExecuteTaskMessage) : Fields F :=
  [("version", .int 1), ("kind", .str "task.execute"), ("message_id", .str message.messageId),
    ("room_id", .str message.roomId), ("sender_peer_id", .str message.senderPeerId),
    ("recipient_peer_id", .str message.recipientPeerId), ("task_id", .str message.taskId),
    ("issued_at", .int message.issuedAt), ("operation", .str "noop"),
    ("gpu_device_id", .int message.gpuDeviceId), ("gpu_memory_mb", .int message.gpuMemoryMb),
    ("timeout_seconds", .int message.timeoutSeconds),
    ("payload", .obj [("message", .str message.payload.message)]),
    ("integrity", .str message.integrity)]

/-- `message.model_dump(mode="json")` -/
def dumpResult (message : TaskResultMessage F) : Fields F :=
  [("version", .int 1), ("kind", .str "task.result"), ("message_id", .str message.messageId),
    ("request_message_id", .str message.requestMessageId), ("room_id", .str message.roomId),
    ("sender_peer_id", .str message.senderPeerId),
    ("recipient_peer_id", .str message.recipientPeerId), ("task_id", .str message.taskId),
    ("success", .bool message.success), ("result", dumpNoopResult message.result),
    ("error", dumpText message.error), ("execution_time", .float message.executionTime),
    ("result_digest", dumpText message.resultDigest),
    ("attestation_signature", dumpText message.attestationSignature),
    ("ledger_public_key", dumpText message.ledgerPublicKey), ("integrity", .str message.integrity)]

def modelDump : PeerMessage F -> Fields F
  | .execute message => dumpExecute message
  | .result message => dumpResult message

def encodeMessage (message : PeerMessage F) : Except PeerError Bytes := do
  let encoded ← canonicalJson floats (modelDump message)
  raiseIf (maxEncodedMessageSize < encoded.length)
    (.protocol ⟨"Encoded message exceeds the maximum size", 413⟩)
  .ok encoded

def refused (detail : String) : PeerError :=
  .protocol ⟨detail, 400⟩

/-- `_parse_json_object`, on the characters of the text. -/
def parseJsonObject (text : List Char) : Except PeerError (Fields F) := do
  raiseIf (nestsTooDeep 0 false false text = true)
    (refused "Peer message exceeds the maximum JSON nesting depth")
  match rawDecodeValue floats text with
  | .error error => .error (refused (readErrorDetail error))
  | .ok (value, rest) => do
      raiseIf (rest ≠ []) (refused "Trailing bytes are not permitted")
      match value with
      | .obj fields => .ok fields
      | _ => .error (refused "Peer message must be a JSON object")

def selectMessageModel (fields : Fields F) (expectedKind : Option Kind) : Except PeerError Kind := do
  match lookup fields "version" with
  | some (.int version) => raiseIf (version ≠ 1) (refused "Unsupported peer protocol version")
  | some (.float version) =>
    raiseIf (floats.value version ≠ some 1) (refused "Unsupported peer protocol version")
  | _ => .error (refused "Unsupported peer protocol version")
  match lookup fields "kind" with
  | some (.str name) =>
    match [Kind.execute, Kind.result].find? (fun kind => kind.name = name) with
    | none => .error (refused "Unknown peer message kind")
    | some kind => do
        raiseIf (expectedKind.any (fun expected => kind ≠ expected) = true)
          (refused "Unexpected peer message kind")
        .ok kind
  | _ => .error (refused "Peer message kind must be a string")

def validateMessage (fields : Fields F) (kind : Kind) (secret : String) :
    Except PeerError (PeerMessage F) :=
  match validateModel floats kind fields with
  | none => .error (refused "Peer message schema validation failed")
  | some message => do
      let expected ← calculateIntegrity P floats fields secret
      raiseIf (message.integrity ≠ expected)
        (.protocol ⟨"Peer message integrity check failed", 401⟩)
      .ok message

def decodeMessage (raw : Bytes) (secret : String) (expectedKind : Option Kind) :
    Except PeerError (PeerMessage F) := do
  let text ← (decodeUtf8 raw).mapError PeerError.protocol
  let fields ← parseJsonObject floats text.toList
  let kind ← selectMessageModel floats fields expectedKind
  validateMessage P floats fields kind secret

end Messages

end PeerMessages
end Vpn
end ZepGpu
