import ZepGpu.Foundation.JsonReader
import ZepGpu.Training.Platform

namespace ZepGpu
namespace Vpn

open Foundation

/-!
# Messages of the peer endpoint

A message is a strict JSON object with declared fields only, and its integrity
field is a code over all the others under the token of the sender.  Decoding
is a function of the bytes and the token.

The canonical text of a message keeps characters outside ASCII as they are.
-/

/-- What the peer endpoint takes from its platform beside digests and UUIDs. -/
structure Platform extends Training.Platform where
  /-- `sign_message`, which refuses a malformed private key. -/
  signMessage : String -> String -> Option String

def maxEncodedMessageSize : Nat := 64 * 1024
def maxAuthTokenLength : Nat := 256
def maxGpuDeviceId : Int := 255
def maxGpuMemoryMb : Int := 1024 * 1024
def maxTimeoutSeconds : Int := 24 * 60 * 60
def messageMaxAgeSeconds : Int := 5 * 60
def messageFutureSkewSeconds : Int := 30
def maxJsonNestingDepth : Nat := 100

/-- An error with its status code, 400 by default. -/
structure ProtocolError where
  detail : String
  statusCode : Nat := 400
  deriving DecidableEq, Repr

section Messages

variable (P : Platform)

def validateProtocolSecret (secret : String) : Except ProtocolError Bytes :=
  let encoded := utf8 secret
  if encoded.length < 32 ∨ maxAuthTokenLength < encoded.length then
    .error ⟨"Peer protocol token must contain 32 to 256 UTF-8 bytes", 400⟩
  else .ok encoded

def normalizeUuid (value : String) : Option String :=
  (P.uuidOfString value).map P.strOfUuid

/-- The payload of the one operation. -/
structure NoopPayload where
  message : String := "remote noop completed"
  deriving DecidableEq, Repr

/-- The fields `version`, `kind` and `operation` have one value each. -/
structure ExecuteTaskMessage where
  messageId : String
  roomId : String
  senderPeerId : String
  recipientPeerId : String
  taskId : String
  issuedAt : Int
  gpuDeviceId : Int
  gpuMemoryMb : Int
  timeoutSeconds : Int
  payload : NoopPayload
  integrity : String
  deriving DecidableEq, Repr

/-- The result of the one operation. -/
structure NoopResult where
  status : String := "ok"
  message : String
  deriving DecidableEq, Repr

/-- `_UUID_PATTERN` -/
def matchesUuid (text : String) : Bool :=
  let parts := text.toList.splitOn '-'
  parts.map List.length = [8, 4, 4, 4, 12] &&
    parts.all (fun part => part.all (fun c => (Json.hexDigit? c).isSome))

/-- `_SHA256_PATTERN` -/
def matchesSha256 (text : String) : Bool :=
  text.length = 64 && text.toList.all (fun c => c ∈ "0123456789abcdef".toList)

def executeFields : List String :=
  ["version", "kind", "message_id", "room_id", "sender_peer_id", "recipient_peer_id", "task_id",
    "issued_at", "operation", "gpu_device_id", "gpu_memory_mb", "timeout_seconds", "payload",
    "integrity"]

/-- `_validate_json_nesting`: whether some depth is too large.  The scan ends
where more is closed than was opened. -/
def nestsTooDeep (depth : Nat) (inString escaped : Bool) : List Char -> Bool
  | [] => false
  | c :: rest =>
    if inString then
      if escaped then nestsTooDeep depth true false rest
      else if c = '\\' then nestsTooDeep depth true true rest
      else if c = '"' then nestsTooDeep depth false false rest
      else nestsTooDeep depth true false rest
    else if c = '"' then nestsTooDeep depth true false rest
    else if c = '[' ∨ c = '{' then
      if maxJsonNestingDepth < depth + 1 then true else nestsTooDeep (depth + 1) false false rest
    else if c = ']' ∨ c = '}' then
      if depth = 0 then false else nestsTooDeep (depth - 1) false false rest
    else nestsTooDeep depth false false rest

def decodeUtf8 (raw : Bytes) : Except ProtocolError String := do
  raiseIf (raw = []) ⟨"Peer message is empty", 400⟩
  raiseIf (maxEncodedMessageSize < raw.length) ⟨"Encoded message exceeds the maximum size", 413⟩
  match ofUtf8? raw with
  | some text => .ok text
  | none => .error ⟨"Peer message is not valid UTF-8", 400⟩

theorem decodeUtf8_utf8Chars {text : List Char} (nonempty : utf8Chars text ≠ [])
    (short : (utf8Chars text).length ≤ maxEncodedMessageSize) :
    decodeUtf8 (utf8Chars text) = .ok (String.ofList text) := by
  have encoded : utf8Chars text = utf8 (String.ofList text) := by
    rw [utf8_eq_flatMap, String.toList_ofList, utf8Chars]
  unfold decodeUtf8
  apply raiseIf_bind_eq_ok.mpr
  refine ⟨nonempty, raiseIf_bind_eq_ok.mpr ⟨not_lt.mpr short, ?_⟩⟩
  rw [encoded, ofUtf8?_utf8]

/-- The detail for a text that is not read.  Half of a surrogate pair is found
by the source only when the schema is validated. -/
def readErrorDetail : Json.ReadError -> String
  | .malformed => "Peer message is malformed JSON"
  | .duplicateField => "Duplicate JSON object field"
  | .invalidConstant name => "Invalid JSON constant: " ++ name
  | .loneSurrogate => "Peer message schema validation failed"

end Messages

end Vpn
end ZepGpu
