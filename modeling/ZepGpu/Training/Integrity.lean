import ZepGpu.Foundation.Dict
import ZepGpu.Training.Envelope

namespace ZepGpu
namespace Training

open Foundation List

/-!
# Message authentication of outer updates

An envelope is mapped to a record of its metadata, and the code is computed
over the JSON text of the record.  The record also holds the time at which it
was made.  Signer and verifier each make one, so that the text that is
verified is the text that was signed only when both clocks read the same.
-/

/-- `NeutralOuterUpdate` -/
structure NeutralOuterUpdate where
  schemaVersion : Int := 1
  modelRevision : String
  parameterNames : List String
  shapes : List (List Int)
  dtype : String
  quantization : String := "none"
  round : Int
  workerId : String
  runId : String
  roomId : String
  payloadSha256 : String
  createdAtNs : Int

/-- `update.model_dump(mode="json")` -/
def NeutralOuterUpdate.modelDump (update : NeutralOuterUpdate) : Json :=
  .obj [("schema_version", .int update.schemaVersion), ("model_revision", .str update.modelRevision),
    ("parameter_names", .arr (update.parameterNames.map .str)),
    ("shapes", .arr (update.shapes.map (fun shape => .arr (shape.map .int)))),
    ("dtype", .str update.dtype), ("quantization", .str update.quantization),
    ("round", .int update.round), ("worker_id", .str update.workerId), ("run_id", .str update.runId),
    ("room_id", .str update.roomId), ("payload_sha256", .str update.payloadSha256),
    ("created_at_ns", .int update.createdAtNs)]

/-- The text of `canonical_update_bytes`.  No field is a floating number. -/
def canonicalUpdateText (update : NeutralOuterUpdate) : List Char :=
  update.modelDump.encode (fun _ => "")

def canonicalUpdateBytes (update : NeutralOuterUpdate) : Bytes :=
  utf8Chars (canonicalUpdateText update)

/-- `hmac.compare_digest` on texts -/
def compareDigest (left right : String) : Except TrainingError Bool :=
  if (left.toList ++ right.toList).all (fun c => c.toNat < 128) then .ok (decide (left = right))
  else .error (.typeError "comparing strings with non-ASCII characters is not supported")

section Integrity

variable (P : Platform)

def payloadDigest (payload : Bytes) : String :=
  hexText (P.sha256 payload)

def signUpdate (update : NeutralOuterUpdate) (roomMacKey : String) : Except TrainingError String := do
  raiseIf (strip roomMacKey.toList = []) (.valueError "room_mac_key cannot be empty")
  .ok (P.hmacSha256Hex (utf8 roomMacKey) (canonicalUpdateBytes update))

def verifyUpdateMac (update : NeutralOuterUpdate) (roomMacKey macHex : String) :
    Except TrainingError Unit := do
  let expected ← signUpdate P update roomMacKey
  let equal ← compareDigest expected macHex
  raiseIf (equal = false) (.updateIntegrityError "outer update MAC verification failed")

def verifyPayloadChecksum (update : NeutralOuterUpdate) (payload : Bytes) :
    Except TrainingError Unit :=
  raiseIf (payloadDigest P payload ≠ update.payloadSha256)
    (.updateIntegrityError "outer update payload checksum mismatch")

/-- The codes seen so far, by run, round and worker.  The guard of a
coordinator is also kept in a file, which holds the same entries. -/
structure ReplayGuard where
  seen : Dict (String × Int × String) String

def ReplayGuard.check (guard : ReplayGuard) (update : NeutralOuterUpdate) (macHex : String) :
    Except TrainingError ReplayGuard :=
  match guard.seen.get? (update.runId, update.round, update.workerId) with
  | none => .ok ⟨guard.seen.set (update.runId, update.round, update.workerId) macHex⟩
  | some previous => do
      let equal ← compareDigest previous macHex
      raiseIf (equal = false) (.updateIntegrityError ("conflicting replay for run=" ++ update.runId ++
        " round=" ++ toString update.round ++ " worker=" ++ update.workerId))
      .ok guard

/-- `accept_outer_update`, without an expected quantization. -/
def acceptOuterUpdate (update : NeutralOuterUpdate) (payload : Bytes) (roomMacKey macHex : String)
    (guard : ReplayGuard) : Except TrainingError ReplayGuard := do
  raiseIf (update.parameterNames.length ≠ update.shapes.length)
    (.updateIntegrityError "parameter_names/shapes mismatch")
  verifyPayloadChecksum P update payload
  verifyUpdateMac P update roomMacKey macHex
  guard.check update macHex

/-- `envelope_to_neutral`, at a reading of the clock. -/
def envelopeToNeutral (envelope : BinaryEnvelope) (roomId runId : String) (timeNs : Int) :
    Except TrainingError NeutralOuterUpdate := do
  raiseIf (envelope.round < 0) (.valueError "Input should be greater than or equal to 0")
  .ok {
    modelRevision := "live-outer"
    parameterNames := ["payload"]
    shapes := [if envelope.shape = [] then [(envelope.payload.length : Int)] else envelope.shape]
    dtype := if envelope.dtype = "" then "u8" else envelope.dtype
    round := envelope.round
    workerId := envelope.workerId
    runId := runId
    roomId := roomId
    payloadSha256 := payloadDigest P envelope.payload
    createdAtNs := timeNs }

def macMark : List Char := "|mac=".toList

/-- The code that extensions carry, empty when they carry none. -/
def macOf (extensions : Bytes) : String :=
  match splitOnce? macMark (asciiReplace extensions) with
  | some (_, after) => String.ofList (strip after)
  | none => ""

def acceptLiveOuterEnvelope (envelope : BinaryEnvelope) (roomId runId roomMacKey : String)
    (guard : ReplayGuard) (timeNs : Int) : Except TrainingError ReplayGuard := do
  let update ← envelopeToNeutral P envelope roomId runId timeNs
  acceptOuterUpdate P update envelope.payload roomMacKey (macOf envelope.extensions) guard

/-- `f"{uncompressed_bytes}|mac={mac}".encode("ascii")` -/
def liveOuterExtensions (uncompressedBytes : Nat) (mac : String) : Bytes :=
  utf8 (toString uncompressedBytes ++ "|mac=" ++ mac)

def signLiveOuterExtensions (uncompressedBytes : Nat) (update : NeutralOuterUpdate)
    (roomMacKey : String) : Except TrainingError Bytes := do
  let mac ← signUpdate P update roomMacKey
  .ok (liveOuterExtensions uncompressedBytes mac)

theorem insertionSort_least {fields : List (String × List Char)} {last : String × List Char}
    (least : ∀ field, field ∈ fields -> ¬ field.1 ≤ last.1) :
    ∃ rest, (fields ++ [last]).insertionSort (fun left right => left.1 ≤ right.1) = last :: rest ∧
      rest.length = fields.length := by
  induction fields with
  | nil => exact ⟨[], rfl, rfl⟩
  | cons field fields ih =>
    obtain ⟨rest, sorted, length⟩ := ih (fun other member => least other (mem_cons_of_mem _ member))
    refine ⟨rest.orderedInsert (fun left right => left.1 ≤ right.1) field, ?_, ?_⟩
    · rw [cons_append, insertionSort_cons, sorted, List.orderedInsert,
        if_neg (least field mem_cons_self)]
    · rw [orderedInsert_length, length, length_cons]

theorem canonicalUpdateText_front (update : NeutralOuterUpdate) :
    ∃ rest, canonicalUpdateText update = "\x7b\"created_at_ns\":".toList ++
      ((toString update.createdAtNs).toList ++ ',' :: rest) := by
  rw [canonicalUpdateText, NeutralOuterUpdate.modelDump, Json.encode]
  simp only [Json.encodeFields, Json.encode]
  generalize (toString update.createdAtNs).toList = time
  obtain ⟨rest, sorted, length⟩ := @insertionSort_least
    [("schema_version", (toString update.schemaVersion).toList),
      ("model_revision", Json.quoted update.modelRevision),
      ("parameter_names", '[' :: (Json.commaSeparated (Json.encodeItems (fun _ => "")
        (update.parameterNames.map .str)) ++ [']'])),
      ("shapes", '[' :: (Json.commaSeparated (Json.encodeItems (fun _ => "")
        (update.shapes.map (fun shape => .arr (shape.map .int)))) ++ [']'])),
      ("dtype", Json.quoted update.dtype), ("quantization", Json.quoted update.quantization),
      ("round", (toString update.round).toList), ("worker_id", Json.quoted update.workerId),
      ("run_id", Json.quoted update.runId), ("room_id", Json.quoted update.roomId),
      ("payload_sha256", Json.quoted update.payloadSha256)] ("created_at_ns", time) (by
    intro field member
    simp only [mem_cons, not_mem_nil, or_false] at member
    rcases member with rfl | rfl | rfl | rfl | rfl | rfl | rfl | rfl | rfl | rfl | rfl
    all_goals dsimp only; decide)
  simp only [cons_append, nil_append] at sorted
  rw [sorted]
  cases rest with
  | nil => cases length
  | cons field rest =>
    simp only [map_cons, Json.commaSeparated, Json.quoted, Json.escape]
    exact ⟨_, by simp [Json.escapeChar]; rfl⟩

theorem canonicalUpdateBytes_ne {left right : NeutralOuterUpdate}
    (times : left.createdAtNs ≠ right.createdAtNs) :
    canonicalUpdateBytes left ≠ canonicalUpdateBytes right := by
  intro same
  have texts : canonicalUpdateText left = canonicalUpdateText right := utf8Chars_injective same
  obtain ⟨leftRest, isLeft⟩ := canonicalUpdateText_front left
  obtain ⟨rightRest, isRight⟩ := canonicalUpdateText_front right
  rw [isLeft, isRight] at texts
  obtain ⟨digits, _⟩ := Json.append_separator_inj ',' _ _ _ _ (Json.comma_not_mem_int _)
    (Json.comma_not_mem_int _) (append_cancel_left texts)
  exact times (toString_int_injective digits)

end Integrity

end Training
end ZepGpu
