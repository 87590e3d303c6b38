import ZepGpu.Training.Platform

namespace ZepGpu
namespace Training

open Foundation FixedCodec List
open Reference (platform)

/-!
# The binary training envelope

A header of fixed width is followed by three texts, the shape, the extensions
and the payload, whose lengths the header states.  The encoder and the decoder
check the same limits at different places.  Both are characterized by one
relation between envelopes and byte strings, from which the round trips
follow in either direction.
-/

def magic : Bytes := utf8 "ZEPTRN01"

def envelopeVersion : Int := 1

def maxPayloadBytes : Nat := 512 * 1024 * 1024

def maxMetadataBytes : Nat := 64 * 1024

/-- The fields of `_HEADER`. -/
structure Header where
  magic : Bytes
  version : Nat
  room : Bytes
  run : Bytes
  worker : Bytes
  transfer : Bytes
  round : Nat
  timestampNs : Int
  payloadLength : Nat
  checksum : Bytes
  payloadTypeLength : Nat
  dtypeLength : Nat
  compressionLength : Nat
  shapeCount : Nat
  shapeLength : Nat
  extensionsLength : Nat

open FixedCodec in
/-- `struct.Struct("!8sB16s16s16s16sQqQ32sHHHHHH")` -/
def headerCodec : FixedCodec Header :=
  ((raw 8).pair ((unsigned 1).pair ((raw 16).pair ((raw 16).pair ((raw 16).pair ((raw 16).pair
    ((unsigned 8).pair ((signed 8).pair ((unsigned 8).pair ((raw 32).pair ((unsigned 2).pair
    ((unsigned 2).pair ((unsigned 2).pair ((unsigned 2).pair
    ((unsigned 2).pair (unsigned 2)))))))))))))))).as
    (fun (m, v, ro, ru, w, t, r, ts, pl, ck, ptl, dl, cl, sc, sl, el) =>
      ⟨m, v, ro, ru, w, t, r, ts, pl, ck, ptl, dl, cl, sc, sl, el⟩)
    (fun h => (h.magic, h.version, h.room, h.run, h.worker, h.transfer, h.round, h.timestampNs,
      h.payloadLength, h.checksum, h.payloadTypeLength, h.dtypeLength, h.compressionLength,
      h.shapeCount, h.shapeLength, h.extensionsLength))
    (fun _ => rfl) (fun _ => rfl)

/-- `struct.Struct("!q")` -/
def dimensionCodec : FixedCodec Int :=
  signed 8

theorem headerCodec_width : headerCodec.width = 141 :=
  rfl

/-- `BinaryEnvelope` -/
structure BinaryEnvelope where
  roomId : String
  runId : String
  workerId : String
  transferId : String
  round : Int
  payloadType : String
  shape : List Int
  dtype : String
  compression : String
  payload : Bytes
  timestampNs : Int
  extensions : Bytes := []
  version : Int := envelopeVersion
  deriving DecidableEq

section Envelope

variable (P : Platform)

/-! ## Encoding -/

def uuidBytes (value fieldName : String) : Except TrainingError Bytes :=
  match P.uuidOfString value with
  | some id => .ok (bigEndian 16 id.toNat)
  | none => .error (.envelopeError ("invalid " ++ fieldName))

def pack {α : Type} (codec : FixedCodec α) (value : α) : Except TrainingError Bytes :=
  if codec.fits value then .ok (codec.encode value) else .error .structError

def packDimensions : List Int -> Except TrainingError Bytes
  | [] => .ok []
  | dimension :: rest => do
      let first ← pack dimensionCodec dimension
      let others ← packDimensions rest
      .ok (first ++ others)

def BinaryEnvelope.encode (envelope : BinaryEnvelope) (limit : Nat := maxPayloadBytes) :
    Except TrainingError Bytes := do
  raiseIf (envelope.version ≠ envelopeVersion)
    (.envelopeError ("unsupported envelope version " ++ toString envelope.version))
  raiseIf (envelope.round < 0) (.envelopeError "round cannot be negative")
  raiseIf (limit < envelope.payload.length) (.envelopeError "payload exceeds size limit")
  raiseIf (envelope.payloadType = "" ∨ envelope.dtype = "" ∨ envelope.compression = "")
    (.envelopeError "payload type, dtype, and compression are required")
  raiseIf (32 < envelope.shape.length ∨ ∃ dimension, dimension ∈ envelope.shape ∧ dimension < 0)
    (.envelopeError "invalid tensor shape")
  let shapeBytes ← packDimensions envelope.shape
  let fields := [utf8 envelope.payloadType, utf8 envelope.dtype, utf8 envelope.compression,
    shapeBytes, envelope.extensions]
  raiseIf (maxMetadataBytes < (fields.map List.length).sum ∨
      ∃ field, field ∈ fields ∧ 65535 < field.length)
    (.envelopeError "metadata exceeds size limit")
  let room ← uuidBytes P envelope.roomId "room_id"
  let run ← uuidBytes P envelope.runId "run_id"
  let worker ← uuidBytes P envelope.workerId "worker_id"
  let transfer ← uuidBytes P envelope.transferId "transfer_id"
  let header ← pack headerCodec {
    magic := magic
    version := envelope.version.toNat
    room := room
    run := run
    worker := worker
    transfer := transfer
    round := envelope.round.toNat
    timestampNs := envelope.timestampNs
    payloadLength := envelope.payload.length
    checksum := P.sha256 envelope.payload
    payloadTypeLength := (utf8 envelope.payloadType).length
    dtypeLength := (utf8 envelope.dtype).length
    compressionLength := (utf8 envelope.compression).length
    shapeCount := envelope.shape.length
    shapeLength := shapeBytes.length
    extensionsLength := envelope.extensions.length }
  .ok (header ++ (fields.flatten ++ envelope.payload))

/-! ## Decoding -/

def validatedHeader (data : Bytes) (limit : Nat) : Except TrainingError Header := do
  raiseIf (data.length < headerCodec.width) (.envelopeError "truncated envelope header")
  let header := headerCodec.decode (data.take headerCodec.width)
  raiseIf (header.magic ≠ magic ∨ header.version ≠ 1)
    (.envelopeError "invalid magic or unsupported version")
  raiseIf (limit < header.payloadLength) (.envelopeError "payload exceeds size limit")
  raiseIf (header.timestampNs ≤ 0) (.envelopeError "invalid timestamp")
  raiseIf (32 < header.shapeCount ∨ header.shapeLength ≠ header.shapeCount * dimensionCodec.width)
    (.envelopeError "malformed shape metadata")
  let metadataLength := header.payloadTypeLength + header.dtypeLength + header.compressionLength +
    header.shapeLength + header.extensionsLength
  raiseIf (maxMetadataBytes < metadataLength) (.envelopeError "metadata exceeds size limit")
  raiseIf (data.length ≠ headerCodec.width + metadataLength + header.payloadLength)
    (.envelopeError "envelope length mismatch")
  .ok header

/-- What stands in the bytes after the header. -/
structure Body where
  payloadType : String
  dtype : String
  compression : String
  shape : List Int
  extensions : Bytes
  payload : Bytes

/-- `item.decode("utf-8")` -/
def decodeText (data : Bytes) : Except TrainingError String :=
  match ofUtf8? data with
  | some text => .ok text
  | none => .error (.envelopeError "metadata is not valid UTF-8")

/-- `_decode_body`, on the bytes after the header. -/
def decodeBody (data : Bytes) (header : Header) : Except TrainingError Body := do
  let payloadType ← decodeText (data.take header.payloadTypeLength)
  let data := data.drop header.payloadTypeLength
  let dtype ← decodeText (data.take header.dtypeLength)
  let data := data.drop header.dtypeLength
  let compression ← decodeText (data.take header.compressionLength)
  let data := data.drop header.compressionLength
  raiseIf (payloadType = "" ∨ dtype = "" ∨ compression = "")
    (.envelopeError "payload type, dtype, and compression are required")
  let shape := decodeMany dimensionCodec (header.shapeLength / dimensionCodec.width)
    (data.take header.shapeLength)
  let data := data.drop header.shapeLength
  raiseIf (∃ dimension, dimension ∈ shape ∧ dimension < 0)
    (.envelopeError "invalid tensor shape")
  let extensions := data.take header.extensionsLength
  let payload := data.drop header.extensionsLength
  raiseIf (P.sha256 payload ≠ header.checksum) (.checksumError "payload checksum mismatch")
  .ok ⟨payloadType, dtype, compression, shape, extensions, payload⟩

/-- `str(uuid.UUID(bytes=data))` -/
def uuidText (data : Bytes) : String :=
  P.strOfUuid (BitVec.ofNat 128 (ofBigEndian data))

/-- What a receiver expects of an envelope; an absent field is not checked. -/
structure Scope where
  roomId : Option String := none
  runId : Option String := none
  workerId : Option String := none
  round : Option Int := none

def verifyScope (envelope : BinaryEnvelope) (expected : Scope) : Except TrainingError Unit := do
  raiseIf (expected.roomId.any (fun value => value ≠ envelope.roomId))
    (.scopeError "room scope mismatch")
  raiseIf (expected.runId.any (fun value => value ≠ envelope.runId))
    (.scopeError "run scope mismatch")
  raiseIf (expected.workerId.any (fun value => value ≠ envelope.workerId))
    (.scopeError "worker scope mismatch")
  raiseIf (expected.round.any (fun value => value ≠ envelope.round))
    (.scopeError "round scope mismatch")

def assemble (header : Header) (body : Body) : BinaryEnvelope where
  roomId := uuidText P header.room
  runId := uuidText P header.run
  workerId := uuidText P header.worker
  transferId := uuidText P header.transfer
  round := header.round
  payloadType := body.payloadType
  shape := body.shape
  dtype := body.dtype
  compression := body.compression
  payload := body.payload
  timestampNs := header.timestampNs
  extensions := body.extensions
  version := header.version

def BinaryEnvelope.decode (data : Bytes) (expected : Scope := {}) (limit : Nat := maxPayloadBytes) :
    Except TrainingError BinaryEnvelope := do
  let header ← validatedHeader data limit
  let body ← decodeBody P (data.drop headerCodec.width) header
  let envelope := assemble P header body
  verifyScope envelope expected
  .ok envelope

/-! ## The relation behind both -/

def headerOf (room run worker transfer : Uuid) (envelope : BinaryEnvelope) : Header where
  magic := magic
  version := envelope.version.toNat
  room := bigEndian 16 room.toNat
  run := bigEndian 16 run.toNat
  worker := bigEndian 16 worker.toNat
  transfer := bigEndian 16 transfer.toNat
  round := envelope.round.toNat
  timestampNs := envelope.timestampNs
  payloadLength := envelope.payload.length
  checksum := P.sha256 envelope.payload
  payloadTypeLength := (utf8 envelope.payloadType).length
  dtypeLength := (utf8 envelope.dtype).length
  compressionLength := (utf8 envelope.compression).length
  shapeCount := envelope.shape.length
  shapeLength := (encodeMany dimensionCodec envelope.shape).length
  extensionsLength := envelope.extensions.length

def metadataOf (envelope : BinaryEnvelope) : Bytes :=
  utf8 envelope.payloadType ++ (utf8 envelope.dtype ++ (utf8 envelope.compression ++
    (encodeMany dimensionCodec envelope.shape ++ envelope.extensions)))

/-- The envelope is valid, and the data are its bytes. -/
structure Framed (limit : Nat) (room run worker transfer : Uuid) (envelope : BinaryEnvelope)
    (data : Bytes) : Prop where
  version : envelope.version = envelopeVersion
  round : 0 ≤ envelope.round
  payload : envelope.payload.length ≤ limit
  texts : envelope.payloadType ≠ "" ∧ envelope.dtype ≠ "" ∧ envelope.compression ≠ ""
  shape_length : envelope.shape.length ≤ 32
  shape_nonneg : ∀ dimension, dimension ∈ envelope.shape -> 0 ≤ dimension
  shape_fits : ∀ dimension, dimension ∈ envelope.shape -> dimensionCodec.fits dimension
  metadata : (metadataOf envelope).length ≤ maxMetadataBytes
  header_fits : headerCodec.fits (headerOf P room run worker transfer envelope)
  bytes : data = headerCodec.encode (headerOf P room run worker transfer envelope) ++
    (metadataOf envelope ++ envelope.payload)

variable {P} {envelope : BinaryEnvelope} {data : Bytes} {limit : Nat}

theorem uuidBytes_eq_ok {value fieldName : String} {bytes : Bytes} :
    uuidBytes P value fieldName = .ok bytes ↔
      ∃ id, P.uuidOfString value = some id ∧ bigEndian 16 id.toNat = bytes := by
  rw [uuidBytes]
  cases P.uuidOfString value with
  | none => simp
  | some id => simp

theorem pack_eq_ok {α : Type} {codec : FixedCodec α} {value : α} {bytes : Bytes} :
    pack codec value = .ok bytes ↔ codec.fits value ∧ codec.encode value = bytes := by
  rw [pack]
  split_ifs with fits
  · simp [fits]
  · simp [fits]

theorem packDimensions_eq_ok {shape : List Int} {bytes : Bytes} :
    packDimensions shape = .ok bytes ↔
      (∀ dimension, dimension ∈ shape -> dimensionCodec.fits dimension) ∧
        encodeMany dimensionCodec shape = bytes := by
  induction shape generalizing bytes with
  | nil => simp [packDimensions, encodeMany]
  | cons dimension rest ih =>
    rw [packDimensions, bind_eq_ok, forall_mem_cons]
    constructor
    · rintro ⟨first, packed, others⟩
      obtain ⟨tail, packedTail, same⟩ := bind_eq_ok.mp others
      obtain ⟨fits, rfl⟩ := pack_eq_ok.mp packed
      obtain ⟨restFits, rfl⟩ := ih.mp packedTail
      exact ⟨⟨fits, restFits⟩, Except.ok.inj same⟩
    · rintro ⟨⟨fits, restFits⟩, rfl⟩
      refine ⟨_, pack_eq_ok.mpr ⟨fits, rfl⟩, bind_eq_ok.mpr ⟨_, ih.mpr ⟨restFits, rfl⟩, ?_⟩⟩
      rfl

theorem length_metadataOf : (metadataOf envelope).length =
    (utf8 envelope.payloadType).length + (utf8 envelope.dtype).length +
      (utf8 envelope.compression).length +
      (encodeMany dimensionCodec envelope.shape).length + envelope.extensions.length := by
  simp only [metadataOf, length_append]
  omega

theorem framed_outerDelta (room run worker transfer : Uuid) (version : envelope.version = envelopeVersion)
    (round : 0 ≤ envelope.round) (small : envelope.round < 256 ^ 8)
    (kind : envelope.payloadType = "diloco_outer_delta") (dtype : envelope.dtype = "uint8")
    (codec : envelope.compression ≠ "") (short : (utf8 envelope.compression).length ≤ 256)
    (flat : envelope.shape = [(envelope.payload.length : Int)])
    (payload : envelope.payload.length ≤ maxPayloadBytes)
    (stamp : (signed 8).fits envelope.timestampNs)
    (extensions : envelope.extensions.length < 60000) :
    ∃ data, Framed P maxPayloadBytes room run worker transfer envelope data := by
  have limit : maxPayloadBytes = 536870912 := rfl
  have bound : maxMetadataBytes = 65536 := rfl
  have kindLength : (utf8 envelope.payloadType).length = 18 := by rw [kind]; decide
  have dtypeLength : (utf8 envelope.dtype).length = 5 := by rw [dtype]; decide
  have shapeFits : dimensionCodec.fits (envelope.payload.length : Int) := by
    change -((256 ^ 8 : Nat) : Int) ≤ 2 * (envelope.payload.length : Int) ∧
      _ < ((256 ^ 8 : Nat) : Int)
    omega
  have shape : (encodeMany dimensionCodec envelope.shape).length = 8 := by
    rw [flat, encodeMany, flatMap_singleton]
    exact dimensionCodec.length_encode _ shapeFits
  have count : envelope.shape.length = 1 := by rw [flat, length_singleton]
  have dimensions : ∀ dimension, dimension ∈ envelope.shape ->
      dimension = (envelope.payload.length : Int) := by
    intro dimension member
    rw [flat] at member
    exact mem_singleton.mp member
  refine ⟨_, version, round, payload, ⟨by rw [kind]; decide, by rw [dtype]; decide, codec⟩,
    by rw [count]; decide, ?_, ?_, ?_, ?_, rfl⟩
  · intro dimension member
    rw [dimensions dimension member]
    exact Int.natCast_nonneg _
  · intro dimension member
    rw [dimensions dimension member]
    exact shapeFits
  · rw [length_metadataOf]
    omega
  · refine ⟨rfl, ?_, length_bigEndian 16 _, length_bigEndian 16 _, length_bigEndian 16 _,
      length_bigEndian 16 _, ?_, stamp, ?_, P.sha256_length _, ?_, ?_, ?_, ?_, ?_, ?_⟩
    · change envelope.version.toNat < 256 ^ 1
      rw [version]
      decide
    · change envelope.round.toNat < 256 ^ 8
      omega
    · change envelope.payload.length < 256 ^ 8
      omega
    · change (utf8 envelope.payloadType).length < 256 ^ 2
      omega
    · change (utf8 envelope.dtype).length < 256 ^ 2
      omega
    · change (utf8 envelope.compression).length < 256 ^ 2
      omega
    · change envelope.shape.length < 256 ^ 2
      omega
    · change (encodeMany dimensionCodec envelope.shape).length < 256 ^ 2
      omega
    · change envelope.extensions.length < 256 ^ 2
      omega

theorem encode_eq_ok_iff :
    envelope.encode P limit = .ok data ↔
      ∃ room run worker transfer,
        P.uuidOfString envelope.roomId = some room ∧ P.uuidOfString envelope.runId = some run ∧
        P.uuidOfString envelope.workerId = some worker ∧
        P.uuidOfString envelope.transferId = some transfer ∧
        Framed P limit room run worker transfer envelope data := by
  simp only [BinaryEnvelope.encode, bind_eq_ok, raiseIf_eq_ok, exists_const, packDimensions_eq_ok,
    uuidBytes_eq_ok, pack_eq_ok]
  constructor
  · rintro ⟨version, round, payload, texts, shape, _, ⟨shapeFits, rfl⟩, metadata, _,
      ⟨room, isRoom, rfl⟩, _, ⟨run, isRun, rfl⟩, _, ⟨worker, isWorker, rfl⟩, _,
      ⟨transfer, isTransfer, rfl⟩, _, ⟨fits, rfl⟩, same⟩
    refine ⟨room, run, worker, transfer, isRoom, isRun, isWorker, isTransfer, ?_⟩
    constructor
    case version => exact not_not.mp version
    case round => omega
    case payload => omega
    case texts => simpa [not_or] using texts
    case shape_length => omega
    case shape_nonneg =>
      intro dimension member
      by_contra negative
      exact shape (Or.inr ⟨dimension, member, by omega⟩)
    case shape_fits => exact shapeFits
    case metadata =>
      rw [length_metadataOf]
      simp only [map_cons, map_nil, sum_cons, sum_nil] at metadata
      omega
    case header_fits => exact fits
    case bytes =>
      rw [← Except.ok.inj same]
      simp only [metadataOf, flatten_cons, flatten_nil, append_nil]
      rfl
  · rintro ⟨room, run, worker, transfer, isRoom, isRun, isWorker, isTransfer, framed⟩
    have sizes := framed.header_fits
    refine ⟨not_not.mpr framed.version, by have := framed.round; omega,
      by have := framed.payload; omega, by simpa [not_or] using framed.texts, ?_, _,
      ⟨framed.shape_fits, rfl⟩, ?_, _, ⟨room, isRoom, rfl⟩, _, ⟨run, isRun, rfl⟩, _,
      ⟨worker, isWorker, rfl⟩, _, ⟨transfer, isTransfer, rfl⟩, _, ⟨sizes, rfl⟩, ?_⟩
    · rintro (long | ⟨dimension, member, negative⟩)
      · have := framed.shape_length
        omega
      · have := framed.shape_nonneg dimension member
        omega
    · -- each length fits its two bytes in the header
      have metadata := framed.metadata
      rw [length_metadataOf] at metadata
      obtain ⟨_, _, _, _, _, _, _, _, _, _, first, second, third, _, fourth, fifth⟩ := sizes
      simp only [headerOf] at first second third fourth fifth
      simp only [map_cons, map_nil, sum_cons, sum_nil, mem_cons,
        not_mem_nil, or_false, exists_eq_or_imp, exists_eq_left, not_or, not_lt]
      refine ⟨by omega, ?_, ?_, ?_, ?_, ?_⟩
      all_goals exact Nat.lt_succ_iff.mp (by assumption)
    · rw [framed.bytes]
      simp only [metadataOf, flatten_cons, flatten_nil, append_nil]
      rfl

theorem decodeText_eq_ok {bytes : Bytes} {text : String} :
    decodeText bytes = .ok text ↔ utf8 text = bytes := by
  rw [decodeText]
  constructor
  · intro decoded
    cases read : ofUtf8? bytes with
    | none =>
      rw [read] at decoded
      cases decoded
    | some other =>
      rw [read] at decoded
      rw [← Except.ok.inj decoded]
      exact utf8_of_ofUtf8? read
  · rintro rfl
    rw [ofUtf8?_utf8]

theorem validatedHeader_eq_ok {header : Header} :
    validatedHeader data limit = .ok header ↔
      headerCodec.width ≤ data.length ∧
      header = headerCodec.decode (data.take headerCodec.width) ∧
      header.magic = magic ∧ header.version = 1 ∧ header.payloadLength ≤ limit ∧
      0 < header.timestampNs ∧ header.shapeCount ≤ 32 ∧
      header.shapeLength = header.shapeCount * dimensionCodec.width ∧
      header.payloadTypeLength + header.dtypeLength + header.compressionLength +
        header.shapeLength + header.extensionsLength ≤ maxMetadataBytes ∧
      data.length = headerCodec.width + (header.payloadTypeLength + header.dtypeLength +
        header.compressionLength + header.shapeLength + header.extensionsLength) +
        header.payloadLength := by
  simp only [validatedHeader, bind_eq_ok, raiseIf_eq_ok, exists_const, not_or, not_lt, not_le,
    not_not, ne_eq]
  constructor
  · rintro ⟨long, ⟨isMagic, version⟩, payload, timestamp, ⟨count, shape⟩, metadata, length, same⟩
    rw [← Except.ok.inj same]
    exact ⟨long, rfl, isMagic, version, payload, timestamp, count, shape, metadata, length⟩
  · rintro ⟨long, same, isMagic, version, payload, timestamp, count, shape, metadata, length⟩
    rw [← same]
    exact ⟨long, ⟨isMagic, version⟩, payload, timestamp, ⟨count, shape⟩, metadata, length, rfl⟩

theorem decodeBody_eq_ok {header : Header} {body : Body}
    (length : data.length = header.payloadTypeLength + header.dtypeLength +
      header.compressionLength + header.shapeLength + header.extensionsLength +
      header.payloadLength)
    (shapes : header.shapeLength = header.shapeCount * dimensionCodec.width) :
    decodeBody P data header = .ok body ↔
      data = utf8 body.payloadType ++ (utf8 body.dtype ++ (utf8 body.compression ++
        (encodeMany dimensionCodec body.shape ++ (body.extensions ++ body.payload)))) ∧
      (utf8 body.payloadType).length = header.payloadTypeLength ∧
      (utf8 body.dtype).length = header.dtypeLength ∧
      (utf8 body.compression).length = header.compressionLength ∧
      body.shape.length = header.shapeCount ∧
      body.extensions.length = header.extensionsLength ∧
      (body.payloadType ≠ "" ∧ body.dtype ≠ "" ∧ body.compression ≠ "") ∧
      (∀ dimension, dimension ∈ body.shape -> dimensionCodec.fits dimension) ∧
      (∀ dimension, dimension ∈ body.shape -> 0 ≤ dimension) ∧
      P.sha256 body.payload = header.checksum := by
  have wide : 0 < dimensionCodec.width := by decide
  have count : header.shapeLength / dimensionCodec.width = header.shapeCount := by
    rw [shapes, Nat.mul_div_cancel _ wide]
  simp only [decodeBody, bind_eq_ok, raiseIf_eq_ok, exists_const, decodeText_eq_ok, count, not_or,
    not_exists, not_and, not_lt, ne_eq, not_not]
  constructor
  · rintro ⟨payloadType, first, dtype, second, compression, third, texts, nonneg, checksum, same⟩
    obtain rfl := Except.ok.inj same
    dsimp only
    have shapeBytes : (((data.drop header.payloadTypeLength).drop header.dtypeLength).drop
        header.compressionLength |>.take header.shapeLength).length =
        header.shapeCount * dimensionCodec.width := by
      simp only [length_take, length_drop]
      omega
    refine ⟨?_, ?_, ?_, ?_, length_decodeMany _ _, ?_, texts,
      decodeMany_fits shapeBytes, nonneg, checksum⟩
    · rw [first, second, third, FixedCodec.encodeMany_decodeMany shapeBytes]
      simp only [take_append_drop]
    all_goals simp only [first, second, third, length_take, length_drop]; omega
  · rintro ⟨rfl, first, second, third, fourth, fifth, texts, fits, nonneg, checksum⟩
    have shapeBytes := length_encodeMany fits
    rw [fourth, ← shapes] at shapeBytes
    refine ⟨body.payloadType, ?_, body.dtype, ?_, body.compression, ?_, texts, ?_, ?_, ?_⟩
    · rw [take_left' first]
    · rw [drop_left' first, take_left' second]
    · rw [drop_left' first, drop_left' second, take_left' third]
    all_goals rw [drop_left' first, drop_left' second, drop_left' third]
    · rw [take_left' shapeBytes, ← fourth, decodeMany_encodeMany fits]
      exact nonneg
    · rw [drop_left' shapeBytes, drop_left' fifth]
      exact checksum
    · rw [take_left' shapeBytes, ← fourth, decodeMany_encodeMany fits,
        drop_left' shapeBytes, take_left' fifth, drop_left' fifth]

theorem bigEndian_uuid {bytes : Bytes} (length : bytes.length = 16) :
    bigEndian 16 (BitVec.ofNat 128 (ofBigEndian bytes)).toNat = bytes := by
  have small := ofBigEndian_lt bytes
  rw [length] at small
  rw [BitVec.toNat_ofNat, Nat.mod_eq_of_lt (by exact small), ← length]
  exact bigEndian_ofBigEndian bytes

theorem uuidText_bigEndian (id : Uuid) : uuidText P (bigEndian 16 id.toNat) = P.strOfUuid id := by
  have small : id.toNat < 256 ^ 16 := id.isLt
  rw [uuidText, ofBigEndian_bigEndian, Nat.mod_eq_of_lt small, BitVec.ofNat_toNat, BitVec.setWidth_eq]

theorem verifyScope_anywhere : verifyScope envelope {} = .ok () := by
  simp only [verifyScope, Option.any_none]
  rfl

/-- Whoever decodes without an expected scope accepts exactly the bytes of an
envelope within the limits that was written after the epoch. -/
theorem decode_eq_ok_iff :
    BinaryEnvelope.decode P data {} limit = .ok envelope ↔
      ∃ room run worker transfer,
        envelope.roomId = P.strOfUuid room ∧ envelope.runId = P.strOfUuid run ∧
        envelope.workerId = P.strOfUuid worker ∧ envelope.transferId = P.strOfUuid transfer ∧
        0 < envelope.timestampNs ∧ Framed P limit room run worker transfer envelope data := by
  simp only [BinaryEnvelope.decode, bind_eq_ok, verifyScope_anywhere, validatedHeader_eq_ok]
  constructor
  · rintro ⟨header, ⟨long, isHeader, isMagic, version, payload, timestamp, count, shapes, metadata,
      length⟩, body, decoded, _, _, same⟩
    obtain rfl := Except.ok.inj same
    have rest : (data.drop headerCodec.width).length = header.payloadTypeLength +
        header.dtypeLength + header.compressionLength + header.shapeLength +
        header.extensionsLength + header.payloadLength := by
      rw [length_drop]
      omega
    obtain ⟨split, first, second, third, fourth, fifth, texts, fits, nonneg, checksum⟩ :=
      (decodeBody_eq_ok rest shapes).mp decoded
    have front : (data.take headerCodec.width).length = headerCodec.width := by
      rw [length_take]
      omega
    have headerFits := headerCodec.fits_decode _ front
    have headerBytes := headerCodec.encode_decode _ front
    rw [← isHeader] at headerFits headerBytes
    have shapeBytes := length_encodeMany fits
    rw [fourth, ← shapes] at shapeBytes
    have payloadBytes : body.payload.length = header.payloadLength := by
      have total := congrArg List.length split
      rw [rest] at total
      simp only [length_append] at total
      omega
    obtain ⟨_, _, isRoom, isRun, isWorker, isTransfer, _⟩ := headerFits
    have sameHeader : headerOf P (BitVec.ofNat 128 (ofBigEndian header.room))
        (BitVec.ofNat 128 (ofBigEndian header.run)) (BitVec.ofNat 128 (ofBigEndian header.worker))
        (BitVec.ofNat 128 (ofBigEndian header.transfer)) (assemble P header body) = header := by
      simp only [headerOf, assemble, bigEndian_uuid isRoom, bigEndian_uuid isRun,
        bigEndian_uuid isWorker, bigEndian_uuid isTransfer, Int.toNat_natCast, first, second, third,
        fourth, fifth, shapeBytes, payloadBytes, checksum, ← isMagic]
    refine ⟨_, _, _, _, rfl, rfl, rfl, rfl, timestamp, ?_⟩
    constructor
    case version => exact congrArg Nat.cast version
    case round => exact Int.natCast_nonneg _
    case payload =>
      rw [assemble, payloadBytes]
      exact payload
    case texts => exact texts
    case shape_length =>
      rw [assemble, fourth]
      exact count
    case shape_nonneg => exact nonneg
    case shape_fits => exact fits
    case metadata =>
      rw [length_metadataOf]
      simp only [assemble, first, second, third, shapeBytes, fifth]
      exact metadata
    case header_fits =>
      rw [sameHeader, isHeader]
      exact headerCodec.fits_decode _ front
    case bytes =>
      rw [sameHeader, headerBytes]
      have joined : metadataOf (assemble P header body) ++ (assemble P header body).payload =
          data.drop headerCodec.width := by
        rw [split]
        simp only [metadataOf, assemble, append_assoc]
      rw [joined, take_append_drop]
  · rintro ⟨room, run, worker, transfer, isRoom, isRun, isWorker, isTransfer, timestamp, framed⟩
    have front := headerCodec.length_encode _ framed.header_fits
    have shapeBytes := length_encodeMany framed.shape_fits
    have metadata := framed.metadata
    rw [length_metadataOf] at metadata
    have version : (headerOf P room run worker transfer envelope).version = 1 := by
      rw [headerOf, framed.version]
      rfl
    have whole : data.drop headerCodec.width = metadataOf envelope ++ envelope.payload := by
      rw [framed.bytes, drop_left' front]
    refine ⟨headerOf P room run worker transfer envelope, ⟨?_, ?_, rfl, version, framed.payload,
      timestamp, framed.shape_length, shapeBytes, metadata, ?_⟩,
      ⟨envelope.payloadType, envelope.dtype, envelope.compression, envelope.shape,
        envelope.extensions, envelope.payload⟩, ?_, (), ⟨trivial, ?_⟩⟩
    · rw [framed.bytes, length_append, front]
      omega
    · rw [framed.bytes, take_left' front, headerCodec.decode_encode _ framed.header_fits]
    · rw [framed.bytes, length_append, front, length_append, length_metadataOf]
      simp only [headerOf]
      omega
    · rw [whole]
      refine (decodeBody_eq_ok ?_ shapeBytes).mpr ⟨?_, rfl, rfl, rfl, rfl, rfl, framed.texts,
        framed.shape_fits, framed.shape_nonneg, rfl⟩
      · rw [length_append, length_metadataOf]
        rfl
      · simp only [metadataOf, append_assoc]
    · have round : ((envelope.round.toNat : Nat) : Int) = envelope.round :=
        Int.toNat_of_nonneg framed.round
      have sameVersion : ((envelope.version.toNat : Nat) : Int) = envelope.version := by
        rw [framed.version]
        rfl
      simp only [assemble, headerOf, uuidText_bigEndian, ← isRoom, ← isRun, ← isWorker,
        ← isTransfer, round, sameVersion]

theorem decode_anywhere {expected : Scope}
    (accepted : BinaryEnvelope.decode P data expected limit = .ok envelope) :
    BinaryEnvelope.decode P data {} limit = .ok envelope := by
  simp only [BinaryEnvelope.decode, bind_eq_ok] at accepted ⊢
  rcases accepted with ⟨header, validated, body, decoded, _, _, same⟩
  obtain rfl := Except.ok.inj same
  exact ⟨header, validated, body, decoded, (), verifyScope_anywhere, rfl⟩

theorem decode_in_scope {expected : Scope}
    (accepted : BinaryEnvelope.decode P data {} limit = .ok envelope)
    (inside : verifyScope envelope expected = .ok ()) :
    BinaryEnvelope.decode P data expected limit = .ok envelope := by
  simp only [BinaryEnvelope.decode, bind_eq_ok] at accepted ⊢
  rcases accepted with ⟨header, validated, body, decoded, _, _, same⟩
  obtain rfl := Except.ok.inj same
  exact ⟨header, validated, body, decoded, (), inside, rfl⟩

/-! ## Both round trips -/

/-- Every identifier is spelled as the decoder writes it. -/
def BinaryEnvelope.Canonical (P : Platform) (envelope : BinaryEnvelope) : Prop :=
  ∀ text, text ∈ [envelope.roomId, envelope.runId, envelope.workerId, envelope.transferId] ->
    ∃ id, text = P.strOfUuid id

theorem decode_encode (canonical : envelope.Canonical P) (positive : 0 < envelope.timestampNs)
    (encoded : envelope.encode P limit = .ok data) :
    BinaryEnvelope.decode P data {} limit = .ok envelope := by
  obtain ⟨room, run, worker, transfer, isRoom, isRun, isWorker, isTransfer, framed⟩ :=
    encode_eq_ok_iff.mp encoded
  -- a canonical text is the text of the UUID that it parses to
  have read : ∀ text id, (∃ other, text = P.strOfUuid other) ->
      P.uuidOfString text = some id -> text = P.strOfUuid id := by
    rintro text id ⟨other, rfl⟩ parsed
    rw [P.uuidOfString_strOfUuid] at parsed
    rw [Option.some.inj parsed]
  exact decode_eq_ok_iff.mpr ⟨room, run, worker, transfer,
    read _ _ (canonical _ (by simp)) isRoom, read _ _ (canonical _ (by simp)) isRun,
    read _ _ (canonical _ (by simp)) isWorker, read _ _ (canonical _ (by simp)) isTransfer,
    positive, framed⟩

theorem encode_decode {expected : Scope}
    (accepted : BinaryEnvelope.decode P data expected limit = .ok envelope) :
    envelope.encode P limit = .ok data := by
  obtain ⟨room, run, worker, transfer, isRoom, isRun, isWorker, isTransfer, _, framed⟩ :=
    decode_eq_ok_iff.mp (decode_anywhere accepted)
  refine encode_eq_ok_iff.mpr ⟨room, run, worker, transfer, ?_, ?_, ?_, ?_, framed⟩
  · rw [isRoom, P.uuidOfString_strOfUuid]
  · rw [isRun, P.uuidOfString_strOfUuid]
  · rw [isWorker, P.uuidOfString_strOfUuid]
  · rw [isTransfer, P.uuidOfString_strOfUuid]

variable (P) in
/-- The codec is a bijection between the encodable envelopes with canonical
identifiers and the accepted byte strings. -/
theorem envelope_codec_bijective (limit : Nat) :
    (∀ (envelope : BinaryEnvelope) (data : Bytes), envelope.Canonical P ->
      0 < envelope.timestampNs -> envelope.encode P limit = .ok data ->
      BinaryEnvelope.decode P data {} limit = .ok envelope) ∧
    (∀ (data : Bytes) (expected : Scope) (envelope : BinaryEnvelope),
      BinaryEnvelope.decode P data expected limit = .ok envelope ->
      envelope.encode P limit = .ok data) ∧
    (∀ (left right : Bytes) (expected : Scope) (envelope : BinaryEnvelope),
      BinaryEnvelope.decode P left expected limit = .ok envelope ->
      BinaryEnvelope.decode P right expected limit = .ok envelope -> left = right) := by
  refine ⟨fun envelope data canonical positive encoded => decode_encode canonical positive encoded,
    fun data expected envelope accepted => encode_decode accepted, ?_⟩
  intro left right expected envelope first second
  have same := (encode_decode first).symm.trans (encode_decode second)
  exact Except.ok.inj same

end Envelope

def Reference.envelope : BinaryEnvelope where
  roomId := platform.strOfUuid roomId
  runId := platform.strOfUuid runId
  workerId := platform.strOfUuid firstWorker
  transferId := platform.strOfUuid firstTransfer
  round := 1
  payloadType := "diloco_outer_delta"
  shape := [2]
  dtype := "uint8"
  compression := "none"
  payload := [7, 9]
  timestampNs := 1700000000000000000
  extensions := utf8 "8"

theorem Reference.envelope_framed : ∃ data, Framed platform maxPayloadBytes roomId runId firstWorker
    firstTransfer envelope data := by
  refine ⟨headerCodec.encode (headerOf platform roomId runId firstWorker firstTransfer envelope) ++
    (metadataOf envelope ++ envelope.payload), ?_⟩
  constructor
  case bytes => rfl
  all_goals decide

theorem Reference.envelope_canonical : Reference.envelope.Canonical platform := by
  intro text member
  simp only [mem_cons, not_mem_nil, or_false] at member
  rcases member with rfl | rfl | rfl | rfl
  all_goals exact ⟨_, rfl⟩

/-- The update reads back from its bytes, and from no others. -/
theorem envelope_codec_bijective_at_update :
    ∃ data, Reference.envelope.encode platform maxPayloadBytes = .ok data ∧
      BinaryEnvelope.decode platform data {} maxPayloadBytes = .ok Reference.envelope ∧
      ∀ other, BinaryEnvelope.decode platform other {} maxPayloadBytes =
        .ok Reference.envelope -> other = data := by
  obtain ⟨data, framed⟩ := Reference.envelope_framed
  have encoded : Reference.envelope.encode platform maxPayloadBytes = .ok data :=
    encode_eq_ok_iff.mpr ⟨_, _, _, _, platform.uuidOfString_strOfUuid _,
      platform.uuidOfString_strOfUuid _, platform.uuidOfString_strOfUuid _,
      platform.uuidOfString_strOfUuid _, framed⟩
  obtain ⟨forth, _, unique⟩ := envelope_codec_bijective platform maxPayloadBytes
  have decoded := forth _ _ Reference.envelope_canonical (by decide) encoded
  exact ⟨data, encoded, decoded, fun other same => unique _ _ _ _ same decoded⟩

end Training
end ZepGpu
