import ZepGpu.Foundation.Slices
import ZepGpu.Overlay.Frames

namespace ZepGpu
namespace Overlay

open Foundation List

/-!
# The transport over UDP

A frame is cut into chunks of one size.  Each chunk is one datagram, whose
header names the message, the place of the chunk and the number of chunks.  The
receiver keeps the chunks of each message until none is missing.
-/

/-- The number of bytes after a first byte, and the bounds of the next one. -/
def leadOf (byte : UInt8) : Option (Nat × UInt8 × UInt8) :=
  if 0xC2 ≤ byte ∧ byte ≤ 0xDF then some (1, 0x80, 0xBF)
  else if byte = 0xE0 then some (2, 0xA0, 0xBF)
  else if byte = 0xED then some (2, 0x80, 0x9F)
  else if 0xE1 ≤ byte ∧ byte ≤ 0xEF then some (2, 0x80, 0xBF)
  else if byte = 0xF0 then some (3, 0x90, 0xBF)
  else if 0xF1 ≤ byte ∧ byte ≤ 0xF3 then some (3, 0x80, 0xBF)
  else if byte = 0xF4 then some (3, 0x80, 0x8F)
  else none

/-- How many of the bytes that should follow are there. -/
def followers : Nat -> UInt8 -> UInt8 -> Bytes -> Nat
  | 0, _, _, _ => 0
  | _ + 1, _, _, [] => 0
  | count + 1, least, most, byte :: rest =>
    if least ≤ byte ∧ byte ≤ most then followers count 0x80 0xBF rest + 1 else 0

/-- The characters of bytes, with one replacement for each sequence that is cut short. -/
def replaceInvalid : Bytes -> List Char
  | [] => []
  | byte :: rest =>
    if byte < 0x80 then Char.ofNat byte.toNat :: replaceInvalid rest
    else
      match leadOf byte with
      | none => '\uFFFD' :: replaceInvalid rest
      | some (count, least, most) =>
        let found := followers count least most rest
        let first :=
          if found < count then ['\uFFFD']
          else ((ofUtf8? (byte :: rest.take count)).map String.toList).getD []
        first ++ replaceInvalid (rest.drop found)
termination_by data => data.length
decreasing_by
  all_goals
    simp only [length_cons, length_drop]
    omega

/-- `data.decode("utf-8", errors="replace")`: the handler runs for what is not text only. -/
def decodeReplace (data : Bytes) : String :=
  match ofUtf8? data with
  | some text => text
  | none => String.ofList (replaceInvalid data)

/-- `_MAGIC` -/
def magic : Bytes :=
  utf8 "ZQ1U"

/-- `_PROBE` -/
def udpProbe : Bytes :=
  0 :: utf8 "OVERLAY_UDP_PROBE"

/-- `struct.Struct("!4s16sHH32s")` -/
def udpHeader : FixedCodec (Bytes × Bytes × Nat × Nat × Bytes) :=
  .pair (.raw 4) (.pair (.raw 16) (.pair (.unsigned 2) (.pair (.unsigned 2) (.raw 32))))

/-- The datagram of one part of a message. -/
structure Chunk where
  msgId : Bytes
  index : Nat
  total : Nat
  chunk : Bytes

def Chunk.body (chunk : Chunk) : Bytes :=
  chunk.msgId ++ (bigEndian 2 chunk.index ++ bigEndian 2 chunk.total) ++ chunk.chunk

def Chunk.packet (credential : String) (chunk : Chunk) : Bytes :=
  udpHeader.encode (magic, chunk.msgId, chunk.index, chunk.total, mac credential chunk.body) ++
    chunk.chunk

/-- `struct.pack` and `_HEADER.pack` of one chunk. -/
def Chunk.pack (credential : String) (chunk : Chunk) : Except SendError Bytes :=
  if chunk.index < 256 ^ 2 ∧ chunk.total < 256 ^ 2 then .ok (chunk.packet credential)
  else .error (.structError "'H' format requires 0 <= number <= 65535")

/-- `[framed[i : i + _CHUNK] for i in range(0, len(framed), _CHUNK)] or [b""]` -/
def chunksOf (framed : Bytes) : List Bytes :=
  match pieces 1024 framed with
  | [] => [[]]
  | chunks => chunks

def messageOf (msgId : Bytes) (chunks : List Bytes) : List Chunk :=
  chunks.mapIdx fun index chunk => { msgId, index, total := chunks.length, chunk }

/-- The identifier is whole, and the numbers fit their fields. -/
structure Chunk.WellFormed (chunk : Chunk) : Prop where
  length_msgId : chunk.msgId.length = 16
  index_lt : chunk.index < chunk.total
  total_lt : chunk.total < 256 ^ 2

theorem Chunk.body_injective {first second : Chunk} (left : first.WellFormed)
    (right : second.WellFormed) (same : first.body = second.body) : first = second := by
  have widths : ∀ {value : Nat}, (bigEndian 2 value).length = 2 := length_bigEndian 2 _
  have decoded : ∀ {value : Nat}, value < 256 ^ 2 -> ofBigEndian (bigEndian 2 value) = value := by
    intro value small
    rw [ofBigEndian_bigEndian, Nat.mod_eq_of_lt small]
  unfold Chunk.body at same
  rw [append_assoc, append_assoc, append_assoc, append_assoc] at same
  obtain ⟨msgIds, rest⟩ :=
    append_inj same (left.length_msgId.trans right.length_msgId.symm)
  obtain ⟨indices, rest⟩ := append_inj rest (widths.trans widths.symm)
  obtain ⟨totals, chunks⟩ := append_inj rest (widths.trans widths.symm)
  have sameIndex := congrArg ofBigEndian indices
  have sameTotal := congrArg ofBigEndian totals
  rw [decoded (left.index_lt.trans left.total_lt), decoded (right.index_lt.trans right.total_lt)]
    at sameIndex
  rw [decoded left.total_lt, decoded right.total_lt] at sameTotal
  cases first
  cases second
  cases msgIds
  cases sameIndex
  cases sameTotal
  cases chunks
  rfl

theorem mem_messageOf {msgId : Bytes} {chunks : List Bytes} {chunk : Chunk} :
    chunk ∈ messageOf msgId chunks ↔
      chunk.msgId = msgId ∧ chunk.total = chunks.length ∧ chunks[chunk.index]? = some chunk.chunk := by
  unfold messageOf
  rw [mem_mapIdx]
  constructor
  · rintro ⟨index, below, rfl⟩
    exact ⟨rfl, rfl, getElem?_eq_getElem below⟩
  · rintro ⟨rfl, total, found⟩
    obtain ⟨below, here⟩ := List.getElem?_eq_some_iff.mp found
    refine ⟨chunk.index, below, ?_⟩
    rw [here, ← total]

theorem length_messageOf {msgId : Bytes} {chunks : List Bytes} :
    (messageOf msgId chunks).length = chunks.length :=
  length_mapIdx

theorem wellFormed_of_mem_messageOf {msgId : Bytes} {chunks : List Bytes} {chunk : Chunk}
    (length : msgId.length = 16) (few : chunks.length < 256 ^ 2)
    (member : chunk ∈ messageOf msgId chunks) : chunk.WellFormed := by
  obtain ⟨rfl, total, found⟩ := mem_messageOf.mp member
  exact ⟨length, total ▸ (List.getElem?_eq_some_iff.mp found).1, total ▸ few⟩

theorem chunksOf_eq {framed : Bytes} (filled : framed ≠ []) : chunksOf framed = pieces 1024 framed := by
  unfold chunksOf
  cases cut : pieces 1024 framed with
  | nil =>
    have joined := @flatten_pieces _ framed 1024 (by decide)
    rw [cut] at joined
    exact absurd joined.symm filled
  | cons first rest => rfl

theorem named_ne_nil {peerId : String} {body : Bytes} : named peerId body ≠ [] := by
  intro empty
  have length := length_named peerId body
  rw [empty, length_nil] at length
  omega

theorem flatten_chunksOf_named {peerId : String} {body : Bytes} :
    (chunksOf (named peerId body)).flatten = named peerId body := by
  rw [chunksOf_eq named_ne_nil, flatten_pieces (by decide)]

theorem chunksOf_named_ne_nil {peerId : String} {body : Bytes} :
    chunksOf (named peerId body) ≠ [] := by
  intro empty
  have joined := @flatten_chunksOf_named peerId body
  rw [empty] at joined
  exact named_ne_nil joined.symm

theorem length_chunksOf_named_lt {peerId : String} {body : Bytes} :
    (chunksOf (named peerId body)).length < 256 ^ 2 ↔
      2 + (utf8 peerId).length + body.length ≤ 65535 * 1024 := by
  rw [chunksOf_eq named_ne_nil, ← length_named, ← length_pieces_le_iff (by decide)]
  omega

theorem mapM_pack {credential : String} {msgId : Bytes} {chunks : List Bytes}
    (few : chunks.length < 256 ^ 2) :
    (messageOf msgId chunks).mapM (Chunk.pack credential) =
      .ok ((messageOf msgId chunks).map (Chunk.packet credential)) := by
  have packed : ∀ message : List Chunk,
      (∀ chunk, chunk ∈ message -> chunk ∈ messageOf msgId chunks) ->
      message.mapM (Chunk.pack credential) = .ok (message.map (Chunk.packet credential)) := by
    intro message
    induction message with
    | nil => exact fun _ => rfl
    | cons chunk rest ih =>
      intro all
      obtain ⟨-, total, found⟩ := mem_messageOf.mp (all chunk mem_cons_self)
      have below := (List.getElem?_eq_some_iff.mp found).1
      have here : chunk.pack credential = .ok (chunk.packet credential) :=
        if_pos ⟨by omega, by omega⟩
      rw [mapM_cons, here, ih fun other member => all other (mem_cons_of_mem _ member)]
      rfl
  exact packed _ fun _ member => member

theorem mapM_pack_of_many {credential : String} {msgId : Bytes} {chunks : List Bytes}
    (many : 256 ^ 2 ≤ chunks.length) :
    ∃ message, (messageOf msgId chunks).mapM (Chunk.pack credential) =
      .error (.structError message) := by
  cases shape : messageOf msgId chunks with
  | nil =>
    have length := @length_messageOf msgId chunks
    rw [shape, length_nil] at length
    omega
  | cons chunk rest =>
    obtain ⟨-, total, -⟩ := mem_messageOf.mp (shape ▸ mem_cons_self)
    have refused : chunk.pack credential =
        .error (.structError "'H' format requires 0 <= number <= 65535") :=
      if_neg fun fits => by omega
    exact ⟨_, by rw [mapM_cons, refused]; rfl⟩

/-- The settings of the transport and the messages that it has in parts. -/
structure UdpOverlayTransport where
  localPeerId : PeerId
  credential : String
  maxFrameBytes : Nat
  peers : Dict String OverlayPeer
  /-- `_transport is not None` -/
  started : Bool
  closed : Bool
  /-- `_partial` -/
  partials : Dict Bytes (List (Option Bytes))

namespace UdpOverlayTransport

/-- The datagrams of `_send_raw`, with the message identifier that is drawn.  The
first chunk carries the number of chunks already, so that nothing is sent when
the number does not fit. -/
def sendRaw (transport : UdpOverlayTransport) (msgId payload : Bytes) :
    Except SendError (List Bytes) :=
  if transport.started = false then .error (.overlayUnavailable "UDP overlay is not started")
  else if 65535 < (utf8 transport.localPeerId.text).length then
    .error (.overflowError "int too big to convert")
  else
    (messageOf msgId (chunksOf (named transport.localPeerId.text payload))).mapM
      (Chunk.pack transport.credential)

def send (transport : UdpOverlayTransport) (peerId : String) (msgId payload : Bytes) :
    Except SendError (List Bytes) :=
  checked transport.closed ((transport.peers.get? peerId).bind OverlayPeer.address?)
    transport.maxFrameBytes payload ("overlay peer " ++ peerId ++ " is not connected")
    "overlay payload exceeds max_frame_bytes" (fun _ => transport.sendRaw msgId payload)

/-- The chunk of a datagram, when its header is well formed and authentic. -/
def parse (credential : String) (data : Bytes) : Option Chunk :=
  if data.length < udpHeader.width then none
  else
    match udpHeader.decode (data.take udpHeader.width) with
    | (found, msgId, index, total, digest) =>
      let chunk : Chunk := { msgId, index, total, chunk := data.drop udpHeader.width }
      if found ≠ magic ∨ total < 1 ∨ total ≤ index then none
      else if digest ≠ mac credential chunk.body then none
      else some chunk

theorem parse_packet {credential : String} {chunk : Chunk} (wellFormed : chunk.WellFormed) :
    parse credential (chunk.packet credential) = some chunk := by
  have index_lt := wellFormed.index_lt
  have total_lt := wellFormed.total_lt
  have fits : udpHeader.fits
      (magic, chunk.msgId, chunk.index, chunk.total, mac credential chunk.body) :=
    ⟨rfl, wellFormed.length_msgId, index_lt.trans total_lt, total_lt, length_mac _ _⟩
  have width := udpHeader.length_encode _ fits
  have enough : ¬(chunk.packet credential).length < udpHeader.width := by
    unfold Chunk.packet
    rw [length_append, width]
    omega
  unfold parse
  rw [if_neg enough, Chunk.packet, take_left' width, drop_left' width,
    udpHeader.decode_encode _ fits]
  dsimp only
  rw [if_neg, if_neg]
  · exact fun different => different rfl
  · rintro (different | none | beyond)
    · exact different rfl
    · omega
    · omega

theorem packet_of_parse {credential : String} {data : Bytes} {chunk : Chunk}
    (parsed : parse credential data = some chunk) :
    chunk.WellFormed ∧ data = chunk.packet credential := by
  unfold parse at parsed
  split_ifs at parsed with short
  have width : (data.take udpHeader.width).length = udpHeader.width := by
    rw [length_take]
    omega
  have fits := udpHeader.fits_decode _ width
  have encoded := udpHeader.encode_decode _ width
  revert parsed fits encoded
  rcases udpHeader.decode (data.take udpHeader.width) with ⟨found, msgId, index, total, digest⟩
  intro parsed fits encoded
  dsimp only at parsed
  split_ifs at parsed with malformed forged
  cases parsed
  obtain ⟨-, length_msgId, -, total_lt, -⟩ := fits
  rw [not_or, not_or, not_not, Nat.not_lt, Nat.not_le] at malformed
  refine ⟨⟨length_msgId, malformed.2.2, total_lt⟩, ?_⟩
  rw [not_not] at forged
  unfold Chunk.packet
  dsimp only
  rw [← forged, ← malformed.1, encoded, take_append_drop]

/-- The calls of the registered receiver for a message without gaps. -/
def deliver (payload : Bytes) : List (String × Bytes) :=
  match splitName payload with
  | none => []
  | some (name, body) => if body = udpProbe then [] else [(decodeReplace name, body)]

/-- The slots of a message: those it has, or empty ones when it has none or another number. -/
def slotsOf (partials : Dict Bytes (List (Option Bytes))) (chunk : Chunk) : List (Option Bytes) :=
  let slots := (partials.get? chunk.msgId).getD (List.replicate chunk.total none)
  if slots.length ≠ chunk.total then List.replicate chunk.total none else slots

/-- What an authentic chunk does to the incomplete messages, and what it delivers. -/
def accept (partials : Dict Bytes (List (Option Bytes))) (chunk : Chunk) :
    Dict Bytes (List (Option Bytes)) × List (String × Bytes) :=
  let slots := (slotsOf partials chunk).set chunk.index (some chunk.chunk)
  if none ∈ slots then (partials.set chunk.msgId slots, [])
  else (partials.erase chunk.msgId, deliver slots.reduceOption.flatten)

/-- `_on_datagram`, with the calls of the registered receiver. -/
def onDatagram (transport : UdpOverlayTransport) (data : Bytes) :
    UdpOverlayTransport × List (String × Bytes) :=
  match parse transport.credential data with
  | none => (transport, [])
  | some chunk =>
    ({ transport with partials := (accept transport.partials chunk).1 },
      (accept transport.partials chunk).2)

end UdpOverlayTransport
end Overlay
end ZepGpu
