import ZepGpu.Overlay.Udp

namespace ZepGpu
namespace Overlay

open Foundation Dict List

/-!
# Reassembly of datagrams

The receiver sees the datagrams of many messages in any order, with some missing
or repeated, and others that nobody with the credential has sent.  Each message
that it keeps is part of a send.
-/

/-- One call of `send`: the payload and the message id that it drew. -/
structure UdpSend (credential : String) where
  transport : UdpOverlayTransport
  msgId : Bytes
  payload : Bytes
  datagrams : List Bytes
  authorized : transport.credential = credential
  length_msgId : msgId.length = 16
  sent : transport.sendRaw msgId payload = .ok datagrams

namespace UdpSend

variable {credential : String} {send : UdpSend credential}

def parts (send : UdpSend credential) : List Bytes :=
  chunksOf (named send.transport.localPeerId.text send.payload)

def chunks (send : UdpSend credential) : List Chunk :=
  messageOf send.msgId send.parts

def call (send : UdpSend credential) : String × Bytes :=
  (send.transport.localPeerId.text, send.payload)

theorem sent_parts (send : UdpSend credential) :
    (utf8 send.transport.localPeerId.text).length ≤ 65535 ∧ send.parts.length < 256 ^ 2 ∧
      send.datagrams = send.chunks.map (Chunk.packet credential) := by
  have sent := send.sent
  unfold UdpOverlayTransport.sendRaw at sent
  split_ifs at sent with stopped long
  rcases Nat.lt_or_ge send.parts.length (256 ^ 2) with few | many
  · rw [show chunksOf _ = send.parts from rfl, mapM_pack few, send.authorized] at sent
    exact ⟨Nat.not_lt.mp long, few, (Except.ok.inj sent).symm⟩
  · obtain ⟨message, refused⟩ := @mapM_pack_of_many send.transport.credential send.msgId _ many
    exact nomatch (refused.symm.trans sent)

theorem mem_chunks {chunk : Chunk} :
    chunk ∈ send.chunks ↔ chunk.msgId = send.msgId ∧ chunk.total = send.parts.length ∧
      send.parts[chunk.index]? = some chunk.chunk :=
  mem_messageOf

theorem wellFormed {chunk : Chunk} (member : chunk ∈ send.chunks) : chunk.WellFormed :=
  wellFormed_of_mem_messageOf send.length_msgId send.sent_parts.2.1 member

theorem mem_datagrams {data : Bytes} :
    data ∈ send.datagrams ↔ ∃ chunk, chunk ∈ send.chunks ∧ chunk.packet credential = data := by
  rw [send.sent_parts.2.2, mem_map]

theorem parts_ne_nil : send.parts ≠ [] :=
  chunksOf_named_ne_nil

theorem deliver_parts : UdpOverlayTransport.deliver send.parts.flatten =
    if send.payload = udpProbe then [] else [send.call] := by
  unfold UdpOverlayTransport.deliver parts
  rw [flatten_chunksOf_named, splitName_named send.sent_parts.1]
  dsimp only
  rw [decodeReplace, ofUtf8?_utf8]
  rfl

/-- What the slots hold are parts of the message. -/
def Agrees (send : UdpSend credential) (slots : List (Option Bytes)) : Prop :=
  slots.length = send.parts.length ∧
    ∀ (index : Nat) (data : Bytes), slots[index]? = some (some data) ->
      send.parts[index]? = some data

theorem agrees_replicate : send.Agrees (List.replicate send.parts.length none) := by
  refine ⟨length_replicate, fun index data found => ?_⟩
  rw [getElem?_replicate] at found
  split_ifs at found
  cases found

theorem Agrees.set {slots : List (Option Bytes)} {index : Nat} {data : Bytes}
    (agrees : send.Agrees slots) (here : send.parts[index]? = some data) :
    send.Agrees (slots.set index (some data)) := by
  refine ⟨length_set.trans agrees.1, fun other found same => ?_⟩
  rw [getElem?_set] at same
  split_ifs at same with place inside
  · cases same
    exact place ▸ here
  · exact agrees.2 other found same

theorem Agrees.eq_map_some {slots : List (Option Bytes)} (agrees : send.Agrees slots)
    (full : none ∉ slots) : slots = send.parts.map some := by
  refine ext_getElem (agrees.1.trans (length_map _).symm) fun index below also => ?_
  rw [getElem_map]
  cases found : slots[index] with
  | none => exact absurd (found ▸ getElem_mem below) full
  | some data =>
    have part := agrees.2 index data (by rw [getElem?_eq_getElem below, found])
    rw [(List.getElem?_eq_some_iff.mp part).2]

end UdpSend

theorem reduceOption_map_some {α : Type} (l : List α) : (l.map some).reduceOption = l := by
  change (l.map some).filterMap id = l
  rw [filterMap_map]
  exact filterMap_some

namespace UdpOverlayTransport

variable {credential : String} {sends : Set (UdpSend credential)} {send : UdpSend credential}
  {partials : Dict Bytes (List (Option Bytes))} {receiver : UdpOverlayTransport}

variable {front : List Bytes} {data : Bytes} {chunk : Chunk}

theorem slotsOf_eq (member : chunk ∈ send.chunks)
    (agrees : send.Agrees ((partials.get? send.msgId).getD (List.replicate send.parts.length none))) :
    slotsOf partials chunk =
      (partials.get? send.msgId).getD (List.replicate send.parts.length none) := by
  obtain ⟨sameId, total, -⟩ := UdpSend.mem_chunks.mp member
  unfold slotsOf
  rw [sameId, total]
  exact if_neg fun different => different agrees.1

theorem accept_eq (member : chunk ∈ send.chunks)
    (agrees : send.Agrees ((partials.get? send.msgId).getD (List.replicate send.parts.length none))) :
    accept partials chunk =
      let slots := ((partials.get? send.msgId).getD (List.replicate send.parts.length none)).set
        chunk.index (some chunk.chunk)
      if none ∈ slots then (partials.set send.msgId slots, [])
      else (partials.erase send.msgId, if send.payload = udpProbe then [] else [send.call]) := by
  obtain ⟨sameId, total, here⟩ := UdpSend.mem_chunks.mp member
  unfold accept
  rw [slotsOf_eq member agrees, sameId]
  dsimp only
  split_ifs with gap probe
  · rfl
  · rw [(agrees.set here).eq_map_some gap, reduceOption_map_some, UdpSend.deliver_parts,
      if_pos probe]
  · rw [(agrees.set here).eq_map_some gap, reduceOption_map_some, UdpSend.deliver_parts,
      if_neg probe]

/-! ## Every call is one of a send -/

/-- Whoever made a datagram that is authentic, its chunk is one of a send. -/
def Unforged (sends : Set (UdpSend credential)) (data : Bytes) : Prop :=
  ∀ chunk, parse credential data = some chunk ->
    ∃ send, send ∈ sends ∧ ∃ signed, signed ∈ send.chunks ∧ chunk.body = signed.body

/-- No two sends draw the same message id. -/
def DistinctIds (sends : Set (UdpSend credential)) : Prop :=
  ∀ first, first ∈ sends -> ∀ second, second ∈ sends ->
    first.msgId = second.msgId -> first = second

theorem Unforged.exists_send (unforged : Unforged sends data)
    (parsed : parse credential data = some chunk) :
    ∃ send, send ∈ sends ∧ chunk ∈ send.chunks ∧ data ∈ send.datagrams := by
  obtain ⟨send, member, signed, inside, sameBody⟩ := unforged chunk parsed
  obtain ⟨wellFormed, packet⟩ := packet_of_parse parsed
  have same := Chunk.body_injective wellFormed (UdpSend.wellFormed inside) sameBody
  rw [← same] at inside
  exact ⟨send, member, inside, UdpSend.mem_datagrams.mpr ⟨chunk, inside, packet.symm⟩⟩

theorem unforged_of_mem (member : send ∈ sends) (own : data ∈ send.datagrams) :
    Unforged sends data := by
  intro chunk parsed
  obtain ⟨signed, inside, rfl⟩ := UdpSend.mem_datagrams.mp own
  rw [parse_packet (UdpSend.wellFormed inside)] at parsed
  exact ⟨send, member, signed, inside, congrArg Chunk.body (Option.some.inj parsed).symm⟩

/-- Every message in parts is one that was sent. -/
def Held (sends : Set (UdpSend credential)) (partials : Dict Bytes (List (Option Bytes))) : Prop :=
  ∀ msgId slots, partials.get? msgId = some slots ->
    ∃ send, send ∈ sends ∧ send.msgId = msgId ∧ send.Agrees slots

theorem Held.agrees (held : Held sends partials) (distinct : DistinctIds sends)
    (member : send ∈ sends) : send.Agrees ((partials.get? send.msgId).getD
      (List.replicate send.parts.length none)) := by
  cases found : partials.get? send.msgId with
  | none => exact UdpSend.agrees_replicate
  | some slots =>
    obtain ⟨other, known, sameId, agrees⟩ := held send.msgId slots found
    have same := distinct other known send member sameId
    rw [← same]
    exact agrees

theorem held_accept (held : Held sends partials) (distinct : DistinctIds sends)
    (member : send ∈ sends) (inside : chunk ∈ send.chunks) :
    Held sends (accept partials chunk).1 := by
  have agrees := held.agrees distinct member
  have here := (UdpSend.mem_chunks.mp inside).2.2
  rw [accept_eq inside agrees]
  intro msgId slots found
  dsimp only at found
  split_ifs at found with gap
  · rcases eq_or_ne msgId send.msgId with rfl | different
    · rw [get?_set_self] at found
      cases found
      exact ⟨send, member, rfl, agrees.set here⟩
    · rw [get?_set_of_ne different] at found
      exact held msgId slots found
  · exact held msgId slots (get?_erase_eq_some found).2
  · exact held msgId slots (get?_erase_eq_some found).2

theorem eq_call_of_mem_accept (held : Held sends partials) (distinct : DistinctIds sends)
    (member : send ∈ sends) (inside : chunk ∈ send.chunks) {call : String × Bytes}
    (made : call ∈ (accept partials chunk).2) : call = send.call := by
  rw [accept_eq inside (held.agrees distinct member)] at made
  dsimp only at made
  split_ifs at made
  · cases made
  · cases made
  · exact mem_singleton.mp made

/-! ## Runs -/

/-- The calls of the receiver, each with the datagram at which it was made. -/
def received (receiver : UdpOverlayTransport) : List Bytes -> List (Bytes × (String × Bytes))
  | [] => []
  | data :: rest =>
    (receiver.onDatagram data).2.map (data, ·) ++ (receiver.onDatagram data).1.received rest

theorem onDatagram_credential : (receiver.onDatagram data).1.credential = receiver.credential := by
  unfold onDatagram
  cases parse receiver.credential data with
  | none => rfl
  | some chunk => rfl

theorem call_of_mem_received {arrivals : List Bytes} (holder : receiver.credential = credential)
    (held : Held sends receiver.partials) (distinct : DistinctIds sends)
    (unforged : ∀ data, data ∈ arrivals -> Unforged sends data) {call : String × Bytes}
    (made : (data, call) ∈ receiver.received arrivals) :
    ∃ send, send ∈ sends ∧ data ∈ send.datagrams ∧ call = send.call := by
  induction arrivals generalizing receiver with
  | nil => cases made
  | cons first rest ih =>
    have later := fun data member => unforged data (mem_cons_of_mem _ member)
    rw [received, mem_append] at made
    unfold onDatagram at made
    rw [holder] at made
    cases parsed : parse credential first with
    | none =>
      rw [parsed] at made
      rcases made with now | after
      · cases now
      · exact ih holder held later after
    | some chunk =>
      rw [parsed] at made
      obtain ⟨send, member, inside, own⟩ := (unforged first mem_cons_self).exists_send parsed
      rcases made with now | after
      · obtain ⟨reached, called, same⟩ := mem_map.mp now
        cases same
        exact ⟨send, member, own, eq_call_of_mem_accept held distinct member inside called⟩
      · exact ih rfl (held_accept held distinct member inside) later after

/-! ## A whole message is delivered once -/

/-- The slots of a send, when the datagrams before a moment are known. -/
def progress (send : UdpSend credential) (front : List Bytes) : List (Option Bytes) :=
  send.chunks.map fun chunk => if chunk.packet credential ∈ front then some chunk.chunk else none

/-- Every datagram of the message has arrived. -/
def Complete (send : UdpSend credential) (front : List Bytes) : Prop :=
  ∀ data, data ∈ send.datagrams -> data ∈ front

/-- The data are no datagram of the message. -/
def Foreign (send : UdpSend credential) (data : Bytes) : Prop :=
  ∀ chunk, parse credential data = some chunk -> chunk.msgId ≠ send.msgId

/-- The receiver has the slots of the send that have arrived. -/
def Tracks (send : UdpSend credential) (front : List Bytes)
    (partials : Dict Bytes (List (Option Bytes))) : Prop :=
  (partials.get? send.msgId).getD (List.replicate send.parts.length none) = progress send front

theorem getElem?_progress {index : Nat} :
    (progress send front)[index]? = send.chunks[index]?.map fun chunk =>
      if chunk.packet credential ∈ front then some chunk.chunk else none :=
  getElem?_map

theorem getElem?_chunks {index : Nat} : send.chunks[index]? = send.parts[index]?.map fun chunk =>
    { msgId := send.msgId, index, total := send.parts.length, chunk } :=
  getElem?_mapIdx

theorem none_mem_progress : none ∈ progress send front ↔ ¬Complete send front := by
  unfold progress Complete
  rw [mem_map]
  constructor
  · rintro ⟨chunk, member, gap⟩ complete
    rw [if_pos (complete _ (UdpSend.mem_datagrams.mpr ⟨chunk, member, rfl⟩))] at gap
    cases gap
  · intro missing
    by_contra nothing
    refine missing fun data own => ?_
    obtain ⟨chunk, member, rfl⟩ := UdpSend.mem_datagrams.mp own
    by_contra absent
    exact nothing ⟨chunk, member, if_neg absent⟩

theorem agrees_progress : send.Agrees (progress send front) := by
  refine ⟨(length_map _).trans length_messageOf, fun index data found => ?_⟩
  rw [getElem?_progress, getElem?_chunks, Option.map_map] at found
  obtain ⟨part, here, there⟩ := Option.map_eq_some_iff.mp found
  dsimp only [Function.comp] at there
  split_ifs at there
  cases there
  exact here

theorem tracks_nil (new : partials.get? send.msgId = none) : Tracks send [] partials := by
  unfold Tracks progress
  rw [new]
  refine (eq_replicate_iff.mpr ⟨(length_map _).trans length_messageOf, ?_⟩).symm
  intro slot member
  obtain ⟨chunk, -, empty⟩ := mem_map.mp member
  exact empty.symm

theorem not_complete_nil : ¬Complete send [] := by
  intro complete
  obtain ⟨part, rest, shape⟩ := exists_cons_of_ne_nil send.parts_ne_nil
  have member : ({ msgId := send.msgId, index := 0, total := send.parts.length, chunk := part } : Chunk)
      ∈ send.chunks := UdpSend.mem_chunks.mpr ⟨rfl, rfl, by rw [shape]; rfl⟩
  exact absurd (complete _ (UdpSend.mem_datagrams.mpr ⟨_, member, rfl⟩)) not_mem_nil

theorem progress_concat (member : chunk ∈ send.chunks) :
    (progress send front).set chunk.index (some chunk.chunk) =
      progress send (front ++ [chunk.packet credential]) := by
  refine ext_getElem? fun index => ?_
  obtain ⟨sameId, total, here⟩ := UdpSend.mem_chunks.mp member
  have chunkEq : chunk =
      { msgId := send.msgId, index := chunk.index, total := send.parts.length, chunk := chunk.chunk } := by
    rw [← sameId, ← total]
  have length : (progress send front).length = send.parts.length := agrees_progress.1
  rw [getElem?_set, length, getElem?_progress, getElem?_progress]
  split_ifs with place inside
  · subst place
    rw [getElem?_chunks, here, Option.map_some, Option.map_some, ← chunkEq]
    exact (congrArg some (if_pos (mem_append_right _ mem_cons_self))).symm
  · exact absurd (List.getElem?_eq_some_iff.mp here).1 inside
  · cases found : send.chunks[index]? with
    | none => rfl
    | some other =>
      have apart : other.packet credential ≠ chunk.packet credential := by
        intro same
        have known := mem_of_getElem? found
        have parsed := @parse_packet credential _ (UdpSend.wellFormed known)
        rw [same, parse_packet (UdpSend.wellFormed member)] at parsed
        cases parsed
        rw [getElem?_chunks] at found
        obtain ⟨part, -, built⟩ := Option.map_eq_some_iff.mp found
        exact place (congrArg Chunk.index built).symm
      have mem : other.packet credential ∈ front ++ [chunk.packet credential] ↔
          other.packet credential ∈ front := by
        rw [mem_append, mem_singleton, or_iff_left apart]
      rw [Option.map_some, Option.map_some]
      simp only [mem]

theorem onDatagram_of_mem (holder : receiver.credential = credential)
    (tracks : Tracks send front receiver.partials) (own : data ∈ send.datagrams)
    (notProbe : send.payload ≠ udpProbe) :
    (Complete send (front ++ [data]) -> (receiver.onDatagram data).2 = [send.call]) ∧
      (¬Complete send (front ++ [data]) -> (receiver.onDatagram data).2 = [] ∧
        Tracks send (front ++ [data]) (receiver.onDatagram data).1.partials) := by
  obtain ⟨chunk, member, rfl⟩ := UdpSend.mem_datagrams.mp own
  unfold onDatagram
  rw [holder, parse_packet (UdpSend.wellFormed member)]
  dsimp only
  unfold Tracks at tracks
  rw [accept_eq member (tracks ▸ agrees_progress), tracks, progress_concat member]
  constructor
  · intro complete
    rw [if_neg fun gap => none_mem_progress.mp gap complete, if_neg notProbe]
  · intro incomplete
    rw [if_pos (none_mem_progress.mpr incomplete)]
    refine ⟨rfl, ?_⟩
    unfold Tracks
    rw [get?_set_self, Option.getD_some]

theorem onDatagram_of_foreign (holder : receiver.credential = credential)
    (tracks : Tracks send front receiver.partials) (other : data ∉ send.datagrams)
    (foreign : Foreign send data) :
    Tracks send (front ++ [data]) (receiver.onDatagram data).1.partials ∧
      (Complete send (front ++ [data]) ↔ Complete send front) := by
  have apart : ∀ own, own ∈ send.datagrams -> (own ∈ front ++ [data] ↔ own ∈ front) := by
    intro own member
    rw [mem_append, mem_singleton]
    exact or_iff_left fun same => other (same ▸ member)
  have same : progress send (front ++ [data]) = progress send front := by
    refine map_congr_left fun chunk member => ?_
    simp only [apart _ (UdpSend.mem_datagrams.mpr ⟨chunk, member, rfl⟩)]
  refine ⟨?_, forall₂_congr apart⟩
  unfold Tracks onDatagram
  rw [same, holder]
  cases parsed : parse credential data with
  | none => exact tracks
  | some chunk =>
    have elsewhere := foreign chunk parsed
    dsimp only
    unfold accept
    dsimp only
    split_ifs
    · rw [get?_set_of_ne elsewhere.symm]
      exact tracks
    · rw [get?_erase_of_ne elsewhere.symm]
      exact tracks

def callsAt (send : UdpSend credential) (log : List (Bytes × (String × Bytes))) :
    List (Bytes × (String × Bytes)) :=
  log.filter fun entry => entry.1 ∈ send.datagrams

theorem mem_of_mem_received {arrivals : List Bytes} {entry : Bytes × (String × Bytes)}
    (made : entry ∈ receiver.received arrivals) : entry.1 ∈ arrivals := by
  induction arrivals generalizing receiver with
  | nil => cases made
  | cons data rest ih =>
    rcases mem_append.mp made with now | later
    · obtain ⟨call, -, rfl⟩ := mem_map.mp now
      exact mem_cons_self
    · exact mem_cons_of_mem _ (ih later)

theorem callsAt_eq_nil {arrivals : List Bytes}
    (past : ∀ data, data ∈ arrivals -> data ∉ send.datagrams) :
    callsAt send (receiver.received arrivals) = [] := by
  refine filter_eq_nil_iff.mpr fun entry made own => ?_
  exact past entry.1 (mem_of_mem_received made) (of_decide_eq_true own)

/-- The message is delivered once, with the last of its datagrams that arrives. -/
def DeliveredOnce (receiver : UdpOverlayTransport) (arrivals : List Bytes)
    (send : UdpSend credential) : Prop :=
  ∃ front last back, arrivals = front ++ last :: back ∧ last ∈ send.datagrams ∧
    (∀ data, data ∈ back -> data ∉ send.datagrams) ∧
    callsAt send (receiver.received arrivals) = [(last, send.call)]

theorem deliveredOnce_of_tracks {front arrivals : List Bytes}
    (holder : receiver.credential = credential) (tracks : Tracks send front receiver.partials)
    (notProbe : send.payload ≠ udpProbe)
    (others : ∀ data, data ∈ arrivals -> data ∉ send.datagrams -> Foreign send data)
    (once : ∀ data, data ∈ send.datagrams -> (front ++ arrivals).count data = 1)
    (incomplete : ¬Complete send front) : receiver.DeliveredOnce arrivals send := by
  induction arrivals generalizing receiver front with
  | nil =>
    rw [append_nil] at once
    exact absurd (fun data own => count_pos_iff.mp (by rw [once data own]; decide)) incomplete
  | cons data rest ih =>
    have later := fun other member => others other (mem_cons_of_mem _ member)
    have shifted : front ++ data :: rest = (front ++ [data]) ++ rest := by
      rw [append_assoc, singleton_append]
    have kept : (receiver.onDatagram data).1.credential = receiver.credential :=
      onDatagram_credential
    rw [shifted] at once
    by_cases own : data ∈ send.datagrams
    · obtain ⟨whole, partway⟩ := onDatagram_of_mem holder tracks own notProbe
      by_cases complete : Complete send (front ++ [data])
      · -- Every datagram of the send is in front now, and none comes again.
        have past : ∀ other, other ∈ rest -> other ∉ send.datagrams := by
          intro other after member
          have before := count_pos_iff.mpr (complete other member)
          have again := count_pos_iff.mpr after
          have counted := once other member
          rw [count_append] at counted
          omega
        refine ⟨[], data, rest, rfl, own, past, ?_⟩
        rw [received, whole complete, callsAt, filter_append]
        rw [show List.filter _ ((receiver.onDatagram data).1.received rest) = [] from
          callsAt_eq_nil past, append_nil]
        exact filter_cons_of_pos (decide_eq_true own)
      · obtain ⟨silent, next⟩ := partway complete
        obtain ⟨mid, last, back, split, mine, past, calls⟩ :=
          ih (kept.trans holder) next later once complete
        refine ⟨data :: mid, last, back, by rw [split]; rfl, mine, past, ?_⟩
        rw [received, silent]
        exact calls
    · obtain ⟨next, same⟩ :=
        onDatagram_of_foreign holder tracks own (others data mem_cons_self own)
      obtain ⟨mid, last, back, split, mine, past, calls⟩ :=
        ih (kept.trans holder) next later once (mt same.mp incomplete)
      refine ⟨data :: mid, last, back, by rw [split]; rfl, mine, past, ?_⟩
      have none : callsAt send ((receiver.onDatagram data).2.map (data, ·)) = [] := by
        refine filter_eq_nil_iff.mpr fun entry made mine => ?_
        obtain ⟨call, -, rfl⟩ := mem_map.mp made
        exact own (of_decide_eq_true mine)
      rw [received, callsAt, filter_append]
      rw [callsAt] at none
      rw [none]
      exact calls

theorem DistinctIds.foreign (distinct : DistinctIds sends) (member : send ∈ sends)
    (unforged : Unforged sends data) (other : data ∉ send.datagrams) : Foreign send data := by
  intro chunk parsed sameId
  obtain ⟨author, known, inside, own⟩ := unforged.exists_send parsed
  have same := distinct author known send member
    ((UdpSend.mem_chunks.mp inside).1.symm.trans sameId)
  exact other (same ▸ own)

/-- Every call carries the name and the payload of a send, and a send all of whose
datagrams arrive exactly once is delivered exactly once, when the last of them
arrives. -/
theorem reassembly_correct {arrivals : List Bytes} (holder : receiver.credential = credential)
    (new : receiver.partials = Dict.empty) (distinct : DistinctIds sends)
    (unforged : ∀ data, data ∈ arrivals -> Unforged sends data) :
    (∀ data call, (data, call) ∈ receiver.received arrivals ->
        ∃ send, send ∈ sends ∧ data ∈ send.datagrams ∧ call = send.call) ∧
      ∀ send, send ∈ sends -> send.payload ≠ udpProbe ->
        (∀ data, data ∈ send.datagrams -> arrivals.count data = 1) ->
        receiver.DeliveredOnce arrivals send := by
  constructor
  · intro data call made
    have held : Held sends receiver.partials := by
      rw [new]
      exact fun msgId slots found => nomatch found
    exact call_of_mem_received holder held distinct unforged made
  · intro send member notProbe once
    have tracks : Tracks send [] receiver.partials := tracks_nil (by rw [new]; rfl)
    exact deliveredOnce_of_tracks holder tracks notProbe
      (fun data arrived => distinct.foreign member (unforged data arrived)) once not_complete_nil

end UdpOverlayTransport

namespace UdpSend

variable {credential : String} {send : UdpSend credential}

theorem map_index_chunks : send.chunks.map Chunk.index = List.range send.parts.length := by
  refine ext_getElem? fun index => ?_
  rw [getElem?_map, UdpOverlayTransport.getElem?_chunks, Option.map_map]
  rcases Nat.lt_or_ge index send.parts.length with below | beyond
  · rw [getElem?_eq_getElem below, getElem?_range below]
    rfl
  · rw [getElem?_eq_none beyond, getElem?_eq_none (by rwa [length_range])]
    rfl

theorem nodup_datagrams : send.datagrams.Nodup := by
  rw [send.sent_parts.2.2]
  refine List.Nodup.map_on ?_ (List.Nodup.of_map Chunk.index ?_)
  · intro first here second there same
    have parsed := @UdpOverlayTransport.parse_packet credential _ (UdpSend.wellFormed here)
    rw [same, UdpOverlayTransport.parse_packet (UdpSend.wellFormed there)] at parsed
    exact (Option.some.inj parsed).symm
  · rw [map_index_chunks]
    exact nodup_range

theorem length_datagrams : send.datagrams.length =
    (2 + (utf8 send.transport.localPeerId.text).length + send.payload.length + 1023) / 1024 := by
  rw [send.sent_parts.2.2, length_map, chunks, length_messageOf, parts, chunksOf_eq named_ne_nil,
    pieces, length_map, length_range, length_named]
  rfl

theorem not_mem_datagrams {other : UdpSend credential} {data : Bytes}
    (different : other.msgId ≠ send.msgId) (own : data ∈ send.datagrams) :
    data ∉ other.datagrams := by
  intro also
  obtain ⟨chunk, inside, rfl⟩ := UdpSend.mem_datagrams.mp own
  obtain ⟨twin, there, same⟩ := UdpSend.mem_datagrams.mp also
  have parsed := @UdpOverlayTransport.parse_packet credential _ (UdpSend.wellFormed there)
  rw [same, UdpOverlayTransport.parse_packet (UdpSend.wellFormed inside)] at parsed
  cases parsed
  exact different ((UdpSend.mem_chunks.mp there).1.symm.trans (UdpSend.mem_chunks.mp inside).1)

end UdpSend

/-! ## Interleaved sends -/

def samplePeerId : PeerId :=
  ⟨"a", by decide⟩

def sampleUdp : UdpOverlayTransport where
  localPeerId := samplePeerId
  credential := "run"
  maxFrameBytes := 2048
  peers := Dict.empty.set "b" ⟨some "127.0.0.1", some 4000⟩
  started := true
  closed := false
  partials := Dict.empty

/-- A message of two datagrams. -/
def sampleSend (fill : UInt8) : UdpSend "run" where
  transport := sampleUdp
  msgId := List.replicate 16 fill
  payload := List.replicate 1100 fill
  datagrams := (messageOf (List.replicate 16 fill)
    (chunksOf (named "a" (List.replicate 1100 fill)))).map (Chunk.packet "run")
  authorized := rfl
  length_msgId := length_replicate
  sent := mapM_pack (length_chunksOf_named_lt.mpr (by rw [length_replicate]; decide))

/-- Two messages are interleaved with each other, with bytes of a stranger and with
a message whose first datagram arrives twice and whose second one is lost. -/
def sampleArrivals : List Bytes :=
  (sampleSend 0).datagrams.take 1 ++ (sampleSend 1).datagrams.take 1 ++ [utf8 "noise"] ++
    (sampleSend 2).datagrams.take 1 ++ (sampleSend 2).datagrams.take 1 ++
    (sampleSend 1).datagrams.drop 1 ++ (sampleSend 0).datagrams.drop 1

theorem sampleSend_distinct {first second : UInt8}
    (same : (sampleSend first).msgId = (sampleSend second).msgId) : first = second :=
  (List.cons.inj same).1

theorem noise_refused : UdpOverlayTransport.parse "run" (utf8 "noise") = none :=
  if_pos (by decide)

theorem noise_not_mem {fill : UInt8} : utf8 "noise" ∉ (sampleSend fill).datagrams := by
  intro own
  obtain ⟨chunk, inside, packet⟩ := UdpSend.mem_datagrams.mp own
  have parsed := @UdpOverlayTransport.parse_packet "run" _ (UdpSend.wellFormed inside)
  rw [packet, noise_refused] at parsed
  cases parsed

theorem count_sampleSend {fill other : UInt8} {data : Bytes} {part : List Bytes}
    (different : other ≠ fill) (own : data ∈ (sampleSend fill).datagrams)
    (inside : part.Sublist (sampleSend other).datagrams) : part.count data = 0 := by
  refine count_eq_zero.mpr fun member => ?_
  exact UdpSend.not_mem_datagrams (fun same => different (sampleSend_distinct same)) own
    (inside.subset member)

theorem unforged_sampleArrivals {data : Bytes} (arrived : data ∈ sampleArrivals) :
    UdpOverlayTransport.Unforged (Set.range sampleSend) data := by
  have own : ∀ fill, data ∈ (sampleSend fill).datagrams ->
      UdpOverlayTransport.Unforged (Set.range sampleSend) data :=
    fun fill => UdpOverlayTransport.unforged_of_mem (Set.mem_range_self fill)
  simp only [sampleArrivals, mem_append, mem_singleton] at arrived
  rcases arrived with (((((first | first) | noise) | lost) | lost) | last) | last
  · exact own 0 (mem_of_mem_take first)
  · exact own 1 (mem_of_mem_take first)
  · intro chunk parsed
    rw [noise, noise_refused] at parsed
    cases parsed
  · exact own 2 (mem_of_mem_take lost)
  · exact own 2 (mem_of_mem_take lost)
  · exact own 1 (mem_of_mem_drop last)
  · exact own 0 (mem_of_mem_drop last)

theorem count_sampleArrivals {fill : UInt8} (whole : fill = 0 ∨ fill = 1) {data : Bytes}
    (own : data ∈ (sampleSend fill).datagrams) : sampleArrivals.count data = 1 := by
  have once : ((sampleSend fill).datagrams.take 1).count data +
      ((sampleSend fill).datagrams.drop 1).count data = 1 := by
    rw [← count_append, take_append_drop]
    exact count_eq_one_of_mem UdpSend.nodup_datagrams own
  have noise : [utf8 "noise"].count data = 0 := by
    refine count_eq_zero.mpr fun member => ?_
    rw [mem_singleton] at member
    exact noise_not_mem (member ▸ own)
  have front : ∀ other, other ≠ fill -> ((sampleSend other).datagrams.take 1).count data = 0 :=
    fun other different => count_sampleSend different own (take_sublist 1 _)
  have back : ∀ other, other ≠ fill -> ((sampleSend other).datagrams.drop 1).count data = 0 :=
    fun other different => count_sampleSend different own (drop_sublist 1 _)
  unfold sampleArrivals
  simp only [count_append]
  rcases whole with rfl | rfl
  · rw [noise, front 1 (by decide), back 1 (by decide), front 2 (by decide)]
    omega
  · rw [noise, front 0 (by decide), back 0 (by decide), front 2 (by decide)]
    omega

/-- Two messages of two parts each arrive interleaved, with noise and a third that stays
in parts. -/
theorem reassembly_sampleArrivals :
    (sampleSend 0).datagrams.length = 2 ∧ (sampleSend 1).datagrams.length = 2 ∧
      sampleUdp.DeliveredOnce sampleArrivals (sampleSend 0) ∧
      sampleUdp.DeliveredOnce sampleArrivals (sampleSend 1) ∧
      ∀ data call, (data, call) ∈ sampleUdp.received sampleArrivals ->
        ∃ fill, data ∈ (sampleSend fill).datagrams ∧ call = (sampleSend fill).call := by
  have notProbe : ∀ fill, (sampleSend fill).payload ≠ udpProbe := by
    intro fill same
    have length := congrArg List.length same
    rw [show (sampleSend fill).payload = List.replicate 1100 fill from rfl,
      length_replicate] at length
    revert length
    decide
  have two : ∀ fill, (sampleSend fill).datagrams.length = 2 := by
    intro fill
    rw [UdpSend.length_datagrams, show (sampleSend fill).payload = List.replicate 1100 fill from rfl,
      length_replicate, show (sampleSend fill).transport.localPeerId.text = "a" from rfl]
    decide
  have distinct : UdpOverlayTransport.DistinctIds (Set.range sampleSend) := by
    rintro _ ⟨first, rfl⟩ _ ⟨second, rfl⟩ same
    rw [sampleSend_distinct same]
  have correct := @UdpOverlayTransport.reassembly_correct "run" (Set.range sampleSend) sampleUdp
    sampleArrivals rfl rfl distinct (fun _ arrived => unforged_sampleArrivals arrived)
  refine ⟨two 0, two 1, ?_, ?_, ?_⟩
  · exact correct.2 _ (Set.mem_range_self 0) (notProbe 0)
      fun _ own => count_sampleArrivals (Or.inl rfl) own
  · exact correct.2 _ (Set.mem_range_self 1) (notProbe 1)
      fun _ own => count_sampleArrivals (Or.inr rfl) own
  · intro data call made
    obtain ⟨_, ⟨fill, rfl⟩, own, same⟩ := correct.1 data call made
    exact ⟨fill, own, same⟩

end Overlay
end ZepGpu
