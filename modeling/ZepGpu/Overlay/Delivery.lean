import ZepGpu.Overlay.Lan
import ZepGpu.Overlay.Reassembly
import ZepGpu.Overlay.Tcp

namespace ZepGpu
namespace Overlay

open Foundation

/-!
# Delivery by the direct transports

A payload that a transport accepts should reach the receiver of the peer once,
and a payload that it does not accept should go through the relay.  This holds
of each transport on a condition that is exact.  The transports with a name in
front of the payload compare lengths that are not those that they transmit.
-/

namespace UdpOverlayTransport

variable {sender peer : UdpOverlayTransport} {network : Network} {peerId : String}
  {msgId payload : Bytes}

/-- The datagrams of a send that leave the socket.  The event loop keeps to itself
what the socket raises for an address. -/
def leaving (sender : UdpOverlayTransport) (network : Network) (peerId : String)
    (datagrams : List Bytes) : List Bytes :=
  match (sender.peers.get? peerId).bind OverlayPeer.address? with
  | none => []
  | some address =>
    match network address with
    | .error _ => []
    | .ok () => datagrams

/-- A payload is delivered exactly once in whatever order its datagrams arrive, or
the transfer falls back. -/
def Delivers (sender peer : UdpOverlayTransport) (network : Network) (peerId : String)
    (msgId payload : Bytes) : Prop :=
  FallsBackOr (fun datagrams => ∀ arrivals : List Bytes,
      arrivals.Perm (sender.leaving network peerId datagrams) ->
      (peer.received arrivals).map Prod.snd = [(sender.localPeerId.text, payload)])
    (sender.send peerId msgId payload)

/-- The transport is open, and either refuses the payload, or the lengths of the
name and of the list of chunks fit their fields and the address can be used. -/
def Sendable (sender : UdpOverlayTransport) (network : Network) (peerId : String)
    (payload : Bytes) : Prop :=
  sender.closed = false ∧
    ∀ address, (sender.peers.get? peerId).bind OverlayPeer.address? = some address ->
      payload.length ≤ sender.maxFrameBytes -> sender.started = true ->
      (utf8 sender.localPeerId.text).length ≤ 65535 ∧
        2 + (utf8 sender.localPeerId.text).length + payload.length ≤ 65535 * 1024 ∧
        network address = .ok ()

theorem received_perm {datagrams arrivals : List Bytes} (holder : peer.credential = sender.credential)
    (new : peer.partials.get? msgId = none) (length : msgId.length = 16)
    (notProbe : payload ≠ udpProbe) (sent : sender.sendRaw msgId payload = .ok datagrams)
    (all : arrivals.Perm datagrams) :
    (peer.received arrivals).map Prod.snd = [(sender.localPeerId.text, payload)] := by
  let send : UdpSend sender.credential :=
    { transport := sender, msgId, payload, datagrams, authorized := rfl, length_msgId := length, sent }
  have own : ∀ data, data ∈ arrivals -> data ∈ send.datagrams := fun data => all.mem_iff.mp
  have once : ∀ data, data ∈ send.datagrams -> ([] ++ arrivals).count data = 1 := by
    intro data member
    rw [List.nil_append, all.count_eq]
    exact List.count_eq_one_of_mem send.nodup_datagrams member
  obtain ⟨front, last, back, -, -, -, calls⟩ :=
    @deliveredOnce_of_tracks _ send peer [] arrivals holder (tracks_nil new) notProbe
      (fun data arrived absent => absurd (own data arrived) absent) once not_complete_nil
  have every : callsAt send (peer.received arrivals) = peer.received arrivals :=
    List.filter_eq_self.mpr fun entry made => decide_eq_true (own _ (mem_of_mem_received made))
  rw [← every, calls]
  rfl

theorem delivers_iff (holder : peer.credential = sender.credential)
    (new : peer.partials.get? msgId = none) (length : msgId.length = 16)
    (notProbe : payload ≠ udpProbe) :
    sender.Delivers peer network peerId msgId payload ↔ sender.Sendable network peerId payload := by
  unfold Delivers Sendable send leaving
  refine fallsBackOr_checked_iff fun address found _ => ?_
  rw [found]
  dsimp only
  have arrives := fun datagrams arrivals =>
    @received_perm sender peer msgId payload datagrams arrivals holder new length notProbe
  have few := @length_chunksOf_named_lt sender.localPeerId.text payload
  revert arrives
  unfold sendRaw
  split_ifs with stopped longName
  · exact fun _ => iff_of_true rfl fun running => absurd running (by rw [stopped]; decide)
  · refine fun _ => iff_of_false Bool.false_ne_true fun given => ?_
    exact absurd (given (Bool.eq_true_of_not_eq_false stopped)).1 (Nat.not_le.mpr longName)
  · intro arrives
    rw [forall_prop_of_true (Bool.eq_true_of_not_eq_false stopped),
      and_iff_right (Nat.not_lt.mp longName)]
    rcases Nat.lt_or_ge (chunksOf (named sender.localPeerId.text payload)).length (256 ^ 2)
      with fits | many
    · rw [mapM_pack fits] at arrives ⊢
      rw [and_iff_right (few.mp fits)]
      cases sent : network address with
      | error error =>
        refine iff_of_false (fun delivered => ?_) (fun same => nomatch same)
        have nothing := delivered [] (List.Perm.refl [])
        cases nothing
      | ok done => exact iff_of_true (fun arrivals all => arrives _ arrivals rfl all) rfl
    · obtain ⟨message, refused⟩ := @mapM_pack_of_many sender.credential msgId _ many
      rw [refused]
      refine iff_of_false Bool.false_ne_true fun given => ?_
      exact absurd (few.mpr given.1) (Nat.not_lt.mpr many)

end UdpOverlayTransport

/-- Each transport delivers a payload exactly once or falls back to the relay just
when the lengths that it transmits fit their limits and their fields, and the
socket raises nothing for the address that the transport does not catch. -/
theorem direct_delivery_iff (payload : Bytes) :
    (∀ (sender peer : LanDirectChannel) (network : Network) (targetWorkerId : String),
      peer.credential = sender.credential -> peer.maxFrameBytes = sender.maxFrameBytes ->
      (sender.Delivers peer network targetWorkerId payload ↔
        sender.Sendable network targetWorkerId payload)) ∧
    (∀ (sender peer : TcpOverlayTransport) (network : Network) (peerId : String),
      peer.credential = sender.credential -> peer.maxFrameBytes = sender.maxFrameBytes ->
      payload ≠ TcpOverlayTransport.probeBody ->
      (sender.Delivers peer network peerId payload ↔ sender.Sendable network peerId payload)) ∧
    (∀ (sender peer : UdpOverlayTransport) (network : Network) (peerId : String)
        (msgId : Bytes),
      peer.credential = sender.credential -> msgId.length = 16 ->
      peer.partials.get? msgId = none -> payload ≠ udpProbe ->
      (sender.Delivers peer network peerId msgId payload ↔
        sender.Sendable network peerId payload)) :=
  ⟨fun _ _ _ _ sameCredential sameLimit =>
      LanDirectChannel.delivers_iff sameCredential sameLimit,
    fun _ _ _ _ sameCredential sameLimit notProbe =>
      TcpOverlayTransport.delivers_iff sameCredential sameLimit notProbe,
    fun _ _ _ _ _ holder length new notProbe =>
      UdpOverlayTransport.delivers_iff holder new length notProbe⟩

def sampleNetwork : Network :=
  fun _ => .ok ()

def sampleLan : LanDirectChannel where
  credential := "run"
  maxFrameBytes := 10
  targets := Dict.empty.set "b" ("127.0.0.1", 4000)

def sampleTcp : TcpOverlayTransport where
  localPeerId := samplePeerId
  credential := "run"
  maxFrameBytes := 10
  peers := Dict.empty.set "b" ⟨some "127.0.0.1", some 4000⟩
  closed := false

/-- The peer listens where each transport dials it. -/
theorem direct_delivery_sample :
    sampleLan.Delivers sampleLan sampleNetwork "b" [7] ∧
      sampleTcp.Delivers sampleTcp sampleNetwork "b" [7] ∧
      sampleUdp.Delivers sampleUdp sampleNetwork "b" (List.replicate 16 0) [7] := by
  refine ⟨((direct_delivery_iff [7]).1 sampleLan sampleLan sampleNetwork "b" rfl rfl).mpr ?_,
    ((direct_delivery_iff [7]).2.1 sampleTcp sampleTcp sampleNetwork "b" rfl rfl (by decide)).mpr ?_,
    ((direct_delivery_iff [7]).2.2 sampleUdp sampleUdp sampleNetwork "b" (List.replicate 16 0) rfl
      rfl rfl (by decide)).mpr ?_⟩
  · exact Or.inr fun _ _ => ⟨fun _ raised => (nomatch raised), fun _ => by decide⟩
  · exact ⟨rfl, fun _ _ _ _ => ⟨fun _ raised => (nomatch raised), fun _ => by decide⟩⟩
  · exact ⟨rfl, fun _ _ _ _ => ⟨by decide, by decide, rfl⟩⟩

/-- A payload within the limit, whose frame is beyond it, is sent and dropped. -/
theorem accepted_frame_dropped :
    ([1, 2, 3, 4, 5, 6, 7, 8] : Bytes).length ≤ sampleTcp.maxFrameBytes ∧
      ([1, 2, 3, 4, 5, 6, 7, 8] : Bytes) ≠ TcpOverlayTransport.probeBody ∧
      ¬sampleTcp.Delivers sampleTcp sampleNetwork "b" [1, 2, 3, 4, 5, 6, 7, 8] := by
  refine ⟨by decide, by decide, fun delivered => ?_⟩
  have sendable := (TcpOverlayTransport.delivers_iff rfl rfl (by decide)).mp delivered
  have fits := (sendable.2 ("127.0.0.1", 4000) rfl (by decide) (by decide)).2 rfl
  revert fits
  decide

end Overlay
end ZepGpu
