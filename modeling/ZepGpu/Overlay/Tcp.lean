import ZepGpu.Overlay.Frames

namespace ZepGpu
namespace Overlay

open Foundation

/-!
# The transport over TCP

A connection carries one frame, with the name of the sender in front of the
payload.  The sender compares the length of the payload with the limit, and the
other end compares the length of the whole frame: a payload near the limit is
sent and dropped, and the sender does not learn it.
-/

/-- The settings of the transport and the peers that it can dial. -/
structure TcpOverlayTransport where
  localPeerId : PeerId
  credential : String
  maxFrameBytes : Nat
  peers : Dict String OverlayPeer
  closed : Bool

namespace TcpOverlayTransport

variable {sender peer : TcpOverlayTransport} {network : Network} {peerId : String} {payload : Bytes}

/-- `_PROBE_BODY` -/
def probeBody : Bytes :=
  0 :: utf8 "OVERLAY_PROBE"

/-- `_dial`, up to the bytes that it writes to the connection. -/
def dial (transport : TcpOverlayTransport) (network : Network) (address : String × Int)
    (body : Bytes) : Except SendError Bytes :=
  if 65535 < (utf8 transport.localPeerId.text).length then
    .error (.overlayUnavailable "local_peer_id too long")
  else
    connected (fun text => .overlayUnavailable ("TCP overlay connect failed: " ++ text))
      (packFrame transport.credential (named transport.localPeerId.text body)) (network address)

def send (transport : TcpOverlayTransport) (network : Network) (peerId : String)
    (payload : Bytes) : Except SendError Bytes :=
  checked transport.closed ((transport.peers.get? peerId).bind OverlayPeer.address?)
    transport.maxFrameBytes payload ("overlay peer " ++ peerId ++ " is not connected")
    ("overlay payload " ++ toString payload.length ++ " exceeds max_frame_bytes " ++
      toString transport.maxFrameBytes)
    (fun address => transport.dial network address payload)

/-- The calls of the registered receiver for what arrives on one connection (`_on_client`). -/
def onClient (transport : TcpOverlayTransport) (data : Bytes) : List (String × Bytes) :=
  match readFrame transport.credential transport.maxFrameBytes data with
  | none => []
  | some (payload, _) =>
    match splitName payload with
    | none => []
    | some (name, body) =>
      match ofUtf8? name with
      | none => []
      | some peerName => if body = probeBody then [] else [(peerName, body)]

def frame (credential : String) (localPeerId : PeerId) (payload : Bytes) : Bytes :=
  streamHeader.encode ((named localPeerId.text payload).length,
    mac credential (named localPeerId.text payload)) ++ named localPeerId.text payload

theorem onClient_frame {localPeerId : PeerId} (short : (utf8 localPeerId.text).length ≤ 65535)
    (notProbe : payload ≠ probeBody) (small : (named localPeerId.text payload).length < 256 ^ 4) :
    peer.onClient (frame peer.credential localPeerId payload) =
      if peer.maxFrameBytes < (named localPeerId.text payload).length then []
      else [(localPeerId.text, payload)] := by
  unfold onClient frame
  rw [readFrame_frame small]
  split_ifs with long
  · rfl
  · dsimp only
    rw [splitName_named short]
    dsimp only
    rw [ofUtf8?_utf8]
    exact if_neg notProbe

/-- The send is accepted and the peer gets the payload, or the caller falls back. -/
def Delivers (sender peer : TcpOverlayTransport) (network : Network) (peerId : String)
    (payload : Bytes) : Prop :=
  FallsBackOr (fun data => peer.onClient data = [(sender.localPeerId.text, payload)])
    (sender.send network peerId payload)

/-- The transport is open, and either refuses the payload, or an error of the
connection is one that it catches and the whole frame is within the limit and the
length field. -/
def Sendable (sender : TcpOverlayTransport) (network : Network) (peerId : String)
    (payload : Bytes) : Prop :=
  sender.closed = false ∧
    ∀ address, (sender.peers.get? peerId).bind OverlayPeer.address? = some address ->
      payload.length ≤ sender.maxFrameBytes ->
      (utf8 sender.localPeerId.text).length ≤ 65535 ->
      (∀ error, network address = .error error -> error.isOsError = true) ∧
        (network address = .ok () -> 2 + (utf8 sender.localPeerId.text).length + payload.length ≤
          min sender.maxFrameBytes (256 ^ 4 - 1))

theorem dial_iff (sameCredential : peer.credential = sender.credential)
    (sameLimit : peer.maxFrameBytes = sender.maxFrameBytes) (notProbe : payload ≠ probeBody)
    {address : String × Int} :
    FallsBackOr (fun data => peer.onClient data = [(sender.localPeerId.text, payload)])
        (sender.dial network address payload) ↔
      ((utf8 sender.localPeerId.text).length ≤ 65535 ->
        (∀ error, network address = .error error -> error.isOsError = true) ∧
          (network address = .ok () -> 2 + (utf8 sender.localPeerId.text).length + payload.length ≤
            min sender.maxFrameBytes (256 ^ 4 - 1))) := by
  have whole := length_named sender.localPeerId.text payload
  unfold dial
  split_ifs with long
  · exact iff_of_true rfl (fun short => absurd short (Nat.not_le.mpr long))
  · have short := Nat.not_lt.mp long
    rw [forall_prop_of_true short]
    refine fallsBackOr_connected_iff (fun _ => rfl) (by omega) fun small => ?_
    have arrives := @onClient_frame peer payload _ short notProbe small
    rw [sameCredential] at arrives
    change (peer.onClient (frame sender.credential sender.localPeerId payload) = _) ↔ _
    rw [arrives, sameLimit]
    split_ifs with past
    · exact iff_of_false not_false (by omega)
    · exact iff_of_true rfl (by omega)

theorem delivers_iff (sameCredential : peer.credential = sender.credential)
    (sameLimit : peer.maxFrameBytes = sender.maxFrameBytes) (notProbe : payload ≠ probeBody) :
    sender.Delivers peer network peerId payload ↔ sender.Sendable network peerId payload := by
  unfold Delivers Sendable send
  exact fallsBackOr_checked_iff fun _ _ _ => dial_iff sameCredential sameLimit notProbe

end TcpOverlayTransport
end Overlay
end ZepGpu
