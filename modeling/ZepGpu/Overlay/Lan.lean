import ZepGpu.Overlay.Frames

namespace ZepGpu
namespace Overlay

open Foundation

/-!
# The channel of a local network

A payload is one frame of a new connection.  The other end reads frames until
the connection ends, and hands each payload to its receiver.  Both ends compare
the length of the payload itself with the limit.
-/

structure LanDirectChannel where
  credential : String
  maxFrameBytes : Nat
  /-- `_targets` -/
  targets : Dict String (String × Int)

namespace LanDirectChannel

variable {sender peer : LanDirectChannel} {network : Network} {targetWorkerId : String}
  {encoded : Bytes}

/-- `send`, up to the bytes that it writes to the connection. -/
def send (channel : LanDirectChannel) (network : Network) (targetWorkerId : String)
    (encoded : Bytes) : Except SendError Bytes :=
  if channel.maxFrameBytes < encoded.length then
    .error (.directUnavailable ("LAN payload " ++ toString encoded.length ++
      " exceeds max_frame_bytes " ++ toString channel.maxFrameBytes))
  else
    match channel.targets.get? targetWorkerId with
    | none => .error (.directUnavailable ("no LAN address for worker " ++ targetWorkerId))
    | some target =>
      connected (fun text => .directUnavailable ("LAN direct connect failed: " ++ text))
        (packFrame channel.credential encoded) (network target)

/-- The calls of the registered receiver for what arrives on one connection (`_handle`). -/
def handle (channel : LanDirectChannel) (data : Bytes) : List Bytes :=
  match _read : readFrame channel.credential channel.maxFrameBytes data with
  | none => []
  | some (payload, rest) => payload :: channel.handle rest
termination_by data.length
decreasing_by exact length_lt_of_readFrame _read

theorem handle_of_none {data : Bytes}
    (read : readFrame peer.credential peer.maxFrameBytes data = none) : peer.handle data = [] := by
  rw [handle]
  split
  · rfl
  · next payload rest found =>
      rw [read] at found
      cases found

theorem handle_of_some {data payload rest : Bytes}
    (read : readFrame peer.credential peer.maxFrameBytes data = some (payload, rest)) :
    peer.handle data = payload :: peer.handle rest := by
  rw [handle]
  split
  · next found =>
      rw [read] at found
      cases found
  · next payload rest found =>
      rw [read] at found
      cases found
      rfl

theorem handle_frame (small : encoded.length < 256 ^ 4) (fits : encoded.length ≤ peer.maxFrameBytes) :
    peer.handle (streamHeader.encode (encoded.length, mac peer.credential encoded) ++ encoded) =
      [encoded] := by
  have read : readFrame peer.credential peer.maxFrameBytes
      (streamHeader.encode (encoded.length, mac peer.credential encoded) ++ encoded) =
        some (encoded, []) := by
    rw [readFrame_frame small, if_neg (Nat.not_lt.mpr fits)]
  rw [handle_of_some read, handle_of_none readFrame_nil]

/-- A payload is delivered exactly once, or the transfer falls back. -/
def Delivers (sender peer : LanDirectChannel) (network : Network) (targetWorkerId : String)
    (encoded : Bytes) : Prop :=
  FallsBackOr (fun data => peer.handle data = [encoded])
    (sender.send network targetWorkerId encoded)

/-- The send is refused for its size, or its target is unknown, or an error of the
connection is one that the channel catches and the length fits the header. -/
def Sendable (sender : LanDirectChannel) (network : Network) (targetWorkerId : String)
    (encoded : Bytes) : Prop :=
  sender.maxFrameBytes < encoded.length ∨
    ∀ target, sender.targets.get? targetWorkerId = some target ->
      (∀ error, network target = .error error -> error.isOsError = true) ∧
        (network target = .ok () -> encoded.length < 256 ^ 4)

theorem delivers_iff (sameCredential : peer.credential = sender.credential)
    (sameLimit : peer.maxFrameBytes = sender.maxFrameBytes) :
    sender.Delivers peer network targetWorkerId encoded ↔
      sender.Sendable network targetWorkerId encoded := by
  unfold Delivers Sendable send
  split_ifs with long
  · exact iff_of_true rfl (Or.inl long)
  · rw [or_iff_right long]
    cases sender.targets.get? targetWorkerId with
    | none => exact iff_of_true rfl (fun target found => nomatch found)
    | some target =>
      simp only [Option.some.injEq, forall_eq']
      refine fallsBackOr_connected_iff (fun _ => rfl) id fun small => iff_of_true ?_ small
      rw [← sameCredential]
      exact handle_frame small (sameLimit ▸ Nat.not_lt.mp long)

end LanDirectChannel
end Overlay
end ZepGpu
