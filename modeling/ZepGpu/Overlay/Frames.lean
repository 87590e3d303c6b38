import ZepGpu.Foundation.Sha256
import ZepGpu.Foundation.Text
import ZepGpu.Foundation.Dict

namespace ZepGpu
namespace Overlay

open Foundation List

/-!
# Frames of the direct transports

The transports write a header with the length and the authentication code of
what follows.  Two of them put the name of the sender in front of the payload,
after its length.
-/

/-- The errors of a send that the transports raise themselves. -/
inductive SendError where
  | directUnavailable (message : String)
  | overlayUnavailable (message : String)
  | overlayClosed (message : String)
  | structError (message : String)
  | overflowError (message : String)
  | unicodeError (message : String)
  deriving DecidableEq

/-- The error makes the transfer fall back to the relay. -/
def SendError.isUnavailable : SendError -> Bool
  | .directUnavailable _ => true
  | .overlayUnavailable _ => true
  | _ => false

def mac (credential : String) (payload : Bytes) : Bytes :=
  hmacSha256 (utf8 credential) payload

theorem length_mac (credential : String) (payload : Bytes) : (mac credential payload).length = 32 :=
  length_sha256 _

/-- Either the transfer falls back to the relay, or what was written is received as it should be. -/
def FallsBackOr {α : Type} (received : α -> Prop) : Except SendError α -> Prop
  | .error error => error.isUnavailable = true
  | .ok written => received written

/-- Where a peer listens, as far as this is known. -/
structure OverlayPeer where
  host : Option String
  port : Option Int

def OverlayPeer.address? (peer : OverlayPeer) : Option (String × Int) :=
  match peer.host, peer.port with
  | some host, some port => if host = "" then none else some (host, port)
  | _, _ => none

/-- What the socket raises for an address: a timeout or another `OSError`, or an
exception of another class for a port or a host name that no address can have. -/
inductive DialError where
  | osError (message : String)
  | overflowError (message : String)
  | unicodeError (message : String)

/-- The error is one of `(TimeoutError, OSError, ConnectionError)`. -/
def DialError.isOsError : DialError -> Bool
  | .osError _ => true
  | _ => false

/-- What a send raises when its connection does: the handler of the send makes an
error of its own from the ones that it catches. -/
def DialError.raised (unavailable : String -> SendError) : DialError -> SendError
  | .osError message => unavailable message
  | .overflowError message => .overflowError message
  | .unicodeError message => .unicodeError message

theorem DialError.isUnavailable_raised {unavailable : String -> SendError} (error : DialError)
    (falls : ∀ message, (unavailable message).isUnavailable = true) :
    (error.raised unavailable).isUnavailable = error.isOsError := by
  cases error with
  | osError message => exact falls message
  | overflowError message => rfl
  | unicodeError message => rfl

/-- What using an address does: an exception, or nothing. -/
abbrev Network := String × Int -> Except DialError Unit

/-- `reader.readexactly(count)` on what will have arrived when the stream ends. -/
def readExactly (count : Nat) (data : Bytes) : Option (Bytes × Bytes) :=
  if count ≤ data.length then some (data.take count, data.drop count) else none

theorem readExactly_append {front back : Bytes} {count : Nat} (length : front.length = count) :
    readExactly count (front ++ back) = some (front, back) := by
  unfold readExactly
  rw [length_append, if_pos (length ▸ Nat.le_add_right _ _), take_left' length, drop_left' length]

/-- `struct.Struct("!I32s")` -/
def streamHeader : FixedCodec (Nat × Bytes) :=
  .pair (.unsigned 4) (.raw 32)

/-- `_HEADER.pack(len(payload), self._mac(payload)) + payload` -/
def packFrame (credential : String) (payload : Bytes) : Except SendError Bytes :=
  if payload.length < 256 ^ 4 then
    .ok (streamHeader.encode (payload.length, mac credential payload) ++ payload)
  else .error (.structError "'I' format requires 0 <= number <= 4294967295")

/-- The next frame of a stream with the rest of it, or nothing when the stream has
ended or the server ends the connection. -/
def readFrame (credential : String) (maxFrameBytes : Nat) (data : Bytes) : Option (Bytes × Bytes) :=
  match readExactly streamHeader.width data with
  | none => none
  | some (header, data) =>
    let fields := streamHeader.decode header
    if maxFrameBytes < fields.1 then none
    else
      match readExactly fields.1 data with
      | none => none
      | some (payload, rest) =>
        if fields.2 ≠ mac credential payload then none else some (payload, rest)

/-- What a send gets to write when it has tried to connect. -/
def connected (unavailable : String -> SendError) (written : Except SendError Bytes) :
    Except DialError Unit -> Except SendError Bytes
  | .error error => .error (error.raised unavailable)
  | .ok () => written

/-- A frame that is written to a new connection arrives, or the transfer falls back,
exactly when an error of the connection is one that the sender catches and the frame
fits. -/
theorem fallsBackOr_connected_iff {credential : String} {framed : Bytes}
    {opened : Except DialError Unit} {unavailable : String -> SendError} {received : Bytes -> Prop}
    {fits : Prop} (falls : ∀ message, (unavailable message).isUnavailable = true)
    (small : fits -> framed.length < 256 ^ 4)
    (arrives : framed.length < 256 ^ 4 -> (received
      (streamHeader.encode (framed.length, mac credential framed) ++ framed) ↔ fits)) :
    FallsBackOr received (connected unavailable (packFrame credential framed) opened) ↔
      (∀ error, opened = .error error -> error.isOsError = true) ∧ (opened = .ok () -> fits) := by
  cases opened with
  | error error =>
    have caught : FallsBackOr received (.error (error.raised unavailable)) ↔
        error.isOsError = true := by
      rw [← error.isUnavailable_raised falls]
      rfl
    refine caught.trans ⟨fun isOsError => ⟨?_, fun same => nomatch same⟩, fun given => given.1 _ rfl⟩
    intro other same
    cases same
    exact isOsError
  | ok done =>
    have written : FallsBackOr received (packFrame credential framed) ↔ fits := by
      rw [packFrame]
      split_ifs with short
      · exact arrives short
      · exact iff_of_false Bool.false_ne_true fun fit => short (small fit)
    exact written.trans ⟨fun fit => ⟨fun _ raised => (nomatch raised), fun _ => fit⟩,
      fun given => given.2 rfl⟩

/-- The checks of a transport before it uses the address of a peer. -/
def checked {α : Type} (closed : Bool) (address : Option (String × Int)) (limit : Nat)
    (payload : Bytes) (unknown long : String) (next : String × Int -> Except SendError α) :
    Except SendError α :=
  if closed then .error (.overlayClosed "overlay transport is closed")
  else
    match address with
    | none => .error (.overlayUnavailable unknown)
    | some target => if limit < payload.length then .error (.overlayUnavailable long) else next target

theorem fallsBackOr_checked_iff {α : Type} {closed : Bool} {address : Option (String × Int)}
    {limit : Nat} {payload : Bytes} {unknown long : String}
    {next : String × Int -> Except SendError α} {received : α -> Prop} {fits : String × Int -> Prop}
    (each : ∀ target, address = some target -> payload.length ≤ limit ->
      (FallsBackOr received (next target) ↔ fits target)) :
    FallsBackOr received (checked closed address limit payload unknown long next) ↔
      closed = false ∧ ∀ target, address = some target -> payload.length ≤ limit -> fits target := by
  unfold checked
  cases closed with
  | true => exact iff_of_false Bool.false_ne_true (fun given => nomatch given.1)
  | false =>
    rw [if_neg Bool.false_ne_true, and_iff_right rfl]
    cases address with
    | none => exact iff_of_true rfl (fun target found => nomatch found)
    | some target =>
      simp only [Option.some.injEq, forall_eq']
      split_ifs with past
      · exact iff_of_true rfl fun short => absurd short (Nat.not_le.mpr past)
      · rw [each target rfl (Nat.not_lt.mp past), forall_prop_of_true (Nat.not_lt.mp past)]

theorem readFrame_frame {credential : String} {maxFrameBytes : Nat} {payload : Bytes}
    (small : payload.length < 256 ^ 4) :
    readFrame credential maxFrameBytes
        (streamHeader.encode (payload.length, mac credential payload) ++ payload) =
      if maxFrameBytes < payload.length then none else some (payload, []) := by
  have fits : streamHeader.fits (payload.length, mac credential payload) :=
    ⟨small, length_mac credential payload⟩
  unfold readFrame
  rw [readExactly_append (streamHeader.length_encode _ fits)]
  dsimp only
  rw [streamHeader.decode_encode _ fits]
  split_ifs with long
  · rfl
  · have whole := @readExactly_append payload [] payload.length rfl
    rw [append_nil] at whole
    rw [whole]
    exact if_neg (not_not.mpr rfl)

theorem readFrame_nil {credential : String} {maxFrameBytes : Nat} :
    readFrame credential maxFrameBytes [] = none :=
  rfl

theorem length_lt_of_readFrame {credential : String} {maxFrameBytes : Nat} {data payload rest : Bytes}
    (read : readFrame credential maxFrameBytes data = some (payload, rest)) :
    rest.length < data.length := by
  have shorter : ∀ {count : Nat} {data front back : Bytes},
      readExactly count data = some (front, back) -> back.length + count = data.length := by
    intro count data front back read
    unfold readExactly at read
    split_ifs at read with enough
    cases read
    rw [length_drop]
    omega
  unfold readFrame at read
  cases header : readExactly streamHeader.width data with
  | none =>
    rw [header] at read
    cases read
  | some first =>
    rw [header] at read
    dsimp only at read
    split_ifs at read
    cases body : readExactly (streamHeader.decode first.1).1 first.2 with
    | none =>
      rw [body] at read
      cases read
    | some second =>
      rw [body] at read
      dsimp only at read
      split_ifs at read
      cases read
      have front := shorter header
      have back := shorter body
      have width : streamHeader.width = 36 := rfl
      omega

/-- `len(name).to_bytes(2, "big") + name + body` -/
def named (peerId : String) (body : Bytes) : Bytes :=
  bigEndian 2 (utf8 peerId).length ++ utf8 peerId ++ body

/-- The name and the rest of a frame, or nothing when the frame is malformed. -/
def splitName (payload : Bytes) : Option (Bytes × Bytes) :=
  if payload.length < 2 then none
  else
    let nameLen := ofBigEndian (payload.take 2)
    if nameLen < 1 ∨ payload.length < 2 + nameLen then none
    else some ((payload.drop 2).take nameLen, payload.drop (2 + nameLen))

/-- An identifier that is not blank. -/
structure PeerId where
  text : String
  nonblank : strip text.toList ≠ []

theorem PeerId.utf8_ne_nil (peerId : PeerId) : utf8 peerId.text ≠ [] := by
  intro empty
  have blank : peerId.text = "" := utf8_eq_nil_iff.mp empty
  refine peerId.nonblank ?_
  rw [blank]
  rfl

theorem length_named (peerId : String) (body : Bytes) :
    (named peerId body).length = 2 + (utf8 peerId).length + body.length := by
  unfold named
  rw [length_append, length_append, length_bigEndian]

theorem splitName_named {peerId : PeerId} {body : Bytes} (short : (utf8 peerId.text).length ≤ 65535) :
    splitName (named peerId.text body) = some (utf8 peerId.text, body) := by
  have positive : 1 ≤ (utf8 peerId.text).length := length_pos_iff.mpr peerId.utf8_ne_nil
  have two : (bigEndian 2 (utf8 peerId.text).length).length = 2 := length_bigEndian _ _
  have prefixed : named peerId.text body =
      bigEndian 2 (utf8 peerId.text).length ++ (utf8 peerId.text ++ body) := append_assoc ..
  have read : ofBigEndian ((named peerId.text body).take 2) = (utf8 peerId.text).length := by
    rw [prefixed, take_left' two, ofBigEndian_bigEndian]
    exact Nat.mod_eq_of_lt (by omega)
  have length := length_named peerId.text body
  unfold splitName
  rw [read, if_neg (by omega)]
  dsimp only
  rw [if_neg (by omega)]
  have name : ((named peerId.text body).drop 2).take (utf8 peerId.text).length = utf8 peerId.text := by
    rw [prefixed, drop_left' two, take_left' rfl]
  have rest : (named peerId.text body).drop (2 + (utf8 peerId.text).length) = body := by
    rw [← drop_drop, prefixed, drop_left' two, drop_left' rfl]
  rw [name, rest]

end Overlay
end ZepGpu
