import ZepGpu.Training.Signing

namespace ZepGpu
namespace Training

open Foundation
open Reference (platform)

/-!
# What a refused update leaves behind

The replay guard of a coordinator is kept in memory and in a file.  A verified
update enters the guard before its codec, its payload and its shapes are looked
at, and before the file is written.  When any of these fails the update is
refused, but the guard remembers it, and a corrected update of the same worker
for the same round conflicts with it.

The file is an argument: `none` when it is written, and the message of the
exception otherwise.
-/

section Integrity

variable (P : Platform)

/-- `FileReplayGuard.check` -/
def ReplayGuard.checkOnDisk (guard : ReplayGuard) (update : NeutralOuterUpdate) (macHex : String)
    (disk : Option String) : Outcome ReplayGuard TrainingError Unit :=
  match guard.check update macHex with
  | .error error => ⟨.error error, guard⟩
  | .ok later =>
    match disk with
    | some message => ⟨.error (.osError message), later⟩
    | none => ⟨.ok (), later⟩

/-- `accept_live_outer_envelope` up to the replay guard -/
def verifyLiveOuterEnvelope (envelope : BinaryEnvelope) (roomId runId roomMacKey : String)
    (timeNs : Int) : Except TrainingError NeutralOuterUpdate := do
  let update ← envelopeToNeutral P envelope roomId runId timeNs
  raiseIf (update.parameterNames.length ≠ update.shapes.length)
    (.updateIntegrityError "parameter_names/shapes mismatch")
  verifyPayloadChecksum P update envelope.payload
  verifyUpdateMac P update roomMacKey (macOf envelope.extensions)
  .ok update

end Integrity

namespace Coordinator

variable {N : Numpy} (P : Platform) (c : Coordinator N)

def checkIntegrityOnDisk (envelope : BinaryEnvelope) (timeNs : Int) (disk : Option String) :
    Outcome ReplayGuard TrainingError Unit :=
  match c.macKeyFor envelope with
  | none => ⟨.ok (), c.replayGuard⟩
  | some key =>
    match verifyLiveOuterEnvelope P envelope c.roomId c.runId key timeNs with
    | .error error => ⟨.error error, c.replayGuard⟩
    | .ok update => c.replayGuard.checkOnDisk update (macOf envelope.extensions) disk

/-- `admitUpdate` with a guard on disk -/
def admitOnDisk (envelope : BinaryEnvelope) (timeNs : Int) (disk : Option String) :
    Outcome (Coordinator N) TrainingError UpdateReceipt :=
  if envelope.payloadType ≠ "diloco_outer_delta" then
    ⟨.error (.diLoCoError "unexpected binary payload type"), c⟩
  else
    let checked := c.checkIntegrityOnDisk P envelope timeNs disk
    let c := { c with replayGuard := checked.state }
    match checked.result with
    | .error (.updateIntegrityError message) =>
      c.reject .stale envelope.workerId envelope.round ("integrity: " ++ message)
    | .error error => ⟨.error error, c⟩
    | .ok () =>
      match c.decodeUpdate envelope with
      | .error error => ⟨.error error, c⟩
      | .ok decoded =>
        ⟨.ok ⟨.accepted, envelope.workerId, envelope.round, "outer update accepted"⟩,
          { c with activeRound := c.activeRound.map (Round.accept · envelope decoded) }⟩

/-- `submit_encoded` with a guard on disk -/
def submitOnDisk (encoded : Bytes) (timeNs : Int) (disk : Option String) :
    Outcome (Coordinator N) TrainingError UpdateReceipt :=
  match BinaryEnvelope.decode P encoded { roomId := c.roomId, runId := c.runId } with
  | .error error => ⟨.error error, c⟩
  | .ok envelope =>
    match c.screen envelope with
    | some (disposition, reason) => c.reject disposition envelope.workerId envelope.round reason
    | none => c.admitOnDisk P envelope timeNs disk

variable {P c}

/-- What an update leaves in the round when it is refused on the way. -/
structure Trace (N : Numpy) where
  updates : Option (Dict String (Tensors N))
  transferIds : Option (List String)
  uncompressedBytes : Option Int
  compressedBytes : Option Nat
  replayGuard : ReplayGuard

def trace (c : Coordinator N) : Trace N where
  updates := c.activeRound.map Round.updates
  transferIds := c.activeRound.map Round.transferIds
  uncompressedBytes := c.activeRound.map Round.uncompressedBytes
  compressedBytes := c.activeRound.map Round.compressedBytes
  replayGuard := c.replayGuard

/-- The call raises, or returns another disposition than `ACCEPTED`. -/
def Refused (result : Except TrainingError UpdateReceipt) : Prop :=
  ∀ receipt, result = .ok receipt -> receipt.disposition ≠ .accepted

/-- A refused update leaves no trace, so that a later submission is treated as
if it had not been sent. -/
def Traceless (P : Platform) (c : Coordinator N) (encoded : Bytes) (timeNs : Int)
    (disk : Option String) : Prop :=
  Refused (c.submitOnDisk P encoded timeNs disk).result ->
    (c.submitOnDisk P encoded timeNs disk).state.trace = c.trace ∧
    ∀ later laterNs laterDisk,
      ((c.submitOnDisk P encoded timeNs disk).state.submitOnDisk P later laterNs laterDisk).result =
        (c.submitOnDisk P later laterNs laterDisk).result ∧
      ((c.submitOnDisk P encoded timeNs disk).state.submitOnDisk P later laterNs laterDisk).state.trace =
        (c.submitOnDisk P later laterNs laterDisk).state.trace

/-- The update passes every check up to the replay guard, is the first of its
worker for the round, and fails afterwards. -/
structure Spoils (P : Platform) (c : Coordinator N) (encoded : Bytes) (timeNs : Int)
    (disk : Option String) (envelope : BinaryEnvelope) (active : Round N) (key : String)
    (update : NeutralOuterUpdate) : Prop where
  read : BinaryEnvelope.decode P encoded c.scope = .ok envelope
  screened : Screened c envelope active
  payloadType : envelope.payloadType = "diloco_outer_delta"
  signed : c.macKeyFor envelope = some key
  verified : verifyLiveOuterEnvelope P envelope c.roomId c.runId key timeNs = .ok update
  first : c.replayGuard.seen.get? (update.runId, update.round, update.workerId) = none
  fails : (∃ message, disk = some message) ∨ ∃ error, c.decodeUpdate envelope = .error error

def remembering (guard : ReplayGuard) (update : NeutralOuterUpdate) (macHex : String) : ReplayGuard :=
  ⟨guard.seen.set (update.runId, update.round, update.workerId) macHex⟩

variable {update : NeutralOuterUpdate}

theorem checkOnDisk_first {guard : ReplayGuard}
    (first : guard.seen.get? (update.runId, update.round, update.workerId) = none) (macHex : String)
    (disk : Option String) :
    guard.checkOnDisk update macHex disk =
      ⟨match disk with
        | some message => .error (.osError message)
        | none => .ok (), remembering guard update macHex⟩ := by
  rw [ReplayGuard.checkOnDisk, ReplayGuard.check, first]
  cases disk <;> rfl

theorem checkOnDisk_known {guard : ReplayGuard} {previous : String}
    (known : guard.seen.get? (update.runId, update.round, update.workerId) = some previous)
    (macHex : String) (disk : Option String) :
    (guard.checkOnDisk update macHex disk).state = guard := by
  rw [ReplayGuard.checkOnDisk, ReplayGuard.check, known]
  dsimp only
  cases compareDigest previous macHex with
  | error error => rfl
  | ok equal =>
    cases equal with
    | false => rfl
    | true => cases disk <;> rfl

theorem checkIntegrityOnDisk_cases (P : Platform) (c : Coordinator N) (envelope : BinaryEnvelope)
    (timeNs : Int) (disk : Option String) :
    (c.checkIntegrityOnDisk P envelope timeNs disk).state = c.replayGuard ∨
      ∃ key update, c.macKeyFor envelope = some key ∧
        verifyLiveOuterEnvelope P envelope c.roomId c.runId key timeNs = .ok update ∧
        c.replayGuard.seen.get? (update.runId, update.round, update.workerId) = none := by
  rw [checkIntegrityOnDisk]
  cases c.macKeyFor envelope with
  | none => exact Or.inl rfl
  | some key =>
    dsimp only
    cases verified : verifyLiveOuterEnvelope P envelope c.roomId c.runId key timeNs with
    | error error => exact Or.inl rfl
    | ok update =>
      cases known : c.replayGuard.seen.get? (update.runId, update.round, update.workerId) with
      | some previous => exact Or.inl (checkOnDisk_known known _ disk)
      | none => exact Or.inr ⟨key, update, rfl, verified, known⟩

theorem trace_noting (receipt : UpdateReceipt) : (c.noting receipt).trace = c.trace := by
  rw [noting, trace, trace]
  cases c.activeRound <;> rfl

theorem screen_noting (receipt : UpdateReceipt) (envelope : BinaryEnvelope) :
    (c.noting receipt).screen envelope = c.screen envelope := by
  rw [noting, screen, screen]
  cases c.activeRound <;> rfl

theorem submitOnDisk_noting (receipt : UpdateReceipt) (later : Bytes) (laterNs : Int)
    (laterDisk : Option String) :
    ((c.noting receipt).submitOnDisk P later laterNs laterDisk).result =
        (c.submitOnDisk P later laterNs laterDisk).result ∧
      ((c.noting receipt).submitOnDisk P later laterNs laterDisk).state.trace =
        (c.submitOnDisk P later laterNs laterDisk).state.trace := by
  have scope : ({ roomId := (c.noting receipt).roomId, runId := (c.noting receipt).runId } : Scope) =
      { roomId := c.roomId, runId := c.runId } := rfl
  rw [submitOnDisk, submitOnDisk, scope]
  cases BinaryEnvelope.decode P later { roomId := c.roomId, runId := c.runId } with
  | error error => exact ⟨rfl, trace_noting receipt⟩
  | ok envelope =>
    dsimp only
    rw [screen_noting]
    cases c.screen envelope with
    | some rejection =>
      refine ⟨rfl, ?_⟩
      exact (trace_noting _).trans ((trace_noting receipt).trans (trace_noting _).symm)
    | none =>
      dsimp only
      have checked : (c.noting receipt).checkIntegrityOnDisk P envelope laterNs laterDisk =
          c.checkIntegrityOnDisk P envelope laterNs laterDisk := rfl
      rw [admitOnDisk, admitOnDisk, checked]
      by_cases payloadType : envelope.payloadType ≠ "diloco_outer_delta"
      · rw [if_pos payloadType, if_pos payloadType]
        exact ⟨rfl, trace_noting receipt⟩
      · rw [if_neg payloadType, if_neg payloadType]
        obtain ⟨result, guard⟩ := c.checkIntegrityOnDisk P envelope laterNs laterDisk
        have noted : ∀ other : UpdateReceipt,
            (({ c with replayGuard := guard } : Coordinator N).noting other).trace =
              ({ c with replayGuard := guard } : Coordinator N).trace :=
          fun other => trace_noting other
        have same : ({ c.noting receipt with replayGuard := guard } : Coordinator N) =
            ({ c with replayGuard := guard } : Coordinator N).noting receipt := rfl
        dsimp only
        rw [same]
        cases result with
        | error error =>
          cases error with
          | updateIntegrityError message =>
            refine ⟨rfl, ?_⟩
            exact (trace_noting _).trans ((noted receipt).trans (noted _).symm)
          | _ => exact ⟨rfl, noted receipt⟩
        | ok done =>
          have decoded : (({ c with replayGuard := guard } : Coordinator N).noting
              receipt).decodeUpdate envelope =
                ({ c with replayGuard := guard } : Coordinator N).decodeUpdate envelope := rfl
          dsimp only
          rw [decoded]
          cases ({ c with replayGuard := guard } : Coordinator N).decodeUpdate envelope with
          | error error => exact ⟨rfl, noted receipt⟩
          | ok tensors =>
            refine ⟨rfl, ?_⟩
            dsimp only [noting, trace]
            cases c.activeRound <;> rfl

theorem Spoils.submitOnDisk {encoded : Bytes} {timeNs : Int} {disk : Option String}
    {envelope : BinaryEnvelope} {active : Round N} {key : String}
    (spoils : Spoils P c encoded timeNs disk envelope active key update) :
    ∃ error, c.submitOnDisk P encoded timeNs disk = ⟨.error error, { c with
      replayGuard := remembering c.replayGuard update (macOf envelope.extensions) }⟩ := by
  have read := spoils.read
  rw [scope] at read
  rw [Coordinator.submitOnDisk, read]
  dsimp only
  rw [screen_eq_none_iff.mpr ⟨active, spoils.screened⟩]
  dsimp only
  rw [admitOnDisk, if_neg (not_not.mpr spoils.payloadType), checkIntegrityOnDisk, spoils.signed]
  dsimp only
  rw [spoils.verified]
  dsimp only
  rw [checkOnDisk_first spoils.first]
  cases disk with
  | some message => exact ⟨_, rfl⟩
  | none =>
    obtain ⟨error, failed⟩ := spoils.fails.resolve_left (by simp)
    have later : ({ c with
        replayGuard := remembering c.replayGuard update (macOf envelope.extensions) } :
          Coordinator N).decodeUpdate envelope = .error error := failed
    dsimp only
    rw [later]
    exact ⟨error, rfl⟩

theorem not_refused {worker reason : String} {round : Int} :
    ¬ Refused (.ok ⟨.accepted, worker, round, reason⟩) :=
  fun refused => refused _ rfl rfl

theorem submitOnDisk_cases (P : Platform) (c : Coordinator N) (encoded : Bytes) (timeNs : Int)
    (disk : Option String) :
    (∃ error, c.submitOnDisk P encoded timeNs disk = ⟨.error error, c⟩) ∨
    (∃ receipt, c.submitOnDisk P encoded timeNs disk = ⟨.ok receipt, c.noting receipt⟩) ∨
    (∃ envelope active key update, Spoils P c encoded timeNs disk envelope active key update) ∨
    ¬ Refused (c.submitOnDisk P encoded timeNs disk).result := by
  cases read : BinaryEnvelope.decode P encoded { roomId := c.roomId, runId := c.runId } with
  | error error => exact Or.inl ⟨error, by rw [submitOnDisk, read]⟩
  | ok envelope =>
    rw [submitOnDisk, read]
    dsimp only
    cases screened : c.screen envelope with
    | some rejection => exact Or.inr (Or.inl ⟨_, rfl⟩)
    | none =>
      obtain ⟨active, passed⟩ := screen_eq_none_iff.mp screened
      dsimp only
      rw [admitOnDisk]
      by_cases payloadType : envelope.payloadType ≠ "diloco_outer_delta"
      · rw [if_pos payloadType]
        exact Or.inl ⟨_, rfl⟩
      · rw [if_neg payloadType]
        rcases checkIntegrityOnDisk_cases P c envelope timeNs disk with kept |
          ⟨key, update, signed, verified, first⟩
        · generalize c.checkIntegrityOnDisk P envelope timeNs disk = checked at kept ⊢
          obtain ⟨result, guard⟩ := checked
          obtain rfl : guard = c.replayGuard := kept
          cases result with
          | error error =>
            cases error with
            | updateIntegrityError message => exact Or.inr (Or.inl ⟨_, rfl⟩)
            | _ => exact Or.inl ⟨_, rfl⟩
          | ok done =>
            dsimp only
            cases c.decodeUpdate envelope with
            | error error => exact Or.inl ⟨error, rfl⟩
            | ok decoded => exact Or.inr (Or.inr (Or.inr not_refused))
        · by_cases fails : (∃ message, disk = some message) ∨
              ∃ error, c.decodeUpdate envelope = .error error
          · exact Or.inr (Or.inr (Or.inl ⟨envelope, active, key, update, read, passed,
              not_not.mp payloadType, signed, verified, first, fails⟩))
          · refine Or.inr (Or.inr (Or.inr ?_))
            obtain ⟨written, fits⟩ := not_or.mp fails
            obtain rfl : disk = none := by
              cases disk with
              | none => rfl
              | some message => exact absurd ⟨message, rfl⟩ written
            rw [checkIntegrityOnDisk, signed]
            dsimp only
            rw [verified]
            dsimp only
            rw [checkOnDisk_first first]
            dsimp only
            have same : ({ c with
                replayGuard := remembering c.replayGuard update (macOf envelope.extensions) } :
                  Coordinator N).decodeUpdate envelope = c.decodeUpdate envelope := rfl
            rw [same]
            cases decoded : c.decodeUpdate envelope with
            | error error => exact absurd ⟨error, decoded⟩ fits
            | ok tensors => exact not_refused

theorem Spoils.not_traceless {envelope : BinaryEnvelope} {active : Round N} {key : String}
    (spoils : Spoils P c encoded timeNs disk envelope active key update) :
    ¬ Traceless P c encoded timeNs disk := by
  obtain ⟨error, same⟩ := spoils.submitOnDisk
  rw [Traceless, same]
  intro traceless
  obtain ⟨kept, _⟩ := traceless (fun receipt impossible => by cases impossible)
  have guards : (remembering c.replayGuard update (macOf envelope.extensions)).seen.get?
      (update.runId, update.round, update.workerId) =
        c.replayGuard.seen.get? (update.runId, update.round, update.workerId) :=
    congrArg (fun trace : Trace N => trace.replayGuard.seen.get?
      (update.runId, update.round, update.workerId)) kept
  rw [remembering, Dict.get?_set_self, spoils.first] at guards
  cases guards

/-- A submission leaves a trace when it is refused, exactly when it is a signed
update that passes all checks up to the replay guard, is the first of its
worker for the round, and then meets an unwritable file, another codec, or a
payload that does not decode to the shapes of the global state. -/
theorem traceless_iff (P : Platform) (c : Coordinator N) (encoded : Bytes) (timeNs : Int)
    (disk : Option String) :
    Traceless P c encoded timeNs disk ↔
      ¬ ∃ envelope active key update,
        Spoils P c encoded timeNs disk envelope active key update := by
  constructor
  · rintro traceless ⟨envelope, active, key, update, spoils⟩
    exact spoils.not_traceless traceless
  · intro clean refused
    rcases submitOnDisk_cases P c encoded timeNs disk with ⟨error, same⟩ | ⟨receipt, same⟩ | spoils |
      accepted
    · rw [same]
      exact ⟨rfl, fun _ _ _ => ⟨rfl, rfl⟩⟩
    · rw [same]
      exact ⟨trace_noting receipt, submitOnDisk_noting receipt⟩
    · exact absurd spoils clean
    · exact absurd refused accepted

def brokenRecord : NeutralOuterUpdate where
  modelRevision := "live-outer"
  parameterNames := ["payload"]
  shapes := [[1]]
  dtype := "uint8"
  round := 1
  workerId := platform.strOfUuid Reference.firstWorker
  runId := platform.strOfUuid Reference.runId
  roomId := platform.strOfUuid Reference.roomId
  payloadSha256 := payloadDigest platform [0]
  createdAtNs := 1700000000000000001

def brokenExtensions : Bytes :=
  liveOuterExtensions 4
    (platform.hmacSha256Hex (utf8 "room-key") (canonicalUpdateBytes brokenRecord))

def brokenUpdate : BinaryEnvelope :=
  Reference.update Reference.firstWorker Reference.firstTransfer 1 [0] brokenExtensions

def brokenBytes : Bytes :=
  Reference.updateBytes Reference.firstWorker Reference.firstTransfer 1 [0] brokenExtensions

theorem broken_digits : ∀ c,
    c ∈ (platform.hmacSha256Hex (utf8 "room-key")
      (canonicalUpdateBytes brokenRecord)).toList -> c ∈ "0123456789abcdef".toList :=
  platform.hmacSha256Hex_digits _ _

theorem length_brokenExtensions : brokenExtensions.length = 70 := by
  have text := congrArg List.length (@asciiReplace_liveOuterExtensions 4 _ broken_digits)
  have size : (toString 4).toList.length = 1 := by decide
  have mark : macMark.length = 5 := by decide
  rw [asciiReplace, List.length_map, List.length_append, List.length_append, size, mark,
    String.length_toList, platform.hmacSha256Hex_length] at text
  exact text

theorem broken_verified :
    verifyLiveOuterEnvelope platform brokenUpdate Reference.keyed.roomId
      Reference.keyed.runId "room-key" 1700000000000000001 = .ok brokenRecord := by
  have made : envelopeToNeutral platform brokenUpdate Reference.keyed.roomId
      Reference.keyed.runId 1700000000000000001 = .ok brokenRecord := rfl
  have mac : verifyUpdateMac platform brokenRecord "room-key"
      (macOf brokenUpdate.extensions) = .ok () :=
    verifyUpdateMac_eq_ok.mpr ⟨by decide, macOf_liveOuterExtensions broken_digits⟩
  have digest : verifyPayloadChecksum platform brokenRecord brokenUpdate.payload = .ok () :=
    raiseIf_eq_ok.mpr (not_not.mpr rfl)
  rw [verifyLiveOuterEnvelope, made]
  refine bind_eq_ok.mpr ⟨_, rfl, bind_eq_ok.mpr ⟨(), rfl, bind_eq_ok.mpr ⟨(), digest, ?_⟩⟩⟩
  exact bind_eq_ok.mpr ⟨(), mac, rfl⟩

/-- The update is refused, and the guard remembers it. -/
theorem broken_update_remembered :
    ¬ Traceless platform Reference.keyed brokenBytes 1700000000000000001 none := by
  have read : BinaryEnvelope.decode platform brokenBytes Reference.keyed.scope =
      .ok brokenUpdate :=
    Reference.reads_updateBytes Reference.firstWorker Reference.firstTransfer (by decide) (by decide)
      (by decide) (by rw [length_brokenExtensions]; decide)
  have screened : ∃ active, Screened Reference.keyed brokenUpdate active :=
    screen_eq_none_iff.mp (by decide +kernel)
  obtain ⟨active, screened⟩ := screened
  have marked : occursIn (utf8 "|mac=") brokenUpdate.extensions = true := by
    rw [← splitOnce?_macMark, brokenUpdate, Reference.update, brokenExtensions,
      splitOnce?_liveOuterExtensions broken_digits, Option.isSome_some]
  have signed : Reference.keyed.macKeyFor brokenUpdate = some "room-key" := by
    rw [macKeyFor_of_key rfl (by decide), if_pos marked]
  have broken : ∃ error, Reference.keyed.decodeUpdate brokenUpdate = .error error := ⟨_, rfl⟩
  have spoils : Spoils platform Reference.keyed brokenBytes 1700000000000000001 none
      brokenUpdate active "room-key" brokenRecord :=
    ⟨read, screened, rfl, signed, broken_verified, rfl, Or.inr broken⟩
  exact spoils.not_traceless

end Coordinator

end Training
end ZepGpu
