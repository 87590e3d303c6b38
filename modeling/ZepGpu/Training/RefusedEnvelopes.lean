import ZepGpu.Foundation.FailureAtomicity
import ZepGpu.Training.SyncAgreement

namespace ZepGpu
namespace Training

open Foundation Dict
open Reference

/-!
# Envelopes from the wrong worker

The inbox records the transfer of an envelope before the orchestrator looks at
its sender.  An envelope from a third worker is refused, but its transfer
identifier is taken, and the peer's own envelope of that transfer conflicts
with it.  So does the peer's envelope after one that names this worker as its
sender, which is not even refused.
-/

namespace BinaryInbox

variable (P : Platform) (inbox : BinaryInbox)

def scope (expectedRound : Option Int) : Scope where
  roomId := some inbox.roomId
  runId := some inbox.runId
  workerId := inbox.workerId
  round := expectedRound

def remembering (envelope : BinaryEnvelope) (encoded : Bytes) : BinaryInbox :=
  { inbox with fingerprints := inbox.fingerprints.set envelope.transferId (P.sha256 encoded) }

/-- The bytes are an envelope of the expected scope that the inbox has not seen. -/
structure Arrives (encoded : Bytes) (expectedRound : Option Int) (envelope : BinaryEnvelope) : Prop where
  decoded : BinaryEnvelope.decode P encoded (inbox.scope expectedRound) = .ok envelope
  unseen : inbox.fingerprints.get? envelope.transferId = none

variable {P inbox}

theorem Arrives.receive {encoded : Bytes} {expectedRound : Option Int} {envelope : BinaryEnvelope}
    (arrives : Arrives P inbox encoded expectedRound envelope) :
    inbox.receive P encoded expectedRound =
      ⟨.ok (some envelope), inbox.remembering P envelope encoded⟩ := by
  have decoded := arrives.decoded
  rw [scope] at decoded
  rw [BinaryInbox.receive, decoded]
  dsimp only
  rw [arrives.unseen]
  rfl

theorem receive_decoded {encoded : Bytes} {expectedRound : Option Int} {envelope : BinaryEnvelope}
    (decoded : BinaryEnvelope.decode P encoded (inbox.scope expectedRound) = .ok envelope) :
    (inbox.receive P encoded expectedRound).result =
        .error (.duplicateTransferError "conflicting duplicate transfer") ↔
      ∃ previous, inbox.fingerprints.get? envelope.transferId = some previous ∧
        previous ≠ P.sha256 encoded := by
  rw [scope] at decoded
  rw [BinaryInbox.receive, decoded]
  dsimp only
  cases inbox.fingerprints.get? envelope.transferId with
  | none => simp
  | some previous =>
    by_cases same : previous = P.sha256 encoded
    · simp [same]
    · simp [same]

theorem receive_cases (P : Platform) (inbox : BinaryInbox) (encoded : Bytes)
    (expectedRound : Option Int) :
    (∃ error, inbox.receive P encoded expectedRound = ⟨.error error, inbox⟩) ∨
      inbox.receive P encoded expectedRound = ⟨.ok none, inbox⟩ ∨
      ∃ envelope, Arrives P inbox encoded expectedRound envelope := by
  cases decoded : BinaryEnvelope.decode P encoded (inbox.scope expectedRound) with
  | error error =>
    left
    rw [scope] at decoded
    rw [BinaryInbox.receive, decoded]
    exact ⟨error, rfl⟩
  | ok envelope =>
    cases seen : inbox.fingerprints.get? envelope.transferId with
    | none => exact Or.inr (Or.inr ⟨envelope, decoded, seen⟩)
    | some previous =>
      rw [scope] at decoded
      rw [BinaryInbox.receive, decoded]
      dsimp only
      rw [seen]
      dsimp only
      by_cases same : previous = P.sha256 encoded
      · rw [if_neg (not_not.mpr same)]
        exact Or.inr (Or.inl rfl)
      · rw [if_pos same]
        exact Or.inl ⟨_, rfl⟩

end BinaryInbox

namespace SyncState

variable {N : Numpy} (P : Platform) (shared : SyncRound N) (side : Side) (mailbox : Mailbox)

/-- The envelope is refused as a conflicting duplicate. -/
def Conflicts (encoded : Bytes) (expectedRound : Option Int) : Prop :=
  (receiveEncoded P shared side mailbox encoded expectedRound).result =
    .error (.duplicateTransferError "conflicting duplicate transfer")

/-- The bytes are an envelope of the peer. -/
def IsFromPeer (encoded : Bytes) (expectedRound : Option Int) (envelope : BinaryEnvelope) : Prop :=
  BinaryEnvelope.decode P encoded (mailbox.inbox.scope expectedRound) = .ok envelope ∧
    envelope.workerId = shared.workerOf side.peer

/-- What is refused leaves inbox and queue as they were, and what does not come
from the peer makes no envelope of the peer a conflicting duplicate. -/
structure Forgotten (encoded : Bytes) (expectedRound : Option Int) : Prop where
  kept : (receiveEncoded P shared side mailbox encoded expectedRound).KeepsOnError id mailbox
  harmless : ∀ envelope,
    BinaryEnvelope.decode P encoded (mailbox.inbox.scope expectedRound) = .ok envelope ->
    envelope.workerId ≠ shared.workerOf side.peer ->
    ∀ later laterRound fromPeer, IsFromPeer P shared side mailbox later laterRound fromPeer ->
      Conflicts P shared side (receiveEncoded P shared side mailbox encoded expectedRound).state later
        laterRound ->
      Conflicts P shared side mailbox later laterRound

/-- An envelope that does not come from the peer takes a new transfer
identifier.  It comes from a third worker, or there are other bytes of the peer
for the same transfer. -/
structure Lingers (encoded : Bytes) (expectedRound : Option Int) (envelope : BinaryEnvelope) : Prop where
  arrives : mailbox.inbox.Arrives P encoded expectedRound envelope
  notPeer : envelope.workerId ≠ shared.workerOf side.peer
  harms : envelope.workerId ≠ shared.workerOf side ∨ ∃ later laterRound fromPeer,
    IsFromPeer P shared side mailbox later laterRound fromPeer ∧
    fromPeer.transferId = envelope.transferId ∧ P.sha256 encoded ≠ P.sha256 later

section Receiving

variable {P shared side mailbox} {encoded : Bytes} {expectedRound : Option Int}
  {envelope : BinaryEnvelope}

section

variable (arrives : mailbox.inbox.Arrives P encoded expectedRound envelope)

include arrives

theorem inbox_of_arrives :
    (receiveEncoded P shared side mailbox encoded expectedRound).state.inbox =
      mailbox.inbox.remembering P envelope encoded := by
  rw [receiveEncoded, arrives.receive]
  dsimp only
  split_ifs <;> rfl

theorem refused_of_stranger (notMine : envelope.workerId ≠ shared.workerOf side)
    (notPeer : envelope.workerId ≠ shared.workerOf side.peer) :
    (receiveEncoded P shared side mailbox encoded expectedRound).result =
      .error (.syncError ("envelope from unexpected worker " ++ envelope.workerId ++
        "; expected peer " ++ shared.workerOf side.peer)) := by
  rw [receiveEncoded, arrives.receive]
  dsimp only
  rw [if_neg notMine, if_pos notPeer]

theorem returned_of_own (mine : envelope.workerId = shared.workerOf side) :
    (receiveEncoded P shared side mailbox encoded expectedRound).result = .ok (some envelope) := by
  rw [receiveEncoded, arrives.receive]
  dsimp only
  rw [if_pos mine]

theorem returned_of_peer (fromPeer : envelope.workerId = shared.workerOf side.peer) :
    (receiveEncoded P shared side mailbox encoded expectedRound).result = .ok (some envelope) := by
  rw [receiveEncoded, arrives.receive]
  dsimp only
  split_ifs with mine other
  · rfl
  · exact absurd fromPeer other
  · rfl

end

theorem conflicts_iff
    (decoded : BinaryEnvelope.decode P encoded (mailbox.inbox.scope expectedRound) = .ok envelope) :
    Conflicts P shared side mailbox encoded expectedRound ↔
      ∃ previous, mailbox.inbox.fingerprints.get? envelope.transferId = some previous ∧
        previous ≠ P.sha256 encoded := by
  rw [← BinaryInbox.receive_decoded decoded, Conflicts, receiveEncoded]
  cases (mailbox.inbox.receive P encoded expectedRound).result with
  | error error => rfl
  | ok handed =>
    cases handed with
    | none => simp
    | some other =>
      dsimp only
      split_ifs <;> simp

end Receiving

section Traces

variable {P shared side mailbox} {encoded : Bytes} {expectedRound : Option Int}
  {envelope : BinaryEnvelope}

theorem conflicts_of_arrives (arrives : mailbox.inbox.Arrives P encoded expectedRound envelope)
    {later : Bytes} {laterRound : Option Int} {fromPeer : BinaryEnvelope}
    (isFromPeer : IsFromPeer P shared side mailbox later laterRound fromPeer) :
    Conflicts P shared side (receiveEncoded P shared side mailbox encoded expectedRound).state later
        laterRound ↔
      (fromPeer.transferId = envelope.transferId ∧ P.sha256 encoded ≠ P.sha256 later) ∨
        fromPeer.transferId ≠ envelope.transferId ∧ Conflicts P shared side mailbox later laterRound := by
  have same : (receiveEncoded P shared side mailbox encoded expectedRound).state.inbox =
      mailbox.inbox.remembering P envelope encoded := inbox_of_arrives arrives
  have decoded : BinaryEnvelope.decode P later
      ((receiveEncoded P shared side mailbox encoded expectedRound).state.inbox.scope laterRound) =
        .ok fromPeer := by
    rw [same]
    exact isFromPeer.1
  rw [conflicts_iff decoded, conflicts_iff isFromPeer.1, same, BinaryInbox.remembering]
  dsimp only
  rcases eq_or_ne fromPeer.transferId envelope.transferId with sameId | otherId
  · rw [sameId, get?_set_self]
    simp
  · rw [get?_set_of_ne otherId]
    simp [otherId]

theorem Lingers.not_forgotten
    (lingers : Lingers P shared side mailbox encoded expectedRound envelope) :
    ¬ Forgotten P shared side mailbox encoded expectedRound := by
  rintro ⟨kept, harmless⟩
  rcases lingers.harms with notMine | ⟨later, laterRound, fromPeer, isFromPeer, sameId, differ⟩
  · have same := kept _ (refused_of_stranger lingers.arrives notMine lingers.notPeer)
    have inbox := (inbox_of_arrives lingers.arrives).symm.trans (congrArg Mailbox.inbox same)
    have seen := congrArg (fun inbox => inbox.fingerprints.get? envelope.transferId) inbox
    rw [BinaryInbox.remembering, get?_set_self] at seen
    exact absurd (seen.trans lingers.arrives.unseen) (Option.some_ne_none _)
  · have conflicts := harmless envelope lingers.arrives.decoded lingers.notPeer later laterRound fromPeer
      isFromPeer ((conflicts_of_arrives lingers.arrives isFromPeer).mpr (Or.inl ⟨sameId, differ⟩))
    obtain ⟨previous, seen, _⟩ := (conflicts_iff isFromPeer.1).mp conflicts
    rw [sameId, lingers.arrives.unseen] at seen
    cases seen

theorem forgotten_of_same
    (same : (receiveEncoded P shared side mailbox encoded expectedRound).state = mailbox) :
    Forgotten P shared side mailbox encoded expectedRound where
  kept := fun _ _ => same
  harmless := by
    rw [same]
    exact fun _ _ _ _ _ _ _ conflicts => conflicts

end Traces

/-- A call leaves no trace of what it refuses, and lets nobody but the peer use
up a transfer identifier of the peer, exactly when it does not take a new
envelope from a third worker, or one of its own for a transfer of the peer. -/
theorem forgotten_iff (encoded : Bytes) (expectedRound : Option Int) :
    Forgotten P shared side mailbox encoded expectedRound ↔
      ¬ ∃ envelope, Lingers P shared side mailbox encoded expectedRound envelope := by
  constructor
  · rintro forgotten ⟨envelope, lingers⟩
    exact lingers.not_forgotten forgotten
  · intro clean
    rcases mailbox.inbox.receive_cases P encoded expectedRound with ⟨error, same⟩ | same |
      ⟨envelope, arrives⟩
    · apply forgotten_of_same
      rw [receiveEncoded, same]
    · apply forgotten_of_same
      rw [receiveEncoded, same]
    · constructor
      case kept =>
        intro error raised
        by_cases mine : envelope.workerId = shared.workerOf side
        · rw [returned_of_own arrives mine] at raised
          cases raised
        by_cases fromPeer : envelope.workerId = shared.workerOf side.peer
        · rw [returned_of_peer arrives fromPeer] at raised
          cases raised
        exact absurd ⟨envelope, arrives, fromPeer, Or.inl mine⟩ clean
      case harmless =>
        intro other decoded notPeer later laterRound fromPeer isFromPeer conflicts
        obtain rfl := Except.ok.inj (decoded.symm.trans arrives.decoded)
        rcases (conflicts_of_arrives arrives isFromPeer).mp conflicts with ⟨sameId, differ⟩ |
          ⟨_, conflicts⟩
        · exact absurd ⟨_, arrives, notPeer,
            Or.inr ⟨later, laterRound, fromPeer, isFromPeer, sameId, differ⟩⟩ clean
        · exact conflicts

def thirdWorker : Uuid := 0x33333333333343338333333333333333

/-- An envelope of the third worker, under the transfer identifier of the second one. -/
def strangerBytes : Bytes :=
  updateBytes thirdWorker roomId 1 packedOne []

def peerBytes : Bytes :=
  updateBytes secondWorker roomId 1 packedTwo []

/-- The first worker refuses the envelope of the third one, and from then on the
envelope of the second one too. -/
theorem stranger_blocks_peer :
    ¬ Forgotten platform (sampleRound .accepted) .left (sampleStart.mailbox .left)
      strangerBytes none ∧
    Conflicts platform (sampleRound .accepted) .left
      (receiveEncoded platform (sampleRound .accepted) .left (sampleStart.mailbox .left)
        strangerBytes none).state peerBytes none ∧
    ∃ envelope, (receiveEncoded platform (sampleRound .accepted) .left
      (sampleStart.mailbox .left) peerBytes none).result = .ok (some envelope) := by
  have strangerReads : Reference.Reads strangerBytes
      (update thirdWorker roomId 1 packedOne []) :=
    reads_updateBytes _ _ (by decide) (by decide) (by decide) (by decide)
  have peerReads : Reference.Reads peerBytes
      (update secondWorker roomId 1 packedTwo []) :=
    reads_updateBytes _ _ (by decide) (by decide) (by decide) (by decide)
  have stranger : (sampleStart.mailbox .left).inbox.Arrives platform strangerBytes none
      (update thirdWorker roomId 1 packedOne []) := ⟨strangerReads, rfl⟩
  have peer : (sampleStart.mailbox .left).inbox.Arrives platform peerBytes none
      (update secondWorker roomId 1 packedTwo []) :=
    ⟨peerReads, rfl⟩
  have notPeer : platform.strOfUuid thirdWorker ≠
      (sampleRound .accepted).workerOf Side.left.peer :=
    fun same => absurd (platform.strOfUuid_injective same) (by decide)
  have notMine : platform.strOfUuid thirdWorker ≠ (sampleRound .accepted).workerOf .left :=
    fun same => absurd (platform.strOfUuid_injective same) (by decide)
  have differ : platform.sha256 strangerBytes ≠ platform.sha256 peerBytes := by
    decide +kernel
  have lingers : Lingers platform (sampleRound .accepted) .left (sampleStart.mailbox .left)
      strangerBytes none (update thirdWorker roomId 1 packedOne []) :=
    ⟨stranger, notPeer, Or.inl notMine⟩
  exact ⟨lingers.not_forgotten,
    (conflicts_of_arrives stranger ⟨peerReads, rfl⟩).mpr (Or.inl ⟨rfl, differ⟩),
    _, returned_of_peer peer rfl⟩

end SyncState

end Training
end ZepGpu
