import ZepGpu.Training.RelayDelivery
import ZepGpu.Training.SyncSteps

namespace ZepGpu
namespace Training

open Function Foundation Dict List

/-!
# What holds throughout a round

For each side the invariant says how far its own envelope has come, what it has
received, and what its call got when it is finished.  A side that has used the
relay store knows nothing of the path on which its peer sends.
-/

namespace SyncState

variable {N : Numpy} {P : Platform} {shared : SyncRound N} {state after : SyncState N} {side : Side}

/-! ## What arrives -/

/-- An inbox expects the room and the run of the round. -/
structure Expects (shared : SyncRound N) (inbox : BinaryInbox) : Prop where
  room : inbox.roomId = shared.roomId
  run : inbox.runId = shared.runId
  worker : inbox.workerId = none

variable {metric : TransferMetric} {encoded : Bytes} {call : SyncCall}

theorem decode_sent {scope : Scope} (wellFormed : shared.WellFormed P)
    (sends : shared.Sends P side encoded)
    (inside : verifyScope (shared.envelopeFor side) scope = .ok ()) :
    BinaryEnvelope.decode P encoded scope = .ok (shared.envelopeFor side) :=
  decode_in_scope (decode_encode (wellFormed.canonical side) (wellFormed.positive side) sends) inside

theorem receiveEncoded_sent {mailbox : Mailbox} (wellFormed : shared.WellFormed P)
    (expects : Expects shared mailbox.inbox) (sends : shared.Sends P side.peer encoded) :
    (receiveEncoded P shared side mailbox encoded).state =
      match mailbox.inbox.fingerprints.get? (shared.transferOf side.peer) with
      | some _ => mailbox
      | none => {
          inbox := { mailbox.inbox with
            fingerprints := mailbox.inbox.fingerprints.set (shared.transferOf side.peer)
              (P.sha256 encoded) }
          peerQueue := mailbox.peerQueue ++ [encoded] } := by
  have inside : verifyScope (shared.envelopeFor side.peer) {
      roomId := some mailbox.inbox.roomId
      runId := some mailbox.inbox.runId
      workerId := mailbox.inbox.workerId } = .ok () := by
    rw [expects.room, expects.run, expects.worker, verifyScope]
    simp [raiseIf, SyncRound.envelopeFor]
    rfl
  have decoded := decode_sent wellFormed sends inside
  have mine : ¬ (shared.envelopeFor side.peer).workerId = shared.workerOf side :=
    wellFormed.workers side
  have fromPeer : ¬ (shared.envelopeFor side.peer).workerId ≠ shared.workerOf side.peer :=
    not_not.mpr rfl
  have named : (shared.envelopeFor side.peer).transferId = shared.transferOf side.peer := rfl
  rw [receiveEncoded, BinaryInbox.receive, decoded]
  dsimp only
  rw [named]
  cases mailbox.inbox.fingerprints.get? (shared.transferOf side.peer) with
  | some previous =>
    dsimp only
    split_ifs
    · rfl
    · rfl
  | none =>
    dsimp only
    rw [if_neg mine, if_neg fromPeer]

theorem decodePeer_sent (wellFormed : shared.WellFormed P)
    (sends : shared.Sends P side.peer encoded) :
    decodePeer P shared side encoded = .ok (shared.envelopeFor side.peer) := by
  have inside : verifyScope (shared.envelopeFor side.peer) {
      roomId := some shared.roomId
      runId := some shared.runId
      workerId := some (shared.workerOf side.peer)
      round := some shared.number } = .ok () := by
    rw [verifyScope]
    simp [raiseIf, SyncRound.envelopeFor, SyncRound.workerOf]
    rfl
  have mine : ¬ (shared.envelopeFor side.peer).workerId = shared.workerOf side :=
    wellFormed.workers side
  rw [decodePeer]
  refine bind_eq_ok.mpr ⟨_, decode_sent wellFormed sends inside, ?_⟩
  exact raiseIf_bind_eq_ok.mpr ⟨mine, rfl⟩

theorem fetchPeerEnvelope_direct (isDirect : metric.path = .direct) :
    state.fetchPeerEnvelope P shared side metric = state.waitPeerEnvelope P shared side :=
  if_pos isDirect

theorem fetchPeerEnvelope_relay (isRelay : metric.path = .relay) :
    state.fetchPeerEnvelope P shared side metric = state.downloadPeerEnvelope shared side := by
  have notDirect : ¬ metric.path = .direct := by
    rw [isRelay]
    exact nofun
  rw [fetchPeerEnvelope, if_neg notDirect, if_pos (Or.inr isRelay)]

theorem mailbox_of_fetch {mailbox : Mailbox} {fetched : Except TrainingError BinaryEnvelope}
    (arrived : state.fetchPeerEnvelope P shared side metric = some (mailbox, fetched)) :
    mailbox.inbox = (state.mailbox side).inbox ∧
      ∀ encoded, encoded ∈ mailbox.peerQueue -> encoded ∈ (state.mailbox side).peerQueue := by
  cases path : metric.path with
  | direct =>
    rw [fetchPeerEnvelope_direct path, waitPeerEnvelope] at arrived
    split at arrived
    · cases arrived
    · rename_i first rest queue
      cases arrived
      refine ⟨rfl, fun encoded member => ?_⟩
      rw [queue]
      exact mem_cons_of_mem _ member
  | relay =>
    rw [fetchPeerEnvelope_relay path, downloadPeerEnvelope, Option.map_eq_some_iff] at arrived
    rcases arrived with ⟨_, _, same⟩
    cases same
    exact ⟨rfl, fun _ member => member⟩

/-! ## The invariant -/

def Unknown (shared : SyncRound N) (state : SyncState N) (side : Side) : Prop :=
  shared.transferOf side ∉ state.relay.transfers.keys ∧
    shared.transferOf side ∉ state.relay.completed.keys

/-- The inbox has seen the transfer of the peer. -/
def Seen (shared : SyncRound N) (state : SyncState N) (side : Side) : Prop :=
  shared.transferOf side.peer ∈ (state.mailbox side).inbox.fingerprints.keys

def Stores (shared : SyncRound N) (state : SyncState N) (side : Side) : Prop :=
  ∀ done, state.relay.completed.get? (shared.transferOf side) = some done ->
    done.envelope = shared.envelopeFor side ∧ done.targetWorkerId = some (shared.workerOf side.peer)

/-- The envelope of a side is on its way to the peer, or has arrived. -/
def Reaches (shared : SyncRound N) (state : SyncState N) (side : Side) : Prop :=
  state.wire side.peer ≠ [] ∨ shared.transferOf side ∈ (state.mailbox side.peer).inbox.fingerprints.keys

/-- What holds once `send` has returned. -/
def SentBy (P : Platform) (shared : SyncRound N) (state : SyncState N) (side : Side)
    (metric : TransferMetric) : Prop :=
  (∃ encoded, shared.Sends P side encoded) ∧
  match metric.path with
  | .direct => shared.EndsDirect side ∧ Unknown shared state side ∧ Reaches shared state side
  | .relay => shared.Missed side ((shared.orchestrator side).maxRetries + 1) ∧
      Stores shared state side

/-- How far the envelope of a side has come in each phase of its call. -/
def SenderAt (P : Platform) (shared : SyncRound N) (state : SyncState N) (side : Side) :
    Phase N -> Prop
  | .ready => Unknown shared state side
  | .sending encoded number => Unknown shared state side ∧ shared.Sends P side encoded ∧
      number ≤ (shared.orchestrator side).maxRetries ∧ shared.Missed side number
  | .relaying encoded => Unknown shared state side ∧ shared.Sends P side encoded ∧
      shared.Missed side ((shared.orchestrator side).maxRetries + 1)
  | .unsent _ => True
  | .sent metric | .listening metric | .raised metric _ => SentBy P shared state side metric
  | .returned result => SentBy P shared state side result.transfer

/-- What a finished call got. -/
def OutcomeAt (P : Platform) (shared : SyncRound N) (state : SyncState N) (side : Side) :
    Phase N -> Prop
  | .returned result =>
    shared.finish P side result.transfer (shared.envelopeFor side.peer) = .ok result ∧
    (result.transfer.path = .relay ->
      ∃ metric, (state.phase side.peer).metric = some metric ∧ metric.path = .relay)
  | .raised metric error =>
    shared.finish P side metric (shared.envelopeFor side.peer) = .error error ∨
    (metric.path = .relay ∧ (state.phase side.peer).metric.isSome = true ∧
      shared.transferOf side.peer ∉ state.relay.completed.keys)
  | _ => True

/-- All that reaches a side was sent by its peer in this round. -/
structure Received (P : Platform) (shared : SyncRound N) (state : SyncState N) (side : Side) :
    Prop where
  expects : Expects shared (state.mailbox side).inbox
  wire : ∀ encoded, encoded ∈ state.wire side -> shared.Sends P side.peer encoded
  queue : ∀ encoded, encoded ∈ (state.mailbox side).peerQueue -> shared.Sends P side.peer encoded
  queued : Seen shared state side ->
    (state.mailbox side).peerQueue ≠ [] ∨ IsFinished (state.phase side) = true

/-- The invariant of the round. -/
structure Sound (P : Platform) (shared : SyncRound N) (state : SyncState N) : Prop where
  sender : ∀ side, SenderAt P shared state side (state.phase side)
  announced : ∀ side, state.bus.get? (shared.number, shared.workerOf side) =
    if IsAnnounced (state.phase side) then some (shared.transferOf side) else none
  received : ∀ side, Received P shared state side
  outcome : ∀ side, OutcomeAt P shared state side (state.phase side)

/-! ## What no call takes back -/

theorem SentBy.mono (unknown : Unknown shared state side -> Unknown shared after side)
    (stores : Stores shared state side -> Stores shared after side)
    (reaches : Reaches shared state side -> Reaches shared after side)
    (sent : SentBy P shared state side metric) : SentBy P shared after side metric := by
  rcases sent with ⟨sends, sent⟩
  refine ⟨sends, ?_⟩
  split at sent
  · exact ⟨sent.1, unknown sent.2.1, reaches sent.2.2⟩
  · exact ⟨sent.1, stores sent.2⟩

theorem SenderAt.mono {phase : Phase N}
    (unknown : Unknown shared state side -> Unknown shared after side)
    (stores : Stores shared state side -> Stores shared after side)
    (reaches : Reaches shared state side -> Reaches shared after side)
    (sender : SenderAt P shared state side phase) : SenderAt P shared after side phase := by
  cases phase with
  | ready => exact unknown sender
  | sending encoded number => exact ⟨unknown sender.1, sender.2⟩
  | relaying encoded => exact ⟨unknown sender.1, sender.2⟩
  | unsent error => trivial
  | sent metric => exact SentBy.mono unknown stores reaches sender
  | listening metric => exact SentBy.mono unknown stores reaches sender
  | returned result => exact SentBy.mono unknown stores reaches sender
  | raised metric error => exact SentBy.mono unknown stores reaches sender

theorem OutcomeAt.mono {phase : Phase N}
    (metric : ∀ sent, (state.phase side.peer).metric = some sent ->
      (after.phase side.peer).metric = some sent)
    (absent : (state.phase side.peer).metric.isSome = true ->
      shared.transferOf side.peer ∉ state.relay.completed.keys ->
      shared.transferOf side.peer ∉ after.relay.completed.keys)
    (outcome : OutcomeAt P shared state side phase) : OutcomeAt P shared after side phase := by
  cases phase with
  | returned result =>
    refine ⟨outcome.1, fun isRelay => ?_⟩
    rcases outcome.2 isRelay with ⟨sent, found, path⟩
    exact ⟨sent, metric sent found, path⟩
  | raised own error =>
    rcases outcome with fails | ⟨isRelay, known, gone⟩
    · exact Or.inl fails
    · rcases Option.isSome_iff_exists.mp known with ⟨sent, found⟩
      refine Or.inr ⟨isRelay, ?_, absent known gone⟩
      rw [metric sent found]
      rfl
  | _ => trivial

/-! ## Sending -/

theorem relay_cases (wellFormed : shared.WellFormed P)
    (sender : SenderAt P shared state side (.relaying encoded))
    (cleanedAt createdAt completedAt : Rat) :
    (∃ relay, state.relay.transfer P (shared.orchestrator side).chunkSize
        (shared.envelopeFor side) (shared.workerOf side.peer) cleanedAt createdAt completedAt =
        ⟨.ok (), relay⟩ ∧
      relay.completed.get? (shared.transferOf side) =
        some ⟨shared.envelopeFor side, some (shared.workerOf side.peer), completedAt⟩ ∧
      BinaryRelayStore.SameBut (shared.transferOf side) (state.relay.cleaned cleanedAt) relay) ∨
    ∃ error relay, state.relay.transfer P (shared.orchestrator side).chunkSize
        (shared.envelopeFor side) (shared.workerOf side.peer) cleanedAt createdAt completedAt =
        ⟨.error error, relay⟩ ∧
      (BinaryRelayStore.SameBut (shared.transferOf side) state.relay relay ∨
        BinaryRelayStore.SameBut (shared.transferOf side) (state.relay.cleaned cleanedAt) relay) := by
  rcases sender with ⟨unknown, sends, _⟩
  rcases BinaryRelayStore.transfer_cases (shared.workerOf side.peer) cleanedAt createdAt completedAt
    unknown.1 unknown.2 (wellFormed.canonical side) (wellFormed.positive side) sends
    (shared.orchestrator side).one_le_chunkSize with
    ⟨relay, transfers, found, same⟩ | ⟨error, relay, transfers, same⟩
  · exact Or.inl ⟨relay, transfers, found, same⟩
  · exact Or.inr ⟨error, relay, transfers, same⟩

theorem relay_onlyLoses (wellFormed : shared.WellFormed P)
    (sender : SenderAt P shared state side (.relaying encoded))
    (cleanedAt createdAt completedAt : Rat) :
    BinaryRelayStore.OnlyLoses (shared.transferOf side) state.relay
      (state.relay.transfer P (shared.orchestrator side).chunkSize (shared.envelopeFor side)
        (shared.workerOf side.peer) cleanedAt createdAt completedAt).state := by
  rcases relay_cases wellFormed sender cleanedAt createdAt completedAt with
    ⟨relay, transfers, _, same⟩ | ⟨error, relay, transfers, same⟩
  · rw [transfers]
    exact BinaryRelayStore.SameBut.onlyLoses (Or.inr same)
  · rw [transfers]
    exact BinaryRelayStore.SameBut.onlyLoses same

section

variable (step : SyncStep P shared state call after) (wellFormed : shared.WellFormed P)
  (sound : Sound P shared state) (other : Side)

include step wellFormed sound other

theorem SyncStep.reaches (before : Reaches shared state other) : Reaches shared after other := by
  have grown : ∀ side extra, (update state.wire side (state.wire side ++ extra))
      other.peer ≠ [] ∨ shared.transferOf other ∈
        (state.mailbox other.peer).inbox.fingerprints.keys := by
    intro side extra
    rcases before with waiting | seen
    · refine Or.inl ?_
      rcases eq_or_ne other.peer side with rfl | different
      · rw [update_self]
        exact fun empty => waiting (append_eq_nil_iff.mp empty).1
      · rw [update_of_ne different]
        exact waiting
    · exact Or.inr seen
  cases step with
  | kept => exact before
  | started => exact before
  | refused => exact before
  | @accepted side encoded number isSending accepts => exact grown side.peer [encoded]
  | @missed side encoded number reached isSending misses => exact grown side.peer _
  | failed => exact before
  | relayed => exact before
  | published => exact before
  | @delivered side index encoded message =>
    unfold Reaches at *
    rcases eq_or_ne other.peer side with rfl | different
    · -- the message is the envelope of this side, so that the inbox knows it now
      refine Or.inr ?_
      have received := sound.received other.peer
      have sends := received.wire encoded (mem_of_getElem? message)
      change shared.transferOf other ∈ (update state.mailbox other.peer
        (receiveEncoded P shared other.peer (state.mailbox other.peer) encoded).state
          other.peer).inbox.fingerprints.keys
      rw [update_self, receiveEncoded_sent wellFormed received.expects sends, Side.peer_peer]
      cases known : (state.mailbox other.peer).inbox.fingerprints.get?
        (shared.transferOf other) with
      | some previous => exact mem_keys_of_get? known
      | none => exact mem_keys_set.mpr (Or.inl rfl)
    · change (update state.wire side _) other.peer ≠ [] ∨ _ ∈
        (update state.mailbox side _ other.peer).inbox.fingerprints.keys
      rw [update_of_ne different, update_of_ne different]
      exact before
  | @fetched side metric mailbox fetched isListening arrived =>
    have same := (mailbox_of_fetch arrived).1
    refine before.imp id (fun seen => ?_)
    change _ ∈ (update state.mailbox side mailbox other.peer).inbox.fingerprints.keys
    rcases eq_or_ne other.peer side with rfl | different
    · rw [update_self, same]
      exact seen
    · rw [update_of_ne different]
      exact seen

theorem SyncStep.sender : SenderAt P shared after other (after.phase other) := by
  have reaches := step.reaches wellFormed sound
  have own := sound.sender
  have rest : ∀ side, (Unknown shared state side -> Unknown shared after side) ->
      (Stores shared state side -> Stores shared after side) ->
      SenderAt P shared after side (state.phase side) :=
    fun side unknown stores => (own side).mono unknown stores (reaches side)
  cases step with
  | kept => exact own other
  | @started side encoded isReady sends =>
    rcases side.eq_or_eq_peer other with rfl | rfl
    · have unknown := own other
      rw [isReady] at unknown
      rw [setPhase_self]
      exact ⟨unknown, sends, Nat.zero_le _, fun _ below => absurd below (Nat.not_lt_zero _)⟩
    · rw [setPhase_peer]
      exact rest side.peer (fun same => same) (fun same => same)
  | @refused side isReady error =>
    rcases side.eq_or_eq_peer other with rfl | rfl
    · rw [setPhase_self]
      trivial
    · rw [setPhase_peer]
      exact rest side.peer (fun same => same) (fun same => same)
  | @accepted side encoded number isSending accepts =>
    rcases side.eq_or_eq_peer other with rfl | rfl
    · have sending := own other
      rw [isSending] at sending
      rcases sending with ⟨unknown, sends, few, missed⟩
      rw [setPhase_self]
      refine ⟨⟨encoded, sends⟩, ⟨number, few, accepts, missed⟩, unknown, Or.inl ?_⟩
      change update state.wire other.peer (state.wire other.peer ++ [encoded]) other.peer ≠ []
      rw [update_self]
      exact append_ne_nil_of_right_ne_nil _ (cons_ne_nil _ _)
    · rw [setPhase_peer]
      exact rest side.peer (fun same => same) (fun same => same)
  | @missed side encoded number reached isSending misses =>
    rcases side.eq_or_eq_peer other with rfl | rfl
    · have sending := own other
      rw [isSending] at sending
      rcases sending with ⟨unknown, sends, few, missed⟩
      have further := missed.succ misses
      rw [setPhase_self]
      by_cases again : number < (shared.orchestrator other).maxRetries
      · rw [if_pos again]
        exact ⟨unknown, sends, again, further⟩
      · have last : number = (shared.orchestrator other).maxRetries := by omega
        rw [last] at further
        rw [if_neg again]
        exact ⟨unknown, sends, further⟩
    · rw [setPhase_peer]
      exact rest side.peer (fun same => same) (fun same => same)
  | @failed side encoded number isSending error =>
    rcases side.eq_or_eq_peer other with rfl | rfl
    · rw [setPhase_self]
      trivial
    · rw [setPhase_peer]
      exact rest side.peer (fun same => same) (fun same => same)
  | @relayed side encoded cleanedAt createdAt completedAt isRelaying =>
    have relaying := own side
    rw [isRelaying] at relaying
    rcases side.eq_or_eq_peer other with rfl | rfl
    · dsimp only
      rw [setPhase_self]
      rcases relay_cases wellFormed relaying cleanedAt createdAt completedAt with
        ⟨relay, transfers, found, same⟩ | ⟨error, relay, transfers, same⟩
      · rw [transfers]
        refine ⟨⟨encoded, relaying.2.1⟩, relaying.2.2, fun done isDone => ?_⟩
        obtain rfl := Option.some.inj (found.symm.trans isDone)
        exact ⟨rfl, rfl⟩
      · rw [transfers]
        trivial
    · dsimp only
      rw [setPhase_peer]
      have loses := relay_onlyLoses wellFormed relaying cleanedAt createdAt completedAt
      have different := wellFormed.transfers side
      refine rest side.peer (fun unknown => ?_) (fun stores done found => ?_)
      · exact ⟨(loses.absent different).2 unknown.1, (loses.absent different).1 unknown.2⟩
      · exact stores done ((loses _ different).1 done found)
  | @published side metric isSent =>
    rcases side.eq_or_eq_peer other with rfl | rfl
    · have kept := rest other (fun same => same) (fun same => same)
      rw [isSent] at kept
      dsimp only
      rw [setPhase_self]
      exact kept
    · dsimp only
      rw [setPhase_peer]
      exact rest side.peer (fun same => same) (fun same => same)
  | @delivered side index encoded message => exact rest other (fun same => same) (fun same => same)
  | @fetched side metric mailbox fetched isListening arrived =>
    rcases side.eq_or_eq_peer other with rfl | rfl
    · have kept := rest other (fun same => same) (fun same => same)
      rw [isListening] at kept
      rw [setPhase_self]
      cases finished : fetched >>= shared.finish P other metric with
      | error error => exact kept
      | ok result =>
        rcases bind_eq_ok.mp finished with ⟨envelope, _, finishes⟩
        have same := shared.transfer_of_finish finishes
        subst same
        exact kept
    · rw [setPhase_peer]
      exact rest side.peer (fun same => same) (fun same => same)

theorem SyncStep.announced :
    after.bus.get? (shared.number, shared.workerOf other) =
      if IsAnnounced (after.phase other) then some (shared.transferOf other) else none := by
  -- a phase replaced by another of the same kind
  have kept : ∀ side phase, IsAnnounced phase = IsAnnounced (state.phase side) ->
      state.bus.get? (shared.number, shared.workerOf other) =
        if IsAnnounced (update state.phase side phase other) then
          some (shared.transferOf other) else none := by
    intro side phase same
    rcases eq_or_ne other side with rfl | different
    · rw [update_self, same]
      exact sound.announced other
    · rw [update_of_ne different]
      exact sound.announced other
  cases step with
  | kept => exact sound.announced other
  | @started side encoded isReady sends => exact kept side _ (by rw [isReady]; rfl)
  | @refused side isReady error => exact kept side _ (by rw [isReady]; rfl)
  | @accepted side encoded number isSending accepts => exact kept side _ (by rw [isSending]; rfl)
  | @missed side encoded number reached isSending misses =>
    apply kept side
    rw [isSending]
    by_cases again : number < (shared.orchestrator side).maxRetries
    · rw [if_pos again]
      rfl
    · rw [if_neg again]
      rfl
  | @failed side encoded number isSending error => exact kept side _ (by rw [isSending]; rfl)
  | @relayed side encoded cleanedAt createdAt completedAt isRelaying =>
    apply kept side
    rw [isRelaying]
    split
    · rfl
    · rfl
  | @published side metric isSent =>
    change (state.bus.set _ _).get? _ =
      if IsAnnounced (update state.phase side (.listening metric) other) then _ else _
    rcases side.eq_or_eq_peer other with rfl | rfl
    · rw [update_self, get?_set_self]
      rfl
    · have different : (shared.number, shared.workerOf side.peer) ≠
          (shared.number, shared.workerOf side) := by
        intro same
        exact wellFormed.workers side (Prod.mk.inj same).2
      rw [update_of_ne side.peer_ne, get?_set_of_ne different]
      exact sound.announced side.peer
  | delivered => exact sound.announced other
  | @fetched side metric mailbox fetched isListening arrived =>
    apply kept side
    rw [isListening]
    split
    · rfl
    · rfl

end

/-! ## Receiving -/

theorem Received.mono (received : Received P shared state side)
    (mailbox : after.mailbox side = state.mailbox side)
    (wire : ∀ encoded, encoded ∈ after.wire side ->
      encoded ∈ state.wire side ∨ shared.Sends P side.peer encoded)
    (finished : IsFinished (state.phase side) = true -> IsFinished (after.phase side) = true) :
    Received P shared after side := by
  constructor
  case expects =>
    rw [mailbox]
    exact received.expects
  case wire =>
    intro encoded member
    exact (wire encoded member).elim (received.wire encoded) id
  case queue =>
    rw [mailbox]
    exact received.queue
  case queued =>
    unfold Seen
    rw [mailbox]
    exact fun seen => (received.queued seen).imp id finished

theorem Received.deliver {index : Nat} (wellFormed : shared.WellFormed P)
    (received : Received P shared state side) (message : (state.wire side)[index]? = some encoded) :
    Received P shared ((state.setWire side ((state.wire side).eraseIdx index)).setMailbox side
      (receiveEncoded P shared side (state.mailbox side) encoded).state) side := by
  have sends := received.wire encoded (mem_of_getElem? message)
  have wire : ∀ other, other ∈ (update state.wire side
      ((state.wire side).eraseIdx index) side) -> shared.Sends P side.peer other := by
    intro other member
    rw [update_self] at member
    exact received.wire other (mem_of_mem_eraseIdx member)
  rw [receiveEncoded_sent wellFormed received.expects sends]
  cases known : (state.mailbox side).inbox.fingerprints.get? (shared.transferOf side.peer) with
  | some previous =>
    have same : update state.mailbox side (state.mailbox side) = state.mailbox :=
      update_eq_self _ _
    refine ⟨?_, wire, ?_, ?_⟩
    · change Expects shared (update state.mailbox side (state.mailbox side) side).inbox
      rw [same]
      exact received.expects
    · change ∀ other,
        other ∈ (update state.mailbox side (state.mailbox side) side).peerQueue -> _
      rw [same]
      exact received.queue
    · intro _
      change (update state.mailbox side (state.mailbox side) side).peerQueue ≠ [] ∨ _
      rw [same]
      exact received.queued (mem_keys_of_get? known)
  | none =>
    refine ⟨?_, wire, ?_, ?_⟩
    · change Expects shared (update state.mailbox side _ side).inbox
      rw [update_self]
      exact ⟨received.expects.room, received.expects.run, received.expects.worker⟩
    · intro other member
      change other ∈ (update state.mailbox side _ side).peerQueue at member
      rw [update_self, mem_append, mem_singleton] at member
      rcases member with old | rfl
      · exact received.queue other old
      · exact sends
    · intro _
      refine Or.inl ?_
      change (update state.mailbox side _ side).peerQueue ≠ []
      rw [update_self]
      exact append_ne_nil_of_right_ne_nil _ (cons_ne_nil _ _)

theorem SyncStep.received (step : SyncStep P shared state call after)
    (wellFormed : shared.WellFormed P) (sound : Sound P shared state) (other : Side) :
    Received P shared after other := by
  have own := sound.received other
  have finished := step.finished other
  -- the wire of one side gets a message of the other
  have sentBy : ∀ {side : Side} {encoded : Bytes} {number : Nat} {extra : List Bytes},
      state.phase side = .sending encoded number -> (∀ message, message ∈ extra -> message = encoded) ->
      ∀ message, message ∈ update state.wire side.peer (state.wire side.peer ++ extra)
        other -> message ∈ state.wire other ∨ shared.Sends P other.peer message := by
    intro side encoded number extra isSending only message member
    have sending := sound.sender side
    rw [isSending] at sending
    rcases eq_or_ne other side.peer with rfl | different
    · rw [update_self, mem_append] at member
      rcases member with old | new
      · exact Or.inl old
      · rw [Side.peer_peer, only message new]
        exact Or.inr sending.2.1
    · rw [update_of_ne different] at member
      exact Or.inl member
  cases step with
  | kept => exact own
  | @started side encoded isReady sends =>
    exact own.mono rfl (fun _ => Or.inl) finished
  | @refused side isReady error =>
    exact own.mono rfl (fun _ => Or.inl) finished
  | @accepted side encoded number isSending accepts =>
    refine own.mono rfl (sentBy isSending ?_) finished
    exact fun message => mem_singleton.mp
  | @missed side encoded number reached isSending misses =>
    refine own.mono rfl (sentBy isSending ?_) finished
    intro message member
    cases reached with
    | false => exact absurd member not_mem_nil
    | true => exact mem_singleton.mp member
  | @failed side encoded number isSending error =>
    exact own.mono rfl (fun _ => Or.inl) finished
  | @relayed side encoded cleanedAt createdAt completedAt isRelaying =>
    exact own.mono rfl (fun _ => Or.inl) finished
  | @published side metric isSent =>
    exact own.mono rfl (fun _ => Or.inl) finished
  | @delivered side index encoded message =>
    rcases eq_or_ne other side with rfl | different
    · exact own.deliver wellFormed message
    · refine own.mono (update_of_ne different _ _) (fun encoded member => Or.inl ?_) id
      change encoded ∈ update state.wire side _ other at member
      rw [update_of_ne different] at member
      exact member
  | @fetched side metric mailbox fetched isListening arrived =>
    rcases eq_or_ne other side with rfl | different
    · rcases mailbox_of_fetch arrived with ⟨inbox, queue⟩
      refine ⟨?_, own.wire, ?_, fun _ => Or.inr ?_⟩
      · change Expects shared (update state.mailbox other mailbox other).inbox
        rw [update_self, inbox]
        exact own.expects
      · intro encoded member
        change encoded ∈ (update state.mailbox other mailbox other).peerQueue at member
        rw [update_self] at member
        exact own.queue encoded (queue encoded member)
      · rw [setPhase_self]
        split
        · rfl
        · rfl
    · exact own.mono (update_of_ne different _ _) (fun _ => Or.inl)
        finished

/-! ## The end of a call -/

theorem metric_of_announced {phase : Phase N} (announced : IsAnnounced phase = true) :
    ∃ metric, phase.metric = some metric ∧
      (SenderAt P shared state side phase -> SentBy P shared state side metric) := by
  cases phase with
  | listening metric => exact ⟨metric, rfl, id⟩
  | raised metric error => exact ⟨metric, rfl, id⟩
  | returned result => exact ⟨result.transfer, rfl, id⟩
  | _ => cases announced

theorem fetch_cases {mailbox : Mailbox} {fetched : Except TrainingError BinaryEnvelope}
    (wellFormed : shared.WellFormed P) (sound : Sound P shared state)
    (arrived : state.fetchPeerEnvelope P shared side metric = some (mailbox, fetched)) :
    (fetched = .ok (shared.envelopeFor side.peer) ∧
      (metric.path = .relay -> shared.transferOf side.peer ∈ state.relay.completed.keys ∧
        ∃ sent, (state.phase side.peer).metric = some sent ∧ sent.path = .relay)) ∨
    ∃ error, fetched = .error error ∧ metric.path = .relay ∧
      (state.phase side.peer).metric.isSome = true ∧
      shared.transferOf side.peer ∉ state.relay.completed.keys := by
  cases path : metric.path with
  | direct =>
    refine Or.inl ⟨?_, nofun⟩
    rw [fetchPeerEnvelope_direct path, waitPeerEnvelope] at arrived
    split at arrived
    · cases arrived
    · rename_i first rest queue
      cases arrived
      apply decodePeer_sent wellFormed
      apply (sound.received side).queue
      rw [queue]
      exact mem_cons_self
  | relay =>
    rw [fetchPeerEnvelope_relay path, downloadPeerEnvelope, Option.map_eq_some_iff] at arrived
    rcases arrived with ⟨id, onBus, same⟩
    cases same
    have announced := sound.announced side.peer
    rw [onBus] at announced
    by_cases isAnnounced : IsAnnounced (state.phase side.peer) = true
    · rw [if_pos isAnnounced] at announced
      obtain rfl := Option.some.inj announced
      rcases metric_of_announced isAnnounced with ⟨sent, isSent, gives⟩
      have sentBy := (gives (sound.sender side.peer)).2
      have known : (state.phase side.peer).metric.isSome = true := by
        rw [isSent]
        rfl
      by_cases member : shared.transferOf side.peer ∈ state.relay.completed.keys
      · rcases exists_get?_of_mem member with ⟨done, found⟩
        cases peerPath : sent.path with
        | direct =>
          rw [peerPath] at sentBy
          exact absurd member sentBy.2.1.2
        | relay =>
          rw [peerPath] at sentBy
          rcases done with ⟨envelope, target, completedAt⟩
          obtain ⟨rfl, rfl⟩ := sentBy.2 _ found
          rw [Side.peer_peer] at found
          refine Or.inl ⟨?_, fun _ => ⟨member, sent, isSent, peerPath⟩⟩
          exact @BinaryRelayStore.download_of_completed _ (shared.envelopeFor side.peer) _ _ found
            (wellFormed.named side)
      · exact Or.inr ⟨_, BinaryRelayStore.download_of_absent member (wellFormed.named side) _ _ _ _,
          rfl, known, member⟩
    · rw [if_neg isAnnounced] at announced
      cases announced

theorem SyncStep.absent (step : SyncStep P shared state call after)
    (wellFormed : shared.WellFormed P) (sound : Sound P shared state) (other : Side)
    (known : (state.phase other).metric.isSome = true)
    (absent : shared.transferOf other ∉ state.relay.completed.keys) :
    shared.transferOf other ∉ after.relay.completed.keys := by
  cases step with
  | @relayed side encoded cleanedAt createdAt completedAt isRelaying =>
    have relaying := sound.sender side
    rw [isRelaying] at relaying
    rcases side.eq_or_eq_peer other with rfl | rfl
    · rw [isRelaying] at known
      cases known
    · have loses := relay_onlyLoses wellFormed relaying cleanedAt createdAt completedAt
      exact (loses.absent (wellFormed.transfers side)).1 absent
  | _ => exact absent

theorem SyncStep.outcome (step : SyncStep P shared state call after)
    (wellFormed : shared.WellFormed P) (sound : Sound P shared state) (other : Side) :
    OutcomeAt P shared after other (after.phase other) := by
  have rest : ∀ phase, OutcomeAt P shared state other phase ->
      OutcomeAt P shared after other phase := fun phase =>
    OutcomeAt.mono (step.metric other.peer) (step.absent wellFormed sound other.peer)
  have own := rest _ (sound.outcome other)
  -- a phase replaced by one before the end
  have kept : ∀ side phase, IsFinished phase = false ->
      OutcomeAt P shared after other (update state.phase side phase other) := by
    intro side phase unfinished
    rcases eq_or_ne other side with rfl | different
    · rw [update_self]
      cases phase with
      | returned result => cases unfinished
      | raised metric error => cases unfinished
      | _ => trivial
    · rw [update_of_ne different]
      exact own
  cases step with
  | kept => exact own
  | started => exact kept _ _ rfl
  | refused => exact kept _ _ rfl
  | accepted => exact kept _ _ rfl
  | @missed side encoded number reached isSending misses =>
    apply kept
    by_cases again : number < (shared.orchestrator side).maxRetries
    · rw [if_pos again]
      rfl
    · rw [if_neg again]
      rfl
  | failed => exact kept _ _ rfl
  | relayed =>
    apply kept
    split
    · rfl
    · rfl
  | published => exact kept _ _ rfl
  | delivered => exact own
  | @fetched side metric mailbox fetched isListening arrived =>
    rcases eq_or_ne other side with rfl | different
    · rw [setPhase_self]
      apply rest
      rcases fetch_cases wellFormed sound arrived with ⟨rfl, peerRelays⟩ |
        ⟨error, rfl, isRelay, known, gone⟩
      · rw [ok_bind]
        cases finished : shared.finish P other metric (shared.envelopeFor other.peer) with
        | error error => exact Or.inl finished
        | ok result =>
          have same := shared.transfer_of_finish finished
          subst same
          exact ⟨finished, fun isRelay => (peerRelays isRelay).2⟩
      · exact Or.inr ⟨isRelay, known, gone⟩
    · change OutcomeAt P shared _ other (update state.phase side _ other)
      rw [update_of_ne different]
      exact own

theorem Sound.perform (wellFormed : shared.WellFormed P) (sound : Sound P shared state)
    (call : SyncCall) : Sound P shared (state.perform P shared call) := by
  have step := step_perform P shared state call
  exact ⟨step.sender wellFormed sound, step.announced wellFormed sound,
    step.received wellFormed sound, step.outcome wellFormed sound⟩

end SyncState

end Training
end ZepGpu
