import ZepGpu.Foundation.Runs
import ZepGpu.Training.Rounds
import ZepGpu.Training.SyncInvariant

namespace ZepGpu
namespace Training

open Function Foundation Dict List
open Reference

/-!
# When a round ends in agreement

After its own envelope was relayed a side looks for that of its peer at the
relay store only, and after it was delivered directly in its own inbox only.
Both calls return, with the same mean, exactly when both envelopes went the
same way, the updates can be averaged, and the relay store did not drop one of
them in between.
-/

namespace SyncRound

variable {N : Numpy} {P : Platform} {shared : SyncRound N} {side : Side}

/-! ## The mean -/

/-- The update of a side as the bytes on the wire give it back. -/
def reconstruct (shared : SyncRound N) (side : Side) : Except TrainingError (Tensors N) :=
  shared.decompress side (shared.orchestrator side).update

def mean (shared : SyncRound N) (left right : Tensors N) (name : String) : Option N.Array :=
  match left.get? name, right.get? name with
  | some first, some second => (N.add first second).toOption.map (N.scale shared.half)
  | _, _ => none

/-- Both updates use one codec, which reads them as arrays of the same names and shapes. -/
def CompatibleFrom (shared : SyncRound N) (side : Side) : Prop :=
  ∃ mine other, shared.reconstruct side = .ok mine ∧ shared.reconstruct side.peer = .ok other ∧
    (shared.orchestrator side.peer).update.codec = (shared.orchestrator side).update.codec ∧
    Matching mine other

/-- Both updates are read with one codec and have the same shapes. -/
def Compatible (shared : SyncRound N) : Prop :=
  shared.CompatibleFrom .left

theorem Compatible.from (compatible : shared.Compatible) (side : Side) : shared.CompatibleFrom side := by
  cases side with
  | left => exact compatible
  | right =>
    rcases compatible with ⟨mine, other, isMine, isOther, codec, same⟩
    exact ⟨other, mine, isOther, isMine, codec.symm, same.symm⟩

theorem decompress_eq_ok {update : CompressedUpdate} {tensors : Tensors N} :
    shared.decompress side update = .ok tensors ↔
      update.codec = (shared.orchestrator side).codecId ∧
        shared.unpack (shared.orchestrator side).codecId update.payload = .ok tensors := by
  rw [decompress, raiseIf_bind_eq_ok, not_not]

theorem averageAt_toOption (shared : SyncRound N) (mine other : Tensors N) (name : String) :
    (shared.averageAt mine other name).toOption = shared.mean mine other name := by
  rw [averageAt, mean, lookup, lookup]
  cases mine.get? name with
  | none => rfl
  | some first =>
    cases other.get? name with
    | none => rfl
    | some second =>
      change (N.add first second >>= _).toOption = (N.add first second).toOption.map _
      cases N.add first second with
      | error error => rfl
      | ok sum => rfl

theorem mean_of_build {mine other averaged : Tensors N}
    (built : Dict.build (shared.averageAt mine other) mine.keys = .ok averaged) (name : String) :
    averaged.get? name = shared.mean mine other name := by
  rcases get?_build built with ⟨inside, outside⟩
  by_cases member : name ∈ mine.keys
  · rcases inside name member with ⟨value, made, found⟩
    rw [found, ← averageAt_toOption, made]
    rfl
  · rw [outside name member, mean, get?_eq_none_iff.mpr member]

theorem exists_build {mine other : Tensors N} (same : Matching mine other) :
    ∃ averaged, Dict.build (shared.averageAt mine other) mine.keys = .ok averaged := by
  apply build_of_ok
  intro name member
  rcases exists_get?_of_mem member with ⟨first, isFirst⟩
  rcases same.get? isFirst with ⟨second, isSecond, shape⟩
  rcases N.shape_add first second shape.symm with ⟨sum, added, _⟩
  refine ⟨N.scale shared.half sum, bind_eq_ok.mpr ⟨first, lookup_eq_ok.mpr isFirst, ?_⟩⟩
  exact bind_eq_ok.mpr ⟨second, lookup_eq_ok.mpr isSecond, bind_eq_ok.mpr ⟨sum, added, rfl⟩⟩

theorem mean_comm {left right : Tensors N}
    (commutes : ∀ first second, N.shape first = N.shape second ->
      N.add first second = N.add second first)
    (same : Matching left right) (name : String) :
    shared.mean left right name = shared.mean right left name := by
  rw [mean, mean]
  cases isFirst : left.get? name with
  | none =>
    cases right.get? name with
    | none => rfl
    | some second => rfl
  | some first =>
    rcases same.get? isFirst with ⟨second, isSecond, shape⟩
    rw [isSecond]
    dsimp only
    rw [commutes first second shape.symm]

theorem finish_eq_ok {metric : TransferMetric} {result : SyncRoundResult N}
    (finishes : shared.finish P side metric (shared.envelopeFor side.peer) = .ok result) :
    ∃ mine other, shared.reconstruct side = .ok mine ∧
      shared.decompress side (shared.orchestrator side.peer).update = .ok other ∧
      (shared.orchestrator side.peer).update.codec = (shared.orchestrator side).update.codec ∧
      Matching mine other ∧ ∀ name, result.averaged.get? name = shared.mean mine other name := by
  rw [finish, raiseIf_bind_eq_ok, not_not] at finishes
  simp only [bind_eq_ok] at finishes
  rcases finishes with ⟨codec, other, isOther, mine, isMine, _, matching, averaged, built, _, _, same⟩
  obtain rfl := Except.ok.inj same
  exact ⟨mine, other, isMine, decompress_eq_ok.mpr (decompress_eq_ok.mp isOther), codec,
    validateMatchingShapes_eq_ok.mp matching, mean_of_build built⟩

theorem CompatibleFrom.finishes {encoded : Bytes} (compatible : shared.CompatibleFrom side)
    (sends : shared.Sends P side.peer encoded) (metric : TransferMetric) :
    ∃ result, shared.finish P side metric (shared.envelopeFor side.peer) = .ok result := by
  rcases compatible with ⟨mine, other, isMine, isOther, codec, same⟩
  rcases decompress_eq_ok.mp isMine with ⟨mineCodec, _⟩
  rcases decompress_eq_ok.mp isOther with ⟨otherCodec, unpacked⟩
  have sameId : (shared.orchestrator side.peer).codecId = (shared.orchestrator side).codecId :=
    otherCodec.symm.trans (codec.trans mineCodec)
  rw [sameId] at otherCodec unpacked
  rcases @exists_build _ shared _ _ same with ⟨averaged, built⟩
  let result : SyncRoundResult N := {
    round := shared.number
    path := metric.path
    bytesSent := metric.bytes
    bytesReceived := encoded.length
    uncompressedBytes := (shared.orchestrator side).update.uncompressedBytes
    compressedBytes := (shared.orchestrator side).update.payload.length
    peerUpdate := other
    averaged
    transfer := metric }
  refine ⟨result, ?_⟩
  rw [finish]
  refine raiseIf_bind_eq_ok.mpr ⟨not_not.mpr codec, ?_⟩
  refine bind_eq_ok.mpr ⟨other, decompress_eq_ok.mpr ⟨otherCodec, unpacked⟩, ?_⟩
  refine bind_eq_ok.mpr ⟨mine, isMine, ?_⟩
  refine bind_eq_ok.mpr ⟨(), validateMatchingShapes_eq_ok.mpr same, ?_⟩
  refine bind_eq_ok.mpr ⟨averaged, built, ?_⟩
  exact bind_eq_ok.mpr ⟨encoded, sends, rfl⟩

theorem finish_both {metric peerMetric : TransferMetric} {result peerResult : SyncRoundResult N}
    (finishes : shared.finish P .left metric (shared.envelopeFor .right) = .ok result)
    (peerFinishes : shared.finish P .right peerMetric (shared.envelopeFor .left) = .ok peerResult) :
    ∃ left right, shared.reconstruct .left = .ok left ∧ shared.reconstruct .right = .ok right ∧
      (shared.orchestrator .right).update.codec = (shared.orchestrator .left).update.codec ∧
      Matching left right ∧
      (∀ name, result.averaged.get? name = shared.mean left right name) ∧
      ∀ name, peerResult.averaged.get? name = shared.mean right left name := by
  rcases @finish_eq_ok _ _ _ .left _ _ finishes with ⟨left, right, isLeft, isRight, codec, same, value⟩
  rcases @finish_eq_ok _ _ _ .right _ _ peerFinishes with
    ⟨ownRight, ownLeft, isOwnRight, isOwnLeft, _, _, peerValue⟩
  rcases decompress_eq_ok.mp isLeft with ⟨leftCodec, leftUnpacked⟩
  rcases decompress_eq_ok.mp isOwnRight with ⟨rightCodec, rightUnpacked⟩
  have sameId : (shared.orchestrator .right).codecId = (shared.orchestrator .left).codecId :=
    rightCodec.symm.trans (codec.trans leftCodec)
  have rightSame : ownRight = right := by
    rw [sameId] at rightUnpacked
    exact Except.ok.inj (rightUnpacked.symm.trans (decompress_eq_ok.mp isRight).2)
  have leftSame : ownLeft = left := by
    have unpacked := (decompress_eq_ok.mp isOwnLeft).2
    rw [sameId] at unpacked
    exact Except.ok.inj (unpacked.symm.trans leftUnpacked)
  rw [rightSame] at isOwnRight peerValue
  rw [leftSame] at peerValue
  exact ⟨left, right, isLeft, isOwnRight, codec, same, value, peerValue⟩

end SyncRound

namespace SyncState

variable {N : Numpy} {P : Platform} {shared : SyncRound N} {state after : SyncState N} {side : Side}

/-! ## Runs -/

def runCalls (P : Platform) (shared : SyncRound N) (state : SyncState N) (calls : List SyncCall) :
    SyncState N :=
  calls.foldl (perform P shared) state

/-- Neither call has begun, and nobody has heard of the two transfers or of the
round. -/
structure Fresh (shared : SyncRound N) (state : SyncState N) : Prop where
  ready : ∀ side, state.phase side = .ready
  quiet : ∀ side, state.wire side = []
  expects : ∀ side, Expects shared (state.mailbox side).inbox
  empty : ∀ side, (state.mailbox side).peerQueue = []
  unseen : ∀ side, ¬ Seen shared state side
  unannounced : ∀ side, state.bus.get? (shared.number, shared.workerOf side) = none
  unknown : ∀ side, Unknown shared state side

theorem Fresh.sound (fresh : Fresh shared state) : Sound P shared state := by
  constructor
  case sender =>
    intro side
    rw [fresh.ready side]
    exact fresh.unknown side
  case announced =>
    intro side
    rw [fresh.unannounced side, fresh.ready side]
    rfl
  case received =>
    intro side
    refine ⟨fresh.expects side, ?_, ?_, fun seen => absurd seen (fresh.unseen side)⟩
    · rw [fresh.quiet side]
      exact fun _ member => absurd member not_mem_nil
    · rw [fresh.empty side]
      exact fun _ member => absurd member not_mem_nil
  case outcome =>
    intro side
    rw [fresh.ready side]
    trivial

/-- Both calls of `send` have returned. -/
def Succeeded (state : SyncState N) : Prop :=
  ∀ side, (state.phase side).metric.isSome = true

/-- Both calls have returned, with the mean of the two updates. -/
def Agreed (shared : SyncRound N) (state : SyncState N) : Prop :=
  ∃ left right, shared.reconstruct .left = .ok left ∧ shared.reconstruct .right = .ok right ∧
    ∀ side, ∃ result, state.phase side = .returned result ∧
      ∀ name, result.averaged.get? name = shared.mean left right name

/-- The relay does not expire the transfer of the peer before it is read. -/
def Timely (shared : SyncRound N) (state : SyncState N) : SyncCall -> Prop
  | .relay side cleanedAt _ _ => ∀ encoded done, state.phase side = .relaying encoded ->
      state.relay.completed.get? (shared.transferOf side.peer) = some done ->
      ¬ state.relay.limits.ttlSeconds ≤ cleanedAt - done.completedAt
  | _ => True

/-! ## The transfers of a timely run -/

def Held (shared : SyncRound N) (state : SyncState N) : Prop :=
  ∀ side metric, (state.phase side).metric = some metric -> metric.path = .relay ->
    shared.transferOf side ∈ state.relay.completed.keys

theorem get?_cleaned_completed_of_live {store : BinaryRelayStore} {current : Rat} {id : String}
    {done : CompletedTransfer} (found : store.completed.get? id = some done)
    (live : ¬ store.limits.ttlSeconds ≤ current - done.completedAt) :
    (store.cleaned current).completed.get? id = some done := by
  change (store.completed.get? id).filter _ = some done
  rw [found, Option.filter_some, if_pos (decide_eq_true live)]

theorem absent_cleaned_of_expired {store : BinaryRelayStore} {current : Rat} {id : String}
    {done : CompletedTransfer} (found : store.completed.get? id = some done)
    (expired : store.limits.ttlSeconds ≤ current - done.completedAt) :
    (store.cleaned current).completed.get? id = none := by
  change (store.completed.get? id).filter _ = none
  rw [found, Option.filter_some, if_neg]
  rw [decide_eq_true_iff]
  exact not_not.mpr expired

variable {metric : TransferMetric} {call : SyncCall}

theorem SyncStep.metric_cases (step : SyncStep P shared state call after) {other : Side}
    (found : (after.phase other).metric = some metric) :
    (state.phase other).metric = some metric ∨
    (after.relay = state.relay ∧ metric.path = .direct) ∨
    ∃ encoded cleanedAt createdAt completedAt,
      call = .relay other cleanedAt createdAt completedAt ∧
      state.phase other = .relaying encoded := by
  -- the phase of one side is replaced
  have cases_update : ∀ side phase, after.phase = update state.phase side phase ->
      (phase.metric = some metric -> (state.phase side).metric = some metric) ->
      (state.phase other).metric = some metric := by
    intro side phase same given
    rw [same] at found
    rcases eq_or_ne other side with rfl | different
    · rw [update_self] at found
      exact given found
    · rw [update_of_ne different] at found
      exact found
  cases step with
  | kept => exact Or.inl found
  | @started side encoded isReady sends => exact Or.inl (cases_update side _ rfl nofun)
  | @refused side isReady error => exact Or.inl (cases_update side _ rfl nofun)
  | @accepted side encoded number isSending accepts =>
    rcases side.eq_or_eq_peer other with rfl | rfl
    · rw [setPhase_self] at found
      exact Or.inr (Or.inl ⟨rfl, congrArg TransferMetric.path (Option.some.inj found.symm)⟩)
    · rw [setPhase_peer] at found
      exact Or.inl found
  | @missed side encoded number reached isSending misses =>
    refine Or.inl (cases_update side _ rfl ?_)
    by_cases again : number < (shared.orchestrator side).maxRetries
    · rw [if_pos again]
      exact nofun
    · rw [if_neg again]
      exact nofun
  | @failed side encoded number isSending error => exact Or.inl (cases_update side _ rfl nofun)
  | @relayed side encoded cleanedAt createdAt completedAt isRelaying =>
    rcases side.eq_or_eq_peer other with rfl | rfl
    · exact Or.inr (Or.inr ⟨encoded, cleanedAt, createdAt, completedAt, rfl, isRelaying⟩)
    · exact Or.inl ((congrArg Phase.metric (setPhase_peer _).symm).trans found)
  | @published side own isSent =>
    refine Or.inl (cases_update side _ rfl ?_)
    rw [isSent]
    exact id
  | delivered => exact Or.inl found
  | @fetched side own mailbox fetched isListening arrived =>
    refine Or.inl (cases_update side _ rfl ?_)
    rw [isListening]
    cases finished : fetched >>= shared.finish P side own with
    | error error => exact id
    | ok result =>
      rcases bind_eq_ok.mp finished with ⟨envelope, _, finishes⟩
      intro same
      rw [← same]
      exact congrArg some (shared.transfer_of_finish finishes).symm

theorem SyncStep.held (step : SyncStep P shared state call after) (wellFormed : shared.WellFormed P)
    (sound : Sound P shared state) (timely : Timely shared state call) {other : Side}
    (known : (state.phase other).metric.isSome = true)
    (held : shared.transferOf other ∈ state.relay.completed.keys) :
    shared.transferOf other ∈ after.relay.completed.keys := by
  cases step with
  | @relayed side encoded cleanedAt createdAt completedAt isRelaying =>
    have relaying := sound.sender side
    rw [isRelaying] at relaying
    rcases side.eq_or_eq_peer other with rfl | rfl
    · rw [isRelaying] at known
      cases known
    · rcases exists_get?_of_mem held with ⟨done, found⟩
      have live := timely encoded done isRelaying found
      have kept := get?_cleaned_completed_of_live found live
      have different := wellFormed.transfers side
      have after : ∀ relay, (BinaryRelayStore.SameBut (shared.transferOf side) state.relay relay ∨
          BinaryRelayStore.SameBut (shared.transferOf side) (state.relay.cleaned cleanedAt) relay) ->
          shared.transferOf side.peer ∈ relay.completed.keys := by
        rintro relay (same | same)
        · exact mem_keys_of_get? ((same _ different).1.trans found)
        · exact mem_keys_of_get? ((same _ different).1.trans kept)
      rcases relay_cases wellFormed relaying cleanedAt createdAt completedAt with
        ⟨relay, transfers, _, same⟩ | ⟨error, relay, transfers, same⟩
      · rw [transfers]
        exact after relay (Or.inr same)
      · rw [transfers]
        exact after relay same
  | _ => exact held

theorem Held.perform (held : Held shared state) (wellFormed : shared.WellFormed P)
    (sound : Sound P shared state) (timely : Timely shared state call) :
    Held shared (state.perform P shared call) := by
  have step := step_perform P shared state call
  intro side metric found isRelay
  rcases step.metric_cases found with old | ⟨_, isDirect⟩ |
    ⟨encoded, cleanedAt, createdAt, completedAt, rfl, isRelaying⟩
  · have known : (state.phase side).metric.isSome = true := by
      rw [old]
      rfl
    exact step.held wellFormed sound timely known (held side metric old isRelay)
  · rw [isDirect] at isRelay
    cases isRelay
  · have relaying := sound.sender side
    rw [isRelaying] at relaying
    rw [SyncState.perform, relayTransfer, isRelaying] at found ⊢
    dsimp only at found ⊢
    rcases relay_cases wellFormed relaying cleanedAt createdAt completedAt with
      ⟨relay, transfers, stored, _⟩ | ⟨error, relay, transfers, _⟩
    · rw [transfers]
      exact mem_keys_of_get? stored
    · rw [setPhase_self, transfers] at found
      cases found

/-! ## A transfer that has expired -/

/-- The call of a side looks for a transfer that is over and no longer stored. -/
def Lost (shared : SyncRound N) (state : SyncState N) (side : Side) : Prop :=
  (∃ metric, metric.path = .relay ∧
    (state.phase side = .sent metric ∨ state.phase side = .listening metric ∨
      ∃ error, state.phase side = .raised metric error)) ∧
  (state.phase side.peer).metric.isSome = true ∧
  shared.transferOf side.peer ∉ state.relay.completed.keys

theorem Lost.perform (lost : Lost shared state side) (wellFormed : shared.WellFormed P)
    (sound : Sound P shared state) (call : SyncCall) :
    Lost shared (state.perform P shared call) side := by
  have step := step_perform P shared state call
  rcases lost with ⟨⟨metric, isRelay, phases⟩, known, absent⟩
  refine ⟨⟨metric, isRelay, ?_⟩, ?_, step.absent wellFormed sound side.peer known absent⟩
  · generalize state.perform P shared call = after at step
    -- the phase of another side is replaced
    have other : ∀ actor phase, actor ≠ side ->
        (update state.phase actor phase side = .sent metric ∨
          update state.phase actor phase side = .listening metric ∨
          ∃ error, update state.phase actor phase side = .raised metric error) := by
      intro actor phase different
      rw [update_of_ne different.symm]
      exact phases
    have excluded : ∀ {actor : Side} {phase : Phase N}, state.phase actor = phase ->
        phase.metric = none -> actor ≠ side := by
      rintro actor phase same nothing rfl
      rcases phases with sent | listening | ⟨error, raised⟩
      · rw [← same, sent] at nothing
        cases nothing
      · rw [← same, listening] at nothing
        cases nothing
      · rw [← same, raised] at nothing
        cases nothing
    cases step with
    | kept => exact phases
    | started isReady => exact other _ _ (excluded isReady rfl)
    | refused isReady => exact other _ _ (excluded isReady rfl)
    | accepted isSending => exact other _ _ (excluded isSending rfl)
    | missed isSending => exact other _ _ (excluded isSending rfl)
    | failed isSending => exact other _ _ (excluded isSending rfl)
    | relayed _ _ _ isRelaying => exact other _ _ (excluded isRelaying rfl)
    | @published actor own isSent =>
      rcases eq_or_ne actor side with rfl | different
      · dsimp only
        rw [setPhase_self]
        rcases phases with sent | listening | ⟨error, raised⟩
        · rw [isSent] at sent
          cases sent
          exact Or.inr (Or.inl rfl)
        · rw [isSent] at listening
          cases listening
        · rw [isSent] at raised
          cases raised
      · exact other _ _ different
    | delivered => exact phases
    | @fetched actor own mailbox fetched isListening arrived =>
      rcases eq_or_ne actor side with rfl | different
      · rw [setPhase_self]
        have same : own = metric := by
          rcases phases with sent | listening | ⟨error, raised⟩
          · rw [isListening] at sent
            cases sent
          · rw [isListening] at listening
            cases listening
            rfl
          · rw [isListening] at raised
            cases raised
        subst same
        rcases fetch_cases wellFormed sound arrived with ⟨_, stored⟩ | ⟨error, failed, _⟩
        · exact absurd (stored isRelay).1 absent
        · rw [failed]
          exact Or.inr (Or.inr ⟨error, rfl⟩)
      · exact other _ _ different
  · rcases Option.isSome_iff_exists.mp known with ⟨sent, found⟩
    rw [step.metric _ sent found]
    rfl

theorem lost_of_untimely (wellFormed : shared.WellFormed P) (sound : Sound P shared state)
    (late : ¬ Timely shared state call) :
    ∃ side, (∃ error, (state.perform P shared call).phase side = .unsent error) ∨
      Lost shared (state.perform P shared call) side := by
  cases call with
  | relay side cleanedAt createdAt completedAt =>
    simp only [Timely, not_forall, not_not] at late
    rcases late with ⟨encoded, done, isRelaying, found, expired⟩
    have relaying := sound.sender side
    rw [isRelaying] at relaying
    rw [SyncState.perform, relayTransfer, isRelaying]
    rcases relay_cases wellFormed relaying cleanedAt createdAt completedAt with
      ⟨relay, transfers, _, same⟩ | ⟨error, relay, transfers, _⟩
    · dsimp only
      rw [transfers]
      have peerSender := sound.sender side.peer
      have member := mem_keys_of_get? found
      have gone : shared.transferOf side.peer ∉ relay.completed.keys := by
        rw [← get?_eq_none_iff, (same _ (wellFormed.transfers side)).1]
        exact absent_cleaned_of_expired found expired
      -- the peer has used the store, so that its `send` is over
      cases peerPhase : state.phase side.peer with
      | ready =>
        rw [peerPhase] at peerSender
        exact absurd member peerSender.2
      | sending other number =>
        rw [peerPhase] at peerSender
        exact absurd member peerSender.1.2
      | relaying other =>
        rw [peerPhase] at peerSender
        exact absurd member peerSender.1.2
      | unsent error =>
        refine ⟨side.peer, Or.inl ⟨error, ?_⟩⟩
        exact (setPhase_peer _).trans peerPhase
      | _ =>
        refine ⟨side, Or.inr ⟨⟨_, ?_, Or.inl (setPhase_self _)⟩, ?_, gone⟩⟩
        · rfl
        · dsimp only
          rw [setPhase_peer, peerPhase]
          rfl
    · dsimp only
      rw [transfers]
      exact ⟨side, Or.inl ⟨error, setPhase_self _⟩⟩
  | _ => exact absurd trivial late

/-! ## The end of a run -/

theorem sound_runCalls (wellFormed : shared.WellFormed P) (sound : Sound P shared state)
    (calls : List SyncCall) : Sound P shared (runCalls P shared state calls) :=
  foldl_invariant sound (fun _ call sound => sound.perform wellFormed call)

theorem wire_of_settled (settled : Settled P shared state) (side : Side) : state.wire side = [] := by
  cases messages : state.wire side with
  | nil => rfl
  | cons first rest =>
    have same := congrArg (fun state : SyncState N => state.wire side) (settled (.deliver side 0))
    have delivers : (state.perform P shared (.deliver side 0)).wire side = rest := by
      rw [perform, deliver, messages]
      exact update_self _ _ _
    rw [delivers, messages] at same
    exact absurd same.symm (cons_ne_self first rest)

theorem announced_of_settled (settled : Settled P shared state) (succeeded : Succeeded state)
    (side : Side) : IsAnnounced (state.phase side) = true := by
  have sent := succeeded side
  cases isPhase : state.phase side with
  | sent metric =>
    have same := congrArg (fun state : SyncState N => state.phase side) (settled (.publish side))
    have publishes : (state.perform P shared (.publish side)).phase side = .listening metric := by
      rw [perform, publish, isPhase]
      exact setPhase_self _
    rw [publishes, isPhase] at same
    cases same
  | listening metric => rfl
  | returned result => rfl
  | raised metric error => rfl
  | _ =>
    rw [isPhase] at sent
    cases sent

theorem fetch_of_settled (settled : Settled P shared state)
    (isListening : state.phase side = .listening metric) :
    state.fetchPeerEnvelope P shared side metric = none := by
  cases arrived : state.fetchPeerEnvelope P shared side metric with
  | none => rfl
  | some pair =>
    have same := congrArg (fun state : SyncState N => IsFinished (state.phase side))
      (settled (.listen side))
    have finishes : IsFinished ((state.perform P shared (.listen side)).phase side) = true := by
      rw [perform, listen, isListening]
      dsimp only
      rw [arrived]
      dsimp only
      rw [setPhase_self]
      split
      · rfl
      · rfl
    rw [finishes, isListening] at same
    cases same

theorem sentBy_of_metric (sound : Sound P shared state)
    (found : (state.phase side).metric = some metric) : SentBy P shared state side metric := by
  have sender := sound.sender side
  cases isPhase : state.phase side with
  | sent own =>
    rw [isPhase] at found sender
    exact Option.some.inj found ▸ sender
  | listening own =>
    rw [isPhase] at found sender
    exact Option.some.inj found ▸ sender
  | returned result =>
    rw [isPhase] at found sender
    exact Option.some.inj found ▸ sender
  | raised own error =>
    rw [isPhase] at found sender
    exact Option.some.inj found ▸ sender
  | _ =>
    rw [isPhase] at found
    cases found

theorem path_eq_direct_iff (sound : Sound P shared state)
    (found : (state.phase side).metric = some metric) :
    metric.path = .direct ↔ shared.EndsDirect side := by
  have sent := (sentBy_of_metric sound found).2
  cases path : metric.path with
  | direct =>
    rw [path] at sent
    exact ⟨fun _ => sent.1, fun _ => rfl⟩
  | relay =>
    rw [path] at sent
    exact ⟨nofun, fun isDirect => absurd isDirect sent.1.not_endsDirect⟩

theorem finished_of_settled (sound : Sound P shared state) (settled : Settled P shared state) (succeeded : Succeeded state)
    (samePath : shared.EndsDirect side ↔ shared.EndsDirect side.peer) :
    IsFinished (state.phase side) = true := by
  have announced := announced_of_settled settled succeeded side
  cases isPhase : state.phase side with
  | listening metric =>
    have nothing := fetch_of_settled settled isPhase
    have found : (state.phase side).metric = some metric := by
      rw [isPhase]
      rfl
    rcases Option.isSome_iff_exists.mp (succeeded side.peer) with ⟨sent, isSent⟩
    cases path : metric.path with
    | direct =>
      -- the message has arrived, and was not taken before
      have peerDirect : sent.path = .direct := (path_eq_direct_iff sound isSent).mpr
        (samePath.mp ((path_eq_direct_iff sound found).mp path))
      have sentBy := (sentBy_of_metric sound isSent).2
      rw [peerDirect] at sentBy
      have reached := sentBy.2.2
      rw [Reaches, Side.peer_peer] at reached
      have seen := reached.resolve_left (not_not.mpr (wire_of_settled settled side))
      have waiting := (sound.received side).queued seen
      rw [isPhase] at waiting
      have filled := waiting.resolve_right nofun
      rw [fetchPeerEnvelope_direct path, waitPeerEnvelope] at nothing
      cases queue : (state.mailbox side).peerQueue with
      | nil => exact absurd queue filled
      | cons first rest =>
        rw [queue] at nothing
        cases nothing
    | relay =>
      have onBus := sound.announced side.peer
      rw [if_pos (announced_of_settled settled succeeded side.peer)] at onBus
      rw [fetchPeerEnvelope_relay path, downloadPeerEnvelope, onBus] at nothing
      cases nothing
  | returned result => rfl
  | raised metric error => rfl
  | _ =>
    rw [isPhase] at announced
    cases announced

theorem returned_of_finished (sound : Sound P shared state) (held : Held shared state) (succeeded : Succeeded state) (compatible : shared.Compatible)
    (samePath : shared.EndsDirect side ↔ shared.EndsDirect side.peer)
    (finished : IsFinished (state.phase side) = true) :
    ∃ result, state.phase side = .returned result := by
  have outcome := sound.outcome side
  cases isPhase : state.phase side with
  | returned result => exact ⟨result, rfl⟩
  | raised metric error =>
    rw [isPhase] at outcome
    rcases Option.isSome_iff_exists.mp (succeeded side.peer) with ⟨sent, isSent⟩
    rcases (sentBy_of_metric sound isSent).1 with ⟨encoded, sends⟩
    rcases outcome with fails | ⟨isRelay, _, absent⟩
    · rcases (compatible.from side).finishes sends metric with ⟨result, finishes⟩
      rw [finishes] at fails
      cases fails
    · have found : (state.phase side).metric = some metric := by
        rw [isPhase]
        rfl
      have peerRelay : sent.path = .relay := by
        cases path : sent.path with
        | relay => rfl
        | direct =>
          have isDirect := (path_eq_direct_iff sound found).mpr
            (samePath.mpr ((path_eq_direct_iff sound isSent).mp path))
          rw [isRelay] at isDirect
          cases isDirect
      exact absurd (held side.peer sent isSent peerRelay) absent
  | _ =>
    rw [isPhase] at finished
    cases finished

theorem endsDirect_of_returned {result peerResult : SyncRoundResult N} (sound : Sound P shared state)
    (returned : state.phase side = .returned result)
    (peerReturned : state.phase side.peer = .returned peerResult)
    (isDirect : shared.EndsDirect side) : shared.EndsDirect side.peer := by
  have found : (state.phase side).metric = some result.transfer := by
    rw [returned]
    rfl
  have peerFound : (state.phase side.peer).metric = some peerResult.transfer := by
    rw [peerReturned]
    rfl
  refine (path_eq_direct_iff sound peerFound).mp ?_
  cases path : peerResult.transfer.path with
  | direct => rfl
  | relay =>
    have outcome := sound.outcome side.peer
    rw [peerReturned] at outcome
    rcases outcome.2 path with ⟨metric, isMetric, isRelay⟩
    rw [Side.peer_peer, found] at isMetric
    obtain rfl := Option.some.inj isMetric
    rw [(path_eq_direct_iff sound found).mpr isDirect] at isRelay
    cases isRelay

/-- Every call that does something leaves less work.  When both sends of a
settled run have succeeded, both calls have returned with the mean of the two
updates exactly when both envelopes went the same way, the updates are
compatible, and no relay transfer was begun when that of the peer had expired. -/
theorem round_agrees_iff (P : Platform) (shared : SyncRound N) (start : SyncState N)
    (wellFormed : shared.WellFormed P)
    (commutes : ∀ first second, N.shape first = N.shape second ->
      N.add first second = N.add second first)
    (fresh : Fresh shared start) :
    (∀ state call, state.perform P shared call = state ∨
      work shared (state.perform P shared call) < work shared state) ∧
    ∀ calls, Succeeded (runCalls P shared start calls) ->
      Settled P shared (runCalls P shared start calls) ->
      (Agreed shared (runCalls P shared start calls) ↔
        (shared.EndsDirect .left ↔ shared.EndsDirect .right) ∧ shared.Compatible ∧
          Meets (perform P shared) (Timely shared) start calls) := by
  refine ⟨fun state call => (step_perform P shared state call).work, ?_⟩
  intro calls succeeded settled
  have sound := sound_runCalls wellFormed (@Fresh.sound _ P _ _ fresh) calls
  constructor
  · rintro ⟨left, right, _, _, agreed⟩
    rcases agreed .left with ⟨leftResult, leftReturned, _⟩
    rcases agreed .right with ⟨rightResult, rightReturned, _⟩
    refine ⟨⟨endsDirect_of_returned sound leftReturned rightReturned,
      endsDirect_of_returned sound rightReturned leftReturned⟩, ?_, ?_⟩
    · have leftOutcome := sound.outcome .left
      have rightOutcome := sound.outcome .right
      rw [leftReturned] at leftOutcome
      rw [rightReturned] at rightOutcome
      rcases SyncRound.finish_both leftOutcome.1 rightOutcome.1 with
        ⟨mine, other, isMine, isOther, codec, same, _⟩
      exact ⟨mine, other, isMine, isOther, codec, same⟩
    · by_contra late
      rcases exists_of_not_meets late with ⟨front, call, back, split, broken⟩
      have ends : runCalls P shared start calls =
          back.foldl (perform P shared) ((runCalls P shared start front).perform P shared call) := by
        rw [split, runCalls, foldl_append, foldl_cons]
        rfl
      have before := sound_runCalls wellFormed (@Fresh.sound _ P _ _ fresh) front
      rcases lost_of_untimely wellFormed before broken with ⟨side, ⟨error, failed⟩ | lost⟩
      · have stays : (runCalls P shared start calls).phase side = .unsent error := by
          rw [ends]
          exact @foldl_invariant _ _ _ _ _ (fun state : SyncState N => state.phase side = .unsent error) failed
            (fun _ call unsent => (step_perform P shared _ call).unsent unsent)
        have sent := succeeded side
        rw [stays] at sent
        cases sent
      · have stays : Lost shared (runCalls P shared start calls) side := by
          rw [ends]
          exact (@foldl_invariant _ _ _ _ _ (fun state => Sound P shared state ∧ Lost shared state side)
            ⟨before.perform wellFormed call, lost⟩
            (fun _ call both => ⟨both.1.perform wellFormed call,
              both.2.perform wellFormed both.1 call⟩)).2
        rcases stays.1 with ⟨metric, _, phases⟩
        rcases agreed side with ⟨result, returned, _⟩
        rw [returned] at phases
        rcases phases with sent | listening | ⟨error, raised⟩
        · cases sent
        · cases listening
        · cases raised
  · rintro ⟨samePath, compatible, timely⟩
    have nothing : Held shared start := by
      intro side metric found
      rw [fresh.ready side] at found
      cases found
    have held : Held shared (runCalls P shared start calls) :=
      (@Meets.invariant _ _ _ _ _ _ (fun state => Sound P shared state ∧ Held shared state) timely
        ⟨fresh.sound, nothing⟩ (fun _ call both now => ⟨both.1.perform wellFormed call,
          both.2.perform wellFormed both.1 now⟩)).2
    have ended : ∀ side, (shared.EndsDirect side ↔ shared.EndsDirect side.peer) ->
        ∃ result, (runCalls P shared start calls).phase side = .returned result := by
      intro side same
      have finished := finished_of_settled sound settled succeeded same
      exact returned_of_finished sound held succeeded compatible same finished
    rcases ended .left samePath with ⟨leftResult, leftReturned⟩
    rcases ended .right samePath.symm with ⟨rightResult, rightReturned⟩
    have leftOutcome := sound.outcome .left
    have rightOutcome := sound.outcome .right
    rw [leftReturned] at leftOutcome
    rw [rightReturned] at rightOutcome
    rcases SyncRound.finish_both leftOutcome.1 rightOutcome.1 with
      ⟨left, right, isLeft, isRight, _, same, leftMean, rightMean⟩
    refine ⟨left, right, isLeft, isRight, ?_⟩
    intro side
    cases side with
    | left => exact ⟨leftResult, leftReturned, leftMean⟩
    | right =>
      refine ⟨rightResult, rightReturned, fun name => ?_⟩
      rw [rightMean name, SyncRound.mean_comm commutes same name]

/-! ## Two rounds -/

def sampleOrchestrator (worker transfer : Uuid) (payload : Bytes) (attempt : Attempt) :
    SyncOrchestrator where
  workerId := platform.strOfUuid worker
  codecId := "none"
  maxRetries := 0
  chunkSize := 128
  one_le_chunkSize := by decide
  update := ⟨"none", payload, 4⟩
  transferId := platform.strOfUuid transfer
  timestampNs := 1700000000000000000
  attempts := fun _ => attempt

/-- The first worker can always send directly, the second one as given. -/
def sampleRound (second : Attempt) : SyncRound numpy where
  roomId := platform.strOfUuid roomId
  runId := platform.strOfUuid runId
  number := 1
  orchestrator := fun side =>
    match side with
    | .left => sampleOrchestrator firstWorker firstTransfer packedOne
        .accepted
    | .right => sampleOrchestrator secondWorker roomId packedTwo second
  unpack := compressor.decompress
  half := (1 / 2 : Rat)

def sampleStart : SyncState numpy where
  phase := fun _ => .ready
  mailbox := fun _ => { inbox := {
    roomId := platform.strOfUuid roomId
    runId := platform.strOfUuid runId } }
  wire := fun _ => []
  bus := Dict.empty
  relay := BinaryRelayStore.new BinaryRelayStore.sampleLimits

theorem sampleRound_wellFormed (second : Attempt) : (sampleRound second).WellFormed platform := by
  constructor
  case canonical =>
    rintro (_ | _) text member
    · simp only [SyncRound.envelopeFor, sampleRound, sampleOrchestrator, mem_cons,
        not_mem_nil, or_false] at member
      rcases member with rfl | rfl | rfl | rfl
      all_goals exact ⟨_, rfl⟩
    · simp only [SyncRound.envelopeFor, sampleRound, sampleOrchestrator, mem_cons,
        not_mem_nil, or_false] at member
      rcases member with rfl | rfl | rfl | rfl
      all_goals exact ⟨_, rfl⟩
  case positive =>
    have epoch : (0 : Int) < 1700000000000000000 := by decide
    rintro (_ | _)
    · exact epoch
    · exact epoch
  case named =>
    have named : ∀ id, platform.strOfUuid id ≠ "" := fun id empty => by
      have length := Ledger.Reference.length_strOfUuid id
      rw [show Ledger.Reference.strOfUuid id = "" from empty] at length
      cases length
    rintro (_ | _)
    · exact named _
    · exact named _
  case workers =>
    rintro (_ | _) same
    · exact absurd (platform.strOfUuid_injective same) (by decide)
    · exact absurd (platform.strOfUuid_injective same) (by decide)
  case transfers =>
    rintro (_ | _) same
    · exact absurd (platform.strOfUuid_injective same) (by decide)
    · exact absurd (platform.strOfUuid_injective same) (by decide)

theorem sampleStart_fresh (second : Attempt) : Fresh (sampleRound second) sampleStart where
  ready := fun _ => rfl
  quiet := fun _ => rfl
  expects := fun _ => ⟨rfl, rfl, rfl⟩
  empty := fun _ => rfl
  unseen := fun _ => not_mem_nil
  unannounced := fun _ => rfl
  unknown := fun _ => ⟨not_mem_nil, not_mem_nil⟩

theorem elementwise_comm (first second : List Rat) (_ : numpy.shape first = numpy.shape second) :
    numpy.add first second = numpy.add second first := by
  change elementwise (· + ·) first second = elementwise (· + ·) second first
  rw [elementwise, elementwise, zipWith_comm_of_comm Rat.add_comm]
  by_cases same : first.length = second.length
  · rw [if_pos same, if_pos same.symm]
  · rw [if_neg same, if_neg (fun other => same other.symm)]

/-- The second worker cannot reach the first one directly. -/
def mixedRound : SyncRound numpy :=
  sampleRound (.unavailable false)

def mixedCalls : List SyncCall :=
  [.start .left, .start .right, .attempt .left, .attempt .right, .relay .right 0 0 0, .publish .left,
    .publish .right, .deliver .right 0, .listen .left, .listen .right]

def IsWaiting (P : Platform) (shared : SyncRound N) (state : SyncState N) (side : Side) : Bool :=
  match state.phase side with
  | .listening metric => (state.fetchPeerEnvelope P shared side metric).isNone
  | _ => false

theorem settled_of_waiting (quiet : ∀ side, state.wire side = [])
    (ends : ∀ side, IsFinished (state.phase side) = true ∨ IsWaiting P shared state side = true) :
    Settled P shared state := by
  have phases : ∀ side, (∃ metric, state.phase side = .listening metric ∧
      state.fetchPeerEnvelope P shared side metric = none) ∨
      (∃ result, state.phase side = .returned result) ∨
      ∃ metric error, state.phase side = .raised metric error := by
    intro side
    have ended := ends side
    rw [IsWaiting] at ended
    cases isPhase : state.phase side with
    | listening metric =>
      rw [isPhase] at ended
      exact Or.inl ⟨metric, rfl, Option.isNone_iff_eq_none.mp (ended.resolve_left nofun)⟩
    | returned result => exact Or.inr (Or.inl ⟨result, rfl⟩)
    | raised metric error => exact Or.inr (Or.inr ⟨metric, error, rfl⟩)
    | _ =>
      rw [isPhase] at ended
      rcases ended with ended | ended
      · cases ended
      · cases ended
  intro call
  cases call with
  | deliver side index =>
    rw [perform, deliver, quiet side]
    rfl
  | start side =>
    rw [perform, SyncState.start]
    rcases phases side with ⟨_, same, _⟩ | ⟨_, same⟩ | ⟨_, _, same⟩
    · rw [same]
    · rw [same]
    · rw [same]
  | attempt side =>
    rw [perform, attempt]
    rcases phases side with ⟨_, same, _⟩ | ⟨_, same⟩ | ⟨_, _, same⟩
    · rw [same]
    · rw [same]
    · rw [same]
  | relay side cleanedAt createdAt completedAt =>
    rw [perform, relayTransfer]
    rcases phases side with ⟨_, same, _⟩ | ⟨_, same⟩ | ⟨_, _, same⟩
    · rw [same]
    · rw [same]
    · rw [same]
  | publish side =>
    rw [perform, publish]
    rcases phases side with ⟨_, same, _⟩ | ⟨_, same⟩ | ⟨_, _, same⟩
    · rw [same]
    · rw [same]
    · rw [same]
  | listen side =>
    rw [perform, listen]
    rcases phases side with ⟨_, same, nothing⟩ | ⟨_, same⟩ | ⟨_, _, same⟩
    · rw [same]
      dsimp only
      rw [nothing]
    · rw [same]
    · rw [same]

def directCalls : List SyncCall :=
  [.start .left, .start .right, .attempt .left, .attempt .right, .deliver .left 0, .publish .left,
    .publish .right, .deliver .right 0, .listen .left, .listen .right]

/-- Two direct sends, of which one message arrives before and one after the announcements. -/
theorem direct_round_agrees :
    Agreed (sampleRound .accepted)
      (runCalls platform (sampleRound .accepted) sampleStart directCalls) := by
  have evaluated : ∀ side,
      IsFinished ((runCalls platform (sampleRound .accepted) sampleStart
        directCalls).phase side) = true ∧
      ((runCalls platform (sampleRound .accepted) sampleStart
        directCalls).phase side).metric.isSome = true ∧
      (runCalls platform (sampleRound .accepted) sampleStart directCalls).wire side = [] := by
    rintro (_ | _)
    · decide +kernel
    · decide +kernel
  have direct : ∀ side, (sampleRound .accepted).EndsDirect side := by
    rintro (_ | _)
    · exact ⟨0, Nat.le_refl 0, rfl, fun _ below => absurd below (Nat.not_lt_zero _)⟩
    · exact ⟨0, Nat.le_refl 0, rfl, fun _ below => absurd below (Nat.not_lt_zero _)⟩
  refine ((round_agrees_iff platform (sampleRound .accepted) sampleStart
    (sampleRound_wellFormed _) elementwise_comm (sampleStart_fresh _)).2 directCalls
    (fun side => (evaluated side).2.1)
    (settled_of_waiting (fun side => (evaluated side).2.2)
      (fun side => Or.inl (evaluated side).1))).mpr ⟨?_, ?_, ?_⟩
  · exact iff_of_true (direct .left) (direct .right)
  · refine ⟨tensors 1, tensors 2, ?_, ?_, rfl, ?_⟩
    · rfl
    · rfl
    · intro name
      rw [tensors, tensors]
      rcases eq_or_ne name "w" with rfl | different
      · rw [get?_set_self, get?_set_self]
        rfl
      · rw [get?_set_of_ne different, get?_set_of_ne different]
  · exact ⟨trivial, trivial, trivial, trivial, trivial, trivial, trivial, trivial, trivial, trivial,
      trivial⟩

/-- The first worker has sent directly, the second one over the relay store.
The first one waits for a message that nobody sends, and the second one does
not find what was never uploaded. -/
theorem mixed_round_disagrees :
    Succeeded (runCalls platform mixedRound sampleStart mixedCalls) ∧
    Settled platform mixedRound
      (runCalls platform mixedRound sampleStart mixedCalls) ∧
    ¬ Agreed mixedRound (runCalls platform mixedRound sampleStart mixedCalls) := by
  have evaluated :
      (IsWaiting platform mixedRound (runCalls platform mixedRound sampleStart
        mixedCalls) .left = true ∧
      IsFinished ((runCalls platform mixedRound sampleStart mixedCalls).phase .left) =
        false ∧
      IsFinished ((runCalls platform mixedRound sampleStart mixedCalls).phase .right) =
        true) ∧
      ∀ side, ((runCalls platform mixedRound sampleStart mixedCalls).phase
          side).metric.isSome = true ∧
        (runCalls platform mixedRound sampleStart mixedCalls).wire side = [] := by
    refine ⟨by decide +kernel, ?_⟩
    rintro (_ | _)
    · decide +kernel
    · decide +kernel
  rcases evaluated with ⟨⟨waits, unfinished, finished⟩, both⟩
  refine ⟨fun side => (both side).1, settled_of_waiting (fun side => (both side).2) ?_, ?_⟩
  · rintro (_ | _)
    · exact Or.inr waits
    · exact Or.inl finished
  · rintro ⟨_, _, _, _, agreed⟩
    rcases agreed .left with ⟨result, returned, _⟩
    rw [returned] at unfinished
    cases unfinished

end SyncState

end Training
end ZepGpu
