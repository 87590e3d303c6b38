import ZepGpu.Training.Sync

namespace ZepGpu
namespace Training

open Function Foundation

/-!
# The steps of a round

One relation lists what a call can do.  A call that does something uses up some
of the work that the round has left, so that no order of the calls goes on for
ever, and no call takes back that something has been sent.
-/

namespace SyncRound

variable {N : Numpy}

def Sends (P : Platform) (shared : SyncRound N) (side : Side) (encoded : Bytes) : Prop :=
  (shared.envelopeFor side).encode P = .ok encoded

/-- The direct attempts before this one leave the sender without an answer. -/
def Missed (shared : SyncRound N) (side : Side) (count : Nat) : Prop :=
  ∀ number, number < count ->
    ∃ reached, (shared.orchestrator side).attempts number = .unavailable reached

/-- The first attempt that is answered is accepted, within the retries. -/
def EndsDirect (shared : SyncRound N) (side : Side) : Prop :=
  ∃ number, number ≤ (shared.orchestrator side).maxRetries ∧
    (shared.orchestrator side).attempts number = .accepted ∧ shared.Missed side number

/-- Identifiers as `str(uuid)` writes them, and two workers with a transfer each. -/
structure WellFormed (P : Platform) (shared : SyncRound N) : Prop where
  canonical : ∀ side, (shared.envelopeFor side).Canonical P
  positive : ∀ side, 0 < (shared.orchestrator side).timestampNs
  named : ∀ side, shared.workerOf side ≠ ""
  workers : ∀ side, shared.workerOf side.peer ≠ shared.workerOf side
  transfers : ∀ side, shared.transferOf side.peer ≠ shared.transferOf side

theorem Missed.not_endsDirect {shared : SyncRound N} {side : Side}
    (missed : shared.Missed side ((shared.orchestrator side).maxRetries + 1)) :
    ¬ shared.EndsDirect side := by
  rintro ⟨number, few, accepts, _⟩
  rcases missed number (Nat.lt_succ_of_le few) with ⟨reached, misses⟩
  rw [accepts] at misses
  cases misses

theorem Missed.succ {shared : SyncRound N} {side : Side} {number : Nat} {reached : Bool}
    (missed : shared.Missed side number)
    (misses : (shared.orchestrator side).attempts number = .unavailable reached) :
    shared.Missed side (number + 1) := by
  intro other before
  rcases Nat.lt_succ_iff_lt_or_eq.mp before with earlier | rfl
  · exact missed other earlier
  · exact ⟨reached, misses⟩

theorem transfer_of_finish {P : Platform} (shared : SyncRound N) {side : Side}
    {metric : TransferMetric} {envelope : BinaryEnvelope} {result : SyncRoundResult N}
    (finishes : shared.finish P side metric envelope = .ok result) : result.transfer = metric := by
  simp only [finish, bind_eq_ok] at finishes
  rcases finishes with ⟨_, _, _, _, _, _, _, _, _, _, _, _, same⟩
  obtain rfl := Except.ok.inj same
  rfl

end SyncRound

namespace SyncState

variable {N : Numpy} {P : Platform} {shared : SyncRound N} {state after : SyncState N} {side : Side}

/-! ## What a call can do -/

/-- What a step does to the state. -/
inductive SyncStep (P : Platform) (shared : SyncRound N) (state : SyncState N) :
    SyncCall -> SyncState N -> Prop
  | kept (call : SyncCall) : SyncStep P shared state call state
  | started {side : Side} {encoded : Bytes} (isReady : state.phase side = .ready)
      (sends : shared.Sends P side encoded) :
      SyncStep P shared state (.start side) (state.setPhase side (.sending encoded 0))
  | refused {side : Side} (isReady : state.phase side = .ready) (error : TrainingError) :
      SyncStep P shared state (.start side) (state.setPhase side (.unsent error))
  | accepted {side : Side} {encoded : Bytes} {number : Nat}
      (isSending : state.phase side = .sending encoded number)
      (accepts : (shared.orchestrator side).attempts number = .accepted) :
      SyncStep P shared state (.attempt side)
        ((state.setWire side.peer (state.wire side.peer ++ [encoded])).setPhase side
          (.sent ⟨shared.transferOf side, .direct, encoded.length, number⟩))
  | missed {side : Side} {encoded : Bytes} {number : Nat} {reached : Bool}
      (isSending : state.phase side = .sending encoded number)
      (misses : (shared.orchestrator side).attempts number = .unavailable reached) :
      SyncStep P shared state (.attempt side)
        ((state.setWire side.peer (state.wire side.peer ++ if reached then [encoded] else [])).setPhase
          side (if number < (shared.orchestrator side).maxRetries then .sending encoded (number + 1)
            else .relaying encoded))
  | failed {side : Side} {encoded : Bytes} {number : Nat}
      (isSending : state.phase side = .sending encoded number) (error : TrainingError) :
      SyncStep P shared state (.attempt side) (state.setPhase side (.unsent error))
  | relayed {side : Side} {encoded : Bytes} (cleanedAt createdAt completedAt : Rat)
      (isRelaying : state.phase side = .relaying encoded) :
      SyncStep P shared state (.relay side cleanedAt createdAt completedAt)
        { state.setPhase side
            (match (state.relay.transfer P (shared.orchestrator side).chunkSize
              (shared.envelopeFor side) (shared.workerOf side.peer) cleanedAt createdAt
              completedAt).result with
            | .error error => .unsent error
            | .ok () => .sent ⟨shared.transferOf side, .relay, encoded.length,
                (shared.orchestrator side).maxRetries⟩) with
          relay := (state.relay.transfer P (shared.orchestrator side).chunkSize
            (shared.envelopeFor side) (shared.workerOf side.peer) cleanedAt createdAt
            completedAt).state }
  | published {side : Side} {metric : TransferMetric} (isSent : state.phase side = .sent metric) :
      SyncStep P shared state (.publish side) { state.setPhase side (.listening metric) with
        bus := state.bus.set (shared.number, shared.workerOf side) (shared.transferOf side) }
  | delivered {side : Side} {index : Nat} {encoded : Bytes}
      (message : (state.wire side)[index]? = some encoded) :
      SyncStep P shared state (.deliver side index)
        ((state.setWire side ((state.wire side).eraseIdx index)).setMailbox side
          (receiveEncoded P shared side (state.mailbox side) encoded).state)
  | fetched {side : Side} {metric : TransferMetric} {mailbox : Mailbox}
      {fetched : Except TrainingError BinaryEnvelope}
      (isListening : state.phase side = .listening metric)
      (arrived : state.fetchPeerEnvelope P shared side metric = some (mailbox, fetched)) :
      SyncStep P shared state (.listen side) ((state.setMailbox side mailbox).setPhase side
        (match fetched >>= shared.finish P side metric with
        | .error error => .raised metric error
        | .ok result => .returned result))

theorem step_perform (P : Platform) (shared : SyncRound N) (state : SyncState N) (call : SyncCall) :
    SyncStep P shared state call (state.perform P shared call) := by
  cases call with
  | start side =>
    rw [perform, start]
    cases isReady : state.phase side with
    | ready =>
      dsimp only
      cases encodes : (shared.envelopeFor side).encode P with
      | error error => exact .refused isReady error
      | ok encoded => exact .started isReady encodes
    | _ => exact .kept _
  | attempt side =>
    rw [perform, attempt]
    cases isSending : state.phase side with
    | sending encoded number =>
      dsimp only
      cases outcome : (shared.orchestrator side).attempts number with
      | accepted => exact .accepted isSending outcome
      | unavailable reached => exact .missed isSending outcome
      | failed error => exact .failed isSending error
    | _ => exact .kept _
  | relay side cleanedAt createdAt completedAt =>
    rw [perform, relayTransfer]
    cases isRelaying : state.phase side with
    | relaying encoded => exact .relayed cleanedAt createdAt completedAt isRelaying
    | _ => exact .kept _
  | publish side =>
    rw [perform, publish]
    cases isSent : state.phase side with
    | sent metric => exact .published isSent
    | _ => exact .kept _
  | deliver side index =>
    rw [perform, deliver]
    cases message : (state.wire side)[index]? with
    | none => exact .kept _
    | some encoded => exact .delivered message
  | listen side =>
    rw [perform, listen]
    cases isListening : state.phase side with
    | listening metric =>
      dsimp only
      cases arrived : state.fetchPeerEnvelope P shared side metric with
      | none => exact .kept _
      | some pair => exact .fetched isListening arrived
    | _ => exact .kept _

/-! ## The work that is left -/

/-- A direct attempt costs more than the message that it may send. -/
def phaseWork (maxRetries : Nat) : Phase N -> Nat
  | .ready => 2 * maxRetries + 6
  | .sending _ number => 2 * (maxRetries - number) + 5
  | .relaying _ => 3
  | .sent _ => 2
  | .listening _ => 1
  | .unsent _ | .returned _ | .raised _ _ => 0

def workOf (shared : SyncRound N) (state : SyncState N) (side : Side) : Nat :=
  phaseWork (shared.orchestrator side).maxRetries (state.phase side) + (state.wire side).length

def work (shared : SyncRound N) (state : SyncState N) : Nat :=
  workOf shared state .left + workOf shared state .right

theorem setPhase_self (phase : Phase N) : (state.setPhase side phase).phase side = phase :=
  update_self _ _ _

theorem setPhase_peer (phase : Phase N) :
    (state.setPhase side phase).phase side.peer = state.phase side.peer :=
  update_of_ne side.peer_ne _ _

theorem setPhase_wire (phase : Phase N) : (state.setPhase side phase).wire = state.wire :=
  rfl

theorem setMailbox_wire (mailbox : Mailbox) : (state.setMailbox side mailbox).wire = state.wire :=
  rfl

theorem setWire_self (messages : List Bytes) : (state.setWire side messages).wire side = messages :=
  update_self _ _ _

theorem setWire_peer (messages : List Bytes) :
    (state.setWire side.peer messages).wire side = state.wire side :=
  update_of_ne side.peer_ne.symm _ _

theorem setWire_other (messages : List Bytes) :
    (state.setWire side messages).wire side.peer = state.wire side.peer :=
  update_of_ne side.peer_ne _ _

theorem work_lt (samePeer : after.phase side.peer = state.phase side.peer)
    (less : workOf shared after side + (after.wire side.peer).length <
      workOf shared state side + (state.wire side.peer).length) :
    work shared after < work shared state := by
  cases side with
  | left =>
    unfold work workOf at *
    rw [show after.phase .right = state.phase .right from samePeer]
    change _ + (after.wire .right).length < _ + (state.wire .right).length at less
    omega
  | right =>
    unfold work workOf at *
    rw [show after.phase .left = state.phase .left from samePeer]
    change _ + (after.wire .left).length < _ + (state.wire .left).length at less
    omega

theorem SyncStep.work {call : SyncCall} (step : SyncStep P shared state call after) :
    after = state ∨ work shared after < work shared state := by
  cases step with
  | kept => exact Or.inl rfl
  | @started side encoded isReady sends =>
    refine Or.inr (@work_lt _ _ _ _ side (setPhase_peer _) ?_)
    rw [workOf, workOf, setPhase_self, isReady, phaseWork, phaseWork, setPhase_wire]
    omega
  | @refused side isReady error =>
    refine Or.inr (@work_lt _ _ _ _ side (setPhase_peer _) ?_)
    rw [workOf, workOf, setPhase_self, isReady, phaseWork, phaseWork, setPhase_wire]
    omega
  | @accepted side encoded number isSending accepts =>
    refine Or.inr (@work_lt _ _ _ _ side (setPhase_peer _) ?_)
    rw [workOf, workOf, setPhase_self, isSending, phaseWork, phaseWork, setPhase_wire,
      setWire_self, setWire_peer, List.length_append, List.length_singleton]
    omega
  | @missed side encoded number reached isSending misses =>
    refine Or.inr (@work_lt _ _ _ _ side (setPhase_peer _) ?_)
    have most : (if reached then [encoded] else ([] : List Bytes)).length ≤ 1 := by
      cases reached with
      | false => exact Nat.zero_le 1
      | true => exact le_refl 1
    rw [workOf, workOf, setPhase_self, isSending, phaseWork, setPhase_wire, setWire_self,
      setWire_peer, List.length_append]
    by_cases few : number < (shared.orchestrator side).maxRetries
    · rw [if_pos few, phaseWork]
      omega
    · rw [if_neg few, phaseWork]
      omega
  | @failed side encoded number isSending error =>
    refine Or.inr (@work_lt _ _ _ _ side (setPhase_peer _) ?_)
    rw [workOf, workOf, setPhase_self, isSending, phaseWork, phaseWork, setPhase_wire]
    omega
  | @relayed side encoded cleanedAt createdAt completedAt isRelaying =>
    refine Or.inr (@work_lt _ _ _ _ side (setPhase_peer _) ?_)
    rw [workOf, workOf]
    dsimp only
    rw [setPhase_self, isRelaying, phaseWork, setPhase_wire]
    cases (state.relay.transfer P (shared.orchestrator side).chunkSize (shared.envelopeFor side)
      (shared.workerOf side.peer) cleanedAt createdAt completedAt).result with
    | error error =>
      rw [phaseWork]
      omega
    | ok done =>
      rw [phaseWork]
      omega
  | @published side metric isSent =>
    refine Or.inr (@work_lt _ _ _ _ side (setPhase_peer _) ?_)
    rw [workOf, workOf]
    dsimp only
    rw [setPhase_self, isSent, phaseWork, phaseWork, setPhase_wire]
    omega
  | @delivered side index encoded message =>
    refine Or.inr (@work_lt _ _ _ _ side rfl ?_)
    rcases List.getElem?_eq_some_iff.mp message with ⟨below, _⟩
    rw [workOf, workOf, setMailbox_wire, setWire_self, setWire_other, List.length_eraseIdx,
      if_pos below]
    change phaseWork _ (state.phase side) + _ + _ < _
    omega
  | @fetched side metric mailbox fetched isListening arrived =>
    refine Or.inr (@work_lt _ _ _ _ side (setPhase_peer _) ?_)
    rw [workOf, workOf, setPhase_self, isListening, phaseWork, setPhase_wire, setMailbox_wire]
    cases fetched >>= shared.finish P side metric with
    | error error =>
      rw [phaseWork]
      omega
    | ok result =>
      rw [phaseWork]
      omega

/-! ## How phases change -/

/-- The order in which a side goes through its phases. -/
inductive Advances : Phase N -> Phase N -> Prop
  | sending {old : Phase N} (new : Phase N) (unfinished : old.metric = none)
      (running : ∀ error, old ≠ .unsent error) : Advances old new
  | announced (metric : TransferMetric) : Advances (.sent metric) (.listening metric)
  | returned (result : SyncRoundResult N) : Advances (.listening result.transfer) (.returned result)
  | raised (metric : TransferMetric) (error : TrainingError) :
      Advances (.listening metric) (.raised metric error)

theorem SyncStep.advances {call : SyncCall} (step : SyncStep P shared state call after) :
    after.phase = state.phase ∨ ∃ actor phase,
      after.phase = update state.phase actor phase ∧ Advances (state.phase actor) phase := by
  cases step with
  | kept => exact Or.inl rfl
  | @started side encoded isReady sends =>
    exact Or.inr ⟨side, _, rfl, .sending _ (by rw [isReady]; rfl) (by rw [isReady]; exact nofun)⟩
  | @refused side isReady error =>
    exact Or.inr ⟨side, _, rfl, .sending _ (by rw [isReady]; rfl) (by rw [isReady]; exact nofun)⟩
  | @accepted side encoded number isSending accepts =>
    exact Or.inr ⟨side, _, rfl, .sending _ (by rw [isSending]; rfl) (by rw [isSending]; exact nofun)⟩
  | @missed side encoded number reached isSending misses =>
    exact Or.inr ⟨side, _, rfl, .sending _ (by rw [isSending]; rfl) (by rw [isSending]; exact nofun)⟩
  | @failed side encoded number isSending error =>
    exact Or.inr ⟨side, _, rfl, .sending _ (by rw [isSending]; rfl) (by rw [isSending]; exact nofun)⟩
  | @relayed side encoded cleanedAt createdAt completedAt isRelaying =>
    exact Or.inr ⟨side, _, rfl,
      .sending _ (by rw [isRelaying]; rfl) (by rw [isRelaying]; exact nofun)⟩
  | @published side metric isSent =>
    refine Or.inr ⟨side, _, rfl, ?_⟩
    rw [isSent]
    exact .announced metric
  | delivered => exact Or.inl rfl
  | @fetched side metric mailbox fetched isListening arrived =>
    refine Or.inr ⟨side, _, rfl, ?_⟩
    rw [isListening]
    cases finished : fetched >>= shared.finish P side metric with
    | error error => exact .raised metric error
    | ok result =>
      rcases bind_eq_ok.mp finished with ⟨envelope, _, finishes⟩
      have same := shared.transfer_of_finish finishes
      subst same
      exact .returned result

theorem SyncStep.phase_kept {property : Phase N -> Prop} {call : SyncCall}
    (step : SyncStep P shared state call after)
    (kept : ∀ old new, Advances old new -> property old -> property new) (other : Side)
    (holds : property (state.phase other)) : property (after.phase other) := by
  rcases step.advances with same | ⟨actor, phase, same, advances⟩
  · rw [same]
    exact holds
  · rw [same]
    rcases eq_or_ne other actor with rfl | different
    · rw [update_self]
      exact kept _ _ advances holds
    · rw [update_of_ne different]
      exact holds

theorem SyncStep.metric {call : SyncCall} (step : SyncStep P shared state call after) (other : Side)
    (metric : TransferMetric) (found : (state.phase other).metric = some metric) :
    (after.phase other).metric = some metric := by
  refine @SyncStep.phase_kept _ _ _ _ _ (fun phase => phase.metric = some metric) _ step ?_ other found
  intro old new advances before
  cases advances with
  | sending _ unfinished =>
    rw [unfinished] at before
    cases before
  | announced => exact before
  | returned => exact before
  | raised => exact before

theorem SyncStep.unsent {call : SyncCall} (step : SyncStep P shared state call after)
    {error : TrainingError} (unsent : state.phase side = .unsent error) :
    after.phase side = .unsent error := by
  refine @SyncStep.phase_kept _ _ _ _ _ (fun phase => phase = .unsent error) _ step ?_ side unsent
  intro old new advances before
  cases advances with
  | sending _ _ running => exact absurd before (running error)
  | announced => cases before
  | returned => cases before
  | raised => cases before

def IsAnnounced : Phase N -> Bool
  | .listening _ | .raised _ _ | .returned _ => true
  | _ => false

def IsFinished : Phase N -> Bool
  | .raised _ _ | .returned _ => true
  | _ => false

theorem SyncStep.finished {call : SyncCall} (step : SyncStep P shared state call after) (other : Side)
    (finished : IsFinished (state.phase other) = true) : IsFinished (after.phase other) = true := by
  refine @SyncStep.phase_kept _ _ _ _ _ (fun phase => IsFinished phase = true) _ step ?_ other finished
  intro old new advances before
  cases advances with
  | sending _ unfinished =>
    cases old with
    | returned result => cases unfinished
    | raised metric error => cases unfinished
    | _ => cases before
  | announced => cases before
  | returned => rfl
  | raised => rfl

end SyncState

end Training
end ZepGpu
