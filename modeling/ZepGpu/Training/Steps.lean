import ZepGpu.Training.Coordinator

namespace ZepGpu
namespace Training

open Foundation Dict List

/-!
# What one call can do

One lemma for each method says which states it can leave behind.  The proofs
about runs use these lemmas and do not open the methods again.
-/

namespace Coordinator

variable {N : Numpy} {P : Platform} {c : Coordinator N} {encoded : Bytes} {timeNs : Int}

/-! ## Submissions -/

def scope (c : Coordinator N) : Scope :=
  { roomId := c.roomId, runId := c.runId }

/-- An envelope that passes all checks but those of its payload. -/
structure Screened (c : Coordinator N) (envelope : BinaryEnvelope) (active : Round N) : Prop where
  isActive : c.activeRound = some active
  isOpen : active.state = .open_
  current : c.currentRound + 1 ≤ envelope.round
  round : envelope.round = active.number
  member : ∃ member, c.members.get? envelope.workerId = some member ∧ member.state = .active ∧
    envelope.round - 1 ≤ member.bootstrappedRound
  worker : envelope.workerId ∉ active.updates.keys
  transfer : envelope.transferId ∉ active.transferIds

variable {envelope : BinaryEnvelope} {active : Round N}

theorem screen_eq_none_iff : c.screen envelope = none ↔ ∃ active, Screened c envelope active := by
  rw [screen]
  constructor
  · intro passed
    cases isActive : c.activeRound with
    | none =>
      rw [isActive] at passed
      cases passed
    | some active =>
      rw [isActive] at passed
      dsimp only at passed
      cases isMember : c.members.get? envelope.workerId with
      | none =>
        rw [isMember] at passed
        dsimp only at passed
        split_ifs at passed
      | some member =>
        rw [isMember] at passed
        dsimp only at passed
        split_ifs at passed with old other isFinalized isPaused inactive behind again
        rw [not_or] at again
        refine ⟨active, isActive, ?_, by omega, not_not.mp other,
          ⟨member, isMember, not_not.mp inactive, by omega⟩, again.1, again.2⟩
        cases state : active.state with
        | open_ => rfl
        | paused => exact absurd state isPaused
        | finalized => exact absurd state isFinalized
  · rintro ⟨active, screened⟩
    obtain ⟨member, isMember, isActive, bootstrapped⟩ := screened.member
    have current := screened.current
    rw [screened.isActive]
    dsimp only
    rw [if_neg (by omega), if_neg (not_not.mpr screened.round), if_neg (by simp [screened.isOpen]),
      if_neg (by simp [screened.isOpen]), isMember]
    dsimp only
    rw [if_neg (not_not.mpr isActive), if_neg (by omega),
      if_neg (not_or.mpr ⟨screened.worker, screened.transfer⟩)]

theorem screen_ne_accepted {rejection : UpdateDisposition × String}
    (screened : c.screen envelope = some rejection) : rejection.1 ≠ .accepted := by
  rw [screen] at screened
  intro accepted
  cases isActive : c.activeRound with
  | none =>
    rw [isActive] at screened
    cases screened
    cases accepted
  | some active =>
    rw [isActive] at screened
    dsimp only at screened
    cases isMember : c.members.get? envelope.workerId with
    | none =>
      rw [isMember] at screened
      dsimp only at screened
      split_ifs at screened <;> (cases screened; cases accepted)
    | some member =>
      rw [isMember] at screened
      dsimp only at screened
      split_ifs at screened <;> (cases screened; cases accepted)

theorem decodeUpdate_eq_ok {decoded : Tensors N} :
    c.decodeUpdate envelope = .ok decoded ↔ envelope.compression = c.config.codecId ∧
      c.config.compressor.decompress envelope.compression envelope.payload = .ok decoded ∧
      Matching c.globalState decoded := by
  rw [decodeUpdate, raiseIf_bind_eq_ok, not_not, bind_eq_ok]
  apply and_congr Iff.rfl
  constructor
  · rintro ⟨other, isOther, validated⟩
    obtain ⟨_, valid, same⟩ := bind_eq_ok.mp validated
    obtain rfl := Except.ok.inj same
    exact ⟨isOther, validateMatchingShapes_eq_ok.mp valid⟩
  · rintro ⟨isDecoded, matching⟩
    exact ⟨decoded, isDecoded, bind_eq_ok.mpr ⟨(), validateMatchingShapes_eq_ok.mpr matching, rfl⟩⟩

/-- A submission that passes every check but that of its integrity. -/
structure Acceptable (P : Platform) (c : Coordinator N) (encoded : Bytes)
    (envelope : BinaryEnvelope) (active : Round N) (decoded : Tensors N) : Prop where
  read : BinaryEnvelope.decode P encoded c.scope = .ok envelope
  screened : Screened c envelope active
  payloadType : envelope.payloadType = "diloco_outer_delta"
  tensors : c.decodeUpdate envelope = .ok decoded

/-- A submission that is accepted, with everything that is computed on the way. -/
structure Accepts (P : Platform) (c : Coordinator N) (encoded : Bytes) (timeNs : Int)
    (envelope : BinaryEnvelope) (active : Round N) (guard : ReplayGuard) (decoded : Tensors N) :
    Prop extends Acceptable P c encoded envelope active decoded where
  integrity : c.checkIntegrity P envelope timeNs = .ok guard

/-- The checks that an update passes before it reaches the round. -/
structure Verified (P : Platform) (c : Coordinator N) (encoded : Bytes) (timeNs : Int)
    (envelope : BinaryEnvelope) (active : Round N) (guard : ReplayGuard) : Prop where
  read : BinaryEnvelope.decode P encoded c.scope = .ok envelope
  screened : Screened c envelope active
  payloadType : envelope.payloadType = "diloco_outer_delta"
  integrity : c.checkIntegrity P envelope timeNs = .ok guard

def accepting (c : Coordinator N) (envelope : BinaryEnvelope) (active : Round N)
    (guard : ReplayGuard) (decoded : Tensors N) : Coordinator N :=
  { c with
    replayGuard := guard
    activeRound := some (Round.accept active envelope decoded) }

def acceptance (envelope : BinaryEnvelope) : UpdateReceipt :=
  ⟨.accepted, envelope.workerId, envelope.round, "outer update accepted"⟩

theorem Accepts.submitEncoded {guard : ReplayGuard} {decoded : Tensors N}
    (accepts : Accepts P c encoded timeNs envelope active guard decoded) :
    c.submitEncoded P encoded timeNs =
      ⟨.ok (acceptance envelope), c.accepting envelope active guard decoded⟩ := by
  have isDecoded : ({ c with replayGuard := guard } : Coordinator N).decodeUpdate envelope =
      .ok decoded := accepts.tensors
  have read := accepts.read
  rw [scope] at read
  rw [Coordinator.submitEncoded, read]
  dsimp only
  rw [screen_eq_none_iff.mpr ⟨active, accepts.screened⟩]
  dsimp only
  rw [admitUpdate, if_neg (not_not.mpr accepts.payloadType), accepts.integrity]
  dsimp only
  rw [isDecoded]
  dsimp only
  rw [accepts.screened.isActive]
  rfl

/-- Whatever is submitted, the call raises and keeps all but the replay guard,
or the update is turned away, or it is accepted. -/
theorem submitEncoded_cases (P : Platform) (c : Coordinator N) (encoded : Bytes) (timeNs : Int) :
    (∃ error guard, (guard = c.replayGuard ∨
        ∃ envelope active, Verified P c encoded timeNs envelope active guard) ∧
      c.submitEncoded P encoded timeNs = ⟨.error error, { c with replayGuard := guard }⟩) ∨
    (∃ disposition worker round reason, disposition ≠ .accepted ∧
      c.submitEncoded P encoded timeNs = c.reject disposition worker round reason) ∨
    ∃ envelope active guard decoded, Accepts P c encoded timeNs envelope active guard decoded := by
  cases read : BinaryEnvelope.decode P encoded { roomId := c.roomId, runId := c.runId } with
  | error error =>
    refine Or.inl ⟨error, c.replayGuard, Or.inl rfl, ?_⟩
    rw [submitEncoded, read]
  | ok envelope =>
    rw [submitEncoded, read]
    dsimp only
    cases screened : c.screen envelope with
    | some rejection =>
      refine Or.inr (Or.inl ⟨rejection.1, envelope.workerId, envelope.round, rejection.2, ?_, rfl⟩)
      exact screen_ne_accepted screened
    | none =>
      obtain ⟨active, passed⟩ := screen_eq_none_iff.mp screened
      dsimp only
      rw [admitUpdate]
      split_ifs with payloadType
      · exact Or.inl ⟨_, c.replayGuard, Or.inl rfl, rfl⟩
      · cases integrity : c.checkIntegrity P envelope timeNs with
        | error error =>
          cases error with
          | updateIntegrityError message =>
            exact Or.inr (Or.inl ⟨.stale, _, _, _, by decide, rfl⟩)
          | _ => exact Or.inl ⟨_, c.replayGuard, Or.inl rfl, rfl⟩
        | ok guard =>
          dsimp only
          cases decoded : ({ c with replayGuard := guard } : Coordinator N).decodeUpdate
              envelope with
          | error error =>
            refine Or.inl ⟨error, guard, Or.inr ⟨envelope, active, ?_⟩, rfl⟩
            exact ⟨read, passed, not_not.mp payloadType, integrity⟩
          | ok tensors =>
            refine Or.inr (Or.inr ⟨envelope, active, guard, tensors, ?_⟩)
            exact ⟨⟨read, passed, not_not.mp payloadType, decoded⟩, integrity⟩

theorem submitEncoded_accepted {receipt : UpdateReceipt}
    (result : (c.submitEncoded P encoded timeNs).result = .ok receipt)
    (accepted : receipt.disposition = .accepted) :
    ∃ envelope active guard decoded, Accepts P c encoded timeNs envelope active guard decoded ∧
      receipt = acceptance envelope := by
  rcases submitEncoded_cases P c encoded timeNs with ⟨error, guard, _, same⟩ |
    ⟨disposition, worker, round, reason, different, same⟩ | ⟨envelope, active, guard, decoded, accepts⟩
  · rw [same] at result
    cases result
  · rw [same, reject] at result
    rw [← Except.ok.inj result] at accepted
    exact absurd accepted different
  · rw [accepts.submitEncoded] at result
    exact ⟨envelope, active, guard, decoded, accepts, (Except.ok.inj result).symm⟩

/-! ## Finalizations -/

/-- The invariant of the coordinator. -/
structure Coherent (c : Coordinator N) : Prop where
  shaped : c.outerOptimizer.Shaped c.globalState
  stepCount : c.outerOptimizer.stepCount = c.currentRound
  nonneg : 0 ≤ c.currentRound
  /-- The active round is the current one once it is finalized, and the next
  one before. -/
  number : ∀ active, c.activeRound = some active ->
    active.number = if active.state = .finalized then c.currentRound else c.currentRound + 1
  updates : ∀ active, c.activeRound = some active -> active.state ≠ .finalized ->
    ∀ worker update, active.updates.get? worker = some update -> Matching c.globalState update
  members : ∀ active, c.activeRound = some active ->
    ∀ worker, worker ∈ active.updates.keys -> worker ∈ c.members.keys

theorem mapM_lookup {reference : Tensors N} {name : String} {array : N.Array}
    (found : reference.get? name = some array) {updates : List (Tensors N)}
    (matching : ∀ update, update ∈ updates -> Matching reference update) :
    ∃ items, updates.mapM (fun update => lookup update name) = .ok items ∧
      items.length = updates.length ∧ ∀ item, item ∈ items -> N.shape item = N.shape array := by
  induction updates with
  | nil => exact ⟨[], rfl, rfl, fun item member => absurd member not_mem_nil⟩
  | cons update rest ih =>
    obtain ⟨value, isValue, shape⟩ := (matching update mem_cons_self).get? found
    obtain ⟨items, mapped, length, shapes⟩ :=
      ih (fun other member => matching other (mem_cons_of_mem _ member))
    refine ⟨value :: items, ?_, congrArg (· + 1) length, ?_⟩
    · rw [mapM_cons, lookup_eq_ok.mpr isValue, mapped]
      rfl
    · intro item member
      rcases mem_cons.mp member with rfl | later
      · exact shape
      · exact shapes item later

theorem averaged_of_matching (some_ : active.updates.keys ≠ [])
    (matching : ∀ worker update, active.updates.get? worker = some update ->
      Matching c.globalState update) :
    ∃ update, c.averaged active = .ok update ∧ Matching c.globalState update := by
  have all : ∀ update, update ∈ orderedUpdates active -> Matching c.globalState update := by
    intro update member
    obtain ⟨worker, _, found⟩ := mem_filterMap.mp member
    exact matching worker update found
  have nonempty : orderedUpdates active ≠ [] := by
    obtain ⟨worker, member⟩ := exists_mem_of_ne_nil _ some_
    obtain ⟨update, found⟩ := exists_get?_of_mem member
    exact ne_nil_of_mem (mem_filterMap.mpr ⟨worker, mem_sortedKeys.mpr member, found⟩)
  have mean : ∀ name array, c.globalState.get? name = some array ->
      ∃ value, meanOf active name = .ok value ∧ N.shape value = N.shape array := by
    intro name array found
    obtain ⟨items, mapped, length, shapes⟩ := mapM_lookup found all
    have filled : items ≠ [] := by
      intro empty
      rw [empty] at length
      exact nonempty (length_eq_zero_iff.mp length.symm)
    obtain ⟨value, isMean, shape⟩ := N.shape_meanOfStack _ items filled shapes
    exact ⟨value, bind_eq_ok.mpr ⟨items, mapped, isMean⟩, shape⟩
  have made : ∀ name, name ∈ c.globalState.sortedKeys ->
      ∃ value, meanOf active name = .ok value := by
    intro name member
    obtain ⟨array, found⟩ := exists_get?_of_mem (mem_sortedKeys.mp member)
    obtain ⟨value, isMean, _⟩ := mean name array found
    exact ⟨value, isMean⟩
  rw [averaged]
  obtain ⟨update, built⟩ := build_of_ok made
  refine ⟨update, built, fun name => ?_⟩
  obtain ⟨inside, outside⟩ := get?_build built
  cases found : c.globalState.get? name with
  | none =>
    have absent : name ∉ c.globalState.sortedKeys := fun member =>
      get?_eq_none_iff.mp found (mem_sortedKeys.mp member)
    rw [outside name absent]
  | some array =>
    obtain ⟨value, made, same⟩ :=
      inside name (mem_sortedKeys.mpr (mem_keys_of_get? found))
    obtain ⟨other, isMean, shape⟩ := mean name array found
    rw [isMean] at made
    rw [same, Option.map_some, Option.map_some, ← Except.ok.inj made, shape]

/-- A finalization, with everything that is computed on the way. -/
structure Finalizes (c : Coordinator N) (active : Round N) (update values : Tensors N) : Prop where
  isActive : c.activeRound = some active
  pending : active.state ≠ .finalized
  enough : c.job.minK ≤ active.updates.keys.length
  averaged : c.averaged active = .ok update
  matching : Matching c.globalState update
  applied : (c.outerOptimizer.apply c.globalState update).result = .ok values

def finalizing (c : Coordinator N) (active : Round N) (update values : Tensors N) (wall : Int) :
    Coordinator N :=
  ({ c with outerOptimizer := (c.outerOptimizer.apply c.globalState update).state } :
    Coordinator N).finalized active values wall

def pausing (c : Coordinator N) (active : Round N) : Coordinator N :=
  { c with activeRound := some { active with state := .paused } }

theorem Coherent.finalizes (coherent : Coherent c) (isActive : c.activeRound = some active)
    (pending : active.state ≠ .finalized) (enough : c.job.minK ≤ active.updates.keys.length) :
    ∃ update values, Finalizes c active update values := by
  have some_ : active.updates.keys ≠ [] := by
    intro empty
    have one := c.job.one_le_minK
    rw [empty, length_nil] at enough
    omega
  obtain ⟨update, isMean, matching⟩ :=
    averaged_of_matching some_ (coherent.updates active isActive pending)
  obtain ⟨values, applied, _⟩ := coherent.shaped.apply matching
  exact ⟨update, values, isActive, pending, enough, isMean, matching, applied⟩

theorem finalizeRound_cases (coherent : Coherent c) (now : Int) (allow : Bool) (wall : Int) :
    (∃ result, c.finalizeRound now allow wall = ⟨result, c⟩) ∨
    (∃ active, c.activeRound = some active ∧ active.state ≠ .finalized ∧
      active.updates.keys.length < c.job.minK ∧ active.deadlineAt ≤ now ∧
      c.finalizeRound now allow wall =
        ⟨.ok (some (c.roundMetric { active with state := .paused })), c.pausing active⟩) ∨
    ∃ active update values, Finalizes c active update values ∧
      c.finalizeRound now allow wall =
        ⟨.ok (some (c.roundMetric { active with state := .finalized })),
          c.finalizing active update values wall⟩ := by
  rw [finalizeRound]
  cases isActive : c.activeRound with
  | none => exact Or.inl ⟨_, rfl⟩
  | some active =>
    dsimp only
    by_cases pending : active.state = .finalized
    · rw [if_pos pending]
      cases c.metrics.getLast? with
      | none => exact Or.inl ⟨_, rfl⟩
      | some metric => exact Or.inl ⟨_, rfl⟩
    · rw [if_neg pending]
      by_cases waiting : active.updates.keys.length < c.activeWorkerIds.length ∧
          now < active.deadlineAt ∧ allow = false
      · rw [if_pos waiting]
        exact Or.inl ⟨_, rfl⟩
      · rw [if_neg waiting]
        by_cases few : active.updates.keys.length < c.job.minK
        · rw [if_pos few]
          by_cases early : now < active.deadlineAt
          · rw [if_pos early]
            exact Or.inl ⟨_, rfl⟩
          · rw [if_neg early]
            exact Or.inr (Or.inl ⟨active, rfl, pending, few, not_lt.mp early, rfl⟩)
        · obtain ⟨update, values, finalizes⟩ :=
            coherent.finalizes isActive pending (not_lt.mp few)
          rw [if_neg few, finalizes.averaged]
          dsimp only
          rw [finalizes.applied]
          exact Or.inr (Or.inr ⟨active, update, values, finalizes, rfl⟩)

/-! ## Calls -/

/-- A call of a method, with its arguments and the clock readings it uses. -/
inductive Call (N : Numpy) where
  | startRound (now : Int)
  | submitEncoded (encoded : Bytes) (timeNs : Int)
  | finalizeRound (now : Int) (allowMinKBeforeDeadline : Bool) (wall : Int)
  | markFailed (workerId reason : String)
  | gracefulLeave (workerId reason : String)
  | requestJoin (workerId : String)
  | bootstrapWorker (workerId : String) (checkpoint : Checkpoint)

/-- The coordinator after a call, whether it returned or raised. -/
def perform (P : Platform) (c : Coordinator N) : Call N -> Coordinator N
  | .startRound now => (c.startRound now).state
  | .submitEncoded encoded timeNs => (c.submitEncoded P encoded timeNs).state
  | .finalizeRound now allow wall => (c.finalizeRound now allow wall).state
  | .markFailed workerId reason => (c.markFailed workerId reason).state
  | .gracefulLeave workerId reason => (c.gracefulLeave workerId reason).state
  | .requestJoin workerId => (c.requestJoin workerId).state
  | .bootstrapWorker workerId checkpoint => (c.bootstrapWorker workerId checkpoint).state

def noting (c : Coordinator N) (receipt : UpdateReceipt) : Coordinator N :=
  { c with activeRound := c.activeRound.map (fun active =>
      { active with rejected := active.rejected ++ [receipt] }) }

def opening (c : Coordinator N) (now : Int) : Coordinator N :=
  { c with activeRound := some {
      number := c.currentRound + 1
      deadlineAt := now + c.job.syncDeadline
      expectedWorkerIds := c.activeWorkerIds } }

/-- What a call does to the coordinator. -/
inductive Step (P : Platform) (c : Coordinator N) : Call N -> Coordinator N -> Prop
  | kept (call : Call N) : Step P c call c
  | guarded (encoded : Bytes) (timeNs : Int) (guard : ReplayGuard) :
      Step P c (.submitEncoded encoded timeNs) { c with replayGuard := guard }
  | rejected (encoded : Bytes) (timeNs : Int) (receipt : UpdateReceipt) :
      Step P c (.submitEncoded encoded timeNs) (c.noting receipt)
  | accepted {encoded : Bytes} {timeNs : Int} {envelope : BinaryEnvelope} {active : Round N}
      {guard : ReplayGuard} {decoded : Tensors N}
      (accepts : Accepts P c encoded timeNs envelope active guard decoded) :
      Step P c (.submitEncoded encoded timeNs) (c.accepting envelope active guard decoded)
  | opened {now : Int} (idle : ∀ active, c.activeRound = some active -> active.state = .finalized)
      (enough : c.job.minK ≤ c.activeWorkerIds.length) : Step P c (.startRound now) (c.opening now)
  | paused {now wall : Int} {allow : Bool} {active : Round N} (isActive : c.activeRound = some active)
      (pending : active.state ≠ .finalized) (few : active.updates.keys.length < c.job.minK)
      (late : active.deadlineAt ≤ now) : Step P c (.finalizeRound now allow wall) (c.pausing active)
  | finalized {now wall : Int} {allow : Bool} {active : Round N} {update values : Tensors N}
      (finalizes : Finalizes c active update values) :
      Step P c (.finalizeRound now allow wall) (c.finalizing active update values wall)
  | membership (call : Call N) (members : Dict String WorkerMembership)
      (kept : ∀ worker, worker ∈ c.members.keys -> worker ∈ members.keys) :
      Step P c call { c with members := members }

theorem startRound_cases (c : Coordinator N) (now : Int) :
    (∃ error, c.startRound now = ⟨.error error, c⟩) ∨
    (∀ active, c.activeRound = some active -> active.state = .finalized) ∧
      c.job.minK ≤ c.activeWorkerIds.length ∧
      c.startRound now = ⟨.ok (c.currentRound + 1), c.opening now⟩ := by
  rw [startRound]
  split_ifs with busy few
  · exact Or.inl ⟨_, rfl⟩
  · exact Or.inl ⟨_, rfl⟩
  · refine Or.inr ⟨?_, not_lt.mp few, rfl⟩
    intro active isActive
    rw [isActive] at busy
    simpa using busy

theorem step_setMember (call : Call N) (workerId : String) (state : MembershipState)
    (reason : String) : Step P c call (c.setMember workerId state reason).state := by
  rw [setMember]
  cases c.members.get? workerId with
  | none => exact .kept call
  | some member => exact .membership call _ (fun worker old => mem_keys_set.mpr (Or.inr old))

theorem Coherent.step (coherent : Coherent c) (P : Platform) (call : Call N) :
    Step P c call (c.perform P call) := by
  cases call with
  | startRound now =>
    rw [perform]
    rcases startRound_cases c now with ⟨error, same⟩ | ⟨idle, enough, same⟩
    · rw [same]
      exact .kept _
    · rw [same]
      exact .opened idle enough
  | submitEncoded encoded timeNs =>
    rw [perform]
    rcases submitEncoded_cases P c encoded timeNs with ⟨error, guard, _, same⟩ |
      ⟨disposition, worker, round, reason, _, same⟩ | ⟨envelope, active, guard, decoded, accepts⟩
    · rw [same]
      exact .guarded _ _ guard
    · rw [same]
      exact .rejected _ _ ⟨disposition, worker, round, reason⟩
    · rw [accepts.submitEncoded]
      exact .accepted accepts
  | finalizeRound now allow wall =>
    rw [perform]
    rcases finalizeRound_cases coherent now allow wall with ⟨result, same⟩ |
      ⟨active, isActive, pending, few, late, same⟩ | ⟨active, update, values, finalizes, same⟩
    · rw [same]
      exact .kept _
    · rw [same]
      exact .paused isActive pending few late
    · rw [same]
      exact .finalized finalizes
  | markFailed workerId reason => exact step_setMember _ workerId .failed reason
  | gracefulLeave workerId reason => exact step_setMember _ workerId .left reason
  | requestJoin workerId =>
    exact .membership _ _ (fun worker old => mem_keys_set.mpr (Or.inr old))
  | bootstrapWorker workerId checkpoint =>
    rw [perform, bootstrapWorker]
    cases c.members.get? workerId with
    | none => exact .kept _
    | some member =>
      dsimp only
      cases c.readBootstrap checkpoint with
      | error error => exact .kept _
      | ok restored =>
        exact .membership _ _ (fun worker old => mem_keys_set.mpr (Or.inr old))

/-! ## What no call changes -/

/-- The parts of a coordinator that only its construction sets. -/
structure Fixed (c after : Coordinator N) : Prop where
  roomId : after.roomId = c.roomId
  runId : after.runId = c.runId
  config : after.config = c.config
  job : after.job = c.job
  placement : after.placement = c.placement
  selectedIslandIds : after.selectedIslandIds = c.selectedIslandIds
  roomMacKey : after.roomMacKey = c.roomMacKey

theorem Fixed.refl (c : Coordinator N) : Fixed c c :=
  ⟨rfl, rfl, rfl, rfl, rfl, rfl, rfl⟩

theorem Fixed.trans {first second third : Coordinator N} (left : Fixed first second)
    (right : Fixed second third) : Fixed first third :=
  ⟨right.roomId.trans left.roomId, right.runId.trans left.runId, right.config.trans left.config,
    right.job.trans left.job, right.placement.trans left.placement,
    right.selectedIslandIds.trans left.selectedIslandIds, right.roomMacKey.trans left.roomMacKey⟩

theorem fixed_finalizeRound (c : Coordinator N) (now : Int) (allow : Bool) (wall : Int) :
    Fixed c (c.finalizeRound now allow wall).state := by
  rw [finalizeRound]
  cases c.activeRound with
  | none => exact Fixed.refl c
  | some active =>
    dsimp only
    split_ifs
    · cases c.metrics.getLast? <;> exact Fixed.refl c
    · exact Fixed.refl c
    · exact Fixed.refl c
    · exact ⟨rfl, rfl, rfl, rfl, rfl, rfl, rfl⟩
    · cases c.averaged active with
      | error error => exact Fixed.refl c
      | ok update =>
        dsimp only
        cases (c.outerOptimizer.apply c.globalState update).result with
        | error error => exact ⟨rfl, rfl, rfl, rfl, rfl, rfl, rfl⟩
        | ok values => exact ⟨rfl, rfl, rfl, rfl, rfl, rfl, rfl⟩

theorem fixed_setMember (c : Coordinator N) (workerId : String) (state : MembershipState)
    (reason : String) : Fixed c (c.setMember workerId state reason).state := by
  rw [setMember]
  cases c.members.get? workerId <;> exact ⟨rfl, rfl, rfl, rfl, rfl, rfl, rfl⟩

theorem fixed_perform (P : Platform) (c : Coordinator N) (call : Call N) :
    Fixed c (c.perform P call) := by
  cases call with
  | startRound now =>
    rw [perform]
    rcases startRound_cases c now with ⟨error, same⟩ | ⟨_, _, same⟩
    · rw [same]
      exact Fixed.refl c
    · rw [same]
      exact ⟨rfl, rfl, rfl, rfl, rfl, rfl, rfl⟩
  | submitEncoded encoded timeNs =>
    rw [perform]
    rcases submitEncoded_cases P c encoded timeNs with ⟨error, guard, _, same⟩ |
      ⟨disposition, worker, round, reason, _, same⟩ | ⟨envelope, active, guard, decoded, accepts⟩
    · rw [same]
      exact ⟨rfl, rfl, rfl, rfl, rfl, rfl, rfl⟩
    · rw [same]
      exact ⟨rfl, rfl, rfl, rfl, rfl, rfl, rfl⟩
    · rw [accepts.submitEncoded]
      exact ⟨rfl, rfl, rfl, rfl, rfl, rfl, rfl⟩
  | finalizeRound now allow wall => exact fixed_finalizeRound c now allow wall
  | markFailed workerId reason => exact fixed_setMember c workerId .failed reason
  | gracefulLeave workerId reason => exact fixed_setMember c workerId .left reason
  | requestJoin workerId => exact ⟨rfl, rfl, rfl, rfl, rfl, rfl, rfl⟩
  | bootstrapWorker workerId checkpoint =>
    rw [perform, bootstrapWorker]
    cases c.members.get? workerId with
    | none => exact Fixed.refl c
    | some member =>
      dsimp only
      cases c.readBootstrap checkpoint with
      | error error => exact Fixed.refl c
      | ok restored => exact ⟨rfl, rfl, rfl, rfl, rfl, rfl, rfl⟩

/-! ## Coherence is kept -/

theorem Coherent.noting (coherent : Coherent c) (receipt : UpdateReceipt) :
    Coherent (c.noting receipt) := by
  refine ⟨coherent.shaped, coherent.stepCount, coherent.nonneg, ?_, ?_, ?_⟩
  all_goals
    intro active isActive
    obtain ⟨old, isOld, rfl⟩ := Option.map_eq_some_iff.mp isActive
  · exact coherent.number old isOld
  · exact coherent.updates old isOld
  · exact coherent.members old isOld

theorem Coherent.accepting (coherent : Coherent c) {guard : ReplayGuard} {decoded : Tensors N}
    (accepts : Accepts P c encoded timeNs envelope active guard decoded) :
    Coherent (c.accepting envelope active guard decoded) := by
  have matching : Matching c.globalState decoded := (decodeUpdate_eq_ok.mp accepts.tensors).2.2
  have isActive := accepts.screened.isActive
  refine ⟨coherent.shaped, coherent.stepCount, coherent.nonneg, ?_, ?_, ?_⟩
  all_goals
    intro later isLater
    obtain rfl := Option.some.inj isLater
  · exact coherent.number active isActive
  · intro pending worker update found
    rcases eq_or_ne worker envelope.workerId with rfl | different
    · have same : some decoded = some update := get?_set_self.symm.trans found
      rw [← Option.some.inj same]
      exact matching
    · have old : active.updates.get? worker = some update :=
        (get?_set_of_ne different).symm.trans found
      exact coherent.updates active isActive pending worker update old
  · intro worker member
    rcases mem_keys_set.mp member with rfl | old
    · obtain ⟨known, isKnown, _⟩ := accepts.screened.member
      exact mem_keys_of_get? isKnown
    · exact coherent.members active isActive worker old

theorem Coherent.opening (coherent : Coherent c) (now : Int) : Coherent (c.opening now) := by
  refine ⟨coherent.shaped, coherent.stepCount, coherent.nonneg, ?_, ?_, ?_⟩
  all_goals
    intro active isActive
    obtain rfl := Option.some.inj isActive
  · rfl
  · intro _ worker update found
    cases found
  · intro worker member
    cases member

theorem Coherent.pausing (coherent : Coherent c) (isActive : c.activeRound = some active)
    (pending : active.state ≠ .finalized) :
    Coherent (c.pausing active) := by
  refine ⟨coherent.shaped, coherent.stepCount, coherent.nonneg, ?_, ?_, ?_⟩
  all_goals
    intro later isLater
    obtain rfl := Option.some.inj isLater
  · have number := coherent.number active isActive
    rw [if_neg pending] at number
    exact number
  · exact fun _ => coherent.updates active isActive pending
  · exact coherent.members active isActive

theorem Coherent.finalizing (coherent : Coherent c) {update values : Tensors N}
    (finalizes : Finalizes c active update values) (wall : Int) :
    Coherent (c.finalizing active update values wall) := by
  obtain ⟨other, applied, matching, shaped, _, count⟩ := coherent.shaped.apply finalizes.matching
  obtain rfl := Except.ok.inj (applied.symm.trans finalizes.applied)
  have number := coherent.number active finalizes.isActive
  rw [if_neg finalizes.pending] at number
  have steps := coherent.stepCount
  have nonneg := coherent.nonneg
  refine ⟨shaped.of_matching matching, ?_, ?_, ?_, ?_, ?_⟩
  · change (c.outerOptimizer.apply c.globalState update).state.stepCount = active.number
    omega
  · change 0 ≤ active.number
    omega
  all_goals
    intro later isLater
    obtain rfl := Option.some.inj isLater
  · rfl
  · intro pending
    exact absurd rfl pending
  · exact coherent.members active finalizes.isActive

theorem Step.coherent {call : Call N} {after : Coordinator N} (step : Step P c call after)
    (coherent : Coherent c) : Coherent after := by
  cases step with
  | kept => exact coherent
  | guarded encoded timeNs guard =>
    exact ⟨coherent.shaped, coherent.stepCount, coherent.nonneg, coherent.number, coherent.updates,
      coherent.members⟩
  | rejected encoded timeNs receipt => exact coherent.noting receipt
  | accepted accepts => exact coherent.accepting accepts
  | opened idle enough => exact coherent.opening _
  | paused isActive pending few late => exact coherent.pausing isActive pending
  | finalized finalizes => exact coherent.finalizing finalizes _
  | membership _ members kept =>
    exact ⟨coherent.shaped, coherent.stepCount, coherent.nonneg, coherent.number, coherent.updates,
      fun active isActive worker member => kept worker (coherent.members active isActive worker member)⟩

end Coordinator

end Training
end ZepGpu
