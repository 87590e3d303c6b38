import ZepGpu.Training.Rounds

namespace ZepGpu
namespace Training

open Foundation Dict List
open Reference (platform)

/-!
# Restart from a checkpoint

A checkpoint holds the tensors, the optimizer and the names of the active
workers.  It does not hold which round each of them has bootstrapped, nor the
workers that joined later.  A restored coordinator takes every worker of the
configuration to be up to date, and knows no others.

Two coordinators mirror each other when they differ in nothing that decides
over an update: the same active workers at the same rounds, the same tensors
name by name, the same optimizer, and the same round unless it is over.  Every
call keeps them so.
-/

namespace Coordinator

variable {N : Numpy} {P : Platform} {start live copy : Coordinator N}

/-- Members that count the same: both active at the same round, or neither active. -/
structure MemberAlike (live copy : WorkerMembership) : Prop where
  state : copy.state = .active ↔ live.state = .active
  bootstrappedRound : live.state = .active -> copy.bootstrappedRound = live.bootstrappedRound

def MembersAlike (live copy : Dict String WorkerMembership) : Prop :=
  ∀ worker, live.get? worker = none ∧ copy.get? worker = none ∨
    ∃ member other, live.get? worker = some member ∧ copy.get? worker = some other ∧
      MemberAlike member other

/-- The copy agrees with the live coordinator in all that decides about updates. -/
structure Mirrors (live copy : Coordinator N) : Prop where
  fixed : Fixed live copy
  replayGuard : copy.replayGuard = live.replayGuard
  currentRound : copy.currentRound = live.currentRound
  started : live.currentRound ≠ 0
  latestCheckpoint : copy.latestCheckpoint = live.latestCheckpoint
  globalState : ∀ name, copy.globalState.get? name = live.globalState.get? name
  outerOptimizer : copy.outerOptimizer.Alike live.outerOptimizer
  members : MembersAlike live.members copy.members
  /-- A round that was finalized before the restart is unknown after it. -/
  activeRound : copy.activeRound = live.activeRound ∨ copy.activeRound = none ∧
    ∀ active, live.activeRound = some active -> active.state = .finalized

/-- Equal receipts, or errors on both sides. -/
def SameAnswer : Except TrainingError UpdateReceipt -> Except TrainingError UpdateReceipt -> Prop
  | .ok left, .ok right => left = right
  | .error _, .error _ => True
  | _, _ => False

def isAccepted : Except TrainingError UpdateReceipt -> Bool
  | .ok receipt => receipt.disposition = .accepted
  | .error _ => false

theorem SameAnswer.isAccepted {left right : Except TrainingError UpdateReceipt}
    (same : SameAnswer left right) : isAccepted left = isAccepted right := by
  cases left with
  | error error =>
    cases right with
    | error other => rfl
    | ok receipt => exact same.elim
  | ok receipt =>
    cases right with
    | error error => exact same.elim
    | ok other =>
      have equal : receipt = other := same
      rw [equal]

theorem MemberAlike.refl (member : WorkerMembership) : MemberAlike member member :=
  ⟨Iff.rfl, fun _ => rfl⟩

theorem Mirrors.activeWorkerIds (mirrors : Mirrors live copy) :
    copy.activeWorkerIds = live.activeWorkerIds := by
  rw [Coordinator.activeWorkerIds, Coordinator.activeWorkerIds]
  apply insertionSort_eq_of_mem_iff (copy.members.nodup.filter _) (live.members.nodup.filter _)
  intro worker
  rw [mem_filter, mem_filter, copy.members.mem_keys, live.members.mem_keys]
  rcases mirrors.members worker with ⟨none, alsoNone⟩ | ⟨member, other, isMember, isOther, alike⟩
  · rw [none, alsoNone]
  · rw [isMember, isOther]
    simp [alike.state]

theorem Mirrors.matching (mirrors : Mirrors live copy) (values : Tensors N) :
    Matching copy.globalState values ↔ Matching live.globalState values := by
  simp only [Matching, mirrors.globalState]

theorem Mirrors.adjust (mirrors : Mirrors live copy) {liveGuard copyGuard : ReplayGuard}
    {liveMembers copyMembers : Dict String WorkerMembership} {liveRound copyRound : Option (Round N)}
    (guards : copyGuard = liveGuard) (members : MembersAlike liveMembers copyMembers)
    (rounds : copyRound = liveRound ∨ copyRound = none ∧
      ∀ active, liveRound = some active -> active.state = .finalized) :
    Mirrors
      { live with replayGuard := liveGuard, members := liveMembers, activeRound := liveRound }
      { copy with replayGuard := copyGuard, members := copyMembers, activeRound := copyRound } :=
  ⟨⟨mirrors.fixed.roomId, mirrors.fixed.runId, mirrors.fixed.config, mirrors.fixed.job,
    mirrors.fixed.placement, mirrors.fixed.selectedIslandIds, mirrors.fixed.roomMacKey⟩, guards,
    mirrors.currentRound, mirrors.started, mirrors.latestCheckpoint, mirrors.globalState,
    mirrors.outerOptimizer, members, rounds⟩

theorem Mirrors.minK (mirrors : Mirrors live copy) : copy.job.minK = live.job.minK :=
  congrArg Phase18TrainingConfig.minK mirrors.fixed.job

theorem Mirrors.checkIntegrity (mirrors : Mirrors live copy) (envelope : BinaryEnvelope)
    (timeNs : Int) : copy.checkIntegrity P envelope timeNs = live.checkIntegrity P envelope timeNs := by
  rw [Coordinator.checkIntegrity, Coordinator.checkIntegrity, macKeyFor, macKeyFor,
    mirrors.fixed.roomMacKey, mirrors.fixed.roomId, mirrors.fixed.runId, mirrors.replayGuard]

theorem Mirrors.decodeUpdate_eq_ok (mirrors : Mirrors live copy) {envelope : BinaryEnvelope}
    {decoded : Tensors N} :
    copy.decodeUpdate envelope = .ok decoded ↔ live.decodeUpdate envelope = .ok decoded := by
  rw [Coordinator.decodeUpdate_eq_ok, Coordinator.decodeUpdate_eq_ok, mirrors.fixed.config,
    mirrors.matching]

theorem Mirrors.screen (mirrors : Mirrors live copy) (same : copy.activeRound = live.activeRound)
    (envelope : BinaryEnvelope) : copy.screen envelope = live.screen envelope := by
  rw [Coordinator.screen, Coordinator.screen, same, mirrors.currentRound]
  cases live.activeRound with
  | none => rfl
  | some active =>
    dsimp only
    rcases mirrors.members envelope.workerId with ⟨none, alsoNone⟩ |
      ⟨member, other, isMember, isOther, alike⟩
    · rw [none, alsoNone]
    · rw [isMember, isOther]
      dsimp only
      by_cases active_ : live.members.get? envelope.workerId = some member ∧ member.state = .active
      · have otherActive := alike.state.mpr active_.2
        rw [alike.bootstrappedRound active_.2]
        simp [active_.2, otherActive]
      · have inactive : member.state ≠ .active := fun isActive => active_ ⟨isMember, isActive⟩
        have otherInactive : other.state ≠ .active := fun isActive =>
          inactive (alike.state.mp isActive)
        simp [inactive, otherInactive]

theorem screen_of_over
    (ended : ∀ active, live.activeRound = some active -> active.state = .finalized)
    (envelope : BinaryEnvelope) : ∃ rejection, live.screen envelope = some rejection := by
  cases screened : live.screen envelope with
  | some rejection => exact ⟨rejection, rfl⟩
  | none =>
    obtain ⟨active, passed⟩ := screen_eq_none_iff.mp screened
    have isOpen := passed.isOpen
    rw [ended active passed.isActive] at isOpen
    cases isOpen

theorem Mirrors.reject (mirrors : Mirrors live copy) (same : copy.activeRound = live.activeRound)
    (disposition : UpdateDisposition) (worker : String) (round : Int) (reason : String) :
    Mirrors (live.reject disposition worker round reason).state
      (copy.reject disposition worker round reason).state := by
  apply mirrors.adjust mirrors.replayGuard mirrors.members
  rw [same]
  exact Or.inl rfl

theorem Mirrors.submitEncoded_same (mirrors : Mirrors live copy)
    (same : copy.activeRound = live.activeRound) (encoded : Bytes) (timeNs : Int) :
    SameAnswer (copy.submitEncoded P encoded timeNs).result
        (live.submitEncoded P encoded timeNs).result ∧
      Mirrors (live.submitEncoded P encoded timeNs).state
        (copy.submitEncoded P encoded timeNs).state := by
  rw [Coordinator.submitEncoded, Coordinator.submitEncoded, mirrors.fixed.roomId, mirrors.fixed.runId]
  cases BinaryEnvelope.decode P encoded { roomId := live.roomId, runId := live.runId } with
  | error error => exact ⟨trivial, mirrors⟩
  | ok envelope =>
    dsimp only
    rw [mirrors.screen same]
    cases live.screen envelope with
    | some rejection => exact ⟨rfl, mirrors.reject same _ _ _ _⟩
    | none =>
      dsimp only
      rw [admitUpdate, admitUpdate, mirrors.checkIntegrity]
      split_ifs with payloadType
      · exact ⟨trivial, mirrors⟩
      · cases live.checkIntegrity P envelope timeNs with
        | error error =>
          cases error with
          | updateIntegrityError message => exact ⟨rfl, mirrors.reject same _ _ _ _⟩
          | _ => exact ⟨trivial, mirrors⟩
        | ok guard =>
          dsimp only
          have guarded : Mirrors ({ live with replayGuard := guard } : Coordinator N)
              { copy with replayGuard := guard } :=
            mirrors.adjust rfl mirrors.members mirrors.activeRound
          cases tensors : ({ live with replayGuard := guard } : Coordinator N).decodeUpdate
              envelope with
          | ok decoded =>
            rw [guarded.decodeUpdate_eq_ok.mpr tensors]
            refine ⟨rfl, mirrors.adjust rfl mirrors.members ?_⟩
            rw [same]
            exact Or.inl rfl
          | error error =>
            cases others : ({ copy with replayGuard := guard } : Coordinator N).decodeUpdate
                envelope with
            | ok decoded =>
              rw [guarded.decodeUpdate_eq_ok.mp others] at tensors
              cases tensors
            | error other => exact ⟨trivial, guarded⟩

/-- When the round is over on one side and unknown on the other, a submission
is accepted on neither. -/
theorem Mirrors.submitEncoded_over (mirrors : Mirrors live copy) (unknown : copy.activeRound = none)
    (ended : ∀ active, live.activeRound = some active -> active.state = .finalized)
    (encoded : Bytes) (timeNs : Int) :
    isAccepted (copy.submitEncoded P encoded timeNs).result =
        isAccepted (live.submitEncoded P encoded timeNs).result ∧
      Mirrors (live.submitEncoded P encoded timeNs).state
        (copy.submitEncoded P encoded timeNs).state := by
  have refused : ∀ {rejection : UpdateDisposition × String}, rejection.1 ≠ .accepted ->
      ∀ worker round, isAccepted (.ok ⟨rejection.1, worker, round, rejection.2⟩) = false :=
    fun different _ _ => decide_eq_false different
  rw [Coordinator.submitEncoded, Coordinator.submitEncoded, mirrors.fixed.roomId, mirrors.fixed.runId]
  cases BinaryEnvelope.decode P encoded { roomId := live.roomId, runId := live.runId } with
  | error error => exact ⟨rfl, mirrors⟩
  | ok envelope =>
    have none_ : ∀ active, copy.activeRound = some active -> active.state = .finalized := by
      intro active isActive
      rw [unknown] at isActive
      cases isActive
    obtain ⟨left, isLeft⟩ := screen_of_over ended envelope
    obtain ⟨right, isRight⟩ := screen_of_over none_ envelope
    dsimp only
    rw [isLeft, isRight]
    refine ⟨?_, mirrors.adjust mirrors.replayGuard mirrors.members (Or.inr ⟨?_, ?_⟩)⟩
    · exact (refused (screen_ne_accepted isRight) _ _).trans
        (refused (screen_ne_accepted isLeft) _ _).symm
    · rw [unknown]
      rfl
    · intro active isActive
      obtain ⟨old, isOld, rfl⟩ := Option.map_eq_some_iff.mp isActive
      exact ended old isOld

theorem Mirrors.submitEncoded (mirrors : Mirrors live copy) (encoded : Bytes) (timeNs : Int) :
    isAccepted (copy.submitEncoded P encoded timeNs).result =
        isAccepted (live.submitEncoded P encoded timeNs).result ∧
      (copy.activeRound ≠ none -> SameAnswer (copy.submitEncoded P encoded timeNs).result
        (live.submitEncoded P encoded timeNs).result) ∧
      Mirrors (live.submitEncoded P encoded timeNs).state
        (copy.submitEncoded P encoded timeNs).state := by
  rcases mirrors.activeRound with same | ⟨unknown, ended⟩
  · obtain ⟨answer, later⟩ := mirrors.submitEncoded_same (P := P) same encoded timeNs
    exact ⟨answer.isAccepted, fun _ => answer, later⟩
  · obtain ⟨answer, later⟩ := mirrors.submitEncoded_over (P := P) unknown ended encoded timeNs
    exact ⟨answer, fun known => absurd unknown known, later⟩

theorem Mirrors.startRound (mirrors : Mirrors live copy) (now : Int) :
    Mirrors (live.startRound now).state (copy.startRound now).state := by
  have busy : (copy.activeRound.any (fun active => active.state ≠ .finalized)) =
      live.activeRound.any (fun active => active.state ≠ .finalized) := by
    rcases mirrors.activeRound with same | ⟨unknown, ended⟩
    · rw [same]
    · rw [unknown]
      cases isActive : live.activeRound with
      | none => rfl
      | some active => simp [ended active isActive]
  rw [Coordinator.startRound, Coordinator.startRound, busy, mirrors.activeWorkerIds, mirrors.minK]
  split_ifs
  · exact mirrors
  · exact mirrors
  · refine mirrors.adjust mirrors.replayGuard mirrors.members (Or.inl ?_)
    rw [mirrors.currentRound, mirrors.fixed.job]

theorem Mirrors.createCheckpoint (mirrors : Mirrors live copy) (wall : Int) :
    copy.createCheckpoint wall = live.createCheckpoint wall := by
  rw [Coordinator.createCheckpoint, Coordinator.createCheckpoint, mirrors.fixed.runId,
    mirrors.fixed.config, mirrors.fixed.job, mirrors.fixed.placement, mirrors.fixed.selectedIslandIds,
    mirrors.currentRound, mirrors.activeWorkerIds, mirrors.outerOptimizer.stateDict,
    arraysToJson_congr mirrors.globalState]

theorem MembersAlike.adjust {live copy : Dict String WorkerMembership} (alike : MembersAlike live copy)
    (contributed : String -> Prop) [DecidablePred contributed] (number : Int) :
    MembersAlike
      (live.adjust (fun worker (member : WorkerMembership) =>
        if contributed worker then { member with bootstrappedRound := number } else member))
      (copy.adjust (fun worker (member : WorkerMembership) =>
        if contributed worker then { member with bootstrappedRound := number } else member)) := by
  intro worker
  rcases alike worker with ⟨none, alsoNone⟩ | ⟨member, other, isMember, isOther, same⟩
  · left
    rw [get?_adjust, get?_adjust, none, alsoNone]
    exact ⟨rfl, rfl⟩
  · right
    rw [get?_adjust, get?_adjust, isMember, isOther]
    refine ⟨_, _, rfl, rfl, ?_⟩
    split_ifs
    · exact ⟨same.state, fun _ => rfl⟩
    · exact same

theorem Mirrors.finalized (mirrors : Mirrors live copy) {liveOptimizer copyOptimizer : OuterOptimizer N}
    (optimizers : copyOptimizer.Alike liveOptimizer) (active : Round N) (later : active.number ≠ 0)
    (values : Tensors N) (wall : Int) :
    Mirrors (({ live with outerOptimizer := liveOptimizer } : Coordinator N).finalized active values wall)
      (({ copy with outerOptimizer := copyOptimizer } : Coordinator N).finalized active values wall) := by
  have assigned : ∀ liveMetrics copyMetrics, Mirrors
      ({ live with
        outerOptimizer := liveOptimizer
        globalState := values
        activeRound := some { active with state := .finalized }
        currentRound := active.number
        members := live.members.adjust (fun worker (member : WorkerMembership) =>
          if worker ∈ active.updates.keys then { member with bootstrappedRound := active.number }
          else member)
        metrics := liveMetrics } : Coordinator N)
      { copy with
        outerOptimizer := copyOptimizer
        globalState := values
        activeRound := some { active with state := .finalized }
        currentRound := active.number
        members := copy.members.adjust (fun worker (member : WorkerMembership) =>
          if worker ∈ active.updates.keys then { member with bootstrappedRound := active.number }
          else member)
        metrics := copyMetrics } := by
    intro liveMetrics copyMetrics
    exact ⟨⟨mirrors.fixed.roomId, mirrors.fixed.runId, mirrors.fixed.config, mirrors.fixed.job,
      mirrors.fixed.placement, mirrors.fixed.selectedIslandIds, mirrors.fixed.roomMacKey⟩,
      mirrors.replayGuard, rfl, later, mirrors.latestCheckpoint, fun _ => rfl, optimizers,
      mirrors.members.adjust (· ∈ active.updates.keys) active.number, Or.inl rfl⟩
  have both := assigned
    (live.metrics ++ [({ live with outerOptimizer := liveOptimizer } : Coordinator N).roundMetric
      { active with state := .finalized }])
    (copy.metrics ++ [({ copy with outerOptimizer := copyOptimizer } : Coordinator N).roundMetric
      { active with state := .finalized }])
  exact ⟨⟨both.fixed.roomId, both.fixed.runId, both.fixed.config, both.fixed.job,
    both.fixed.placement, both.fixed.selectedIslandIds, both.fixed.roomMacKey⟩, both.replayGuard,
    both.currentRound, both.started, congrArg some (both.createCheckpoint wall), both.globalState, both.outerOptimizer, both.members,
    both.activeRound⟩

theorem Mirrors.averaged (mirrors : Mirrors live copy) (active : Round N) :
    copy.averaged active = live.averaged active := by
  rw [Coordinator.averaged, Coordinator.averaged, sortedKeys_eq_of_get? mirrors.globalState]

theorem Mirrors.finalizeRound (mirrors : Mirrors live copy) (coherent : Coherent live) (now : Int)
    (allow : Bool) (wall : Int) :
    Mirrors (live.finalizeRound now allow wall).state (copy.finalizeRound now allow wall).state := by
  rcases mirrors.activeRound with same | ⟨unknown, ended⟩
  · rw [Coordinator.finalizeRound, Coordinator.finalizeRound, same]
    cases isActive : live.activeRound with
    | none => exact mirrors
    | some active =>
      dsimp only
      by_cases done : active.state = .finalized
      · rw [if_pos done, if_pos done]
        cases live.metrics.getLast? <;> cases copy.metrics.getLast? <;> exact mirrors
      · rw [if_neg done, if_neg done, mirrors.activeWorkerIds, mirrors.minK]
        split_ifs with early few soon
        · exact mirrors
        · exact mirrors
        · exact mirrors.adjust mirrors.replayGuard mirrors.members (Or.inl rfl)
        · obtain ⟨update, values, finalizes⟩ :=
            coherent.finalizes isActive done (not_lt.mp few)
          obtain ⟨results, states⟩ := mirrors.outerOptimizer.apply mirrors.globalState
            ((mirrors.matching update).mpr finalizes.matching)
          have number := coherent.number active isActive
          have nonneg := coherent.nonneg
          rw [if_neg done] at number
          rw [mirrors.averaged, finalizes.averaged]
          dsimp only
          rw [results, finalizes.applied]
          exact mirrors.finalized states active (by omega) values wall
  · have liveKept : (live.finalizeRound now allow wall).state = live := by
      rw [Coordinator.finalizeRound]
      cases isActive : live.activeRound with
      | none => rfl
      | some active =>
        dsimp only
        rw [if_pos (ended active isActive)]
        cases live.metrics.getLast? <;> rfl
    rw [liveKept, Coordinator.finalizeRound, unknown]
    exact mirrors

theorem MembersAlike.set {live copy : Dict String WorkerMembership} (alike : MembersAlike live copy)
    (worker : String) {member other : WorkerMembership} (same : MemberAlike member other) :
    MembersAlike (live.set worker member) (copy.set worker other) := by
  intro candidate
  rcases eq_or_ne candidate worker with rfl | different
  · exact Or.inr ⟨member, other, get?_set_self, get?_set_self, same⟩
  · rw [get?_set_of_ne different, get?_set_of_ne different]
    exact alike candidate

theorem MemberAlike.of_inactive {member other : WorkerMembership} (left : member.state ≠ .active)
    (right : other.state ≠ .active) : MemberAlike member other :=
  ⟨iff_of_false right left, fun isActive => absurd isActive left⟩

theorem Mirrors.setMember (mirrors : Mirrors live copy) (worker : String) {state : MembershipState}
    (inactive : state ≠ .active) (reason : String) :
    Mirrors (live.setMember worker state reason).state (copy.setMember worker state reason).state := by
  rw [Coordinator.setMember, Coordinator.setMember]
  rcases mirrors.members worker with ⟨none, alsoNone⟩ | ⟨member, other, isMember, isOther, _⟩
  · rw [none, alsoNone]
    exact mirrors
  · rw [isMember, isOther]
    exact mirrors.adjust mirrors.replayGuard
      (mirrors.members.set worker (MemberAlike.of_inactive inactive inactive)) mirrors.activeRound

theorem Mirrors.requestJoin (mirrors : Mirrors live copy) (worker : String) :
    Mirrors (live.requestJoin worker).state (copy.requestJoin worker).state := by
  have started : copy.currentRound ≠ 0 := by
    rw [mirrors.currentRound]
    exact mirrors.started
  rw [Coordinator.requestJoin, Coordinator.requestJoin]
  refine mirrors.adjust mirrors.replayGuard (mirrors.members.set worker ?_) mirrors.activeRound
  rcases mirrors.members worker with ⟨none, alsoNone⟩ | ⟨member, other, isMember, isOther, _⟩
  · rw [none, alsoNone]
    exact MemberAlike.refl _
  · rw [isMember, isOther]
    dsimp only
    rw [if_neg mirrors.started, if_neg started]
    exact MemberAlike.of_inactive MembershipState.noConfusion MembershipState.noConfusion

theorem Mirrors.readBootstrap_eq_ok (mirrors : Mirrors live copy) {checkpoint : Checkpoint}
    {restored : Tensors N} :
    copy.readBootstrap checkpoint = .ok restored ↔ live.readBootstrap checkpoint = .ok restored := by
  have names : ∀ name, name ∈ copy.globalState.keys ↔ name ∈ live.globalState.keys := by
    intro name
    rw [copy.globalState.mem_keys, live.globalState.mem_keys, mirrors.globalState]
  have valid : ∀ values done, validateMatchingShapes copy.globalState values = .ok done ↔
      validateMatchingShapes live.globalState values = .ok done := by
    intro values done
    rw [validateMatchingShapes_eq_ok, validateMatchingShapes_eq_ok, mirrors.matching]
  rw [Coordinator.readBootstrap, Coordinator.readBootstrap, mirrors.fixed.runId, mirrors.currentRound]
  simp only [bind_eq_ok, valid, names, mirrors.globalState]

theorem Mirrors.bootstrapWorker (mirrors : Mirrors live copy) (worker : String)
    (checkpoint : Checkpoint) :
    Mirrors (live.bootstrapWorker worker checkpoint).state
      (copy.bootstrapWorker worker checkpoint).state := by
  rw [Coordinator.bootstrapWorker, Coordinator.bootstrapWorker]
  rcases mirrors.members worker with ⟨none, alsoNone⟩ | ⟨member, other, isMember, isOther, _⟩
  · rw [none, alsoNone]
    exact mirrors
  · rw [isMember, isOther]
    dsimp only
    cases read : live.readBootstrap checkpoint with
    | ok restored =>
      rw [mirrors.readBootstrap_eq_ok.mpr read]
      exact mirrors.adjust mirrors.replayGuard (mirrors.members.set worker ⟨Iff.rfl, fun _ => rfl⟩)
        mirrors.activeRound
    | error error =>
      cases readCopy : copy.readBootstrap checkpoint with
      | ok restored =>
        rw [mirrors.readBootstrap_eq_ok.mp readCopy] at read
        cases read
      | error other => exact mirrors

theorem Mirrors.perform (mirrors : Mirrors live copy) (coherent : Coherent live) (call : Call N) :
    Mirrors (live.perform P call) (copy.perform P call) := by
  cases call with
  | startRound now => exact mirrors.startRound now
  | submitEncoded encoded timeNs => exact (mirrors.submitEncoded encoded timeNs).2.2
  | finalizeRound now allow wall => exact mirrors.finalizeRound coherent now allow wall
  | markFailed workerId reason => exact mirrors.setMember workerId MembershipState.noConfusion reason
  | gracefulLeave workerId reason => exact mirrors.setMember workerId MembershipState.noConfusion reason
  | requestJoin workerId => exact mirrors.requestJoin workerId
  | bootstrapWorker workerId checkpoint => exact mirrors.bootstrapWorker workerId checkpoint

theorem Mirrors.runCalls (mirrors : Mirrors live copy) (coherent : Coherent live)
    (calls : List (Call N)) :
    Mirrors (Coordinator.runCalls P live calls) (Coordinator.runCalls P copy calls) := by
  induction calls generalizing live copy with
  | nil => exact mirrors
  | cons call calls ih =>
    exact ih (mirrors.perform coherent call) ((coherent.step P call).coherent coherent)

def withKey (c : Coordinator N) (key : Option String) : Coordinator N :=
  { c with roomMacKey := key }

theorem new_with_guard {roomId runId : String} {config : TrainingRunConfig N} {initial : Tensors N}
    {workers : List String} {placement : Json} {islands : List String} {guard : ReplayGuard}
    (built : new P roomId runId config initial workers placement islands guard = .ok start) :
    start.members = initialMembers workers ∧
      ∀ other, new P roomId runId config initial workers placement islands other =
        .ok { start with replayGuard := other } := by
  rw [new, bind_eq_ok] at built
  obtain ⟨job, isJob, built⟩ := built
  rw [raiseIf_bind_eq_ok, raiseIf_bind_eq_ok] at built
  obtain ⟨unique, count, built⟩ := built
  obtain ⟨room, isRoom, built⟩ := bind_eq_ok.mp built
  obtain ⟨run, isRun, built⟩ := bind_eq_ok.mp built
  rw [raiseIf_bind_eq_ok] at built
  obtain ⟨filled, built⟩ := built
  obtain rfl := Except.ok.inj built
  refine ⟨rfl, ?_⟩
  intro other
  rw [new, bind_eq_ok]
  refine ⟨job, isJob, ?_⟩
  rw [raiseIf_bind_eq_ok, raiseIf_bind_eq_ok]
  refine ⟨unique, count, bind_eq_ok.mpr ⟨room, isRoom, bind_eq_ok.mpr ⟨run, isRun, ?_⟩⟩⟩
  rw [raiseIf_bind_eq_ok]
  exact ⟨filled, rfl⟩

theorem get?_initialMembers (workers : List String) (worker : String) :
    (initialMembers workers).get? worker =
      if worker ∈ workers then some { state := .active } else none := by
  have onto : ∀ (names : List String) (members : Dict String WorkerMembership),
      (names.foldl (fun members worker => members.set worker { state := .active }) members).get? worker =
        if worker ∈ names then some { state := .active } else members.get? worker := by
    intro names
    induction names with
    | nil => exact fun members => (if_neg not_mem_nil).symm
    | cons name names ih =>
      intro members
      rw [foldl_cons, ih]
      by_cases later : worker ∈ names
      · rw [if_pos later, if_pos (mem_cons_of_mem _ later)]
      · rw [if_neg later]
        rcases eq_or_ne worker name with rfl | different
        · rw [if_pos mem_cons_self, get?_set_self]
        · rw [get?_set_of_ne different, if_neg]
          rw [mem_cons, not_or]
          exact ⟨different, later⟩
  rw [initialMembers, onto]
  simp only [mem_insertionSort]
  rfl

theorem Step.members_kept {c after : Coordinator N} {call : Call N} (step : Step P c call after)
    {worker : String} (member : worker ∈ c.members.keys) : worker ∈ after.members.keys := by
  cases step with
  | membership _ members kept => exact kept worker member
  | finalized finalizes => exact member
  | _ => exact member

theorem Step.optimizer_config {c after : Coordinator N} {call : Call N} (step : Step P c call after)
    (coherent : Coherent c) : after.outerOptimizer.config = c.outerOptimizer.config := by
  cases step with
  | finalized finalizes =>
    obtain ⟨_, _, _, _, config, _⟩ := coherent.shaped.apply finalizes.matching
    exact config
  | _ => rfl

/-- The invariant, with what no call changes from the start of a run on. -/
structure Kept (start c : Coordinator N) : Prop where
  coherent : Coherent c
  fixed : Fixed start c
  members : ∀ worker, worker ∈ start.members.keys -> worker ∈ c.members.keys
  optimizer : c.outerOptimizer.config = start.outerOptimizer.config

theorem kept_runCalls (coherent : Coherent start) (calls : List (Call N)) :
    Kept start (runCalls P start calls) := by
  induction calls using List.reverseRecOn with
  | nil => exact ⟨coherent, Fixed.refl start, fun _ member => member, rfl⟩
  | append_singleton calls call ih =>
    have step := ih.coherent.step P call
    rw [runCalls_append]
    exact ⟨step.coherent ih.coherent, ih.fixed.trans (fixed_perform P _ call),
      fun worker member => step.members_kept (ih.members worker member),
      (step.optimizer_config ih.coherent).trans ih.optimizer⟩

/-- At the checkpoint every active member is up to date, and every member is a
worker of the configuration. -/
structure Recoverable (workers : List String) (live : Coordinator N) : Prop where
  current : ∀ worker member, live.members.get? worker = some member -> member.state = .active ->
    member.bootstrappedRound = live.currentRound
  known : ∀ worker, worker ∈ live.members.keys -> worker ∈ workers

theorem mem_activeWorkerIds {c : Coordinator N} {worker : String} {member : WorkerMembership}
    (isMember : c.members.get? worker = some member) :
    worker ∈ c.activeWorkerIds ↔ member.state = .active := by
  rw [activeWorkerIds, mem_insertionSort, mem_filter, isMember, Option.any_some, decide_eq_true_eq]
  exact and_iff_right (mem_keys_of_get? isMember)

theorem restore_mirrors {fresh : Coordinator N} {workers : List String} {wall : Int}
    (fixed : Fixed live fresh) (guard : fresh.replayGuard = live.replayGuard)
    (optimizer : fresh.outerOptimizer.config = live.outerOptimizer.config)
    (members : fresh.members = initialMembers workers)
    (inside : ∀ worker, worker ∈ workers -> worker ∈ live.members.keys)
    (started : live.currentRound ≠ 0)
    (latest : live.latestCheckpoint = some (live.createCheckpoint wall))
    (ended : ∀ active, live.activeRound = some active -> active.state = .finalized)
    (recoverable : Recoverable workers live) :
    ∃ copy, fresh.restoreCheckpoint (live.createCheckpoint wall) = .ok copy ∧
      Mirrors live copy := by
  obtain ⟨tensors, read, same⟩ := arraysFromJson_arraysToJson live.globalState
  obtain ⟨loaded, isLoaded, alike⟩ := loadStateDict_stateDict optimizer
  have runs : live.runId = fresh.runId := fixed.runId.symm
  refine ⟨{ fresh with
    globalState := tensors
    outerOptimizer := loaded
    currentRound := live.currentRound
    latestCheckpoint := some (live.createCheckpoint wall)
    activeRound := none
    members := fresh.members.adjust (fun worker (member : WorkerMembership) => { member with
      bootstrappedRound := live.currentRound
      state := if worker ∈ (live.createCheckpoint wall).activeMembership then .active
        else .bootstrapping }) }, ?_, ?_⟩
  · rw [restoreCheckpoint, raiseIf_bind_eq_ok]
    exact ⟨not_not.mpr runs, bind_eq_ok.mpr ⟨tensors, read, bind_eq_ok.mpr ⟨loaded, isLoaded, rfl⟩⟩⟩
  · refine ⟨⟨fixed.roomId, fixed.runId, fixed.config, fixed.job, fixed.placement,
      fixed.selectedIslandIds, fixed.roomMacKey⟩, guard, rfl, started, latest.symm, same, alike, ?_,
      Or.inr ⟨rfl, ended⟩⟩
    intro worker
    dsimp only
    rw [members, get?_adjust, get?_initialMembers]
    by_cases isWorker : worker ∈ workers
    · right
      obtain ⟨member, isMember⟩ := exists_get?_of_mem (inside worker isWorker)
      rw [if_pos isWorker]
      refine ⟨member, _, isMember, rfl, ?_⟩
      have active : worker ∈ (live.createCheckpoint wall).activeMembership ↔
          member.state = .active := by
        rw [createCheckpoint]
        dsimp only
        rw [mem_insertionSort, mem_activeWorkerIds isMember]
      constructor
      · dsimp only
        by_cases isActive : member.state = .active
        · rw [if_pos (active.mpr isActive)]
          exact iff_of_true rfl isActive
        · rw [if_neg (fun found => isActive (active.mp found))]
          exact iff_of_false MembershipState.noConfusion isActive
      · intro isActive
        exact (recoverable.current worker member isMember isActive).symm
    · left
      rw [if_neg isWorker]
      refine ⟨get?_eq_none_iff.mpr ?_, rfl⟩
      exact fun found => isWorker (recoverable.known worker found)

theorem finalization_shape {c : Coordinator N} (coherent : Coherent c) {now wall : Int} {allow : Bool}
    (finalized : (finalization c (c.perform P (.finalizeRound now allow wall))).isSome) :
    (c.perform P (.finalizeRound now allow wall)).currentRound ≠ 0 ∧
    (c.perform P (.finalizeRound now allow wall)).latestCheckpoint =
      some ((c.perform P (.finalizeRound now allow wall)).createCheckpoint wall) ∧
    ∀ active, (c.perform P (.finalizeRound now allow wall)).activeRound = some active ->
      active.state = .finalized := by
  rw [perform] at finalized ⊢
  rcases finalizeRound_cases coherent now allow wall with ⟨result, same⟩ |
    ⟨active, isActive, pending, few, late, same⟩ | ⟨active, update, values, finalizes, same⟩
  · rw [same, finalization_kept rfl] at finalized
    cases finalized
  · rw [same, finalization_of_pending rfl RoundState.noConfusion] at finalized
    cases finalized
  · have number := coherent.number active finalizes.isActive
    have nonneg := coherent.nonneg
    rw [if_neg finalizes.pending] at number
    rw [same]
    refine ⟨?_, rfl, ?_⟩
    · change active.number ≠ 0
      omega
    · intro later isLater
      obtain rfl := Option.some.inj isLater
      rfl

/-- After a finalization at which every active member is up to date and every
member is a worker of the configuration, a coordinator that is built again
and restored from the checkpoint accepts the same updates as the one that
went on, and reaches the same tensors, whatever calls follow.  Once it has a
round of its own, the answers to submissions are the same as a whole. -/
theorem restart_equivalent {roomId runId : String} {config : TrainingRunConfig N} {initial : Tensors N}
    {workers : List String} {placement : Json} {islands : List String} {guard : ReplayGuard}
    (built : new P roomId runId config initial workers placement islands guard = .ok start)
    (key : Option String) (calls : List (Call N)) (now : Int) (allow : Bool) (wall : Int)
    (isLive : runCalls P (start.withKey key) (calls ++ [.finalizeRound now allow wall]) = live)
    (finalized : (finalization (runCalls P (start.withKey key) calls) live).isSome)
    (recoverable : Recoverable workers live) :
    ∃ again checkpoint copy,
      new P roomId runId config initial workers placement islands live.replayGuard = .ok again ∧
      live.latestCheckpoint = some checkpoint ∧
      (again.withKey key).restoreCheckpoint checkpoint = .ok copy ∧
      ∀ later : List (Call N),
        (∀ name, (runCalls P copy later).globalState.get? name =
          (runCalls P live later).globalState.get? name) ∧
        ∀ encoded timeNs,
          isAccepted ((runCalls P copy later).submitEncoded P encoded timeNs).result =
            isAccepted ((runCalls P live later).submitEncoded P encoded timeNs).result ∧
          ((runCalls P copy later).activeRound ≠ none ->
            SameAnswer ((runCalls P copy later).submitEncoded P encoded timeNs).result
              ((runCalls P live later).submitEncoded P encoded timeNs).result) := by
  have fresh := fresh_new built
  have coherentStart : Coherent (start.withKey key) :=
    (⟨fresh.currentRound, fresh.activeRound, fresh.latestCheckpoint, fresh.outerOptimizer⟩ :
      Fresh (start.withKey key)).coherent
  obtain ⟨members, rebuilt⟩ := new_with_guard built
  have before := kept_runCalls (P := P) coherentStart calls
  have kept := kept_runCalls (P := P) coherentStart (calls ++ [.finalizeRound now allow wall])
  rw [runCalls_append] at isLive
  rw [← isLive] at finalized
  obtain ⟨started, latest, ended⟩ := finalization_shape before.coherent finalized
  rw [runCalls_append, isLive] at kept
  rw [isLive] at started latest ended
  have fixed : Fixed live (({ start with replayGuard := live.replayGuard } : Coordinator N).withKey key) :=
    ⟨kept.fixed.roomId.symm, kept.fixed.runId.symm, kept.fixed.config.symm, kept.fixed.job.symm,
      kept.fixed.placement.symm, kept.fixed.selectedIslandIds.symm, kept.fixed.roomMacKey.symm⟩
  have inside : ∀ worker, worker ∈ workers -> worker ∈ live.members.keys := by
    intro worker isWorker
    apply kept.members
    change worker ∈ start.members.keys
    rw [members, (initialMembers workers).mem_keys, get?_initialMembers, if_pos isWorker]
    rfl
  obtain ⟨copy, restored, mirrors⟩ := restore_mirrors fixed rfl kept.optimizer.symm members inside
    started latest ended recoverable
  refine ⟨_, _, copy, rebuilt _, latest, restored, ?_⟩
  intro later
  have mirrorsLater := mirrors.runCalls (P := P) kept.coherent later
  refine ⟨mirrorsLater.globalState, ?_⟩
  intro encoded timeNs
  obtain ⟨accepted, answer, _⟩ := mirrorsLater.submitEncoded (P := P) encoded timeNs
  exact ⟨accepted, answer⟩

/-- The sample round, in which the second worker has no part. -/
def sampleLive : Coordinator Reference.numpy :=
  runCalls platform ((Reference.start false).withKey none) sampleCalls

def sampleAgain : Coordinator Reference.numpy :=
  { Reference.start false with replayGuard := sampleLive.replayGuard }

def lateBytes : Bytes :=
  Reference.updateBytes Reference.secondWorker Reference.firstTransfer 2 Reference.packedTwo (utf8 "4")

theorem sampleLive_run :
    (finalization (runCalls platform ((Reference.start false).withKey none)
      (sampleCalls.take 2)) sampleLive).isSome ∧
    isAccepted ((runCalls platform sampleLive [.startRound 10]).submitEncoded
      platform lateBytes 0).result = false ∧
    (sampleLive.latestCheckpoint.bind (fun checkpoint =>
      (((sampleAgain.withKey none).restoreCheckpoint checkpoint).toOption.map
        (fun copy => isAccepted ((runCalls platform copy [.startRound 10]).submitEncoded
          platform lateBytes 0).result)))) = some true := by
  decide +kernel

/-- A worker that missed the last round is turned away by the coordinator that
went on, and accepted by the one that was restored. -/
theorem stale_worker_accepted_after_restart :
    (finalization (runCalls platform ((Reference.start false).withKey none)
      (sampleCalls.take 2)) sampleLive).isSome ∧
    ∃ again checkpoint copy,
      new platform (platform.strOfUuid Reference.roomId)
        (platform.strOfUuid Reference.runId) (Reference.config false) (Reference.tensors 0)
        Reference.workers (.obj []) [] sampleLive.replayGuard = .ok again ∧
      sampleLive.latestCheckpoint = some checkpoint ∧
      (again.withKey none).restoreCheckpoint checkpoint = .ok copy ∧
      isAccepted ((runCalls platform copy [.startRound 10]).submitEncoded
        platform lateBytes 0).result = true ∧
      isAccepted ((runCalls platform sampleLive [.startRound 10]).submitEncoded
        platform lateBytes 0).result = false := by
  obtain ⟨finalized, refused, accepted⟩ := sampleLive_run
  obtain ⟨checkpoint, latest, isCopy⟩ := Option.bind_eq_some_iff.mp accepted
  obtain ⟨copy, restored, isAccepted_⟩ := Option.map_eq_some_iff.mp isCopy
  refine ⟨finalized, sampleAgain, checkpoint, copy, (new_with_guard (Reference.new_start false)).2 _,
    latest, ?_, isAccepted_, refused⟩
  cases isRestored : (sampleAgain.withKey none).restoreCheckpoint checkpoint with
  | error error =>
    rw [isRestored] at restored
    cases restored
  | ok other =>
    rw [isRestored] at restored
    rw [Option.some.inj restored]

def bothCalls : List (Call Reference.numpy) :=
  [.startRound 0,
    .submitEncoded (Reference.updateBytes Reference.firstWorker Reference.firstTransfer 1
      Reference.packedOne (utf8 "4")) 1700000000000000001,
    .submitEncoded (Reference.updateBytes Reference.secondWorker Reference.runId 1
      Reference.packedTwo (utf8 "4")) 1700000000000000002]

def bothLive : Coordinator Reference.numpy :=
  runCalls platform ((Reference.start true).withKey none)
    (bothCalls ++ [.finalizeRound 0 false 5])

theorem bothLive_run :
    (finalization (runCalls platform ((Reference.start true).withKey none) bothCalls)
      bothLive).isSome ∧
    (∀ worker, worker ∈ bothLive.members.keys -> worker ∈ Reference.workers ∧
      (bothLive.members.get? worker).all (fun member => member.state = .active ->
        member.bootstrappedRound = bothLive.currentRound) = true) := by
  decide +kernel

theorem bothLive_recoverable : Recoverable Reference.workers bothLive := by
  obtain ⟨_, all⟩ := bothLive_run
  constructor
  · intro worker member isMember isActive
    have checked := (all worker (mem_keys_of_get? isMember)).2
    rw [isMember, Option.all_some, decide_eq_true_eq] at checked
    exact checked isActive
  · exact fun worker inside => (all worker inside).1

/-- A restart after a round with updates of both workers. -/
theorem bothLive_restart_equivalent :
    ∃ again checkpoint copy,
      new platform (platform.strOfUuid Reference.roomId)
        (platform.strOfUuid Reference.runId) (Reference.config true) (Reference.tensors 0)
        Reference.workers (.obj []) [] bothLive.replayGuard = .ok again ∧
      bothLive.latestCheckpoint = some checkpoint ∧
      (again.withKey none).restoreCheckpoint checkpoint = .ok copy ∧
      ∀ later : List (Call Reference.numpy), ∀ name,
        (runCalls platform copy later).globalState.get? name =
          (runCalls platform bothLive later).globalState.get? name := by
  obtain ⟨again, checkpoint, copy, rebuilt, latest, restored, same⟩ :=
    restart_equivalent (Reference.new_start true) none bothCalls 0 false 5 rfl bothLive_run.1
      bothLive_recoverable
  exact ⟨again, checkpoint, copy, rebuilt, latest, restored, fun later => (same later).1⟩

end Coordinator

end Training
end ZepGpu
