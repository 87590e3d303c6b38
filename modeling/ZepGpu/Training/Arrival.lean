import ZepGpu.Training.Signing

namespace ZepGpu
namespace Training

open Foundation Dict List
open Reference

/-!
# The order in which updates arrive

While a round is open and the membership does not change, a submission changes
only the round and the replay guard.  What the round holds after a sequence of
submissions is read off the sequence: for every worker, the tensors of the
first submission that the coordinator would have accepted at the beginning.
A finalization looks at the updates worker by worker in the order of their
names, so that nothing is left of the order in which they arrived.

Two checks look across submissions: a transfer identifier enters a round only
once, whichever worker uses it, and a code that was verified stays in the
replay guard when the payload turns out not to decode.
-/

/-- An update as it arrives, with the clock that is read. -/
structure Submission where
  encoded : Bytes
  timeNs : Int

/-! ## The replay guard -/

section Guard

variable {guard later other : ReplayGuard} {update : NeutralOuterUpdate} {mac : String}

theorem ReplayGuard.check_of_ne (checked : guard.check update mac = .ok later)
    {key : String × Int × String} (different : key ≠ (update.runId, update.round, update.workerId)) :
    later.seen.get? key = guard.seen.get? key := by
  rw [ReplayGuard.check] at checked
  cases previous : guard.seen.get? (update.runId, update.round, update.workerId) with
  | none =>
    rw [previous] at checked
    obtain rfl := Except.ok.inj checked
    exact get?_set_of_ne different
  | some code =>
    rw [previous] at checked
    obtain ⟨equal, _, passed⟩ := bind_eq_ok.mp checked
    rw [raiseIf_bind_eq_ok] at passed
    obtain rfl := Except.ok.inj passed.2
    rfl

theorem ReplayGuard.check_congr (checked : guard.check update mac = .ok later)
    (same : other.seen.get? (update.runId, update.round, update.workerId) =
      guard.seen.get? (update.runId, update.round, update.workerId)) :
    ∃ after, other.check update mac = .ok after := by
  rw [ReplayGuard.check] at checked
  rw [ReplayGuard.check, same]
  cases previous : guard.seen.get? (update.runId, update.round, update.workerId) with
  | none => exact ⟨_, rfl⟩
  | some code =>
    rw [previous] at checked
    obtain ⟨equal, isEqual, passed⟩ := bind_eq_ok.mp checked
    rw [raiseIf_bind_eq_ok] at passed
    exact ⟨other, bind_eq_ok.mpr ⟨equal, isEqual, raiseIf_bind_eq_ok.mpr ⟨passed.1, rfl⟩⟩⟩

end Guard

section Neutral

variable {P : Platform} {envelope : BinaryEnvelope} {room run key : String} {timeNs : Int}
  {guard later other : ReplayGuard}

theorem names_of_neutral {update : NeutralOuterUpdate}
    (made : envelopeToNeutral P envelope room run timeNs = .ok update) :
    update.runId = run ∧ update.round = envelope.round ∧ update.workerId = envelope.workerId := by
  rw [envelopeToNeutral, raiseIf_bind_eq_ok] at made
  obtain rfl := Except.ok.inj made.2
  exact ⟨rfl, rfl, rfl⟩

theorem acceptLive_of_ne
    (accepted : acceptLiveOuterEnvelope P envelope room run key guard timeNs = .ok later)
    {entry : String × Int × String} (different : entry.2.2 ≠ envelope.workerId) :
    later.seen.get? entry = guard.seen.get? entry := by
  obtain ⟨update, made, _, checked⟩ := acceptLive_eq_ok accepted
  apply ReplayGuard.check_of_ne checked
  rintro rfl
  exact different (names_of_neutral made).2.2

theorem acceptLive_congr
    (accepted : acceptLiveOuterEnvelope P envelope room run key guard timeNs = .ok later)
    (same : ∀ entry, entry.2.2 = envelope.workerId -> other.seen.get? entry = guard.seen.get? entry)
     :
    ∃ after, acceptLiveOuterEnvelope P envelope room run key other timeNs = .ok after := by
  rw [acceptLiveOuterEnvelope, bind_eq_ok] at accepted
  obtain ⟨update, made, accepted⟩ := accepted
  rw [acceptOuterUpdate, raiseIf_bind_eq_ok] at accepted
  obtain ⟨named, _, hashed, accepted⟩ := accepted.imp id bind_eq_ok.mp
  obtain ⟨_, verified, checked⟩ := bind_eq_ok.mp accepted
  obtain ⟨after, again⟩ := ReplayGuard.check_congr checked (same _ (names_of_neutral made).2.2)
  refine ⟨after, bind_eq_ok.mpr ⟨update, made, ?_⟩⟩
  rw [acceptOuterUpdate, raiseIf_bind_eq_ok]
  exact ⟨named, bind_eq_ok.mpr ⟨(), hashed, bind_eq_ok.mpr ⟨(), verified, again⟩⟩⟩

end Neutral

namespace Coordinator

variable {N : Numpy} {P : Platform} {c later : Coordinator N} {encoded : Bytes} {timeNs : Int}

/-! ## Sequences of submissions -/

def submitAll (P : Platform) (c : Coordinator N) (submissions : List Submission) : Coordinator N :=
  submissions.foldl (fun c submission =>
    (c.submitEncoded P submission.encoded submission.timeNs).state) c

def acceptableFrom (P : Platform) (c : Coordinator N) (submission : Submission) : Option String :=
  match (c.submitEncoded P submission.encoded submission.timeNs).result with
  | .ok receipt => if receipt.disposition = .accepted then some receipt.workerId else none
  | .error _ => none

def firstAcceptable (P : Platform) (c : Coordinator N) (submissions : List Submission)
    (worker : String) : Option Bytes :=
  (submissions.find? (fun submission => acceptableFrom P c submission = some worker)).map
    Submission.encoded

/-- The transfer identifier that the coordinator reads in a submission. -/
def transferOf (P : Platform) (c : Coordinator N) (encoded : Bytes) : Option String :=
  (BinaryEnvelope.decode P encoded c.scope).toOption.map BinaryEnvelope.transferId

def tensorsOf (P : Platform) (c : Coordinator N) (encoded : Bytes) : Option (Tensors N) :=
  (BinaryEnvelope.decode P encoded c.scope).toOption.bind (fun envelope =>
    (c.decodeUpdate envelope).toOption)

/-- The workers' first acceptable submissions carry different transfer identifiers. -/
def TransfersApart (P : Platform) (c : Coordinator N) (submissions : List Submission) : Prop :=
  ∀ left right first second, firstAcceptable P c submissions left = some first ->
    firstAcceptable P c submissions right = some second -> left ≠ right ->
    transferOf P c first ≠ transferOf P c second

/-- A payload whose code was verified decodes. -/
def VerifiedDecode (P : Platform) (c : Coordinator N) (submissions : List Submission) : Prop :=
  ∀ submission envelope active guard, submission ∈ submissions ->
    Verified P c submission.encoded submission.timeNs envelope active guard ->
    (c.macKeyFor envelope).isSome -> ∃ decoded, c.decodeUpdate envelope = .ok decoded

variable {envelope : BinaryEnvelope} {submissions : List Submission} {submission : Submission}
  {guard : ReplayGuard} {decoded : Tensors N} {active : Round N}

theorem acceptableFrom_eq_some_iff {worker : String} :
    acceptableFrom P c submission = some worker ↔ ∃ envelope active guard decoded,
      Accepts P c submission.encoded submission.timeNs envelope active guard decoded ∧
        envelope.workerId = worker := by
  constructor
  · intro acceptable
    rw [acceptableFrom] at acceptable
    cases result : (c.submitEncoded P submission.encoded submission.timeNs).result with
    | error error =>
      rw [result] at acceptable
      cases acceptable
    | ok receipt =>
      rw [result] at acceptable
      dsimp only at acceptable
      split_ifs at acceptable with accepted
      obtain ⟨envelope, active, guard, decoded, accepts, rfl⟩ :=
        submitEncoded_accepted result accepted
      exact ⟨envelope, active, guard, decoded, accepts, Option.some.inj acceptable⟩
  · rintro ⟨envelope, active, guard, decoded, accepts, rfl⟩
    rw [acceptableFrom, accepts.submitEncoded]
    rfl

theorem submitAll_append (submissions : List Submission) (submission : Submission) :
    submitAll P c (submissions ++ [submission]) =
      ((submitAll P c submissions).submitEncoded P submission.encoded submission.timeNs).state := by
  rw [submitAll, foldl_append]
  rfl

theorem firstAcceptable_append (submissions : List Submission) (submission : Submission)
    (worker : String) :
    firstAcceptable P c (submissions ++ [submission]) worker =
      (firstAcceptable P c submissions worker).or
        (if acceptableFrom P c submission = some worker then some submission.encoded else none) := by
  rw [firstAcceptable, firstAcceptable, find?_append, Option.map_or, find?_singleton]
  split_ifs with acceptable again again
  · rfl
  · exact absurd (of_decide_eq_true acceptable) again
  · exact absurd (decide_eq_true again) acceptable
  · rfl

theorem firstAcceptable_kept {worker : String}
    (found : firstAcceptable P c submissions worker = some encoded) :
    firstAcceptable P c (submissions ++ [submission]) worker = some encoded := by
  rw [firstAcceptable_append, found, Option.some_or]

theorem TransfersApart.front (apart : TransfersApart P c (submissions ++ [submission])) :
    TransfersApart P c submissions :=
  fun left right first second isFirst isSecond =>
    apart left right first second (firstAcceptable_kept isFirst) (firstAcceptable_kept isSecond)

theorem VerifiedDecode.front (decode : VerifiedDecode P c (submissions ++ [submission])) :
    VerifiedDecode P c submissions :=
  fun other envelope active guard member =>
    decode other envelope active guard (mem_append_left _ member)

/-! ## What a sequence leaves -/

def gathering (c : Coordinator N) (guard : ReplayGuard) (gathered : Round N) : Coordinator N :=
  { c with replayGuard := guard, activeRound := some gathered }

/-- The guard and the round that a sequence leaves, when the round is `active`
at the beginning. -/
structure Gathered (P : Platform) (c : Coordinator N) (active : Round N)
    (submissions : List Submission) (guard : ReplayGuard) (gathered : Round N) : Prop where
  number : gathered.number = active.number
  deadlineAt : gathered.deadlineAt = active.deadlineAt
  isOpen : gathered.state = .open_
  updates : ∀ worker, gathered.updates.get? worker =
    match firstAcceptable P c submissions worker with
    | some encoded => tensorsOf P c encoded
    | none => active.updates.get? worker
  transfers : ∀ transfer, transfer ∈ gathered.transferIds ↔ transfer ∈ active.transferIds ∨
    ∃ worker encoded, firstAcceptable P c submissions worker = some encoded ∧
      transferOf P c encoded = some transfer
  /-- Only workers whose update was accepted have new entries. -/
  guard : ∀ entry, firstAcceptable P c submissions entry.2.2 = none ->
    guard.seen.get? entry = c.replayGuard.seen.get? entry

theorem fixed_gathering (c : Coordinator N) (guard : ReplayGuard) (gathered : Round N) :
    Fixed c (c.gathering guard gathered) :=
  ⟨rfl, rfl, rfl, rfl, rfl, rfl, rfl⟩

theorem Fixed.symm (fixed : Fixed c later) : Fixed later c :=
  ⟨fixed.roomId.symm, fixed.runId.symm, fixed.config.symm, fixed.job.symm, fixed.placement.symm,
    fixed.selectedIslandIds.symm, fixed.roomMacKey.symm⟩

theorem checkIntegrity_congr (fixed : Fixed c later)
    (checked : c.checkIntegrity P envelope timeNs = .ok guard)
    (same : ∀ entry, entry.2.2 = envelope.workerId ->
      later.replayGuard.seen.get? entry = c.replayGuard.seen.get? entry) :
    ∃ after, later.checkIntegrity P envelope timeNs = .ok after := by
  rw [checkIntegrity, macKeyFor] at checked
  rw [checkIntegrity, macKeyFor, fixed.roomMacKey, fixed.roomId, fixed.runId]
  split at checked
  · exact acceptLive_congr checked same
  · exact ⟨_, rfl⟩

theorem checkIntegrity_of_ne (checked : c.checkIntegrity P envelope timeNs = .ok guard)
    {entry : String × Int × String} (different : entry.2.2 ≠ envelope.workerId) :
    guard.seen.get? entry = c.replayGuard.seen.get? entry := by
  rw [checkIntegrity] at checked
  split at checked
  · exact acceptLive_of_ne checked different
  · rw [Except.ok.inj checked]

theorem Accepts.verified (accepts : Accepts P c encoded timeNs envelope active guard decoded) :
    Verified P c encoded timeNs envelope active guard :=
  ⟨accepts.read, accepts.screened, accepts.payloadType, accepts.integrity⟩

theorem Verified.accepts (verified : Verified P c encoded timeNs envelope active guard)
    (isDecoded : c.decodeUpdate envelope = .ok decoded) :
    Accepts P c encoded timeNs envelope active guard decoded :=
  ⟨⟨verified.read, verified.screened, verified.payloadType, isDecoded⟩, verified.integrity⟩

theorem Acceptable.transferOf (acceptable : Acceptable P c encoded envelope active decoded) :
    transferOf P c encoded = some envelope.transferId := by
  rw [Coordinator.transferOf, acceptable.read]
  rfl

theorem Acceptable.tensorsOf (acceptable : Acceptable P c encoded envelope active decoded) :
    tensorsOf P c encoded = some decoded := by
  rw [Coordinator.tensorsOf, acceptable.read]
  change (c.decodeUpdate envelope).toOption = some decoded
  rw [acceptable.tensors]
  rfl

theorem exists_tensorsOf {worker : String}
    (found : firstAcceptable P c submissions worker = some encoded) :
    ∃ decoded, tensorsOf P c encoded = some decoded := by
  rw [firstAcceptable, Option.map_eq_some_iff] at found
  obtain ⟨submission, isFirst, rfl⟩ := found
  have holds := find?_some isFirst
  rw [decide_eq_true_eq, acceptableFrom_eq_some_iff] at holds
  obtain ⟨envelope, active, guard, decoded, accepts, _⟩ := holds
  exact ⟨decoded, accepts.tensorsOf⟩

section Gathering

variable {active gathered : Round N} {submissions : List Submission} {guard : ReplayGuard}
  {submission : Submission}

theorem Gathered.nil (isOpen : active.state = .open_) :
    Gathered P c active [] c.replayGuard active := by
  refine ⟨rfl, rfl, isOpen, fun _ => rfl, ?_, fun _ _ => rfl⟩
  intro transfer
  constructor
  · exact Or.inl
  · rintro (old | ⟨_, _, found, _⟩)
    · exact old
    · cases found

variable {envelope : BinaryEnvelope}

section

variable (gather : Gathered P c active submissions guard gathered)
  (isActive : c.activeRound = some active)

include gather isActive

theorem Gathered.verified_before (isOpen : active.state = .open_) {open_ : Round N}
    {after : ReplayGuard}
    (verified : Verified P (c.gathering guard gathered) encoded timeNs envelope open_ after) :
    open_ = gathered ∧ firstAcceptable P c submissions envelope.workerId = none ∧
      ∃ first, Verified P c encoded timeNs envelope active first := by
  obtain rfl : gathered = open_ := Option.some.inj verified.screened.isActive
  have absent : gathered.updates.get? envelope.workerId = none :=
    get?_eq_none_iff.mpr verified.screened.worker
  have none_ : firstAcceptable P c submissions envelope.workerId = none := by
    cases found : firstAcceptable P c submissions envelope.workerId with
    | none => rfl
    | some bytes =>
      obtain ⟨tensors, isTensors⟩ := exists_tensorsOf found
      rw [gather.updates, found] at absent
      exact absurd (isTensors.symm.trans absent) (by simp)
  rw [gather.updates, none_] at absent
  obtain ⟨first, checked⟩ := checkIntegrity_congr (fixed_gathering c guard gathered).symm
    verified.integrity (by
      intro entry isWorker
      exact (gather.guard entry (isWorker ▸ none_)).symm)
  refine ⟨rfl, none_, first, verified.read, ?_, verified.payloadType, checked⟩
  refine ⟨isActive, isOpen, verified.screened.current, ?_, verified.screened.member,
    get?_eq_none_iff.mp absent, ?_⟩
  · rw [← gather.number]
    exact verified.screened.round
  · exact fun old => verified.screened.transfer ((gather.transfers _).mpr (Or.inl old))

theorem Gathered.accepts_after (apart : TransfersApart P c (submissions ++ [submission]))
    {open_ : Round N} {first : ReplayGuard} {decoded : Tensors N}
    (accepts : Accepts P c submission.encoded submission.timeNs envelope open_ first decoded)
    (isFirst : firstAcceptable P c submissions envelope.workerId = none) :
    ∃ after, Accepts P (c.gathering guard gathered) submission.encoded submission.timeNs envelope
      gathered after decoded := by
  obtain rfl : active = open_ := Option.some.inj (isActive.symm.trans accepts.screened.isActive)
  obtain ⟨after, checked⟩ := checkIntegrity_congr (fixed_gathering c guard gathered)
    accepts.integrity (by
      intro entry isWorker
      exact gather.guard entry (isWorker ▸ isFirst))
  refine ⟨after, ⟨accepts.read, ?_, accepts.payloadType, accepts.tensors⟩, checked⟩
  refine ⟨rfl, gather.isOpen, accepts.screened.current, ?_, accepts.screened.member, ?_, ?_⟩
  · rw [gather.number]
    exact accepts.screened.round
  · rw [← get?_eq_none_iff, gather.updates, isFirst]
    exact get?_eq_none_iff.mpr accepts.screened.worker
  · intro taken
    rcases (gather.transfers _).mp taken with old | ⟨worker, bytes, found, isTransfer⟩
    · exact accepts.screened.transfer old
    · have different : envelope.workerId ≠ worker := by
        rintro rfl
        rw [isFirst] at found
        cases found
      have last : firstAcceptable P c (submissions ++ [submission]) envelope.workerId =
          some submission.encoded := by
        rw [firstAcceptable_append, isFirst, Option.none_or, if_pos]
        exact acceptableFrom_eq_some_iff.mpr ⟨envelope, active, first, decoded, accepts, rfl⟩
      apply apart envelope.workerId worker _ _ last (firstAcceptable_kept found) different
      rw [isTransfer]
      exact accepts.transferOf

theorem Gathered.firstAcceptable_same (apart : TransfersApart P c (submissions ++ [submission]))
    (refused : ∀ envelope after decoded, ¬ Accepts P (c.gathering guard gathered)
      submission.encoded submission.timeNs envelope gathered after decoded)
    (worker : String) :
    firstAcceptable P c (submissions ++ [submission]) worker =
      firstAcceptable P c submissions worker := by
  rw [firstAcceptable_append]
  cases found : firstAcceptable P c submissions worker with
  | some bytes => rfl
  | none =>
    rw [Option.none_or, if_neg]
    intro acceptable
    obtain ⟨envelope, open_, first, decoded, accepts, rfl⟩ :=
      acceptableFrom_eq_some_iff.mp acceptable
    obtain ⟨after, again⟩ := gather.accepts_after isActive apart accepts found
    exact refused envelope after decoded again

theorem Gathered.refuse (apart : TransfersApart P c (submissions ++ [submission]))
    (refused : ∀ envelope after decoded, ¬ Accepts P (c.gathering guard gathered)
      submission.encoded submission.timeNs envelope gathered after decoded)
    (rejected : List UpdateReceipt) :
    Gathered P c active (submissions ++ [submission]) guard
      { gathered with rejected := rejected } := by
  have same := gather.firstAcceptable_same isActive apart refused
  refine ⟨gather.number, gather.deadlineAt, gather.isOpen, ?_, ?_, ?_⟩
  · intro worker
    rw [same]
    exact gather.updates worker
  · intro transfer
    simp only [same]
    exact gather.transfers transfer
  · intro entry
    rw [same]
    exact gather.guard entry

theorem Gathered.accept (isOpen : active.state = .open_) {after : ReplayGuard} {decoded : Tensors N}
    (accepts : Accepts P (c.gathering guard gathered) submission.encoded submission.timeNs envelope
      gathered after decoded) :
    Gathered P c active (submissions ++ [submission]) after
      (Round.accept gathered envelope decoded) := by
  obtain ⟨_, isFirst, first, verified⟩ := gather.verified_before isActive isOpen accepts.verified
  have before : Accepts P c submission.encoded submission.timeNs envelope active first decoded :=
    verified.accepts accepts.tensors
  have acceptable : acceptableFrom P c submission = some envelope.workerId :=
    acceptableFrom_eq_some_iff.mpr ⟨envelope, active, first, decoded, before, rfl⟩
  have own : firstAcceptable P c (submissions ++ [submission]) envelope.workerId =
      some submission.encoded := by
    rw [firstAcceptable_append, isFirst, Option.none_or, if_pos acceptable]
  have others : ∀ worker, worker ≠ envelope.workerId ->
      firstAcceptable P c (submissions ++ [submission]) worker =
        firstAcceptable P c submissions worker := by
    intro worker different
    rw [firstAcceptable_append, if_neg, Option.or_none]
    rw [acceptable]
    exact fun same => different (Option.some.inj same).symm
  refine ⟨gather.number, gather.deadlineAt, gather.isOpen, ?_, ?_, ?_⟩
  · intro worker
    rcases eq_or_ne worker envelope.workerId with rfl | different
    · rw [own]
      exact get?_set_self.trans before.tensorsOf.symm
    · rw [others worker different, ← gather.updates]
      exact get?_set_of_ne different
  · intro transfer
    rw [Round.accept]
    dsimp only
    rw [mem_append, mem_singleton, gather.transfers, or_assoc]
    apply or_congr Iff.rfl
    constructor
    · rintro (⟨worker, bytes, found, isTransfer⟩ | rfl)
      · exact ⟨worker, bytes, firstAcceptable_kept found, isTransfer⟩
      · exact ⟨envelope.workerId, submission.encoded, own, before.transferOf⟩
    · rintro ⟨worker, bytes, found, isTransfer⟩
      rcases eq_or_ne worker envelope.workerId with rfl | different
      · rw [own] at found
        obtain rfl := Option.some.inj found
        rw [before.transferOf] at isTransfer
        exact Or.inr (Option.some.inj isTransfer).symm
      · rw [others worker different] at found
        exact Or.inl ⟨worker, bytes, found, isTransfer⟩
  · intro entry none_
    have different : entry.2.2 ≠ envelope.workerId := by
      intro same
      rw [same, own] at none_
      cases none_
    rw [others _ different] at none_
    exact (checkIntegrity_of_ne accepts.integrity different).trans (gather.guard entry none_)

theorem Gathered.guard_kept (isOpen : active.state = .open_)
    (decode : VerifiedDecode P c (submissions ++ [submission]))
    (refused : ∀ envelope after decoded, ¬ Accepts P (c.gathering guard gathered)
      submission.encoded submission.timeNs envelope gathered after decoded)
    {open_ : Round N} {after : ReplayGuard}
    (verified : Verified P (c.gathering guard gathered) submission.encoded submission.timeNs envelope
      open_ after) :
    after = guard := by
  have integrity := verified.integrity
  rw [checkIntegrity] at integrity
  cases isKey : (c.gathering guard gathered).macKeyFor envelope with
  | none =>
    rw [isKey] at integrity
    exact (Except.ok.inj integrity).symm
  | some key =>
    obtain ⟨rfl, _, first, before⟩ := gather.verified_before isActive isOpen verified
    have marked : (c.macKeyFor envelope).isSome := Option.isSome_iff_exists.mpr ⟨key, isKey⟩
    obtain ⟨decoded, isDecoded⟩ := decode submission envelope active first
      (mem_append_right _ mem_cons_self) before marked
    exact absurd (verified.accepts isDecoded) (refused envelope after decoded)

theorem Gathered.step (isOpen : active.state = .open_)
    (apart : TransfersApart P c (submissions ++ [submission]))
    (decode : VerifiedDecode P c (submissions ++ [submission])) :
    ∃ after next, ((c.gathering guard gathered).submitEncoded P submission.encoded
        submission.timeNs).state = c.gathering after next ∧
      Gathered P c active (submissions ++ [submission]) after next := by
  rcases submitEncoded_cases P (c.gathering guard gathered) submission.encoded submission.timeNs with
    ⟨error, after, origin, same⟩ | ⟨disposition, worker, round, reason, different, same⟩ |
    ⟨envelope, open_, after, decoded, accepts⟩
  · have refused : ∀ envelope after decoded, ¬ Accepts P (c.gathering guard gathered)
        submission.encoded submission.timeNs envelope gathered after decoded := by
      intro envelope after decoded accepts
      rw [accepts.submitEncoded] at same
      cases congrArg Outcome.result same
    have kept : after = guard := by
      rcases origin with kept | ⟨envelope, open_, verified⟩
      · exact kept
      · exact gather.guard_kept isActive isOpen decode refused verified
    subst kept
    refine ⟨after, gathered, congrArg Outcome.state same, ?_⟩
    exact gather.refuse isActive apart refused gathered.rejected
  · have refused : ∀ envelope after decoded, ¬ Accepts P (c.gathering guard gathered)
        submission.encoded submission.timeNs envelope gathered after decoded := by
      intro envelope after decoded accepts
      rw [accepts.submitEncoded] at same
      have receipt := Except.ok.inj (congrArg Outcome.result same)
      exact different (congrArg UpdateReceipt.disposition receipt).symm
    refine ⟨guard, _, congrArg Outcome.state same, ?_⟩
    exact gather.refuse isActive apart refused _
  · obtain rfl : gathered = open_ := Option.some.inj accepts.screened.isActive
    refine ⟨after, _, congrArg Outcome.state accepts.submitEncoded, ?_⟩
    exact gather.accept isActive isOpen accepts

end

theorem gathered_submitAll (isActive : c.activeRound = some active) (isOpen : active.state = .open_)
    (apart : TransfersApart P c submissions) (decode : VerifiedDecode P c submissions) :
    ∃ guard gathered, submitAll P c submissions = c.gathering guard gathered ∧
      Gathered P c active submissions guard gathered := by
  induction submissions using List.reverseRecOn with
  | nil =>
    refine ⟨c.replayGuard, active, ?_, Gathered.nil isOpen⟩
    rw [gathering, ← isActive]
    rfl
  | append_singleton submissions submission ih =>
    obtain ⟨guard, gathered, reached, gather⟩ := ih apart.front decode.front
    rw [submitAll_append, reached]
    exact gather.step isActive isOpen apart decode

end Gathering

/-! ## Finalization -/

/-- Two coordinators whose finalization leaves the same tensors, optimizer,
round and checkpoint. -/
structure FinalizeAlike (left right : Coordinator N) (now : Int) (allowMinKBeforeDeadline : Bool)
    (wall : Int) : Prop where
  globalState : (left.finalizeRound now allowMinKBeforeDeadline wall).state.globalState =
    (right.finalizeRound now allowMinKBeforeDeadline wall).state.globalState
  outerOptimizer : (left.finalizeRound now allowMinKBeforeDeadline wall).state.outerOptimizer =
    (right.finalizeRound now allowMinKBeforeDeadline wall).state.outerOptimizer
  currentRound : (left.finalizeRound now allowMinKBeforeDeadline wall).state.currentRound =
    (right.finalizeRound now allowMinKBeforeDeadline wall).state.currentRound
  latestCheckpoint : (left.finalizeRound now allowMinKBeforeDeadline wall).state.latestCheckpoint =
    (right.finalizeRound now allowMinKBeforeDeadline wall).state.latestCheckpoint

theorem meanOf_congr {left right : Round N}
    (updates : ∀ worker, left.updates.get? worker = right.updates.get? worker) (name : String) :
    meanOf left name = meanOf right name := by
  have ordered : orderedUpdates left = orderedUpdates right := by
    rw [orderedUpdates, orderedUpdates, sortedKeys_eq_of_get? updates]
    exact congrArg (List.filterMap · _) (funext updates)
  rw [meanOf, meanOf, ordered]

theorem finalized_congr {left right : Round N} (leftGuard rightGuard : ReplayGuard)
    (optimizer : OuterOptimizer N) (values : Tensors N) (numbers : left.number = right.number)
    (updates : ∀ worker, left.updates.get? worker = right.updates.get? worker) (wall : Int) :
    (({ c.gathering leftGuard left with outerOptimizer := optimizer } : Coordinator N).finalized left
        values wall).latestCheckpoint =
      (({ c.gathering rightGuard right with outerOptimizer := optimizer } : Coordinator N).finalized
        right values wall).latestCheckpoint := by
  have members : ∀ number : Int,
      c.members.adjust (fun worker (member : WorkerMembership) =>
        if worker ∈ left.updates.keys then { member with bootstrappedRound := number } else member) =
      c.members.adjust (fun worker (member : WorkerMembership) =>
        if worker ∈ right.updates.keys then { member with bootstrappedRound := number }
        else member) := by
    intro number
    congr 1
    funext worker member
    apply if_congr _ rfl rfl
    rw [left.updates.mem_keys, right.updates.mem_keys, updates]
  simp only [finalized, gathering, createCheckpoint, activeWorkerIds, numbers, members]

theorem finalizeAlike_of_updates {left right : Round N} (leftGuard rightGuard : ReplayGuard)
    (numbers : left.number = right.number) (deadlines : left.deadlineAt = right.deadlineAt)
    (leftOpen : left.state = .open_) (rightOpen : right.state = .open_)
    (updates : ∀ worker, left.updates.get? worker = right.updates.get? worker) (now : Int)
    (allow : Bool) (wall : Int) :
    FinalizeAlike (c.gathering leftGuard left) (c.gathering rightGuard right) now allow wall := by
  have pending : ∀ {round : Round N}, round.state = .open_ -> ¬ round.state = .finalized := by
    intro round isOpen
    rw [isOpen]
    exact RoundState.noConfusion
  have mean : (c.gathering leftGuard left).averaged left =
      (c.gathering rightGuard right).averaged right :=
    build_congr (fun name _ => meanOf_congr updates name)
  have leftActive : (c.gathering leftGuard left).activeRound = some left := rfl
  have rightActive : (c.gathering rightGuard right).activeRound = some right := rfl
  have workers : (c.gathering leftGuard left).activeWorkerIds =
      (c.gathering rightGuard right).activeWorkerIds := rfl
  have jobs : (c.gathering leftGuard left).job = (c.gathering rightGuard right).job := rfl
  suffices alike : ∀ leftAfter rightAfter : Coordinator N,
      ((c.gathering leftGuard left).finalizeRound now allow wall).state = leftAfter ->
      ((c.gathering rightGuard right).finalizeRound now allow wall).state = rightAfter ->
      leftAfter.globalState = rightAfter.globalState ∧
      leftAfter.outerOptimizer = rightAfter.outerOptimizer ∧
      leftAfter.currentRound = rightAfter.currentRound ∧
      leftAfter.latestCheckpoint = rightAfter.latestCheckpoint by
    obtain ⟨tensors, optimizer, round, checkpoint⟩ := alike _ _ rfl rfl
    exact ⟨tensors, optimizer, round, checkpoint⟩
  intro leftAfter rightAfter isLeft isRight
  rw [finalizeRound, leftActive] at isLeft
  rw [finalizeRound, rightActive] at isRight
  dsimp only at isLeft isRight
  rw [if_neg (pending leftOpen), length_keys_eq_of_get? updates, deadlines, mean, workers,
    jobs] at isLeft
  rw [if_neg (pending rightOpen)] at isRight
  split_ifs at isLeft isRight
  · subst isLeft isRight
    exact ⟨rfl, rfl, rfl, rfl⟩
  · subst isLeft isRight
    exact ⟨rfl, rfl, rfl, rfl⟩
  · subst isLeft isRight
    exact ⟨rfl, rfl, rfl, rfl⟩
  · cases isMean : (c.gathering rightGuard right).averaged right with
    | error error =>
      rw [isMean] at isLeft isRight
      subst isLeft isRight
      exact ⟨rfl, rfl, rfl, rfl⟩
    | ok update =>
      rw [isMean] at isLeft isRight
      dsimp only at isLeft isRight
      have steps : (c.gathering leftGuard left).outerOptimizer.apply
          (c.gathering leftGuard left).globalState update =
          (c.gathering rightGuard right).outerOptimizer.apply
            (c.gathering rightGuard right).globalState update := rfl
      rw [steps] at isLeft
      cases applied : ((c.gathering rightGuard right).outerOptimizer.apply
          (c.gathering rightGuard right).globalState update).result with
      | error error =>
        rw [applied] at isLeft isRight
        subst isLeft isRight
        exact ⟨rfl, rfl, rfl, rfl⟩
      | ok values =>
        rw [applied] at isLeft isRight
        subst isLeft isRight
        exact ⟨rfl, rfl, numbers, finalized_congr _ _ _ _ numbers updates _⟩

/-- Whatever else is submitted in between and in whatever order, the first
acceptable submission of each worker decides the outcome of the round, when
these carry different transfer identifiers and every payload whose code was
verified decodes. -/
theorem arrival_order_independent {active : Round N} {left right : List Submission}
    (isActive : c.activeRound = some active) (isOpen : active.state = .open_)
    (first : ∀ worker, firstAcceptable P c left worker = firstAcceptable P c right worker)
    (apart : TransfersApart P c left) (leftDecode : VerifiedDecode P c left)
    (rightDecode : VerifiedDecode P c right) (now : Int) (allowMinKBeforeDeadline : Bool)
    (wall : Int) :
    FinalizeAlike (submitAll P c left) (submitAll P c right) now allowMinKBeforeDeadline wall := by
  have rightApart : TransfersApart P c right := by
    intro one two oneBytes twoBytes isOne isTwo
    rw [← first] at isOne isTwo
    exact apart one two oneBytes twoBytes isOne isTwo
  obtain ⟨leftGuard, leftRound, isLeft, leftGather⟩ :=
    gathered_submitAll isActive isOpen apart leftDecode
  obtain ⟨rightGuard, rightRound, isRight, rightGather⟩ :=
    gathered_submitAll isActive isOpen rightApart rightDecode
  rw [isLeft, isRight]
  apply finalizeAlike_of_updates
  · exact leftGather.number.trans rightGather.number.symm
  · exact leftGather.deadlineAt.trans rightGather.deadlineAt.symm
  · exact leftGather.isOpen
  · exact rightGather.isOpen
  · intro worker
    rw [leftGather.updates, rightGather.updates, first]

/-! ## Samples -/

end Coordinator

namespace Reference

def opened : Coordinator numpy :=
  (start false).opening 0

def secondTransfer : Uuid := 0x0d5b1e7f2c3a5e4b9a8877665544332f

def firstUpdate : Submission :=
  ⟨updateBytes firstWorker firstTransfer 1 packedOne (utf8 "4"), 1700000000000000001⟩

def secondUpdate : Submission :=
  ⟨updateBytes secondWorker secondTransfer 1 packedTwo (utf8 "4"), 1700000000000000002⟩

/-- The second worker's update under the first one's transfer identifier. -/
def clashingUpdate : Submission :=
  ⟨updateBytes secondWorker firstTransfer 1 packedTwo (utf8 "4"), 1700000000000000002⟩

/-- An update of the first worker, with the code for its record at the time of arrival. -/
def signedUpdate : Submission :=
  ⟨updateBytes firstWorker firstTransfer 1 packedOne
    (utf8 "4|mac=24830d6ffb77b35db7427ad96cf9b3065affefa08acaabc1dd9366ad1aeb557c"), 7⟩

def brokenUpdate : Submission :=
  ⟨updateBytes firstWorker firstTransfer 1 [0]
    (utf8 "4|mac=71dc2d934fb56d0ccb1175640cc7413d86fada39f4f3f04af121ee1ad06ab453"), 8⟩

theorem workers_ne : platform.strOfUuid firstWorker ≠ platform.strOfUuid secondWorker :=
  fun same => absurd (platform.strOfUuid_injective same) (by decide)

end Reference

namespace Coordinator

variable {N : Numpy} {P : Platform} {c : Coordinator N}

theorem firstAcceptable_swap {left right : Submission} {one two : String}
    (isOne : acceptableFrom P c left = some one) (isTwo : acceptableFrom P c right = some two)
    (different : one ≠ two) (worker : String) :
    firstAcceptable P c [left, right] worker = firstAcceptable P c [right, left] worker := by
  simp only [firstAcceptable, find?_cons, find?_nil, isOne, isTwo, Option.some.injEq]
  by_cases first : one = worker
  · have second : two ≠ worker := fun same => different (first.trans same.symm)
    simp [first, second]
  · simp [first]

theorem firstAcceptable_alone {left right : Submission} {one : String}
    (isOne : acceptableFrom P c left = some one) (isNone : acceptableFrom P c right = none)
    (worker : String) :
    (firstAcceptable P c [left, right] worker = if one = worker then some left.encoded else none) ∧
      firstAcceptable P c [right, left] worker = if one = worker then some left.encoded else none := by
  simp only [firstAcceptable, find?_cons, find?_nil, isOne, isNone, Option.some.injEq]
  by_cases first : one = worker
  · simp [first]
  · simp [first]

theorem verifiedDecode_of_unkeyed (unkeyed : c.roomMacKey = none) (submissions : List Submission) :
    VerifiedDecode P c submissions := by
  intro submission envelope active guard _ _ marked
  rw [macKeyFor, unkeyed] at marked
  cases marked

theorem sample_reads :
    Reference.Reads firstUpdate.encoded (update firstWorker
      firstTransfer 1 packedOne (utf8 "4")) ∧
    Reference.Reads secondUpdate.encoded (update secondWorker
      secondTransfer 1 packedTwo (utf8 "4")) ∧
    Reference.Reads clashingUpdate.encoded (update secondWorker
      firstTransfer 1 packedTwo (utf8 "4")) ∧
    Reference.Reads signedUpdate.encoded (update firstWorker
      firstTransfer 1 packedOne
      (utf8 "4|mac=24830d6ffb77b35db7427ad96cf9b3065affefa08acaabc1dd9366ad1aeb557c")) ∧
    Reference.Reads brokenUpdate.encoded (update firstWorker
      firstTransfer 1 [0]
      (utf8 "4|mac=71dc2d934fb56d0ccb1175640cc7413d86fada39f4f3f04af121ee1ad06ab453")) := by
  have one : (0 : Int) ≤ 1 ∧ (1 : Int) < 256 ^ 8 := by
    decide
  have short : packedOne.length ≤ maxPayloadBytes ∧
      packedTwo.length ≤ maxPayloadBytes ∧ ([0] : Bytes).length ≤ maxPayloadBytes := by
    decide
  have plain : (utf8 "4").length < 60000 := by
    decide
  have marked :
      (utf8 "4|mac=24830d6ffb77b35db7427ad96cf9b3065affefa08acaabc1dd9366ad1aeb557c").length < 60000 ∧
      (utf8 "4|mac=71dc2d934fb56d0ccb1175640cc7413d86fada39f4f3f04af121ee1ad06ab453").length < 60000 := by
    decide +kernel
  unfold firstUpdate secondUpdate clashingUpdate signedUpdate brokenUpdate
  dsimp only
  refine ⟨?_, ?_, ?_, ?_, ?_⟩
  · exact reads_updateBytes _ _ one.1 one.2 short.1 plain
  · exact reads_updateBytes _ _ one.1 one.2 short.2.1 plain
  · exact reads_updateBytes _ _ one.1 one.2 short.2.1 plain
  · exact reads_updateBytes _ _ one.1 one.2 short.1 marked.1
  · exact reads_updateBytes _ _ one.1 one.2 short.2.2 marked.2

theorem acceptableFrom_of_reads {c : Coordinator numpy} {submission : Submission}
    {envelope : BinaryEnvelope} (reads : Reference.Reads submission.encoded envelope)
    (isRoom : c.roomId = platform.strOfUuid Reference.roomId)
    (isRun : c.runId = platform.strOfUuid Reference.runId) :
    acceptableFrom platform c submission =
      match (submitDecoded c envelope submission.timeNs).result with
      | .ok receipt => if receipt.disposition = .accepted then some receipt.workerId else none
      | .error _ => none := by
  rw [acceptableFrom, submitEncoded_of_reads reads isRoom isRun]

theorem submitAll_of_reads {c : Coordinator numpy} {left right : Submission}
    {first second : BinaryEnvelope} (readsLeft : Reference.Reads left.encoded first)
    (readsRight : Reference.Reads right.encoded second)
    (isRoom : c.roomId = platform.strOfUuid Reference.roomId)
    (isRun : c.runId = platform.strOfUuid Reference.runId) :
    submitAll platform c [left, right] = (submitDecoded
      (submitDecoded c first left.timeNs).state second right.timeNs).state := by
  have fixed := fixed_perform platform c (.submitEncoded left.encoded left.timeNs)
  rw [perform, submitEncoded_of_reads readsLeft isRoom isRun] at fixed
  rw [submitAll, foldl_cons, foldl_cons, foldl_nil,
    submitEncoded_of_reads readsLeft isRoom isRun,
    submitEncoded_of_reads readsRight (fixed.roomId.trans isRoom) (fixed.runId.trans isRun)]

theorem first_acceptable :
    acceptableFrom platform opened firstUpdate =
      some (platform.strOfUuid firstWorker) := by
  rcases sample_reads with ⟨first, _⟩
  rw [acceptableFrom_of_reads first rfl rfl]
  decide +kernel

theorem clashing_run :
    acceptableFrom platform opened firstUpdate =
      some (platform.strOfUuid firstWorker) ∧
    acceptableFrom platform opened clashingUpdate =
      some (platform.strOfUuid secondWorker) ∧
    (((submitAll platform opened [firstUpdate,
        clashingUpdate]).finalizeRound 0 true 5).state.globalState.get? "w").map
          (numpy.arrayEqual (single 1)) = some true ∧
    (((submitAll platform opened [clashingUpdate,
        firstUpdate]).finalizeRound 0 true 5).state.globalState.get? "w").map
          (numpy.arrayEqual (single 1)) = some false := by
  rcases sample_reads with ⟨first, _, clashing, _⟩
  rw [acceptableFrom_of_reads clashing rfl rfl, submitAll_of_reads first clashing rfl rfl,
    submitAll_of_reads clashing first rfl rfl]
  exact ⟨first_acceptable, by decide +kernel, by decide +kernel, by decide +kernel⟩

theorem signed_broken_run :
    acceptableFrom platform keyed signedUpdate =
      some (platform.strOfUuid firstWorker) ∧
    acceptableFrom platform keyed brokenUpdate = none ∧
    ((submitAll platform keyed [signedUpdate,
      brokenUpdate]).finalizeRound 0 true 5).state.currentRound = 1 ∧
    ((submitAll platform keyed [brokenUpdate,
      signedUpdate]).finalizeRound 0 true 5).state.currentRound = 0 := by
  rcases sample_reads with ⟨_, _, _, isSigned, broken⟩
  rw [acceptableFrom_of_reads isSigned rfl rfl, acceptableFrom_of_reads broken rfl rfl,
    submitAll_of_reads isSigned broken rfl rfl, submitAll_of_reads broken isSigned rfl rfl]
  exact ⟨by decide +kernel, by decide +kernel, by decide +kernel, by decide +kernel⟩

/-- Two workers that use one transfer identifier exclude each other, and a
verified payload that does not decode excludes a later one of its worker. -/
theorem arrival_order_matters :
    (∃ left right, (∀ worker, firstAcceptable platform opened left worker =
        firstAcceptable platform opened right worker) ∧
      ¬ FinalizeAlike (submitAll platform opened left)
        (submitAll platform opened right) 0 true 5) ∧
    ∃ left right, (∀ worker, firstAcceptable platform keyed left worker =
        firstAcceptable platform keyed right worker) ∧
      TransfersApart platform keyed left ∧
      ¬ FinalizeAlike (submitAll platform keyed left)
        (submitAll platform keyed right) 0 true 5 := by
  constructor
  · obtain ⟨first, clashing, one, two⟩ := clashing_run
    refine ⟨[firstUpdate, clashingUpdate],
      [clashingUpdate, firstUpdate],
      firstAcceptable_swap first clashing workers_ne, ?_⟩
    intro alike
    rw [alike.globalState, two] at one
    cases one
  · obtain ⟨signed, broken, after, before⟩ := signed_broken_run
    refine ⟨[signedUpdate, brokenUpdate], [brokenUpdate, signedUpdate], ?_, ?_, ?_⟩
    · intro worker
      exact (firstAcceptable_alone signed broken worker).1.trans
        (firstAcceptable_alone signed broken worker).2.symm
    · intro left right first second isLeft isRight different
      rw [(firstAcceptable_alone signed broken _).1] at isLeft isRight
      split_ifs at isLeft isRight with left_ right_
      exact absurd (left_.symm.trans right_) different
    · intro alike
      have round := alike.currentRound
      rw [after, before] at round
      cases round

theorem two_updates_acceptable :
    acceptableFrom platform opened firstUpdate =
      some (platform.strOfUuid firstWorker) ∧
    acceptableFrom platform opened secondUpdate =
      some (platform.strOfUuid secondWorker) ∧
    transferOf platform opened firstUpdate.encoded ≠
      transferOf platform opened secondUpdate.encoded := by
  rcases sample_reads with ⟨first, second, _⟩
  have firstRead : BinaryEnvelope.decode platform firstUpdate.encoded
      opened.scope = _ := first
  have secondRead : BinaryEnvelope.decode platform secondUpdate.encoded
      opened.scope = _ := second
  rw [acceptableFrom_of_reads second rfl rfl]
  refine ⟨first_acceptable, by decide +kernel, ?_⟩
  intro same
  rw [transferOf, transferOf, firstRead, secondRead] at same
  have transfers := platform.strOfUuid_injective (Option.some.inj same)
  exact absurd transfers (by decide)

/-- Two workers' updates in either order, one of them sent twice. -/
theorem two_updates_order_independent :
    FinalizeAlike
      (submitAll platform opened [firstUpdate, secondUpdate])
      (submitAll platform opened
        [secondUpdate, firstUpdate, secondUpdate]) 0 false 5 := by
  obtain ⟨first, second, transfers⟩ := two_updates_acceptable
  have found : ∀ worker bytes, firstAcceptable platform opened
      [firstUpdate, secondUpdate] worker = some bytes ->
      worker = platform.strOfUuid firstWorker ∧
          bytes = firstUpdate.encoded ∨
        worker = platform.strOfUuid secondWorker ∧
          bytes = secondUpdate.encoded := by
    intro worker bytes isFound
    simp only [firstAcceptable, find?_cons, find?_nil, first, second, Option.some.injEq] at isFound
    by_cases isFirst : platform.strOfUuid firstWorker = worker
    · simp [isFirst] at isFound
      exact Or.inl ⟨isFirst.symm, isFound.symm⟩
    · by_cases isSecond : platform.strOfUuid secondWorker = worker
      · simp [isFirst, isSecond] at isFound
        exact Or.inr ⟨isSecond.symm, isFound.symm⟩
      · simp [isFirst, isSecond] at isFound
  apply arrival_order_independent rfl rfl
  · intro worker
    rw [firstAcceptable_swap first second workers_ne]
    simp only [firstAcceptable, find?_cons, find?_nil, first, second, Option.some.injEq]
    by_cases isSecond : platform.strOfUuid secondWorker = worker
    · simp [isSecond]
    · simp [isSecond]
  · intro left right leftBytes rightBytes isLeft isRight different
    rcases found left leftBytes isLeft with ⟨rfl, rfl⟩ | ⟨rfl, rfl⟩
    · rcases found right rightBytes isRight with ⟨rfl, rfl⟩ | ⟨rfl, rfl⟩
      · exact absurd rfl different
      · exact transfers
    · rcases found right rightBytes isRight with ⟨rfl, rfl⟩ | ⟨rfl, rfl⟩
      · exact transfers.symm
      · exact absurd rfl different
  · exact verifiedDecode_of_unkeyed rfl _
  · exact verifiedDecode_of_unkeyed rfl _

end Coordinator

end Training
end ZepGpu
