import ZepGpu.Training.Steps

namespace ZepGpu
namespace Training

open Foundation List

/-!
# Rounds over whole runs

A run is a list of calls on a new coordinator.  Its finalizations are read off
the states before and after each call.  The invariant relates the state that a
run reaches to the calls that led there: every update that the active round
holds was accepted by an earlier call, from a worker that was active and up to
date at that moment.
-/

namespace Coordinator

variable {N : Numpy} {P : Platform} {start c : Coordinator N}

def runCalls (P : Platform) (start : Coordinator N) (calls : List (Call N)) : Coordinator N :=
  calls.foldl (perform P) start

/-- The round that a call finalized: it was pending before, and is finalized after. -/
def finalization (before after : Coordinator N) : Option (Round N) :=
  after.activeRound.filter (fun active => active.state = .finalized ∧
    before.activeRound.any (fun old => old.state = .finalized) = false)

def finalizations (P : Platform) : Coordinator N -> List (Call N) -> List (Round N)
  | _, [] => []
  | c, call :: rest =>
    (finalization c (c.perform P call)).toList ++ finalizations P (c.perform P call) rest

/-- A call of the run accepted the worker's update for the round, when the
worker was active and had bootstrapped the round before. -/
def Contributed (P : Platform) (start : Coordinator N) (calls : List (Call N)) (worker : String)
    (round : Int) : Prop :=
  ∃ front encoded timeNs back receipt member,
    calls = front ++ Call.submitEncoded encoded timeNs :: back ∧
    ((runCalls P start front).submitEncoded P encoded timeNs).result = .ok receipt ∧
    receipt.disposition = .accepted ∧ receipt.workerId = worker ∧ receipt.roundNumber = round ∧
    (runCalls P start front).members.get? worker = some member ∧ member.state = .active ∧
    round - 1 ≤ member.bootstrappedRound

theorem runCalls_append (calls : List (Call N)) (call : Call N) :
    runCalls P start (calls ++ [call]) = (runCalls P start calls).perform P call := by
  rw [runCalls, foldl_append]
  rfl

theorem fixed_runCalls (P : Platform) (start : Coordinator N) (calls : List (Call N)) :
    Fixed start (runCalls P start calls) := by
  induction calls using List.reverseRecOn with
  | nil => exact Fixed.refl start
  | append_singleton calls call ih =>
    rw [runCalls_append]
    exact ih.trans (fixed_perform P _ call)

theorem finalizations_append (calls : List (Call N)) (call : Call N) :
    finalizations P start (calls ++ [call]) = finalizations P start calls ++
      (finalization (runCalls P start calls) ((runCalls P start calls).perform P call)).toList := by
  induction calls generalizing start with
  | nil =>
    rw [nil_append, finalizations, finalizations, finalizations, append_nil, nil_append]
    rfl
  | cons first rest ih =>
    rw [cons_append, finalizations, ih, finalizations, append_assoc]
    rfl

theorem Contributed.append {calls : List (Call N)} {worker : String} {round : Int}
    (contributed : Contributed P start calls worker round) (call : Call N) :
    Contributed P start (calls ++ [call]) worker round := by
  obtain ⟨front, encoded, timeNs, back, receipt, member, same, rest⟩ := contributed
  refine ⟨front, encoded, timeNs, back ++ [call], receipt, member, ?_, rest⟩
  rw [same, append_assoc, cons_append]

/-! ## New coordinators -/

/-- What construction leaves. -/
structure Fresh (c : Coordinator N) : Prop where
  currentRound : c.currentRound = 0
  activeRound : c.activeRound = none
  latestCheckpoint : c.latestCheckpoint = none
  outerOptimizer : c.outerOptimizer = OuterOptimizer.new c.job.outerOptimizer

theorem fresh_new {roomId runId : String} {config : TrainingRunConfig N} {initial : Tensors N}
    {workers : List String} {placement : Json} {islands : List String} {guard : ReplayGuard}
    (built : new P roomId runId config initial workers placement islands guard = .ok c) : Fresh c := by
  rw [new, bind_eq_ok] at built
  obtain ⟨job, _, built⟩ := built
  rw [raiseIf_bind_eq_ok] at built
  obtain ⟨_, built⟩ := built
  rw [raiseIf_bind_eq_ok] at built
  obtain ⟨_, built⟩ := built
  obtain ⟨room, _, built⟩ := bind_eq_ok.mp built
  obtain ⟨run, _, built⟩ := bind_eq_ok.mp built
  rw [raiseIf_bind_eq_ok] at built
  obtain rfl := Except.ok.inj built.2
  exact ⟨rfl, rfl, rfl, rfl⟩

theorem Fresh.coherent (fresh : Fresh c) : Coherent c := by
  refine ⟨?_, ?_, ?_, ?_, ?_, ?_⟩
  · rw [fresh.outerOptimizer]
    exact OuterOptimizer.Shaped.new
  · rw [fresh.outerOptimizer, fresh.currentRound]
    rfl
  · rw [fresh.currentRound]
  all_goals
    intro active isActive
    rw [fresh.activeRound] at isActive
    cases isActive

/-! ## One call -/

theorem finalization_eq_some {before after : Coordinator N} {round : Round N}
    (finalized : finalization before after = some round) :
    after.activeRound = some round ∧ round.state = .finalized ∧
      ∀ old, before.activeRound = some old -> old.state ≠ .finalized := by
  rw [finalization, Option.filter_eq_some_iff] at finalized
  obtain ⟨isActive, holds⟩ := finalized
  rw [decide_eq_true_eq] at holds
  refine ⟨isActive, holds.1, ?_⟩
  intro old isOld same
  have none := holds.2
  rw [isOld, Option.any_some, same] at none
  cases none

theorem finalization_kept {before after : Coordinator N}
    (same : after.activeRound = before.activeRound) : finalization before after = none := by
  rw [finalization, Option.filter_eq_none_iff]
  intro active isActive holds
  rw [decide_eq_true_eq] at holds
  rw [← same, isActive, Option.any_some, holds.1] at holds
  cases holds.2

theorem finalization_of_pending {before after : Coordinator N} {active : Round N}
    (isActive : after.activeRound = some active) (pending : active.state ≠ .finalized) :
    finalization before after = none := by
  rw [finalization, isActive, Option.filter_some, if_neg]
  rw [decide_eq_true_eq, not_and]
  intro finalized
  exact absurd finalized pending

theorem Step.finalization_cases {call : Call N} {after : Coordinator N}
    (step : Step P c call after) (coherent : Coherent c) :
    (finalization c after = none ∧ after.currentRound = c.currentRound ∧
      after.globalState = c.globalState ∧ after.outerOptimizer = c.outerOptimizer) ∨
    ∃ active update values, Finalizes c active update values ∧
      finalization c after = some { active with state := .finalized } ∧
      after.currentRound = c.currentRound + 1 := by
  cases step with
  | kept => exact Or.inl ⟨finalization_kept rfl, rfl, rfl, rfl⟩
  | guarded encoded timeNs guard => exact Or.inl ⟨finalization_kept rfl, rfl, rfl, rfl⟩
  | rejected encoded timeNs receipt =>
    refine Or.inl ⟨?_, rfl, rfl, rfl⟩
    rw [finalization, Option.filter_eq_none_iff]
    intro active isActive holds
    obtain ⟨old, isOld, rfl⟩ := Option.map_eq_some_iff.mp isActive
    rw [decide_eq_true_eq, isOld, Option.any_some, decide_eq_false_iff_not] at holds
    exact holds.2 holds.1
  | accepted accepts =>
    refine Or.inl ⟨finalization_of_pending rfl ?_, rfl, rfl, rfl⟩
    rw [Round.accept, accepts.screened.isOpen]
    decide
  | opened idle enough =>
    exact Or.inl ⟨finalization_of_pending rfl RoundState.noConfusion, rfl, rfl, rfl⟩
  | paused isActive pending few late =>
    exact Or.inl ⟨finalization_of_pending rfl RoundState.noConfusion, rfl, rfl, rfl⟩
  | @finalized _ wall _ active update values finalizes =>
    have number := coherent.number active finalizes.isActive
    rw [if_neg finalizes.pending] at number
    refine Or.inr ⟨active, update, values, finalizes, ?_, number⟩
    have isActive : (c.finalizing active update values wall).activeRound =
        some { active with state := .finalized } := rfl
    rw [finalization, isActive, Option.filter_some, if_pos]
    rw [decide_eq_true_eq, finalizes.isActive, Option.any_some, decide_eq_false_iff_not]
    exact ⟨rfl, finalizes.pending⟩
  | membership _ members kept => exact Or.inl ⟨finalization_kept rfl, rfl, rfl, rfl⟩

theorem Step.updates_cases {call : Call N} {after : Coordinator N} (step : Step P c call after)
    {active : Round N} (isActive : after.activeRound = some active) {worker : String}
    (member : worker ∈ active.updates.keys) :
    (∃ old, c.activeRound = some old ∧ old.number = active.number ∧
      worker ∈ old.updates.keys) ∨
    ∃ encoded timeNs envelope open_ guard decoded,
      call = Call.submitEncoded encoded timeNs ∧
      Accepts P c encoded timeNs envelope open_ guard decoded ∧ envelope.workerId = worker ∧
      envelope.round = active.number := by
  cases step with
  | kept => exact Or.inl ⟨active, isActive, rfl, member⟩
  | guarded encoded timeNs guard => exact Or.inl ⟨active, isActive, rfl, member⟩
  | rejected encoded timeNs receipt =>
    obtain ⟨old, isOld, rfl⟩ := Option.map_eq_some_iff.mp isActive
    exact Or.inl ⟨old, isOld, rfl, member⟩
  | @accepted encoded timeNs envelope open_ guard decoded accepts =>
    obtain rfl := Option.some.inj isActive
    rcases Dict.mem_keys_set.mp member with rfl | old
    · exact Or.inr ⟨encoded, timeNs, envelope, open_, guard, decoded, rfl, accepts, rfl,
        accepts.screened.round⟩
    · exact Or.inl ⟨open_, accepts.screened.isActive, rfl, old⟩
  | opened idle enough =>
    obtain rfl := Option.some.inj isActive
    cases member
  | @paused _ _ _ old isOld pending few late =>
    obtain rfl := Option.some.inj isActive
    exact Or.inl ⟨old, isOld, rfl, member⟩
  | @finalized _ _ _ old _ _ finalizes =>
    obtain rfl := Option.some.inj isActive
    exact Or.inl ⟨old, finalizes.isActive, rfl, member⟩
  | membership _ members kept => exact Or.inl ⟨active, isActive, rfl, member⟩

end Coordinator

/-!
## A sample run

A room with two workers that train one parameter of one number.  Arrays are
lists of rationals, which hold the small numbers below exactly.  The
compressor is the lossless one, at the payloads that are used.
-/

namespace Reference

/-- Both arrays have one length. -/
def elementwise (combine : Rat -> Rat -> Rat) (left right : List Rat) :
    Except TrainingError (List Rat) :=
  if left.length = right.length then .ok (List.zipWith combine left right)
  else .error (.valueError "operands could not be broadcast together")

/-- All arrays have the length of the first. -/
def meanOfStack : List (List Rat) -> Except TrainingError (List Rat)
  | [] => .error (.valueError "need at least one array to stack")
  | first :: rest =>
    if ∀ item, item ∈ rest -> item.length = first.length then
      .ok ((rest.foldl (List.zipWith (· + ·)) first).map (· / (rest.length + 1)))
    else .error (.valueError "all input arrays must have the same shape")

def numberOfJson : Json -> Option Rat
  | .float value => some value
  | _ => none

def reshaped : Json -> Json -> Except TrainingError (List Rat)
  | .arr items, .arr [.int length] =>
    if (items.filterMap numberOfJson).length = length then .ok (items.filterMap numberOfJson)
    else .error (.valueError "cannot reshape array")
  | _, _ => .error (.valueError "could not convert to float")

theorem filterMap_numberOfJson (array : List Rat) :
    (array.map Json.float).filterMap numberOfJson = array := by
  induction array with
  | nil => rfl
  | cons head rest ih => rw [map_cons, filterMap_cons, numberOfJson, ih]

theorem length_foldl_zipWith {first : List Rat} {rest : List (List Rat)}
    (same : ∀ item, item ∈ rest -> item.length = first.length) :
    (rest.foldl (List.zipWith (· + ·)) first).length = first.length := by
  induction rest generalizing first with
  | nil => rfl
  | cons item rest ih =>
    have head := same item mem_cons_self
    have length : (List.zipWith (· + ·) first item).length = first.length := by
      rw [length_zipWith, head, Nat.min_self]
    rw [foldl_cons, ih, length]
    intro other member
    rw [length]
    exact same other (mem_cons_of_mem _ member)

theorem shape_elementwise (combine : Rat -> Rat -> Rat) (left right : List Rat)
    (same : [left.length] = [right.length]) :
    ∃ result, elementwise combine left right = .ok result ∧ [result.length] = [left.length] := by
  have length : left.length = right.length := singleton_inj.mp same
  refine ⟨List.zipWith combine left right, if_pos length, ?_⟩
  rw [length_zipWith, length, Nat.min_self]

def numpy : Numpy where
  Scalar := Rat
  Array := List Rat
  shape := fun array => [array.length]
  nbytes := fun array => 4 * array.length
  zerosLike := fun array => array.map (fun _ => 0)
  square := fun array => array.map (fun value => value * value)
  -- the samples use plain SGD, which takes no root
  sqrt := fun array => array
  scale := fun scalar array => array.map (scalar * ·)
  addScalar := fun array scalar => array.map (· + scalar)
  divideScalar := fun array scalar => array.map (· / scalar)
  add := elementwise (· + ·)
  divide := elementwise (· / ·)
  meanOfStack := meanOfStack
  oneMinus := fun scalar => 1 - scalar
  power := fun scalar exponent => scalar ^ exponent
  arrayEqual := fun left right => decide (left = right)
  tolist := fun array => array.map Json.float
  reshaped := reshaped
  shape_zerosLike := fun _ => by rw [length_map]
  shape_square := fun _ => by rw [length_map]
  shape_sqrt := fun _ => rfl
  shape_scale := fun _ _ => by rw [length_map]
  shape_addScalar := fun _ _ => by rw [length_map]
  shape_divideScalar := fun _ _ => by rw [length_map]
  shape_add := shape_elementwise _
  shape_divide := shape_elementwise _
  shape_meanOfStack := by
    intro dims items filled shapes
    cases items with
    | nil => exact absurd rfl filled
    | cons first rest =>
      have same : ∀ item, item ∈ rest -> item.length = first.length := by
        intro item member
        have left := shapes item (mem_cons_of_mem _ member)
        have right := shapes first mem_cons_self
        exact singleton_inj.mp (left.trans right.symm)
      refine ⟨_, if_pos same, ?_⟩
      rw [length_map, length_foldl_zipWith same]
      exact shapes first mem_cons_self
  reshaped_tolist := by
    intro array
    rw [map_singleton, reshaped, filterMap_numberOfJson, if_pos rfl]

def single (value : Rat) : numpy.Array :=
  ([value] : List Rat)

def tensors (value : Rat) : Tensors numpy :=
  Dict.empty.set "w" (single value)

/-- The lossless payload of `{"w": [1.0]}`. -/
def packedOne : Bytes :=
  [0, 0, 0, 1, 0, 1, 0, 7, 0, 0, 0, 1, 119, 102, 108, 111, 97, 116, 51, 50, 0, 0, 0, 0, 0, 0, 0, 1,
    0, 0, 0, 4, 0, 0, 128, 63]

/-- The lossless payload of `{"w": [2.0]}`. -/
def packedTwo : Bytes :=
  [0, 0, 0, 1, 0, 1, 0, 7, 0, 0, 0, 1, 119, 102, 108, 111, 97, 116, 51, 50, 0, 0, 0, 0, 0, 0, 0, 1,
    0, 0, 0, 4, 0, 0, 0, 64]

def compressor : UpdateCompressor numpy where
  compress := fun values residuals =>
    if (values.get? "w").any (numpy.arrayEqual (single 1)) then .ok (⟨"none", packedOne, 4⟩, residuals)
    else .ok (⟨"none", packedTwo, 4⟩, residuals)
  decompress := fun codec payload =>
    if codec ≠ "none" then .error (.valueError ("expected codec none, got " ++ codec))
    else if payload = packedOne then .ok (tensors 1)
    else if payload = packedTwo then .ok (tensors 2)
    else .error .structError

def outerOptimizer : OuterOptimizerConfig numpy where
  kind := .sgd
  learningRate := (1 : Rat)
  momentum := (0 : Rat)
  beta1 := (9 / 10 : Rat)
  beta2 := (999 / 1000 : Rat)
  epsilon := (1 / 100000000 : Rat)
  dump := .obj []

/-- Two workers, of which one is enough or both are needed. -/
def job (both : Bool) : Phase18TrainingConfig numpy where
  requestedNodeCount := 2
  minK := if both then 2 else 1
  syncDeadline := 120000000
  dilocoH := 1
  outerOptimizer := outerOptimizer
  one_le_minK := by cases both <;> decide
  minK_le_requestedNodeCount := by cases both <;> decide
  requestedNodeCount_le := by decide
  syncDeadline_nonneg := by decide
  one_le_dilocoH := by decide

def config (both : Bool) : TrainingRunConfig numpy where
  schemaVersion := 3
  phase18 := some (job both)
  codecId := "none"
  compressor := compressor
  publicDict := .obj []
  compressionDump := .obj []

def workers : List String :=
  [platform.strOfUuid firstWorker, platform.strOfUuid secondWorker]

def start (both : Bool) : Coordinator numpy where
  roomId := platform.strOfUuid roomId
  runId := platform.strOfUuid runId
  config := config both
  job := job both
  placement := .obj []
  selectedIslandIds := []
  globalState := tensors 0
  members := Coordinator.initialMembers workers
  outerOptimizer := OuterOptimizer.new outerOptimizer
  replayGuard := ⟨Dict.empty⟩

theorem new_start (both : Bool) :
    Coordinator.new platform (platform.strOfUuid roomId) (platform.strOfUuid runId) (config both)
      (tensors 0) workers (.obj []) [] ⟨Dict.empty⟩ = .ok (start both) := by
  have different : workers.Nodup := by
    rw [workers, nodup_cons, mem_singleton]
    refine ⟨fun same => ?_, nodup_singleton _⟩
    exact absurd (platform.strOfUuid_injective same) (by decide)
  have read : ∀ id, Coordinator.canonicalId platform (platform.strOfUuid id) =
      .ok (platform.strOfUuid id) := by
    intro id
    rw [Coordinator.canonicalId, platform.uuidOfString_strOfUuid]
  rw [Coordinator.new]
  simp only [read, raiseIf, different, not_true_eq_false, if_false]
  rfl

def update (worker transfer : Uuid) (round : Int) (payload extensions : Bytes) : BinaryEnvelope where
  roomId := platform.strOfUuid roomId
  runId := platform.strOfUuid runId
  workerId := platform.strOfUuid worker
  transferId := platform.strOfUuid transfer
  round := round
  payloadType := "diloco_outer_delta"
  shape := [(payload.length : Int)]
  dtype := "uint8"
  compression := "none"
  payload := payload
  timestampNs := 1700000000000000000
  extensions := extensions

def updateBytes (worker transfer : Uuid) (round : Int) (payload extensions : Bytes) : Bytes :=
  match (update worker transfer round payload extensions).encode platform with
  | .ok data => data
  | .error _ => []

theorem update_framed (worker transfer : Uuid) {round : Int} {payload extensions : Bytes}
    (nonneg : 0 ≤ round) (small : round < 256 ^ 8) (payloadShort : payload.length ≤ maxPayloadBytes)
    (extensionsShort : extensions.length < 60000) :
    ∃ data, Framed platform maxPayloadBytes roomId runId worker transfer
      (update worker transfer round payload extensions) data := by
  apply framed_outerDelta
  · rfl
  · exact nonneg
  · exact small
  · rfl
  · rfl
  · exact (by decide : "none" ≠ "")
  · exact (by decide : (utf8 "none").length ≤ 256)
  · rfl
  · exact payloadShort
  · exact (by decide : (FixedCodec.signed 8).fits 1700000000000000000)
  · exact extensionsShort

def Reads (encoded : Bytes) (envelope : BinaryEnvelope) : Prop :=
  BinaryEnvelope.decode platform encoded
    { roomId := some (platform.strOfUuid roomId), runId := some (platform.strOfUuid runId) } =
      .ok envelope

theorem reads_updateBytes (worker transfer : Uuid) {round : Int} {payload extensions : Bytes}
    (nonneg : 0 ≤ round) (small : round < 256 ^ 8) (payloadShort : payload.length ≤ maxPayloadBytes)
    (extensionsShort : extensions.length < 60000) :
    Reads (updateBytes worker transfer round payload extensions)
      (update worker transfer round payload extensions) := by
  rcases update_framed worker transfer nonneg small payloadShort extensionsShort with ⟨data, framed⟩
  have read := platform.uuidOfString_strOfUuid
  have encoded : (update worker transfer round payload extensions).encode platform = .ok data :=
    encode_eq_ok_iff.mpr ⟨_, _, _, _, read _, read _, read _, read _, framed⟩
  have canonical : (update worker transfer round payload extensions).Canonical platform := by
    intro text member
    simp only [mem_cons, not_mem_nil, or_false] at member
    rcases member with rfl | rfl | rfl | rfl
    all_goals exact ⟨_, rfl⟩
  have stamped : (0 : Int) < 1700000000000000000 := by
    decide
  rw [Reads, updateBytes, encoded]
  apply decode_in_scope (decode_encode canonical stamped encoded)
  simp [verifyScope, raiseIf, update]
  rfl

def submitDecoded (c : Coordinator numpy) (envelope : BinaryEnvelope) (timeNs : Int) :
    Outcome (Coordinator numpy) TrainingError UpdateReceipt :=
  match c.screen envelope with
  | some (disposition, reason) => c.reject disposition envelope.workerId envelope.round reason
  | none => c.admitUpdate platform envelope timeNs

theorem submitEncoded_of_reads {c : Coordinator numpy} {encoded : Bytes} {envelope : BinaryEnvelope}
    (reads : Reads encoded envelope) (isRoom : c.roomId = platform.strOfUuid roomId)
    (isRun : c.runId = platform.strOfUuid runId) (timeNs : Int) :
    c.submitEncoded platform encoded timeNs = submitDecoded c envelope timeNs := by
  rw [Coordinator.submitEncoded, isRoom, isRun, reads]
  rfl

end Reference

namespace Coordinator

variable {N : Numpy} {P : Platform} {start c : Coordinator N}

/-! ## Runs -/

/-- What the calls so far say about the coordinator they led to. -/
structure RunInvariant (P : Platform) (start : Coordinator N) (calls : List (Call N)) : Prop where
  coherent : Coherent (runCalls P start calls)
  job : (runCalls P start calls).job = start.job
  count : (runCalls P start calls).currentRound = (finalizations P start calls).length
  numbers : (finalizations P start calls).map Round.number =
    (List.range (finalizations P start calls).length).map (fun index : Nat => (index : Int) + 1)
  active : ∀ active, (runCalls P start calls).activeRound = some active ->
    ∀ worker, worker ∈ active.updates.keys -> Contributed P start calls worker active.number
  finalized : ∀ round, round ∈ finalizations P start calls ->
    start.job.minK ≤ round.updates.keys.length ∧
      ∀ worker, worker ∈ round.updates.keys -> Contributed P start calls worker round.number

theorem RunInvariant.nil (fresh : Fresh start) : RunInvariant P start [] := by
  refine ⟨fresh.coherent, rfl, fresh.currentRound, rfl, ?_, ?_⟩
  · intro active isActive
    have none : start.activeRound = some active := isActive
    rw [fresh.activeRound] at none
    cases none
  · intro round member
    cases member

theorem RunInvariant.append {calls : List (Call N)} (invariant : RunInvariant P start calls)
    (call : Call N) : RunInvariant P start (calls ++ [call]) := by
  have step := invariant.coherent.step P call
  have contributed : ∀ active,
      ((runCalls P start calls).perform P call).activeRound = some active ->
      ∀ worker, worker ∈ active.updates.keys ->
        Contributed P start (calls ++ [call]) worker active.number := by
    intro active isActive worker member
    rcases step.updates_cases isActive member with ⟨old, isOld, number, inside⟩ |
      ⟨encoded, timeNs, envelope, open_, guard, decoded, isCall, accepts, isWorker, isRound⟩
    · rw [← number]
      exact (invariant.active old isOld worker inside).append call
    · obtain ⟨known, isKnown, isActive, bootstrapped⟩ := accepts.screened.member
      refine ⟨calls, encoded, timeNs, [], acceptance envelope, known, by rw [isCall], ?_, rfl,
        isWorker, isRound, isWorker ▸ isKnown, isActive, isRound ▸ bootstrapped⟩
      rw [accepts.submitEncoded]
  have older : ∀ round, round ∈ finalizations P start calls ->
      start.job.minK ≤ round.updates.keys.length ∧ ∀ worker, worker ∈ round.updates.keys ->
        Contributed P start (calls ++ [call]) worker round.number := by
    intro round member
    obtain ⟨enough, all⟩ := invariant.finalized round member
    exact ⟨enough, fun worker inside => (all worker inside).append call⟩
  have coherent := step.coherent invariant.coherent
  have sameJob := (fixed_perform P (runCalls P start calls) call).job.trans invariant.job
  have run : runCalls P start (calls ++ [call]) = (runCalls P start calls).perform P call :=
    runCalls_append calls call
  have count := invariant.count
  rcases step.finalization_cases invariant.coherent with ⟨none, number, _, _⟩ |
    ⟨active, update, values, finalizes, isSome, number⟩
  · have same : finalizations P start (calls ++ [call]) = finalizations P start calls := by
      rw [finalizations_append, none, Option.toList_none, append_nil]
    constructor
    case coherent => rw [run]; exact coherent
    case job => rw [run]; exact sameJob
    case count => rw [run, same, number, count]
    case numbers => rw [same]; exact invariant.numbers
    case active => rw [run]; exact contributed
    case finalized => rw [same]; exact older
  · obtain ⟨isActive, _, _⟩ := finalization_eq_some isSome
    have more : finalizations P start (calls ++ [call]) =
        finalizations P start calls ++ [{ active with state := .finalized }] := by
      rw [finalizations_append, isSome, Option.toList_some]
    have isNext := invariant.coherent.number active finalizes.isActive
    rw [if_neg finalizes.pending] at isNext
    constructor
    case coherent => rw [run]; exact coherent
    case job => rw [run]; exact sameJob
    case count =>
      rw [run, more, number, count, length_append, length_singleton]
      rfl
    case numbers =>
      rw [more, map_append, length_append, length_singleton, range_succ,
        map_append, invariant.numbers, map_singleton, map_singleton, isNext, count]
    case active => rw [run]; exact contributed
    case finalized =>
      rw [more]
      intro round member
      rcases mem_append.mp member with old | new
      · exact older round old
      · obtain rfl := mem_singleton.mp new
        refine ⟨?_, contributed _ isActive⟩
        rw [← invariant.job]
        exact finalizes.enough

def sampleCalls : List (Call Reference.numpy) :=
  [.startRound 0,
    .submitEncoded (Reference.updateBytes Reference.firstWorker Reference.firstTransfer 1
      Reference.packedOne (utf8 "4")) 1700000000000000001,
    .finalizeRound 0 true 5]

end Coordinator

end Training
end ZepGpu
