import ZepGpu.Training.Rounds

namespace ZepGpu
namespace Training

open Foundation Dict List
open Reference (platform)

/-!
# Rounds that can still end

A round that was paused at its deadline cannot be left: it takes no more
updates, it pauses again whenever it is to be finalized, and no other round
can be opened beside it.  From every other reachable state the next round can
be finalized, as soon as enough workers can contribute: they join and
bootstrap, a round is opened when none is, they submit their updates, and the
round is finalized.
-/

namespace Coordinator

variable {N : Numpy} {P : Platform} {start c : Coordinator N}

/-- A paused round is short of updates, and every update has its transfer id. -/
structure Tidy (c : Coordinator N) : Prop where
  few : ∀ active, c.activeRound = some active -> active.state = .paused ->
    active.updates.keys.length < c.job.minK
  transfers : ∀ active, c.activeRound = some active ->
    active.transferIds.length = active.updates.keys.length

theorem Step.tidy {call : Call N} {after : Coordinator N} (step : Step P c call after)
    (tidy : Tidy c) : Tidy after := by
  cases step with
  | kept => exact tidy
  | guarded encoded timeNs guard => exact ⟨tidy.few, tidy.transfers⟩
  | rejected encoded timeNs receipt =>
    constructor
    · intro active isActive
      obtain ⟨old, isOld, rfl⟩ := Option.map_eq_some_iff.mp isActive
      exact tidy.few old isOld
    · intro active isActive
      obtain ⟨old, isOld, rfl⟩ := Option.map_eq_some_iff.mp isActive
      exact tidy.transfers old isOld
  | @accepted _ _ envelope open_ _ decoded accepts =>
    constructor
    · intro active isActive paused
      obtain rfl := Option.some.inj isActive
      have isOpen : (Round.accept open_ envelope decoded).state = .open_ := accepts.screened.isOpen
      rw [isOpen] at paused
      cases paused
    · intro active isActive
      obtain rfl := Option.some.inj isActive
      have count := tidy.transfers open_ accepts.screened.isActive
      rw [Round.accept]
      dsimp only
      rw [keys_set_of_not_mem accepts.screened.worker, length_append, length_append, count]
      rfl
  | opened idle enough =>
    constructor
    · intro active isActive paused
      obtain rfl := Option.some.inj isActive
      cases paused
    · intro active isActive
      obtain rfl := Option.some.inj isActive
      rfl
  | @paused _ _ _ old isOld pending few late =>
    constructor
    · intro active isActive _
      obtain rfl := Option.some.inj isActive
      exact few
    · intro active isActive
      obtain rfl := Option.some.inj isActive
      exact tidy.transfers old isOld
  | @finalized _ _ _ old _ _ finalizes =>
    constructor
    · intro active isActive paused
      obtain rfl := Option.some.inj isActive
      cases paused
    · intro active isActive
      obtain rfl := Option.some.inj isActive
      exact tidy.transfers old finalizes.isActive
  | membership _ members kept => exact ⟨tidy.few, tidy.transfers⟩

theorem runCalls_comp (front back : List (Call N)) :
    runCalls P c (front ++ back) = runCalls P (runCalls P c front) back := by
  rw [runCalls, foldl_append]
  rfl

/-- The operations by which a round goes on; the others take workers away. -/
def Call.recovers : Call N -> Bool
  | .markFailed _ _ => false
  | .gracefulLeave _ _ => false
  | _ => true

/-- Some calls of the named kinds lead to the next round. -/
def Escapes (P : Platform) (c : Coordinator N) : Prop :=
  ∃ calls, (∀ call, call ∈ calls -> Call.recovers call = true) ∧
    c.currentRound < (runCalls P c calls).currentRound

def nextUpdate (P : Platform) (c : Coordinator N) (payload : Bytes) (worker transfer : Uuid) :
    BinaryEnvelope where
  roomId := c.roomId
  runId := c.runId
  workerId := P.strOfUuid worker
  transferId := P.strOfUuid transfer
  round := c.currentRound + 1
  payloadType := "diloco_outer_delta"
  shape := [(payload.length : Int)]
  dtype := "uint8"
  compression := c.config.codecId
  payload := payload
  timestampNs := 1
  extensions := []

/-- The payload is an update that fits the state and can be encoded. -/
def Sendable (P : Platform) (c : Coordinator N) (payload : Bytes) : Prop :=
  (∃ decoded, c.config.compressor.decompress c.config.codecId payload = .ok decoded ∧
    Matching c.globalState decoded) ∧
  ∀ worker transfer, ∃ encoded, (nextUpdate P c payload worker transfer).encode P = .ok encoded

section Submitting

variable {active : Round N} {payload : Bytes} {room run : Uuid}

end Submitting

theorem Escapes.after {calls : List (Call N)} {later : Coordinator N}
    (recover : ∀ call, call ∈ calls -> Call.recovers call = true)
    (reached : runCalls P c calls = later) (round : later.currentRound = c.currentRound)
    (escapes : Escapes P later) : Escapes P c := by
  obtain ⟨more, recoverMore, further⟩ := escapes
  refine ⟨calls ++ more, ?_, ?_⟩
  · intro call isCall
    rcases mem_append.mp isCall with early | late
    · exact recover call early
    · exact recoverMore call late
  · rw [runCalls_comp, reached, ← round]
    exact further

theorem Fresh.tidy (fresh : Fresh c) : Tidy c := by
  constructor
  all_goals
    intro active isActive
    rw [fresh.activeRound] at isActive
    cases isActive

end Coordinator

end Training
end ZepGpu
