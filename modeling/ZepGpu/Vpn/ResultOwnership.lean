import ZepGpu.Foundation.Loops
import ZepGpu.Foundation.Runs
import ZepGpu.Vpn.ExecuteOnce

namespace ZepGpu
namespace Vpn

open Foundation Dict List
open PeerMessages (TaskResultMessage)

/-!
# The owner of a result

A result is stored under the canonical text of its task together with the
sender that asked for it, and is read under the canonical text as well.  The
search for a duplicate task is made with the text of the message.  A message
that spells the task of a cached result in another accepted way is therefore
executed, and its result and its sender take the place of those in the tables.

As long as no such message arrives, an entry of the cache changes only when it
is evicted.
-/

section Ownership

variable {F : Type} {P : Platform} {floats : Json.Floats F} {node : PeerNode F} {task : String}
  {result : TaskResultMessage F}
  {owner : String}

/-- The node holds a result of the task and its owner. -/
structure Caches (node : PeerNode F) (task : String) (result : TaskResultMessage F) (owner : String) :
    Prop where
  result : node.taskResults.get? task = some result
  owner : node.taskResultOwners.get? task = some owner

/-- The result of a task is returned to its owner under every spelling, and
refused to every other sender. -/
def Returned (P : Platform) (node : PeerNode F) (task : String) (result : TaskResultMessage F)
    (owner : String) : Prop :=
  ∀ spelling authorization sender token, normalizeUuid P spelling = some task ->
    node.authenticateSender authorization = .ok (sender, token) ->
      node.getResult P spelling authorization =
        if sender = owner then .ok result
        else .error (.http 403 "Result belongs to a different sender")

theorem Caches.returned (cached : Caches node task result owner) :
    Returned P node task result owner := by
  intro spelling authorization sender token spells authenticated
  unfold PeerNode.getResult
  rw [authenticated, ok_bind]
  dsimp only
  rw [spells]
  dsimp only
  rw [cached.result]
  dsimp only
  rw [cached.owner]
  by_cases same : sender = owner
  · rw [if_pos same, same]
    exact raiseIf_bind_eq_ok.mpr ⟨fun different => different rfl, rfl⟩
  · rw [if_neg same, raiseIf, if_pos (fun equal => same (Option.some.inj equal).symm)]
    rfl

theorem owner_evictFirst (stays : task ∈ node.evictFirst.taskResults.keys) :
    node.evictFirst.taskResultOwners.get? task = node.taskResultOwners.get? task := by
  have distinct := node.taskResults.nodup
  revert stays
  unfold PeerNode.evictFirst
  split
  next => exact fun _ => rfl
  next first rest keys =>
    intro stays
    rw [keys, nodup_cons] at distinct
    rw [keys_popFirst, keys, tail_cons] at stays
    apply get?_erase_of_ne
    rintro rfl
    exact distinct.1 stays

theorem owner_iterate_evictFirst {count : Nat}
    (stays : task ∈ (PeerNode.evictFirst^[count] node).taskResults.keys) :
    (PeerNode.evictFirst^[count] node).taskResultOwners.get? task =
      node.taskResultOwners.get? task := by
  induction count generalizing node with
  | zero => rfl
  | succ count ih =>
    rw [Function.iterate_succ_apply] at stays ⊢
    have inside : task ∈ node.evictFirst.taskResults.keys := by
      rw [results_iterate_evictFirst, keys_iterate_popFirst] at stays
      exact mem_of_mem_drop stays
    rw [ih stays, owner_evictFirst inside]

theorem owner_storeResult (stays : task ∈ (node.storeResult result owner).taskResults.keys) :
    (node.storeResult result owner).taskResultOwners.get? task =
      (node.taskResultOwners.set result.taskId owner).get? task := by
  have stored : ∃ count, node.storeResult result owner = PeerNode.evictFirst^[count] { node with
      taskResults := node.taskResults.set result.taskId result
      taskResultOwners := node.taskResultOwners.set result.taskId owner } := ⟨_, rfl⟩
  rcases stored with ⟨count, stored⟩
  rw [stored] at stays ⊢
  exact owner_iterate_evictFirst stays

theorem storeResult_caches (stays : result.taskId ∈ (node.storeResult result owner).taskResults.keys) :
    Caches (node.storeResult result owner) result.taskId result owner := by
  constructor
  · rw [storeResult_results] at stays ⊢
    rw [get?_trim stays, get?_set_self]
  · rw [owner_storeResult stays, get?_set_self]

theorem Caches.storeResult {stored : TaskResultMessage F} {sender : String}
    (cached : Caches node task result owner) (different : task ≠ stored.taskId)
    (stays : task ∈ (node.storeResult stored sender).taskResults.keys) :
    Caches (node.storeResult stored sender) task result owner := by
  constructor
  · rw [storeResult_results] at stays ⊢
    rw [get?_trim stays, get?_set_of_ne different, cached.result]
  · rw [owner_storeResult stays, get?_set_of_ne different, cached.owner]

/-- A message that the endpoint has not seen names the task of a cached result
by its canonical text. -/
def SpellsCanonically (P : Platform) (floats : Json.Floats F) (node : PeerNode F) :
    PeerRequest F -> Prop
  | .result _ _ => True
  | .execute request =>
    ∀ sender token message task, node.admits P floats request = .ok (sender, token, message) ->
      message.messageId ∉ (node.pruned request.monotonic).seenMessageIds.keys ->
        normalizeUuid P message.taskId = some task -> task ∈ node.taskResults.keys ->
          message.taskId = task

theorem Caches.of_tables {other : PeerNode F} (cached : Caches node task result owner)
    (results : other.taskResults = node.taskResults)
    (owners : other.taskResultOwners = node.taskResultOwners) : Caches other task result owner := by
  constructor
  · rw [results, cached.result]
  · rw [owners, cached.owner]

theorem owners_of_claims {message : ExecuteTaskMessage} {claimed : PeerNode F} {now : Rat}
    (claims : node.claimMessage message now = ⟨.ok (), claimed⟩) :
    claimed.taskResultOwners = node.taskResultOwners := by
  rcases claims_fresh claims with ⟨_, _, same⟩
  rw [same]

theorem results_of_known {request : ExecuteRequest F} {sender token : String}
    {message : ExecuteTaskMessage}
    (admitted : node.admits P floats request = .ok (sender, token, message))
    (known : message.taskId ∈ node.taskResults.keys) :
    (node.executeTask P floats request).state.taskResults = node.taskResults := by
  have executes := executeTask_executes P floats node request
  generalize (node.executeTask P floats request).state = after at executes ⊢
  cases executes with
  | refused error same unclaimed => rfl
  | duplicate error same unclaimed => rfl
  | failed error _ _ _ claimed _ claims same => exact results_of_claims claims
  | answered _ _ _ claimed stored again claims ran same =>
    cases admitted.symm.trans again
    exact absurd known (claims_fresh claims).2.1

theorem caches_step {call : PeerRequest F} (cached : Caches node task result owner)
    (spells : SpellsCanonically P floats node call)
    (stays : task ∈ (node.step P floats call).taskResults.keys) :
    Caches (node.step P floats call) task result owner := by
  cases call with
  | result spelling authorization => exact cached
  | execute request =>
    have executes := executeTask_executes P floats node request
    rw [PeerNode.step] at stays ⊢
    generalize (node.executeTask P floats request).state = after at executes stays ⊢
    cases executes with
    | refused error same unclaimed => exact cached
    | duplicate error same unclaimed => exact cached.of_tables rfl rfl
    | failed error sender token message claimed admitted claims same =>
      exact cached.of_tables (results_of_claims claims) (owners_of_claims claims)
    | answered sender token message claimed stored admitted claims ran same =>
      have before : Caches claimed task result owner :=
        cached.of_tables (results_of_claims claims) (owners_of_claims claims)
      apply before.storeResult _ stays
      rintro rfl
      -- The message names the cached task, so its own text was found.
      rcases claims_fresh claims with ⟨unseen, uncached, _⟩
      have member := mem_keys_of_get? cached.result
      rw [spells sender token message _ admitted unseen (runTask_taskId ran) member] at uncached
      exact uncached member

/-- Whatever is cached at some point of the run stays cached with the same
result for the same owner, and is returned to it alone, for as long as its task
is not evicted. -/
def OwnershipKept (P : Platform) (floats : Json.Floats F) (node : PeerNode F)
    (calls : List (PeerRequest F)) : Prop :=
  ∀ front middle back task result owner, calls = front ++ middle ++ back ->
    Caches (front.foldl (PeerNode.step P floats) node) task result owner ->
      (∀ early late, middle = early ++ late ->
        task ∈ ((front ++ early).foldl (PeerNode.step P floats) node).taskResults.keys) ->
        Caches ((front ++ middle).foldl (PeerNode.step P floats) node) task result owner ∧
          Returned P ((front ++ middle).foldl (PeerNode.step P floats) node) task result owner

theorem caches_run {calls : List (PeerRequest F)} (cached : Caches node task result owner)
    (meets : Meets (PeerNode.step P floats) (SpellsCanonically P floats) node calls)
    (stays : ∀ early late, calls = early ++ late ->
      task ∈ (early.foldl (PeerNode.step P floats) node).taskResults.keys) :
    Caches (calls.foldl (PeerNode.step P floats) node) task result owner := by
  induction calls generalizing node with
  | nil => exact cached
  | cons call rest ih =>
    rw [foldl_cons]
    apply ih (caches_step cached meets.1 (stays [call] rest rfl)) meets.2
    intro early late split
    exact stays (call :: early) late (congrArg (call :: ·) split)

/-- A run whose messages spell the tasks of cached results canonically keeps
every result for its owner. -/
theorem ownership_kept (P : Platform) (floats : Json.Floats F) (node : PeerNode F)
    (calls : List (PeerRequest F))
    (meets : Meets (PeerNode.step P floats) (SpellsCanonically P floats) node calls) :
    OwnershipKept P floats node calls := by
  intro front middle back task result owner split cached stays
  rw [split, append_assoc] at meets
  have during := (meets_append.mp (meets_append.mp meets).2).1
  have kept : Caches ((front ++ middle).foldl (PeerNode.step P floats) node) task result owner := by
    rw [foldl_append]
    apply caches_run cached during
    intro early late parts
    rw [← foldl_append]
    exact stays early late parts
  exact ⟨kept, kept.returned⟩

theorem caches_of_answers {request : ExecuteRequest F} (answers : Answers P floats node request = true)
    (room : node.taskResults.keys.length < maxCachedResults) :
    ∃ sender token message result, node.admits P floats request = .ok (sender, token, message) ∧
      normalizeUuid P message.taskId = some result.taskId ∧
      Caches (node.executeTask P floats request).state result.taskId result sender ∧
      (node.executeTask P floats request).state.taskResults.keys.length ≤
        node.taskResults.keys.length + 1 := by
  rcases answers_cases answers with
    ⟨sender, token, message, claimed, result, admitted, claims, ran, after⟩
  have results : (claimed.storeResult result sender).taskResults =
      (node.taskResults.set result.taskId result).trim maxCachedResults := by
    rw [storeResult_results, results_of_claims claims]
  have grown : (node.taskResults.set result.taskId result).keys.length ≤
      node.taskResults.keys.length + 1 := by
    by_cases known : result.taskId ∈ node.taskResults.keys
    · rw [keys_set_of_mem known]
      exact Nat.le_succ _
    · rw [keys_set_of_not_mem known, length_append, length_singleton]
  have keys : (claimed.storeResult result sender).taskResults.keys =
      (node.taskResults.set result.taskId result).keys := by
    rw [results, keys_trim, Nat.sub_eq_zero_of_le (grown.trans room), drop_zero]
  have stays : result.taskId ∈ (claimed.storeResult result sender).taskResults.keys := by
    rw [keys]
    exact mem_keys_set.mpr (Or.inl rfl)
  rw [after]
  refine ⟨sender, token, message, result, admitted, runTask_taskId ran, storeResult_caches stays, ?_⟩
  rw [keys]
  exact grown

theorem foldl_execute_execute_result (first second : ExecuteRequest F) (spelling : String)
    (authorization : Option String) :
    [PeerRequest.execute first, .execute second, .result spelling authorization].foldl
      (PeerNode.step P floats) node =
        ((node.executeTask P floats first).state.executeTask P floats second).state :=
  rfl

/-- A second message that leaves the cached results alone leaves them to their
owner. -/
theorem returned_of_unchanged {first second : ExecuteRequest F} {spelling : String}
    {authorization : Option String}
    (kept : OwnershipKept P floats node
      [.execute first, .execute second, .result spelling authorization])
    (cached : Caches (node.executeTask P floats first).state task result owner)
    (unchanged : ((node.executeTask P floats first).state.executeTask P floats second).state.taskResults =
      (node.executeTask P floats first).state.taskResults) :
    Returned P ((node.executeTask P floats first).state.executeTask P floats second).state task result owner := by
  have member := mem_keys_of_get? cached.result
  have executed : task ∈
      ((node.executeTask P floats first).state.executeTask P floats second).state.taskResults.keys := by
    rw [unchanged]
    exact member
  apply (kept [.execute first] [.execute second, .result spelling authorization] [] task result
    owner rfl cached _).2
  intro early late split
  match early, split with
  | [], _ => exact member
  | [_], rfl => exact executed
  | [_, _], rfl => exact executed

theorem meets_of_canonical {first second : ExecuteRequest F} {spelling sender token : String}
    {authorization : Option String} {message : ExecuteTaskMessage}
    (fresh : node.taskResults = Dict.empty)
    (admitted : (node.executeTask P floats first).state.admits P floats second =
      .ok (sender, token, message))
    (canonical : normalizeUuid P message.taskId = some message.taskId) :
    Meets (PeerNode.step P floats) (SpellsCanonically P floats) node
      [.execute first, .execute second, .result spelling authorization] := by
  refine ⟨?_, ?_, trivial, trivial⟩
  · intro sender token message task _ _ _ member
    rw [fresh] at member
    exact absurd member not_mem_nil
  · intro sender token message task again _ spells _
    cases admitted.symm.trans again
    exact Option.some.inj (canonical.symm.trans spells)

theorem not_kept_of_replaced {early late : ExecuteRequest F} {later : TaskResultMessage F}
    {other : String} (cached : Caches (node.executeTask P floats early).state task result owner)
    (replaced : Caches ((node.executeTask P floats early).state.executeTask P floats late).state task later other)
    (different : owner ≠ other) : ¬ OwnershipKept P floats node [.execute early, .execute late] := by
  intro kept
  have still := kept [.execute early] [.execute late] [] task result owner rfl cached
  have stays : ∀ front back, [PeerRequest.execute late] = front ++ back ->
      task ∈ (([PeerRequest.execute early] ++ front).foldl
        (PeerNode.step P floats) node).taskResults.keys := by
    intro front back split
    rcases front with _ | ⟨call, front⟩
    · exact mem_keys_of_get? cached.result
    · rw [cons_append, List.cons.injEq, eq_comm (a := []), append_eq_nil_iff] at split
      rcases split with ⟨rfl, rfl, _⟩
      exact mem_keys_of_get? replaced.result
  have owners := (still stays).1.owner.symm.trans replaced.owner
  exact different (Option.some.inj owners)

end Ownership

/-! ## Two senders

A second sender asks for the task of the first with the same capital letters. -/

namespace Sample

open PeerMessages.Sample (platform wholeFloats firstSender secondSender firstToken secondToken)

/-- A message of the second sender for the task of the first, spelled canonically. -/
def copied : ExecuteTaskMessage :=
  { messageOf "88888888-8888-4888-8888-888888888888" secondSender
      "0000000000000000000000000000000000000000000000000000000024ebc9d5" with
    taskId := "aaaaaaaa-1111-4111-8111-111111111111" }

theorem copied_signed : Signed copied secondSender secondToken where
  configured := first_signed.configured
  json := first_signed.json
  known := by decide +kernel
  encoded := by decide +kernel
  fits := by decide +kernel
  valid := by decide +kernel
  code := by decide +kernel
  authorized := by decide +kernel
  runs := by decide +kernel

theorem copied_task : normalizeUuid platform first.taskId = some copied.taskId ∧
    normalizeUuid platform copied.taskId = some copied.taskId := by
  decide +kernel

/-- The second sender asks for the task of the first and for its result, and gets
neither. -/
theorem ownership_kept_from_copy :
    let calls : List (PeerRequest Int) := [.execute (request first firstToken 1000 0),
      .execute (request copied secondToken 1001 1),
      .result first.taskId (some ("Bearer " ++ secondToken))]
    OwnershipKept platform wholeFloats node calls ∧
      ∃ result, let after := calls.foldl (PeerNode.step platform wholeFloats) node
        after.getResult platform first.taskId (some ("Bearer " ++ firstToken)) = .ok result ∧
        after.getResult platform first.taskId (some ("Bearer " ++ secondToken)) =
          .error (.http 403 "Result belongs to a different sender") := by
  intro calls
  have scope := sameScope_executeTask platform wholeFloats node (request first firstToken 1000 0)
  have admitted := @Signed.admits _ _ _ 1001 1 _ copied_signed scope (by simp)
  have kept : OwnershipKept platform wholeFloats node calls :=
    ownership_kept _ _ _ _ (meets_of_canonical node_tables.1 admitted copied_task.2)
  have room : node.taskResults.keys.length < maxCachedResults := by
    rw [node_tables.1]
    exact Nat.succ_pos _
  rcases caches_of_answers first_answered room with
    ⟨sender, token, message, result, first_admits, isTask, cached, _⟩
  rw [first_admitted] at first_admits
  cases first_admits
  have task : result.taskId = copied.taskId := Option.some.inj (isTask.symm.trans copied_task.1)
  rw [task] at cached
  have unchanged := results_of_known admitted (mem_keys_of_get? cached.result)
  have returned := returned_of_unchanged kept cached unchanged
  have same_scope := (sameScope_executeTask platform wholeFloats
    (node.executeTask platform wholeFloats (request first firstToken 1000 0)).state
    (request copied secondToken 1001 1)).trans scope
  have first_known := ok_of_toOption first_signed.known
  have copied_known := ok_of_toOption copied_signed.known
  rw [← same_scope.authenticates] at first_known copied_known
  refine ⟨kept, result, ?_⟩
  rw [foldl_execute_execute_result]
  constructor
  · exact (returned _ _ _ _ copied_task.1 first_known).trans (if_pos rfl)
  · exact (returned _ _ _ _ copied_task.1 copied_known).trans (if_neg (by decide))

def second : ExecuteTaskMessage :=
  messageOf "77777777-7777-4777-8777-777777777777" secondSender
    "0000000000000000000000000000000000000000000000000000000087705635"

theorem second_signed : Signed second secondSender secondToken where
  configured := first_signed.configured
  json := first_signed.json
  known := by decide +kernel
  encoded := by decide +kernel
  fits := by decide +kernel
  valid := by decide +kernel
  code := by decide +kernel
  authorized := by decide +kernel
  runs := by decide +kernel

theorem second_unseen : second.messageId ∉ (((Dict.empty.set first.messageId (0 : Rat)).trim
    maxSeenMessages).dropExpired (PeerNode.expiredAt 1)).keys := by
  decide +kernel

theorem second_admitted {later : PeerNode Int} (scope : SameScope later node) :
    later.admits platform wholeFloats (request second secondToken 1001 1) =
      .ok (secondSender, secondToken, second) :=
  second_signed.admits scope (by simp)

theorem second_answered : Answers platform wholeFloats
    (node.executeTask platform wholeFloats (request first firstToken 1000 0)).state
    (request second secondToken 1001 1) = true := by
  have seen := seen_first
  have scope := sameScope_executeTask platform wholeFloats node (request first firstToken 1000 0)
  have canonical := @canonicalKeys_executeTask _ _ wholeFloats _ (request first firstToken 1000 0)
    canonicalKeys_node
  rw [executeAll_singleton] at seen
  generalize (node.executeTask platform wholeFloats (request first firstToken 1000 0)).state =
    later at *
  rcases @Signed.ran _ _ _ 1001 1 later second_signed scope with ⟨result, ran⟩
  apply answers_of_new (second_admitted scope) _ _ ran
  · rw [PeerNode.pruned, seen]
    exact second_unseen
  · exact fun cached => first_spelled (canonical _ cached)

end Sample

open PeerMessages.Sample (platform wholeFloats firstToken secondToken)

/-- The second sender takes the place of the first. -/
theorem owner_replaced : ¬ OwnershipKept platform wholeFloats Sample.node
    [.execute (Sample.request Sample.first firstToken 1000 0),
      .execute (Sample.request Sample.second secondToken 1001 1)] := by
  intro kept
  have scope := sameScope_executeTask platform wholeFloats Sample.node
    (Sample.request Sample.first firstToken 1000 0)
  have room : Sample.node.taskResults.keys.length < maxCachedResults := by
    rw [Sample.node_tables.1]
    exact Nat.succ_pos _
  rcases caches_of_answers Sample.first_answered room with
    ⟨sender, token, message, result, admitted, isTask, cached, grown⟩
  rw [Sample.first_admitted] at admitted
  cases admitted
  have room' : (Sample.node.executeTask platform wholeFloats
      (Sample.request Sample.first firstToken 1000 0)).state.taskResults.keys.length <
        maxCachedResults := by
    rw [Sample.node_tables.1] at grown
    exact lt_of_le_of_lt grown (Nat.succ_lt_succ (Nat.succ_pos _))
  rcases caches_of_answers Sample.second_answered room' with
    ⟨sender', token', message', result', admitted', isTask', cached', _⟩
  rw [Sample.second_admitted scope] at admitted'
  cases admitted'
  have sameTask : result'.taskId = result.taskId := by
    have same : Sample.second.taskId = Sample.first.taskId := rfl
    rw [same, isTask] at isTask'
    exact (Option.some.inj isTask').symm
  rw [sameTask] at cached'
  exact not_kept_of_replaced cached cached' (by decide) kept

end Vpn
end ZepGpu
