import ZepGpu.Vpn.MessageRoundTrip
import ZepGpu.Vpn.PeerNode

namespace ZepGpu
namespace Vpn

open Foundation Dict PeerMessages List

/-!
# Replays of a message

A message that was executed is refused as long as its identifier is in the
table of seen messages or its task, as the message spells it, is in the table
of results.  The first table forgets after five minutes and beyond 4096
messages, the second beyond 1024 results, and a result is stored under the
canonical spelling of its task.  The window of the issue times is longer than
five minutes, because it begins before the time of issue.

`Held` follows the entry of a message through the run: each request moves it
by at most one place.
-/

section Once

variable {F : Type} {P : Platform} {floats : Json.Floats F} {node : PeerNode F}
  {request : ExecuteRequest F}

/-! ## Bodies -/

theorem readChunks_eq {body raw : Bytes} {chunks : List Bytes}
    (read : PeerNode.readChunks body chunks = .ok raw) : raw = body ++ chunks.flatten := by
  induction chunks generalizing body with
  | nil =>
    cases read
    rw [flatten_nil, append_nil]
  | cons chunk rest ih =>
    rcases raiseIf_bind_eq_ok.mp read with ⟨_, read⟩
    rw [ih read, flatten_cons, append_assoc]

theorem readBoundedJson_eq {raw : Bytes} (read : PeerNode.readBoundedJson request = .ok raw) :
    raw = request.raw := by
  rcases raiseIf_bind_eq_ok.mp read with ⟨_, read⟩
  cases length : request.contentLength with
  | none =>
    rw [length] at read
    exact readChunks_eq read
  | some text =>
    rw [length] at read
    dsimp only at read
    cases announced : readInt? text.toList with
    | none =>
      rw [announced] at read
      cases read
    | some count =>
      rw [announced] at read
      rcases raiseIf_bind_eq_ok.mp read with ⟨_, read⟩
      rcases raiseIf_bind_eq_ok.mp read with ⟨_, read⟩
      exact readChunks_eq read

theorem mapError_eq_ok {ε ε' α : Type} {change : ε -> ε'} {result : Except ε α} {value : α}
    (mapped : result.mapError change = .ok value) : result = .ok value := by
  cases result with
  | error error => cases mapped
  | ok other =>
    cases mapped
    rfl

variable {message : ExecuteTaskMessage} {sender token : String} {result : TaskResultMessage F}
  {claimed : PeerNode F} {younger : Nat} {now : Rat}

theorem decodeExecute_eq_ok {raw : Bytes} {token : String}
    (decoded : PeerNode.decodeExecute P floats raw token = .ok message) :
    decodeMessage P floats raw token (some .execute) = .ok (.execute message) := by
  unfold PeerNode.decodeExecute at decoded
  split at decoded
  next other same =>
    cases decoded
    exact same
  all_goals cases decoded

theorem admits_decoded (admitted : node.admits P floats request = .ok (sender, token, message)) :
    decodeMessage P floats request.raw token (some .execute) =
      .ok (.execute message) := by
  rcases raiseIf_bind_eq_ok.mp admitted with ⟨_, admitted⟩
  rcases bind_eq_ok.mp admitted with ⟨⟨peer, presented⟩, _, admitted⟩
  rcases bind_eq_ok.mp admitted with ⟨raw, read, admitted⟩
  rcases bind_eq_ok.mp admitted with ⟨decoded, isDecoded, admitted⟩
  rcases bind_eq_ok.mp admitted with ⟨_, _, admitted⟩
  cases admitted
  rw [← readBoundedJson_eq read]
  exact decodeExecute_eq_ok isDecoded

/-! ## One request -/

def Claims (P : Platform) (floats : Json.Floats F) (node : PeerNode F)
    (request : ExecuteRequest F) : Bool :=
  match node.admits P floats request with
  | .error _ => false
  | .ok (_, _, message) => (node.claimMessage message request.monotonic).result.toOption.isSome

def Answers (P : Platform) (floats : Json.Floats F) (node : PeerNode F)
    (request : ExecuteRequest F) : Bool :=
  (node.executeTask P floats request).result.toOption.isSome

theorem claimMessage_cases (node : PeerNode F) (message : ExecuteTaskMessage) (now : Rat) :
    (∃ error, node.claimMessage message now = ⟨.error error, node.pruned now⟩) ∨
      ∃ claimed, node.claimMessage message now = ⟨.ok (), claimed⟩ ∧
        message.messageId ∉ (node.pruned now).seenMessageIds.keys ∧
        message.taskId ∉ node.taskResults.keys ∧
        claimed = { node with
          seenMessageIds := ((node.pruned now).seenMessageIds.set message.messageId now).trim
            maxSeenMessages } := by
  unfold PeerNode.claimMessage
  dsimp only
  split_ifs with seen cached
  · exact Or.inl ⟨_, rfl⟩
  · exact Or.inl ⟨_, rfl⟩
  · exact Or.inr ⟨_, rfl, seen, cached, rfl⟩

theorem results_iterate_evictFirst (count : Nat) (node : PeerNode F) :
    (PeerNode.evictFirst^[count] node).taskResults = Dict.popFirst^[count] node.taskResults := by
  induction count generalizing node with
  | zero => rfl
  | succ count ih =>
    rw [Function.iterate_succ_apply, Function.iterate_succ_apply, ih]
    congr 1
    unfold PeerNode.evictFirst
    split
    next empty => rw [Dict.popFirst, empty]
    next => rfl

theorem seen_iterate_evictFirst (count : Nat) (node : PeerNode F) :
    (PeerNode.evictFirst^[count] node).seenMessageIds = node.seenMessageIds := by
  induction count generalizing node with
  | zero => rfl
  | succ count ih =>
    rw [Function.iterate_succ_apply, ih]
    unfold PeerNode.evictFirst
    split
    · rfl
    · rfl

theorem storeResult_results (node : PeerNode F) (result : TaskResultMessage F) (owner : String) :
    (node.storeResult result owner).taskResults =
      (node.taskResults.set result.taskId result).trim maxCachedResults :=
  results_iterate_evictFirst _ _

theorem storeResult_seen (node : PeerNode F) (result : TaskResultMessage F) (owner : String) :
    (node.storeResult result owner).seenMessageIds = node.seenMessageIds :=
  seen_iterate_evictFirst _ _

theorem executeTask_of_admits
    (admitted : node.admits P floats request = .ok (sender, token, message)) :
    node.executeTask P floats request =
      (node.claimMessage message request.monotonic).andThen (fun _ node =>
        match node.runTask P floats sender token message request with
        | .error error => ⟨.error error, node⟩
        | .ok result => ⟨.ok result, node.storeResult result sender⟩) := by
  unfold PeerNode.executeTask
  split
  next error refused =>
    rw [admitted] at refused
    cases refused
  next other same =>
    rw [admitted] at same
    cases same
    rfl

/-- What a request does: it is refused at once, refused after the table was
pruned, fails after it was claimed, or is answered and stored. -/
inductive Executes (P : Platform) (floats : Json.Floats F) (node : PeerNode F)
    (request : ExecuteRequest F) : PeerNode F -> Prop where
  | refused (error : PeerError) (same : node.executeTask P floats request = ⟨.error error, node⟩)
      (unclaimed : Claims P floats node request = false) : Executes P floats node request node
  | duplicate (error : PeerError)
      (same : node.executeTask P floats request = ⟨.error error, node.pruned request.monotonic⟩)
      (unclaimed : Claims P floats node request = false) :
      Executes P floats node request (node.pruned request.monotonic)
  | failed (error : PeerError) (sender token : String) (message : ExecuteTaskMessage)
      (claimed : PeerNode F) (admitted : node.admits P floats request = .ok (sender, token, message))
      (claims : node.claimMessage message request.monotonic = ⟨.ok (), claimed⟩)
      (same : node.executeTask P floats request = ⟨.error error, claimed⟩) :
      Executes P floats node request claimed
  | answered (sender token : String) (message : ExecuteTaskMessage) (claimed : PeerNode F)
      (result : TaskResultMessage F)
      (admitted : node.admits P floats request = .ok (sender, token, message))
      (claims : node.claimMessage message request.monotonic = ⟨.ok (), claimed⟩)
      (ran : claimed.runTask P floats sender token message request = .ok result)
      (same : node.executeTask P floats request = ⟨.ok result, claimed.storeResult result sender⟩) :
      Executes P floats node request (claimed.storeResult result sender)

theorem executeTask_executes (P : Platform) (floats : Json.Floats F) (node : PeerNode F)
    (request : ExecuteRequest F) :
    Executes P floats node request (node.executeTask P floats request).state := by
  cases admitted : node.admits P floats request with
  | error error =>
    have same : node.executeTask P floats request = ⟨.error error, node⟩ := by
      rw [PeerNode.executeTask, admitted]
    have unclaimed : Claims P floats node request = false := by
      rw [Claims, admitted]
    rw [same]
    exact Executes.refused error same unclaimed
  | ok entry =>
    rcases entry with ⟨sender, token, message⟩
    have unfolded := executeTask_of_admits admitted
    rcases claimMessage_cases node message request.monotonic with
      ⟨error, claims⟩ | ⟨claimed, claims, _⟩
    · have same : node.executeTask P floats request =
          ⟨.error error, node.pruned request.monotonic⟩ := by
        rw [unfolded, claims]
        rfl
      have unclaimed : Claims P floats node request = false := by
        rw [Claims, admitted]
        dsimp only
        rw [claims]
        rfl
      rw [same]
      exact Executes.duplicate error same unclaimed
    · rw [claims, Outcome.andThen] at unfolded
      dsimp only at unfolded
      split at unfolded
      next error _ =>
        rw [unfolded]
        exact Executes.failed error sender token message _ admitted claims unfolded
      next result ran =>
        have answered := Executes.answered sender token message claimed result admitted claims ran
          unfolded
        have state : (node.executeTask P floats request).state =
            claimed.storeResult result sender := by
          rw [unfolded]
        rw [state]
        exact answered

section

variable (claims : node.claimMessage message now = ⟨.ok (), claimed⟩)

include claims

theorem claims_fresh :
    message.messageId ∉ (node.pruned now).seenMessageIds.keys ∧
      message.taskId ∉ node.taskResults.keys ∧
      claimed = { node with
        seenMessageIds := ((node.pruned now).seenMessageIds.set message.messageId now).trim
          maxSeenMessages } := by
  rcases claimMessage_cases node message now with ⟨error, failed⟩ | ⟨other, accepted, fresh⟩
  · rw [failed] at claims
    cases claims
  · rw [accepted] at claims
    cases claims
    exact fresh

theorem results_of_claims : claimed.taskResults = node.taskResults := by
  rcases claims_fresh claims with ⟨_, _, same⟩
  rw [same]

theorem seen_of_claims :
    claimed.seenMessageIds =
      ((node.pruned now).seenMessageIds.set message.messageId now).trim maxSeenMessages := by
  rcases claims_fresh claims with ⟨_, _, same⟩
  rw [same]

theorem held_of_claims : claimed.seenMessageIds.Held message.messageId now 0 := by
  have room : 0 < maxSeenMessages := Nat.succ_pos _
  rw [seen_of_claims claims]
  exact (held_set (claims_fresh claims).1).trim room

end

theorem runTask_taskId (ran : node.runTask P floats sender token message request = .ok result) :
    normalizeUuid P message.taskId = some result.taskId := by
  rcases bind_eq_ok.mp ran with ⟨_, _, ran⟩
  rcases bind_eq_ok.mp ran with ⟨attestation, _, ran⟩
  exact createResultMessage_taskId P floats (mapError_eq_ok ran)

theorem claims_of_claimed (admitted : node.admits P floats request = .ok (sender, token, message))
    (claims : node.claimMessage message request.monotonic = ⟨.ok (), claimed⟩) :
    Claims P floats node request = true := by
  rw [Claims, admitted]
  dsimp only
  rw [claims]
  rfl

/-! ## Scope -/

/-- The configuration of the node is unchanged. -/
def SameScope (left right : PeerNode F) : Prop :=
  left.roomId = right.roomId ∧ left.peerId = right.peerId ∧
    left.authorizedPeerTokens = right.authorizedPeerTokens ∧
    left.ledgerPrivateKey = right.ledgerPrivateKey ∧ left.ledgerPublicKey = right.ledgerPublicKey

theorem SameScope.trans {first second third : PeerNode F} (left : SameScope first second)
    (right : SameScope second third) : SameScope first third :=
  ⟨left.1.trans right.1, left.2.1.trans right.2.1, left.2.2.1.trans right.2.2.1,
    left.2.2.2.1.trans right.2.2.2.1, left.2.2.2.2.trans right.2.2.2.2⟩

theorem SameScope.authenticates {left right : PeerNode F} (same : SameScope left right)
    (authorization : Option String) :
    left.authenticateSender authorization = right.authenticateSender authorization := by
  unfold PeerNode.authenticateSender
  rw [same.2.2.1]

theorem SameScope.admits {left right : PeerNode F} (same : SameScope left right) :
    left.admits P floats request = right.admits P floats request := by
  rcases same with ⟨room, peer, tokens, _⟩
  unfold PeerNode.admits PeerNode.authenticateSender PeerNode.authorizeMessage
  rw [room, peer, tokens]

theorem SameScope.runTask {left right : PeerNode F} (same : SameScope left right)
    (sender token : String) (message : ExecuteTaskMessage) :
    left.runTask P floats sender token message request =
      right.runTask P floats sender token message request := by
  rcases same with ⟨room, peer, _, privateKey, publicKey⟩
  unfold PeerNode.runTask PeerNode.attestationFields PeerNode.resultArguments
    PeerNode.hashResultAttestation
  rw [room, peer, privateKey, publicKey]

theorem sameScope_iterate_evictFirst (count : Nat) (node : PeerNode F) :
    SameScope (PeerNode.evictFirst^[count] node) node := by
  induction count generalizing node with
  | zero => exact ⟨rfl, rfl, rfl, rfl, rfl⟩
  | succ count ih =>
    rw [Function.iterate_succ_apply]
    apply (ih _).trans
    unfold PeerNode.evictFirst
    split
    · exact ⟨rfl, rfl, rfl, rfl, rfl⟩
    · exact ⟨rfl, rfl, rfl, rfl, rfl⟩

theorem sameScope_executeTask (P : Platform) (floats : Json.Floats F) (node : PeerNode F)
    (request : ExecuteRequest F) :
    SameScope (node.executeTask P floats request).state node := by
  have executes := executeTask_executes P floats node request
  generalize (node.executeTask P floats request).state = after at executes ⊢
  cases executes with
  | refused error same unclaimed => exact ⟨rfl, rfl, rfl, rfl, rfl⟩
  | duplicate error same unclaimed => exact ⟨rfl, rfl, rfl, rfl, rfl⟩
  | failed error sender token message claimed admitted claims same =>
    rw [(claims_fresh claims).2.2]
    exact ⟨rfl, rfl, rfl, rfl, rfl⟩
  | answered sender token message claimed result admitted claims ran same =>
    have scope : SameScope claimed node := by
      rw [(claims_fresh claims).2.2]
      exact ⟨rfl, rfl, rfl, rfl, rfl⟩
    exact (sameScope_iterate_evictFirst _ _).trans scope

theorem answers_of_new (admitted : node.admits P floats request = .ok (sender, token, message))
    (unseen : message.messageId ∉ (node.pruned request.monotonic).seenMessageIds.keys)
    (uncached : message.taskId ∉ node.taskResults.keys)
    (ran : node.runTask P floats sender token message request = .ok result) :
    Answers P floats node request = true := by
  have claims : ∃ claimed, node.claimMessage message request.monotonic = ⟨.ok (), claimed⟩ ∧
      SameScope claimed node := by
    have uncached' : message.taskId ∉ (node.pruned request.monotonic).taskResults.keys := uncached
    unfold PeerNode.claimMessage
    dsimp only
    rw [if_neg unseen, if_neg uncached']
    exact ⟨_, rfl, rfl, rfl, rfl, rfl, rfl⟩
  rcases claims with ⟨claimed, claims, scope⟩
  rw [Answers, executeTask_of_admits admitted, claims, Outcome.andThen]
  dsimp only
  rw [scope.runTask, ran]
  rfl

/-- Results are kept under canonical texts. -/
def CanonicalKeys (P : Platform) (node : PeerNode F) : Prop :=
  ∀ task, task ∈ node.taskResults.keys -> normalizeUuid P task = some task

theorem normalizeUuid_canonical {text canonical : String}
    (read : normalizeUuid P text = some canonical) : normalizeUuid P canonical = some canonical := by
  rcases Option.map_eq_some_iff.mp read with ⟨id, _, rfl⟩
  rw [normalizeUuid, P.uuidOfString_strOfUuid]
  rfl

theorem canonicalKeys_executeTask (canonical : CanonicalKeys P node) :
    CanonicalKeys P (node.executeTask P floats request).state := by
  have executes := executeTask_executes P floats node request
  generalize (node.executeTask P floats request).state = after at executes ⊢
  cases executes with
  | refused error same unclaimed => exact canonical
  | duplicate error same unclaimed => exact canonical
  | failed error sender token message claimed admitted claims same =>
    intro task member
    rw [results_of_claims claims] at member
    exact canonical task member
  | answered sender token message claimed result admitted claims ran same =>
    have results := results_of_claims claims
    intro task member
    rw [storeResult_results, results, keys_trim] at member
    rcases mem_keys_set.mp (mem_of_mem_drop member) with rfl | old
    · exact normalizeUuid_canonical (runTask_taskId ran)
    · exact canonical task old

/-! ## The entry of a message -/

theorem held_seen_step {id : String} {seenAt : Rat}
    (held : node.seenMessageIds.Held id seenAt younger)
    (recent : request.monotonic - seenAt ≤ messageMaxAgeSeconds)
    (room : younger + (Claims P floats node request).toNat < maxSeenMessages) :
    (node.executeTask P floats request).state.seenMessageIds.Held id seenAt
      (younger + (Claims P floats node request).toNat) := by
  have live : PeerNode.expiredAt request.monotonic seenAt = false := by
    rw [PeerNode.expiredAt, decide_eq_false_iff_not, not_not]
    exact recent
  have kept : (node.pruned request.monotonic).seenMessageIds.Held id seenAt younger :=
    held.dropExpired live
  have claimedHeld : ∀ {sender token : String} {message : ExecuteTaskMessage}
      {claimed : PeerNode F}, node.admits P floats request = .ok (sender, token, message) ->
      node.claimMessage message request.monotonic = ⟨.ok (), claimed⟩ ->
      claimed.seenMessageIds.Held id seenAt (younger + (Claims P floats node request).toNat) := by
    intro sender token message claimed admitted claims
    rw [claims_of_claimed admitted claims, Bool.toNat_true] at room ⊢
    have different : message.messageId ≠ id := by
      rintro rfl
      exact (claims_fresh claims).1 kept.mem
    rw [seen_of_claims claims]
    exact (kept.set different).trim room
  have executes := executeTask_executes P floats node request
  generalize (node.executeTask P floats request).state = later at executes ⊢
  cases executes with
  | refused error same unclaimed =>
    rw [unclaimed]
    exact held
  | duplicate error same unclaimed =>
    rw [unclaimed]
    exact kept
  | failed error sender token message claimed admitted claims same =>
    exact claimedHeld admitted claims
  | answered sender token message claimed result admitted claims ran same =>
    rw [storeResult_seen]
    exact claimedHeld admitted claims

theorem held_results_step {task : String} (held : node.taskResults.Held task result younger)
    (room : younger + (Answers P floats node request).toNat < maxCachedResults) :
    ∃ later, (node.executeTask P floats request).state.taskResults.Held task later
      (younger + (Answers P floats node request).toNat) := by
  have executes := executeTask_executes P floats node request
  generalize (node.executeTask P floats request).state = after at executes ⊢
  cases executes with
  | refused error same unclaimed => exact ⟨result, held.mono (Nat.le_add_right _ _)⟩
  | duplicate error same unclaimed => exact ⟨result, Dict.Held.mono held (Nat.le_add_right _ _)⟩
  | failed error sender token message claimed admitted claims same =>
    rw [results_of_claims claims]
    exact ⟨result, Dict.Held.mono held (Nat.le_add_right _ _)⟩
  | answered sender token message claimed stored admitted claims ran same =>
    have answers : Answers P floats node request = true := by
      rw [Answers, same]
      rfl
    rw [answers, Bool.toNat_true] at room ⊢
    rw [storeResult_results, results_of_claims claims]
    by_cases again : stored.taskId = task
    · rw [again]
      exact ⟨stored, (held.replace.mono (Nat.le_succ younger)).trim room⟩
    · exact ⟨result, (held.set again).trim room⟩

/-! ## Runs -/

def executeAll (P : Platform) (floats : Json.Floats F) (node : PeerNode F)
    (requests : List (ExecuteRequest F)) : PeerNode F :=
  requests.foldl (fun node request => (node.executeTask P floats request).state) node

/-- How many requests of a run pass a test in the state that they find. -/
def countIn (P : Platform) (floats : Json.Floats F) (test : PeerNode F -> ExecuteRequest F -> Bool) :
    PeerNode F -> List (ExecuteRequest F) -> Nat
  | _, [] => 0
  | node, request :: rest =>
    (test node request).toNat + countIn P floats test (node.executeTask P floats request).state rest

theorem held_seen_run {id : String} {seenAt : Rat} {requests : List (ExecuteRequest F)}
    (held : node.seenMessageIds.Held id seenAt younger)
    (recent : ∀ request, request ∈ requests -> request.monotonic - seenAt ≤ messageMaxAgeSeconds)
    (room : younger + countIn P floats (Claims P floats) node requests < maxSeenMessages) :
    (executeAll P floats node requests).seenMessageIds.Held id seenAt
      (younger + countIn P floats (Claims P floats) node requests) := by
  induction requests generalizing node younger with
  | nil => exact held
  | cons request rest ih =>
    rw [countIn, ← Nat.add_assoc] at room ⊢
    apply ih _ _ room
    · apply held_seen_step held (recent request (mem_cons_self ..))
      exact lt_of_le_of_lt (Nat.le_add_right _ _) room
    · exact fun other member => recent other (mem_cons_of_mem _ member)

theorem held_results_run {task : String} {requests : List (ExecuteRequest F)}
    (held : node.taskResults.Held task result younger)
    (room : younger + countIn P floats (Answers P floats) node requests < maxCachedResults) :
    ∃ later, (executeAll P floats node requests).taskResults.Held task later
      (younger + countIn P floats (Answers P floats) node requests) := by
  induction requests generalizing node younger result with
  | nil => exact ⟨result, held⟩
  | cons request rest ih =>
    rw [countIn, ← Nat.add_assoc] at room ⊢
    rcases held_results_step held (lt_of_le_of_lt (Nat.le_add_right _ _) room) with ⟨later, moved⟩
    exact ih moved room

/-- The clocks advance, and both by the same amount. -/
def ClocksAdvance (requests : List (ExecuteRequest F)) : Prop :=
  requests.Pairwise (fun earlier later => earlier.monotonic ≤ later.monotonic ∧
    later.wall - earlier.wall = later.monotonic - earlier.monotonic)

/-- No bytes are executed twice: after a result for a message, every request
with the same bytes is refused. -/
def ExecutedOnce (P : Platform) (floats : Json.Floats F) (node : PeerNode F)
    (requests : List (ExecuteRequest F)) : Prop :=
  ∀ front first middle second back,
    requests = front ++ first :: (middle ++ second :: back) -> second.raw = first.raw ->
      Answers P floats (executeAll P floats node front) first = true ->
        Answers P floats (executeAll P floats node (front ++ first :: middle)) second = false

/-- Between a message that was executed and a request with the same bytes that
is still within its window, at most five minutes pass and fewer than 4096
other messages are claimed, or the message spells its task canonically and
fewer than 1024 other results are stored. -/
def ReplaysInTime (P : Platform) (floats : Json.Floats F) (node : PeerNode F)
    (requests : List (ExecuteRequest F)) : Prop :=
  ∀ front first middle second back sender token message,
    requests = front ++ first :: (middle ++ second :: back) -> second.raw = first.raw ->
      Answers P floats (executeAll P floats node front) first = true ->
        (executeAll P floats node (front ++ first :: middle)).admits P floats second =
          .ok (sender, token, message) ->
          (second.monotonic - first.monotonic ≤ messageMaxAgeSeconds ∧
            countIn P floats (Claims P floats)
              (executeAll P floats node (front ++ [first])) middle < maxSeenMessages) ∨
          (normalizeUuid P message.taskId = some message.taskId ∧
            countIn P floats (Answers P floats)
              (executeAll P floats node (front ++ [first])) middle < maxCachedResults)

theorem executeAll_append (front back : List (ExecuteRequest F)) :
    executeAll P floats node (front ++ back) =
      executeAll P floats (executeAll P floats node front) back :=
  foldl_append ..

theorem executeAll_singleton : executeAll P floats node [request] =
    (node.executeTask P floats request).state := rfl

theorem answers_cases (answers : Answers P floats node request = true) :
    ∃ sender token message claimed result,
      node.admits P floats request = .ok (sender, token, message) ∧
        node.claimMessage message request.monotonic = ⟨.ok (), claimed⟩ ∧
        claimed.runTask P floats sender token message request = .ok result ∧
        (node.executeTask P floats request).state = claimed.storeResult result sender := by
  have refuted : ∀ {error : PeerError} {later : PeerNode F},
      node.executeTask P floats request = ⟨.error error, later⟩ -> False := by
    intro error later same
    rw [Answers, same] at answers
    exact Bool.false_ne_true answers
  have executes := executeTask_executes P floats node request
  generalize (node.executeTask P floats request).state = after at executes ⊢
  cases executes with
  | refused error same unclaimed => exact (refuted same).elim
  | duplicate error same unclaimed => exact (refuted same).elim
  | failed error sender token message claimed admitted claims same => exact (refuted same).elim
  | answered sender token message claimed result admitted claims ran same =>
    exact ⟨sender, token, message, claimed, result, admitted, claims, ran, rfl⟩

theorem answers_of_known (admitted : node.admits P floats request = .ok (sender, token, message))
    (known : message.messageId ∈ (node.pruned request.monotonic).seenMessageIds.keys ∨
      message.taskId ∈ node.taskResults.keys) :
    Answers P floats node request = false := by
  cases answers : Answers P floats node request with
  | false => rfl
  | true =>
    rcases answers_cases answers with ⟨_, _, other, claimed, _, again, claims, _⟩
    rw [admitted] at again
    cases again
    rcases claims_fresh claims with ⟨unseen, uncached, _⟩
    rcases known with seen | cached
    · exact absurd seen unseen
    · exact absurd cached uncached

theorem answered_entries (claims : node.claimMessage message request.monotonic = ⟨.ok (), claimed⟩)
    (ran : claimed.runTask P floats sender token message request = .ok result) :
    (claimed.storeResult result sender).seenMessageIds.Held message.messageId request.monotonic 0 ∧
      (normalizeUuid P message.taskId = some message.taskId ->
        (claimed.storeResult result sender).taskResults.Held message.taskId result 0) := by
  constructor
  · rw [storeResult_seen]
    exact held_of_claims claims
  · intro canonical
    have uncached := (claims_fresh claims).2.1
    have stored : result.taskId = message.taskId := by
      rw [runTask_taskId ran] at canonical
      exact Option.some.inj canonical
    have room : 0 < maxCachedResults := Nat.succ_pos _
    rw [storeResult_results, results_of_claims claims, stored]
    exact (held_set uncached).trim room

/-- Every run whose replays come in time executes no bytes twice. -/
theorem executed_once (P : Platform) (floats : Json.Floats F) (node : PeerNode F)
    (requests : List (ExecuteRequest F))
    (clocks : ClocksAdvance requests) (inTime : ReplaysInTime P floats node requests) :
    ExecutedOnce P floats node requests := by
  intro front first middle second back split sameRaw answered
  have bound := inTime front first middle second back
  have through : executeAll P floats node (front ++ first :: middle) =
      executeAll P floats (executeAll P floats node (front ++ [first])) middle := by
    rw [← executeAll_append, append_assoc, singleton_append]
  have next : executeAll P floats node (front ++ [first]) =
      ((executeAll P floats node front).executeTask P floats first).state :=
    executeAll_append front [first]
  rw [through, next] at bound ⊢
  generalize executeAll P floats node front = before at answered bound ⊢
  rcases answers_cases answered with
    ⟨owner, secret, executed, claimed, result, admittedFirst, claims, ran, after⟩
  rcases answered_entries claims ran with ⟨seen, cached⟩
  rw [after] at bound ⊢
  generalize claimed.storeResult result owner = start at seen cached bound ⊢
  cases admitted : (executeAll P floats start middle).admits P floats second with
  | error error =>
    rw [Answers, PeerNode.executeTask, admitted]
    rfl
  | ok entry =>
    rcases entry with ⟨sender, token, message⟩
    have same : message = executed := by
      have decoded := admits_decoded admitted
      rw [sameRaw] at decoded
      exact PeerMessage.execute.inj
        (decodeMessage_unique P floats decoded (admits_decoded admittedFirst))
    apply answers_of_known admitted
    rcases bound sender token message split sameRaw answered admitted with
      ⟨recent, few⟩ | ⟨canonical, few⟩
    · have earlier : ∀ request, request ∈ middle -> request.monotonic ≤ second.monotonic := by
        intro request member
        rw [ClocksAdvance, split, pairwise_append, pairwise_cons, pairwise_append] at clocks
        exact (clocks.2.1.2.2.2 request member second (mem_cons_self ..)).1
      have inTime : ∀ request, request ∈ middle ->
          request.monotonic - first.monotonic ≤ messageMaxAgeSeconds := fun request member =>
        (sub_le_sub_right (earlier request member) _).trans recent
      have live : PeerNode.expiredAt second.monotonic first.monotonic = false := by
        rw [PeerNode.expiredAt, decide_eq_false_iff_not, not_not]
        exact recent
      have held := held_seen_run seen inTime (by rwa [Nat.zero_add])
      rw [same]
      exact Or.inl (held.dropExpired live).mem
    · rw [same] at canonical ⊢
      rcases held_results_run (cached canonical) (by rwa [Nat.zero_add]) with ⟨later, held⟩
      exact Or.inr held.mem

theorem configured_tables {roomId peerId : String} {tokens : List (String × String)}
    {fresh : PeerNode F} (configured : node.configurePeerProtocol P roomId peerId tokens = .ok fresh) :
    fresh.taskResults = Dict.empty ∧ fresh.taskResultOwners = Dict.empty ∧
      fresh.seenMessageIds = Dict.empty := by
  rcases raiseIf_bind_eq_ok.mp configured with ⟨_, configured⟩
  rcases raiseIf_bind_eq_ok.mp configured with ⟨_, configured⟩
  rcases bind_eq_ok.mp configured with ⟨_, _, configured⟩
  rcases bind_eq_ok.mp configured with ⟨_, _, configured⟩
  rcases bind_eq_ok.mp configured with ⟨_, _, configured⟩
  cases configured
  exact ⟨rfl, rfl, rfl⟩

end Once

/-! ## A replay

A message is dated half a minute ahead and spells its task with capital
letters.  Five minutes after it was executed it is forgotten, still in its
window, and executed again. -/

namespace Sample

open PeerMessages.Sample (platform wholeFloats roomId peerId firstSender secondSender firstToken
  secondToken)

/-- The message of a sender with a token, for the task in capital letters. -/
def messageOf (messageId sender integrity : String) : ExecuteTaskMessage where
  messageId := messageId
  roomId := roomId
  senderPeerId := sender
  recipientPeerId := peerId
  taskId := "AAAAAAAA-1111-4111-8111-111111111111"
  issuedAt := 1030
  gpuDeviceId := 0
  gpuMemoryMb := 1024
  timeoutSeconds := 60
  payload := { message := "safe noop" }
  integrity := integrity

def node : PeerNode Int :=
  ((PeerNode.configurePeerProtocol platform {} roomId peerId
    [(firstSender, firstToken), (secondSender, secondToken)]).toOption).getD {}

/-- The bytes of a message. -/
def body (message : ExecuteTaskMessage) : Bytes :=
  ((encodeMessage wholeFloats (.execute message)).toOption).getD []

def request (message : ExecuteTaskMessage) (token : String) (wall monotonic : Rat) :
    ExecuteRequest Int where
  authorization := some ("Bearer " ++ token)
  contentType := "application/json"
  contentLength := none
  chunks := [body message]
  wall := wall
  monotonic := monotonic
  elapsed := 0
  resultId := 7

def first : ExecuteTaskMessage :=
  messageOf "55555555-5555-4555-8555-555555555555" firstSender
    "00000000000000000000000000000000000000000000000000000000d0c7ba38"

/-- What has to be evaluated of a message: the endpoint is configured, knows the
sender, reads the message from its bytes, takes it at the times of the samples
and signs its result. -/
structure Signed (message : ExecuteTaskMessage) (sender token : String) : Prop where
  configured : ¬ (node.roomId = "" ∨ node.peerId = "" ∨ node.authorizedPeerTokens.keys = [])
  json : lower (strip (((splitOnce? [';'] "application/json".toList).map Prod.fst).getD
    "application/json".toList)) = "application/json".toList
  known : (node.authenticateSender (some ("Bearer " ++ token))).toOption = some (sender, token)
  encoded : (encodeMessage wholeFloats (.execute message)).toOption.isSome = true
  fits : (body message).length ≤ maxEncodedMessageSize
  valid : validateExecute (dumpExecute message : Fields Int) =
    some message
  code : (calculateIntegrity platform wholeFloats (dumpExecute message)
    token).toOption = some message.integrity
  authorized : ∀ wall, wall ∈ [(1000 : Rat), 1001, 1301] ->
    (node.authorizeMessage message sender wall).toOption = some ()
  runs : (node.runTask platform wholeFloats sender token message
    (request message token 0 0)).toOption.isSome = true

namespace Signed

variable {message : ExecuteTaskMessage} {sender token : String} {wall monotonic : Rat}
  {later : PeerNode Int}

theorem decodes (isSigned : Signed message sender token) :
    PeerNode.decodeExecute platform wholeFloats (body message) token = .ok message := by
  have encoded : encodeMessage wholeFloats (.execute message) = .ok (body message) := by
    rcases Option.isSome_iff_exists.mp isSigned.encoded with ⟨raw, isRaw⟩
    rw [body, isRaw]
    exact ok_of_toOption isRaw
  have decoded := decodeMessage_encoded platform wholeFloats token encoded
    (congrArg (Option.map PeerMessage.execute) isSigned.valid)
  rw [modelDump, ok_of_toOption isSigned.code, PeerMessage.kind] at decoded
  rw [PeerNode.decodeExecute, decoded.trans (raiseIf_bind_eq_ok.mpr ⟨not_not.mpr rfl, rfl⟩)]

theorem admits (isSigned : Signed message sender token) (scope : SameScope later node)
    (inWindow : wall ∈ [(1000 : Rat), 1001, 1301]) :
    later.admits platform wholeFloats (request message token wall monotonic) =
      .ok (sender, token, message) := by
  have read : PeerNode.readBoundedJson (request message token wall monotonic) =
      .ok (body message) := by
    rw [PeerNode.readBoundedJson]
    apply raiseIf_bind_eq_ok.mpr
    refine ⟨fun different => different isSigned.json, raiseIf_bind_eq_ok.mpr ⟨?_, rfl⟩⟩
    rw [length_nil, Nat.zero_add]
    exact not_lt.mpr isSigned.fits
  rw [scope.admits, PeerNode.admits]
  apply raiseIf_bind_eq_ok.mpr
  refine ⟨isSigned.configured, bind_eq_ok.mpr ⟨_, ok_of_toOption isSigned.known, ?_⟩⟩
  refine bind_eq_ok.mpr ⟨_, read, bind_eq_ok.mpr ⟨message, isSigned.decodes, ?_⟩⟩
  exact bind_eq_ok.mpr ⟨(), ok_of_toOption (isSigned.authorized wall inWindow), rfl⟩

theorem ran (isSigned : Signed message sender token) (scope : SameScope later node) :
    ∃ result, later.runTask platform wholeFloats sender token message
      (request message token wall monotonic) =
      .ok result := by
  rcases Option.isSome_iff_exists.mp isSigned.runs with ⟨result, isResult⟩
  rw [scope.runTask]
  exact ⟨result, ok_of_toOption isResult⟩

end Signed

theorem first_signed : Signed first firstSender firstToken where
  configured := by decide +kernel
  json := by decide +kernel
  known := by decide +kernel
  encoded := by decide +kernel
  fits := by decide +kernel
  valid := by decide +kernel
  code := by decide +kernel
  authorized := by decide +kernel
  runs := by decide +kernel

/-- The message does not spell its task canonically. -/
theorem first_spelled : normalizeUuid platform first.taskId ≠ some first.taskId := by
  decide +kernel

/-- The message, and the message again after five minutes and a second. -/
def replay : List (ExecuteRequest Int) :=
  [request first firstToken 1000 0, request first firstToken 1301 301]

theorem node_tables : node.taskResults = Dict.empty ∧ node.seenMessageIds = Dict.empty := by
  unfold node
  cases configured : PeerNode.configurePeerProtocol platform {} roomId peerId
      [(firstSender, firstToken), (secondSender, secondToken)] with
  | error error => exact ⟨rfl, rfl⟩
  | ok fresh =>
    rcases configured_tables configured with ⟨results, _, seen⟩
    exact ⟨results, seen⟩

theorem canonicalKeys_node : CanonicalKeys platform node := by
  intro task member
  rw [node_tables.1] at member
  exact absurd member not_mem_nil

theorem pruned_node (now : Rat) : (node.pruned now).seenMessageIds = Dict.empty := by
  rw [PeerNode.pruned, node_tables.2]
  rfl

theorem first_admitted : node.admits platform wholeFloats (request first firstToken 1000 0) =
    .ok (firstSender, firstToken, first) :=
  first_signed.admits ⟨rfl, rfl, rfl, rfl, rfl⟩ (by simp)

theorem first_answered :
    Answers platform wholeFloats node (request first firstToken 1000 0) = true := by
  rcases @Signed.ran _ _ _ 1000 0 node first_signed ⟨rfl, rfl, rfl, rfl, rfl⟩ with ⟨result, ran⟩
  apply answers_of_new first_admitted _ _ ran
  · rw [pruned_node]
    exact not_mem_nil
  · rw [node_tables.1]
    exact not_mem_nil

theorem seen_first : (executeAll platform wholeFloats node
    [request first firstToken 1000 0]).seenMessageIds =
    (Dict.empty.set first.messageId 0).trim maxSeenMessages := by
  rcases answers_cases first_answered with
    ⟨sender, token, message, claimed, result, admitted, claims, _, after⟩
  rw [first_admitted] at admitted
  cases admitted
  rw [executeAll_singleton, after, storeResult_seen, seen_of_claims claims, pruned_node]
  rfl

theorem first_expired : first.messageId ∉ (((Dict.empty.set first.messageId (0 : Rat)).trim
    maxSeenMessages).dropExpired (PeerNode.expiredAt 301)).keys := by
  decide +kernel

theorem forgotten : ∃ later,
    executeAll platform wholeFloats node [request first firstToken 1000 0] = later ∧
    SameScope later node ∧ first.messageId ∉ (later.pruned 301).seenMessageIds.keys ∧
      first.taskId ∉ later.taskResults.keys := by
  have seen := seen_first
  have scope := sameScope_executeTask platform wholeFloats node (request first firstToken 1000 0)
  have canonical := @canonicalKeys_executeTask _ _ wholeFloats _ (request first firstToken 1000 0)
    canonicalKeys_node
  rw [← executeAll_singleton] at scope canonical
  generalize executeAll platform wholeFloats node [request first firstToken 1000 0] = later at *
  refine ⟨later, rfl, scope, ?_, fun cached => first_spelled (canonical _ cached)⟩
  rw [PeerNode.pruned, seen]
  exact first_expired

theorem replay_answered : Answers platform wholeFloats
    (executeAll platform wholeFloats node [request first firstToken 1000 0])
    (request first firstToken 1301 301) = true := by
  rcases forgotten with ⟨later, after, scope, unseen, uncached⟩
  rcases @Signed.ran _ _ _ 1301 301 later first_signed scope with ⟨result, ran⟩
  rw [after]
  exact answers_of_new (first_signed.admits scope (by simp)) unseen uncached ran

def retry : List (ExecuteRequest Int) :=
  [request first firstToken 1000 0, request first firstToken 1060 60]

theorem retry_split {front middle back : List (ExecuteRequest Int)}
    {earlier later : ExecuteRequest Int}
    (split : retry = front ++ earlier :: (middle ++ later :: back)) :
    middle = [] ∧ earlier.monotonic = 0 ∧ later.monotonic = 60 := by
  unfold retry at split
  cases front with
  | cons head front =>
    have length := congrArg List.length split
    simp at length
    omega
  | nil =>
    cases middle with
    | cons head middle =>
      have length := congrArg List.length split
      simp at length
    | nil =>
      rw [nil_append, nil_append, List.cons.injEq, List.cons.injEq] at split
      rcases split with ⟨rfl, rfl, _⟩
      exact ⟨rfl, rfl, rfl⟩

end Sample

open PeerMessages.Sample (platform wholeFloats)

/-- The same bytes again while their message id is remembered. -/
theorem retry_executed_once : ExecutedOnce platform wholeFloats Sample.node Sample.retry := by
  apply executed_once
  · refine pairwise_cons.mpr ⟨?_, pairwise_singleton _ _⟩
    intro later member
    rw [mem_singleton.mp member]
    norm_num [Sample.request]
  · intro front earlier middle later back sender token message split _ _ _
    rcases Sample.retry_split split with ⟨rfl, before, after⟩
    rw [before, after]
    exact Or.inl ⟨by norm_num [messageMaxAgeSeconds], Nat.succ_pos _⟩

/-- A message dated ahead is executed again when it is forgotten. -/
theorem replay_executed_twice : ClocksAdvance Sample.replay ∧
    ¬ ExecutedOnce platform wholeFloats Sample.node Sample.replay := by
  constructor
  · refine pairwise_cons.mpr ⟨?_, pairwise_singleton _ _⟩
    intro later member
    rw [mem_singleton.mp member]
    norm_num [Sample.request]
  · intro once
    have refused := once [] _ [] _ [] rfl rfl Sample.first_answered
    exact Bool.false_ne_true (refused.symm.trans Sample.replay_answered)

end Vpn
end ZepGpu
