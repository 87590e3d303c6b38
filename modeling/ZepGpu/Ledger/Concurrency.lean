import Mathlib.Logic.Function.Basic
import Mathlib.Logic.Relation
import ZepGpu.Ledger.Quorum

namespace ZepGpu
namespace Ledger

open Foundation List
open Reference (platform)

/-!
# Concurrent approvals

Under read-committed storage every statement of a transaction sees what is
committed when it runs.  An approval reads the block, then the validators,
then the sealed transactions; it writes the whole list of approvals in one
statement that takes the lock of the row, and publishes it when it commits.
Nothing compares what is stored by then with what was read.

Approvals are kept as long as no approval commits on a block that has changed
since it was read.  Two approvals that read the same block lose one of them.
-/

variable {F : Type} [Arithmetic F]

section Concurrency

variable (P : Platform F)

/-! ## The interleaved system -/

/-- Where the transaction of an approval stands, with its local variables. -/
inductive ApprovalPhase (F : Type) [Arithmetic F] where
  | idle
  /-- The row and the block built from it. -/
  | loaded (row : BlockRow) (block : ComputeBlock)
  /-- The approval is added and the block is validated when it becomes final. -/
  | decided (row : BlockRow) (block : ComputeBlock)
  /-- The new balances are computed. -/
  | replayed (row : BlockRow) (block : ComputeBlock) (state : Option (CreditState F))
  /-- The row is written and locked, but not committed. -/
  | updated (row : BlockRow) (block : ComputeBlock) (state : Option (CreditState F))
  | returned (block : ComputeBlock)
  | failed

/-- The committed tables and the transactions of the approving clients. -/
structure ApprovalSystem (F : Type) [Arithmetic F] (ι : Type) where
  db : Database F
  phase : ι -> ApprovalPhase F

section System

variable {ι : Type} [DecidableEq ι] (service : LedgerService) (hash : String)
  (request : ι -> ValidatorApproval)

namespace ApprovalSystem

def enter (system : ApprovalSystem F ι) (client : ι) (phase : ApprovalPhase F) : ApprovalSystem F ι :=
  { system with phase := Function.update system.phase client phase }

@[simp]
theorem enter_self (system : ApprovalSystem F ι) (client : ι) (phase : ApprovalPhase F) :
    (system.enter client phase).phase client = phase :=
  Function.update_self _ _ _

theorem enter_of_ne (system : ApprovalSystem F ι) {client other : ι} (phase : ApprovalPhase F)
    (different : other ≠ client) : (system.enter client phase).phase other = system.phase other :=
  Function.update_of_ne different _ _

/-- No transaction holds the lock of a block. -/
def Unlocked (system : ApprovalSystem F ι) (id : Uuid) : Prop :=
  ∀ client row block state, system.phase client = .updated row block state -> row.id ≠ id

end ApprovalSystem

/-- One statement of one client.  A client may also fail at any point, which
rolls its transaction back. -/
inductive ApprovalStep : ApprovalSystem F ι -> ApprovalSystem F ι -> Prop where
  | load {system : ApprovalSystem F ι} {client : ι} {row : BlockRow} {block : ComputeBlock}
      (here : system.phase client = .idle) (found : getBlockByHash system.db hash = some row)
      (read : approveLoad P service hash system.db = .ok block) :
      ApprovalStep system (system.enter client (.loaded row block))
  | decide {system : ApprovalSystem F ι} {client : ι} {row : BlockRow} {block decided : ComputeBlock}
      (here : system.phase client = .loaded row block)
      (accepted : approveDecide P service (request client).validator (request client).signature
        (getActiveValidators system.db service.chainId) block = .ok decided) :
      ApprovalStep system (system.enter client (.decided row decided))
  | replay {system : ApprovalSystem F ι} {client : ι} {row : BlockRow} {block : ComputeBlock}
      {state : Option (CreditState F)} (here : system.phase client = .decided row block)
      (computed : approveReplay P service block system.db = .ok state) :
      ApprovalStep system (system.enter client (.replayed row block state))
  | update {system : ApprovalSystem F ι} {client : ι} {row : BlockRow} {block : ComputeBlock}
      {state : Option (CreditState F)} (here : system.phase client = .replayed row block state)
      (unlocked : system.Unlocked row.id) :
      ApprovalStep system (system.enter client (.updated row block state))
  | commit {system : ApprovalSystem F ι} {client : ι} {row : BlockRow} {block : ComputeBlock}
      {state : Option (CreditState F)} {later : Database F}
      (here : system.phase client = .updated row block state)
      (written : approveWrite P service block state system.db = .ok later) :
      ApprovalStep system ({ system with db := later }.enter client (.returned block))
  | fail {system : ApprovalSystem F ι} {client : ι} : ApprovalStep system (system.enter client .failed)

/-- A step in which no client commits on a block that has changed since the
client read it. -/
def FreshStep (before after : ApprovalSystem F ι) : Prop :=
  ApprovalStep P service hash request before after ∧
    ∀ client row block state current, before.phase client = .updated row block state ->
      after.phase client = .returned block -> getBlockByHash before.db hash = some current ->
        current.approvals = row.approvals

/-- The approvals of all clients that have returned are stored, and the block
is final when these reach the quorum together with the approvals it had. -/
def ApprovalsKept (initial : BlockRow) (system : ApprovalSystem F ι) : Prop :=
  ∃ row, getBlockByHash system.db hash = some row ∧
    (∀ client block, system.phase client = .returned block ->
      request client ∈ row.approvals) ∧
    ∀ winners : List ι, winners ≠ [] -> winners.Nodup ->
      (∀ client, client ∈ winners -> ∃ block, system.phase client = .returned block) ->
      service.quorumThreshold ≤ initial.approvals.length + winners.length -> row.finalized = true

/-! ## Runs without stale commits -/

def PhaseSound (initial : BlockRow) (approval : ValidatorApproval) : ApprovalPhase F -> Prop
  | .loaded row block => row.id = initial.id ∧ ∃ db, block = blockToDomain P db row
  | .decided row block | .replayed row block _ | .updated row block _ =>
    row.id = initial.id ∧ ∃ db, block =
      approvedBlock service (blockToDomain P db row) approval.validator approval.signature
  | .idle | .returned _ | .failed => True

/-- The stored block has grown by the approvals of the clients that have
returned, and is final when it has enough of them. -/
structure Grown (initial : BlockRow) (system : ApprovalSystem F ι) (row : BlockRow)
    (added : List ValidatorApproval) : Prop where
  found : getBlockByHash system.db hash = some row
  named : row.id = initial.id
  approvals : row.approvals = initial.approvals ++ added
  returned : ∀ client block, system.phase client = .returned block -> request client ∈ added
  final : (∃ client block, system.phase client = .returned block) ->
    service.quorumThreshold ≤ row.approvals.length -> row.finalized = true
  sound : ∀ client, PhaseSound P service initial (request client) (system.phase client)

section Runs

variable {P service hash request} {initial row : BlockRow} {added : List ValidatorApproval}
  {before after : ApprovalSystem F ι}

theorem approvedBlock_approvals (service : LedgerService) (loaded : ComputeBlock)
    (key signature : String) :
    ∃ extra, (approvedBlock service loaded key signature).approvals =
        loaded.approvals ++ ⟨key, signature⟩ :: extra ∧
      (¬ service.quorumThreshold ≤ loaded.approvals.length + 1 -> extra = []) := by
  rw [approvedBlock]
  split_ifs with reached
  · rw [ComputeBlock.ensureProposerApproval]
    split_ifs
    · exact ⟨[], rfl, fun short => absurd reached short⟩
    · exact ⟨[], rfl, fun short => absurd reached short⟩
    · exact ⟨_, by simp [approvingBlock]; rfl, fun short => absurd reached short⟩
  · exact ⟨[], rfl, fun _ => rfl⟩

theorem getBlockByHash_update {db : Database F} {id : Uuid} {approvals : List ValidatorApproval}
    {finalized : Bool} {row : BlockRow} (found : getBlockByHash db hash = some row)
    (named : row.id = id) :
    getBlockByHash (updateBlockApprovals id approvals finalized db) hash =
      some { row with approvals := approvals, finalized := finalized } := by
  have unchanged : (fun row : BlockRow => decide (row.hash = hash)) ∘ (fun row : BlockRow =>
      if row.id = id then { row with approvals := approvals, finalized := finalized } else row) =
        fun row : BlockRow => decide (row.hash = hash) := by
    funext row
    rw [Function.comp_apply]
    split_ifs <;> rfl
  rw [getBlockByHash] at found
  rw [getBlockByHash, updateBlockApprovals, find?_map, unchanged, found]
  exact congrArg some (if_pos named)

theorem Grown.enter (grown : Grown P service hash request initial before row added) {client : ι}
    {phase : ApprovalPhase F} (unfinished : ∀ block, phase ≠ .returned block)
    (sound : PhaseSound P service initial (request client) phase) :
    Grown P service hash request initial (before.enter client phase) row added where
  found := grown.found
  named := grown.named
  approvals := grown.approvals
  returned := by
    intro other block there
    by_cases same : other = client
    · rw [same, ApprovalSystem.enter_self] at there
      exact absurd there (unfinished block)
    · rw [ApprovalSystem.enter_of_ne _ _ same] at there
      exact grown.returned other block there
  final := by
    rintro ⟨other, block, there⟩
    apply grown.final
    by_cases same : other = client
    · rw [same, ApprovalSystem.enter_self] at there
      exact absurd there (unfinished block)
    · rw [ApprovalSystem.enter_of_ne _ _ same] at there
      exact ⟨other, block, there⟩
  sound := by
    intro other
    by_cases same : other = client
    · rw [same, ApprovalSystem.enter_self]
      exact sound
    · rw [ApprovalSystem.enter_of_ne _ _ same]
      exact grown.sound other

theorem Grown.commit (grown : Grown P service hash request initial before row added) {client : ι}
    {read : BlockRow} {block : ComputeBlock} {state : Option (CreditState F)} {later : Database F}
    (here : before.phase client = .updated read block state)
    (written : approveWrite P service block state before.db = .ok later)
    (fresh : row.approvals = read.approvals) :
    ∃ stored more, Grown P service hash request initial
      ({ before with db := later }.enter client (.returned block)) stored more := by
  have sound := grown.sound client
  rw [here] at sound
  obtain ⟨named, db, shape⟩ := sound
  have idText : block.id = P.strOfUuid read.id := shape ▸ approvedBlock_id
  have stored := (approveWrite_effect idText written).2
  obtain ⟨extra, grownTo, short⟩ := approvedBlock_approvals service
    (blockToDomain P db read) (request client).validator (request client).signature
  rw [← shape] at grownTo
  have finalEq : block.finalized =
      decide (service.quorumThreshold ≤ read.approvals.length + 1) := by
    rw [shape, approvedBlock_finalized]
    rfl
  have appended : block.approvals = initial.approvals ++ (added ++ request client :: extra) := by
    rw [grownTo, ← append_assoc, ← grown.approvals, fresh]
    rfl
  refine ⟨{ row with approvals := block.approvals, finalized := block.finalized },
    added ++ request client :: extra, ?_⟩
  exact {
    found := by
      change getBlockByHash later hash = _
      rw [stored]
      exact getBlockByHash_update grown.found (grown.named.trans named.symm)
    named := grown.named
    approvals := appended
    returned := by
      intro other done there
      by_cases same : other = client
      · rw [same]
        exact mem_append_right _ mem_cons_self
      · rw [ApprovalSystem.enter_of_ne _ _ same] at there
        exact mem_append_left _ (grown.returned other done there)
    final := by
      intro _ enough
      by_cases reached : service.quorumThreshold ≤ read.approvals.length + 1
      · rw [finalEq]
        exact decide_eq_true reached
      · -- below the quorum only the client's own approval is added
        have none := short reached
        dsimp only at enough
        rw [grownTo, none, length_append] at enough
        exact absurd enough reached
    sound := by
      intro other
      by_cases same : other = client
      · rw [same, ApprovalSystem.enter_self]
        trivial
      · rw [ApprovalSystem.enter_of_ne _ _ same]
        exact grown.sound other }

theorem Grown.step (grown : Grown P service hash request initial before row added)
    (step : FreshStep P service hash request before after) :
    ∃ stored more, Grown P service hash request initial after stored more := by
  obtain ⟨moved, fresh⟩ := step
  cases moved with
  | load here found read =>
    obtain ⟨other, otherFound, _, _, rfl⟩ := approveLoad_eq_ok_iff.mp read
    have same : other = row := Option.some.inj (otherFound.symm.trans grown.found)
    have also : _ = row := Option.some.inj (found.symm.trans grown.found)
    subst same also
    exact ⟨_, _, grown.enter (fun _ impossible => by cases impossible)
      ⟨grown.named, before.db, rfl⟩⟩
  | decide here accepted =>
    rename_i client read block decided
    have sound := grown.sound client
    rw [here] at sound
    obtain ⟨named, db, rfl⟩ := sound
    obtain ⟨_, rfl⟩ := approveDecide_eq_ok_iff.mp accepted
    exact ⟨_, _, grown.enter (fun _ impossible => by cases impossible) ⟨named, db, rfl⟩⟩
  | replay here computed =>
    rename_i client read block state
    have sound := grown.sound client
    rw [here] at sound
    exact ⟨_, _, grown.enter (fun _ impossible => by cases impossible) sound⟩
  | update here unlocked =>
    rename_i client read block state
    have sound := grown.sound client
    rw [here] at sound
    exact ⟨_, _, grown.enter (fun _ impossible => by cases impossible) sound⟩
  | commit here written =>
    rename_i client read block state later
    exact grown.commit here written (fresh client read block state row here
      (ApprovalSystem.enter_self _ _ _) grown.found)
  | fail => exact ⟨_, _, grown.enter (fun _ impossible => by cases impossible) trivial⟩

/-- When no approval commits on a block that has changed since it was read, no
approval is lost. -/
theorem approvals_kept {start system : ApprovalSystem F ι}
    (found : getBlockByHash start.db hash = some initial)
    (idle : ∀ client, start.phase client = .idle)
    (different : Function.Injective (fun client => (request client).validator))
    (run : Relation.ReflTransGen (FreshStep P service hash request) start system) :
    ApprovalsKept service hash request initial system := by
  have grown : ∃ row added, Grown P service hash request initial system row added := by
    induction run with
    | refl =>
      refine ⟨initial, [], found, rfl, (append_nil _).symm, ?_, ?_, ?_⟩
      · intro client block there
        rw [idle client] at there
        cases there
      · rintro ⟨client, block, there⟩
        rw [idle client] at there
        cases there
      · intro client
        rw [idle client]
        trivial
    | tail _ step ih =>
      obtain ⟨row, added, grown⟩ := ih
      exact grown.step step
  obtain ⟨row, added, grown⟩ := grown
  refine ⟨row, grown.found, ?_, ?_⟩
  · intro client block there
    rw [grown.approvals]
    exact mem_append_right _ (grown.returned client block there)
  · intro winners some distinct returned enough
    obtain ⟨first, member⟩ := exists_mem_of_ne_nil winners some
    obtain ⟨block, there⟩ := returned first member
    refine grown.final ⟨first, block, there⟩ ?_
    have injective : Function.Injective request := by
      intro left right same
      exact different (congrArg ValidatorApproval.validator same)
    have inside : winners.map request ⊆ added := by
      intro approval listed
      obtain ⟨client, winner, rfl⟩ := mem_map.mp listed
      obtain ⟨done, here⟩ := returned client winner
      exact grown.returned client done here
    have count : winners.length ≤ added.length := by
      have fits := List.Nodup.length_le_of_subset (distinct.map injective) inside
      rw [length_map] at fits
      exact fits
    rw [grown.approvals, length_append]
    omega

/-! ## Clients that run one after the other -/

/-- No transaction has written. -/
def ApprovalSystem.Free (system : ApprovalSystem F ι) : Prop :=
  ∀ client row block state, system.phase client ≠ .updated row block state

theorem ApprovalSystem.Free.enter {system : ApprovalSystem F ι} {client : ι} {phase : ApprovalPhase F}
    (free : system.Free) (unwritten : ∀ row block state, phase ≠ .updated row block state) :
    (system.enter client phase).Free := by
  intro other row block state
  by_cases same : other = client
  · rw [same, ApprovalSystem.enter_self]
    exact unwritten row block state
  · rw [ApprovalSystem.enter_of_ne _ _ same]
    exact free other row block state

theorem FreshStep.of_free (free : before.Free)
    (step : ApprovalStep P service hash request before after) :
    FreshStep P service hash request before after :=
  ⟨step, fun client row block state _ locked => absurd locked (free client row block state)⟩

/-- A request that succeeds does so as a run of its client's statements, as long as
no other client has written. -/
theorem run_of_approveBody {system : ApprovalSystem F ι} {client : ι} {block : ComputeBlock}
    {later : Database F} (free : system.Free) (here : system.phase client = .idle)
    (body : approveBody P service hash (request client).validator (request client).signature
      system.db = .ok (block, later)) :
    Relation.ReflTransGen (FreshStep P service hash request) system
      ({ system with db := later }.enter client (.returned block)) := by
  simp only [approveBody, bind_eq_ok] at body
  obtain ⟨loaded, load, decided, decision, state, replay, written, write, same⟩ := body
  simp only [Except.ok.injEq, Prod.mk.injEq] at same
  obtain ⟨rfl, rfl⟩ := same
  obtain ⟨row, found, _⟩ := approveLoad_eq_ok_iff.mp load
  let s1 := system.enter client (.loaded row loaded)
  let s2 := s1.enter client (.decided row decided)
  let s3 := s2.enter client (.replayed row decided state)
  let s4 := s3.enter client (.updated row decided state)
  have free1 : s1.Free := free.enter (fun _ _ _ impossible => by cases impossible)
  have free2 : s2.Free := free1.enter (fun _ _ _ impossible => by cases impossible)
  have free3 : s3.Free := free2.enter (fun _ _ _ impossible => by cases impossible)
  have step1 : FreshStep P service hash request system s1 := .of_free free (.load here found load)
  have step2 : FreshStep P service hash request s1 s2 :=
    .of_free free1 (.decide (ApprovalSystem.enter_self _ _ _) decision)
  have step3 : FreshStep P service hash request s2 s3 :=
    .of_free free2 (.replay (ApprovalSystem.enter_self _ _ _) replay)
  have step4 : FreshStep P service hash request s3 s4 :=
    .of_free free3 (.update (ApprovalSystem.enter_self _ _ _)
      (fun other read block state locked => absurd locked (free3 other read block state)))
  have step5 : FreshStep P service hash request s4
      ({ s4 with db := written }.enter client (.returned decided)) := by
    refine ⟨.commit (ApprovalSystem.enter_self _ _ _) write, ?_⟩
    intro other read block state current locked _ stored
    by_cases same : other = client
    · rw [same, ApprovalSystem.enter_self] at locked
      cases locked
      cases stored.symm.trans found
      rfl
    · rw [ApprovalSystem.enter_of_ne _ _ same] at locked
      exact absurd locked (free3 other read block state)
  have last : { s4 with db := written }.enter client (.returned decided) =
      { system with db := written }.enter client (.returned decided) := by
    simp only [s1, s2, s3, s4, ApprovalSystem.enter, Function.update_idem]
  exact last ▸ .head step1 (.head step2 (.head step3 (.head step4 (.single step5))))

end Runs

end System

/-! ## A lost approval -/

section LostApproval

variable {P} {service : LedgerService} {db : Database F} {row : BlockRow}
  {request : Bool -> ValidatorApproval}

def ApprovalSystem.start (ι : Type) (db : Database F) : ApprovalSystem F ι :=
  ⟨db, fun _ => .idle⟩

theorem approveDecide_short {key signature : String} {validators : List String}
    {loaded : ComputeBlock} (active : key ∈ validators)
    (signed : P.verifySignature key loaded.hash signature = true)
    (first : key ∉ loaded.approvals.map ValidatorApproval.validator)
    (short : ¬ service.quorumThreshold ≤ loaded.approvals.length + 1) :
    approveDecide P service key signature validators loaded =
      .ok (approvingBlock service loaded key signature) := by
  refine approveDecide_eq_ok_iff.mpr ⟨⟨active, signed, first, fun reached => absurd reached short⟩, ?_⟩
  rw [approvedBlock, if_neg short]

/-- A block on which two validators may approve without reaching the quorum. -/
structure AwaitsTwo (P : Platform F) (service : LedgerService) (db : Database F) (row : BlockRow)
    (request : Bool -> ValidatorApproval) : Prop where
  found : getBlockByHash db row.hash = some row
  onChain : row.chainId = service.chainId
  awaiting : row.finalized = false
  active : ∀ client, (request client).validator ∈ getActiveValidators db service.chainId
  signed : ∀ client, P.verifySignature (request client).validator row.hash
    (request client).signature = true
  first : ∀ client, (request client).validator ∉
    row.approvals.map ValidatorApproval.validator
  short : ¬ service.quorumThreshold ≤ row.approvals.length + 1

theorem AwaitsTwo.found_at_start (awaits : AwaitsTwo P service db row request) :
    getBlockByHash (ApprovalSystem.start Bool db).db row.hash = some row :=
  awaits.found

theorem AwaitsTwo.statements (awaits : AwaitsTwo P service db row request) (client : Bool) :
    let block := approvingBlock service (blockToDomain P db row) (request client).validator
      (request client).signature
    approveLoad P service row.hash db = .ok (blockToDomain P db row) ∧
      approveDecide P service (request client).validator (request client).signature
        (getActiveValidators db service.chainId) (blockToDomain P db row) = .ok block ∧
      approveReplay P service block db = .ok none ∧
      ∀ later, approveWrite P service block none later =
        .ok (updateBlockApprovals row.id block.approvals false later) := by
  intro block
  have unfinished : block.finalized = false := decide_eq_false awaits.short
  refine ⟨approveLoad_eq_ok_iff.mpr ⟨row, awaits.found, awaits.onChain, awaits.awaiting, rfl⟩,
    approveDecide_short (awaits.active client) (awaits.signed client) (awaits.first client)
      awaits.short, ?_, ?_⟩
  · rw [approveReplay, unfinished]
    rfl
  · intro later
    have named : block.id = P.strOfUuid row.id := rfl
    rw [approveWrite, named, P.asUuid_strOfUuid, unfinished]
    rfl

theorem AwaitsTwo.second_commit (awaits : AwaitsTwo P service db row request) :
    ∃ system, Relation.ReflTransGen (ApprovalStep P service row.hash request)
        (ApprovalSystem.start Bool db) system ∧
      (∀ client, ∃ block, system.phase client = .returned block) ∧
      getBlockByHash system.db row.hash =
        some { row with approvals := row.approvals ++ [request false], finalized := false } := by
  let block : Bool -> ComputeBlock := fun client =>
    approvingBlock service (blockToDomain P db row) (request client).validator
      (request client).signature
  have found := awaits.found
  have load := (awaits.statements true).1
  have decided := fun client => (awaits.statements client).2.1
  have replayed := fun client => (awaits.statements client).2.2.1
  have written := fun client => (awaits.statements client).2.2.2
  -- both clients load, decide and replay; then one commits after the other
  let start := ApprovalSystem.start Bool db
  let s1 := start.enter true (.loaded row (blockToDomain P db row))
  let s2 := s1.enter false (.loaded row (blockToDomain P db row))
  let s3 := s2.enter true (.decided row (block true))
  let s4 := s3.enter false (.decided row (block false))
  let s5 := s4.enter true (.replayed row (block true) none)
  let s6 := s5.enter false (.replayed row (block false) none)
  let s7 := s6.enter true (.updated row (block true) none)
  let once := updateBlockApprovals row.id (block true).approvals false db
  let s8 := { s7 with db := once }.enter true (.returned (block true))
  let s9 := s8.enter false (.updated row (block false) none)
  let twice := updateBlockApprovals row.id (block false).approvals false once
  let s10 := { s9 with db := twice }.enter false (.returned (block false))
  have unlocked7 : s6.Unlocked row.id := by
    intro client read stored state locked
    cases client <;> cases locked
  have unlocked9 : s8.Unlocked row.id := by
    intro client read stored state locked
    cases client <;> cases locked
  have step1 : ApprovalStep P service row.hash request start s1 := .load rfl found load
  have step2 : ApprovalStep P service row.hash request s1 s2 := .load rfl found load
  have step3 : ApprovalStep P service row.hash request s2 s3 := .decide rfl (decided true)
  have step4 : ApprovalStep P service row.hash request s3 s4 := .decide rfl (decided false)
  have step5 : ApprovalStep P service row.hash request s4 s5 := .replay rfl (replayed true)
  have step6 : ApprovalStep P service row.hash request s5 s6 := .replay rfl (replayed false)
  have step7 : ApprovalStep P service row.hash request s6 s7 := .update rfl unlocked7
  have step8 : ApprovalStep P service row.hash request s7 s8 := .commit rfl (written true db)
  have step9 : ApprovalStep P service row.hash request s8 s9 := .update rfl unlocked9
  have step10 : ApprovalStep P service row.hash request s9 s10 := .commit rfl (written false once)
  refine ⟨s10, ?_, ?_, ?_⟩
  · exact .head step1 (.head step2 (.head step3 (.head step4 (.head step5 (.head step6 (.head step7
      (.head step8 (.head step9 (.single step10)))))))))
  · intro client
    cases client
    · exact ⟨block false, rfl⟩
    · exact ⟨block true, rfl⟩
  · have afterFirst : getBlockByHash once row.hash =
        some { row with approvals := (block true).approvals, finalized := false } :=
      getBlockByHash_update found rfl
    have afterSecond : getBlockByHash twice row.hash = _ := getBlockByHash_update afterFirst rfl
    exact afterSecond

theorem not_approvalsKept {system : ApprovalSystem F Bool} {hash : String}
    (returned : ∀ client, ∃ block, system.phase client = .returned block)
    (stored : getBlockByHash system.db hash =
      some { row with approvals := row.approvals ++ [request false], finalized := false })
    (first : (request true).validator ∉ row.approvals.map ValidatorApproval.validator)
    (different : (request true).validator ≠ (request false).validator) :
    ¬ ApprovalsKept service hash request row system := by
  rintro ⟨current, found, kept, _⟩
  obtain ⟨block, done⟩ := returned true
  have member := kept true block done
  rw [stored, Option.some.injEq] at found
  rw [← found] at member
  rcases mem_append.mp member with old | new
  · exact first (mem_map_of_mem old)
  · exact different (congrArg ValidatorApproval.validator (mem_singleton.mp new))

theorem perform_register (stamps : GenesisStamps) {key : String}
    (begun : getTip db service.chainId false ≠ none)
    (inScope : Scoped P service.chainId service.networkId) (fits : key.length ≤ 128) :
    SameLedger db ((Request.registerValidator stamps key).perform P service db) ∧
      key ∈ getActiveValidators ((Request.registerValidator stamps key).perform P service db)
        service.chainId := by
  obtain ⟨later, registered⟩ := upsertValidator_succeeds P db inScope fits
  have run : registerBody P service key db = .ok ((), later) := by
    rw [registerBody, registered]
    rfl
  have state : (Request.registerValidator stamps key).perform P service db = later := by
    rw [Request.perform, registerValidator, withInitialized_of_begun P service begun,
      transaction_of_ok run]
  rw [state]
  exact upsertValidator_effect P registered

theorem SameLedger.getTip_eq {later : Database F} (same : SameLedger db later) (chainId : String)
    (finalizedOnly : Bool) : getTip later chainId finalizedOnly = getTip db chainId finalizedOnly := by
  rw [getTip, getTip, chainBlocks, chainBlocks, same.blocks]

def twoRegistrations (stamps : GenesisStamps) (left right : String) : List Request :=
  [.ensureInitialized stamps, .registerValidator stamps left, .registerValidator stamps right]

theorem run_twoRegistrations (stamps : GenesisStamps) {left right : String}
    (alone : service.extraValidatorKeys P = [])
    (inScope : Scoped P service.chainId service.networkId)
    (leftFits : left.length ≤ 128) (rightFits : right.length ≤ 128) :
    let tables := runRequests P service (twoRegistrations stamps left right) {}
    tables.blocks = [(genesisHead P service stamps).row P service] ∧
      tables.transactions = placeRows stamps.block.id [genesisRow P service stamps.transaction] ∧
      ∀ key, key = (service.validatorKeys P).2 ∨ key = left ∨ key = right ->
        key ∈ getActiveValidators tables service.chainId := by
  intro tables
  obtain ⟨_, holds, relayActive, blocks, only⟩ := perform_first alone inScope stamps
  have rows := holds.represents.transactions
  rw [filter_eq_self.mpr (fun row member => decide_eq_true (only row member))] at rows
  have begun : getTip ((Request.ensureInitialized stamps).perform P service {}) service.chainId
      false ≠ none := by
    rw [holds.represents.getTip_all]
    exact Option.some_ne_none _
  obtain ⟨sameSecond, leftActive⟩ := perform_register stamps begun inScope leftFits
  have begunSecond := begun
  rw [← sameSecond.getTip_eq] at begunSecond
  obtain ⟨sameThird, rightActive⟩ := perform_register stamps begunSecond inScope rightFits
  refine ⟨sameThird.blocks.trans (sameSecond.blocks.trans blocks),
    (sameThird.transactions.trans (sameSecond.transactions.trans rows)), ?_⟩
  rintro key (rfl | rfl | rfl)
  · exact sameThird.active service.chainId (sameSecond.active service.chainId relayActive)
  · exact sameThird.active service.chainId leftActive
  · exact rightActive

end LostApproval

/-! ## Approvals of a genesis block, one after the other -/

/-- A genesis block with the approval of its proposer, and clients that may approve
it. -/
structure GenesisAwaits (P : Platform F) (service : LedgerService) (stamps : GenesisStamps)
    (db : Database F) (request : Bool -> ValidatorApproval) : Prop where
  alone : service.extraValidatorKeys P = []
  inScope : Scoped P service.chainId service.networkId
  blocks : db.blocks = [(genesisHead P service stamps).row P service]
  transactions : db.transactions = placeRows stamps.block.id [genesisRow P service stamps.transaction]
  proposer : (service.validatorKeys P).2 ∈ getActiveValidators db service.chainId
  active : ∀ client, (request client).validator ∈ getActiveValidators db service.chainId
  signed : ∀ client, P.verifySignature (request client).validator
    ((genesisHead P service stamps).row P service).hash (request client).signature = true

namespace GenesisAwaits

/-- The genesis block with more approvals. -/
def head (P : Platform F) (service : LedgerService) (stamps : GenesisStamps)
    (added : List ValidatorApproval) : Head F :=
  { genesisHead P service stamps with approvals := (genesisHead P service stamps).approvals ++ added }

/-- The tables with some approvals added to the genesis block. -/
structure Holds (P : Platform F) (service : LedgerService) (stamps : GenesisStamps)
    (db later : Database F) (added : List ValidatorApproval) : Prop where
  blocks : later.blocks = [(head P service stamps added).row P service]
  transactions : later.transactions = db.transactions
  validators : later.validators = db.validators

variable {P} {service : LedgerService} {stamps : GenesisStamps} {db later : Database F}
  {request : Bool -> ValidatorApproval} {added : List ValidatorApproval}

theorem holds_start (awaits : GenesisAwaits P service stamps db request) :
    Holds P service stamps db db [] where
  blocks := by
    rw [awaits.blocks, head, append_nil]
  transactions := rfl
  validators := rfl

theorem Holds.getBlockByHash (holds : Holds P service stamps db later added) :
    Ledger.getBlockByHash later ((genesisHead P service stamps).row P service).hash =
      some ((head P service stamps added).row P service) := by
  rw [Ledger.getBlockByHash, holds.blocks]
  exact find?_cons_of_pos (decide_eq_true rfl)

theorem Holds.getActiveValidators (holds : Holds P service stamps db later added) :
    Ledger.getActiveValidators later service.chainId =
      Ledger.getActiveValidators db service.chainId := by
  rw [Ledger.getActiveValidators, Ledger.getActiveValidators, holds.validators]

section

variable (awaits : GenesisAwaits P service stamps db request)

include awaits

theorem length_approvals (added : List ValidatorApproval) :
    (head P service stamps added).approvals.length = added.length + 1 := by
  rw [head, genesisHead_alone awaits.alone, length_append, length_singleton, Nat.add_comm]

theorem Holds.blockTransactions (holds : Holds P service stamps db later added) :
    (Ledger.blockTransactions later ((head P service stamps added).row P service)).map (rowToTx P) =
      [genesisTransaction P service stamps.transaction] := by
  have listed : Ledger.blockTransactions later ((head P service stamps added).row P service) =
      placeRows stamps.block.id [genesisRow P service stamps.transaction] := by
    have named : ((head P service stamps added).row P service).id = stamps.block.id := rfl
    rw [Ledger.blockTransactions, holds.transactions, awaits.transactions, named]
    simp [placeRows]
  rw [listed, placeRows_map_rowToTx]
  rfl

/-- The block that one more approval makes. -/
theorem Holds.approvingBlock (holds : Holds P service stamps db later added)
    (approval : ValidatorApproval) :
    Ledger.approvingBlock service
        (blockToDomain P later ((head P service stamps added).row P service)) approval.validator
          approval.signature =
      (head P service stamps (added ++ [approval])).block P service := by
  have length : (head P service stamps added).approvals.length + 1 =
      (head P service stamps (added ++ [approval])).approvals.length := by
    rw [awaits.length_approvals, awaits.length_approvals, length_append, length_singleton]
  have approvals : (head P service stamps added).approvals ++ [approval] =
      (head P service stamps (added ++ [approval])).approvals :=
    append_assoc _ _ _
  have transactions : ((head P service stamps (added ++ [approval])).draft P service).transactions =
      [genesisTransaction P service stamps.transaction] := by
    rw [Head.draft_eq]
    rfl
  rw [blockToDomain, Head.rowToBlock_row, holds.blockTransactions awaits]
  unfold Ledger.approvingBlock Head.block
  dsimp only
  rw [length, transactions, ← approvals]
  rfl

theorem front (added : List ValidatorApproval) :
    ((head P service stamps added).draft P service).approvals <+:
      (head P service stamps added).approvals := by
  have own : (genesisHead P service stamps).approvals =
      ((genesisHead P service stamps).draft P service).approvals := by
    rw [genesisHead_approvals, extraApprovals, awaits.alone, map_nil, append_nil]
  change ((genesisHead P service stamps).draft P service).approvals <+: _
  rw [← own]
  exact prefix_append _ _

theorem Holds.approvedBlock (holds : Holds P service stamps db later added)
    (approval : ValidatorApproval) :
    Ledger.approvedBlock service
        (blockToDomain P later ((head P service stamps added).row P service)) approval.validator
          approval.signature =
      (head P service stamps (added ++ [approval])).block P service := by
  rw [Ledger.approvedBlock, holds.approvingBlock awaits, ensureProposerApproval_of_mem
    (Head.proposer_of_front (awaits.front _)), ite_self]

theorem Holds.store (holds : Holds P service stamps db later added) (approval : ValidatorApproval)
    (balances : Option (List (BalanceEntry F))) :
    Holds P service stamps db (storeApproval service ((head P service stamps added).row P service).id
      (Ledger.approvedBlock service
        (blockToDomain P later ((head P service stamps added).row P service)) approval.validator
          approval.signature) balances later) (added ++ [approval]) where
  blocks := by
    rw [holds.approvedBlock awaits]
    change later.blocks.map _ = _
    rw [holds.blocks, map_singleton, if_pos rfl]
    rfl
  transactions := holds.transactions
  validators := holds.validators

theorem mem_approvals {approval : ValidatorApproval}
    (member : approval ∈ (head P service stamps added).approvals) :
    approval = ⟨(service.validatorKeys P).2, P.signMessage (service.validatorKeys P).1
      ((genesisHead P service stamps).row P service).hash⟩ ∨ approval ∈ added := by
  rw [head, genesisHead_alone awaits.alone, singleton_append, mem_cons] at member
  exact member

theorem cosigned (known : ∀ approval, approval ∈ added -> ∃ client, approval = request client)
    (distinct : ((head P service stamps added).approvals.map ValidatorApproval.validator).Nodup) :
    Cosigned P ((head P service stamps added).draft P service).hash
      (getActiveValidators db service.chainId) (head P service stamps added).approvals where
  known := by
    intro approval member
    rcases awaits.mem_approvals member with rfl | later
    · exact awaits.proposer
    · obtain ⟨client, rfl⟩ := known approval later
      exact awaits.active client
  distinct := distinct
  signed := by
    intro approval member
    rcases awaits.mem_approvals member with rfl | later
    · exact validatorKeys_public P service ▸ P.verify_sign _ _
    · obtain ⟨client, rfl⟩ := known approval later
      exact awaits.signed client

theorem Holds.listSealedTransactions (holds : Holds P service stamps db later added)
    (awaiting : ¬ service.quorumThreshold ≤ added.length + 1) :
    Ledger.listSealedTransactions later service.chainId = [] := by
  have unsealed : ∀ row, sealedIn later true row = none := by
    intro row
    rw [sealedIn, holds.blocks]
    refine find?_cons_of_neg ?_
    rw [Head.row_finalized, awaits.length_approvals, decide_eq_false awaiting]
    simp
  simp [Ledger.listSealedTransactions, unsealed]

/-- A further approval is accepted; it settles the balances when it is the last one
that the block needs. -/
theorem approves (holds : Holds P service stamps db later added) {client : Bool}
    (known : ∀ approval, approval ∈ added -> ∃ other, approval = request other)
    (distinct : ((head P service stamps (added ++ [request client])).approvals.map
      ValidatorApproval.validator).Nodup)
    (awaiting : ¬ service.quorumThreshold ≤ added.length + 1) :
    Approves P service ((genesisHead P service stamps).row P service).hash
      (request client).validator (request client).signature later
      ((head P service stamps added).row P service)
      (if service.quorumThreshold ≤ added.length + 2 then
        some (genesisState P service stamps.transaction).toList else none) := by
  have length : ((head P service stamps added).row P service).approvals.length = added.length + 1 :=
    awaits.length_approvals added
  have cosigned := @cosigned _ _ _ _ _ _ _ (added ++ [request client]) awaits (by
    intro approval member
    rcases mem_append.mp member with before | last
    · exact known approval before
    · exact ⟨client, mem_singleton.mp last⟩) distinct
  have genesisValid : ∀ row, row ∈ (head P service stamps (added ++ [request client])).transactions ->
      TransactionValid P true (rowToTx P row) := by
    intro row listed
    rw [mem_singleton.mp listed, rowToTx_genesisRow, genesisTransaction, validatorKeys_public]
    exact newSignedTransaction_valid P true (Int.le_refl 0)
  have valid := Head.valid_of_cosigned (awaits.front _) cosigned genesisValid
  rw [← holds.getActiveValidators] at valid
  exact {
    found := holds.getBlockByHash
    onChain := Head.row_chainId
    awaiting := by
      rw [Head.row_finalized, awaits.length_approvals]
      exact decide_eq_false awaiting
    approvable := {
      active := holds.getActiveValidators ▸ awaits.active client
      signed := awaits.signed client
      first := by
        rw [head, ← append_assoc, map_append] at distinct
        exact fun repeated => (nodup_append.mp distinct).2.2 _ repeated _
          (mem_singleton.mpr rfl) rfl
      valid := by
        intro final
        rw [holds.approvingBlock awaits]
        have reached : ((head P service stamps (added ++ [request client])).block P service).finalized =
            true := by
          refine decide_eq_true ?_
          rw [awaits.length_approvals, length_append, length_singleton]
          exact length ▸ final
        exact {
          height := fun _ impossible => by cases impossible
          previous := fun _ impossible => by cases impossible
          authorized := valid.authorized
          root := valid.root
          hash := valid.hash
          signature := valid.signature
          signed := valid.signed
          approvals := by
            intro _
            have counted := valid.approvals (Bool.or_eq_true_iff.mpr (Or.inl reached))
            have threshold : (newBlockCheck service
                ((head P service stamps (added ++ [request client])).block P service)
                (Ledger.getActiveValidators later service.chainId)
                (head P service stamps (added ++ [request client])).previousHash
                (head P service stamps (added ++ [request client])).height).quorumThreshold =
                service.quorumThreshold := if_pos reached
            rw [threshold] at counted
            exact counted
          transactions := valid.transactions } }
    replayed := by
      intro final
      rw [length] at final
      rw [if_pos final, holds.blockTransactions awaits, holds.listSealedTransactions awaits awaiting]
      exact ⟨_, rfl, rfl⟩
    unsettled := by
      intro short
      rw [length] at short
      exact if_neg short
    accounts := by
      intro entries settled entry member
      split_ifs at settled
      cases settled
      cases member }

/-- A client that is alone approves the block. -/
theorem approves_step {system : ApprovalSystem F Bool} {client : Bool} (free : system.Free)
    (here : system.phase client = .idle) (holds : Holds P service stamps db system.db added)
    (known : ∀ approval, approval ∈ added -> ∃ other, approval = request other)
    (distinct : ((service.validatorKeys P).2 :: (added ++ [request client]).map
      ValidatorApproval.validator).Nodup)
    (awaiting : ¬ service.quorumThreshold ≤ added.length + 1) :
    ∃ block later, Relation.ReflTransGen
        (FreshStep P service ((genesisHead P service stamps).row P service).hash request) system
        ({ system with db := later }.enter client (.returned block)) ∧
      Holds P service stamps db later (added ++ [request client]) := by
  have validators : (head P service stamps (added ++ [request client])).approvals.map
      ValidatorApproval.validator =
      (service.validatorKeys P).2 :: (added ++ [request client]).map ValidatorApproval.validator := by
    rw [head, genesisHead_alone awaits.alone]
    rfl
  have approves := awaits.approves holds known (validators ▸ distinct) awaiting
  exact ⟨_, _, run_of_approveBody free here (approveBody_of_approves awaits.inScope approves),
    holds.store awaits (request client) _⟩

/-- Two approvals in turn are enough for a quorum of three. -/
theorem both_approve (three : service.quorumThreshold = 3)
    (distinct : [(service.validatorKeys P).2, (request true).validator,
      (request false).validator].Nodup) :
    ∃ system, Relation.ReflTransGen
        (FreshStep P service ((genesisHead P service stamps).row P service).hash request)
        (ApprovalSystem.start Bool db) system ∧
      ∀ client, ∃ block, system.phase client = .returned block := by
  have free : (ApprovalSystem.start Bool db).Free :=
    fun client row block state impossible => by cases impossible
  obtain ⟨first, middle, firstRun, holds⟩ := @approves_step _ _ _ _ _ _ _ _ awaits _ true free rfl
    awaits.holds_start (fun approval impossible => absurd impossible not_mem_nil)
    (distinct.sublist (sublist_append_left [_, _] [_])) (by rw [three, length_nil]; decide)
  have freeAgain : ({ ApprovalSystem.start Bool db with db := middle }.enter true
      (.returned first)).Free := by
    refine ApprovalSystem.Free.enter (fun client row block state impossible => ?_)
      (fun _ _ _ impossible => ?_)
    · cases impossible
    · cases impossible
  obtain ⟨second, last, secondRun, -⟩ := @approves_step _ _ _ _ _ _ _ _ awaits _ false freeAgain rfl
    holds (fun approval member => ⟨true, mem_singleton.mp member⟩) distinct
    (by rw [three, nil_append, length_singleton]; decide)
  refine ⟨_, firstRun.trans secondRun, fun client => ?_⟩
  cases client
  · exact ⟨second, rfl⟩
  · exact ⟨first, rfl⟩

end

end GenesisAwaits

end Concurrency

/-! ### Two approvals of a genesis block with a quorum of three -/

def approverKey (client : Bool) : String :=
  if client then "a" else "b"

def awaitingRow : BlockRow :=
  (genesisHead platform (relayService 3 none) relayStamps).row platform
    (relayService 3 none)

def awaitingTables : Database Float :=
  runRequests platform (relayService 3 none) (twoRegistrations relayStamps
    (platform.publicKeyFromPrivate (approverKey true))
    (platform.publicKeyFromPrivate (approverKey false))) {}

def approverRequest (client : Bool) : ValidatorApproval :=
  ⟨platform.publicKeyFromPrivate (approverKey client),
    platform.signMessage (approverKey client) awaitingRow.hash⟩

theorem approver_ne_relay (client : Bool) :
    platform.publicKeyFromPrivate (approverKey client) ≠
      platform.publicKeyFromPrivate "r" := by
  cases client
  · exact Reference.hexText_ne (by decide)
  · exact Reference.hexText_ne (by decide)

theorem approvers_differ : platform.publicKeyFromPrivate (approverKey true) ≠
    platform.publicKeyFromPrivate (approverKey false) :=
  Reference.hexText_ne (by decide)

theorem publicKey_fits (key : String) : (platform.publicKeyFromPrivate key).length ≤ 128 := by
  rw [platform.publicKey_length]
  decide

theorem awaitingTables_awaits :
    GenesisAwaits platform (relayService 3 none) relayStamps awaitingTables
      approverRequest := by
  obtain ⟨blocks, transactions, active⟩ := run_twoRegistrations relayStamps
    (relayService_alone 3 none) (relayService_scoped 3) (publicKey_fits (approverKey true))
    (publicKey_fits (approverKey false))
  exact {
    alone := relayService_alone 3 none
    inScope := relayService_scoped 3
    blocks := blocks
    transactions := transactions
    proposer := active _ (Or.inl rfl)
    active := fun client => by
      cases client
      · exact active _ (Or.inr (Or.inr rfl))
      · exact active _ (Or.inr (Or.inl rfl))
    signed := fun client => platform.verify_sign _ _ }

theorem awaitingTables_approvals : awaitingRow.approvals.length = 1 := by
  rw [awaitingRow, Head.row_approvals, genesisHead_alone (relayService_alone 3 none)]
  rfl

theorem awaitingTables_awaitsTwo :
    AwaitsTwo platform (relayService 3 none) awaitingTables awaitingRow
      approverRequest := by
  have awaits := awaitingTables_awaits
  have three : (relayService 3 none).quorumThreshold = 3 := rfl
  have approvals : awaitingRow.approvals.map ValidatorApproval.validator =
      [platform.publicKeyFromPrivate "r"] := by
    rw [awaitingRow, Head.row_approvals, genesisHead_alone (relayService_alone 3 none),
      relayService_keys]
    rfl
  have length := awaitingTables_approvals
  constructor
  · rw [getBlockByHash, awaits.blocks]
    exact find?_cons_of_pos (decide_eq_true rfl)
  · exact Head.row_chainId
  · rw [awaitingRow, Head.row_finalized, ← Head.row_approvals, ← awaitingRow, length, three]
    rfl
  · exact awaits.active
  · exact awaits.signed
  · intro client member
    rw [approvals, mem_singleton] at member
    exact approver_ne_relay client member
  · rw [length, three]
    decide

theorem approverRequest_injective :
    Function.Injective (fun client => (approverRequest client).validator) := by
  intro left right same
  cases left <;> cases right
  · rfl
  · exact absurd same.symm approvers_differ
  · exact absurd same approvers_differ
  · rfl

/-- Two approvals that do not overlap are both kept, and make the block final. -/
theorem both_approvals_kept :
    ∃ system, Relation.ReflTransGen
        (FreshStep platform (relayService 3 none) awaitingRow.hash approverRequest)
        (ApprovalSystem.start Bool awaitingTables) system ∧
      (∀ client, ∃ block, system.phase client = .returned block) ∧
      ∃ row, getBlockByHash system.db awaitingRow.hash = some row ∧
        (∀ client, approverRequest client ∈ row.approvals) ∧ row.finalized = true := by
  have distinct : [((relayService 3 none).validatorKeys platform).2,
      (approverRequest true).validator, (approverRequest false).validator].Nodup := by
    rw [relayService_keys]
    simpa using ⟨⟨(approver_ne_relay true).symm, (approver_ne_relay false).symm⟩, approvers_differ⟩
  obtain ⟨system, run, returned⟩ := awaitingTables_awaits.both_approve rfl distinct
  obtain ⟨row, found, kept, final⟩ := approvals_kept awaitingTables_awaitsTwo.found_at_start
    (fun _ => rfl) approverRequest_injective run
  have enough : (relayService 3 none).quorumThreshold ≤
      awaitingRow.approvals.length + [true, false].length := by
    rw [awaitingTables_approvals]
    exact Nat.le_refl 3
  refine ⟨system, run, returned, row, found, fun client => ?_, ?_⟩
  · obtain ⟨block, done⟩ := returned client
    exact kept client block done
  · exact final [true, false] (cons_ne_nil _ _) (by decide) (fun client _ => returned client)
      enough

/-- Two validators approve the same block at the same time.  Both calls
return, and one of the approvals is not stored. -/
theorem concurrent_approval_lost :
    (∀ client, (approverRequest client).validator ∈
        getActiveValidators awaitingTables (relayService 3 none).chainId) ∧
      Function.Injective (fun client => (approverRequest client).validator) ∧
      getBlockByHash awaitingTables awaitingRow.hash = some awaitingRow ∧
      ∃ system, Relation.ReflTransGen
          (ApprovalStep platform (relayService 3 none) awaitingRow.hash approverRequest)
          (ApprovalSystem.start Bool awaitingTables) system ∧
        (∀ client, ∃ block, system.phase client = .returned block) ∧
        ¬ ApprovalsKept (relayService 3 none) awaitingRow.hash approverRequest awaitingRow system := by
  have awaits := awaitingTables_awaitsTwo
  obtain ⟨system, run, returned, stored⟩ := awaits.second_commit
  exact ⟨awaits.active, approverRequest_injective, awaits.found, system, run, returned,
    not_approvalsKept returned stored (awaits.first true) approvers_differ⟩

end Ledger
end ZepGpu
