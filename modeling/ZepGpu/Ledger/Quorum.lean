import ZepGpu.Ledger.Run

namespace ZepGpu
namespace Ledger

open Foundation
open Reference (platform)

/-!
# Quorum safety

Three operations finalize blocks: the initialization, a seal, and an approval.
Each collects the approvals in its own way, but all of them end in the same
validation, which counts every approval or none.  A block that becomes final
therefore carries only valid approvals of distinct active validators, the
proposer among them, and no fewer than the quorum.

Calls may go to any services of the ledger, and the tables may hold anything
at the start, in particular validators that an operator has deactivated.
-/

variable {F : Type} [Arithmetic F]

section Quorum

variable (P : Platform F)

/-- A request with the service that handles it. -/
structure Call where
  service : LedgerService
  request : Request

def Call.perform (call : Call) (db : Database F) : Database F :=
  call.request.perform P call.service db

def runCalls (calls : List Call) (db : Database F) : Database F :=
  calls.foldl (fun db call => call.perform P db) db

theorem runCalls_nil (db : Database F) : runCalls P [] db = db :=
  rfl

/-- The hash fits the block, and enough active validators have signed it. -/
structure QuorumSigned (db : Database F) (quorumThreshold : Nat) (row : BlockRow) : Prop where
  hashed : row.hash = (blockToDomain P db row).computeHash P
  approved : Approved P (getActiveValidators db row.chainId) quorumThreshold (blockToDomain P db row)

/-- Every block that a transaction makes final is a block of the service and
has a quorum when the transaction commits. -/
def FinalizedByQuorum (service : LedgerService) (before after : Database F) : Prop :=
  ∀ row, row ∈ after.blocks -> row.finalized = true ->
    (∀ old, old ∈ before.blocks -> old.id = row.id -> old.finalized = false) ->
      row.chainId = service.chainId ∧ QuorumSigned P after service.quorumThreshold row

section Steps

variable {P} {service : LedgerService} {request : Request} {before after : Database F}

theorem Approved.mono {authorized more : List String} {quorumThreshold : Nat}
    {block other : ComputeBlock} (approved : Approved P authorized quorumThreshold block)
    (inside : authorized ⊆ more) (approvals : other.approvals = block.approvals)
    (hash : other.hash = block.hash) (validator : other.validator = block.validator) :
    Approved P more quorumThreshold other where
  authorized := by
    rw [approvals]
    exact fun approval member => inside (approved.authorized approval member)
  distinct := by
    rw [approvals]
    exact approved.distinct
  signed := by
    rw [approvals, hash]
    exact approved.signed
  proposer := by
    rw [approvals, validator]
    exact approved.proposer
  quorum := by
    rw [approvals]
    exact approved.quorum

theorem finalizedByQuorum_of_same_blocks (same : after.blocks = before.blocks) :
    FinalizedByQuorum P service before after := by
  intro row member final fresh
  rw [same] at member
  rw [fresh row member rfl] at final
  cases final

theorem Head.Accepted.finalizedByQuorum {head : Head F} {validators : List String} {stored : Database F}
    (accepted : head.Accepted P service validators stored) (same : stored.blocks = before.blocks) :
    FinalizedByQuorum P service before (head.store P service stored) := by
  intro row member final fresh
  rcases List.mem_append.mp member with old | new
  · rw [same] at old
    rw [fresh row old rfl] at final
    cases final
  · have isHead : row = head.row P service := List.mem_singleton.mp new
    subst isHead
    have reached : (head.block P service).finalized = true := final
    have approved := accepted.valid.approved P reached
    have threshold : (newBlockCheck service (head.block P service) validators head.previousHash
        head.height).quorumThreshold = service.quorumThreshold := if_pos reached
    rw [threshold, ensureProposerApproval_of_mem accepted.proposer] at approved
    refine ⟨rfl, ?_, ?_⟩
    · rw [blockToDomain, Head.rowToBlock_row]
      exact accepted.valid.hash
    · rw [blockToDomain, Head.rowToBlock_row]
      exact approved.mono accepted.active rfl rfl rfl

theorem Begins.finalizedByQuorum {stamps : GenesisStamps}
    (begins : Begins P service stamps before after) : FinalizedByQuorum P service before after := by
  obtain ⟨validators, base, stored, initializes, rfl⟩ := begins
  apply initializes.accepted.finalizedByQuorum
  rw [initializes.transaction.blocks, initializes.same.blocks]

theorem Approves.finalizedByQuorum {hash key signature : String} {row : BlockRow}
    {balances : Option (List (BalanceEntry F))}
    (approves : Approves P service hash key signature before row balances)
    (distinct : (before.blocks.map BlockRow.id).Nodup) :
    FinalizedByQuorum P service before (storeApproval service row.id
      (approvedBlock service (blockToDomain P before row) key signature) balances before) := by
  intro changed member final fresh
  obtain ⟨old, stored, rfl⟩ := List.mem_map.mp member
  by_cases here : old.id = row.id
  · have same := List.inj_on_of_nodup_map distinct stored (mem_of_getBlockByHash approves.found).1
      here
    subst same
    rw [if_pos rfl] at final ⊢
    have reached : service.quorumThreshold ≤ (blockToDomain P before old).approvals.length + 1 := by
      dsimp only at final
      rw [approvedBlock_finalized] at final
      exact of_decide_eq_true final
    obtain ⟨approvals, finalized, frame⟩ := approvedBlock_frame service (blockToDomain P before old)
      key signature
    refine ⟨approves.onChain, ?_, ?_⟩
    · exact (approves.approvable.valid reached).hash
    · have active : getActiveValidators before service.chainId ⊆
          getActiveValidators before old.chainId := by
        rw [approves.onChain]
        exact List.Subset.refl _
      refine (approves.approvable.approved reached).mono active rfl ?_ ?_
      · rw [frame]
        rfl
      · rw [frame]
        rfl
  · rw [if_neg here] at final fresh
    rw [fresh old stored rfl] at final
    cases final

theorem Commits.finalizedByQuorum (commits : Commits P service request before after)
    (distinct : (before.blocks.map BlockRow.id).Nodup) :
    FinalizedByQuorum P service before after := by
  cases commits with
  | submit begun left submits => exact finalizedByQuorum_of_same_blocks rfl
  | submitAndSeal begun submits seals =>
    exact seals.accepted.finalizedByQuorum seals.same.blocks
  | sealBlock seals => exact seals.accepted.finalizedByQuorum seals.same.blocks
  | approve approves => exact approves.finalizedByQuorum distinct
  | rebuild replayed => exact finalizedByQuorum_of_same_blocks rfl
  | register same => exact finalizedByQuorum_of_same_blocks same.blocks

theorem nodup_store {head : Head F} {validators : List String} {stored : Database F}
    (accepted : head.Accepted P service validators stored) (same : stored.blocks = before.blocks)
    (distinct : (before.blocks.map BlockRow.id).Nodup) :
    ((head.store P service stored).blocks.map BlockRow.id).Nodup := by
  rw [← same] at distinct
  exact nodup_keys_append_singleton distinct accepted.fits.freshId

theorem Begins.nodup {stamps : GenesisStamps} (begins : Begins P service stamps before after)
    (distinct : (before.blocks.map BlockRow.id).Nodup) : (after.blocks.map BlockRow.id).Nodup := by
  obtain ⟨validators, base, stored, initializes, rfl⟩ := begins
  refine nodup_store initializes.accepted ?_ distinct
  rw [initializes.transaction.blocks, initializes.same.blocks]

theorem Commits.nodup (commits : Commits P service request before after)
    (distinct : (before.blocks.map BlockRow.id).Nodup) : (after.blocks.map BlockRow.id).Nodup := by
  cases commits with
  | submit begun left submits => exact distinct
  | submitAndSeal begun submits seals => exact nodup_store seals.accepted seals.same.blocks distinct
  | sealBlock seals => exact nodup_store seals.accepted seals.same.blocks distinct
  | approve approves =>
    rw [storeApproval_ids]
    exact distinct
  | rebuild replayed => exact distinct
  | register same =>
    rw [same.blocks]
    exact distinct

theorem runCalls_nodup (P : Platform F) {db : Database F} (distinct : (db.blocks.map BlockRow.id).Nodup)
    (calls : List Call) : ((runCalls P calls db).blocks.map BlockRow.id).Nodup := by
  induction calls generalizing db with
  | nil => exact distinct
  | cons call rest ih =>
    apply ih
    exact Request.perform_preserves (fun db => (db.blocks.map BlockRow.id).Nodup)
      (fun _ _ _ here begins => begins.nodup here) (fun _ here commits => commits.nodup here) distinct

end Steps

/-- In every run, a block that a transaction of a request makes final carries
valid signatures of a quorum of distinct active validators on its own hash,
and no other approvals. -/
theorem finalized_by_quorum {db : Database F} (distinct : (db.blocks.map BlockRow.id).Nodup)
    (calls : List Call) (call : Call) :
    let before := runCalls P calls db
    let middle := call.request.initialized P call.service before
    FinalizedByQuorum P call.service before middle ∧
      FinalizedByQuorum P call.service middle (call.perform P before) := by
  intro before middle
  have distinctBefore := runCalls_nodup P distinct calls
  have first : FinalizedByQuorum P call.service before middle ∧
      (middle.blocks.map BlockRow.id).Nodup := by
    rcases Request.begins P call.service call.request before with same | ⟨stamps, _, begins⟩
    · refine ⟨finalizedByQuorum_of_same_blocks (congrArg Database.blocks same), ?_⟩
      rw [show middle = before from same]
      exact distinctBefore
    · exact ⟨begins.finalizedByQuorum, begins.nodup distinctBefore⟩
  refine ⟨first.1, ?_⟩
  rcases Request.commits P call.service call.request before with same | commits
  · exact finalizedByQuorum_of_same_blocks (congrArg Database.blocks same)
  · exact commits.finalizedByQuorum first.2

end Quorum

/-- A service with a configured relay key and no extra validators. -/
def relayService (quorumThreshold : Int) (networkId : Option String) : LedgerService :=
  LedgerService.ofNetwork
    { validatorPrivateKey := "r", quorumThreshold := quorumThreshold, secretKey := "s" } networkId

def relayStamps : GenesisStamps :=
  ⟨⟨1, 0⟩, ⟨2, 0⟩⟩

theorem relayService_alone (quorumThreshold : Int) (networkId : Option String) :
    (relayService quorumThreshold networkId).extraValidatorKeys platform = [] := by
  have unset : (relayService quorumThreshold networkId).settings.extraValidatorPrivateKeys = "" :=
    rfl
  have parts : ((strip "").toList.splitOn ',').map (fun part => strip (String.ofList part)) =
      [""] := by decide
  rw [LedgerService.extraValidatorKeys, unset, parts]
  rfl

theorem relayService_keys (quorumThreshold : Int) (networkId : Option String) :
    (relayService quorumThreshold networkId).validatorKeys platform =
      ("r", platform.publicKeyFromPrivate "r") := by
  have configured : (relayService quorumThreshold networkId).settings.validatorPrivateKey = "r" :=
    rfl
  have stripped : strip "r" = "r" := by decide
  rw [LedgerService.validatorKeys, configured, if_pos (by decide), stripped]

theorem relayService_scoped (quorumThreshold : Int) :
    Scoped platform (relayService quorumThreshold none).chainId
      (relayService quorumThreshold none).networkId := by
  have unscoped : parseNetworkId "zepgpu-compute-v1" = none := by decide
  have network : (relayService quorumThreshold none).networkId = none := by
    simp only [relayService, LedgerService.ofNetwork, LedgerService.new, chainIdForNetwork,
      Option.filter_none, Option.getD_none, unscoped]
    rfl
  have chain : (relayService quorumThreshold none).chainId = "zepgpu-compute-v1" := rfl
  rw [network, chain]
  exact ⟨⟨none, rfl⟩, by decide⟩

def relayTables (quorumThreshold : Int) : Database Float :=
  (Request.ensureInitialized relayStamps).perform platform
    (relayService quorumThreshold none) {}

/-- With a quorum of one the genesis block is final at once, and signed. -/
theorem relayTables_by_quorum :
    (({} : Database Float).blocks.map BlockRow.id).Nodup ∧
      (∃ row, row ∈ (relayTables 1).blocks ∧ row.finalized = true) ∧
      FinalizedByQuorum platform (relayService 1 none) {} (relayTables 1) := by
  have distinct : (({} : Database Float).blocks.map BlockRow.id).Nodup := List.nodup_nil
  obtain ⟨_, _, _, blocks, _⟩ := perform_first (relayService_alone 1 none) (relayService_scoped 1)
    relayStamps
  have single : (relayService 1 none).quorumThreshold = 1 := rfl
  refine ⟨distinct, ⟨(genesisHead platform (relayService 1 none) relayStamps).row
    platform (relayService 1 none), ?_, ?_⟩, ?_⟩
  · rw [relayTables, blocks]
    exact List.mem_singleton.mpr rfl
  · rw [Head.row_finalized, genesisHead_alone (relayService_alone 1 none), single]
    exact decide_eq_true (Nat.le_refl 1)
  · have first := (finalized_by_quorum platform distinct []
      ⟨relayService 1 none, .ensureInitialized relayStamps⟩).1
    rw [runCalls_nil, ← Request.perform_ensureInitialized] at first
    exact first

end Ledger
end ZepGpu
