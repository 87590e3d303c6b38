import ZepGpu.Ledger.HeaderSync
import ZepGpu.Ledger.MerkleLoops

namespace ZepGpu
namespace Ledger

open Foundation List
open Reference (platform)

/-!
# The chain audit

`verify_chain` walks over the stored blocks of a chain, validates each one
against its predecessor, and replays the finalized transactions.  It returns
the root of the replayed balances but compares it with nothing, and the check
of a block does not look at its state root except through the block hash.  A
chain whose blocks are well formed is therefore reported valid whatever state
roots they carry.
-/

variable {F : Type} [Arithmetic F]

section Audit

variable (P : Platform F) (service : LedgerService)

/-- The arguments with which the audit validates a block.  A finalized block is
held to the number of approvals it has. -/
def auditCheck (validators : List String) (height : Int) (previousHash : String)
    (block : ComputeBlock) : BlockCheck where
  authorizedValidators := validators
  expectedPreviousHash := some previousHash
  expectedHeight := some height
  quorumThreshold := if block.finalized then max 1 block.approvals.length else 1
  requireQuorum := block.finalized

def auditErrors (validators : List String) :
    Int -> String -> List ComputeBlock -> Except PyError (List String)
  | _, _, [] => .ok []
  | height, previousHash, block :: rest => do
      let here ← catchValidation
        (validateBlock P block (auditCheck validators height previousHash block))
      let later ← auditErrors validators (height + 1) block.hash rest
      .ok (here.map (fun text => "height=" ++ toString height ++ ": " ++ text) ++ later)

def finalizedTransactions (blocks : List ComputeBlock) : List ComputeTransaction :=
  (blocks.filter (fun block => block.finalized)).flatMap ComputeBlock.transactions

/-- The answer of `verify_chain`. -/
structure AuditReport (F : Type) [Arithmetic F] where
  valid : Bool
  chainId : String
  networkId : Option String
  blockCount : Nat
  tipHeight : Int
  tipHash : Option String
  quorumThreshold : Nat
  stateRoot : String
  errors : List String
  balances : List (BalanceEntry F)

def storedBlocks (db : Database F) : List ComputeBlock :=
  (listAllBlocksAscending db service.chainId).map (blockToDomain P db)

def verifyChainBody (db : Database F) : Except PyError (AuditReport F × Database F) := do
  let blocks := storedBlocks P service db
  let errors ← auditErrors P (getActiveValidators db service.chainId) 0 zeroHash blocks
  let replayed := replayTransactions P (finalizedTransactions blocks)
  let errors := match replayed with
    | .ok _ => errors
    | .error error => errors ++ ["replay failed: " ++ error.message]
  let state := match replayed with
    | .ok state => state
    | .error _ => {}
  let tip := getTip db service.chainId
  .ok ({
    valid := errors.isEmpty
    chainId := service.chainId
    networkId := service.networkId
    blockCount := blocks.length
    tipHeight := tip.elim (-1) BlockRow.height
    tipHash := tip.map BlockRow.hash
    quorumThreshold := service.quorumThreshold
    stateRoot := state.stateRoot P
    errors := errors
    balances := state.toList }, db)

def verifyChain (stamps : GenesisStamps) : Database F -> Outcome (Database F) PyError (AuditReport F) :=
  withInitialized P service stamps (verifyChainBody P service)

/-- Every block is valid on top of the one before it. -/
def BlocksAudited (validators : List String) : Int -> String -> List ComputeBlock -> Prop
  | _, _, [] => True
  | height, previousHash, block :: rest =>
    BlockValid P (auditCheck validators height previousHash block) block ∧
      BlocksAudited validators (height + 1) block.hash rest

/-- Every finalized block carries the root of the balances after the finalized
transactions up to and including its own. -/
def StateRootsMatch (blocks : List ComputeBlock) : Prop :=
  ∀ front block back, blocks = front ++ block :: back -> block.finalized = true ->
    ∃ state, replayTransactions P (finalizedTransactions (front ++ [block])) = .ok state ∧
      block.stateRoot = state.stateRoot P

theorem catchValidation_eq_nil_iff {α : Type} {attempt : Except PyError α} :
    catchValidation attempt = .ok [] ↔ ∃ value, attempt = .ok value := by
  cases attempt with
  | ok value => simp [catchValidation]
  | error error => cases error <;> simp [catchValidation]

theorem auditErrors_eq_nil_iff {validators : List String} {height : Int} {previousHash : String}
    {blocks : List ComputeBlock} :
    auditErrors P validators height previousHash blocks = .ok [] ↔
      BlocksAudited P validators height previousHash blocks := by
  induction blocks generalizing height previousHash with
  | nil => simp [auditErrors, BlocksAudited]
  | cons block rest ih =>
    simp only [auditErrors, bind_eq_ok, Except.ok.injEq, append_eq_nil_iff,
      map_eq_nil_iff, BlocksAudited]
    constructor
    · rintro ⟨here, passed, later, clean, rfl, rfl⟩
      obtain ⟨normalized, validated⟩ := catchValidation_eq_nil_iff.mp passed
      exact ⟨((validateBlock_eq_ok_iff P).mp validated).1, ih.mp clean⟩
    · rintro ⟨valid, restAudited⟩
      refine ⟨[], catchValidation_eq_nil_iff.mpr ⟨_, (validateBlock_eq_ok_iff P).mpr ⟨valid, rfl⟩⟩,
        [], ih.mpr restAudited, rfl, rfl⟩

theorem verifyChainBody_unchanged {db written : Database F} {report : AuditReport F}
    (run : verifyChainBody P service db = .ok (report, written)) : written = db := by
  simp only [verifyChainBody, bind_eq_ok, Except.ok.injEq, Prod.mk.injEq] at run
  obtain ⟨_, _, _, same⟩ := run
  exact same.symm

theorem verifyChainBody_valid_iff {db : Database F} :
    (∃ report, verifyChainBody P service db = .ok (report, db) ∧ report.valid = true) ↔
      BlocksAudited P (getActiveValidators db service.chainId) 0 zeroHash
          (storedBlocks P service db) ∧
        ∃ state, replayTransactions P (finalizedTransactions (storedBlocks P service db)) =
          .ok state := by
  rw [← auditErrors_eq_nil_iff]
  simp only [verifyChainBody, bind_eq_ok, Except.ok.injEq, Prod.mk.injEq, and_true]
  cases replayed : replayTransactions P (finalizedTransactions (storedBlocks P service db)) with
  | error error =>
    constructor
    · rintro ⟨report, ⟨errors, walk, rfl⟩, clean⟩
      simp at clean
    · rintro ⟨_, state, impossible⟩
      cases impossible
  | ok state =>
    constructor
    · rintro ⟨report, ⟨errors, walk, rfl⟩, clean⟩
      have none : errors = [] := isEmpty_iff.mp clean
      rw [none] at walk
      exact ⟨walk, state, rfl⟩
    · rintro ⟨walk, _⟩
      exact ⟨_, ⟨[], walk, rfl⟩, rfl⟩

theorem verifyChain_of_stored {stamps : GenesisStamps} {db : Database F}
    (stored : getTip db service.chainId false ≠ none) :
    verifyChain P service stamps db = transaction (verifyChainBody P service) db :=
  withInitialized_of_begun P service stored

theorem verifyChain_valid_iff {stamps : GenesisStamps} {db : Database F}
    (stored : getTip db service.chainId false ≠ none) :
    (∃ report, (verifyChain P service stamps db).result = .ok report ∧ report.valid = true) ↔
      BlocksAudited P (getActiveValidators db service.chainId) 0 zeroHash
          (storedBlocks P service db) ∧
        ∃ state, replayTransactions P (finalizedTransactions (storedBlocks P service db)) =
          .ok state := by
  rw [← verifyChainBody_valid_iff, verifyChain_of_stored P service stored]
  constructor
  · rintro ⟨report, committed, valid⟩
    obtain ⟨written, run⟩ := transaction_result_eq_ok.mp committed
    rw [verifyChainBody_unchanged P service run] at run
    exact ⟨report, run, valid⟩
  · rintro ⟨report, run, valid⟩
    exact ⟨report, transaction_result_eq_ok.mpr ⟨db, run⟩, valid⟩

/-! ## A signed genesis block with any state root -/

/-- A chain of one finalized block, which the holder of a key can write at will. -/
structure SignedGenesis where
  chainId : String
  signingKey : String
  stateRoot : String
  transactions : List TransactionRow := []
  validators : List String

namespace SignedGenesis

variable (genesis : SignedGenesis)

def validator : String :=
  P.publicKeyFromPrivate genesis.signingKey

def leafHashes : List String :=
  genesis.transactions.map (fun row => (rowToTx P row).computeHash P)

/-- The block before it is signed. -/
def unsigned : ComputeBlock where
  height := 0
  previousHash := zeroHash
  transactions := genesis.transactions.map (rowToTx P)
  validator := genesis.validator P
  timestamp := P.isoformat 0
  id := P.strOfUuid 0
  transactionsRoot := merkleRoot P (genesis.leafHashes P)
  stateRoot := genesis.stateRoot

def hash : String :=
  (genesis.unsigned P).computeHash P

def row : BlockRow where
  id := 0
  chainId := genesis.chainId
  height := 0
  hash := genesis.hash P
  previousHash := zeroHash
  timestamp := 0
  transactionsRoot := merkleRoot P (genesis.leafHashes P)
  stateRoot := genesis.stateRoot
  validatorPublicKey := genesis.validator P
  validatorSignature := P.signMessage genesis.signingKey (genesis.hash P)
  approvals := [⟨genesis.validator P, P.signMessage genesis.signingKey (genesis.hash P)⟩]
  finalized := true

def block : ComputeBlock :=
  rowToBlock P (genesis.row P) genesis.transactions

def database : Database F where
  validators := genesis.validators.map (fun key => { chainId := genesis.chainId, publicKey := key })
  blocks := [genesis.row P]
  transactions := genesis.transactions

/-- The rows of the transactions are those of the block, in its order, and are
signed. -/
structure WellFormed : Prop where
  placed : ∀ row, row ∈ genesis.transactions -> row.blockId = some 0
  ordered : genesis.transactions.Pairwise
    (fun left right => left.position.getD 0 ≤ right.position.getD 0)
  valid : ∀ row, row ∈ genesis.transactions -> TransactionValid P true (rowToTx P row)
  member : genesis.validator P ∈ genesis.validators

variable {P} {genesis}

theorem stored : getTip (genesis.database P) genesis.chainId false ≠ none := by
  simp [getTip, highest, chainBlocks, database, row]

theorem activeValidators : getActiveValidators (genesis.database P) genesis.chainId =
    genesis.validators := by
  unfold getActiveValidators database
  rw [filter_eq_self.mpr, map_map]
  · exact map_id genesis.validators
  · intro row member
    obtain ⟨key, _, rfl⟩ := mem_map.mp member
    exact decide_eq_true ⟨rfl, rfl⟩

theorem blockToDomain_row (wellFormed : genesis.WellFormed P) :
    blockToDomain P (genesis.database P) (genesis.row P) = genesis.block P := by
  have all : genesis.transactions.filter (fun row => row.blockId = some 0) = genesis.transactions :=
    filter_eq_self.mpr (fun row member => decide_eq_true (wellFormed.placed row member))
  have listed : blockTransactions (genesis.database P) (genesis.row P) = genesis.transactions := by
    change (genesis.transactions.filter (fun row => row.blockId = some 0)).insertionSort _ = _
    rw [all]
    exact wellFormed.ordered.insertionSort_eq
  exact congrArg (rowToBlock P (genesis.row P)) listed

theorem storedBlocks_eq (wellFormed : genesis.WellFormed P) (chain : service.chainId = genesis.chainId) :
    storedBlocks P service (genesis.database P) = [genesis.block P] := by
  have listed : listAllBlocksAscending (genesis.database P) genesis.chainId = [genesis.row P] := by
    simp [listAllBlocksAscending, chainBlocks, database, row]
  unfold storedBlocks
  rw [chain, listed, map_singleton, blockToDomain_row wellFormed]

theorem getBlockByHash_hash :
    getBlockByHash (genesis.database P) (genesis.hash P) = some (genesis.row P) := by
  simp [getBlockByHash, database, row]

theorem leafHashes_block : (genesis.block P).leafHashes P = genesis.leafHashes P :=
  map_map

theorem block_valid (wellFormed : genesis.WellFormed P) :
    BlockValid P (auditCheck genesis.validators 0 zeroHash (genesis.block P)) (genesis.block P) := by
  have approved : Approved P genesis.validators 1 (genesis.block P) := {
    authorized := fun approval listed => by
      rw [mem_singleton.mp listed]
      exact wellFormed.member
    distinct := nodup_singleton _
    signed := fun approval listed => by
      rw [mem_singleton.mp listed]
      exact P.verify_sign _ _
    proposer := mem_singleton.mpr rfl
    quorum := Nat.le_refl 1 }
  exact {
    height := fun _ same => Option.some.inj same
    previous := fun _ same => Option.some.inj same
    authorized := wellFormed.member
    root := by
      rw [leafHashes_block]
      rfl
    hash := by
      -- the header names neither the hash nor the signatures
      unfold ComputeBlock.computeHash ComputeBlock.headerText
      rfl
    signature := P.signature_ne_empty _ _
    signed := P.verify_sign _ _
    approvals := fun _ => ⟨Nat.le_refl 1, by
      rw [ensureProposerApproval_of_mem approved.proposer]
      exact approved⟩
    transactions := fun tx listed => by
      obtain ⟨row, member, rfl⟩ := mem_map.mp listed
      exact wellFormed.valid row member }

theorem reported_valid {stamps : GenesisStamps} (wellFormed : genesis.WellFormed P)
    (chain : service.chainId = genesis.chainId)
    (replays : ∃ state, replayTransactions P (genesis.block P).transactions = .ok state) :
    ∃ report, (verifyChain P service stamps (genesis.database P)).result = .ok report ∧
      report.valid = true := by
  have begun : getTip (genesis.database P) service.chainId false ≠ none := chain ▸ stored
  have final : finalizedTransactions [genesis.block P] = (genesis.block P).transactions :=
    append_nil _
  rw [verifyChain_valid_iff P service begun, storedBlocks_eq service wellFormed chain, chain,
    activeValidators, final]
  exact ⟨⟨block_valid wellFormed, trivial⟩, replays⟩

end SignedGenesis

theorem hashable_leafHashes (block : ComputeBlock) : Hashable (block.leafHashes P) := by
  intro _ leaf member
  obtain ⟨tx, _, rfl⟩ := mem_map.mp member
  exact isAscii_sha256Hex _

theorem merkleProof_of_mem {leaves : List String} {leaf : String} (member : leaf ∈ leaves) :
    ∃ proof, merkleProof P leaves (leaves.idxOf leaf) = .ok proof := by
  have within : leaves.idxOf leaf < leaves.length := idxOf_lt_length_iff.mpr member
  simp only [merkleProof, raiseIf_bind_eq_ok]
  exact ⟨_, ne_nil_of_mem member, by omega, rfl⟩

theorem getInclusionProof_eq_ok {db : Database F} {blockHash txHash : String} {given : InclusionProof} :
    getInclusionProof P service blockHash txHash db = .ok given ↔
      ∃ row proof, getBlockByHash db blockHash = some row ∧ row.chainId = service.chainId ∧
        txHash ∈ (blockToDomain P db row).leafHashes P ∧
        merkleProof P ((blockToDomain P db row).leafHashes P)
          (((blockToDomain P db row).leafHashes P).idxOf txHash) = .ok proof ∧
        ⟨(blockToDomain P db row).hash, (blockToDomain P db row).height,
          (blockToDomain P db row).transactionsRoot, proof, true⟩ = given := by
  rw [getInclusionProof]
  cases found : getBlockByHash db blockHash with
  | none => simp
  | some row =>
    dsimp only
    rw [raiseIf_bind_eq_ok, raiseIf_bind_eq_ok]
    simp only [bind_eq_ok, not_not, Option.some.injEq, Except.ok.injEq]
    constructor
    · rintro ⟨onChain, member, proof, built, valid, accepted, rfl⟩
      obtain ⟨_, _, _, verified⟩ := verify_merkleProof (hashable_leafHashes P _) built
      rw [verified] at accepted
      obtain rfl := Except.ok.inj accepted
      exact ⟨row, proof, rfl, onChain, member, built, rfl⟩
    · rintro ⟨_, proof, rfl, onChain, member, built, rfl⟩
      obtain ⟨_, _, _, verified⟩ := verify_merkleProof (hashable_leafHashes P _) built
      exact ⟨onChain, member, proof, built, true, verified, rfl⟩

theorem BlocksAudited.root {validators : List String} {height : Int} {previousHash : String}
    {blocks : List ComputeBlock} (audited : BlocksAudited P validators height previousHash blocks)
    {block : ComputeBlock} (member : block ∈ blocks) :
    block.transactionsRoot = merkleRoot P (block.leafHashes P) := by
  induction blocks generalizing height previousHash with
  | nil => cases member
  | cons first rest ih =>
    rcases mem_cons.mp member with rfl | later
    · exact audited.1.root
    · exact ih audited.2 later

/-- A proof is served for exactly the transactions of the block, and starts at the
transaction at the index that it names.  The light client accepts it against the
header of the block exactly when the block carries the root of its transactions,
as every block of a chain that the audit reports valid does. -/
theorem inclusionProof_accepted_iff {stamps : GenesisStamps} {db : Database F} {row : BlockRow}
    {blockHash : String} (stored : getTip db service.chainId false ≠ none)
    (found : getBlockByHash db blockHash = some row) (onChain : row.chainId = service.chainId) :
    let block := blockToDomain P db row
    (∀ txHash, txHash ∈ block.leafHashes P ↔
      ∃ given, getInclusionProof P service blockHash txHash db = .ok given) ∧
    (∀ txHash given, getInclusionProof P service blockHash txHash db = .ok given ->
      given.valid = true ∧ given.proof.leaf = txHash ∧ 0 ≤ given.proof.index ∧
        (block.leafHashes P)[given.proof.index.toNat]? = some txHash ∧
        (verifyTxInclusion P (BlockHeader.fromBlock block) given.proof = .ok true ↔
          block.transactionsRoot = merkleRoot P (block.leafHashes P))) ∧
    ((∃ report, (verifyChain P service stamps db).result = .ok report ∧ report.valid = true) ->
      ∀ txHash given, getInclusionProof P service blockHash txHash db = .ok given ->
        verifyTxInclusion P (BlockHeader.fromBlock block) given.proof = .ok true) := by
  intro block
  have verdict : ∀ txHash given, getInclusionProof P service blockHash txHash db = .ok given ->
      given.valid = true ∧ given.proof.leaf = txHash ∧ 0 ≤ given.proof.index ∧
        (block.leafHashes P)[given.proof.index.toNat]? = some txHash ∧
        (verifyTxInclusion P (BlockHeader.fromBlock block) given.proof = .ok true ↔
          block.transactionsRoot = merkleRoot P (block.leafHashes P)) := by
    intro txHash given served
    obtain ⟨same, proof, sameRow, _, member, built, rfl⟩ :=
      (getInclusionProof_eq_ok P service).mp served
    obtain rfl : row = same := Option.some.inj (found.symm.trans sameRow)
    obtain ⟨root, leafAt, index, verified⟩ := verify_merkleProof (hashable_leafHashes P _) built
    have position : (block.leafHashes P)[proof.index.toNat]? = some txHash := by
      rw [index, Int.toNat_natCast]
      exact getElem?_idxOf member
    have leaf : proof.leaf = txHash := by
      rw [← index] at leafAt
      exact Option.some.inj (leafAt.symm.trans position)
    refine ⟨rfl, leaf, index ▸ Int.natCast_nonneg _, position, ?_⟩
    have sameRoot : (Json.str proof.root).same (BlockHeader.fromBlock block).transactionsRoot = true ↔
        block.transactionsRoot = merkleRoot P (block.leafHashes P) := by
      rw [Json.same_str_iff, root]
      exact ⟨Json.str.inj, congrArg Json.str⟩
    rw [verifyTxInclusion, ← sameRoot]
    split_ifs with same
    · exact iff_of_true verified same
    · exact iff_of_false (by rintro ⟨⟩) same
  refine ⟨?_, verdict, ?_⟩
  · intro txHash
    constructor
    · intro member
      obtain ⟨proof, built⟩ := merkleProof_of_mem P member
      exact ⟨_, (getInclusionProof_eq_ok P service).mpr
        ⟨row, proof, found, onChain, member, built, rfl⟩⟩
    · rintro ⟨given, served⟩
      obtain ⟨same, _, sameRow, _, member, _, _⟩ := (getInclusionProof_eq_ok P service).mp served
      obtain rfl : row = same := Option.some.inj (found.symm.trans sameRow)
      exact member
  · rintro ⟨report, committed, valid⟩ txHash given served
    rw [verifyChain_of_stored P service stored] at committed
    obtain ⟨written, run⟩ := transaction_result_eq_ok.mp committed
    rw [verifyChainBody_unchanged P service run] at run
    obtain ⟨audited, _⟩ := (verifyChainBody_valid_iff P service).mp ⟨report, run, valid⟩
    have listed : block ∈ storedBlocks P service db := by
      apply mem_map_of_mem
      rw [listAllBlocksAscending, mem_insertionSort, chainBlocks, mem_filter]
      exact ⟨mem_of_find?_eq_some found, decide_eq_true ⟨onChain, by rintro ⟨⟩⟩⟩
    exact (verdict txHash given served).2.2.2.2.mpr (audited.root P listed)

/-! ## A block of two attestations -/

/-- An attestation in the genesis block, before it is signed. -/
def unsignedAttestation (chainId signingKey : String) (nonce : Nat) : TransactionRow where
  id := nonce
  chainId := chainId
  txHash := ""
  txType := .jobSubmitted
  sender := P.publicKeyFromPrivate signingKey
  nonce := nonce
  timestamp := 0
  payload := []
  signature := ""
  blockId := some 0
  position := some nonce

def signedAttestation (chainId signingKey : String) (nonce : Nat) : TransactionRow :=
  { unsignedAttestation P chainId signingKey nonce with
    signature := P.signMessage signingKey
      ((rowToTx P (unsignedAttestation P chainId signingKey nonce)).signingText P) }

theorem attestation_valid (chainId signingKey : String) (nonce : Nat) :
    TransactionValid P true (rowToTx P (signedAttestation P chainId signingKey nonce)) :=
  ⟨P.strOfUuid_ne_empty _, P.publicKey_ne_empty _, Int.natCast_nonneg nonce,
    fun _ => ⟨P.signature_ne_empty _ _, P.verify_sign _ _⟩⟩

/-- A chain whose one block holds two attestations of its validator. -/
def attestedGenesis (chainId signingKey stateRoot : String) : SignedGenesis where
  chainId := chainId
  signingKey := signingKey
  stateRoot := stateRoot
  transactions := [signedAttestation P chainId signingKey 0, signedAttestation P chainId signingKey 1]
  validators := [P.publicKeyFromPrivate signingKey]

theorem attestedGenesis_wellFormed (chainId signingKey stateRoot : String) :
    (attestedGenesis P chainId signingKey stateRoot).WellFormed P where
  placed := by
    intro row member
    rcases mem_pair.mp member with rfl | rfl <;> rfl
  ordered := pairwise_pair.mpr (Nat.zero_le 1)
  valid := by
    intro row member
    rcases mem_pair.mp member with rfl | rfl
    · exact attestation_valid P chainId signingKey 0
    · exact attestation_valid P chainId signingKey 1
  member := mem_singleton.mpr rfl

/-- Attestations change no balance, and their nonces grow. -/
theorem attestedGenesis_replays (chainId signingKey stateRoot : String) :
    ∃ state, replayTransactions P
      ((attestedGenesis P chainId signingKey stateRoot).block P).transactions = .ok state := by
  simp [SignedGenesis.block, attestedGenesis, rowToBlock, rowToTx, signedAttestation,
    unsignedAttestation, replayTransactions, replayFrom, applyTransaction, -AList.insert_empty]

theorem attestedGenesis_leaves (chainId signingKey stateRoot : String) :
    let genesis := attestedGenesis P chainId signingKey stateRoot
    (blockToDomain P (genesis.database P) (genesis.row P)).leafHashes P = [
      (rowToTx P (signedAttestation P chainId signingKey 0)).computeHash P,
      (rowToTx P (signedAttestation P chainId signingKey 1)).computeHash P] := by
  intro genesis
  rw [SignedGenesis.blockToDomain_row (attestedGenesis_wellFormed P chainId signingKey stateRoot)]
  exact SignedGenesis.leafHashes_block

theorem attestedGenesis_mem (chainId signingKey stateRoot : String) :
    let genesis := attestedGenesis P chainId signingKey stateRoot
    (rowToTx P (signedAttestation P chainId signingKey 0)).computeHash P ∈
      (blockToDomain P (genesis.database P) (genesis.row P)).leafHashes P := by
  intro genesis
  rw [attestedGenesis_leaves]
  exact mem_cons_self

/-- The proof of the first attestation consists of the digest of the second one. -/
theorem attestedGenesis_steps (chainId signingKey stateRoot : String) {given : InclusionProof}
    (served : getInclusionProof P service
      ((attestedGenesis P chainId signingKey stateRoot).hash P)
      ((rowToTx P (signedAttestation P chainId signingKey 0)).computeHash P)
      ((attestedGenesis P chainId signingKey stateRoot).database P) = .ok given) :
    given.proof.steps.length = 1 := by
  obtain ⟨row, proof, found, _, _, built, rfl⟩ := (getInclusionProof_eq_ok P service).mp served
  cases SignedGenesis.getBlockByHash_hash.symm.trans found
  rw [attestedGenesis_leaves, idxOf_cons_self] at built
  cases built
  rfl

end Audit

def sampleService : LedgerService where
  settings := { secretKey := "secret" }
  chainId := "zepgpu-compute-v1"
  networkId := none

/-- The first of two attestations has a proof with one step, which the light client
accepts because the audit reports the chain valid. -/
theorem attestation_accepted :
    let genesis := attestedGenesis platform sampleService.chainId sampleKeys.1 zeroHash
    let db := genesis.database platform
    ∃ given, getInclusionProof platform sampleService
        (genesis.hash platform)
        ((rowToTx platform (signedAttestation platform sampleService.chainId
          sampleKeys.1 0)).computeHash platform) db = .ok given ∧
      given.proof.steps.length = 1 ∧
      verifyTxInclusion platform (BlockHeader.fromBlock
        (blockToDomain platform db (genesis.row platform))) given.proof =
          .ok true := by
  intro genesis db
  have wellFormed : genesis.WellFormed platform := attestedGenesis_wellFormed _ _ _ _
  have valid := @SignedGenesis.reported_valid _ _ _ sampleService genesis ⟨⟨0, 0⟩, ⟨0, 0⟩⟩ wellFormed
    rfl (attestedGenesis_replays _ _ _ _)
  obtain ⟨served, _, accepted⟩ := @inclusionProof_accepted_iff _ _ platform sampleService
    ⟨⟨0, 0⟩, ⟨0, 0⟩⟩ db _ _ SignedGenesis.stored SignedGenesis.getBlockByHash_hash rfl
  obtain ⟨given, isGiven⟩ := (served _).mp (attestedGenesis_mem _ _ _ _)
  exact ⟨given, isGiven, attestedGenesis_steps _ _ _ _ _ isGiven, accepted valid _ given isGiven⟩

end Ledger
end ZepGpu
