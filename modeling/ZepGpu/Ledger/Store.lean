import Mathlib.Data.Prod.Lex
import ZepGpu.Ledger.Authority
import ZepGpu.Ledger.Replay

namespace ZepGpu
namespace Ledger

open Foundation List

/-!
# The ledger tables and their repository

Every table is the list of its rows in the order in which they were created,
which is also the order of their `created_at` columns.  Queries are written
as the repository writes them: a filter, possibly a join, and an explicit
ordering.  An insertion checks the keys and unique constraints of its table
and the widths of its bounded columns.

Rows carry the columns that some modelled function reads back.  The network
column is written by every insertion and read by none; only its conversion,
which can fail, is kept.
-/

variable {F : Type} [Arithmetic F]

/-- A row of `ledger_validators`. -/
structure ValidatorRow where
  chainId : String
  publicKey : String
  isActive : Bool := true
  deriving DecidableEq

/-- A row of `ledger_blocks`. -/
structure BlockRow where
  id : Uuid
  chainId : String
  height : Int
  hash : String
  previousHash : String
  timestamp : Instant
  transactionsRoot : String
  stateRoot : String
  validatorPublicKey : String
  validatorSignature : String
  approvals : List ValidatorApproval
  finalized : Bool
  deriving DecidableEq

/-- A row of `ledger_transactions`.  It is pending while it has no block. -/
structure TransactionRow where
  id : Uuid
  chainId : String
  txHash : String
  txType : TxType
  sender : String
  nonce : Int
  timestamp : Instant
  payload : Dict
  signature : String
  blockId : Option Uuid := none
  position : Option Nat := none

/-- A row of `ledger_balances`. -/
structure BalanceRow (F : Type) [Arithmetic F] where
  chainId : String
  account : String
  creditSeconds : F
  debitSeconds : F

/-- The tables of the ledger. -/
structure Database (F : Type) [Arithmetic F] where
  validators : List ValidatorRow := []
  blocks : List BlockRow := []
  transactions : List TransactionRow := []
  balances : List (BalanceRow F) := []

section Repository

variable (P : Platform F)

/-- The `chain_id` columns hold at most sixty-four characters. -/
def chainColumn (chainId : String) : Except PyError Unit :=
  raiseIf (64 < chainId.length) (.dataError "chain_id")

/-- `_as_uuid(vpn_network_id)` -/
def networkColumn (networkId : Option String) : Except PyError (Option Uuid) :=
  match networkId with
  | none => .ok none
  | some text => (P.asUuid text).map some

def getActiveValidators (db : Database F) (chainId : String) : List String :=
  (db.validators.filter (fun row => row.chainId = chainId ∧ row.isActive = true)).map
    ValidatorRow.publicKey

/-- Insert a validator, or activate the one that is there. -/
def upsertValidator (chainId publicKey : String) (networkId : Option String) (db : Database F) :
    Except PyError (Database F) := do
  if db.validators.any (fun row => row.chainId = chainId ∧ row.publicKey = publicKey) then
    let _ ← networkColumn P networkId
    .ok { db with
      validators := db.validators.map (fun row =>
        if row.chainId = chainId ∧ row.publicKey = publicKey then { row with isActive := true }
        else row) }
  else
    let _ ← networkColumn P networkId
    chainColumn chainId
    raiseIf (128 < publicKey.length) (.dataError "public_key")
    .ok { db with validators := db.validators ++ [{ chainId := chainId, publicKey := publicKey }] }

def chainBlocks (db : Database F) (chainId : String) (finalizedOnly : Bool := false) : List BlockRow :=
  db.blocks.filter (fun row =>
    row.chainId = chainId ∧ (finalizedOnly = true -> row.finalized = true))

/-- `ORDER BY height DESC LIMIT 1` -/
def highest : List BlockRow -> Option BlockRow
  | [] => none
  | row :: rest =>
    match highest rest with
    | some other => if row.height < other.height then some other else some row
    | none => some row

/-- The highest block, by default among the finalized ones. -/
def getTip (db : Database F) (chainId : String) (finalizedOnly : Bool := true) : Option BlockRow :=
  highest (chainBlocks db chainId finalizedOnly)

def getUnfinalizedTip (db : Database F) (chainId : String) : Option BlockRow :=
  highest ((chainBlocks db chainId).filter (fun row => row.finalized = false))

def getBlockByHash (db : Database F) (hash : String) : Option BlockRow :=
  db.blocks.find? (fun row => row.hash = hash)

def listAllBlocksAscending (db : Database F) (chainId : String) : List BlockRow :=
  (chainBlocks db chainId).insertionSort (fun left right => left.height ≤ right.height)

def blockTransactions (db : Database F) (block : BlockRow) : List TransactionRow :=
  (db.transactions.filter (fun row => row.blockId = some block.id)).insertionSort
    (fun left right => left.position.getD 0 ≤ right.position.getD 0)

def updateBlockApprovals (blockId : Uuid) (approvals : List ValidatorApproval) (finalized : Bool)
    (db : Database F) : Database F :=
  { db with
    blocks := db.blocks.map (fun row =>
      if row.id = blockId then { row with approvals := approvals, finalized := finalized }
      else row) }

/-- Give the listed transactions their block and their positions in it. -/
def placeTransactions (blockId : Uuid) (ids : List Uuid) (rows : List TransactionRow) :
    List TransactionRow :=
  ids.zipIdx.foldl (fun rows entry =>
    rows.map (fun row =>
      if row.id = entry.1 then { row with blockId := some blockId, position := some entry.2 }
      else row)) rows

def createBlock (row : BlockRow) (networkId : Option String) (txIdsInOrder : List Uuid)
    (db : Database F) : Except PyError (Database F) := do
  let _ ← networkColumn P networkId
  chainColumn row.chainId
  raiseIf (∃ other, other ∈ db.blocks ∧ other.id = row.id) (.integrityError "ledger_blocks_pkey")
  raiseIf (∃ other, other ∈ db.blocks ∧ other.hash = row.hash)
    (.integrityError "ledger_blocks_hash_key")
  raiseIf (∃ other, other ∈ db.blocks ∧ other.chainId = row.chainId ∧ other.height = row.height)
    (.integrityError "uq_ledger_blocks_chain_height")
  .ok { db with
    blocks := db.blocks ++ [row]
    transactions := placeTransactions row.id txIdsInOrder db.transactions }

def listPendingTransactions (db : Database F) (chainId : String) : List TransactionRow :=
  db.transactions.filter (fun row => row.chainId = chainId ∧ row.blockId = none)

/-- `max(nonces)`, or minus one when there are none. -/
def maxNonce : List Int -> Int
  | [] => -1
  | [nonce] => nonce
  | nonce :: other :: rest =>
    let later := maxNonce (other :: rest)
    if nonce < later then later else nonce

def getMaxNonce (db : Database F) (chainId sender : String) : Int :=
  maxNonce ((db.transactions.filter (fun row =>
    row.chainId = chainId ∧ row.sender = sender)).map TransactionRow.nonce)

def addPendingTransaction (row : TransactionRow) (networkId : Option String) (db : Database F) :
    Except PyError (Database F) := do
  let _ ← networkColumn P networkId
  chainColumn row.chainId
  raiseIf (128 < row.sender.length) (.dataError "sender")
  raiseIf (2 ^ 63 ≤ row.nonce) (.dataError "nonce")
  raiseIf (∃ other, other ∈ db.transactions ∧ other.id = row.id)
    (.integrityError "ledger_transactions_pkey")
  raiseIf (∃ other, other ∈ db.transactions ∧ other.txHash = row.txHash)
    (.integrityError "ledger_transactions_tx_hash_key")
  raiseIf (∃ other, other ∈ db.transactions ∧ other.chainId = row.chainId ∧
      other.sender = row.sender ∧ other.nonce = row.nonce)
    (.integrityError "uq_ledger_tx_sender_nonce")
  .ok { db with transactions := db.transactions ++ [row] }

/-- The block a transaction is joined with, when it may be listed. -/
def sealedIn (db : Database F) (finalizedOnly : Bool) (row : TransactionRow) : Option BlockRow :=
  db.blocks.find? (fun block =>
    row.blockId = some block.id ∧ (finalizedOnly = true -> block.finalized = true))

/-- The transactions of sealed blocks in the order of height and position. -/
def listSealedTransactions (db : Database F) (chainId : String) (finalizedOnly : Bool := true) :
    List TransactionRow :=
  ((((db.transactions.filter (fun row => row.chainId = chainId)).filterMap (fun row =>
    (sealedIn db finalizedOnly row).map (fun block => (block, row)))).insertionSort
      (fun left right =>
        toLex (left.1.height, left.2.position.getD 0) ≤
          toLex (right.1.height, right.2.position.getD 0)))).map Prod.snd

/-- Replace the balances of a chain.  The accounts of a credit state are
distinct, so that the insertions meet no other row of the chain. -/
def replaceBalances (chainId : String) (balances : List (BalanceEntry F)) (networkId : Option String)
    (db : Database F) : Except PyError (Database F) := do
  let _ ← networkColumn P networkId
  raiseIf (balances ≠ [] ∧ 64 < chainId.length) (.dataError "chain_id")
  raiseIf (∃ entry, entry ∈ balances ∧ 128 < entry.account.length) (.dataError "account")
  .ok { db with
    balances := db.balances.filter (fun row => row.chainId ≠ chainId) ++
      balances.map (fun entry =>
        ⟨chainId, entry.account, entry.creditSeconds, entry.debitSeconds⟩) }

def listBalances (db : Database F) (chainId : String) : List (BalanceRow F) :=
  (db.balances.filter (fun row => row.chainId = chainId)).insertionSort
    (fun left right => left.account ≤ right.account)

def rowToTx (row : TransactionRow) : ComputeTransaction where
  id := P.strOfUuid row.id
  txType := row.txType
  sender := row.sender
  nonce := row.nonce
  timestamp := P.isoformat row.timestamp
  payload := row.payload
  signature := row.signature

/-- `_block_to_domain` on a row and the transactions loaded with it. -/
def rowToBlock (row : BlockRow) (transactions : List TransactionRow) : ComputeBlock where
  id := P.strOfUuid row.id
  height := row.height
  previousHash := row.previousHash
  timestamp := P.isoformat row.timestamp
  transactions := transactions.map (rowToTx P)
  transactionsRoot := row.transactionsRoot
  stateRoot := row.stateRoot
  validator := row.validatorPublicKey
  hash := row.hash
  validatorSignature := row.validatorSignature
  approvals := row.approvals
  finalized := row.finalized

def blockToDomain (db : Database F) (row : BlockRow) : ComputeBlock :=
  rowToBlock P row (blockTransactions db row)

/-! ## What the repository checks

Each writing operation is characterized once: it succeeds exactly under the
listed conditions and then has the listed effect. -/

/-- The chain and network ids fit their columns. -/
def Scoped (chainId : String) (networkId : Option String) : Prop :=
  (∃ network, networkColumn P networkId = .ok network) ∧ chainId.length ≤ 64

theorem chainColumn_eq_ok {chainId : String} {done : Unit} :
    chainColumn chainId = .ok done ↔ chainId.length ≤ 64 := by
  rw [chainColumn, raiseIf_eq_ok, not_lt]

theorem mem_getActiveValidators {db : Database F} {chainId key : String} :
    key ∈ getActiveValidators db chainId ↔
      ∃ row, row ∈ db.validators ∧ row.chainId = chainId ∧ row.isActive = true ∧
        row.publicKey = key := by
  rw [getActiveValidators, mem_map]
  constructor
  · rintro ⟨row, member, named⟩
    rw [mem_filter, decide_eq_true_eq] at member
    exact ⟨row, member.1, member.2.1, member.2.2, named⟩
  · rintro ⟨row, member, chain, active, named⟩
    exact ⟨row, mem_filter.mpr ⟨member, decide_eq_true ⟨chain, active⟩⟩, named⟩

/-- Only validators are added or activated between two states. -/
structure SameLedger (db later : Database F) : Prop where
  blocks : later.blocks = db.blocks
  transactions : later.transactions = db.transactions
  balances : later.balances = db.balances
  active : ∀ chainId, getActiveValidators db chainId ⊆ getActiveValidators later chainId

theorem SameLedger.refl (db : Database F) : SameLedger db db :=
  ⟨rfl, rfl, rfl, fun _ => List.Subset.refl _⟩

theorem SameLedger.trans {first second third : Database F} (front : SameLedger first second)
    (back : SameLedger second third) : SameLedger first third where
  blocks := back.blocks.trans front.blocks
  transactions := back.transactions.trans front.transactions
  balances := back.balances.trans front.balances
  active := fun chainId => List.Subset.trans (front.active chainId) (back.active chainId)

variable {networkId : Option String} {db later : Database F}

theorem upsertValidator_effect {chainId key : String}
    (run : upsertValidator P chainId key networkId db = .ok later) :
    SameLedger db later ∧ key ∈ getActiveValidators later chainId := by
  rw [upsertValidator] at run
  split_ifs at run with known
  · simp only [bind_eq_ok, Except.ok.injEq] at run
    obtain ⟨_, _, rfl⟩ := run
    refine ⟨⟨rfl, rfl, rfl, fun chain other member => ?_⟩, ?_⟩
    · obtain ⟨row, rowMember, rowChain, active, named⟩ := mem_getActiveValidators.mp member
      refine mem_getActiveValidators.mpr ⟨_, mem_map_of_mem rowMember, ?_⟩
      split_ifs
      · exact ⟨rowChain, rfl, named⟩
      · exact ⟨rowChain, active, named⟩
    · obtain ⟨row, rowMember, here⟩ := any_eq_true.mp known
      have matching := of_decide_eq_true here
      refine mem_getActiveValidators.mpr ⟨_, mem_map_of_mem rowMember, ?_⟩
      rw [if_pos matching]
      exact ⟨matching.1, rfl, matching.2⟩
  · simp only [bind_eq_ok, Except.ok.injEq] at run
    obtain ⟨_, _, _, _, _, _, rfl⟩ := run
    refine ⟨⟨rfl, rfl, rfl, fun chain other member => ?_⟩, ?_⟩
    · obtain ⟨row, rowMember, facts⟩ := mem_getActiveValidators.mp member
      exact mem_getActiveValidators.mpr ⟨row, mem_append_left _ rowMember, facts⟩
    · exact mem_getActiveValidators.mpr ⟨_, mem_append_right _ (mem_singleton.mpr rfl),
        rfl, rfl, rfl⟩

theorem upsertValidator_succeeds {chainId key : String} (db : Database F)
    (inScope : Scoped P chainId networkId) (fits : key.length ≤ 128) :
    ∃ later, upsertValidator P chainId key networkId db = .ok later := by
  obtain ⟨⟨network, converts⟩, chainFits⟩ := inScope
  have chainOk : chainColumn chainId = .ok () := chainColumn_eq_ok.mpr chainFits
  have keyOk : raiseIf (128 < key.length) (PyError.dataError "public_key") = .ok () :=
    raiseIf_eq_ok.mpr (by omega)
  rw [upsertValidator]
  split_ifs
  · rw [converts]
    exact ⟨_, rfl⟩
  · rw [converts, chainOk, keyOk]
    exact ⟨_, rfl⟩

theorem createBlock_eq_ok_iff {row : BlockRow} {ids : List Uuid} :
    createBlock P row networkId ids db = .ok later ↔
      Scoped P row.chainId networkId ∧ (∀ other, other ∈ db.blocks -> other.id ≠ row.id) ∧
        (∀ other, other ∈ db.blocks -> other.hash ≠ row.hash) ∧
        (∀ other, other ∈ db.blocks -> other.chainId = row.chainId ->
          other.height ≠ row.height) ∧
        later = { db with
          blocks := db.blocks ++ [row]
          transactions := placeTransactions row.id ids db.transactions } := by
  simp only [createBlock, bind_eq_ok, chainColumn_eq_ok, raiseIf_eq_ok, not_exists, not_and, exists_const,
    Except.ok.injEq, Scoped]
  constructor
  · rintro ⟨network, converts, fits, ids, hashes, heights, same⟩
    exact ⟨⟨⟨network, converts⟩, fits⟩, ids, hashes, heights, same.symm⟩
  · rintro ⟨⟨⟨network, converts⟩, fits⟩, ids, hashes, heights, same⟩
    exact ⟨network, converts, fits, ids, hashes, heights, same.symm⟩

theorem addPendingTransaction_eq_ok_iff {row : TransactionRow} :
    addPendingTransaction P row networkId db = .ok later ↔
      Scoped P row.chainId networkId ∧ row.sender.length ≤ 128 ∧ row.nonce < 2 ^ 63 ∧
        (∀ other, other ∈ db.transactions -> other.id ≠ row.id) ∧
        (∀ other, other ∈ db.transactions -> other.txHash ≠ row.txHash) ∧
        (∀ other, other ∈ db.transactions -> other.chainId = row.chainId ->
          other.sender = row.sender -> other.nonce ≠ row.nonce) ∧
        later = { db with transactions := db.transactions ++ [row] } := by
  simp only [addPendingTransaction, bind_eq_ok, chainColumn_eq_ok, raiseIf_eq_ok, not_exists,
    not_and, exists_const, Except.ok.injEq, Scoped, not_lt, not_le]
  constructor
  · rintro ⟨network, converts, fits, sender, nonce, ids, hashes, nonces, same⟩
    exact ⟨⟨⟨network, converts⟩, fits⟩, sender, nonce, ids, hashes, nonces, same.symm⟩
  · rintro ⟨⟨⟨network, converts⟩, fits⟩, sender, nonce, ids, hashes, nonces, same⟩
    exact ⟨network, converts, fits, sender, nonce, ids, hashes, nonces, same.symm⟩

def balanceRows (chainId : String) (balances : List (BalanceEntry F)) : List (BalanceRow F) :=
  balances.map (fun entry => ⟨chainId, entry.account, entry.creditSeconds, entry.debitSeconds⟩)

theorem replaceBalances_eq_ok_iff {chainId : String} {balances : List (BalanceEntry F)} :
    replaceBalances P chainId balances networkId db = .ok later ↔
      (∃ network, networkColumn P networkId = .ok network) ∧
        (balances ≠ [] -> chainId.length ≤ 64) ∧
        (∀ entry, entry ∈ balances -> entry.account.length ≤ 128) ∧
        later = { db with
          balances := db.balances.filter (fun row => row.chainId ≠ chainId) ++
            balanceRows chainId balances } := by
  simp only [replaceBalances, bind_eq_ok, raiseIf_eq_ok, not_exists, not_and, exists_const,
    Except.ok.injEq, not_lt, balanceRows]
  constructor
  · rintro ⟨network, converts, fits, accounts, same⟩
    exact ⟨⟨network, converts⟩, fits, accounts, same.symm⟩
  · rintro ⟨⟨network, converts⟩, fits, accounts, same⟩
    exact ⟨network, converts, fits, accounts, same.symm⟩

end Repository

end Ledger
end ZepGpu
