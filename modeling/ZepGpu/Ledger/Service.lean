import ZepGpu.Ledger.Store

namespace ZepGpu
namespace Ledger

open Foundation

/-!
# The ledger service

Each operation of the service is a body over the stored tables, and a request
that runs it.  `ensure_initialized` commits when it creates the genesis block,
so a request is two transactions: the initialization, and the rest.  A failure
of the rest rolls back to the initialized chain.

Identifiers and clock readings that the source draws while it runs are given
to an operation as stamps.

The configured private keys are taken to be well formed.  With a malformed one
no chain is ever initialized.
-/

variable {F : Type} [Arithmetic F]

structure LedgerSettings where
  chainId : String := "zepgpu-compute-v1"
  autoSeal : Bool := true
  validatorPrivateKey : String := ""
  quorumThreshold : Int := 1
  extraValidatorPrivateKeys : String := ""
  secretKey : String

/-- Python's white space. -/
def isSpace (c : Char) : Bool :=
  (9 ≤ c.toNat && c.toNat ≤ 13) || (28 ≤ c.toNat && c.toNat ≤ 32) || c.toNat = 133 ||
    c.toNat = 160 || c.toNat = 5760 || (8192 ≤ c.toNat && c.toNat ≤ 8202) || c.toNat = 8232 ||
    c.toNat = 8233 || c.toNat = 8239 || c.toNat = 8287 || c.toNat = 12288

/-- `text.strip()` -/
def strip (text : String) : String :=
  String.ofList (((text.toList.dropWhile isSpace).reverse.dropWhile isSpace).reverse)

def chainIdForNetwork (settings : LedgerSettings) (networkId : Option String) : String :=
  match networkId with
  | none => settings.chainId
  | some network =>
    if network = "" then settings.chainId else settings.chainId ++ ":vpn:" ++ network

def afterMarker (marker : List Char) : List Char -> Option (List Char)
  | [] => none
  | c :: rest =>
    if marker.isPrefixOf (c :: rest) then some ((c :: rest).drop marker.length)
    else afterMarker marker rest

/-- Extract the network from a scoped chain id, if present. -/
def parseNetworkId (chainId : String) : Option String :=
  match afterMarker ":vpn:".toList chainId.toList with
  | none => none
  | some network => if network = [] then none else some (String.ofList network)

/-- A service is bound to one chain. -/
structure LedgerService where
  settings : LedgerSettings
  chainId : String
  networkId : Option String

namespace LedgerService

/-- `LedgerService(db, chain_id, network_id=network_id)` -/
def new (settings : LedgerSettings) (chainId : Option String) (networkId : Option String) :
    LedgerService :=
  let chain := (chainId.filter (fun text => text ≠ "")).getD (chainIdForNetwork settings networkId)
  { settings := settings
    chainId := chain
    networkId := networkId <|> parseNetworkId chain }

def ofNetwork (settings : LedgerSettings) (networkId : Option String) : LedgerService :=
  new settings none networkId

variable (P : Platform F) (service : LedgerService)

def quorumThreshold : Nat :=
  (max 1 service.settings.quorumThreshold).toNat

def validatorKeys : String × String :=
  if service.settings.validatorPrivateKey ≠ "" then
    let priv := strip service.settings.validatorPrivateKey
    (priv, P.publicKeyFromPrivate priv)
  else
    P.deriveKeypairFromSeed (service.settings.secretKey ++ ":" ++ service.chainId ++
      ":zepgpu-ledger-validator")

def extraValidatorKeys : List (String × String) :=
  (((strip service.settings.extraValidatorPrivateKeys).toList.splitOn ',').map
    (fun part => strip (String.ofList part))).filterMap (fun priv =>
      if priv = "" then none else some (priv, P.publicKeyFromPrivate priv))

end LedgerService

/-- An identifier and a clock reading. -/
structure Stamp where
  id : Uuid
  time : Instant

section Service

variable (P : Platform F)

def newSignedTransaction (privateKey : String) (txType : TxType) (nonce : Int) (payload : Dict)
    (sender : String) (stamp : Stamp) : ComputeTransaction :=
  let tx : ComputeTransaction := {
    txType := txType
    sender := sender
    nonce := nonce
    payload := payload
    timestamp := P.isoformat stamp.time
    id := P.strOfUuid stamp.id }
  { tx with signature := P.signMessage privateKey (tx.signingText P) }

/-- The proposer's part of a new block: roots, hash, signature and its own
approval. -/
def proposeBlock (keys : String × String) (height : Int) (previousHash : String)
    (transactions : List ComputeTransaction) (state : CreditState F) (stamp : Stamp) : ComputeBlock :=
  let block : ComputeBlock := {
    height := height
    previousHash := previousHash
    transactions := transactions
    validator := keys.2
    timestamp := P.isoformat stamp.time
    id := P.strOfUuid stamp.id }
  let block := { block with transactionsRoot := block.computeTransactionsRoot P }
  let block := { block with stateRoot := state.stateRoot P }
  let block := { block with hash := block.computeHash P }
  let block := { block with validatorSignature := P.signMessage keys.1 block.hash }
  block.ensureProposerApproval

variable (service : LedgerService)

/-- The row of a transaction on the chain of the service. -/
def transactionRow (tx : ComputeTransaction) : Except PyError TransactionRow := do
  let timestamp ← P.parseTs tx.timestamp
  let id ← P.asUuid tx.id
  .ok {
    id := id
    chainId := service.chainId
    txHash := tx.computeHash P
    txType := tx.txType
    sender := tx.sender
    nonce := tx.nonce
    timestamp := timestamp
    payload := tx.payload
    signature := tx.signature }

/-- Store the transactions of a block that are not stored yet. -/
def addMissingTransactions : List ComputeTransaction -> Database F -> Except PyError (Database F)
  | [], db => .ok db
  | tx :: rest, db => do
      let id ← P.asUuid tx.id
      if db.transactions.any (fun row => row.id = id) then addMissingTransactions rest db
      else
        let row ← transactionRow P service tx
        let db ← addPendingTransaction P row service.networkId db
        addMissingTransactions rest db

/-- `[_as_uuid(tx.id) for tx in transactions]` -/
def transactionIds : List ComputeTransaction -> Except PyError (List Uuid)
  | [] => .ok []
  | tx :: rest => do
      let id ← P.asUuid tx.id
      let ids ← transactionIds rest
      .ok (id :: ids)

def blockRow (block : ComputeBlock) (id : Uuid) (timestamp : Instant) : BlockRow where
  id := id
  chainId := service.chainId
  height := block.height
  hash := block.hash
  previousHash := block.previousHash
  timestamp := timestamp
  transactionsRoot := block.transactionsRoot
  stateRoot := block.stateRoot
  validatorPublicKey := block.validator
  validatorSignature := block.validatorSignature
  approvals := block.approvals
  finalized := block.finalized

def persistBlock (block : ComputeBlock) (state : Option (CreditState F)) (db : Database F) :
    Except PyError (Database F) := do
  let db ← addMissingTransactions P service block.transactions db
  let timestamp ← P.parseTs block.timestamp
  let id ← P.asUuid block.id
  let ids ← transactionIds P block.transactions
  let db ← createBlock P (blockRow service block id timestamp) service.networkId ids db
  match state with
  | some state =>
    if block.finalized then
      replaceBalances P service.chainId state.toList service.networkId db
    else .ok db
  | none => .ok db

def upsertValidators : List String -> Database F -> Except PyError (Database F)
  | [], db => .ok db
  | key :: rest, db => do
      let db ← upsertValidator P service.chainId key service.networkId db
      upsertValidators rest db

def genesisTransaction (stamp : Stamp) : ComputeTransaction :=
  newSignedTransaction P (service.validatorKeys P).1 .validatorRegistered 0
    [("label", .str "relay"), ("role", .str "poa_validator"),
      ("network_id", service.networkId.elim .null .str)]
    (service.validatorKeys P).2 stamp

def extraApprovals (hash : String) : List ValidatorApproval :=
  (service.extraValidatorKeys P).map (fun keys => ⟨keys.2, P.signMessage keys.1 hash⟩)

/-- The ids and times of the genesis transaction and block. -/
structure GenesisStamps where
  transaction : Stamp
  block : Stamp

/-- The checks that a new block must pass before it is stored. -/
def newBlockCheck (block : ComputeBlock) (validators : List String) (previousHash : String)
    (height : Int) : BlockCheck where
  authorizedValidators := validators
  expectedPreviousHash := some previousHash
  expectedHeight := some height
  quorumThreshold := if block.finalized then service.quorumThreshold else 1
  requireQuorum := block.finalized

/-- Create the genesis block and register the validators if the chain is
empty. -/
def ensureInitialized (stamps : GenesisStamps) (db : Database F) :
    Except PyError (ComputeBlock × Database F) :=
  match getTip db service.chainId false with
  | some tip => .ok (blockToDomain P db tip, db)
  | none => do
      let keys := service.validatorKeys P
      let db ← upsertValidator P service.chainId keys.2 service.networkId db
      let db ← upsertValidators P service ((service.extraValidatorKeys P).map Prod.snd) db
      let genesisTx := genesisTransaction P service stamps.transaction
      let state := (applyTransaction P {} genesisTx).state
      let block := proposeBlock P keys 0 zeroHash [genesisTx] state stamps.block
      let block := { block with approvals := block.approvals ++ extraApprovals P service block.hash }
      let block := { block with
        finalized := decide (service.quorumThreshold ≤ block.approvals.length) }
      let validators := getActiveValidators db service.chainId
      let block ← validateBlock P block (newBlockCheck service block validators zeroHash 0)
      let db ← persistBlock P service block (if block.finalized then some state else none) db
      .ok (block, db)

/-- Auto-cosign with the configured extra validators, registering those that
are not active. -/
def cosign (hash : String) : List (String × String) -> List String -> List ValidatorApproval ->
    Database F -> Except PyError (List String × List ValidatorApproval × Database F)
  | [], validators, approvals, db => .ok (validators, approvals, db)
  | keys :: rest, validators, approvals, db =>
    if approvals.any (fun approval => approval.validator = keys.2) then
      cosign hash rest validators approvals db
    else if keys.2 ∈ validators then
      cosign hash rest validators (approvals ++ [⟨keys.2, P.signMessage keys.1 hash⟩]) db
    else do
      let db ← upsertValidator P service.chainId keys.2 service.networkId db
      cosign hash rest (validators ++ [keys.2])
        (approvals ++ [⟨keys.2, P.signMessage keys.1 hash⟩]) db

/-- The active validators with the proposer among them, registering it when it
is not. -/
def ensureProposer (db : Database F) : Except PyError (List String × Database F) :=
  let validators := getActiveValidators db service.chainId
  let proposer := (service.validatorKeys P).2
  if proposer ∈ validators then .ok (validators, db)
  else
    (upsertValidator P service.chainId proposer service.networkId db).map
      (fun db => (validators ++ [proposer], db))

/-- Propose, cosign, validate and store a block of pending transactions on top
of a finalized tip. -/
def sealOnTip (stamp : Stamp) (tip : BlockRow) (pending : List TransactionRow) (db : Database F) :
    Except PyError (ComputeBlock × Database F) := do
  let (validators, db) ← ensureProposer P service db
  let txs := pending.map (rowToTx P)
  let sealedRows := listSealedTransactions db service.chainId
  let state ← replayTransactions P (sealedRows.map (rowToTx P))
  let state ← replayFrom P state txs
  let block := proposeBlock P (service.validatorKeys P) (tip.height + 1) tip.hash txs state stamp
  let (validators, approvals, db) ←
    cosign P service block.hash (service.extraValidatorKeys P) validators block.approvals db
  let block := { block with approvals := approvals }
  let block := { block with
    finalized := decide (service.quorumThreshold ≤ block.approvals.length) }
  let block ← validateBlock P block
    (newBlockCheck service block validators tip.hash (tip.height + 1))
  let db ← persistBlock P service block (if block.finalized then some state else none) db
  .ok (block, db)

/-- Propose a block of the pending transactions and finalize it when the
quorum is met.  This is the part after the initialization. -/
def sealPendingBody (stamp : Stamp) (db : Database F) :
    Except PyError (Option ComputeBlock × Database F) := do
  raiseIf ((getUnfinalizedTip db service.chainId).isSome = true)
    (.ledgerValidationError "Cannot seal while an unfinalized block awaits quorum approvals")
  match listPendingTransactions db service.chainId, getTip db service.chainId with
  | [], _ => .ok (none, db)
  | _ :: _, none => .error (.ledgerValidationError "Chain has no finalized tip")
  | row :: rest, some tip =>
    (sealOnTip P service stamp tip (row :: rest) db).map (fun result => (some result.1, result.2))

/-- Accept a transaction and, when asked, seal at once.  The seal runs in the
transaction of the submission; the initialization inside it finds the chain
initialized. -/
def submitBody (tx : ComputeTransaction) (shouldSeal requireSignature : Bool) (stamp : Stamp)
    (db : Database F) : Except PyError (Option ComputeBlock × Database F) := do
  validateTransaction P tx requireSignature
  raiseIf (tx.nonce ≤ getMaxNonce db service.chainId tx.sender)
    (.ledgerValidationError ("Nonce " ++ toString tx.nonce ++ " is not greater than last nonce " ++
      toString (getMaxNonce db service.chainId tx.sender)))
  let row ← transactionRow P service tx
  let db ← addPendingTransaction P row service.networkId db
  if shouldSeal then sealPendingBody P service stamp db else .ok (none, db)

/-! ## Approval

The reads and the writes of an approval are separate definitions, because the
database runs them as separate statements. -/

def approveLoad (hash : String) (db : Database F) : Except PyError ComputeBlock :=
  match getBlockByHash db hash with
  | none => .error (.ledgerValidationError "Block not found")
  | some row => do
      raiseIf (row.chainId ≠ service.chainId) (.ledgerValidationError "Block not found")
      raiseIf (row.finalized = true) (.ledgerValidationError "Block already finalized")
      .ok (blockToDomain P db row)

/-- Add the approval and decide whether it finalizes the block. -/
def approveDecide (key signature : String) (validators : List String) (block : ComputeBlock) :
    Except PyError ComputeBlock := do
  let block ← addApproval P block key signature validators
  let block := { block with
    finalized := decide (service.quorumThreshold ≤ block.approvals.length) }
  if block.finalized then
    validateBlock P block
      { authorizedValidators := validators, quorumThreshold := service.quorumThreshold }
  else .ok block

def approveReplay (block : ComputeBlock) (db : Database F) : Except PyError (Option (CreditState F)) :=
  if block.finalized then
    (replayTransactions P ((listSealedTransactions db service.chainId).map (rowToTx P) ++
      block.transactions)).map some
  else .ok none

def approveWrite (block : ComputeBlock) (state : Option (CreditState F)) (db : Database F) :
    Except PyError (Database F) := do
  let id ← P.asUuid block.id
  let db := updateBlockApprovals id block.approvals block.finalized db
  match state with
  | some state => replaceBalances P service.chainId state.toList service.networkId db
  | none => .ok db

/-- Add an approval; finalize and apply balances when the quorum is reached. -/
def approveBody (hash key signature : String) (db : Database F) :
    Except PyError (ComputeBlock × Database F) := do
  let block ← approveLoad P service hash db
  let block ← approveDecide P service key signature (getActiveValidators db service.chainId) block
  let state ← approveReplay P service block db
  let db ← approveWrite P service block state db
  .ok (block, db)

def rebuildBody (db : Database F) : Except PyError (List (BalanceEntry F) × Database F) := do
  let state ← replayTransactions P ((listSealedTransactions db service.chainId).map (rowToTx P))
  let db ← replaceBalances P service.chainId state.toList service.networkId db
  .ok (state.toList, db)

/-- The body of `POST /ledger/validators`. -/
def registerBody (key : String) (db : Database F) : Except PyError (Unit × Database F) :=
  (upsertValidator P service.chainId key service.networkId db).map (fun db => ((), db))

def withInitialized {α : Type} (stamps : GenesisStamps)
    (body : Database F -> Except PyError (α × Database F)) (db : Database F) :
    Outcome (Database F) PyError α :=
  (transaction (ensureInitialized P service stamps) db).andThen (fun _ => transaction body)

theorem withInitialized_of_begun {α : Type} {stamps : GenesisStamps}
    {body : Database F -> Except PyError (α × Database F)} {db : Database F}
    (begun : getTip db service.chainId false ≠ none) :
    withInitialized P service stamps body db = transaction body db := by
  obtain ⟨tip, found⟩ := Option.ne_none_iff_exists'.mp begun
  have initialized : ensureInitialized P service stamps db = .ok (blockToDomain P db tip, db) := by
    rw [ensureInitialized, found]
  rw [withInitialized, transaction_of_ok initialized]
  rfl

def submitTransaction (stamps : GenesisStamps) (stamp : Stamp) (tx : ComputeTransaction)
    (autoSeal : Option Bool := none) (requireSignature : Bool := true) :
    Database F -> Outcome (Database F) PyError (Option ComputeBlock) :=
  withInitialized P service stamps
    (submitBody P service tx (autoSeal.getD service.settings.autoSeal) requireSignature stamp)

def sealPending (stamps : GenesisStamps) (stamp : Stamp) :
    Database F -> Outcome (Database F) PyError (Option ComputeBlock) :=
  withInitialized P service stamps (sealPendingBody P service stamp)

def approveBlock (stamps : GenesisStamps) (hash key signature : String) :
    Database F -> Outcome (Database F) PyError ComputeBlock :=
  withInitialized P service stamps (approveBody P service hash key signature)

def rebuildBalances : Database F -> Outcome (Database F) PyError (List (BalanceEntry F)) :=
  transaction (rebuildBody P service)

def registerValidator (stamps : GenesisStamps) (key : String) :
    Database F -> Outcome (Database F) PyError Unit :=
  withInitialized P service stamps (registerBody P service key)

/-- The proof returned by the service, with the block it is about. -/
structure InclusionProof where
  blockHash : String
  blockHeight : Int
  transactionsRoot : String
  proof : MerkleProof
  valid : Bool

def getInclusionProof (blockHash txHash : String) (db : Database F) :
    Except PyError InclusionProof :=
  match getBlockByHash db blockHash with
  | none => .error (.ledgerValidationError "Block not found")
  | some row => do
      raiseIf (row.chainId ≠ service.chainId) (.ledgerValidationError "Block not found")
      let block := blockToDomain P db row
      let leaves := block.leafHashes P
      raiseIf (txHash ∉ leaves) (.ledgerValidationError "Transaction not in block")
      let proof ← merkleProof P leaves (leaves.idxOf txHash)
      let valid ← verifyMerkleProof P proof
      .ok {
        blockHash := block.hash
        blockHeight := block.height
        transactionsRoot := block.transactionsRoot
        proof := proof
        valid := valid }

end Service

end Ledger
end ZepGpu
