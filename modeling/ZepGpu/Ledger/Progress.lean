import ZepGpu.Ledger.Quorum

namespace ZepGpu
namespace Ledger

open Foundation ChainLog List
open Reference (platform)

/-!
# Sealing what has been accepted

A submission checks the structure, the signature and the nonce of a
transaction.  A seal replays all that is pending and validates it again, as it
was stored.  The second is more than the first: a burn of more than the
account has, a transaction accepted without a signature, or one whose time was
written in another zone is accepted and then refused by every seal.

The condition under which this does not happen is put on the transactions that
stay pending: in its stored form the transaction is valid, and it can be
applied after everything that the chain has accepted before.  A submission
that seals at once needs no condition, because it commits only together with
the block.
-/

variable {F : Type} [Arithmetic F]

section Progress

variable (P : Platform F)

def CreditState.Storable (state : CreditState F) : Prop :=
  ∀ entry, entry ∈ state.toList -> entry.account.length ≤ 128

/-- A stored transaction can be sealed after all that its chain has accepted
so far. -/
structure Sealable (chainId : String) (db : Database F) (row : TransactionRow) : Prop where
  valid : TransactionValid P true (rowToTx P row)
  replayed : ∃ state, replayTransactions P
    ((db.transactions.filter (fun other => other.chainId = chainId) ++ [row]).map (rowToTx P)) =
      .ok state ∧ state.Storable

/-- The pending transactions of a log can be sealed.  While a block awaits
approvals and nothing is pending, the account names may still be too long: the
approval that finalizes the block is then refused. -/
structure ChainLog.Flows (log : ChainLog F) : Prop where
  valid : ∀ row, row ∈ log.pending -> TransactionValid P true (rowToTx P row)
  replayed : ∃ state,
    replayTransactions P ((ChainLog.rowsOf log.entries ++ log.pending).map (rowToTx P)) =
        .ok state ∧
      (state.Storable ∨
        log.pending = [] ∧ ∃ entry, entry ∈ log.entries ∧ entry.block.finalized = false)

/-- The tables of one chain, all of whose pending transactions can be sealed. -/
structure Unpoisoned (service : LedgerService) (db : Database F) (log : ChainLog F) : Prop where
  keyed : Keyed db
  holds : ChainHolds P db service.chainId log
  only : OnlyChain service.chainId db
  inScope : log.entries ≠ [] -> Scoped P service.chainId service.networkId
  flows : log.Flows P

section Steps

variable {P} {service : LedgerService} {request : Request} {db later : Database F} {log : ChainLog F}

theorem ChainLog.Flows.empty : ({} : ChainLog F).Flows P where
  valid := fun _ member => absurd member not_mem_nil
  replayed := ⟨{}, rfl, Or.inl (fun _ member => absurd member not_mem_nil)⟩

theorem ChainLog.Flows.extend {block : BlockRow} {balances : Option (List (BalanceEntry F))}
    {state : CreditState F}
    (replayed : replayTransactions P ((ChainLog.rowsOf log.entries ++ log.pending).map
      (rowToTx P)) = .ok state)
    (storable : block.finalized = true -> state.Storable) :
    (log.extend block balances).Flows P := by
  refine ⟨fun _ member => absurd member not_mem_nil, state, ?_, ?_⟩
  · change replayTransactions P ((ChainLog.rowsOf (log.entries ++
      [(⟨block, placeRows block.id log.pending⟩ : LogEntry)]) ++ []).map (rowToTx P)) = _
    rw [append_nil, ← replayEntries, replayEntries_append_singleton, placeRows_map_rowToTx,
      ← map_append]
    exact replayed
  · cases final : block.finalized with
    | true => exact Or.inl (storable final)
    | false =>
      exact Or.inr ⟨rfl, _, mem_append_right _ (mem_singleton.mpr rfl), final⟩

theorem Seals.replayed_log {stamp : Stamp} {head : Head F} {validators : List String}
    {base : Database F} (seals : Seals P service stamp db head validators base) (keyed : Keyed db)
    (represents : Represents db service.chainId log) :
    replayTransactions P ((ChainLog.rowsOf log.entries ++ log.pending).map (rowToTx P)) =
      .ok head.state := by
  have replayed := seals.replayed
  rw [represents.listSealedTransactions_eq keyed,
    finalized_eq_self (represents.settled_of_clear seals.clear), seals.pending,
    represents.listPendingTransactions_eq, ← map_append] at replayed
  exact replayed

theorem Head.Accepted.storable {head : Head F} {validators : List String} {stored : Database F}
    (accepted : head.Accepted P service validators stored)
    (final : (head.row P service).finalized = true) : head.state.Storable := by
  apply accepted.fits.accounts
  rw [blockBalances]
  exact if_pos final

theorem Seals.unpoisoned {stamp : Stamp} {head : Head F} {validators : List String}
    {base : Database F} (seals : Seals P service stamp db head validators base) (keyed : Keyed db)
    (holds : ChainHolds P db service.chainId log) (only : OnlyChain service.chainId db) :
    ∃ next, Unpoisoned P service (head.store P service base) next := by
  have moves := (seals.moves keyed holds).2
  exact ⟨_, {
    keyed := moves.keyed
    holds := moves.holds
    only := onlyChain_store (only.of_sameLedger seals.same)
    inScope := fun _ => seals.accepted.fits.inScope
    flows := ChainLog.Flows.extend (seals.replayed_log keyed holds.represents)
      seals.accepted.storable }⟩

theorem Begins.unpoisoned {stamps : GenesisStamps} (begins : Begins P service stamps db later)
    (unpoisoned : Unpoisoned P service db log) :
    ∃ next, Unpoisoned P service later next := by
  have only := begins.onlyChain unpoisoned.only
  obtain ⟨validators, base, stored, initializes, rfl⟩ := begins
  have noRows := unpoisoned.only.empty_of_noTip unpoisoned.holds initializes.empty
  have moves := initializes.moves unpoisoned.keyed unpoisoned.holds (by
    rw [noRows]
    exact fun _ member => absurd member not_mem_nil)
  have noEntries := unpoisoned.holds.represents.empty_of_noTip initializes.empty
  have replayed : replayTransactions P ((ChainLog.rowsOf log.entries ++
      (log.pending ++ [genesisRow P service stamps.transaction])).map (rowToTx P)) =
        .ok (genesisState P service stamps.transaction) := by
    rw [noEntries, unpoisoned.holds.started noEntries]
    rfl
  exact ⟨_, {
    keyed := moves.keyed
    holds := moves.holds
    only := only
    inScope := fun _ => initializes.accepted.fits.inScope
    flows := ChainLog.Flows.extend replayed (fun _ _ member => absurd member not_mem_nil) }⟩

theorem Approves.flows {hash key signature : String} {row : BlockRow}
    {balances : Option (List (BalanceEntry F))}
    (approves : Approves P service hash key signature db row balances) (keyed : Keyed db)
    (holds : ChainHolds P db service.chainId log) (flows : log.Flows P) :
    let block := approvedBlock service (blockToDomain P db row) key signature
    (log.approve service.chainId row.id block.approvals block.finalized balances).Flows P := by
  intro block
  have represents := holds.represents
  obtain ⟨entry, member, rfl⟩ := represents.entry_of_block (mem_of_getBlockByHash approves.found).1
    approves.onChain
  obtain ⟨state, replayed, storable⟩ := flows.replayed
  refine ⟨flows.valid, state, ?_, ?_⟩
  · rw [ChainLog.approve, rowsOf_map_approveEntry]
    exact replayed
  · rcases storable with storable | ⟨nothing, _⟩
    · exact Or.inl storable
    · cases final : block.finalized with
      | false =>
        refine Or.inr ⟨nothing, _, mem_map_of_mem member, ?_⟩
        rw [approveEntry, if_pos rfl]
      | true =>
        -- the approval has stored the balances of this very replay
        refine Or.inl ?_
        have reached : service.quorumThreshold ≤ entry.block.approvals.length + 1 := by
          rw [approvedBlock_finalized] at final
          exact of_decide_eq_true final
        obtain ⟨settled, settledReplay, stored⟩ := approves.replayed reached
        obtain ⟨front, split, below⟩ := holds.sound.last_of_awaiting member approves.awaiting
        have finalFront : log.finalized = front := by
          rw [finalized, split, filter_append, filter_eq_self.mpr below,
            filter_cons, approves.awaiting]
          exact append_nil front
        rw [represents.listSealedTransactions_eq keyed, finalFront,
          represents.blockTransactions_eq keyed member, ← replayEntries_append_singleton, ← split,
          replayEntries] at settledReplay
        rw [nothing, append_nil] at replayed
        have same : state = settled := Except.ok.inj (replayed.symm.trans settledReplay)
        rw [same]
        exact approves.accounts _ stored

theorem ChainLog.Flows.submit {row : TransactionRow} (flows : log.Flows P)
    (represents : Represents db service.chainId log)
    (sealable : Sealable P service.chainId db row) : (log.submit row).Flows P := by
  refine ⟨?_, ?_⟩
  · intro other member
    rcases mem_append.mp member with old | new
    · exact flows.valid other old
    · rw [mem_singleton.mp new]
      exact sealable.valid
  · obtain ⟨state, replayed, storable⟩ := sealable.replayed
    rw [represents.transactions, append_assoc] at replayed
    exact ⟨state, replayed, Or.inl storable⟩

theorem Commits.unpoisoned (commits : Commits P service request db later)
    (unpoisoned : Unpoisoned P service db log)
    (sealable : ∀ stamps stamp tx autoSeal requireSignature row,
      request = .submitTransaction stamps stamp tx autoSeal requireSignature ->
        autoSeal.getD service.settings.autoSeal = false ->
          Submits P service tx requireSignature db row -> Sealable P service.chainId db row) :
    ∃ next, Unpoisoned P service later next := by
  have keyed := unpoisoned.keyed
  have holds := unpoisoned.holds
  have only := commits.onlyChain unpoisoned.only
  cases commits with
  | submit begun left submits =>
    have moves := submits.moves keyed holds (holds.begun begun)
    exact ⟨_, {
      keyed := moves.keyed
      holds := moves.holds
      only := only
      inScope := fun _ => submits.inScope
      flows := unpoisoned.flows.submit holds.represents
        (sealable _ _ _ _ _ _ rfl left submits) }⟩
  | submitAndSeal begun submits seals =>
    have moves := submits.moves keyed holds (holds.begun begun)
    exact seals.unpoisoned moves.keyed moves.holds (unpoisoned.only.submit submits)
  | sealBlock seals => exact seals.unpoisoned keyed holds unpoisoned.only
  | approve approves =>
    have moves := approves.moves keyed holds
    refine ⟨_, moves.keyed, moves.holds, only, ?_, approves.flows keyed holds unpoisoned.flows⟩
    intro begun
    apply unpoisoned.inScope
    intro none
    rw [ChainLog.approve, none] at begun
    exact begun rfl
  | rebuild replayed =>
    have moves := rebuild_moves keyed holds replayed
    exact ⟨_, moves.keyed, moves.holds, only, unpoisoned.inScope,
      ⟨unpoisoned.flows.valid, unpoisoned.flows.replayed⟩⟩
  | register same =>
    have moves := Moves.of_sameLedger same keyed holds
    exact ⟨_, moves.keyed, moves.holds, only, unpoisoned.inScope, unpoisoned.flows⟩

theorem Unpoisoned.empty : Unpoisoned P service {} {} where
  keyed := (ledgerHolds_empty P).keyed
  holds := chainHolds_empty P service.chainId
  only := fun _ member => absurd member not_mem_nil
  inScope := fun begun => absurd rfl begun
  flows := ChainLog.Flows.empty

theorem ChainHolds.tip (holds : ChainHolds P db service.chainId log)
    (begun : getTip db service.chainId false ≠ none)
    (clear : getUnfinalizedTip db service.chainId = none) :
    ∃ tip, getTip db service.chainId = some tip ∧
      ∀ block, block ∈ db.blocks -> block.chainId = service.chainId ->
        block.height ≠ tip.height + 1 := by
  have represents := holds.represents
  have settled := finalized_eq_self (represents.settled_of_clear clear)
  obtain ⟨tip, found⟩ : ∃ tip, getTip db service.chainId = some tip := by
    rw [represents.getTip_finalized, settled, ← represents.getTip_all]
    exact Option.ne_none_iff_exists'.mp begun
  refine ⟨tip, found, ?_⟩
  intro block member onChain above
  obtain ⟨front, last, split, _, tipHeight⟩ := represents.tip_of_clear clear found
  obtain ⟨entry, listed, rfl⟩ := represents.entry_of_block member onChain
  obtain ⟨below, back, cut⟩ := append_of_mem listed
  have height := represents.heights below entry back cut
  have length := congrArg List.length (split.symm.trans cut)
  rw [length_append, length_append, length_singleton, length_cons] at length
  omega

end Steps

section FirstSubmission

variable (service : LedgerService) (key : String) (txType : TxType) (nonce : Int) (payload : Dict)
  (stamp : Stamp)

def ownTransaction : ComputeTransaction :=
  newSignedTransaction P key txType nonce payload (P.publicKeyFromPrivate key) stamp

def ownRow : TransactionRow where
  id := stamp.id
  chainId := service.chainId
  txHash := (ownTransaction P key txType nonce payload stamp).computeHash P
  txType := txType
  sender := P.publicKeyFromPrivate key
  nonce := nonce
  timestamp := stamp.time
  payload := payload
  signature := (ownTransaction P key txType nonce payload stamp).signature

theorem transactionRow_own :
    transactionRow P service (ownTransaction P key txType nonce payload stamp) =
      .ok (ownRow P service key txType nonce payload stamp) :=
  transactionRow_eq_ok_iff.mpr ⟨stamp.time, stamp.id, P.parseTs_isoformat stamp.time,
    P.asUuid_strOfUuid stamp.id, rfl⟩

theorem rowToTx_own :
    rowToTx P (ownRow P service key txType nonce payload stamp) =
      ownTransaction P key txType nonce payload stamp :=
  rfl

variable {P service key txType nonce payload stamp} {stamps : GenesisStamps}

variable {tx : ComputeTransaction}

theorem submits_first {row : TransactionRow} (alone : service.extraValidatorKeys P = [])
    (inScope : Scoped P service.chainId service.networkId) (valid : TransactionValid P true tx)
    (converted : transactionRow P service tx = .ok row) (above : 0 < tx.nonce)
    (small : tx.nonce < 2 ^ 63) (sender : tx.sender.length ≤ 128)
    (freshId : row.id ≠ stamps.transaction.id)
    (freshHash : (genesisTransaction P service stamps.transaction).computeHash P ≠ tx.computeHash P) :
    Submits P service tx true ((Request.ensureInitialized stamps).perform P service {}) row := by
  obtain ⟨_, holds, _, _, only⟩ := perform_first alone inScope stamps
  have rows := holds.represents.transactions
  rw [filter_eq_self.mpr (fun row member => decide_eq_true (only row member))] at rows
  have single : ∀ row, row ∈ ((Request.ensureInitialized stamps).perform P service {}).transactions ->
      row.id = stamps.transaction.id ∧ row.nonce = 0 ∧
        row.txHash = (genesisTransaction P service stamps.transaction).computeHash P := by
    rw [rows]
    intro row member
    rw [mem_singleton.mp member]
    exact ⟨rfl, rfl, rfl⟩
  obtain ⟨time, id, _, _, shape⟩ := transactionRow_eq_ok_iff.mp converted
  constructor
  · exact valid
  · refine Int.lt_of_le_of_lt ?_ above
    rw [getMaxNonce]
    apply maxNonce_le (by decide)
    intro value member
    obtain ⟨row, listed, rfl⟩ := mem_map.mp member
    exact Int.le_of_eq (single row (mem_of_mem_filter listed)).2.1
  · exact converted
  · exact inScope
  · rw [shape]
    exact sender
  · rw [shape]
    exact small
  · intro other member same
    rw [(single other member).1] at same
    exact freshId same.symm
  · intro other member same
    rw [(single other member).2.2, shape] at same
    exact freshHash same

theorem submits_own (alone : service.extraValidatorKeys P = [])
    (inScope : Scoped P service.chainId service.networkId) (above : 0 < nonce)
    (small : nonce < 2 ^ 63) (freshId : stamp.id ≠ stamps.transaction.id)
    (freshHash : (genesisTransaction P service stamps.transaction).computeHash P ≠
      (ownTransaction P key txType nonce payload stamp).computeHash P) :
    Submits P service (ownTransaction P key txType nonce payload stamp) true
      ((Request.ensureInitialized stamps).perform P service {})
      (ownRow P service key txType nonce payload stamp) := by
  refine submits_first alone inScope (newSignedTransaction_valid P true (Int.le_of_lt above))
    (transactionRow_own P service key txType nonce payload stamp) above small ?_ freshId freshHash
  change (P.publicKeyFromPrivate key).length ≤ 128
  rw [P.publicKey_length]
  decide

theorem submitTransaction_of_submits {row : TransactionRow} {db : Database F} {sealStamp : Stamp}
    {requireSignature : Bool} (begun : getTip db service.chainId false ≠ none)
    (submits : Submits P service tx requireSignature db row) :
    submitTransaction P service stamps sealStamp tx (some false) requireSignature db =
      ⟨.ok none, { db with transactions := db.transactions ++ [row] }⟩ := by
  have body : submitBody P service tx false requireSignature sealStamp db =
      .ok (none, { db with transactions := db.transactions ++ [row] }) :=
    (submitBody_of_submits submits).trans (if_neg Bool.false_ne_true)
  rw [submitTransaction, withInitialized_of_begun P service begun]
  exact transaction_of_ok body

theorem getTip_first (alone : service.extraValidatorKeys P = [])
    (inScope : Scoped P service.chainId service.networkId) (stamps : GenesisStamps) :
    getTip ((Request.ensureInitialized stamps).perform P service {}) service.chainId false ≠ none := by
  obtain ⟨_, holds, _⟩ := perform_first alone inScope stamps
  rw [holds.represents.getTip_all]
  exact Option.some_ne_none _

end FirstSubmission

end Progress

/-! ### Pending transactions of the relay's chain -/

theorem relayTables_begun (quorumThreshold : Int) :
    getTip (relayTables quorumThreshold) (relayService quorumThreshold none).chainId false ≠ none := by
  rw [relayTables]
  exact getTip_first (relayService_alone quorumThreshold none) (relayService_scoped quorumThreshold)
    relayStamps

theorem relay_freshHash (txType : TxType) (payload : Dict) :
    (genesisTransaction platform (relayService 1 none) relayStamps.transaction).computeHash
        platform ≠
      (ownTransaction platform "u" txType 1 payload ⟨3, 0⟩).computeHash
        platform := by
  intro same
  rw [ComputeTransaction.computeHash, ComputeTransaction.computeHash,
    Reference.sha256Hex_signingText _ 1 rfl, Reference.sha256Hex_signingText _ 3 rfl] at same
  exact absurd (Reference.digest_inj (by decide) (by decide) same).2 (by decide)

theorem relay_submits (txType : TxType) (payload : Dict) :
    Submits platform (relayService 1 none)
      (ownTransaction platform "u" txType 1 payload ⟨3, 0⟩) true
      (relayTables 1)
      (ownRow platform (relayService 1 none) "u" txType 1 payload ⟨3, 0⟩) :=
  submits_own (relayService_alone 1 none) (relayService_scoped 1) (by decide) (by decide)
    (by decide) (relay_freshHash txType payload)

end Ledger
end ZepGpu
