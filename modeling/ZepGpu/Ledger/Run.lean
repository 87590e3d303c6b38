import ZepGpu.Ledger.Audit
import ZepGpu.Ledger.Invariant
import ZepGpu.Ledger.ReplayTotals

namespace ZepGpu
namespace Ledger

open Foundation List

/-!
# Runs of the ledger service

A request is at most two committed transactions: the initialization of the
chain and the work proper.  `Commits` lists what the work can commit.  Facts
about runs are proved for the initialization and for each of these cases, and
carried over whole runs by induction.
-/

variable {F : Type} [Arithmetic F]

section Run

variable (P : Platform F)

/-! ## Requests -/

/-- The requests of a service, with the identifiers and clock readings they
may draw. -/
inductive Request where
  | ensureInitialized (stamps : GenesisStamps)
  | submitTransaction (stamps : GenesisStamps) (stamp : Stamp) (tx : ComputeTransaction)
      (autoSeal : Option Bool) (requireSignature : Bool)
  | sealPending (stamps : GenesisStamps) (stamp : Stamp)
  | approveBlock (stamps : GenesisStamps) (hash key signature : String)
  | rebuildBalances
  | registerValidator (stamps : GenesisStamps) (key : String)

namespace Request

def stamps : Request -> Option GenesisStamps
  | .ensureInitialized stamps => some stamps
  | .submitTransaction stamps _ _ _ _ => some stamps
  | .sealPending stamps _ => some stamps
  | .approveBlock stamps _ _ _ => some stamps
  | .rebuildBalances => none
  | .registerValidator stamps _ => some stamps

def initialized (service : LedgerService) (request : Request) (db : Database F) : Database F :=
  match request.stamps with
  | some stamps => (transaction (Ledger.ensureInitialized P service stamps) db).state
  | none => db

def perform (service : LedgerService) (request : Request) (db : Database F) : Database F :=
  match request with
  | .ensureInitialized stamps => (transaction (Ledger.ensureInitialized P service stamps) db).state
  | .submitTransaction stamps stamp tx autoSeal requireSignature =>
    (Ledger.submitTransaction P service stamps stamp tx autoSeal requireSignature db).state
  | .sealPending stamps stamp => (Ledger.sealPending P service stamps stamp db).state
  | .approveBlock stamps hash key signature =>
    (Ledger.approveBlock P service stamps hash key signature db).state
  | .rebuildBalances => (Ledger.rebuildBalances P service db).state
  | .registerValidator stamps key => (Ledger.registerValidator P service stamps key db).state

theorem perform_ensureInitialized (service : LedgerService) (stamps : GenesisStamps)
    (db : Database F) : (Request.ensureInitialized stamps).perform P service db =
      (Request.ensureInitialized stamps).initialized P service db :=
  rfl

end Request

/-- The state after a sequence of requests to one service. -/
def runRequests (service : LedgerService) (requests : List Request) (db : Database F) : Database F :=
  requests.foldl (fun db request => request.perform P service db) db

/-! ## Committed transactions -/

/-- The first transaction of a request commits a genesis block. -/
def Begins (service : LedgerService) (stamps : GenesisStamps) (db later : Database F) : Prop :=
  ∃ validators base stored, Initializes P service stamps db validators base stored ∧
    later = (genesisHead P service stamps).store P service stored

/-- What the work of a request commits.  A submission that is asked to seal
commits only together with the block. -/
inductive Commits (service : LedgerService) : Request -> Database F -> Database F -> Prop where
  | submit {db : Database F} {stamps : GenesisStamps} {stamp : Stamp} {tx : ComputeTransaction}
      {autoSeal : Option Bool} {requireSignature : Bool} {row : TransactionRow}
      (begun : getTip db service.chainId false ≠ none)
      (left : autoSeal.getD service.settings.autoSeal = false)
      (submits : Submits P service tx requireSignature db row) :
      Commits service (.submitTransaction stamps stamp tx autoSeal requireSignature) db
        { db with transactions := db.transactions ++ [row] }
  | submitAndSeal {db base : Database F} {stamps : GenesisStamps} {stamp : Stamp}
      {tx : ComputeTransaction} {autoSeal : Option Bool} {requireSignature : Bool}
      {row : TransactionRow} {head : Head F} {validators : List String}
      (begun : getTip db service.chainId false ≠ none)
      (submits : Submits P service tx requireSignature db row)
      (seals : Seals P service stamp { db with transactions := db.transactions ++ [row] } head
        validators base) :
      Commits service (.submitTransaction stamps stamp tx autoSeal requireSignature) db
        (head.store P service base)
  | sealBlock {db base : Database F} {stamps : GenesisStamps} {stamp : Stamp} {head : Head F}
      {validators : List String} (seals : Seals P service stamp db head validators base) :
      Commits service (.sealPending stamps stamp) db (head.store P service base)
  | approve {db : Database F} {stamps : GenesisStamps} {hash key signature : String} {row : BlockRow}
      {balances : Option (List (BalanceEntry F))}
      (approves : Approves P service hash key signature db row balances) :
      Commits service (.approveBlock stamps hash key signature) db (storeApproval service row.id
        (approvedBlock service (blockToDomain P db row) key signature) balances db)
  | rebuild {db : Database F} {state : CreditState F}
      (replayed : replayTransactions P ((listSealedTransactions db service.chainId).map
        (rowToTx P)) = .ok state) :
      Commits service .rebuildBalances db { db with
        balances := db.balances.filter (fun row => row.chainId ≠ service.chainId) ++
          balanceRows service.chainId state.toList }
  | register {db later : Database F} {stamps : GenesisStamps} {key : String}
      (same : SameLedger db later) : Commits service (.registerValidator stamps key) db later

section Inversion

variable {P} {service : LedgerService} {db later : Database F}

theorem getTip_store_ne_none (head : Head F) (base : Database F) :
    getTip (head.store P service base) service.chainId false ≠ none := by
  have listed : head.row P service ∈
      chainBlocks (head.store P service base) service.chainId := by
    rw [chainBlocks_eq, mem_filter, decide_eq_true_eq]
    exact ⟨Head.row_mem_store base, rfl⟩
  rw [getTip]
  cases blocks : chainBlocks (head.store P service base) service.chainId with
  | nil =>
    rw [blocks] at listed
    cases listed
  | cons row rest =>
    rw [highest]
    split
    · split_ifs <;> exact Option.some_ne_none _
    · exact Option.some_ne_none _

theorem ensureInitialized_begins {stamps : GenesisStamps} {block : ComputeBlock}
    (run : ensureInitialized P service stamps db = .ok (block, later)) :
    (later = db ∨ Begins P service stamps db later) ∧
      getTip later service.chainId false ≠ none := by
  rcases ensureInitialized_effect run with
    ⟨⟨tip, found⟩, rfl⟩ | ⟨validators, base, stored, initializes, rfl⟩
  · refine ⟨Or.inl rfl, ?_⟩
    rw [found]
    exact Option.some_ne_none _
  · exact ⟨Or.inr ⟨validators, base, stored, initializes, rfl⟩, getTip_store_ne_none _ _⟩

theorem transaction_state {α : Type} {relation : Database F -> Prop}
    {body : Database F -> Except PyError (α × Database F)}
    (committed : ∀ value written, body db = .ok (value, written) -> written = db ∨ relation written)
     :
    (transaction body db).state = db ∨ relation (transaction body db).state := by
  rcases transaction_cases body db with ⟨error, same⟩ | ⟨value, written, run, same⟩
  · rw [same]
    exact Or.inl rfl
  · rw [same]
    exact committed value written run

theorem sealPendingBody_commits (stamps : GenesisStamps) {stamp : Stamp}
    {result : Option ComputeBlock}
    (run : sealPendingBody P service stamp db = .ok (result, later)) :
    later = db ∨ Commits P service (.sealPending stamps stamp) db later := by
  rcases sealPendingBody_effect run with ⟨_, _, rfl⟩ | ⟨_, _, _, seals, _, rfl⟩
  · exact Or.inl rfl
  · exact Or.inr (Commits.sealBlock seals)

theorem Submits.pending {tx : ComputeTransaction} {requireSignature : Bool} {row : TransactionRow}
    (submits : Submits P service tx requireSignature db row) :
    row ∈ listPendingTransactions { db with transactions := db.transactions ++ [row] }
      service.chainId := by
  obtain ⟨time, id, _, _, shape⟩ := transactionRow_eq_ok_iff.mp submits.converted
  refine mem_filter.mpr ⟨mem_append_right _ (mem_singleton.mpr rfl), ?_⟩
  rw [shape]
  exact decide_eq_true ⟨rfl, rfl⟩

theorem submitBody_commits (stamps : GenesisStamps) {stamp : Stamp} {tx : ComputeTransaction}
    {autoSeal : Option Bool} {requireSignature : Bool} {result : Option ComputeBlock}
    (begun : getTip db service.chainId false ≠ none)
    (run : submitBody P service tx (autoSeal.getD service.settings.autoSeal) requireSignature stamp
      db = .ok (result, later)) :
    Commits P service (.submitTransaction stamps stamp tx autoSeal requireSignature) db later := by
  obtain ⟨row, submits, rest⟩ := submitBody_effect run
  cases asked : autoSeal.getD service.settings.autoSeal with
  | false =>
    rw [asked] at rest
    obtain ⟨_, rfl⟩ := rest
    exact Commits.submit begun asked submits
  | true =>
    rw [asked] at rest
    rcases sealPendingBody_effect rest with ⟨nothing, _⟩ | ⟨_, _, _, seals, _, rfl⟩
    · have pending := submits.pending
      rw [nothing] at pending
      cases pending
    · exact Commits.submitAndSeal begun submits seals

theorem approveBody_commits (stamps : GenesisStamps) {hash key signature : String}
    {block : ComputeBlock}
    (run : approveBody P service hash key signature db = .ok (block, later)) :
    Commits P service (.approveBlock stamps hash key signature) db later := by
  obtain ⟨row, balances, approves, rfl, rfl⟩ := approveBody_effect run
  exact Commits.approve approves

theorem withInitialized_commits {α : Type} {request : Request} {stamps : GenesisStamps}
    {body : Database F -> Except PyError (α × Database F)}
    (commits : ∀ middle value written, getTip middle service.chainId false ≠ none ->
      body middle = .ok (value, written) ->
        written = middle ∨ Commits P service request middle written) :
    let middle := (transaction (ensureInitialized P service stamps) db).state
    (withInitialized P service stamps body db).state = middle ∨
      Commits P service request middle (withInitialized P service stamps body db).state := by
  rw [withInitialized]
  rcases transaction_cases (ensureInitialized P service stamps) db with
    ⟨error, same⟩ | ⟨block, middle, run, same⟩
  · rw [same]
    exact Or.inl rfl
  · rw [same]
    exact transaction_state (fun value written =>
      commits middle value written (ensureInitialized_begins run).2)

theorem Request.begins (P : Platform F) (service : LedgerService) (request : Request) (db : Database F) :
    request.initialized P service db = db ∨
      ∃ stamps, request.stamps = some stamps ∧
        Begins P service stamps db (request.initialized P service db) := by
  rw [Request.initialized]
  cases request.stamps with
  | none => exact Or.inl rfl
  | some stamps =>
    have committed : ∀ done later,
        Ledger.ensureInitialized P service stamps db = .ok (done, later) ->
          later = db ∨ Begins P service stamps db later :=
      fun _ _ run => (ensureInitialized_begins run).1
    rcases transaction_state committed with same | begins
    · exact Or.inl same
    · exact Or.inr ⟨stamps, rfl, begins⟩

theorem Request.commits (P : Platform F) (service : LedgerService) (request : Request) (db : Database F) :
    request.perform P service db = request.initialized P service db ∨
      Commits P service request (request.initialized P service db)
        (request.perform P service db) := by
  cases request with
  | ensureInitialized stamps => exact Or.inl rfl
  | submitTransaction stamps stamp tx autoSeal requireSignature =>
    exact withInitialized_commits (fun _ _ _ begun run => Or.inr (submitBody_commits stamps begun run))
  | sealPending stamps stamp =>
    exact withInitialized_commits (fun _ _ _ _ run => sealPendingBody_commits stamps run)
  | approveBlock stamps hash key signature =>
    exact withInitialized_commits (fun _ _ _ _ run => Or.inr (approveBody_commits stamps run))
  | rebuildBalances =>
    refine transaction_state (fun _ _ run => ?_)
    obtain ⟨state, replayed, rfl⟩ := rebuildBody_effect P service run
    exact Or.inr (Commits.rebuild replayed)
  | registerValidator stamps key =>
    exact withInitialized_commits (fun _ _ _ _ run =>
      Or.inr (Commits.register (registerBody_effect P service run)))

theorem Request.perform_preserves (invariant : Database F -> Prop) {request : Request}
    (begin : ∀ stamps after, request.stamps = some stamps -> invariant db ->
      Begins P service stamps db after -> invariant after)
    (step : ∀ after, invariant (request.initialized P service db) ->
      Commits P service request (request.initialized P service db) after -> invariant after)
    (holds : invariant db) : invariant (request.perform P service db) := by
  have middle : invariant (request.initialized P service db) := by
    rcases Request.begins P service request db with same | ⟨stamps, drawn, begins⟩
    · rw [same]
      exact holds
    · exact begin stamps _ drawn holds begins
  rcases Request.commits P service request db with same | commits
  · rw [same]
    exact middle
  · exact step _ middle commits

end Inversion

/-! ## The chain invariant -/

/-- The stored state of a chain, as the queries of the repository show it. -/
structure ChainInvariant (service : LedgerService) (db : Database F) : Prop where
  heights : (listAllBlocksAscending db service.chainId).map BlockRow.height =
    (List.range (listAllBlocksAscending db service.chainId).length).map Int.ofNat
  links : Throughout (fun front row => row.previousHash = front.getLast?.elim zeroHash BlockRow.hash)
    (listAllBlocksAscending db service.chainId)
  awaiting : ∀ row, row ∈ listAllBlocksAscending db service.chainId -> row.finalized = false ->
    ∃ front, listAllBlocksAscending db service.chainId = front ++ [row]
  balances : ∃ state,
    replayTransactions P (finalizedTransactions (storedBlocks P service db)) = .ok state ∧
      listBalances db service.chainId = balanceRows service.chainId state.toList
  roots : StateRootsMatch P (storedBlocks P service db)

section Chain

variable {P} {service : LedgerService} {request : Request} {db later : Database F} {log : ChainLog F}

theorem Represents.storedBlocks_eq (keyed : Keyed db)
    (represents : Represents db service.chainId log) :
    storedBlocks P service db =
      log.entries.map (fun entry => rowToBlock P entry.block entry.rows) := by
  rw [storedBlocks, represents.listAllBlocksAscending_eq, map_map]
  apply map_congr_left
  intro entry member
  rw [Function.comp_apply, blockToDomain, represents.blockTransactions_eq keyed member]

theorem finalizedTransactions_entries (entries : List LogEntry) :
    finalizedTransactions (entries.map (fun entry => rowToBlock P entry.block entry.rows)) =
      (ChainLog.rowsOf (entries.filter (fun entry => entry.block.finalized))).map (rowToTx P) := by
  rw [finalizedTransactions, filter_map, flatMap_map, ChainLog.rowsOf, map_flatMap]
  rfl

theorem Represents.listBalances_eq {chainId : String} {state : CreditState F}
    (represents : Represents db chainId log)
    (stored : log.balances = balanceRows chainId state.toList) :
    listBalances db chainId = balanceRows chainId state.toList := by
  rw [listBalances, represents.balances, stored]
  apply List.Pairwise.insertionSort_eq
  rw [balanceRows, pairwise_map, CreditState.toList]
  exact pairwise_insertionSort _ _

theorem ChainHolds.invariant (keyed : Keyed db) (holds : ChainHolds P db service.chainId log) :
    ChainInvariant P service db := by
  have represents := holds.represents
  have blocks := represents.listAllBlocksAscending_eq
  constructor
  · rw [blocks, length_map, map_map]
    exact represents.heights.map_eq_range
  · rw [blocks]
    refine holds.sound.entries.map ?_
    intro front entry sound
    rw [sound.previous, getLast?_map]
    cases front.getLast? <;> rfl
  · rw [blocks]
    intro row member awaiting
    obtain ⟨entry, listed, rfl⟩ := mem_map.mp member
    obtain ⟨front, split, _⟩ := holds.sound.last_of_awaiting listed awaiting
    exact ⟨front.map LogEntry.block, by rw [split, map_append]; rfl⟩
  · obtain ⟨state, replayed, stored⟩ := holds.sound.balances
    refine ⟨state, ?_, represents.listBalances_eq stored⟩
    rw [represents.storedBlocks_eq keyed, finalizedTransactions_entries]
    exact replayed
  · rw [represents.storedBlocks_eq keyed]
    refine holds.sound.entries.map ?_
    intro front entry sound final
    obtain ⟨state, replayed, root⟩ := sound.root
    refine ⟨state, ?_, root⟩
    have settled : (front ++ [entry]).filter (fun entry => entry.block.finalized) =
        front ++ [entry] := by
      rw [filter_eq_self]
      intro other member
      rcases mem_append.mp member with below | here
      · exact sound.settled other below
      · rw [mem_singleton.mp here]
        exact final
    have joined : front.map (fun entry => rowToBlock P entry.block entry.rows) ++
        [rowToBlock P entry.block entry.rows] =
          (front ++ [entry]).map (fun entry => rowToBlock P entry.block entry.rows) := by
      rw [map_append]
      rfl
    rw [joined, finalizedTransactions_entries, settled]
    exact replayed

theorem ChainHolds.begun (holds : ChainHolds P db service.chainId log)
    (begun : getTip db service.chainId false ≠ none) : log.entries ≠ [] := by
  intro none
  rw [holds.represents.getTip_all, none] at begun
  exact begun rfl

theorem Begins.moves {stamps : GenesisStamps} (begins : Begins P service stamps db later)
    (keyed : Keyed db) (holds : ChainHolds P db service.chainId log)
    (fresh : ∀ row, row ∈ db.transactions -> row.id ≠ stamps.transaction.id) :
    Moves P db later service.chainId (genesisLog P service log stamps) := by
  obtain ⟨validators, base, stored, initializes, rfl⟩ := begins
  exact initializes.moves keyed holds fresh

theorem Commits.moves (commits : Commits P service request db later) (keyed : Keyed db)
    (holds : ChainHolds P db service.chainId log) :
    ∃ next, Moves P db later service.chainId next := by
  cases commits with
  | submit begun left submits => exact ⟨_, submits.moves keyed holds (holds.begun begun)⟩
  | submitAndSeal begun submits seals =>
    have first := submits.moves keyed holds (holds.begun begun)
    exact ⟨_, first.trans (seals.moves first.keyed first.holds).2⟩
  | sealBlock seals => exact ⟨_, (seals.moves keyed holds).2⟩
  | approve approves => exact ⟨_, approves.moves keyed holds⟩
  | rebuild replayed => exact ⟨_, rebuild_moves keyed holds replayed⟩
  | register same => exact ⟨_, Moves.of_sameLedger same keyed holds⟩

/-- Only transactions of one chain are stored. -/
def OnlyChain (chainId : String) (db : Database F) : Prop :=
  ∀ row, row ∈ db.transactions -> row.chainId = chainId

theorem onlyChain_store {head : Head F} {base : Database F} (only : OnlyChain service.chainId base) :
    OnlyChain service.chainId (head.store P service base) := by
  intro row member
  rw [Head.store, storeBlock, placeTransactions_eq_map] at member
  obtain ⟨old, stored, rfl⟩ := mem_map.mp member
  rw [placeRow_chainId]
  exact only old stored

theorem OnlyChain.submit {tx : ComputeTransaction} {requireSignature : Bool} {row : TransactionRow}
    (only : OnlyChain service.chainId db) (submits : Submits P service tx requireSignature db row) :
    OnlyChain service.chainId { db with transactions := db.transactions ++ [row] } := by
  intro other member
  rcases mem_append.mp member with old | new
  · exact only other old
  · obtain ⟨time, id, _, _, shape⟩ := transactionRow_eq_ok_iff.mp submits.converted
    rw [mem_singleton.mp new, shape]

theorem OnlyChain.of_sameLedger (only : OnlyChain service.chainId db) (same : SameLedger db later) :
    OnlyChain service.chainId later := by
  rw [OnlyChain, same.transactions]
  exact only

theorem Commits.onlyChain (commits : Commits P service request db later)
    (only : OnlyChain service.chainId db) : OnlyChain service.chainId later := by
  cases commits with
  | submit begun left submits => exact only.submit submits
  | submitAndSeal begun submits seals =>
    exact onlyChain_store ((only.submit submits).of_sameLedger seals.same)
  | sealBlock seals => exact onlyChain_store (only.of_sameLedger seals.same)
  | approve approves => exact only
  | rebuild replayed => exact only
  | register same => exact only.of_sameLedger same

/-- A chain without blocks has no transactions, so that a genesis transaction
is new when there is only one chain. -/
theorem OnlyChain.empty_of_noTip (only : OnlyChain service.chainId db)
    (holds : ChainHolds P db service.chainId log)
    (empty : getTip db service.chainId false = none) : db.transactions = [] := by
  have noEntries := holds.represents.empty_of_noTip empty
  have rows := holds.represents.transactions
  rw [noEntries, holds.started noEntries, filter_eq_self.mpr] at rows
  · exact rows
  · intro row member
    exact decide_eq_true (only row member)

theorem Begins.onlyChain {stamps : GenesisStamps} (begins : Begins P service stamps db later)
    (only : OnlyChain service.chainId db) : OnlyChain service.chainId later := by
  obtain ⟨validators, base, stored, initializes, rfl⟩ := begins
  have onlyBase := only.of_sameLedger initializes.same
  apply onlyChain_store
  rcases initializes.transaction with ⟨rfl, _⟩ | ⟨_, rfl⟩
  · exact onlyBase
  · intro row member
    rcases mem_append.mp member with old | new
    · exact onlyBase row old
    · rw [mem_singleton.mp new]
      rfl

theorem perform_first (alone : service.extraValidatorKeys P = [])
    (inScope : Scoped P service.chainId service.networkId) (stamps : GenesisStamps) :
    let tables := (Request.ensureInitialized stamps).perform P service {}
    Keyed tables ∧ ChainHolds P tables service.chainId (genesisLog P service {} stamps) ∧
      (service.validatorKeys P).2 ∈ getActiveValidators tables service.chainId ∧
      tables.blocks = [(genesisHead P service stamps).row P service] ∧
      OnlyChain service.chainId tables := by
  intro tables
  have empty : getTip ({} : Database F) service.chainId false = none := rfl
  obtain ⟨validators, base, stored, initializes, active, run⟩ := ensureInitialized_succeeds alone
    inScope empty (fun _ member => absurd member not_mem_nil)
    (fun _ member => absurd member not_mem_nil)
  have state : tables = (genesisHead P service stamps).store P service stored :=
    congrArg Outcome.state (transaction_of_ok run)
  rw [state]
  have moves := initializes.moves (ledgerHolds_empty P).keyed (chainHolds_empty P service.chainId)
    (fun _ member => absurd member not_mem_nil)
  have begins : Begins P service stamps {} ((genesisHead P service stamps).store P service stored) :=
    ⟨validators, base, stored, initializes, rfl⟩
  refine ⟨moves.keyed, moves.holds, active, ?_,
    begins.onlyChain (fun _ member => absurd member not_mem_nil)⟩
  change stored.blocks ++ _ = _
  rw [initializes.transaction.blocks, initializes.same.blocks]
  rfl

end Chain

end Run

end Ledger
end ZepGpu
