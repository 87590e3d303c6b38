import ZepGpu.Foundation.History
import ZepGpu.Ledger.Effects

namespace ZepGpu
namespace Ledger

open Foundation List

/-!
# The log behind the tables

A chain is an append-only log: sealed blocks with their transactions, lowest
first, then the transactions that are still pending.  The tables of the
database hold the logs of all chains at once.  `Represents` says that they
hold a given log for a given chain.  Under it every query of the repository
reads a part of the log, and every write is an operation on the log that
leaves the logs of the other chains alone.
-/

variable {F : Type} [Arithmetic F]

/-- A stored block with the rows of its transactions. -/
structure LogEntry where
  block : BlockRow
  rows : List TransactionRow

/-- The history of one chain: its blocks, what is pending, and the balances. -/
structure ChainLog (F : Type) [Arithmetic F] where
  entries : List LogEntry := []
  pending : List TransactionRow := []
  balances : List (BalanceRow F) := []

namespace ChainLog

def finalized (log : ChainLog F) : List LogEntry :=
  log.entries.filter (fun entry => entry.block.finalized)

/-- The transactions of some entries, in the order of height and position. -/
def rowsOf (entries : List LogEntry) : List TransactionRow :=
  entries.flatMap LogEntry.rows

end ChainLog

def placeRows (blockId : Uuid) (rows : List TransactionRow) : List TransactionRow :=
  rows.zipIdx.map (fun entry =>
    { entry.1 with blockId := some blockId, position := some entry.2 })

namespace ChainLog

def submit (log : ChainLog F) (row : TransactionRow) : ChainLog F :=
  { log with pending := log.pending ++ [row] }

def extend (log : ChainLog F) (block : BlockRow) (balances : Option (List (BalanceEntry F))) : ChainLog F where
  entries := log.entries ++ [⟨block, placeRows block.id log.pending⟩]
  pending := []
  balances := balances.elim log.balances (balanceRows block.chainId)

def approveEntry (id : Uuid) (approvals : List ValidatorApproval) (finalized : Bool)
    (entry : LogEntry) : LogEntry :=
  if entry.block.id = id then
    { entry with block := { entry.block with approvals := approvals, finalized := finalized } }
  else entry

/-- A block collects approvals, and the balances are settled when it becomes
final. -/
def approve (log : ChainLog F) (chainId : String) (id : Uuid) (approvals : List ValidatorApproval)
    (finalized : Bool) (balances : Option (List (BalanceEntry F))) : ChainLog F :=
  { log with
    entries := log.entries.map (approveEntry id approvals finalized)
    balances := balances.elim log.balances (balanceRows chainId) }

def settle (log : ChainLog F) (chainId : String) (entries : List (BalanceEntry F)) : ChainLog F :=
  { log with balances := balanceRows chainId entries }

end ChainLog

/-- The rows name the block and stand in the order of their positions. -/
structure LogEntry.Placed (entry : LogEntry) : Prop where
  inBlock : ∀ row, row ∈ entry.rows -> row.blockId = some entry.block.id
  ordered : entry.rows.Pairwise
    (fun left right => left.position.getD 0 ≤ right.position.getD 0)

/-- The tables hold a log for a chain. -/
structure Represents (db : Database F) (chainId : String) (log : ChainLog F) : Prop where
  blocks : chainBlocks db chainId = log.entries.map LogEntry.block
  transactions : db.transactions.filter (fun row => row.chainId = chainId) =
    ChainLog.rowsOf log.entries ++ log.pending
  balances : db.balances.filter (fun row => row.chainId = chainId) = log.balances
  placed : ∀ entry, entry ∈ log.entries -> entry.Placed
  unplaced : ∀ row, row ∈ log.pending -> row.blockId = none
  heights : Throughout (fun front entry => entry.block.height = (front.length : Int)) log.entries

/-- The primary keys are distinct, and a transaction is in a block of its own
chain. -/
structure Keyed (db : Database F) : Prop where
  blocks : (db.blocks.map BlockRow.id).Nodup
  transactions : (db.transactions.map TransactionRow.id).Nodup
  references : ∀ row, row ∈ db.transactions -> ∀ id, row.blockId = some id ->
    ∃ block, block ∈ db.blocks ∧ block.id = id ∧ block.chainId = row.chainId

theorem chainBlocks_eq (db : Database F) (chainId : String) :
    chainBlocks db chainId = db.blocks.filter (fun row => row.chainId = chainId) := by
  rw [chainBlocks]
  apply filter_congr
  intro row _
  simp

theorem chainBlocks_finalized (db : Database F) (chainId : String) :
    chainBlocks db chainId true = (chainBlocks db chainId).filter (fun row => row.finalized) := by
  rw [chainBlocks_eq, filter_filter, chainBlocks]
  apply filter_congr
  intro row _
  simp [Bool.and_comm]

theorem highest_eq_getLast? {rows : List BlockRow}
    (ascending : rows.Pairwise (fun left right => left.height < right.height)) :
    highest rows = rows.getLast? := by
  induction rows with
  | nil => rfl
  | cons row rest ih =>
    rw [pairwise_cons] at ascending
    rw [highest, ih ascending.2]
    cases rest with
    | nil => rfl
    | cons next others =>
      rw [getLast?_cons_cons]
      cases last : (next :: others).getLast? with
      | none => exact absurd (getLast?_eq_none_iff.mp last) (cons_ne_nil _ _)
      | some final =>
        have higher : row.height < final.height :=
          ascending.1 final (mem_of_getLast? last)
        exact if_pos higher

section Reading

variable {db : Database F} {chainId : String} {log : ChainLog F}

section

variable (represents : Represents db chainId log)

include represents

theorem Represents.mem_blocks {entry : LogEntry} (member : entry ∈ log.entries) :
    entry.block ∈ db.blocks ∧ entry.block.chainId = chainId := by
  have listed : entry.block ∈ chainBlocks db chainId := by
    rw [represents.blocks]
    exact mem_map_of_mem member
  rw [chainBlocks_eq, mem_filter, decide_eq_true_eq] at listed
  exact listed

theorem Represents.entry_of_block {block : BlockRow} (member : block ∈ db.blocks)
    (onChain : block.chainId = chainId) :
    ∃ entry, entry ∈ log.entries ∧ entry.block = block := by
  have listed : block ∈ chainBlocks db chainId := by
    rw [chainBlocks_eq, mem_filter, decide_eq_true_eq]
    exact ⟨member, onChain⟩
  rw [represents.blocks] at listed
  exact mem_map.mp listed

theorem Represents.mem_transactions {row : TransactionRow}
    (member : row ∈ ChainLog.rowsOf log.entries ++ log.pending) :
    row ∈ db.transactions ∧ row.chainId = chainId := by
  rw [← represents.transactions, mem_filter, decide_eq_true_eq] at member
  exact member

theorem Represents.ascending :
    log.entries.Pairwise (fun left right => left.block.height < right.block.height) := by
  apply Throughout.pairwise
  intro front entry back same other member
  obtain ⟨below, above, split⟩ := append_of_mem member
  have otherHeight := represents.heights below other (above ++ entry :: back) (by
    rw [same, split, append_assoc, cons_append])
  have entryHeight := represents.heights front entry back same
  rw [otherHeight, entryHeight, split, length_append, length_cons]
  omega

theorem Represents.ascendingBlocks :
    (chainBlocks db chainId).Pairwise (fun left right => left.height < right.height) := by
  rw [represents.blocks, pairwise_map]
  exact represents.ascending

theorem Represents.getTip_all :
    getTip db chainId false = log.entries.getLast?.map LogEntry.block := by
  rw [getTip, highest_eq_getLast? represents.ascendingBlocks, represents.blocks, getLast?_map]

theorem Represents.getTip_finalized :
    getTip db chainId = log.finalized.getLast?.map LogEntry.block := by
  rw [getTip, chainBlocks_finalized, highest_eq_getLast? (represents.ascendingBlocks.filter _),
    represents.blocks, filter_map, getLast?_map]
  rfl

theorem Represents.getUnfinalizedTip_eq :
    getUnfinalizedTip db chainId =
      (log.entries.filter (fun entry => !entry.block.finalized)).getLast?.map LogEntry.block := by
  have same : (chainBlocks db chainId).filter (fun row => decide (row.finalized = false)) =
      (chainBlocks db chainId).filter (fun row => !row.finalized) := by
    apply filter_congr
    intro row _
    cases row.finalized <;> rfl
  rw [getUnfinalizedTip, same, highest_eq_getLast? (represents.ascendingBlocks.filter _),
    represents.blocks, filter_map, getLast?_map]
  rfl

theorem Represents.listAllBlocksAscending_eq :
    listAllBlocksAscending db chainId = log.entries.map LogEntry.block := by
  rw [listAllBlocksAscending, ← represents.blocks]
  apply List.Pairwise.insertionSort_eq
  exact represents.ascendingBlocks.imp (fun below => le_of_lt below)

theorem Represents.listPendingTransactions_eq :
    listPendingTransactions db chainId = log.pending := by
  have joint : listPendingTransactions db chainId =
      (db.transactions.filter (fun row => row.chainId = chainId)).filter
        (fun row => decide (row.blockId = none)) := by
    rw [listPendingTransactions, filter_filter]
    apply filter_congr
    intro row _
    rw [Bool.and_comm, Bool.decide_and]
  rw [joint, represents.transactions, filter_append]
  have sealed : (ChainLog.rowsOf log.entries).filter (fun row => decide (row.blockId = none)) = [] := by
    rw [filter_eq_nil_iff]
    intro row member unplaced
    obtain ⟨entry, listed, inside⟩ := mem_flatMap.mp member
    rw [(represents.placed entry listed).inBlock row inside] at unplaced
    exact absurd unplaced (by simp)
  have kept : log.pending.filter (fun row => decide (row.blockId = none)) = log.pending := by
    rw [filter_eq_self]
    intro row member
    exact decide_eq_true (represents.unplaced row member)
  rw [sealed, kept, nil_append]

end

theorem rowsOf_filter_other {entries : List LogEntry} {id : Uuid}
    (placed : ∀ entry, entry ∈ entries -> entry.Placed)
    (other : ∀ entry, entry ∈ entries -> entry.block.id ≠ id) :
    (ChainLog.rowsOf entries).filter (fun row => decide (row.blockId = some id)) = [] := by
  rw [filter_eq_nil_iff]
  intro row listed here
  obtain ⟨entry, member, inside⟩ := mem_flatMap.mp listed
  rw [(placed entry member).inBlock row inside, decide_eq_true_eq, Option.some.injEq] at here
  exact other entry member here

theorem rowsOf_filter_block {entries : List LogEntry} {entry : LogEntry}
    (placed : ∀ entry, entry ∈ entries -> entry.Placed)
    (distinct : (entries.map (fun entry => entry.block.id)).Nodup) (member : entry ∈ entries) :
    (ChainLog.rowsOf entries).filter (fun row => decide (row.blockId = some entry.block.id)) =
      entry.rows := by
  obtain ⟨front, back, rfl⟩ := append_of_mem member
  rw [map_append, map_cons, nodup_append, nodup_cons] at distinct
  obtain ⟨_, ⟨fresh, _⟩, apart⟩ := distinct
  have frontOut : (ChainLog.rowsOf front).filter
      (fun row => decide (row.blockId = some entry.block.id)) = [] := rowsOf_filter_other
    (fun other listed => placed other (mem_append_left _ listed))
    (fun other listed same => apart _ (mem_map_of_mem listed) _ mem_cons_self same)
  have backOut : (ChainLog.rowsOf back).filter
      (fun row => decide (row.blockId = some entry.block.id)) = [] := rowsOf_filter_other
    (fun other listed => placed other (mem_append_right _ (mem_cons_of_mem _ listed)))
    (fun other listed same => fresh (mem_map.mpr ⟨other, listed, same⟩))
  have own : entry.rows.filter (fun row => decide (row.blockId = some entry.block.id)) =
      entry.rows := by
    rw [filter_eq_self]
    intro row listed
    exact decide_eq_true ((placed entry member).inBlock row listed)
  rw [ChainLog.rowsOf, flatMap_append, flatMap_cons, filter_append, filter_append, own]
  rw [ChainLog.rowsOf] at frontOut backOut
  rw [frontOut, backOut, nil_append, append_nil]

theorem Represents.distinct_blocks (keyed : Keyed db) (represents : Represents db chainId log) :
    (log.entries.map (fun entry => entry.block.id)).Nodup := by
  have inner : log.entries.map (fun entry => entry.block.id) =
      (chainBlocks db chainId).map BlockRow.id := by
    rw [represents.blocks, map_map]
    rfl
  rw [inner, chainBlocks_eq]
  exact keyed.blocks.sublist (filter_sublist.map _)

theorem Represents.blockTransactions_eq (keyed : Keyed db) (represents : Represents db chainId log)
    {entry : LogEntry} (member : entry ∈ log.entries) :
    blockTransactions db entry.block = entry.rows := by
  obtain ⟨stored, onChain⟩ := represents.mem_blocks member
  have onlyHere : db.transactions.filter (fun row => decide (row.blockId = some entry.block.id)) =
      (ChainLog.rowsOf log.entries ++ log.pending).filter
        (fun row => decide (row.blockId = some entry.block.id)) := by
    rw [← represents.transactions, filter_filter]
    apply filter_congr
    intro row listed
    by_cases here : row.blockId = some entry.block.id
    · obtain ⟨block, blockStored, same, chain⟩ := keyed.references row listed _ here
      have equal := inj_on_of_nodup_map keyed.blocks blockStored stored same
      have chainHere : row.chainId = chainId := by rw [← chain, equal, onChain]
      simp [here, chainHere]
    · simp [here]
  have pendingOut : log.pending.filter (fun row => decide (row.blockId = some entry.block.id)) =
      [] := by
    rw [filter_eq_nil_iff]
    intro row listed here
    rw [represents.unplaced row listed] at here
    exact absurd here (by simp)
  rw [blockTransactions, onlyHere, filter_append, pendingOut, append_nil,
    rowsOf_filter_block represents.placed (represents.distinct_blocks keyed) member]
  exact (represents.placed entry member).ordered.insertionSort_eq

theorem Represents.sealedIn_eq (keyed : Keyed db) (represents : Represents db chainId log)
    {entry : LogEntry} (member : entry ∈ log.entries) {row : TransactionRow}
    (inside : row ∈ entry.rows) :
    sealedIn db true row = if entry.block.finalized then some entry.block else none := by
  rw [sealedIn, (represents.placed entry member).inBlock row inside,
    ← find?_of_nodup_keys (fun block : BlockRow => block.finalized) keyed.blocks
      (represents.mem_blocks member).1]
  congr 1
  funext other
  simp

theorem Represents.sealedIn_pending (represents : Represents db chainId log) {row : TransactionRow}
    (member : row ∈ log.pending) (finalizedOnly : Bool) : sealedIn db finalizedOnly row = none := by
  rw [sealedIn, find?_eq_none, represents.unplaced row member]
  intro block _ accepted
  exact absurd (of_decide_eq_true accepted).1 (by simp)

theorem filterMap_join {entries : List LogEntry} {joined : TransactionRow -> Option BlockRow}
    (join : ∀ entry, entry ∈ entries -> ∀ row, row ∈ entry.rows ->
      joined row = if entry.block.finalized then some entry.block else none) :
    (ChainLog.rowsOf entries).filterMap (fun row => (joined row).map (fun block => (block, row))) =
      (entries.filter (fun entry => entry.block.finalized)).flatMap
        (fun entry => entry.rows.map (fun row => (entry.block, row))) := by
  induction entries with
  | nil => rfl
  | cons entry rest ih =>
    have restJoin := ih (fun other listed => join other (mem_cons_of_mem _ listed))
    rw [ChainLog.rowsOf] at restJoin ⊢
    rw [flatMap_cons, filterMap_append, restJoin]
    have own := join entry mem_cons_self
    by_cases final : entry.block.finalized = true
    · rw [filter_cons, if_pos final, flatMap_cons]
      congr 1
      rw [← filterMap_eq_map]
      apply filterMap_congr
      intro row inside
      rw [own row inside, if_pos final]
      rfl
    · rw [filter_cons, if_neg final]
      have dropped : entry.rows.filterMap
          (fun row => (joined row).map (fun block => (block, row))) = [] := by
        rw [filterMap_eq_nil_iff]
        intro row inside
        rw [own row inside, if_neg final]
        rfl
      rw [dropped, nil_append]

theorem Represents.listSealedTransactions_eq (keyed : Keyed db)
    (represents : Represents db chainId log) :
    listSealedTransactions db chainId = ChainLog.rowsOf log.finalized := by
  have pendingOut : log.pending.filterMap
      (fun row => (sealedIn db true row).map (fun block => (block, row))) = [] := by
    rw [filterMap_eq_nil_iff]
    intro row member
    rw [represents.sealedIn_pending member]
    rfl
  have joined := filterMap_join
    (fun entry member row inside => represents.sealedIn_eq keyed member inside)
  have sorted : (log.finalized.flatMap
      (fun entry => entry.rows.map (fun row => (entry.block, row)))).Pairwise
        (fun left right => toLex (left.1.height, left.2.position.getD 0) ≤
          toLex (right.1.height, right.2.position.getD 0)) := by
    rw [flatMap_def, pairwise_flatten]
    constructor
    · intro rows listed
      obtain ⟨entry, member, rfl⟩ := mem_map.mp listed
      rw [pairwise_map]
      refine (represents.placed entry (mem_of_mem_filter member)).ordered.imp ?_
      intro left right below
      exact Prod.Lex.toLex_le_toLex.mpr (Or.inr ⟨rfl, below⟩)
    · rw [pairwise_map]
      refine (represents.ascending.filter _).imp ?_
      intro left right below first firstListed second secondListed
      obtain ⟨_, _, rfl⟩ := mem_map.mp firstListed
      obtain ⟨_, _, rfl⟩ := mem_map.mp secondListed
      exact Prod.Lex.toLex_le_toLex.mpr (Or.inl below)
  rw [listSealedTransactions, represents.transactions, filterMap_append, pendingOut,
    append_nil, joined]
  rw [ChainLog.finalized] at sorted ⊢
  rw [sorted.insertionSort_eq, map_flatMap]
  rw [ChainLog.rowsOf]
  congr 1
  funext entry
  rw [map_map]
  exact map_id _

end Reading

section Placing

variable (blockId : Uuid)

def placeRow (places : List (Uuid × Nat)) (row : TransactionRow) : TransactionRow :=
  places.foldl (fun row place =>
    if row.id = place.1 then { row with blockId := some blockId, position := some place.2 }
    else row) row

theorem placeTransactions_eq_map (ids : List Uuid) (rows : List TransactionRow) :
    placeTransactions blockId ids rows = rows.map (placeRow blockId ids.zipIdx) := by
  rw [placeTransactions]
  generalize ids.zipIdx = places
  induction places generalizing rows with
  | nil => exact (map_id rows).symm
  | cons place rest ih =>
    rw [foldl_cons, ih, map_map]
    rfl

theorem placeRow_frame (places : List (Uuid × Nat)) (row : TransactionRow) :
    ∃ block position,
      placeRow blockId places row = { row with blockId := block, position := position } := by
  induction places generalizing row with
  | nil => exact ⟨row.blockId, row.position, rfl⟩
  | cons place rest ih =>
    rw [placeRow, foldl_cons]
    split_ifs
    · exact ih _
    · exact ih _

theorem placeRow_id (places : List (Uuid × Nat)) (row : TransactionRow) :
    (placeRow blockId places row).id = row.id := by
  obtain ⟨block, position, same⟩ := placeRow_frame blockId places row
  rw [same]

theorem placeRow_chainId (places : List (Uuid × Nat)) (row : TransactionRow) :
    (placeRow blockId places row).chainId = row.chainId := by
  obtain ⟨block, position, same⟩ := placeRow_frame blockId places row
  rw [same]

theorem placeRow_of_not_mem {places : List (Uuid × Nat)} {row : TransactionRow}
    (missing : row.id ∉ places.map Prod.fst) : placeRow blockId places row = row := by
  induction places with
  | nil => rfl
  | cons place rest ih =>
    rw [map_cons, mem_cons, not_or] at missing
    rw [placeRow, foldl_cons, if_neg missing.1]
    exact ih missing.2

theorem placeRow_of_mem {places : List (Uuid × Nat)} {row : TransactionRow} {position : Nat}
    (distinct : (places.map Prod.fst).Nodup) (member : (row.id, position) ∈ places) :
    placeRow blockId places row =
      { row with blockId := some blockId, position := some position } := by
  induction places with
  | nil => exact absurd member (by simp)
  | cons place rest ih =>
    rw [map_cons, nodup_cons] at distinct
    rw [placeRow, foldl_cons]
    rcases mem_cons.mp member with here | later
    · rw [← here, if_pos rfl]
      -- the placed row keeps its identifier, which occurs no more
      apply placeRow_of_not_mem
      rw [← here] at distinct
      exact distinct.1
    · have different : row.id ≠ place.1 := by
        intro same
        exact distinct.1 (mem_map.mpr ⟨_, later, same⟩)
      rw [if_neg different]
      exact ih distinct.2 later

theorem map_placeRow_self {rows : List TransactionRow}
    (distinct : (rows.map TransactionRow.id).Nodup) :
    rows.map (placeRow blockId (rows.map TransactionRow.id).zipIdx) = placeRows blockId rows := by
  rw [← map_zipIdx_fst (placeRow blockId (rows.map TransactionRow.id).zipIdx) rows, placeRows]
  apply map_congr_left
  rintro ⟨row, position⟩ member
  apply placeRow_of_mem
  · rw [zipIdx_map_fst]
    exact distinct
  · rw [zipIdx_map]
    exact mem_map.mpr ⟨(row, position), member, rfl⟩

theorem map_placeRow_other {rows : List TransactionRow} {ids : List Uuid}
    (missing : ∀ row, row ∈ rows -> row.id ∉ ids) :
    rows.map (placeRow blockId ids.zipIdx) = rows := by
  have unchanged : rows.map (placeRow blockId ids.zipIdx) = rows.map id := by
    apply map_congr_left
    intro row member
    apply placeRow_of_not_mem
    rw [zipIdx_map_fst]
    exact missing row member
  rw [unchanged, map_id]

theorem placeRows_map_rowToTx (P : Platform F) (rows : List TransactionRow) :
    (placeRows blockId rows).map (rowToTx P) = rows.map (rowToTx P) := by
  rw [placeRows, map_map]
  exact map_zipIdx_fst (rowToTx P) rows

theorem placeRows_placed (block : BlockRow) (rows : List TransactionRow) :
    LogEntry.Placed ⟨block, placeRows block.id rows⟩ where
  inBlock := by
    intro row member
    obtain ⟨entry, _, rfl⟩ := mem_map.mp member
    rfl
  ordered := by
    have numbered : (rows.zipIdx.map Prod.snd).Pairwise (fun left right => left ≤ right) := by
      rw [zipIdx_map_snd]
      exact pairwise_le_range'
    rw [pairwise_map] at numbered
    rw [placeRows, pairwise_map]
    exact numbered

end Placing

section Writing

variable {db : Database F} {chainId other : String} {log : ChainLog F}

theorem filter_replaced (entries : List (BalanceEntry F)) :
    (db.balances.filter (fun row => row.chainId ≠ chainId) ++ balanceRows chainId entries).filter
        (fun row => row.chainId = chainId) = balanceRows chainId entries := by
  rw [filter_append, filter_filter]
  have gone : db.balances.filter (fun row => decide (row.chainId = chainId) &&
      decide (row.chainId ≠ chainId)) = [] := by
    rw [filter_eq_nil_iff]
    intro row _ both
    simp at both
  have kept : (balanceRows chainId entries).filter (fun row => row.chainId = chainId) =
      balanceRows chainId entries := by
    rw [filter_eq_self]
    intro row member
    obtain ⟨entry, _, rfl⟩ := mem_map.mp member
    exact decide_eq_true rfl
  rw [gone, kept, nil_append]

theorem filter_replaced_other (different : other ≠ chainId) (entries : List (BalanceEntry F)) :
    (db.balances.filter (fun row => row.chainId ≠ chainId) ++ balanceRows chainId entries).filter
        (fun row => row.chainId = other) = db.balances.filter (fun row => row.chainId = other) := by
  rw [filter_append, filter_filter]
  have gone : (balanceRows chainId entries).filter (fun row => row.chainId = other) = [] := by
    rw [filter_eq_nil_iff]
    intro row member here
    obtain ⟨entry, _, rfl⟩ := mem_map.mp member
    exact different (of_decide_eq_true here).symm
  rw [gone, append_nil]
  apply filter_congr
  intro row _
  by_cases here : row.chainId = other
  · have away : row.chainId ≠ chainId := fun same => different (here.symm.trans same)
    simp [here, different]
  · simp [here]

theorem Represents.of_sameLedger {later : Database F} (same : SameLedger db later)
    (represents : Represents db chainId log) : Represents later chainId log where
  blocks := by
    rw [chainBlocks_eq, same.blocks, ← chainBlocks_eq]
    exact represents.blocks
  transactions := by
    rw [same.transactions]
    exact represents.transactions
  balances := by
    rw [same.balances]
    exact represents.balances
  placed := represents.placed
  unplaced := represents.unplaced
  heights := represents.heights

theorem Keyed.of_sameLedger {later : Database F} (same : SameLedger db later) (keyed : Keyed db) :
    Keyed later where
  blocks := by
    rw [same.blocks]
    exact keyed.blocks
  transactions := by
    rw [same.transactions]
    exact keyed.transactions
  references := by
    rw [same.blocks, same.transactions]
    exact keyed.references

theorem Represents.submit (represents : Represents db chainId log) {row : TransactionRow}
    (onChain : row.chainId = chainId) (unplaced : row.blockId = none) :
    Represents { db with transactions := db.transactions ++ [row] } chainId (log.submit row) where
  blocks := represents.blocks
  transactions := by
    have here : [row].filter (fun row => row.chainId = chainId) = [row] := by
      exact filter_cons_of_pos (decide_eq_true onChain)
    rw [filter_append, represents.transactions, here, append_assoc]
    rfl
  balances := represents.balances
  placed := represents.placed
  unplaced := by
    intro other member
    rcases mem_append.mp member with old | new
    · exact represents.unplaced other old
    · rw [mem_singleton.mp new]
      exact unplaced
  heights := represents.heights

theorem Represents.submit_other (represents : Represents db other log) {row : TransactionRow}
    (different : row.chainId ≠ other) :
    Represents { db with transactions := db.transactions ++ [row] } other log where
  blocks := represents.blocks
  transactions := by
    have away : [row].filter (fun row => row.chainId = other) = [] := by
      exact filter_cons_of_neg (fun here => different (of_decide_eq_true here))
    rw [filter_append, represents.transactions, away, append_nil]
  balances := represents.balances
  placed := represents.placed
  unplaced := represents.unplaced
  heights := represents.heights

theorem Keyed.submit (keyed : Keyed db) {row : TransactionRow} (unplaced : row.blockId = none)
    (fresh : ∀ other, other ∈ db.transactions -> other.id ≠ row.id) :
    Keyed { db with transactions := db.transactions ++ [row] } where
  blocks := keyed.blocks
  transactions := nodup_keys_append_singleton keyed.transactions fresh
  references := by
    intro other member id placed
    rcases mem_append.mp member with old | new
    · exact keyed.references other old id placed
    · rw [mem_singleton.mp new, unplaced] at placed
      cases placed

section Seal

variable {block : BlockRow} {balances : Option (List (BalanceEntry F))}

theorem filter_placeTransactions (blockId : Uuid) (ids : List Uuid) (rows : List TransactionRow)
    (chainId : String) :
    (placeTransactions blockId ids rows).filter (fun row => row.chainId = chainId) =
      (rows.filter (fun row => row.chainId = chainId)).map (placeRow blockId ids.zipIdx) := by
  rw [placeTransactions_eq_map, filter_map]
  congr 1
  apply filter_congr
  intro row _
  rw [Function.comp_apply, placeRow_chainId]

theorem Represents.distinct_transactions (keyed : Keyed db) (represents : Represents db chainId log) :
    ((ChainLog.rowsOf log.entries ++ log.pending).map TransactionRow.id).Nodup := by
  rw [← represents.transactions]
  exact keyed.transactions.sublist (filter_sublist.map _)

theorem Represents.extend (keyed : Keyed db) (represents : Represents db chainId log)
    (onChain : block.chainId = chainId) (next : block.height = (log.entries.length : Int)) :
    Represents (storeBlock block (log.pending.map TransactionRow.id) balances db) chainId
      (log.extend block balances) where
  blocks := by
    have here : [block].filter (fun row => row.chainId = chainId) = [block] := by
      exact filter_cons_of_pos (decide_eq_true onChain)
    rw [chainBlocks_eq, storeBlock, filter_append, here, ← chainBlocks_eq, represents.blocks,
      ChainLog.extend, map_append]
    rfl
  transactions := by
    have distinct := represents.distinct_transactions keyed
    rw [map_append, nodup_append] at distinct
    obtain ⟨_, pendingDistinct, apart⟩ := distinct
    have kept : (ChainLog.rowsOf log.entries).map
        (placeRow block.id (log.pending.map TransactionRow.id).zipIdx) =
          ChainLog.rowsOf log.entries := by
      apply map_placeRow_other
      intro row member listed
      exact apart _ (mem_map_of_mem member) _ listed rfl
    rw [storeBlock, filter_placeTransactions, represents.transactions, map_append, kept,
      map_placeRow_self block.id pendingDistinct]
    simp only [ChainLog.extend, ChainLog.rowsOf, flatMap_append, flatMap_cons,
      flatMap_nil, append_nil]
  balances := by
    cases balances with
    | none => exact represents.balances
    | some entries =>
      change (db.balances.filter (fun row => row.chainId ≠ block.chainId) ++
        balanceRows block.chainId entries).filter (fun row => row.chainId = chainId) = _
      rw [onChain, filter_replaced, ← onChain]
      rfl
  placed := by
    intro entry member
    rcases mem_append.mp member with old | new
    · exact represents.placed entry old
    · rw [mem_singleton.mp new]
      exact placeRows_placed block log.pending
  unplaced := by
    intro row member
    cases member
  heights := throughout_append_singleton.mpr ⟨represents.heights, next⟩

theorem Represents.extend_other {ids : List Uuid} (represents : Represents db other log)
    (different : block.chainId ≠ other)
    (listed : ∀ row, row ∈ db.transactions -> row.id ∈ ids -> row.chainId ≠ other) :
    Represents (storeBlock block ids balances db) other log where
  blocks := by
    have away : [block].filter (fun row => row.chainId = other) = [] := by
      exact filter_cons_of_neg (fun here => different (of_decide_eq_true here))
    rw [chainBlocks_eq, storeBlock, filter_append, away, ← chainBlocks_eq, append_nil]
    exact represents.blocks
  transactions := by
    rw [storeBlock, filter_placeTransactions, map_placeRow_other]
    · exact represents.transactions
    · intro row member inside
      rw [mem_filter, decide_eq_true_eq] at member
      exact listed row member.1 inside member.2
  balances := by
    cases balances with
    | none => exact represents.balances
    | some entries =>
      exact (filter_replaced_other (Ne.symm different) entries).trans represents.balances
  placed := represents.placed
  unplaced := represents.unplaced
  heights := represents.heights

theorem Keyed.extend {ids : List Uuid} (keyed : Keyed db)
    (fresh : ∀ other, other ∈ db.blocks -> other.id ≠ block.id)
    (listed : ∀ row, row ∈ db.transactions -> row.id ∈ ids -> row.chainId = block.chainId)
    (distinct : ids.Nodup) : Keyed (storeBlock block ids balances db) where
  blocks := nodup_keys_append_singleton keyed.blocks fresh
  transactions := by
    have same : (placeTransactions block.id ids db.transactions).map TransactionRow.id =
        db.transactions.map TransactionRow.id := by
      rw [placeTransactions_eq_map, map_map]
      apply map_congr_left
      intro row _
      exact placeRow_id block.id ids.zipIdx row
    rw [storeBlock, same]
    exact keyed.transactions
  references := by
    intro row member id placed
    rw [storeBlock, placeTransactions_eq_map] at member
    obtain ⟨old, stored, rfl⟩ := mem_map.mp member
    rw [placeRow_chainId]
    by_cases inside : old.id ∈ ids
    · obtain ⟨position, found⟩ := getElem?_of_mem inside
      have placedAt := placeRow_of_mem block.id
        (by rw [zipIdx_map_fst]; exact distinct)
        (mk_mem_zipIdx_iff_getElem?.mpr found)
      rw [placedAt, Option.some.injEq] at placed
      exact ⟨block, mem_append_right _ (mem_singleton.mpr rfl), placed,
        (listed old stored inside).symm⟩
    · have unchanged : placeRow block.id ids.zipIdx old = old := by
        apply placeRow_of_not_mem
        rw [zipIdx_map_fst]
        exact inside
      rw [unchanged] at placed
      obtain ⟨found, foundStored, same, chain⟩ := keyed.references old stored id placed
      exact ⟨found, mem_append_left _ foundStored, same, chain⟩

theorem Represents.pending_ids (keyed : Keyed db) (represents : Represents db chainId log)
    {row : TransactionRow} (stored : row ∈ db.transactions)
    (listed : row.id ∈ log.pending.map TransactionRow.id) : row.chainId = chainId := by
  obtain ⟨pending, member, same⟩ := mem_map.mp listed
  obtain ⟨pendingStored, onChain⟩ := represents.mem_transactions (mem_append_right _ member)
  rw [← inj_on_of_nodup_map keyed.transactions pendingStored stored same]
  exact onChain

end Seal

section Approve

variable {id : Uuid} {block : ComputeBlock} {balances : Option (List (BalanceEntry F))}
  {service : LedgerService}

theorem filter_updated (approvals : List ValidatorApproval) (finalized : Bool) (id : Uuid)
    (rows : List BlockRow) (chainId : String) :
    (rows.map (fun row => if row.id = id then
        { row with approvals := approvals, finalized := finalized } else row)).filter
        (fun row => row.chainId = chainId) =
      (rows.filter (fun row => row.chainId = chainId)).map (fun row =>
        if row.id = id then { row with approvals := approvals, finalized := finalized } else row) := by
  rw [filter_map]
  congr 1
  apply filter_congr
  intro row _
  rw [Function.comp_apply]
  split_ifs <;> rfl

theorem rowsOf_map_approveEntry (approvals : List ValidatorApproval) (finalized : Bool) (id : Uuid)
    (entries : List LogEntry) :
    ChainLog.rowsOf (entries.map (ChainLog.approveEntry id approvals finalized)) =
      ChainLog.rowsOf entries := by
  rw [ChainLog.rowsOf, ChainLog.rowsOf, flatMap_map]
  apply flatMap_congr
  intro entry _
  simp only [ChainLog.approveEntry]
  split_ifs <;> rfl

theorem Represents.approve (represents : Represents db service.chainId log) :
    Represents (storeApproval service id block balances db) service.chainId
      (log.approve service.chainId id block.approvals block.finalized balances) where
  blocks := by
    rw [chainBlocks_eq, storeApproval, updateBlockApprovals, filter_updated, ← chainBlocks_eq,
      represents.blocks, ChainLog.approve, map_map, map_map]
    apply map_congr_left
    intro entry _
    simp only [Function.comp_apply, ChainLog.approveEntry]
    split_ifs <;> rfl
  transactions := by
    change db.transactions.filter (fun row => row.chainId = service.chainId) =
      ChainLog.rowsOf (log.entries.map _) ++ log.pending
    rw [rowsOf_map_approveEntry]
    exact represents.transactions
  balances := by
    cases balances with
    | none => exact represents.balances
    | some entries => exact filter_replaced entries
  placed := by
    intro entry member
    obtain ⟨old, listed, rfl⟩ := mem_map.mp member
    have placed := represents.placed old listed
    rw [ChainLog.approveEntry]
    split_ifs
    · exact ⟨placed.inBlock, placed.ordered⟩
    · exact placed
  unplaced := represents.unplaced
  heights := by
    refine represents.heights.map ?_
    intro front entry height
    rw [length_map, ← height, ChainLog.approveEntry]
    split_ifs <;> rfl

theorem Represents.approve_other (keyed : Keyed db) (represents : Represents db other log)
    {row : BlockRow} (stored : row ∈ db.blocks) (onChain : row.chainId = service.chainId)
    (different : service.chainId ≠ other) :
    Represents (storeApproval service row.id block balances db) other log where
  blocks := by
    rw [chainBlocks_eq, storeApproval, updateBlockApprovals, filter_updated, ← chainBlocks_eq]
    have unchanged : (chainBlocks db other).map (fun each => if each.id = row.id then
        { each with approvals := block.approvals, finalized := block.finalized } else each) =
          chainBlocks db other := by
      conv_rhs => rw [← map_id (chainBlocks db other)]
      apply map_congr_left
      intro each member
      rw [chainBlocks_eq, mem_filter, decide_eq_true_eq] at member
      have apart : each.id ≠ row.id := by
        intro same
        have equal := inj_on_of_nodup_map keyed.blocks member.1 stored same
        exact different (onChain.symm.trans (equal ▸ member.2))
      exact if_neg apart
    rw [unchanged]
    exact represents.blocks
  transactions := represents.transactions
  balances := by
    cases balances with
    | none => exact represents.balances
    | some entries =>
      exact (filter_replaced_other (Ne.symm different) entries).trans represents.balances
  placed := represents.placed
  unplaced := represents.unplaced
  heights := represents.heights

theorem storeApproval_ids :
    (storeApproval service id block balances db).blocks.map BlockRow.id =
      db.blocks.map BlockRow.id := by
  rw [storeApproval, updateBlockApprovals, map_map]
  apply map_congr_left
  intro row _
  rw [Function.comp_apply]
  split_ifs <;> rfl

theorem Keyed.approve (keyed : Keyed db) : Keyed (storeApproval service id block balances db) where
  blocks := by
    rw [storeApproval_ids]
    exact keyed.blocks
  transactions := keyed.transactions
  references := by
    intro row member placed same
    obtain ⟨found, stored, named, chain⟩ := keyed.references row member placed same
    refine ⟨_, mem_map_of_mem stored, ?_⟩
    split_ifs
    · exact ⟨named, chain⟩
    · exact ⟨named, chain⟩

end Approve

theorem Represents.settle (represents : Represents db chainId log) (entries : List (BalanceEntry F)) :
    Represents { db with
      balances := db.balances.filter (fun row => row.chainId ≠ chainId) ++
        balanceRows chainId entries } chainId (log.settle chainId entries) where
  blocks := represents.blocks
  transactions := represents.transactions
  balances := filter_replaced entries
  placed := represents.placed
  unplaced := represents.unplaced
  heights := represents.heights

theorem Represents.settle_other (represents : Represents db other log) (different : other ≠ chainId)
    (entries : List (BalanceEntry F)) :
    Represents { db with
      balances := db.balances.filter (fun row => row.chainId ≠ chainId) ++
        balanceRows chainId entries } other log where
  blocks := represents.blocks
  transactions := represents.transactions
  balances := (filter_replaced_other different entries).trans represents.balances
  placed := represents.placed
  unplaced := represents.unplaced
  heights := represents.heights

end Writing

end Ledger
end ZepGpu
