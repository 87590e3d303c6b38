import ZepGpu.Ledger.ChainLog

namespace ZepGpu
namespace Ledger

open Foundation List

/-!
# The invariant of a chain

A log is sound when every block stands on final blocks, is linked to the one
below it and carries the root of the balances after it, and when the stored
balances are those after the final blocks.  The root of a block that still
awaits approvals is part of the requirement: its balances are stored only
later, by the approval that finalizes it, from a replay that must then give
the state the proposer had computed.

Each operation of the service moves the log of its own chain from a sound log
to a sound log and leaves the logs of the other chains as they are.
-/

variable {F : Type} [Arithmetic F]

section Invariant

variable (P : Platform F)

/-! ## Sound logs -/

def replayEntries (entries : List LogEntry) : Except PyError (CreditState F) :=
  replayTransactions P ((ChainLog.rowsOf entries).map (rowToTx P))

/-- What holds of a block in terms of the blocks below it. -/
structure EntrySound (front : List LogEntry) (entry : LogEntry) : Prop where
  previous : entry.block.previousHash =
    front.getLast?.elim zeroHash (fun below => below.block.hash)
  settled : ∀ below, below ∈ front -> below.block.finalized = true
  root : ∃ state, replayEntries P (front ++ [entry]) = .ok state ∧
    entry.block.stateRoot = state.stateRoot P

/-- Every block is sound, and the balances are those of the final blocks. -/
structure ChainLog.Sound (chainId : String) (log : ChainLog F) : Prop where
  entries : Throughout (EntrySound P) log.entries
  balances : ∃ state, replayEntries P log.finalized = .ok state ∧
    log.balances = balanceRows chainId state.toList

theorem replayEntries_append_singleton {front : List LogEntry} {entry : LogEntry} :
    replayEntries P (front ++ [entry]) =
      replayTransactions P ((ChainLog.rowsOf front).map (rowToTx P) ++
        entry.rows.map (rowToTx P)) := by
  rw [replayEntries, ChainLog.rowsOf, flatMap_append, map_append, flatMap_cons,
    flatMap_nil, append_nil]
  rfl

section Logs

variable {P} {chainId : String} {log : ChainLog F}

theorem ChainLog.Sound.empty : ({} : ChainLog F).Sound P chainId where
  entries := throughout_nil
  balances := ⟨{}, rfl, rfl⟩

theorem ChainLog.Sound.submit (sound : log.Sound P chainId) (row : TransactionRow) :
    (log.submit row).Sound P chainId :=
  ⟨sound.entries, sound.balances⟩

theorem ChainLog.finalized_eq_self
    (settled : ∀ entry, entry ∈ log.entries -> entry.block.finalized = true) :
    log.finalized = log.entries := by
  rw [ChainLog.finalized, filter_eq_self]
  exact settled

/-- The balances that a block of state `state` settles. -/
def settledBalances (finalized : Bool) (state : CreditState F) : Option (List (BalanceEntry F)) :=
  if finalized then some state.toList else none

theorem ChainLog.Sound.extend (sound : log.Sound P chainId) {block : BlockRow} {state : CreditState F}
    (onChain : block.chainId = chainId)
    (settled : ∀ entry, entry ∈ log.entries -> entry.block.finalized = true)
    (previous : block.previousHash =
      log.entries.getLast?.elim zeroHash (fun below => below.block.hash))
    (replayed : replayTransactions P ((ChainLog.rowsOf log.entries).map (rowToTx P) ++
      log.pending.map (rowToTx P)) = .ok state)
    (root : block.stateRoot = state.stateRoot P) :
    (log.extend block (settledBalances block.finalized state)).Sound P chainId := by
  have whole : replayEntries P (log.entries ++ [⟨block, placeRows block.id log.pending⟩]) =
      .ok state := by
    rw [replayEntries_append_singleton, placeRows_map_rowToTx]
    exact replayed
  refine ⟨throughout_append_singleton.mpr ⟨sound.entries, previous, settled, state, whole, root⟩, ?_⟩
  by_cases final : block.finalized = true
  · refine ⟨state, ?_, ?_⟩
    · rw [ChainLog.finalized_eq_self]
      · exact whole
      · intro entry member
        rcases mem_append.mp member with old | new
        · exact settled entry old
        · rw [mem_singleton.mp new]
          exact final
    · rw [settledBalances, if_pos final, ChainLog.extend, onChain]
      rfl
  · obtain ⟨before, beforeReplay, balances⟩ := sound.balances
    refine ⟨before, ?_, ?_⟩
    · have same : (log.extend block (settledBalances block.finalized state)).finalized =
          log.finalized := by
        rw [ChainLog.finalized, ChainLog.extend, filter_append]
        have dropped : [(⟨block, placeRows block.id log.pending⟩ : LogEntry)].filter
            (fun entry => entry.block.finalized) = [] := by
          rw [filter_cons, if_neg final]
          rfl
        rw [dropped, append_nil]
        rfl
      rw [same]
      exact beforeReplay
    · rw [settledBalances, if_neg final]
      exact balances

theorem ChainLog.Sound.settle (sound : log.Sound P chainId) {state : CreditState F}
    (replayed : replayEntries P log.finalized = .ok state) :
    (log.settle chainId state.toList).Sound P chainId :=
  ⟨sound.entries, state, replayed, rfl⟩

/-! ## Approving the last block -/

theorem ChainLog.Sound.last_of_awaiting (sound : log.Sound P chainId) {entry : LogEntry}
    (member : entry ∈ log.entries) (awaiting : entry.block.finalized = false) :
    ∃ front, log.entries = front ++ [entry] ∧
      ∀ below, below ∈ front -> below.block.finalized = true := by
  obtain ⟨front, back, same⟩ := append_of_mem member
  rcases eq_nil_or_concat back with rfl | ⟨inner, last, rfl⟩
  · exact ⟨front, same, (sound.entries front entry [] same).settled⟩
  · have above : log.entries = (front ++ entry :: inner) ++ last :: [] := by
      rw [same, concat_eq_append, append_assoc, cons_append]
    have final := (sound.entries _ last [] above).settled entry
      (mem_append_right _ mem_cons_self)
    rw [awaiting] at final
    cases final

theorem ChainLog.Sound.approve (sound : log.Sound P chainId) {front : List LogEntry}
    {entry : LogEntry} {approvals : List ValidatorApproval} {finalized : Bool}
    {balances : Option (List (BalanceEntry F))} (split : log.entries = front ++ [entry])
    (distinct : (log.entries.map (fun entry => entry.block.id)).Nodup)
    (awaiting : entry.block.finalized = false)
    (replayed : finalized = true -> ∃ state,
      replayTransactions P ((ChainLog.rowsOf log.finalized).map (rowToTx P) ++
        entry.rows.map (rowToTx P)) = .ok state ∧ balances = some state.toList)
    (unsettled : finalized = false -> balances = none) :
    (log.approve chainId entry.block.id approvals finalized balances).Sound P chainId := by
  obtain ⟨below, last⟩ := throughout_append_singleton.mp (split ▸ sound.entries)
  have frontFinal : log.finalized = front := by
    rw [ChainLog.finalized, split, filter_append, filter_cons, awaiting]
    change _ ++ [] = _
    rw [append_nil, filter_eq_self]
    exact last.settled
  have changed : (log.approve chainId entry.block.id approvals finalized balances).entries =
      front ++ [ChainLog.approveEntry entry.block.id approvals finalized entry] := by
    have untouched : front.map (ChainLog.approveEntry entry.block.id approvals finalized) =
        front := by
      conv_rhs => rw [← map_id front]
      apply map_congr_left
      intro other member
      rw [split, map_append, nodup_append] at distinct
      exact if_neg (fun same => distinct.2.2 _ (mem_map_of_mem member) _
        (mem_map_of_mem (mem_singleton.mpr rfl)) same)
    rw [ChainLog.approve, split, map_append, untouched]
    rfl
  have shape : ChainLog.approveEntry entry.block.id approvals finalized entry =
      { entry with block := { entry.block with approvals := approvals, finalized := finalized } } :=
    if_pos rfl
  constructor
  · rw [changed, shape]
    obtain ⟨state, replay, root⟩ := last.root
    refine throughout_append_singleton.mpr ⟨below, last.previous, last.settled, state, ?_, root⟩
    rw [replayEntries_append_singleton] at replay ⊢
    exact replay
  · cases finalized with
    | true =>
      obtain ⟨state, replay, rfl⟩ := replayed rfl
      refine ⟨state, ?_, rfl⟩
      rw [frontFinal] at replay
      rw [ChainLog.finalized, changed, shape, filter_append, filter_cons, if_pos rfl,
        filter_eq_self.mpr last.settled]
      exact (replayEntries_append_singleton P).trans replay
    | false =>
      obtain ⟨state, replay, stored⟩ := sound.balances
      refine ⟨state, ?_, ?_⟩
      · rw [frontFinal] at replay
        rw [ChainLog.finalized, changed, shape, filter_append, filter_cons, if_neg
          Bool.false_ne_true, filter_eq_self.mpr last.settled]
        change replayEntries P (front ++ []) = _
        rw [append_nil]
        exact replay
      · rw [unsettled rfl]
        exact stored

end Logs

/-! ## The stored chains -/

/-- The tables hold a sound log for a chain.  A chain without blocks has no
transactions either. -/
structure ChainHolds (db : Database F) (chainId : String) (log : ChainLog F) : Prop where
  represents : Represents db chainId log
  sound : log.Sound P chainId
  started : log.entries = [] -> log.pending = []

/-- The log of one chain moves on, the logs of the others stay. -/
structure Moves (db later : Database F) (chainId : String) (next : ChainLog F) : Prop where
  keyed : Keyed later
  holds : ChainHolds P later chainId next
  frame : ∀ other log, other ≠ chainId -> Represents db other log ->
    Represents later other log

/-- All chains hold a sound log. -/
structure LedgerHolds (db : Database F) : Prop where
  keyed : Keyed db
  chains : ∀ chainId, ∃ log, ChainHolds P db chainId log

theorem chainHolds_empty (chainId : String) : ChainHolds P {} chainId {} where
  represents := {
    blocks := rfl
    transactions := rfl
    balances := rfl
    placed := fun _ member => absurd member not_mem_nil
    unplaced := fun _ member => absurd member not_mem_nil
    heights := throughout_nil }
  sound := ChainLog.Sound.empty
  started := fun _ => rfl

theorem ledgerHolds_empty : LedgerHolds P {} where
  keyed := ⟨nodup_nil, nodup_nil, fun _ member => absurd member not_mem_nil⟩
  chains := fun chainId => ⟨{}, chainHolds_empty P chainId⟩

def genesisLog (service : LedgerService) (log : ChainLog F) (stamps : GenesisStamps) : ChainLog F :=
  (log.submit (genesisRow P service stamps.transaction)).extend
    ((genesisHead P service stamps).row P service)
    (settledBalances ((genesisHead P service stamps).row P service).finalized
      (genesisState P service stamps.transaction))

section Operations

variable {P} {service : LedgerService} {db later : Database F} {log : ChainLog F}

variable {chainId : String}

theorem Moves.trans {middle : Database F} {chainId : String} {between next : ChainLog F}
    (first : Moves P db middle chainId between) (second : Moves P middle later chainId next) :
    Moves P db later chainId next where
  keyed := second.keyed
  holds := second.holds
  frame := fun other log different represents =>
    second.frame other log different (first.frame other log different represents)

theorem Moves.of_sameLedger (same : SameLedger db later) (keyed : Keyed db)
    (holds : ChainHolds P db chainId log) : Moves P db later chainId log where
  keyed := keyed.of_sameLedger same
  holds := ⟨holds.represents.of_sameLedger same, holds.sound, holds.started⟩
  frame := fun _ _ _ represents => represents.of_sameLedger same

theorem Represents.settled_of_clear (represents : Represents db chainId log)
    (clear : getUnfinalizedTip db chainId = none) :
    ∀ entry, entry ∈ log.entries -> entry.block.finalized = true := by
  rw [represents.getUnfinalizedTip_eq, Option.map_eq_none_iff, getLast?_eq_none_iff,
    filter_eq_nil_iff] at clear
  intro entry member
  have kept := clear entry member
  rw [Bool.not_eq_true, Bool.not_eq_false'] at kept
  exact kept

theorem Represents.tip_of_clear (represents : Represents db chainId log)
    (clear : getUnfinalizedTip db chainId = none) {tip : BlockRow}
    (found : getTip db chainId = some tip) :
    ∃ front last, log.entries = front ++ [last] ∧ last.block = tip ∧
      tip.height = (front.length : Int) := by
  rw [represents.getTip_finalized, ChainLog.finalized_eq_self (represents.settled_of_clear clear),
    Option.map_eq_some_iff] at found
  obtain ⟨last, isLast, rfl⟩ := found
  obtain ⟨front, split⟩ := getLast?_eq_some_iff.mp isLast
  exact ⟨front, last, split, rfl, represents.heights front last [] split⟩

theorem Head.blockBalances_eq (head : Head F) :
    blockBalances (head.block P service) head.state =
      settledBalances (head.row P service).finalized head.state :=
  rfl

theorem Seals.moves {stamp : Stamp} {head : Head F} {validators : List String} {base : Database F}
    (seals : Seals P service stamp db head validators base) (keyed : Keyed db)
    (holds : ChainHolds P db service.chainId log) :
    head.transactions = log.pending ∧
      Moves P db (head.store P service base) service.chainId
        (log.extend (head.row P service)
          (settledBalances (head.row P service).finalized head.state)) := by
  have represents := holds.represents
  obtain ⟨tip, found, height, previous⟩ := seals.onTip
  have settled := represents.settled_of_clear seals.clear
  obtain ⟨front, last, split, lastTip, tipHeight⟩ := represents.tip_of_clear seals.clear found
  have pending : head.transactions = log.pending :=
    seals.pending.trans represents.listPendingTransactions_eq
  have keyedBase := keyed.of_sameLedger seals.same
  have representsBase := represents.of_sameLedger seals.same
  have next : (head.row P service).height = (log.entries.length : Int) := by
    rw [Head.row_height, height, tipHeight, split, length_append, length_singleton]
    push_cast
    rfl
  have replayed := seals.replayed
  rw [represents.listSealedTransactions_eq keyed, ChainLog.finalized_eq_self settled,
    pending] at replayed
  have distinct : (log.pending.map TransactionRow.id).Nodup := by
    have all := represents.distinct_transactions keyed
    rw [map_append] at all
    exact (nodup_append.mp all).2.1
  have listed : ∀ row, row ∈ base.transactions ->
      row.id ∈ log.pending.map TransactionRow.id -> row.chainId = service.chainId :=
    fun row stored inside => representsBase.pending_ids keyedBase stored inside
  refine ⟨pending, ?_⟩
  rw [Head.store, pending, Head.blockBalances_eq]
  exact {
    keyed := keyedBase.extend seals.accepted.fits.freshId listed distinct
    holds := {
      represents := representsBase.extend keyedBase rfl next
      sound := by
        refine holds.sound.extend rfl settled ?_ replayed Head.row_stateRoot
        rw [Head.row_previousHash, previous, split, getLast?_concat, ← lastTip]
        rfl
      started := fun _ => rfl }
    frame := by
      intro other otherLog different otherRepresents
      refine (otherRepresents.of_sameLedger seals.same).extend_other (Ne.symm different) ?_
      intro row stored inside here
      exact different (here.symm.trans (listed row stored inside)) }

theorem Represents.empty_of_noTip (represents : Represents db chainId log)
    (empty : getTip db chainId false = none) : log.entries = [] := by
  rw [represents.getTip_all, Option.map_eq_none_iff, getLast?_eq_none_iff] at empty
  exact empty

theorem Initializes.moves {stamps : GenesisStamps} {validators : List String} {base stored : Database F}
    (initializes : Initializes P service stamps db validators base stored) (keyed : Keyed db)
    (holds : ChainHolds P db service.chainId log)
    (fresh : ∀ row, row ∈ db.transactions -> row.id ≠ stamps.transaction.id) :
    Moves P db ((genesisHead P service stamps).store P service stored) service.chainId
      (genesisLog P service log stamps) := by
  have noEntries := holds.represents.empty_of_noTip initializes.empty
  have noPending := holds.started noEntries
  have freshBase : ∀ row, row ∈ base.transactions -> row.id ≠ stamps.transaction.id := by
    rw [initializes.same.transactions]
    exact fresh
  have written : stored = { base with
      transactions := base.transactions ++ [genesisRow P service stamps.transaction] } := by
    rcases initializes.transaction with ⟨_, row, member, same⟩ | ⟨_, written⟩
    · exact absurd same (freshBase row member)
    · exact written
  have representsBase := holds.represents.of_sameLedger initializes.same
  have keyedBase := keyed.of_sameLedger initializes.same
  have representsStored : Represents stored service.chainId
      (log.submit (genesisRow P service stamps.transaction)) := by
    rw [written]
    exact representsBase.submit rfl rfl
  have keyedStored : Keyed stored := by
    rw [written]
    exact keyedBase.submit rfl freshBase
  have pending : (log.submit (genesisRow P service stamps.transaction)).pending =
      [genesisRow P service stamps.transaction] := by
    rw [ChainLog.submit, noPending]
    rfl
  have listed : ∀ row, row ∈ stored.transactions ->
      row.id ∈ (log.submit (genesisRow P service stamps.transaction)).pending.map
        TransactionRow.id -> row.chainId = service.chainId :=
    fun row inside => representsStored.pending_ids keyedStored inside
  have next : ((genesisHead P service stamps).row P service).height =
      ((log.submit (genesisRow P service stamps.transaction)).entries.length : Int) := by
    rw [Head.row_height]
    change (0 : Int) = (log.entries.length : Int)
    rw [noEntries]
    rfl
  have entries : (log.submit (genesisRow P service stamps.transaction)).entries = [] := noEntries
  have ids : (genesisHead P service stamps).transactions =
      (log.submit (genesisRow P service stamps.transaction)).pending := pending.symm
  rw [Head.store, ids, Head.blockBalances_eq]
  exact {
    keyed := by
      refine keyedStored.extend initializes.accepted.fits.freshId listed ?_
      rw [pending]
      exact nodup_singleton _
    holds := {
      represents := representsStored.extend keyedStored rfl next
      sound := by
        refine (holds.sound.submit _).extend rfl ?_ ?_ ?_ Head.row_stateRoot
        · rw [entries]
          intro entry member
          cases member
        · rw [Head.row_previousHash, entries]
          rfl
        · rw [entries, pending]
          rfl
      started := fun _ => rfl }
    frame := by
      intro other otherLog different otherRepresents
      have otherStored : Represents stored other otherLog := by
        rw [written]
        exact (otherRepresents.of_sameLedger initializes.same).submit_other (Ne.symm different)
      refine otherStored.extend_other (Ne.symm different) ?_
      intro row inside member here
      exact different (here.symm.trans (listed row inside member)) }

theorem Submits.moves {tx : ComputeTransaction} {requireSignature : Bool} {row : TransactionRow}
    (submits : Submits P service tx requireSignature db row) (keyed : Keyed db)
    (holds : ChainHolds P db service.chainId log) (begun : log.entries ≠ []) :
    Moves P db { db with transactions := db.transactions ++ [row] } service.chainId
      (log.submit row) := by
  obtain ⟨time, id, _, _, shape⟩ := transactionRow_eq_ok_iff.mp submits.converted
  have onChain : row.chainId = service.chainId := by rw [shape]
  have unplaced : row.blockId = none := by rw [shape]
  exact {
    keyed := keyed.submit unplaced submits.freshId
    holds := {
      represents := holds.represents.submit onChain unplaced
      sound := holds.sound.submit row
      started := fun none => absurd none begun }
    frame := by
      intro other otherLog different otherRepresents
      refine otherRepresents.submit_other ?_
      rw [onChain]
      exact Ne.symm different }

theorem mem_of_getBlockByHash {hash : String} {row : BlockRow}
    (found : getBlockByHash db hash = some row) : row ∈ db.blocks ∧ row.hash = hash := by
  rw [getBlockByHash] at found
  have accepted := find?_some found
  rw [decide_eq_true_eq] at accepted
  exact ⟨mem_of_find?_eq_some found, accepted⟩

theorem Approves.moves {hash key signature : String} {row : BlockRow}
    {balances : Option (List (BalanceEntry F))}
    (approves : Approves P service hash key signature db row balances) (keyed : Keyed db)
    (holds : ChainHolds P db service.chainId log) :
    let block := approvedBlock service (blockToDomain P db row) key signature
    Moves P db (storeApproval service row.id block balances db) service.chainId
      (log.approve service.chainId row.id block.approvals block.finalized balances) := by
  intro block
  have represents := holds.represents
  have stored := (mem_of_getBlockByHash approves.found).1
  obtain ⟨entry, member, rfl⟩ := represents.entry_of_block stored approves.onChain
  obtain ⟨front, split, settled⟩ := holds.sound.last_of_awaiting member approves.awaiting
  exact {
    keyed := keyed.approve
    holds := {
      represents := represents.approve
      sound := by
        refine holds.sound.approve split (represents.distinct_blocks keyed) approves.awaiting ?_ ?_
        · intro final
          have reached : service.quorumThreshold ≤ entry.block.approvals.length + 1 := by
            rw [approvedBlock_finalized] at final
            exact of_decide_eq_true final
          obtain ⟨state, replayed, same⟩ := approves.replayed reached
          rw [represents.listSealedTransactions_eq keyed,
            represents.blockTransactions_eq keyed member] at replayed
          exact ⟨state, replayed, same⟩
        · intro short
          apply approves.unsettled
          rw [approvedBlock_finalized] at short
          exact of_decide_eq_false short
      started := by
        intro none
        rw [ChainLog.approve, map_eq_nil_iff] at none
        exact holds.started none }
    frame := fun other otherLog different otherRepresents =>
      otherRepresents.approve_other keyed stored approves.onChain (Ne.symm different) }

theorem rebuild_moves {state : CreditState F} (keyed : Keyed db)
    (holds : ChainHolds P db service.chainId log)
    (replayed : replayTransactions P ((listSealedTransactions db service.chainId).map
      (rowToTx P)) = .ok state) :
    Moves P db { db with
      balances := db.balances.filter (fun row => row.chainId ≠ service.chainId) ++
        balanceRows service.chainId state.toList } service.chainId
      (log.settle service.chainId state.toList) where
  keyed := ⟨keyed.blocks, keyed.transactions, keyed.references⟩
  holds := {
    represents := holds.represents.settle state.toList
    sound := by
      apply holds.sound.settle
      rw [replayEntries, ← holds.represents.listSealedTransactions_eq keyed]
      exact replayed
    started := holds.started }
  frame := fun other otherLog different otherRepresents =>
    otherRepresents.settle_other different state.toList

end Operations

end Invariant

end Ledger
end ZepGpu
