import ZepGpu.Ledger.Proposal

namespace ZepGpu
namespace Ledger

open Foundation List

/-!
# What a committed operation does

For every operation of the service, one statement says what it has read and
what it has written when it succeeds.  The invariants of the ledger are
derived from these statements alone.
-/

variable {F : Type} [Arithmetic F]

section Effects

variable (P : Platform F) (service : LedgerService)

/-! ## Storing a block -/

/-- The tables after a block and, when it is final, its balances. -/
def storeBlock (row : BlockRow) (ids : List Uuid) (balances : Option (List (BalanceEntry F)))
    (db : Database F) : Database F :=
  { db with
    blocks := db.blocks ++ [row]
    transactions := placeTransactions row.id ids db.transactions
    balances := balances.elim db.balances (fun entries =>
      db.balances.filter (fun other => other.chainId ≠ row.chainId) ++
        balanceRows row.chainId entries) }

/-- The keys and columns of a new block are free and wide enough. -/
structure BlockFits (row : BlockRow) (networkId : Option String)
    (balances : Option (List (BalanceEntry F))) (db : Database F) : Prop where
  inScope : Scoped P row.chainId networkId
  freshId : ∀ other, other ∈ db.blocks -> other.id ≠ row.id
  freshHash : ∀ other, other ∈ db.blocks -> other.hash ≠ row.hash
  freshHeight : ∀ other, other ∈ db.blocks -> other.chainId = row.chainId ->
    other.height ≠ row.height
  accounts : ∀ entries, balances = some entries ->
    ∀ entry, entry ∈ entries -> entry.account.length ≤ 128

theorem transactionIds_map (rows : List TransactionRow) :
    transactionIds P (rows.map (rowToTx P)) = .ok (rows.map TransactionRow.id) := by
  induction rows with
  | nil => rfl
  | cons row rest ih =>
    rw [map_cons, transactionIds, ih]
    change (P.asUuid (P.strOfUuid row.id) >>= fun id => _) = _
    rw [P.asUuid_strOfUuid]
    rfl

theorem addMissingTransactions_of_stored {rows : List TransactionRow} {db : Database F}
    (stored : ∀ row, row ∈ rows -> row ∈ db.transactions) :
    addMissingTransactions P service (rows.map (rowToTx P)) db = .ok db := by
  induction rows with
  | nil => rfl
  | cons row rest ih =>
    have here : db.transactions.any (fun other => decide (other.id = row.id)) = true :=
      any_eq_true.mpr ⟨row, stored row mem_cons_self, decide_eq_true rfl⟩
    rw [map_cons, addMissingTransactions]
    change (P.asUuid (P.strOfUuid row.id) >>= fun id => _) = _
    rw [P.asUuid_strOfUuid]
    change (if db.transactions.any (fun other => decide (other.id = row.id)) = true then
      addMissingTransactions P service (rest.map (rowToTx P)) db else _) = _
    rw [if_pos here]
    exact ih (fun other member => stored other (mem_cons_of_mem _ member))

def blockBalances (block : ComputeBlock) (state : CreditState F) : Option (List (BalanceEntry F)) :=
  if block.finalized then some state.toList else none

/-- Storing a block writes the block, the places of its transactions and, on
finality, the balances; it fails only on a key or a column. -/
theorem persistBlock_eq_ok_iff {block : ComputeBlock} {state : CreditState F} {db stored later : Database F}
    {ids : List Uuid} {id : Uuid} {time : Instant}
    (present : addMissingTransactions P service block.transactions db = .ok stored)
    (idsText : transactionIds P block.transactions = .ok ids)
    (idText : block.id = P.strOfUuid id) (timeText : block.timestamp = P.isoformat time) :
    persistBlock P service block (if block.finalized then some state else none) db = .ok later ↔
      BlockFits P (blockRow service block id time) service.networkId (blockBalances block state)
          stored ∧
        later = storeBlock (blockRow service block id time) ids (blockBalances block state) stored := by
  rw [persistBlock, present, idText, timeText, P.asUuid_strOfUuid, P.parseTs_isoformat, idsText]
  change (createBlock P (blockRow service block id time) service.networkId ids stored >>=
    fun db => _) = .ok later ↔ _
  rw [bind_eq_ok]
  by_cases final : block.finalized = true
  · simp only [final, if_true, blockBalances]
    constructor
    · rintro ⟨middle, created, replaced⟩
      obtain ⟨inScope, freshId, freshHash, freshHeight, rfl⟩ := (createBlock_eq_ok_iff P).mp created
      obtain ⟨_, _, accounts, rfl⟩ := (replaceBalances_eq_ok_iff P).mp replaced
      exact ⟨⟨inScope, freshId, freshHash, freshHeight, fun entries same => by
        cases same
        exact accounts⟩, rfl⟩
    · rintro ⟨fits, rfl⟩
      exact ⟨_, (createBlock_eq_ok_iff P).mpr ⟨fits.inScope, fits.freshId, fits.freshHash,
        fits.freshHeight, rfl⟩, (replaceBalances_eq_ok_iff P).mpr ⟨fits.inScope.1,
          fun _ => fits.inScope.2, fits.accounts _ rfl, rfl⟩⟩
  · simp only [final, if_false, blockBalances, Bool.false_eq_true]
    constructor
    · rintro ⟨middle, created, same⟩
      obtain ⟨inScope, freshId, freshHash, freshHeight, rfl⟩ := (createBlock_eq_ok_iff P).mp created
      cases same
      exact ⟨⟨inScope, freshId, freshHash, freshHeight, fun entries impossible => by
        cases impossible⟩, rfl⟩
    · rintro ⟨fits, rfl⟩
      exact ⟨_, (createBlock_eq_ok_iff P).mpr ⟨fits.inScope, fits.freshId, fits.freshHash,
        fits.freshHeight, rfl⟩, rfl⟩

/-! ## Collecting approvals -/

/-- Approvals of distinct known validators with valid signatures. -/
structure Cosigned (hash : String) (validators : List String)
    (approvals : List ValidatorApproval) : Prop where
  known : ∀ approval, approval ∈ approvals -> approval.validator ∈ validators
  distinct : (approvals.map ValidatorApproval.validator).Nodup
  signed : ∀ approval, approval ∈ approvals ->
    P.verifySignature approval.validator hash approval.signature = true

theorem Cosigned.extend {hash : String} {validators more : List String}
    {approvals : List ValidatorApproval} {keys : String × String}
    (cosigned : Cosigned P hash validators approvals) (own : keys.2 = P.publicKeyFromPrivate keys.1)
    (inside : validators ⊆ more) (member : keys.2 ∈ more)
    (fresh : approvals.any (fun approval => decide (approval.validator = keys.2)) ≠ true) :
    Cosigned P hash more (approvals ++ [⟨keys.2, P.signMessage keys.1 hash⟩]) where
  known := by
    intro approval listed
    rcases mem_append.mp listed with old | new
    · exact inside (cosigned.known approval old)
    · rw [mem_singleton.mp new]
      exact member
  distinct := by
    rw [map_append, nodup_append]
    refine ⟨cosigned.distinct, nodup_singleton _, ?_⟩
    intro name old other new same
    rw [map_singleton, mem_singleton] at new
    obtain ⟨approval, listed, named⟩ := mem_map.mp old
    exact fresh (any_eq_true.mpr ⟨approval, listed, decide_eq_true (named.trans (same.trans new))⟩)
  signed := by
    intro approval listed
    rcases mem_append.mp listed with old | new
    · exact cosigned.signed approval old
    · rw [mem_singleton.mp new]
      dsimp only
      rw [own]
      exact P.verify_sign _ _

variable {db later : Database F}

theorem cosign_effect {hash : String} {keys : List (String × String)}
    {validators finalValidators : List String} {approvals finalApprovals : List ValidatorApproval}
    (own : ∀ pair, pair ∈ keys -> pair.2 = P.publicKeyFromPrivate pair.1)
    (cosigned : Cosigned P hash validators approvals)
    (active : validators ⊆ getActiveValidators db service.chainId)
    (run : cosign P service hash keys validators approvals db =
      .ok (finalValidators, finalApprovals, later)) :
    SameLedger db later ∧ validators ⊆ finalValidators ∧
      finalValidators ⊆ getActiveValidators later service.chainId ∧
      approvals <+: finalApprovals ∧ Cosigned P hash finalValidators finalApprovals := by
  induction keys generalizing validators approvals db with
  | nil =>
    simp only [cosign, Except.ok.injEq, Prod.mk.injEq] at run
    obtain ⟨rfl, rfl, rfl⟩ := run
    exact ⟨SameLedger.refl db, List.Subset.refl _, active, prefix_refl _, cosigned⟩
  | cons pair rest ih =>
    have ownRest : ∀ other, other ∈ rest -> other.2 = P.publicKeyFromPrivate other.1 :=
      fun other member => own other (mem_cons_of_mem _ member)
    rw [cosign] at run
    split_ifs at run with repeated known
    · exact ih ownRest cosigned active run
    · have signed := cosigned.extend P (own pair mem_cons_self) (List.Subset.refl _) known
        repeated
      obtain ⟨same, inside, activeLater, front, all⟩ := ih ownRest signed active run
      exact ⟨same, inside, activeLater, List.IsPrefix.trans (prefix_append _ _) front, all⟩
    · rw [bind_eq_ok] at run
      obtain ⟨middle, registered, run⟩ := run
      obtain ⟨sameMiddle, added⟩ := upsertValidator_effect P registered
      have signed := cosigned.extend P (own pair mem_cons_self)
        (subset_append_left validators [pair.2]) (mem_append_right _
          (mem_singleton.mpr rfl)) repeated
      have activeMiddle : validators ++ [pair.2] ⊆ getActiveValidators middle service.chainId :=
        append_subset.mpr ⟨List.Subset.trans active (sameMiddle.active _),
          cons_subset.mpr ⟨added, nil_subset _⟩⟩
      obtain ⟨same, inside, activeLater, front, all⟩ := ih ownRest signed activeMiddle run
      exact ⟨sameMiddle.trans same, List.Subset.trans (subset_append_left _ _) inside,
        activeLater, List.IsPrefix.trans (prefix_append _ _) front, all⟩

theorem ensureProposer_effect {validators : List String}
    (run : ensureProposer P service db = .ok (validators, later)) :
    SameLedger db later ∧ validators ⊆ getActiveValidators later service.chainId ∧
      (service.validatorKeys P).2 ∈ validators := by
  rw [ensureProposer] at run
  split_ifs at run with known
  · cases run
    exact ⟨SameLedger.refl db, List.Subset.refl _, known⟩
  · cases registered : upsertValidator P service.chainId (service.validatorKeys P).2
        service.networkId db with
    | error error =>
      rw [registered] at run
      cases run
    | ok middle =>
      rw [registered] at run
      cases run
      obtain ⟨same, added⟩ := upsertValidator_effect P registered
      exact ⟨same, append_subset.mpr ⟨same.active _, cons_subset.mpr ⟨added, nil_subset _⟩⟩,
        mem_append_right _ (mem_singleton.mpr rfl)⟩

theorem SameLedger.listSealedTransactions_eq (same : SameLedger db later) (chainId : String)
    (finalizedOnly : Bool) :
    listSealedTransactions later chainId finalizedOnly =
      listSealedTransactions db chainId finalizedOnly := by
  simp only [listSealedTransactions, sealedIn, same.transactions, same.blocks]

/-- A block that is about to be stored on top of the chain. -/
structure Head (F : Type) [Arithmetic F] where
  stamp : Stamp
  height : Int
  previousHash : String
  transactions : List TransactionRow
  state : CreditState F
  approvals : List ValidatorApproval

namespace Head

def draft (head : Head F) : ComputeBlock :=
  proposeBlock P (service.validatorKeys P) head.height head.previousHash
    (head.transactions.map (rowToTx P)) head.state head.stamp

def block (head : Head F) : ComputeBlock :=
  { head.draft P service with
    approvals := head.approvals
    finalized := decide (service.quorumThreshold ≤ head.approvals.length) }

def row (head : Head F) : BlockRow :=
  blockRow service (head.block P service) head.stamp.id head.stamp.time

def store (head : Head F) (db : Database F) : Database F :=
  storeBlock (head.row P service) (head.transactions.map TransactionRow.id)
    (blockBalances (head.block P service) head.state) db

/-- The checks that a new block passes before it is stored. -/
structure Accepted (head : Head F) (validators : List String) (db : Database F) : Prop where
  active : validators ⊆ getActiveValidators db service.chainId
  valid : BlockValid P
    (newBlockCheck service (head.block P service) validators head.previousHash head.height)
    (head.block P service)
  proposer : (head.block P service).validator ∈ head.approvals.map ValidatorApproval.validator
  fits : BlockFits P (head.row P service) service.networkId
    (blockBalances (head.block P service) head.state) db

end Head

section NewBlocks

variable {P service} {head : Head F}

theorem Head.draft_eq :
    head.draft P service =
      { draftBlock P (service.validatorKeys P) head.height head.previousHash
          (head.transactions.map (rowToTx P)) head.state head.stamp with
        hash := (head.draft P service).hash
        validatorSignature := P.signMessage (service.validatorKeys P).1 (head.draft P service).hash
        approvals := [⟨(service.validatorKeys P).2,
          P.signMessage (service.validatorKeys P).1 (head.draft P service).hash⟩] } := by
  rw [Head.draft, proposeBlock_eq]

theorem Head.block_transactions :
    (head.block P service).transactions = head.transactions.map (rowToTx P) := by
  rw [Head.block, Head.draft_eq]
  rfl

theorem Head.row_height : (head.row P service).height = head.height := by
  rw [Head.row, Head.block, Head.draft_eq]
  rfl

theorem Head.row_previousHash : (head.row P service).previousHash = head.previousHash := by
  rw [Head.row, Head.block, Head.draft_eq]
  rfl

theorem Head.row_stateRoot : (head.row P service).stateRoot = head.state.stateRoot P := by
  rw [Head.row, Head.block, Head.draft_eq]
  rfl

theorem Head.row_approvals : (head.row P service).approvals = head.approvals :=
  rfl

theorem Head.row_chainId : (head.row P service).chainId = service.chainId :=
  rfl

theorem Head.row_mem_store (db : Database F) :
    head.row P service ∈ (head.store P service db).blocks :=
  mem_append_right _ (mem_singleton.mpr rfl)

theorem Head.row_finalized :
    (head.row P service).finalized = decide (service.quorumThreshold ≤ head.approvals.length) :=
  rfl

theorem Head.rowToBlock_row (rows : List TransactionRow) :
    rowToBlock P (head.row P service) rows =
      { head.block P service with transactions := rows.map (rowToTx P) } := by
  rw [Head.row, Head.block, Head.draft_eq]
  rfl

theorem Head.draft_cosigned {validators : List String}
    (member : (service.validatorKeys P).2 ∈ validators) :
    Cosigned P (head.draft P service).hash validators (head.draft P service).approvals := by
  have approved : Approved P validators 1 (head.draft P service) :=
    proposeBlock_approved P (validatorKeys_public P service) member
  exact ⟨approved.authorized, approved.distinct, approved.signed⟩

theorem Head.proposer_of_front (front : (head.draft P service).approvals <+: head.approvals) :
    (head.block P service).validator ∈ head.approvals.map ValidatorApproval.validator := by
  rw [Head.draft_eq] at front
  rw [Head.block, Head.draft_eq]
  exact mem_map.mpr ⟨_, front.subset mem_cons_self, rfl⟩

theorem Head.normalize_block {check : BlockCheck}
    (proposer : (head.block P service).validator ∈ head.approvals.map ValidatorApproval.validator) :
    check.normalize (head.block P service) = head.block P service := by
  rw [BlockCheck.normalize, ensureProposerApproval_of_mem proposer]
  split_ifs <;> rfl

theorem Head.persist_iff {db stored later : Database F}
    (present : addMissingTransactions P service (head.transactions.map (rowToTx P)) db = .ok stored)
     :
    persistBlock P service (head.block P service)
        (if (head.block P service).finalized then some head.state else none) db = .ok later ↔
      BlockFits P (head.row P service) service.networkId
          (blockBalances (head.block P service) head.state) stored ∧
        later = head.store P service stored := by
  refine persistBlock_eq_ok_iff P service ?_ ?_ ?_ ?_
  · rw [Head.block_transactions]
    exact present
  · rw [Head.block_transactions]
    exact transactionIds_map P head.transactions
  · rw [Head.block, Head.draft_eq]
    rfl
  · rw [Head.block, Head.draft_eq]
    rfl

theorem Head.validate_persist_iff {validators : List String} {db stored later : Database F}
    {passed : ComputeBlock} (active : validators ⊆ getActiveValidators stored service.chainId)
    (front : (head.draft P service).approvals <+: head.approvals)
    (present : addMissingTransactions P service (head.transactions.map (rowToTx P)) db = .ok stored)
     :
    (validateBlock P (head.block P service) (newBlockCheck service (head.block P service) validators
          head.previousHash head.height) = .ok passed ∧
        persistBlock P service passed (if passed.finalized then some head.state else none) db =
          .ok later) ↔
      head.Accepted P service validators stored ∧ passed = head.block P service ∧
        later = head.store P service stored := by
  have proposer := Head.proposer_of_front front
  rw [validateBlock_eq_ok_iff, Head.normalize_block proposer]
  constructor
  · rintro ⟨⟨valid, rfl⟩, persisted⟩
    obtain ⟨fits, written⟩ := (Head.persist_iff present).mp persisted
    exact ⟨⟨active, valid, proposer, fits⟩, rfl, written⟩
  · rintro ⟨accepted, rfl, written⟩
    exact ⟨⟨accepted.valid, rfl⟩, (Head.persist_iff present).mpr ⟨accepted.fits, written⟩⟩

theorem Head.valid_of_cosigned {validators : List String}
    (front : (head.draft P service).approvals <+: head.approvals)
    (cosigned : Cosigned P (head.draft P service).hash validators head.approvals)
    (transactions : ∀ row, row ∈ head.transactions -> TransactionValid P true (rowToTx P row)) :
    BlockValid P (newBlockCheck service (head.block P service) validators head.previousHash
      head.height) (head.block P service) := by
  have member : (service.validatorKeys P).2 ∈ validators := by
    rw [Head.draft_eq] at front
    exact cosigned.known _ (front.subset mem_cons_self)
  refine proposeBlock_valid P (validatorKeys_public P service) ?_ ?_ member ?_ ?_
  · intro expected same
    exact Option.some.inj same
  · intro expected same
    exact Option.some.inj same
  · intro tx listed
    obtain ⟨row, inside, rfl⟩ := mem_map.mp listed
    exact transactions row inside
  · intro counted
    have final : (head.block P service).finalized = true := by
      rcases Bool.or_eq_true_iff.mp counted with required | final
      · exact required
      · exact final
    have quorum : service.quorumThreshold ≤ head.approvals.length := of_decide_eq_true final
    have threshold : (newBlockCheck service (head.block P service) validators head.previousHash
        head.height).quorumThreshold = service.quorumThreshold := if_pos final
    rw [threshold]
    exact ⟨quorumThreshold_pos service, {
      authorized := cosigned.known
      distinct := cosigned.distinct
      signed := cosigned.signed
      proposer := Head.proposer_of_front front
      quorum := quorum }⟩

end NewBlocks

/-! ## Sealing -/

/-- A seal of the pending transactions on the finalized tip. -/
structure Seals (stamp : Stamp) (db : Database F) (head : Head F) (validators : List String)
    (base : Database F) : Prop where
  clear : getUnfinalizedTip db service.chainId = none
  onTip : ∃ tip, getTip db service.chainId = some tip ∧ head.height = tip.height + 1 ∧
    head.previousHash = tip.hash
  stamped : head.stamp = stamp
  pending : head.transactions = listPendingTransactions db service.chainId
  nonempty : head.transactions ≠ []
  replayed : replayTransactions P ((listSealedTransactions db service.chainId).map (rowToTx P) ++
    head.transactions.map (rowToTx P)) = .ok head.state
  same : SameLedger db base
  accepted : head.Accepted P service validators base

section Sealing

variable {P service} {stamp : Stamp} {db : Database F}

theorem sealOnTip_collects {tip : BlockRow} {pending : List TransactionRow} {block : ComputeBlock}
    {later : Database F} (stored : ∀ row, row ∈ pending -> row ∈ db.transactions)
    (run : sealOnTip P service stamp tip pending db = .ok (block, later)) :
    ∃ state approvals validators base,
      let head : Head F := ⟨stamp, tip.height + 1, tip.hash, pending, state, approvals⟩
      replayTransactions P ((listSealedTransactions db service.chainId).map (rowToTx P) ++
          pending.map (rowToTx P)) = .ok state ∧
        SameLedger db base ∧ head.Accepted P service validators base ∧
        Cosigned P (head.draft P service).hash validators approvals ∧
        block = head.block P service ∧ later = head.store P service base := by
  simp only [sealOnTip, bind_eq_ok] at run
  obtain ⟨⟨first, middle⟩, proposer, prior, priorReplay, state, replay, ⟨validators, approvals, base⟩,
    collected, validated, passed, written, persisted, same⟩ := run
  simp only [Except.ok.injEq, Prod.mk.injEq] at same
  obtain ⟨rfl, rfl⟩ := same
  let head : Head F := ⟨stamp, tip.height + 1, tip.hash, pending, state, approvals⟩
  obtain ⟨sameMiddle, activeFirst, member⟩ := ensureProposer_effect P service proposer
  obtain ⟨sameBase, _, active, front, cosigned⟩ := cosign_effect P service
    (fun pair inside => extraValidatorKeys_public P inside)
    (Head.draft_cosigned member : Cosigned P (head.draft P service).hash first _) activeFirst
    collected
  have present : addMissingTransactions P service (head.transactions.map (rowToTx P)) base =
      .ok base := by
    apply addMissingTransactions_of_stored
    intro row inside
    rw [sameBase.transactions, sameMiddle.transactions]
    exact stored row inside
  obtain ⟨accepted, rfl, rfl⟩ := (Head.validate_persist_iff active front present).mp
    ⟨passed, persisted⟩
  refine ⟨state, approvals, validators, base, ?_, sameMiddle.trans sameBase, accepted, cosigned, rfl,
    rfl⟩
  rw [replayTransactions_append]
  rw [sameMiddle.listSealedTransactions_eq] at priorReplay
  exact ⟨prior, priorReplay, replay⟩

theorem sealPendingBody_collects {result : Option ComputeBlock} {later : Database F}
    (run : sealPendingBody P service stamp db = .ok (result, later)) :
    (listPendingTransactions db service.chainId = [] ∧ result = none ∧ later = db) ∨
      ∃ head validators base, Seals P service stamp db head validators base ∧
        Cosigned P (head.draft P service).hash validators head.approvals ∧ result = some (head.block P service) ∧ later = head.store P service base := by
  simp only [sealPendingBody, raiseIf_bind_eq_ok, Option.not_isSome_iff_eq_none] at run
  obtain ⟨clear, run⟩ := run
  cases pending : listPendingTransactions db service.chainId with
  | nil =>
    rw [pending] at run
    simp only [Except.ok.injEq, Prod.mk.injEq] at run
    exact Or.inl ⟨rfl, run.1.symm, run.2.symm⟩
  | cons row rest =>
    rw [pending] at run
    cases found : getTip db service.chainId with
    | none =>
      rw [found] at run
      cases run
    | some tip =>
      rw [found] at run
      dsimp only at run
      cases sealing : sealOnTip P service stamp tip (row :: rest) db with
      | error error =>
        rw [sealing] at run
        cases run
      | ok outcome =>
        rw [sealing] at run
        cases run
        have stored : ∀ other, other ∈ row :: rest -> other ∈ db.transactions := by
          rw [← pending]
          intro other inside
          exact mem_of_mem_filter inside
        obtain ⟨state, approvals, validators, base, replayed, same, accepted, cosigned, block,
          written⟩ := sealOnTip_collects stored sealing
        refine Or.inr ⟨_, validators, base, ?_, cosigned, congrArg some block, written⟩
        exact {
          clear := clear
          onTip := ⟨tip, found, rfl, rfl⟩
          stamped := rfl
          pending := pending.symm
          nonempty := cons_ne_nil _ _
          replayed := replayed
          same := same
          accepted := accepted }

theorem sealPendingBody_effect {result : Option ComputeBlock} {later : Database F}
    (run : sealPendingBody P service stamp db = .ok (result, later)) :
    (listPendingTransactions db service.chainId = [] ∧ result = none ∧ later = db) ∨
      ∃ head validators base, Seals P service stamp db head validators base ∧
        result = some (head.block P service) ∧ later = head.store P service base := by
  rcases sealPendingBody_collects run with idle | ⟨head, validators, base, seals, _, block, written⟩
  · exact Or.inl idle
  · exact Or.inr ⟨head, validators, base, seals, block, written⟩

end Sealing

/-! ## Genesis -/

def genesisRow (stamp : Stamp) : TransactionRow where
  id := stamp.id
  chainId := service.chainId
  txHash := (genesisTransaction P service stamp).computeHash P
  txType := (genesisTransaction P service stamp).txType
  sender := (genesisTransaction P service stamp).sender
  nonce := (genesisTransaction P service stamp).nonce
  timestamp := stamp.time
  payload := (genesisTransaction P service stamp).payload
  signature := (genesisTransaction P service stamp).signature

/-- The state after the genesis transaction: no balances yet. -/
def genesisState (stamp : Stamp) : CreditState F :=
  (applyTransaction P {} (genesisTransaction P service stamp)).state

def genesisHead (stamps : GenesisStamps) : Head F :=
  let draft : Head F := {
    stamp := stamps.block
    height := 0
    previousHash := zeroHash
    transactions := [genesisRow P service stamps.transaction]
    state := genesisState P service stamps.transaction
    approvals := [] }
  { draft with
    approvals := (draft.draft P service).approvals ++
      extraApprovals P service (draft.draft P service).hash }

/-- The genesis transaction is stored, and was added if it was not there. -/
def GenesisStored (stamp : Stamp) (base stored : Database F) : Prop :=
  (stored = base ∧ ∃ row, row ∈ base.transactions ∧ row.id = stamp.id) ∨
    ((∀ row, row ∈ base.transactions -> row.id ≠ stamp.id) ∧
      stored = { base with transactions := base.transactions ++ [genesisRow P service stamp] })

/-- What has been stored when the genesis block is sealed. -/
structure Initializes (stamps : GenesisStamps) (db : Database F) (validators : List String)
    (base stored : Database F) : Prop where
  empty : getTip db service.chainId false = none
  same : SameLedger db base
  transaction : GenesisStored P service stamps.transaction base stored
  accepted : (genesisHead P service stamps).Accepted P service validators stored

section Genesis

variable {P service} {stamps : GenesisStamps} {db later : Database F}

theorem rowToTx_genesisRow (stamp : Stamp) :
    rowToTx P (genesisRow P service stamp) = genesisTransaction P service stamp :=
  rfl

theorem transactionRow_genesis (stamp : Stamp) :
    transactionRow P service (genesisTransaction P service stamp) =
      .ok (genesisRow P service stamp) := by
  have time : P.parseTs (genesisTransaction P service stamp).timestamp = .ok stamp.time :=
    P.parseTs_isoformat stamp.time
  have id : P.asUuid (genesisTransaction P service stamp).id = .ok stamp.id :=
    P.asUuid_strOfUuid stamp.id
  rw [transactionRow, time, id]
  rfl

theorem upsertValidators_effect {keys : List String}
    (run : upsertValidators P service keys db = .ok later) : SameLedger db later := by
  induction keys generalizing db with
  | nil =>
    cases run
    exact SameLedger.refl _
  | cons key rest ih =>
    rw [upsertValidators, bind_eq_ok] at run
    obtain ⟨middle, registered, run⟩ := run
    exact (upsertValidator_effect P registered).1.trans (ih run)

theorem upsertValidators_active {keys : List String}
    (run : upsertValidators P service keys db = .ok later) :
    keys ⊆ getActiveValidators later service.chainId := by
  induction keys generalizing db with
  | nil => exact nil_subset _
  | cons key rest ih =>
    rw [upsertValidators, bind_eq_ok] at run
    obtain ⟨middle, registered, run⟩ := run
    exact cons_subset.mpr ⟨(upsertValidators_effect run).active _
      (upsertValidator_effect P registered).2, ih run⟩

theorem addMissing_genesis {stored : Database F} {stamp : Stamp}
    (run : addMissingTransactions P service [genesisTransaction P service stamp] db = .ok stored) :
    GenesisStored P service stamp db stored := by
  have id : P.asUuid (genesisTransaction P service stamp).id = .ok stamp.id :=
    P.asUuid_strOfUuid stamp.id
  rw [addMissingTransactions, id] at run
  change (if db.transactions.any (fun row => decide (row.id = stamp.id)) = true then
    Except.ok db else _) = Except.ok stored at run
  split_ifs at run with used
  · cases run
    obtain ⟨row, member, same⟩ := any_eq_true.mp used
    exact Or.inl ⟨rfl, row, member, of_decide_eq_true same⟩
  · rw [transactionRow_genesis] at run
    change (addPendingTransaction P (genesisRow P service stamp) service.networkId db >>=
      fun db => .ok db) = .ok stored at run
    rw [bind_eq_ok] at run
    obtain ⟨middle, added, same⟩ := run
    cases same
    obtain ⟨_, _, _, fresh, _, _, written⟩ := (addPendingTransaction_eq_ok_iff P).mp added
    exact Or.inr ⟨fresh, written⟩

theorem GenesisStored.active {stamp : Stamp} {base stored : Database F}
    (genesis : GenesisStored P service stamp base stored) (chainId : String) :
    getActiveValidators stored chainId = getActiveValidators base chainId := by
  rcases genesis with ⟨rfl, _⟩ | ⟨_, rfl⟩
  · rfl
  · rfl

theorem GenesisStored.blocks {stamp : Stamp} {base stored : Database F}
    (genesis : GenesisStored P service stamp base stored) : stored.blocks = base.blocks := by
  rcases genesis with ⟨rfl, _⟩ | ⟨_, rfl⟩
  · rfl
  · rfl

theorem ensureInitialized_registers {block : ComputeBlock}
    (run : ensureInitialized P service stamps db = .ok (block, later)) :
    ((∃ tip, getTip db service.chainId false = some tip) ∧ later = db) ∨
      ∃ validators base stored, Initializes P service stamps db validators base stored ∧
        (service.extraValidatorKeys P).map Prod.snd ⊆ getActiveValidators base service.chainId ∧
        later = (genesisHead P service stamps).store P service stored := by
  rw [ensureInitialized] at run
  cases found : getTip db service.chainId false with
  | some tip =>
    rw [found] at run
    cases run
    exact Or.inl ⟨⟨tip, rfl⟩, rfl⟩
  | none =>
    rw [found] at run
    simp only [bind_eq_ok] at run
    obtain ⟨first, registered, base, extras, passed, validated, written, persisted, same⟩ := run
    cases same
    have sameBase : SameLedger db base :=
      (upsertValidator_effect P registered).1.trans (upsertValidators_effect extras)
    have front : ((genesisHead P service stamps).draft P service).approvals <+:
        (genesisHead P service stamps).approvals := prefix_append _ _
    have adding : ∃ stored, addMissingTransactions P service
        ((genesisHead P service stamps).transactions.map (rowToTx P)) base = .ok stored := by
      obtain ⟨_, rfl⟩ := (validateBlock_eq_ok_iff P).mp validated
      change persistBlock P service (BlockCheck.normalize _
        ((genesisHead P service stamps).block P service)) _ base = _ at persisted
      rw [Head.normalize_block (Head.proposer_of_front front), persistBlock, bind_eq_ok] at persisted
      obtain ⟨stored, added, _⟩ := persisted
      rw [Head.block_transactions] at added
      exact ⟨stored, added⟩
    obtain ⟨stored, added⟩ := adding
    have genesis : GenesisStored P service stamps.transaction base stored :=
      addMissing_genesis added
    have active : getActiveValidators base service.chainId ⊆
        getActiveValidators stored service.chainId := by
      rw [genesis.active]
      exact List.Subset.refl _
    obtain ⟨accepted, rfl, rfl⟩ := (Head.validate_persist_iff active front added).mp
      ⟨validated, persisted⟩
    exact Or.inr ⟨_, base, stored, ⟨found, sameBase, genesis, accepted⟩,
      upsertValidators_active extras, rfl⟩

theorem ensureInitialized_effect {block : ComputeBlock}
    (run : ensureInitialized P service stamps db = .ok (block, later)) :
    ((∃ tip, getTip db service.chainId false = some tip) ∧ later = db) ∨
      ∃ validators base stored, Initializes P service stamps db validators base stored ∧
        later = (genesisHead P service stamps).store P service stored := by
  rcases ensureInitialized_registers run with
    begun | ⟨validators, base, stored, initializes, _, written⟩
  · exact Or.inl begun
  · exact Or.inr ⟨validators, base, stored, initializes, written⟩

theorem addMissing_genesis_of_fresh {stamp : Stamp}
    (inScope : Scoped P service.chainId service.networkId)
    (fresh : ∀ row, row ∈ db.transactions -> row.id ≠ stamp.id ∧
      row.txHash ≠ (genesisTransaction P service stamp).computeHash P ∧
      row.chainId ≠ service.chainId) :
    addMissingTransactions P service [genesisTransaction P service stamp] db =
      .ok { db with transactions := db.transactions ++ [genesisRow P service stamp] } := by
  have relay : (genesisRow P service stamp).sender.length ≤ 128 := by
    change (service.validatorKeys P).2.length ≤ 128
    rw [validatorKeys_public, P.publicKey_length]
    decide
  have nonce : (genesisRow P service stamp).nonce < 2 ^ 63 := by
    change (0 : Int) < 2 ^ 63
    decide
  have unused : db.transactions.any (fun row => decide (row.id = stamp.id)) ≠ true := by
    intro used
    obtain ⟨row, listed, equal⟩ := any_eq_true.mp used
    exact (fresh row listed).1 (of_decide_eq_true equal)
  have insertion : addPendingTransaction P (genesisRow P service stamp) service.networkId db =
      .ok { db with transactions := db.transactions ++ [genesisRow P service stamp] } :=
    (addPendingTransaction_eq_ok_iff P).mpr ⟨inScope, relay, nonce,
      fun row listed => (fresh row listed).1, fun row listed => (fresh row listed).2.1,
      fun row listed here => absurd here (fresh row listed).2.2, rfl⟩
  have id : P.asUuid (genesisTransaction P service stamp).id = .ok stamp.id :=
    P.asUuid_strOfUuid stamp.id
  rw [addMissingTransactions, id]
  change (if db.transactions.any (fun row => decide (row.id = stamp.id)) = true
    then Except.ok db else _) = _
  rw [if_neg unused, transactionRow_genesis]
  change (addPendingTransaction P (genesisRow P service stamp) service.networkId db >>=
    fun db => .ok db) = _
  rw [insertion]
  rfl

theorem genesisHead_approvals :
    (genesisHead P service stamps).approvals =
      ((genesisHead P service stamps).draft P service).approvals ++
        extraApprovals P service ((genesisHead P service stamps).draft P service).hash :=
  rfl

theorem genesisHead_alone (alone : service.extraValidatorKeys P = []) :
    (genesisHead P service stamps).approvals =
      [⟨(service.validatorKeys P).2, P.signMessage (service.validatorKeys P).1
        ((genesisHead P service stamps).draft P service).hash⟩] := by
  rw [genesisHead_approvals, extraApprovals, alone, map_nil, append_nil, Head.draft_eq]

theorem ensureInitialized_succeeds (alone : service.extraValidatorKeys P = [])
    (inScope : Scoped P service.chainId service.networkId)
    (empty : getTip db service.chainId false = none)
    (freshRow : ∀ row, row ∈ db.transactions -> row.id ≠ stamps.transaction.id ∧
      row.txHash ≠ (genesisTransaction P service stamps.transaction).computeHash P ∧
      row.chainId ≠ service.chainId)
    (freshBlock : ∀ block, block ∈ db.blocks -> block.id ≠ stamps.block.id ∧
      block.hash ≠ ((genesisHead P service stamps).draft P service).hash ∧
      block.chainId ≠ service.chainId) :
    ∃ validators base stored, Initializes P service stamps db validators base stored ∧
      (service.validatorKeys P).2 ∈ getActiveValidators stored service.chainId ∧
      ensureInitialized P service stamps db =
        .ok ((genesisHead P service stamps).block P service,
          (genesisHead P service stamps).store P service stored) := by
  have relay : (service.validatorKeys P).2.length ≤ 128 := by
    rw [validatorKeys_public, P.publicKey_length]
    decide
  obtain ⟨base, registered⟩ := upsertValidator_succeeds P db inScope relay
  obtain ⟨same, member⟩ := upsertValidator_effect P registered
  have extras : upsertValidators P service ((service.extraValidatorKeys P).map Prod.snd) base =
      .ok base := by
    rw [alone]
    rfl
  have added : addMissingTransactions P service
      ((genesisHead P service stamps).transactions.map (rowToTx P)) base = .ok { base with
        transactions := base.transactions ++ [genesisRow P service stamps.transaction] } := by
    refine addMissing_genesis_of_fresh inScope ?_
    rw [same.transactions]
    exact freshRow
  have front : ((genesisHead P service stamps).draft P service).approvals <+:
      (genesisHead P service stamps).approvals := prefix_append _ _
  have cosigned : Cosigned P ((genesisHead P service stamps).draft P service).hash
      (getActiveValidators base service.chainId) (genesisHead P service stamps).approvals := by
    rw [genesisHead_approvals, extraApprovals, alone, map_nil, append_nil]
    exact Head.draft_cosigned member
  have accepted : (genesisHead P service stamps).Accepted P service
      (getActiveValidators base service.chainId) { base with
        transactions := base.transactions ++ [genesisRow P service stamps.transaction] } := {
    active := List.Subset.refl _
    valid := by
      refine Head.valid_of_cosigned front cosigned ?_
      intro row listed
      rw [mem_singleton.mp listed, rowToTx_genesisRow, genesisTransaction, validatorKeys_public]
      exact newSignedTransaction_valid P true (Int.le_refl 0)
    proposer := Head.proposer_of_front front
    fits := {
      inScope := inScope
      freshId := by
        rw [same.blocks]
        exact fun block listed => (freshBlock block listed).1
      freshHash := by
        rw [same.blocks]
        exact fun block listed => (freshBlock block listed).2.1
      freshHeight := by
        rw [same.blocks]
        exact fun block listed here => absurd here (freshBlock block listed).2.2
      accounts := by
        intro entries listed entry member
        rw [blockBalances] at listed
        split_ifs at listed
        cases listed
        cases member } }
  obtain ⟨passed, persisted⟩ := (Head.validate_persist_iff accepted.active front added).mpr
    ⟨accepted, rfl, rfl⟩
  have genesis := addMissing_genesis added
  refine ⟨_, base, _, ⟨empty, same, genesis, accepted⟩, ?_, ?_⟩
  · rw [genesis.active]
    exact member
  · rw [ensureInitialized, empty]
    simp only [bind_eq_ok]
    exact ⟨base, registered, base, extras, _, passed, _, persisted, rfl⟩

end Genesis

/-! ## Submission -/

/-- A transaction that has been accepted and stored as pending. -/
structure Submits (tx : ComputeTransaction) (requireSignature : Bool) (db : Database F)
    (row : TransactionRow) : Prop where
  valid : TransactionValid P requireSignature tx
  above : getMaxNonce db service.chainId tx.sender < tx.nonce
  converted : transactionRow P service tx = .ok row
  inScope : Scoped P service.chainId service.networkId
  sender : row.sender.length ≤ 128
  nonce : row.nonce < 2 ^ 63
  freshId : ∀ other, other ∈ db.transactions -> other.id ≠ row.id
  freshHash : ∀ other, other ∈ db.transactions -> other.txHash ≠ row.txHash

section Submission

variable {P service} {tx : ComputeTransaction} {requireSignature : Bool} {db later : Database F}

theorem transactionRow_eq_ok_iff {row : TransactionRow} :
    transactionRow P service tx = .ok row ↔
      ∃ time id, P.parseTs tx.timestamp = .ok time ∧ P.asUuid tx.id = .ok id ∧
        row = {
          id := id
          chainId := service.chainId
          txHash := tx.computeHash P
          txType := tx.txType
          sender := tx.sender
          nonce := tx.nonce
          timestamp := time
          payload := tx.payload
          signature := tx.signature } := by
  simp only [transactionRow, bind_eq_ok, Except.ok.injEq]
  constructor
  · rintro ⟨time, parsed, id, read, rfl⟩
    exact ⟨time, id, parsed, read, rfl⟩
  · rintro ⟨time, id, parsed, read, rfl⟩
    exact ⟨time, parsed, id, read, rfl⟩

theorem submitBody_effect {shouldSeal : Bool} {stamp : Stamp} {result : Option ComputeBlock}
    (run : submitBody P service tx shouldSeal requireSignature stamp db = .ok (result, later)) :
    ∃ row, Submits P service tx requireSignature db row ∧
      (if shouldSeal then
        sealPendingBody P service stamp { db with transactions := db.transactions ++ [row] } =
          .ok (result, later)
      else result = none ∧ later = { db with transactions := db.transactions ++ [row] }) := by
  simp only [submitBody, bind_eq_ok, raiseIf_eq_ok, not_le, exists_const] at run
  obtain ⟨_, passed, above, row, converted, middle, added, run⟩ := run
  have valid := (validateTransaction_eq_ok_iff P).mp passed
  obtain ⟨time, id, _, _, shape⟩ := transactionRow_eq_ok_iff.mp converted
  obtain ⟨inScope, sender, nonce, freshId, freshHash, _, rfl⟩ :=
    (addPendingTransaction_eq_ok_iff P).mp added
  have chain : row.chainId = service.chainId := by rw [shape]
  refine ⟨row, ⟨valid, above, converted, chain ▸ inScope, sender, nonce, freshId, freshHash⟩, ?_⟩
  split_ifs at run ⊢
  · exact run
  · cases run
    exact ⟨rfl, rfl⟩

theorem le_maxNonce {nonces : List Int} {nonce : Int} (member : nonce ∈ nonces) :
    nonce ≤ maxNonce nonces := by
  induction nonces with
  | nil => cases member
  | cons head rest ih =>
    cases rest with
    | nil =>
      rw [mem_singleton.mp member]
      exact Int.le_refl _
    | cons other others =>
      simp only [maxNonce]
      rcases mem_cons.mp member with rfl | later
      · split_ifs with below
        · exact Int.le_of_lt below
        · exact Int.le_refl _
      · have bound := ih later
        split_ifs with below
        · exact bound
        · exact Int.le_trans bound (Int.not_lt.mp below)

theorem maxNonce_le {nonces : List Int} {bound : Int} (least : -1 ≤ bound)
    (below : ∀ nonce, nonce ∈ nonces -> nonce ≤ bound) : maxNonce nonces ≤ bound := by
  induction nonces with
  | nil => exact least
  | cons head rest ih =>
    cases rest with
    | nil => exact below head mem_cons_self
    | cons other others =>
      simp only [maxNonce]
      split_ifs
      · exact ih (fun nonce member => below nonce (mem_cons_of_mem _ member))
      · exact below head mem_cons_self

theorem submitBody_of_submits {shouldSeal : Bool} {stamp : Stamp} {row : TransactionRow}
    (submits : Submits P service tx requireSignature db row) :
    submitBody P service tx shouldSeal requireSignature stamp db =
      if shouldSeal then
        sealPendingBody P service stamp { db with transactions := db.transactions ++ [row] }
      else .ok (none, { db with transactions := db.transactions ++ [row] }) := by
  obtain ⟨time, id, _, _, shape⟩ := transactionRow_eq_ok_iff.mp submits.converted
  have chain : row.chainId = service.chainId := by rw [shape]
  have sender : row.sender = tx.sender := by rw [shape]
  have nonce : row.nonce = tx.nonce := by rw [shape]
  have valid : validateTransaction P tx requireSignature = .ok () :=
    (validateTransaction_eq_ok_iff P).mpr submits.valid
  have above := submits.above
  have added : addPendingTransaction P row service.networkId db =
      .ok { db with transactions := db.transactions ++ [row] } := by
    refine (addPendingTransaction_eq_ok_iff P).mpr ⟨chain ▸ submits.inScope, submits.sender,
      submits.nonce, submits.freshId, submits.freshHash, ?_, rfl⟩
    intro other member otherChain otherSender same
    have listed : other.nonce ∈ (db.transactions.filter (fun row =>
        row.chainId = service.chainId ∧ row.sender = tx.sender)).map TransactionRow.nonce := by
      refine mem_map_of_mem (mem_filter.mpr ⟨member, decide_eq_true ⟨?_, ?_⟩⟩)
      · rw [otherChain, chain]
      · rw [otherSender, sender]
    have bound := le_maxNonce listed
    rw [getMaxNonce] at above
    omega
  rw [submitBody, valid, submits.converted]
  change (raiseIf _ _ >>= fun _ => addPendingTransaction P row service.networkId db >>= _) = _
  rw [raiseIf, if_neg (Int.not_le.mpr above)]
  change (addPendingTransaction P row service.networkId db >>= _) = _
  rw [added]
  rfl

end Submission

/-! ## Approval -/

def approvingBlock (loaded : ComputeBlock) (key signature : String) : ComputeBlock :=
  { loaded with
    approvals := loaded.approvals ++ [⟨key, signature⟩]
    finalized := decide (service.quorumThreshold ≤ loaded.approvals.length + 1) }

/-- The block that an approval stores.  A block that becomes final has the
proposer's approval among the others. -/
def approvedBlock (loaded : ComputeBlock) (key signature : String) : ComputeBlock :=
  if service.quorumThreshold ≤ loaded.approvals.length + 1 then
    (approvingBlock service loaded key signature).ensureProposerApproval
  else approvingBlock service loaded key signature

/-- The checks of an approval against a set of validators. -/
structure Approvable (validators : List String) (loaded : ComputeBlock) (key signature : String) :
    Prop where
  active : key ∈ validators
  signed : P.verifySignature key loaded.hash signature = true
  first : key ∉ loaded.approvals.map ValidatorApproval.validator
  valid : service.quorumThreshold ≤ loaded.approvals.length + 1 ->
    BlockValid P { authorizedValidators := validators, quorumThreshold := service.quorumThreshold }
      (approvingBlock service loaded key signature)

def storeApproval (id : Uuid) (block : ComputeBlock) (balances : Option (List (BalanceEntry F)))
    (db : Database F) : Database F :=
  { updateBlockApprovals id block.approvals block.finalized db with
    balances := balances.elim db.balances (fun entries =>
      db.balances.filter (fun other => other.chainId ≠ service.chainId) ++
        balanceRows service.chainId entries) }

/-- The conditions under which an approval is stored. -/
structure Approves (hash key signature : String) (db : Database F) (row : BlockRow)
    (balances : Option (List (BalanceEntry F))) : Prop where
  found : getBlockByHash db hash = some row
  onChain : row.chainId = service.chainId
  awaiting : row.finalized = false
  approvable : Approvable P service (getActiveValidators db service.chainId)
    (blockToDomain P db row) key signature
  replayed : service.quorumThreshold ≤ row.approvals.length + 1 -> ∃ state,
    replayTransactions P ((listSealedTransactions db service.chainId).map (rowToTx P) ++
      (blockTransactions db row).map (rowToTx P)) = .ok state ∧ balances = some state.toList
  unsettled : ¬ service.quorumThreshold ≤ row.approvals.length + 1 -> balances = none
  accounts : ∀ entries, balances = some entries ->
    ∀ entry, entry ∈ entries -> entry.account.length ≤ 128

section Approval

variable {P service} {hash key signature : String} {db later : Database F}

theorem approveLoad_eq_ok_iff {loaded : ComputeBlock} :
    approveLoad P service hash db = .ok loaded ↔
      ∃ row, getBlockByHash db hash = some row ∧ row.chainId = service.chainId ∧
        row.finalized = false ∧ loaded = blockToDomain P db row := by
  rw [approveLoad]
  cases found : getBlockByHash db hash with
  | none => simp
  | some row =>
    simp only [raiseIf_bind_eq_ok, not_not, Bool.not_eq_true, Except.ok.injEq, Option.some.injEq]
    constructor
    · rintro ⟨chain, awaiting, rfl⟩
      exact ⟨row, rfl, chain, awaiting, rfl⟩
    · rintro ⟨other, rfl, chain, awaiting, rfl⟩
      exact ⟨chain, awaiting, rfl⟩

theorem approvedBlock_finalized {loaded : ComputeBlock} :
    (approvedBlock service loaded key signature).finalized =
      decide (service.quorumThreshold ≤ loaded.approvals.length + 1) := by
  rw [approvedBlock, ComputeBlock.ensureProposerApproval]
  split_ifs <;> rfl

theorem approvedBlock_frame (service : LedgerService) (loaded : ComputeBlock)
    (key signature : String) :
    ∃ approvals finalized, approvedBlock service loaded key signature =
      { loaded with approvals := approvals, finalized := finalized } := by
  rw [approvedBlock, ComputeBlock.ensureProposerApproval]
  split_ifs
  all_goals exact ⟨_, _, rfl⟩

theorem approvedBlock_id {row : BlockRow} :
    (approvedBlock service (blockToDomain P db row) key signature).id = P.strOfUuid row.id := by
  obtain ⟨approvals, finalized, frame⟩ := approvedBlock_frame service (blockToDomain P db row) key
    signature
  rw [frame]
  rfl

theorem approvedBlock_transactions {row : BlockRow} :
    (approvedBlock service (blockToDomain P db row) key signature).transactions =
      (blockTransactions db row).map (rowToTx P) := by
  obtain ⟨approvals, finalized, frame⟩ := approvedBlock_frame service (blockToDomain P db row) key
    signature
  rw [frame]
  rfl

theorem approveDecide_eq_ok_iff {validators : List String} {loaded block : ComputeBlock} :
    approveDecide P service key signature validators loaded = .ok block ↔
      Approvable P service validators loaded key signature ∧
        block = approvedBlock service loaded key signature := by
  simp only [approveDecide, bind_eq_ok, addApproval_eq_ok_iff]
  by_cases final : service.quorumThreshold ≤ loaded.approvals.length + 1
  · constructor
    · rintro ⟨_, ⟨active, signed, first, rfl⟩, run⟩
      simp only [length_append, length_singleton, final, decide_true, if_true] at run
      obtain ⟨valid, rfl⟩ := (validateBlock_eq_ok_iff P).mp run
      refine ⟨⟨active, signed, first, fun _ => ?_⟩, ?_⟩
      · simpa only [approvingBlock, final, decide_true] using valid
      · simp only [approvedBlock, approvingBlock, BlockCheck.normalize, final, if_true, decide_true,
          Bool.or_true]
    · rintro ⟨approvable, rfl⟩
      refine ⟨_, ⟨approvable.active, approvable.signed, approvable.first, rfl⟩, ?_⟩
      have valid := approvable.valid final
      simp only [approvingBlock, final, decide_true] at valid
      simp only [length_append, length_singleton, final, decide_true, if_true]
      refine (validateBlock_eq_ok_iff P).mpr ⟨valid, ?_⟩
      simp only [approvedBlock, approvingBlock, BlockCheck.normalize, final, if_true, decide_true,
        Bool.or_true]
  · constructor
    · rintro ⟨_, ⟨active, signed, first, rfl⟩, run⟩
      simp only [length_append, length_singleton, final, decide_false, Bool.false_eq_true,
        if_false, Except.ok.injEq] at run
      refine ⟨⟨active, signed, first, fun reached => absurd reached final⟩, ?_⟩
      rw [approvedBlock, if_neg final, approvingBlock, ← run]
      simp only [final, decide_false]
    · rintro ⟨approvable, rfl⟩
      refine ⟨_, ⟨approvable.active, approvable.signed, approvable.first, rfl⟩, ?_⟩
      simp only [length_append, length_singleton, final, decide_false, Bool.false_eq_true,
        if_false, approvedBlock, approvingBlock]

theorem approveWrite_effect {row : BlockRow} {block : ComputeBlock} {state : Option (CreditState F)}
    (named : block.id = P.strOfUuid row.id) (run : approveWrite P service block state db = .ok later) :
    (∀ entries, state.map CreditState.toList = some entries ->
        ∀ entry, entry ∈ entries -> entry.account.length ≤ 128) ∧
      later = storeApproval service row.id block (state.map CreditState.toList) db := by
  rw [approveWrite, named, P.asUuid_strOfUuid] at run
  cases state with
  | none =>
    cases run
    refine ⟨fun entries none => ?_, rfl⟩
    cases none
  | some state =>
    obtain ⟨_, _, accounts, written⟩ := (replaceBalances_eq_ok_iff P).mp run
    rw [written]
    refine ⟨fun entries same => ?_, rfl⟩
    cases same
    exact accounts

theorem approveBody_effect {block : ComputeBlock}
    (run : approveBody P service hash key signature db = .ok (block, later)) :
    ∃ row balances, Approves P service hash key signature db row balances ∧
      block = approvedBlock service (blockToDomain P db row) key signature ∧
      later = storeApproval service row.id block balances db := by
  simp only [approveBody, bind_eq_ok] at run
  obtain ⟨loaded, load, decided, decision, state, replay, written, write, same⟩ := run
  simp only [Except.ok.injEq, Prod.mk.injEq] at same
  obtain ⟨rfl, rfl⟩ := same
  obtain ⟨row, found, onChain, awaiting, rfl⟩ := approveLoad_eq_ok_iff.mp load
  obtain ⟨approvable, rfl⟩ := approveDecide_eq_ok_iff.mp decision
  obtain ⟨accounts, written⟩ := approveWrite_effect approvedBlock_id write
  refine ⟨row, state.map CreditState.toList, ⟨found, onChain, awaiting, approvable, ?_, ?_, accounts⟩,
    rfl, written⟩
  · intro final
    have reached : (approvedBlock service (blockToDomain P db row) key signature).finalized = true := by
      rw [approvedBlock_finalized]
      exact decide_eq_true final
    rw [approveReplay, if_pos reached, approvedBlock_transactions] at replay
    cases replayed : replayTransactions P ((listSealedTransactions db service.chainId).map
        (rowToTx P) ++ (blockTransactions db row).map (rowToTx P)) with
    | error error =>
      rw [replayed] at replay
      cases replay
    | ok final =>
      rw [replayed] at replay
      cases replay
      exact ⟨final, rfl, rfl⟩
  · intro short
    have unreached : (approvedBlock service (blockToDomain P db row) key signature).finalized ≠ true := by
      rw [approvedBlock_finalized]
      exact fun reached => short (of_decide_eq_true reached)
    rw [approveReplay, if_neg unreached] at replay
    cases replay
    rfl

theorem approveBody_of_approves {row : BlockRow} {balances : Option (List (BalanceEntry F))}
    (inScope : Scoped P service.chainId service.networkId)
    (approves : Approves P service hash key signature db row balances) :
    approveBody P service hash key signature db =
      .ok (approvedBlock service (blockToDomain P db row) key signature,
        storeApproval service row.id (approvedBlock service (blockToDomain P db row) key signature)
          balances db) := by
  have load : approveLoad P service hash db = .ok (blockToDomain P db row) :=
    approveLoad_eq_ok_iff.mpr ⟨row, approves.found, approves.onChain, approves.awaiting, rfl⟩
  have decision : approveDecide P service key signature (getActiveValidators db service.chainId)
      (blockToDomain P db row) = .ok (approvedBlock service (blockToDomain P db row) key signature) :=
    approveDecide_eq_ok_iff.mpr ⟨approves.approvable, rfl⟩
  have final := @approvedBlock_finalized service key signature (blockToDomain P db row)
  by_cases reached : service.quorumThreshold ≤ row.approvals.length + 1
  · obtain ⟨state, replayed, rfl⟩ := approves.replayed reached
    have replay : approveReplay P service (approvedBlock service (blockToDomain P db row) key
        signature) db = .ok (some state) := by
      rw [approveReplay, if_pos (final.trans (decide_eq_true reached)),
        approvedBlock_transactions, replayed]
      rfl
    have write : approveWrite P service (approvedBlock service (blockToDomain P db row) key
        signature) (some state) db = .ok (storeApproval service row.id
          (approvedBlock service (blockToDomain P db row) key signature) (some state.toList) db) := by
      rw [approveWrite, approvedBlock_id, P.asUuid_strOfUuid]
      exact (replaceBalances_eq_ok_iff P).mpr ⟨inScope.1, fun _ => inScope.2,
        approves.accounts _ rfl, rfl⟩
    exact bind_eq_ok.mpr ⟨_, load, bind_eq_ok.mpr ⟨_, decision, bind_eq_ok.mpr ⟨_, replay,
      bind_eq_ok.mpr ⟨_, write, rfl⟩⟩⟩⟩
  · have none := approves.unsettled reached
    subst none
    have replay : approveReplay P service (approvedBlock service (blockToDomain P db row) key
        signature) db = .ok none := by
      rw [approveReplay, if_neg]
      rw [final]
      exact fun final => reached (of_decide_eq_true final)
    have write : approveWrite P service (approvedBlock service (blockToDomain P db row) key
        signature) none db = .ok (storeApproval service row.id
          (approvedBlock service (blockToDomain P db row) key signature) none db) := by
      rw [approveWrite, approvedBlock_id, P.asUuid_strOfUuid]
      rfl
    exact bind_eq_ok.mpr ⟨_, load, bind_eq_ok.mpr ⟨_, decision, bind_eq_ok.mpr ⟨_, replay,
      bind_eq_ok.mpr ⟨_, write, rfl⟩⟩⟩⟩

theorem Approvable.approved {validators : List String} {loaded : ComputeBlock}
    (approvable : Approvable P service validators loaded key signature)
    (final : service.quorumThreshold ≤ loaded.approvals.length + 1) :
    Approved P validators service.quorumThreshold (approvedBlock service loaded key signature) := by
  have counted := (approvable.valid final).approved P (decide_eq_true final)
  rw [approvedBlock, if_pos final]
  exact counted

end Approval

/-! ## Balances -/

theorem rebuildBody_effect {entries : List (BalanceEntry F)}
    (run : rebuildBody P service db = .ok (entries, later)) :
    ∃ state, replayTransactions P ((listSealedTransactions db service.chainId).map
        (rowToTx P)) = .ok state ∧
      later = { db with
        balances := db.balances.filter (fun row => row.chainId ≠ service.chainId) ++
          balanceRows service.chainId state.toList } := by
  simp only [rebuildBody, bind_eq_ok] at run
  obtain ⟨state, replayed, written, replaced, same⟩ := run
  cases same
  obtain ⟨_, _, _, written⟩ := (replaceBalances_eq_ok_iff P).mp replaced
  exact ⟨state, replayed, written⟩

theorem registerBody_effect {key : String} {done : Unit}
    (run : registerBody P service key db = .ok (done, later)) : SameLedger db later := by
  rw [registerBody] at run
  cases registered : upsertValidator P service.chainId key service.networkId db with
  | error error =>
    rw [registered] at run
    cases run
  | ok middle =>
    rw [registered] at run
    cases run
    exact (upsertValidator_effect P registered).1

end Effects

end Ledger
end ZepGpu
