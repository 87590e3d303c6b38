import ZepGpu.Ledger.Block

namespace ZepGpu
namespace Ledger

open Foundation List

/-!
# Proof-of-authority validation

The checks on transactions, approvals and blocks, with their exceptions.  For
each check there is one characterization: it passes exactly when a named list
of conditions holds.  Everything later cites these and never unfolds the
checks again.
-/

variable {F : Type} [Arithmetic F]

section Authority

variable (P : Platform F)

/-- Validate transaction structure and, when asked, the sender's signature. -/
def validateTransaction (tx : ComputeTransaction) (requireSignature : Bool := true) :
    Except PyError Unit := do
  raiseIf (tx.id = "" ∨ tx.sender = "") (.ledgerValidationError "Transaction missing id or sender")
  raiseIf (tx.nonce < 0) (.ledgerValidationError "Transaction nonce must be non-negative")
  raiseIf (requireSignature = true ∧ tx.signature = "")
    (.ledgerValidationError "Transaction signature required")
  raiseIf (requireSignature = true ∧
      P.verifySignature tx.sender (tx.signingText P) tx.signature = false)
    (.ledgerValidationError "Invalid transaction signature")

def validateTransactions (requireSignature : Bool) : List ComputeTransaction -> Except PyError Unit
  | [] => .ok ()
  | tx :: rest => do
      validateTransaction P tx requireSignature
      validateTransactions requireSignature rest

/-- The loop over the approvals of a block; `seen` holds the validators already
counted. -/
def countApprovals (hash : String) (authorized : List String) :
    List String -> List ValidatorApproval -> Except PyError (List String)
  | seen, [] => .ok seen
  | seen, approval :: rest => do
      raiseIf (approval.validator ∉ authorized)
        (.ledgerValidationError ("Unauthorized approval from " ++ approval.validator))
      raiseIf (approval.validator ∈ seen)
        (.ledgerValidationError ("Duplicate approval from " ++ approval.validator))
      raiseIf (P.verifySignature approval.validator hash approval.signature = false)
        (.ledgerValidationError ("Invalid approval signature from " ++ approval.validator))
      countApprovals hash authorized (seen ++ [approval.validator]) rest

/-- Validate that the approvals meet the quorum.  The proposer's own approval
is added to the block when it is missing. -/
def validateApprovals (block : ComputeBlock) (authorized : List String) (quorumThreshold : Nat) :
    Except PyError ComputeBlock := do
  raiseIf (quorumThreshold < 1) (.ledgerValidationError "quorum_threshold must be >= 1")
  let block := block.ensureProposerApproval
  let seen ← countApprovals P block.hash authorized [] block.approvals
  raiseIf (block.validator ∉ seen) (.ledgerValidationError "Proposer approval missing")
  raiseIf (seen.length < quorumThreshold)
    (.ledgerValidationError ("Quorum not met: have " ++ toString seen.length ++ ", need " ++
      toString quorumThreshold))
  .ok block

/-- The arguments of `validate_block` beside the block. -/
structure BlockCheck where
  authorizedValidators : List String
  expectedPreviousHash : Option String := none
  expectedHeight : Option Int := none
  requireTxSignatures : Bool := true
  quorumThreshold : Nat := 1
  requireQuorum : Bool := true

/-- Validate linkage, Merkle root, signatures and the contained transactions. -/
def validateBlock (block : ComputeBlock) (check : BlockCheck) : Except PyError ComputeBlock := do
  raiseIf (check.expectedHeight.any (fun height => decide (block.height ≠ height)) = true)
    (.ledgerValidationError ("Unexpected block height: got " ++ toString block.height ++
      ", expected " ++ toString (check.expectedHeight.getD 0)))
  raiseIf (check.expectedPreviousHash.any (fun hash => decide (block.previousHash ≠ hash)) = true)
    (.ledgerValidationError "previous_hash does not match tip")
  raiseIf (block.validator ∉ check.authorizedValidators)
    (.ledgerValidationError "Block validator is not authorized")
  raiseIf (block.transactionsRoot ≠ merkleRoot P (block.leafHashes P))
    (.ledgerValidationError "transactions_root mismatch")
  raiseIf (block.hash ≠ block.computeHash P) (.ledgerValidationError "Block hash mismatch")
  raiseIf (block.validatorSignature = "")
    (.ledgerValidationError "Block validator signature required")
  raiseIf (P.verifySignature block.validator block.hash block.validatorSignature = false)
    (.ledgerValidationError "Invalid block validator signature")
  let block ←
    if check.requireQuorum || block.finalized then
      validateApprovals P block check.authorizedValidators check.quorumThreshold
    else .ok block
  validateTransactions P check.requireTxSignatures block.transactions
  .ok block

def addApproval (block : ComputeBlock) (validatorPublicKey signature : String)
    (authorized : List String) : Except PyError ComputeBlock := do
  raiseIf (validatorPublicKey ∉ authorized) (.ledgerValidationError "Validator is not authorized")
  raiseIf (P.verifySignature validatorPublicKey block.hash signature = false)
    (.ledgerValidationError "Invalid approval signature")
  raiseIf (block.approvals.any (fun existing => existing.validator = validatorPublicKey) = true)
    (.ledgerValidationError "Validator already approved this block")
  .ok { block with approvals := block.approvals ++ [⟨validatorPublicKey, signature⟩] }

/-- What `validate_transaction` establishes. -/
def TransactionValid (requireSignature : Bool) (tx : ComputeTransaction) : Prop :=
  tx.id ≠ "" ∧ tx.sender ≠ "" ∧ 0 ≤ tx.nonce ∧
    (requireSignature = true -> tx.signature ≠ "" ∧
      P.verifySignature tx.sender (tx.signingText P) tx.signature = true)

theorem validateTransaction_eq_ok_iff {requireSignature : Bool} {tx : ComputeTransaction} {done : Unit} :
    validateTransaction P tx requireSignature = .ok done ↔ TransactionValid P requireSignature tx := by
  simp only [validateTransaction, raiseIf_bind_eq_ok, raiseIf_eq_ok, TransactionValid, not_or,
    not_lt, not_and, Bool.not_eq_false]
  tauto

theorem validateTransactions_eq_ok_iff {requireSignature : Bool} {txs : List ComputeTransaction}
    {done : Unit} :
    validateTransactions P requireSignature txs = .ok done ↔
      ∀ tx, tx ∈ txs -> TransactionValid P requireSignature tx := by
  induction txs with
  | nil => simp [validateTransactions]
  | cons tx rest ih =>
    simp only [validateTransactions, bind_eq_ok, forall_mem_cons, ← ih]
    constructor
    · rintro ⟨_, here, later⟩
      exact ⟨(validateTransaction_eq_ok_iff P).mp here, later⟩
    · rintro ⟨here, later⟩
      exact ⟨(), (validateTransaction_eq_ok_iff P).mpr here, later⟩

/-- Every approval is by a distinct authorized validator and carries a valid
signature on the hash, the proposer is among them, and their number reaches
the quorum. -/
structure Approved (authorized : List String) (quorumThreshold : Nat) (block : ComputeBlock) : Prop where
  authorized : ∀ approval, approval ∈ block.approvals -> approval.validator ∈ authorized
  distinct : (block.approvals.map ValidatorApproval.validator).Nodup
  signed : ∀ approval, approval ∈ block.approvals ->
    P.verifySignature approval.validator block.hash approval.signature = true
  proposer : block.validator ∈ block.approvals.map ValidatorApproval.validator
  quorum : quorumThreshold ≤ block.approvals.length

/-- The loop passes exactly when no approval is unknown, repeated or badly
signed, and it then counts every approval once. -/
theorem countApprovals_eq_ok_iff {hash : String} {authorized seen counted : List String}
    {approvals : List ValidatorApproval} (seenDistinct : seen.Nodup) :
    countApprovals P hash authorized seen approvals = .ok counted ↔
      counted = seen ++ approvals.map ValidatorApproval.validator ∧ counted.Nodup ∧
        (∀ approval, approval ∈ approvals -> approval.validator ∈ authorized) ∧
        ∀ approval, approval ∈ approvals ->
          P.verifySignature approval.validator hash approval.signature = true := by
  induction approvals generalizing seen with
  | nil =>
    simp only [countApprovals, Except.ok.injEq, map_nil, append_nil, not_mem_nil,
      false_implies, implies_true, and_true]
    constructor
    · intro same
      exact ⟨same.symm, same ▸ seenDistinct⟩
    · intro same
      exact same.1.symm
  | cons approval rest ih =>
    simp only [countApprovals, raiseIf_bind_eq_ok, not_not, Bool.not_eq_false, map_cons,
      forall_mem_cons]
    constructor
    · rintro ⟨known, fresh, signed, counts⟩
      have longer : (seen ++ [approval.validator]).Nodup := by
        rw [nodup_append_comm]
        exact nodup_cons.mpr ⟨fresh, seenDistinct⟩
      obtain ⟨shape, distinct, allKnown, allSigned⟩ := (ih longer).mp counts
      rw [append_assoc, singleton_append] at shape
      exact ⟨shape, distinct, ⟨known, allKnown⟩, signed, allSigned⟩
    · rintro ⟨shape, distinct, ⟨known, allKnown⟩, signed, allSigned⟩
      have fresh : approval.validator ∉ seen := by
        intro repeated
        rw [shape, nodup_append] at distinct
        exact distinct.2.2 _ repeated _ mem_cons_self rfl
      have longer : (seen ++ [approval.validator]).Nodup := by
        rw [nodup_append_comm]
        exact nodup_cons.mpr ⟨fresh, seenDistinct⟩
      refine ⟨known, fresh, signed, (ih longer).mpr ⟨?_, distinct, allKnown, allSigned⟩⟩
      rw [append_assoc, singleton_append, shape]

theorem validateApprovals_eq_ok_iff {block passed : ComputeBlock} {authorized : List String}
    {quorumThreshold : Nat} :
    validateApprovals P block authorized quorumThreshold = .ok passed ↔
      1 ≤ quorumThreshold ∧ passed = block.ensureProposerApproval ∧
        Approved P authorized quorumThreshold passed := by
  simp only [validateApprovals, raiseIf_bind_eq_ok]
  simp only [bind_eq_ok, raiseIf_eq_ok, exists_const, not_lt, Except.ok.injEq, not_not]
  constructor
  · rintro ⟨positive, seen, counts, proposer, quorum, rfl⟩
    obtain ⟨shape, distinct, known, signed⟩ :=
      (countApprovals_eq_ok_iff P nodup_nil).mp counts
    rw [nil_append] at shape
    subst shape
    exact ⟨positive, rfl, known, distinct, signed, proposer, by simpa using quorum⟩
  · rintro ⟨positive, rfl, approved⟩
    refine ⟨positive, _, (countApprovals_eq_ok_iff P nodup_nil).mpr
      ⟨rfl, ?_, approved.authorized, approved.signed⟩, ?_, ?_, rfl⟩
    · rw [nil_append]
      exact approved.distinct
    · rw [nil_append]
      exact approved.proposer
    · rw [nil_append, length_map]
      exact approved.quorum

/-- The block after validation: a block whose approvals were counted has the
proposer's among them. -/
def BlockCheck.normalize (check : BlockCheck) (block : ComputeBlock) : ComputeBlock :=
  if check.requireQuorum || block.finalized then block.ensureProposerApproval else block

/-- What `validate_block` establishes. -/
structure BlockValid (check : BlockCheck) (block : ComputeBlock) : Prop where
  height : ∀ height, check.expectedHeight = some height -> block.height = height
  previous : ∀ hash, check.expectedPreviousHash = some hash -> block.previousHash = hash
  authorized : block.validator ∈ check.authorizedValidators
  root : block.transactionsRoot = merkleRoot P (block.leafHashes P)
  hash : block.hash = block.computeHash P
  signature : block.validatorSignature ≠ ""
  signed : P.verifySignature block.validator block.hash block.validatorSignature = true
  approvals : (check.requireQuorum || block.finalized) = true ->
    1 ≤ check.quorumThreshold ∧
      Approved P check.authorizedValidators check.quorumThreshold block.ensureProposerApproval
  transactions : ∀ tx, tx ∈ block.transactions ->
    TransactionValid P check.requireTxSignatures tx

theorem ensureProposerApproval_transactions (block : ComputeBlock) :
    block.ensureProposerApproval.transactions = block.transactions := by
  unfold ComputeBlock.ensureProposerApproval
  split_ifs <;> rfl

theorem option_any_ne_iff {α : Type} [DecidableEq α] {expected : Option α} {actual : α} :
    ¬ expected.any (fun value => decide (actual ≠ value)) = true ↔
      ∀ value, expected = some value -> actual = value := by
  cases expected with
  | none => simp
  | some value => simp

theorem validateBlock_eq_ok_iff {block passed : ComputeBlock} {check : BlockCheck} :
    validateBlock P block check = .ok passed ↔
      BlockValid P check block ∧ passed = check.normalize block := by
  simp only [validateBlock, raiseIf_bind_eq_ok, option_any_ne_iff, not_not, Bool.not_eq_false]
  simp only [BlockCheck.normalize]
  by_cases counted : (check.requireQuorum || block.finalized) = true
  · simp only [counted, if_true, bind_eq_ok, Except.ok.injEq]
    constructor
    · rintro ⟨height, previous, authorized, root, hash, signature, signed, middle, approvals, _,
        transactions, rfl⟩
      obtain ⟨positive, rfl, approved⟩ := (validateApprovals_eq_ok_iff P).mp approvals
      rw [validateTransactions_eq_ok_iff, ensureProposerApproval_transactions] at transactions
      exact ⟨⟨height, previous, authorized, root, hash, signature, signed,
        fun _ => ⟨positive, approved⟩, transactions⟩, rfl⟩
    · rintro ⟨valid, rfl⟩
      refine ⟨valid.height, valid.previous, valid.authorized, valid.root, valid.hash,
        valid.signature, valid.signed, _, (validateApprovals_eq_ok_iff P).mpr
          ⟨(valid.approvals counted).1, rfl, (valid.approvals counted).2⟩, (), ?_, rfl⟩
      rw [validateTransactions_eq_ok_iff, ensureProposerApproval_transactions]
      exact valid.transactions
  · simp only [counted, Bool.false_eq_true, if_false, bind_eq_ok, Except.ok.injEq]
    constructor
    · rintro ⟨height, previous, authorized, root, hash, signature, signed, _, rfl, _,
        transactions, rfl⟩
      exact ⟨⟨height, previous, authorized, root, hash, signature, signed,
        fun impossible => absurd impossible counted,
        (validateTransactions_eq_ok_iff P).mp transactions⟩, rfl⟩
    · rintro ⟨valid, rfl⟩
      exact ⟨valid.height, valid.previous, valid.authorized, valid.root, valid.hash,
        valid.signature, valid.signed, _, rfl, (),
        (validateTransactions_eq_ok_iff P).mpr valid.transactions, rfl⟩

theorem BlockValid.approved {check : BlockCheck} {block : ComputeBlock}
    (valid : BlockValid P check block) (finalized : block.finalized = true) :
    Approved P check.authorizedValidators check.quorumThreshold block.ensureProposerApproval :=
  (valid.approvals (by rw [finalized, Bool.or_true])).2

theorem addApproval_eq_ok_iff {block approved : ComputeBlock} {key signature : String}
    {authorized : List String} :
    addApproval P block key signature authorized = .ok approved ↔
      key ∈ authorized ∧ P.verifySignature key block.hash signature = true ∧
        key ∉ block.approvals.map ValidatorApproval.validator ∧
        approved = { block with approvals := block.approvals ++ [⟨key, signature⟩] } := by
  simp only [addApproval, raiseIf_bind_eq_ok, not_not, Bool.not_eq_false, Except.ok.injEq,
    any_eq_true, decide_eq_true_eq, mem_map]
  constructor
  · rintro ⟨known, signed, fresh, rfl⟩
    exact ⟨known, signed, fresh, rfl⟩
  · rintro ⟨known, signed, fresh, rfl⟩
    exact ⟨known, signed, fresh, rfl⟩

end Authority

end Ledger
end ZepGpu
