import ZepGpu.Ledger.Service

namespace ZepGpu
namespace Ledger

open Foundation

/-!
# Proposed blocks

What the service signs passes the checks it is later put to.  A transaction
signed with a key verifies under the public key of that key, and a block that
is proposed on a tip is valid there as soon as its transactions are, whatever
approvals it has collected besides the proposer's, provided these are distinct
and signed.
-/

variable {F : Type} [Arithmetic F]

section Proposal

variable (P : Platform F)

theorem validatorKeys_public (service : LedgerService) :
    (service.validatorKeys P).2 = P.publicKeyFromPrivate (service.validatorKeys P).1 := by
  rw [LedgerService.validatorKeys]
  split_ifs
  · rfl
  · exact P.derived_public _

theorem extraValidatorKeys_public {service : LedgerService} {keys : String × String}
    (member : keys ∈ service.extraValidatorKeys P) : keys.2 = P.publicKeyFromPrivate keys.1 := by
  rw [LedgerService.extraValidatorKeys, List.mem_filterMap] at member
  obtain ⟨priv, _, same⟩ := member
  split_ifs at same
  cases same
  rfl

theorem quorumThreshold_pos (service : LedgerService) : 1 ≤ service.quorumThreshold := by
  rw [LedgerService.quorumThreshold]
  omega

theorem newSignedTransaction_valid (requireSignature : Bool) {key : String} {txType : TxType}
    {nonce : Int} {payload : Dict} {stamp : Stamp} (natural : 0 ≤ nonce) :
    TransactionValid P requireSignature
      (newSignedTransaction P key txType nonce payload (P.publicKeyFromPrivate key) stamp) :=
  ⟨P.strOfUuid_ne_empty _, P.publicKey_ne_empty _, natural, fun _ =>
    ⟨P.signature_ne_empty _ _, P.verify_sign _ _⟩⟩

section ProposeBlock

variable (keys : String × String) (height : Int) (previousHash : String)
  (transactions : List ComputeTransaction) (state : CreditState F) (stamp : Stamp)

/-- The header of a proposed block, before it is hashed and signed. -/
def draftBlock : ComputeBlock where
  height := height
  previousHash := previousHash
  transactions := transactions
  validator := keys.2
  timestamp := P.isoformat stamp.time
  id := P.strOfUuid stamp.id
  transactionsRoot := merkleRoot P (transactions.map (fun tx => tx.computeHash P))
  stateRoot := state.stateRoot P

def proposedHash : String :=
  (draftBlock P keys height previousHash transactions state stamp).computeHash P

theorem proposeBlock_eq :
    proposeBlock P keys height previousHash transactions state stamp =
      { draftBlock P keys height previousHash transactions state stamp with
        hash := proposedHash P keys height previousHash transactions state stamp
        validatorSignature := P.signMessage keys.1
          (proposedHash P keys height previousHash transactions state stamp)
        approvals := [⟨keys.2, P.signMessage keys.1
          (proposedHash P keys height previousHash transactions state stamp)⟩] } := by
  have signed := P.signature_ne_empty keys.1
    (proposedHash P keys height previousHash transactions state stamp)
  change ComputeBlock.ensureProposerApproval
      { draftBlock P keys height previousHash transactions state stamp with
        hash := proposedHash P keys height previousHash transactions state stamp
        validatorSignature := P.signMessage keys.1
          (proposedHash P keys height previousHash transactions state stamp) } = _
  rw [ComputeBlock.ensureProposerApproval, if_neg signed]
  rfl

variable {keys height previousHash transactions state stamp}

theorem ensureProposerApproval_of_mem {block : ComputeBlock}
    (proposer : block.validator ∈ block.approvals.map ValidatorApproval.validator) :
    block.ensureProposerApproval = block := by
  rw [ComputeBlock.ensureProposerApproval]
  obtain ⟨approval, member, same⟩ := List.mem_map.mp proposer
  have found : block.approvals.any (fun approval => approval.validator = block.validator) = true :=
    List.any_eq_true.mpr ⟨approval, member, decide_eq_true same⟩
  rw [if_pos found]
  split_ifs <;> rfl

theorem proposeBlock_valid {check : BlockCheck} {approvals : List ValidatorApproval}
    {finalized : Bool} (own : keys.2 = P.publicKeyFromPrivate keys.1)
    (heightAt : ∀ expected, check.expectedHeight = some expected -> height = expected)
    (linked : ∀ expected, check.expectedPreviousHash = some expected ->
      previousHash = expected)
    (member : keys.2 ∈ check.authorizedValidators)
    (transactionsValid : ∀ tx, tx ∈ transactions ->
      TransactionValid P check.requireTxSignatures tx)
    (approved : (check.requireQuorum || finalized) = true -> 1 ≤ check.quorumThreshold ∧
      Approved P check.authorizedValidators check.quorumThreshold
        { proposeBlock P keys height previousHash transactions state stamp with
          approvals := approvals, finalized := finalized }) :
    BlockValid P check
      { proposeBlock P keys height previousHash transactions state stamp with
        approvals := approvals, finalized := finalized } := by
  rw [proposeBlock_eq] at approved ⊢
  exact {
    height := heightAt
    previous := linked
    authorized := member
    root := rfl
    hash := rfl
    signature := P.signature_ne_empty _ _
    signed := by
      dsimp only [draftBlock]
      rw [own]
      exact P.verify_sign _ _
    approvals := fun counted => by
      have same := ensureProposerApproval_of_mem (approved counted).2.proposer
      rw [same]
      exact approved counted
    transactions := transactionsValid }

theorem proposeBlock_approved {validators : List String}
    (own : keys.2 = P.publicKeyFromPrivate keys.1) (member : keys.2 ∈ validators) :
    Approved P validators 1 (proposeBlock P keys height previousHash transactions state stamp) := by
  rw [proposeBlock_eq]
  exact {
    authorized := fun approval inside => by
      rw [List.mem_singleton.mp inside]
      exact member
    distinct := List.nodup_singleton _
    signed := fun approval inside => by
      rw [List.mem_singleton.mp inside]
      dsimp only
      rw [own]
      exact P.verify_sign _ _
    proposer := List.mem_singleton.mpr rfl
    quorum := Nat.le_refl 1 }

theorem validateBlock_proposeBlock {check : BlockCheck} (single : check.quorumThreshold = 1)
    (own : keys.2 = P.publicKeyFromPrivate keys.1)
    (heightAt : ∀ expected, check.expectedHeight = some expected -> height = expected)
    (linked : ∀ expected, check.expectedPreviousHash = some expected -> previousHash = expected)
    (member : keys.2 ∈ check.authorizedValidators)
    (transactionsValid : ∀ tx, tx ∈ transactions -> TransactionValid P check.requireTxSignatures tx)
     :
    validateBlock P (proposeBlock P keys height previousHash transactions state stamp) check =
      .ok (proposeBlock P keys height previousHash transactions state stamp) := by
  have approved : Approved P check.authorizedValidators 1
      (proposeBlock P keys height previousHash transactions state stamp) :=
    proposeBlock_approved P own member
  have unchanged := ensureProposerApproval_of_mem approved.proposer
  rw [validateBlock_eq_ok_iff]
  refine ⟨?_, ?_⟩
  · exact proposeBlock_valid P own heightAt linked member transactionsValid
      (fun _ => by rw [single]; exact ⟨Nat.le_refl 1, approved⟩)
  · rw [BlockCheck.normalize, unchanged]
    split_ifs <;> rfl

end ProposeBlock

end Proposal

end Ledger
end ZepGpu
