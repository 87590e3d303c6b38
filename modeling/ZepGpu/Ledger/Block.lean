import ZepGpu.Ledger.Merkle
import ZepGpu.Ledger.Transaction

namespace ZepGpu
namespace Ledger

open Foundation Json

/-!
# Blocks and their headers

The hash of a block is the digest of the canonical text of its header.  The
header holds the Merkle root of the transactions and the root of the balances
after them; the transactions themselves, the approvals and the finality mark
are not part of the hashed text.

`headerText_inj` reads every field of a header back from its text.
-/

variable {F : Type} [Arithmetic F]

/-- One validator's signature over a block hash. -/
structure ValidatorApproval where
  validator : String
  signature : String
  deriving DecidableEq, Repr

/-- The dictionary whose canonical text is hashed.  A received header may hold
any value in its fields. -/
def headerForHash (height : Int) (previousHash timestamp transactionsRoot stateRoot validator : Json) :
    Json :=
  .obj [("height", .int height), ("previous_hash", previousHash), ("timestamp", timestamp),
    ("transactions_root", transactionsRoot), ("state_root", stateRoot), ("validator", validator)]

structure ComputeBlock where
  height : Int
  previousHash : String
  transactions : List ComputeTransaction
  validator : String
  timestamp : String
  id : String
  transactionsRoot : String := ""
  stateRoot : String := ""
  hash : String := ""
  validatorSignature : String := ""
  approvals : List ValidatorApproval := []
  finalized : Bool := true

namespace ComputeBlock

def leafHashes (P : Platform F) (block : ComputeBlock) : List String :=
  block.transactions.map (fun tx => tx.computeHash P)

def computeTransactionsRoot (P : Platform F) (block : ComputeBlock) : String :=
  merkleRoot P (block.leafHashes P)

def headerText (P : Platform F) (block : ComputeBlock) : String :=
  P.canonicalJson (headerForHash block.height (.str block.previousHash) (.str block.timestamp)
    (.str block.transactionsRoot) (.str block.stateRoot) (.str block.validator))

def computeHash (P : Platform F) (block : ComputeBlock) : String :=
  P.sha256Hex (block.headerText P)

def ensureProposerApproval (block : ComputeBlock) : ComputeBlock :=
  if block.validatorSignature = "" then block
  else if block.approvals.any (fun approval => approval.validator = block.validator) then block
  else { block with approvals := block.approvals ++ [⟨block.validator, block.validatorSignature⟩] }

end ComputeBlock

/-! ## Reading a header back from its text -/

theorem headerText_eq (P : Platform F) (height : Int) (previousHash timestamp transactionsRoot stateRoot
    validator : Json) :
    (headerForHash height previousHash timestamp transactionsRoot stateRoot validator).encode
        P.reprNumber =
      "\x7b\"height\":".toList ++ ((toString height).toList ++ (',' :: ("\"previous_hash\":".toList ++
      (previousHash.encode P.reprNumber ++ (",\"state_root\":".toList ++
      (stateRoot.encode P.reprNumber ++ (",\"timestamp\":".toList ++
      (timestamp.encode P.reprNumber ++ (",\"transactions_root\":".toList ++
      (transactionsRoot.encode P.reprNumber ++ (",\"validator\":".toList ++
      (validator.encode P.reprNumber ++ ['}'])))))))))))) := by
  simp only [headerForHash, Json.encode, Json.encodeFields]
  rw [show List.insertionSort (fun left right : String × List Char => left.1 ≤ right.1)
      [("height", (toString height).toList), ("previous_hash", previousHash.encode P.reprNumber),
        ("timestamp", timestamp.encode P.reprNumber),
        ("transactions_root", transactionsRoot.encode P.reprNumber),
        ("state_root", stateRoot.encode P.reprNumber), ("validator", validator.encode P.reprNumber)] =
      [("height", (toString height).toList), ("previous_hash", previousHash.encode P.reprNumber),
        ("state_root", stateRoot.encode P.reprNumber), ("timestamp", timestamp.encode P.reprNumber),
        ("transactions_root", transactionsRoot.encode P.reprNumber),
        ("validator", validator.encode P.reprNumber)] by
    simp [List.insertionSort, List.orderedInsert]]
  simp [Json.commaSeparated, Json.quoted, Json.escape, Json.escapeChar]

theorem headerText_inj (P : Platform F) {left right : ComputeBlock}
    (same : left.headerText P = right.headerText P) :
    left.previousHash = right.previousHash ∧ left.stateRoot = right.stateRoot ∧
      left.timestamp = right.timestamp ∧ left.transactionsRoot = right.transactionsRoot ∧
      left.validator = right.validator := by
  have lists := congrArg String.toList same
  rw [ComputeBlock.headerText, ComputeBlock.headerText, Platform.canonicalJson,
    Platform.canonicalJson, String.toList_ofList, String.toList_ofList, headerText_eq,
    headerText_eq] at lists
  have afterHeight := List.append_cancel_left lists
  obtain ⟨_, afterComma⟩ := append_separator_inj ',' _ _ _ _
    (comma_not_mem_int left.height) (comma_not_mem_int right.height) afterHeight
  simp only [Json.encode] at afterComma
  obtain ⟨previousEq, afterPrevious⟩ := quoted_inj (List.append_cancel_left afterComma)
  obtain ⟨stateEq, afterState⟩ := quoted_inj (List.append_cancel_left afterPrevious)
  obtain ⟨timeEq, afterTime⟩ := quoted_inj (List.append_cancel_left afterState)
  obtain ⟨rootEq, afterRoot⟩ := quoted_inj (List.append_cancel_left afterTime)
  obtain ⟨validatorEq, _⟩ := quoted_inj (List.append_cancel_left afterRoot)
  exact ⟨previousEq, stateEq, timeEq, rootEq, validatorEq⟩

end Ledger
end ZepGpu
