import ZepGpu.Ledger.Platform

namespace ZepGpu
namespace Ledger

open Foundation List

/-!
# Ledger transactions

A transaction is an attestation or a settlement signed by its sender.  Its
digest and its signature cover every field except the signature itself.
-/

variable {F : Type} [Arithmetic F]

inductive TxType where
  | jobSubmitted
  | jobAssigned
  | jobCompleted
  | creditSettled
  | validatorRegistered
  | bridgeBurn
  | bridgeMint
  deriving DecidableEq, Repr

def TxType.value : TxType -> String
  | .jobSubmitted => "JOB_SUBMITTED"
  | .jobAssigned => "JOB_ASSIGNED"
  | .jobCompleted => "JOB_COMPLETED"
  | .creditSettled => "CREDIT_SETTLED"
  | .validatorRegistered => "VALIDATOR_REGISTERED"
  | .bridgeBurn => "BRIDGE_BURN"
  | .bridgeMint => "BRIDGE_MINT"

/-- A signed transaction as it is submitted and stored. -/
structure ComputeTransaction where
  txType : TxType
  sender : String
  nonce : Int
  payload : Dict
  timestamp : String
  id : String
  signature : String := ""

namespace ComputeTransaction

/-- Fields that participate in the transaction hash and the signature. -/
def signingPayload (tx : ComputeTransaction) : Json :=
  .obj [("id", .str tx.id), ("tx_type", .str tx.txType.value), ("sender", .str tx.sender),
    ("nonce", .int tx.nonce), ("timestamp", .str tx.timestamp), ("payload", .obj tx.payload)]

def signingText (P : Platform F) (tx : ComputeTransaction) : String :=
  P.canonicalJson tx.signingPayload

def computeHash (P : Platform F) (tx : ComputeTransaction) : String :=
  P.sha256Hex (tx.signingText P)

end ComputeTransaction

theorem Platform.canonicalJson_obj (P : Platform F) (fields : Dict) :
    ∃ body, (P.canonicalJson (.obj fields)).toList = '{' :: (body ++ ['}']) := by
  rw [Platform.canonicalJson, String.toList_ofList, Json.encode]
  exact ⟨_, rfl⟩

theorem signingText_eq (P : Platform F) (tx : ComputeTransaction) :
    (tx.signingText P).toList =
      "\x7b\"id\":".toList ++ (Json.quoted tx.id ++ (",\"nonce\":".toList ++
      ((toString tx.nonce).toList ++ (",\"payload\":".toList ++
      ((Json.obj tx.payload).encode P.reprNumber ++ (",\"sender\":".toList ++
      (Json.quoted tx.sender ++ (",\"timestamp\":".toList ++ (Json.quoted tx.timestamp ++
      (",\"tx_type\":".toList ++ (Json.quoted tx.txType.value ++ ['}']))))))))))) := by
  rw [ComputeTransaction.signingText, Platform.canonicalJson, String.toList_ofList,
    ComputeTransaction.signingPayload, Json.encode]
  simp only [Json.encodeFields]
  rw [show List.insertionSort (fun left right : String × List Char => left.1 ≤ right.1)
      [("id", (Json.str tx.id).encode P.reprNumber),
        ("tx_type", (Json.str tx.txType.value).encode P.reprNumber),
        ("sender", (Json.str tx.sender).encode P.reprNumber),
        ("nonce", (Json.int tx.nonce).encode P.reprNumber),
        ("timestamp", (Json.str tx.timestamp).encode P.reprNumber),
        ("payload", (Json.obj tx.payload).encode P.reprNumber)] =
      [("id", (Json.str tx.id).encode P.reprNumber),
        ("nonce", (Json.int tx.nonce).encode P.reprNumber),
        ("payload", (Json.obj tx.payload).encode P.reprNumber),
        ("sender", (Json.str tx.sender).encode P.reprNumber),
        ("timestamp", (Json.str tx.timestamp).encode P.reprNumber),
        ("tx_type", (Json.str tx.txType.value).encode P.reprNumber)] by
    simp [List.insertionSort, List.orderedInsert]]
  generalize (Json.obj tx.payload).encode P.reprNumber = payload
  simp [Json.encode, Json.commaSeparated, Json.quoted, Json.escape, Json.escapeChar]

theorem signingText_front (P : Platform F) (tx : ComputeTransaction) :
    ∃ rest, (tx.signingText P).toList = "\x7b\"id\":".toList ++ (Json.quoted tx.id ++ rest) :=
  ⟨_, signingText_eq P tx⟩

/-- Transactions that differ at most in identifier, time and signature have
the same text only when the first two agree. -/
theorem signingText_inj (P : Platform F) (left right : ComputeTransaction)
    (nonce : left.nonce = right.nonce) (payload : left.payload = right.payload)
    (sender : left.sender = right.sender) (same : left.signingText P = right.signingText P) :
    left.id = right.id ∧ left.timestamp = right.timestamp := by
  have lists := congrArg String.toList same
  rw [signingText_eq, signingText_eq, nonce, payload, sender] at lists
  obtain ⟨idEq, afterId⟩ := Json.quoted_inj (append_cancel_left lists)
  have atTime := append_cancel_left (append_cancel_left (append_cancel_left
    (append_cancel_left (append_cancel_left (append_cancel_left
      (append_cancel_left afterId))))))
  exact ⟨idEq, (Json.quoted_inj atTime).1⟩

end Ledger
end ZepGpu
