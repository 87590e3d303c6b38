import ZepGpu.Ledger.Authority

namespace ZepGpu
namespace Ledger

open Foundation

/-!
# Light-client header sync

Headers arrive as dictionaries whose values are not typed, so every field but
the height is kept as the value that was received.  A check on a value of the
wrong kind fails as it does in the source: a signature over it is invalid, and
a value that cannot be hashed cannot be looked up among the validators.
-/

variable {F : Type} [Arithmetic F]

/-- A header as a light client reads it, with the values that it was sent. -/
structure BlockHeader where
  height : Int
  hash : Json
  previousHash : Json
  timestamp : Json
  transactionsRoot : Json
  stateRoot : Json
  validator : Json
  validatorSignature : Json
  approvals : List Json := []
  finalized : Bool := true

section LightClient

variable (P : Platform F)

def ValidatorApproval.toDict (approval : ValidatorApproval) : Json :=
  .obj [("validator", .str approval.validator), ("signature", .str approval.signature)]

def BlockHeader.fromBlock (block : ComputeBlock) : BlockHeader where
  height := block.height
  hash := .str block.hash
  previousHash := .str block.previousHash
  timestamp := .str block.timestamp
  transactionsRoot := .str block.transactionsRoot
  stateRoot := .str block.stateRoot
  validator := .str block.validator
  validatorSignature := .str block.validatorSignature
  approvals := block.approvals.map ValidatorApproval.toDict
  finalized := block.finalized

/-- `data[key]` -/
def requireKey (data : Dict) (key : String) : Except PyError Json :=
  match data.get? key with
  | some value => .ok value
  | none => .error (.keyError key)

/-- `list(value)` -/
def listOfJson : Json -> Except PyError (List Json)
  | .arr items => .ok items
  | .obj fields => .ok (fields.map (fun field => .str field.1))
  | .str text => .ok (text.toList.map (fun c => .str (String.singleton c)))
  | _ => .error (.typeError "object is not iterable")

def BlockHeader.fromDict (data : Dict) : Except PyError BlockHeader := do
  let height ← requireKey data "height"
  let height ← P.int height
  let hash ← requireKey data "hash"
  let previousHash ← requireKey data "previous_hash"
  let timestamp ← requireKey data "timestamp"
  let transactionsRoot ← requireKey data "transactions_root"
  let stateRoot ← requireKey data "state_root"
  let validator ← requireKey data "validator"
  let validatorSignature ← requireKey data "validator_signature"
  let approvals ← listOfJson (data.getOr "approvals" (.arr []))
  .ok {
    height := height
    hash := hash
    previousHash := previousHash
    timestamp := timestamp
    transactionsRoot := transactionsRoot
    stateRoot := stateRoot
    validator := validator
    validatorSignature := validatorSignature
    approvals := approvals
    finalized := ((data.get? "finalized").map Json.truthy).getD true }

def headersFromDicts : List Dict -> Except PyError (List BlockHeader)
  | [] => .ok []
  | data :: rest => do
      let header ← BlockHeader.fromDict P data
      let headers ← headersFromDicts rest
      .ok (header :: headers)

/-- `verify_signature` on received values: anything but texts is refused. -/
def verifyReceived (key : String) (message signature : Json) : Bool :=
  match message, signature with
  | .str message, .str signature => P.verifySignature key message signature
  | _, _ => false

/-- `value in keys` for a set of texts. -/
def memberOf (value : Json) (keys : List String) : Except PyError Bool :=
  match value with
  | .str text => .ok (decide (text ∈ keys))
  | .arr _ => .error (.typeError "unhashable type: 'list'")
  | .obj _ => .error (.typeError "unhashable type: 'dict'")
  | _ => .ok false

/-- `approval.get(key)` -/
def approvalGet (approval : Json) (key : String) : Except PyError (Option Json) :=
  match approval with
  | .obj fields => .ok (Dict.get? fields key)
  | _ => .error (.attributeError "object has no attribute 'get'")

/-- `value or ""` -/
def orEmpty (value : Option Json) : Json :=
  match value with
  | some value => if value.truthy then value else .str ""
  | none => .str ""

def anyApprovalBy (validator : Json) : List Json -> Except PyError Bool
  | [] => .ok false
  | approval :: rest => do
      let named ← approvalGet approval "validator"
      if validator.same (named.getD .null) then .ok true else anyApprovalBy validator rest

def countHeaderApprovals (hash : Json) (authorized : List String) :
    List String -> List Json -> Except PyError (List String)
  | seen, [] => .ok seen
  | seen, approval :: rest => do
      let validator ← approvalGet approval "validator"
      let signature ← approvalGet approval "signature"
      let known ← memberOf (orEmpty validator) authorized
      raiseIf (known = false)
        (.ledgerValidationError ("Unauthorized header approval from " ++ P.str (orEmpty validator)))
      match orEmpty validator with
      | .str key => do
          raiseIf (key ∈ seen) (.ledgerValidationError ("Duplicate header approval from " ++ key))
          raiseIf (verifyReceived P key hash (orEmpty signature) = false)
            (.ledgerValidationError ("Invalid header approval from " ++ key))
          countHeaderApprovals hash authorized (seen ++ [key]) rest
      -- a known validator is a text
      | _ => .ok seen

def verifyHeaderSignatures (header : BlockHeader) (authorized : List String)
    (quorumThreshold : Nat) : Except PyError Unit := do
  let known ← memberOf header.validator authorized
  raiseIf (known = false) (.ledgerValidationError "Header validator is not authorized")
  raiseIf (verifyReceived P (P.str header.validator) header.hash header.validatorSignature = false)
    (.ledgerValidationError "Invalid header proposer signature")
  let present ← anyApprovalBy header.validator header.approvals
  let approvals :=
    if present then header.approvals
    else header.approvals ++
      [.obj [("validator", header.validator), ("signature", header.validatorSignature)]]
  let seen ← countHeaderApprovals P header.hash authorized [] approvals
  raiseIf (header.finalized = true ∧ seen.length < quorumThreshold)
    (.ledgerValidationError ("Header quorum not met: have " ++ toString seen.length ++ ", need " ++
      toString quorumThreshold))

/-- The answer of `verify_header_chain`. -/
structure HeaderReport where
  valid : Bool
  headers : Nat
  tipHash : Option Json
  tipHeight : Int
  tipStateRoot : Option Json
  errors : List String

def PyError.message : PyError -> String
  | .ledgerValidationError message => message
  | .valueError message => message
  | .typeError message => message
  | .overflowError message => message
  | .indexError message => message
  | .keyError key => key
  | .attributeError message => message
  | .integrityError name => name
  | .dataError column => column

/-- `except LedgerValidationError`: the text of a validation error, nothing for
a success, and any other exception again. -/
def catchValidation {α : Type} (attempt : Except PyError α) : Except PyError (List String) :=
  match attempt with
  | .ok _ => .ok []
  | .error (.ledgerValidationError message) => .ok [message]
  | .error error => .error error

/-- The loop of `verify_header_chain`: the errors of the remaining headers. -/
def headerErrors (authorized : List String) (quorumThreshold : Nat) :
    Int -> Option Json -> List BlockHeader -> Except PyError (List String)
  | _, _, [] => .ok []
  | expected, previous, header :: rest => do
      let gap := if header.height ≠ expected then
        ["height gap: got " ++ toString header.height ++ ", expected " ++ toString expected] else []
      let unlinked := if previous.any (fun hash => !hash.same header.previousHash) then
        ["height=" ++ toString header.height ++ ": previous_hash mismatch"] else []
      let unsigned ← catchValidation (verifyHeaderSignatures P header authorized
        (if header.finalized then quorumThreshold else 1))
      let later ← headerErrors authorized quorumThreshold (expected + 1) (some header.hash) rest
      .ok (gap ++ unlinked ++
        unsigned.map (fun text => "height=" ++ toString header.height ++ ": " ++ text) ++ later)

def sortHeaders (headers : List BlockHeader) : List BlockHeader :=
  headers.insertionSort (fun left right => left.height ≤ right.height)

def startHeight (headers : List BlockHeader) (fromHeight : Option Int) : Int :=
  fromHeight.getD ((sortHeaders headers).head?.elim 0 BlockHeader.height)

def startLink (start : Int) (expectedGenesisPrev : String) : Option Json :=
  if start = 0 then some (.str expectedGenesisPrev) else none

def verifyHeaderChain (headers : List BlockHeader) (authorized : List String)
    (quorumThreshold : Nat := 1) (expectedGenesisPrev : String := zeroHash)
    (fromHeight : Option Int := none) : Except PyError HeaderReport :=
  if headers.isEmpty then
    .ok { valid := true, headers := 0, tipHash := none, tipHeight := -1, tipStateRoot := none,
          errors := [] }
  else do
    let start := startHeight headers fromHeight
    let errors ← headerErrors P authorized quorumThreshold start
      (startLink start expectedGenesisPrev) (sortHeaders headers)
    let tip := (sortHeaders headers).getLast?
    .ok {
      valid := errors.isEmpty
      headers := headers.length
      tipHash := tip.map BlockHeader.hash
      tipHeight := tip.elim (-1) BlockHeader.height
      tipStateRoot := tip.map BlockHeader.stateRoot
      errors := errors }

def verifyTxInclusion (header : BlockHeader) (proof : MerkleProof) : Except PyError Bool :=
  if (Json.str proof.root).same header.transactionsRoot then verifyMerkleProof P proof
  else .ok false

end LightClient

end Ledger
end ZepGpu
