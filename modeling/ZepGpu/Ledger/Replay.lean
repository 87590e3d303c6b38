import Mathlib.Data.List.AList
import ZepGpu.Ledger.Transaction

namespace ZepGpu
namespace Ledger

open Foundation

/-!
# Deterministic replay of the credit state

The balances are a function of the sequence of transactions.  Applying one
transaction updates the state in place, so a failed application still leaves
a state behind: the recorded nonce, and for a refused burn the account it
created.  `applyTransaction` returns that state beside the exception.  The
service drops the state whenever an application fails, and `replayFrom` does
the same.
-/

variable {F : Type} [Arithmetic F]

/-- GPU-second credits of one account.  The account's name is the key under
which the balance is stored. -/
structure CreditBalance (F : Type) [Arithmetic F] where
  creditSeconds : F := 0
  debitSeconds : F := 0

def CreditBalance.netSeconds (balance : CreditBalance F) : F :=
  balance.creditSeconds - balance.debitSeconds

/-- The global credit ledger: balances by account and last nonces by sender. -/
structure CreditState (F : Type) [Arithmetic F] where
  balances : AList (fun _ : String => CreditBalance F) := ∅
  nonces : AList (fun _ : String => Int) := ∅

/-- One row of `CreditState.to_list`. -/
structure BalanceEntry (F : Type) [Arithmetic F] where
  account : String
  creditSeconds : F
  debitSeconds : F

/-- The canonical text of one row. -/
def BalanceEntry.text (P : Platform F) (row : BalanceEntry F) : List Char :=
  "\x7b\"account\":".toList ++ (Json.quoted row.account ++ (",\"credit_seconds\":".toList ++
    ((P.reprFloat row.creditSeconds).toList ++ (",\"debit_seconds\":".toList ++
      ((P.reprFloat row.debitSeconds).toList ++ ['}'])))))

namespace CreditState

def getOrCreate (state : CreditState F) (account : String) : CreditBalance F :=
  (state.balances.lookup account).getD {}

def setBalance (state : CreditState F) (account : String) (balance : CreditBalance F) : CreditState F :=
  { state with balances := state.balances.insert account balance }

def addCredit (state : CreditState F) (account : String) (amount : F) : CreditState F :=
  let balance := state.getOrCreate account
  state.setBalance account { balance with creditSeconds := balance.creditSeconds + amount }

def addDebit (state : CreditState F) (account : String) (amount : F) : CreditState F :=
  let balance := state.getOrCreate account
  state.setBalance account { balance with debitSeconds := balance.debitSeconds + amount }

def toList (state : CreditState F) : List (BalanceEntry F) :=
  (state.balances.entries.map
    (fun entry => ⟨entry.1, entry.2.creditSeconds, entry.2.debitSeconds⟩)).insertionSort
      (fun left right => left.account ≤ right.account)

/-- Hash of the sorted balances for inclusion in block headers. -/
def stateRoot (P : Platform F) (state : CreditState F) : String :=
  P.sha256Hex (String.ofList
    ('[' :: (Json.commaSeparated (state.toList.map (BalanceEntry.text P)) ++ [']'])))

/-- The net balance of an account, zero when it has none. -/
def net (state : CreditState F) (account : String) : F :=
  (state.getOrCreate account).netSeconds

end CreditState

section Apply

variable (P : Platform F)

def applyJobCompleted (state : CreditState F) (tx : ComputeTransaction) :
    Outcome (CreditState F) PyError Unit :=
  let provider := P.str (tx.payload.getOr "provider_account" (.str tx.sender))
  let consumer := P.str (tx.payload.getOr "consumer_account" (.str ""))
  match P.float (tx.payload.getOr "gpu_seconds" (.float 0)) with
  | .error error => ⟨.error error, state⟩
  | .ok gpuSeconds =>
    if gpuSeconds < 0 then ⟨.error (.valueError "gpu_seconds must be non-negative"), state⟩
    else
      let state := state.addCredit provider gpuSeconds
      ⟨.ok (), if consumer = "" then state else state.addDebit consumer gpuSeconds⟩

def applyCreditSettled (state : CreditState F) (tx : ComputeTransaction) :
    Outcome (CreditState F) PyError Unit :=
  let fromAccount := P.str (tx.payload.getOr "from_account" (.str tx.sender))
  let toAccount := P.str (tx.payload.getOr "to_account" (.str ""))
  match P.float (tx.payload.getOr "amount_seconds" (.float 0)) with
  | .error error => ⟨.error error, state⟩
  | .ok amount =>
    if amount < 0 then ⟨.error (.valueError "amount_seconds must be non-negative"), state⟩
    else if toAccount = "" then ⟨.error (.valueError "CREDIT_SETTLED requires to_account"), state⟩
    else ⟨.ok (), (state.addDebit fromAccount amount).addCredit toAccount amount⟩

/-- The account is created before its balance is compared, and stays created
when the burn is refused. -/
def applyBridgeBurn (state : CreditState F) (tx : ComputeTransaction) :
    Outcome (CreditState F) PyError Unit :=
  let account := P.str (tx.payload.getOr "account" (.str ""))
  match P.float (tx.payload.getOr "amount_seconds" (.float 0)) with
  | .error error => ⟨.error error, state⟩
  | .ok amount =>
    if account = "" then ⟨.error (.valueError "BRIDGE_BURN requires account"), state⟩
    else if amount ≤ 0 then
      ⟨.error (.valueError "BRIDGE_BURN amount_seconds must be positive"), state⟩
    else
      let balance := state.getOrCreate account
      if balance.netSeconds < amount then
        ⟨.error (.valueError ("BRIDGE_BURN insufficient balance: have " ++
          P.reprFloat balance.netSeconds ++ ", need " ++ P.reprFloat amount)),
          state.setBalance account balance⟩
      else ⟨.ok (), state.addDebit account amount⟩

def applyBridgeMint (state : CreditState F) (tx : ComputeTransaction) :
    Outcome (CreditState F) PyError Unit :=
  let account := P.str (tx.payload.getOr "account" (.str ""))
  match P.float (tx.payload.getOr "amount_seconds" (.float 0)) with
  | .error error => ⟨.error error, state⟩
  | .ok amount =>
    if account = "" then ⟨.error (.valueError "BRIDGE_MINT requires account"), state⟩
    else if amount ≤ 0 then
      ⟨.error (.valueError "BRIDGE_MINT amount_seconds must be positive"), state⟩
    else if (tx.payload.getOr "receipt_id" .null).truthy = false then
      ⟨.error (.valueError "BRIDGE_MINT requires receipt_id"), state⟩
    else ⟨.ok (), state.addCredit account amount⟩

/-- Apply one transaction.  The nonce is recorded before the payload is
looked at. -/
def applyTransaction (state : CreditState F) (tx : ComputeTransaction) :
    Outcome (CreditState F) PyError Unit :=
  let lastNonce := (state.nonces.lookup tx.sender).getD (-1)
  if tx.nonce ≤ lastNonce then
    ⟨.error (.valueError ("Stale or duplicate nonce for " ++ tx.sender ++ ": " ++
      toString tx.nonce)), state⟩
  else
    let state := { state with nonces := state.nonces.insert tx.sender tx.nonce }
    match tx.txType with
    | .jobCompleted => applyJobCompleted P state tx
    | .creditSettled => applyCreditSettled P state tx
    | .bridgeBurn => applyBridgeBurn P state tx
    | .bridgeMint => applyBridgeMint P state tx
    -- attestation and registry events do not change credits
    | .jobSubmitted | .jobAssigned | .validatorRegistered => ⟨.ok (), state⟩

/-- Apply a list of transactions in order, up to the first failure. -/
def replayFrom : CreditState F -> List ComputeTransaction -> Except PyError (CreditState F)
  | state, [] => .ok state
  | state, tx :: rest =>
    match (applyTransaction P state tx).result with
    | .ok _ => replayFrom (applyTransaction P state tx).state rest
    | .error error => .error error

def replayTransactions (transactions : List ComputeTransaction) : Except PyError (CreditState F) :=
  replayFrom P {} transactions

theorem replayFrom_append (state : CreditState F) (front back : List ComputeTransaction) :
    replayFrom P state (front ++ back) =
      (replayFrom P state front >>= fun middle => replayFrom P middle back) := by
  induction front generalizing state with
  | nil => rfl
  | cons tx front ih =>
    simp only [List.cons_append, replayFrom]
    cases (applyTransaction P state tx).result with
    | error error => rfl
    | ok _ => exact ih _

theorem replayTransactions_append {front back : List ComputeTransaction} {final : CreditState F} :
    replayTransactions P (front ++ back) = .ok final ↔
      ∃ middle, replayTransactions P front = .ok middle ∧
        replayFrom P middle back = .ok final := by
  rw [replayTransactions, replayFrom_append]
  exact bind_eq_ok

end Apply

end Ledger
end ZepGpu
