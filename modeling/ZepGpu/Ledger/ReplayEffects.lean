import ZepGpu.Foundation.FailureAtomicity
import ZepGpu.Ledger.Reference
import ZepGpu.Ledger.Replay

namespace ZepGpu
namespace Ledger

open Foundation

/-!
# What one transaction does to the credit state

A transaction with a fresh nonce and a payload that passes the checks of its
type posts at most two entries, which the payload determines, and records the
nonce.  With a fresh nonce and any other payload it raises, after the nonce has
been recorded; only a stale nonce is refused before anything is written.
-/

variable {F : Type} [Arithmetic F]

/-- One addition to a balance. -/
inductive Entry (F : Type) where
  | credit (account : String) (amount : F)
  | debit (account : String) (amount : F)

namespace CreditState

variable (state : CreditState F)

def post (entry : Entry F) : CreditState F :=
  match entry with
  | .credit account amount => state.addCredit account amount
  | .debit account amount => state.addDebit account amount

def posting (entries : List (Entry F)) : CreditState F :=
  entries.foldl post state

def recording (tx : ComputeTransaction) : CreditState F :=
  { state with nonces := state.nonces.insert tx.sender tx.nonce }

theorem nonces_post (entry : Entry F) : (state.post entry).nonces = state.nonces := by
  cases entry <;> rfl

theorem nonces_posting (entries : List (Entry F)) : (state.posting entries).nonces = state.nonces := by
  induction entries generalizing state with
  | nil => rfl
  | cons entry rest ih => exact (ih (state.post entry)).trans (state.nonces_post entry)

end CreditState

section Payload

variable (P : Platform F) (tx : ComputeTransaction)

/-- `str(payload.get(key) or default)` -/
def accountAt (key default : String) : String :=
  P.str (tx.payload.getOr key (.str default))

/-- The amount of a payload, `gpu_seconds` or `amount_seconds`. -/
def payloadAmount : Except PyError F :=
  match tx.txType with
  | .jobCompleted => P.float (tx.payload.getOr "gpu_seconds" (.float 0))
  | _ => P.float (tx.payload.getOr "amount_seconds" (.float 0))

def secondsOf : F :=
  (payloadAmount P tx).toOption.getD 0

def entriesOf : List (Entry F) :=
  match tx.txType with
  | .jobCompleted =>
    .credit (accountAt P tx "provider_account" tx.sender) (secondsOf P tx) ::
      if accountAt P tx "consumer_account" "" = "" then []
      else [.debit (accountAt P tx "consumer_account" "") (secondsOf P tx)]
  | .creditSettled =>
    [.debit (accountAt P tx "from_account" tx.sender) (secondsOf P tx),
      .credit (accountAt P tx "to_account" "") (secondsOf P tx)]
  | .bridgeBurn => [.debit (accountAt P tx "account" "") (secondsOf P tx)]
  | .bridgeMint => [.credit (accountAt P tx "account" "") (secondsOf P tx)]
  | .jobSubmitted | .jobAssigned | .validatorRegistered => []

/-- The nonce is not above the last one of the sender. -/
def Stale (state : CreditState F) : Prop :=
  tx.nonce ≤ (state.nonces.lookup tx.sender).getD (-1)

/-- The payload passes the checks of its type; a burn is covered by the net
balance of the account.  A check refuses what compares as too small, and so
lets a value pass that is no number. -/
def Payable (state : CreditState F) : Prop :=
  match tx.txType with
  | .jobCompleted => ∃ amount, payloadAmount P tx = .ok amount ∧ ¬ amount < 0
  | .creditSettled =>
    (∃ amount, payloadAmount P tx = .ok amount ∧ ¬ amount < 0) ∧
      accountAt P tx "to_account" "" ≠ ""
  | .bridgeBurn =>
    (∃ amount, payloadAmount P tx = .ok amount ∧ ¬ amount ≤ 0 ∧
      ¬ state.net (accountAt P tx "account" "") < amount) ∧ accountAt P tx "account" "" ≠ ""
  | .bridgeMint =>
    (∃ amount, payloadAmount P tx = .ok amount ∧ ¬ amount ≤ 0) ∧
      accountAt P tx "account" "" ≠ "" ∧ (tx.payload.getOr "receipt_id" .null).truthy = true
  | .jobSubmitted | .jobAssigned | .validatorRegistered => True

end Payload

section Effects

variable (P : Platform F) (state : CreditState F) (tx : ComputeTransaction)

/-- A payload that passes is posted; with any other the call raises, and keeps
the nonces. -/
def Applies (applied : Outcome (CreditState F) PyError Unit) : Prop :=
  (Payable P tx state ∧ applied = ⟨.ok (), state.posting (entriesOf P tx)⟩) ∨
    (¬ Payable P tx state ∧ ∃ error balances, applied = ⟨.error error, { state with balances }⟩)

variable {P state tx}

theorem applies_jobCompleted (isType : tx.txType = .jobCompleted) :
    Applies P state tx (applyJobCompleted P state tx) := by
  have isAmount : payloadAmount P tx = P.float (tx.payload.getOr "gpu_seconds" (.float 0)) := by
    rw [payloadAmount, isType]
  rw [applyJobCompleted, Applies, Payable, isType, entriesOf, isType, ← isAmount, ← accountAt,
    ← accountAt]
  cases read : payloadAmount P tx with
  | error error => exact Or.inr ⟨by simp, error, state.balances, rfl⟩
  | ok amount =>
    have seconds : secondsOf P tx = amount := by rw [secondsOf, read]; rfl
    dsimp only
    by_cases negative : amount < 0
    · rw [if_pos negative]
      exact Or.inr ⟨by simpa using negative, _, state.balances, rfl⟩
    · rw [if_neg negative, seconds]
      refine Or.inl ⟨⟨amount, rfl, negative⟩, ?_⟩
      by_cases alone : accountAt P tx "consumer_account" "" = ""
      · rw [if_pos alone, if_pos alone]
        rfl
      · rw [if_neg alone, if_neg alone]
        rfl

theorem applies_creditSettled (isType : tx.txType = .creditSettled) :
    Applies P state tx (applyCreditSettled P state tx) := by
  have isAmount : payloadAmount P tx = P.float (tx.payload.getOr "amount_seconds" (.float 0)) := by
    rw [payloadAmount, isType]
  rw [applyCreditSettled, Applies, Payable, isType, entriesOf, isType, ← isAmount, ← accountAt,
    ← accountAt]
  cases read : payloadAmount P tx with
  | error error => exact Or.inr ⟨by simp, error, state.balances, rfl⟩
  | ok amount =>
    have seconds : secondsOf P tx = amount := by rw [secondsOf, read]; rfl
    dsimp only
    by_cases negative : amount < 0
    · rw [if_pos negative]
      exact Or.inr ⟨by simp [negative], _, state.balances, rfl⟩
    · rw [if_neg negative, seconds]
      by_cases nobody : accountAt P tx "to_account" "" = ""
      · rw [if_pos nobody]
        exact Or.inr ⟨by simp [nobody], _, state.balances, rfl⟩
      · rw [if_neg nobody]
        exact Or.inl ⟨⟨⟨amount, rfl, negative⟩, nobody⟩, rfl⟩

theorem applies_bridgeBurn (isType : tx.txType = .bridgeBurn) :
    Applies P state tx (applyBridgeBurn P state tx) := by
  have isAmount : payloadAmount P tx = P.float (tx.payload.getOr "amount_seconds" (.float 0)) := by
    rw [payloadAmount, isType]
  rw [applyBridgeBurn, Applies, Payable, isType, entriesOf, isType, ← isAmount, ← accountAt]
  cases read : payloadAmount P tx with
  | error error => exact Or.inr ⟨by simp, error, state.balances, rfl⟩
  | ok amount =>
    have seconds : secondsOf P tx = amount := by rw [secondsOf, read]; rfl
    dsimp only
    by_cases nobody : accountAt P tx "account" "" = ""
    · rw [if_pos nobody]
      exact Or.inr ⟨by simp [nobody], _, state.balances, rfl⟩
    · rw [if_neg nobody, seconds]
      by_cases nothing : amount ≤ 0
      · rw [if_pos nothing]
        exact Or.inr ⟨by simp [nothing], _, state.balances, rfl⟩
      · rw [if_neg nothing]
        by_cases short : (state.getOrCreate (accountAt P tx "account" "")).netSeconds < amount
        · rw [if_pos short]
          refine Or.inr ⟨?_, _, _, rfl⟩
          rintro ⟨⟨other, same, _, covered⟩, _⟩
          rw [← Except.ok.inj same] at covered
          exact covered short
        · rw [if_neg short]
          exact Or.inl ⟨⟨⟨amount, rfl, nothing, short⟩, nobody⟩, rfl⟩

theorem applies_bridgeMint (isType : tx.txType = .bridgeMint) :
    Applies P state tx (applyBridgeMint P state tx) := by
  have isAmount : payloadAmount P tx = P.float (tx.payload.getOr "amount_seconds" (.float 0)) := by
    rw [payloadAmount, isType]
  rw [applyBridgeMint, Applies, Payable, isType, entriesOf, isType, ← isAmount, ← accountAt]
  cases read : payloadAmount P tx with
  | error error => exact Or.inr ⟨by simp, error, state.balances, rfl⟩
  | ok amount =>
    have seconds : secondsOf P tx = amount := by rw [secondsOf, read]; rfl
    dsimp only
    by_cases nobody : accountAt P tx "account" "" = ""
    · rw [if_pos nobody]
      exact Or.inr ⟨by simp [nobody], _, state.balances, rfl⟩
    · rw [if_neg nobody, seconds]
      by_cases nothing : amount ≤ 0
      · rw [if_pos nothing]
        exact Or.inr ⟨by simp [nothing], _, state.balances, rfl⟩
      · rw [if_neg nothing]
        by_cases unreceipted : (tx.payload.getOr "receipt_id" .null).truthy = false
        · rw [if_pos unreceipted]
          exact Or.inr ⟨by simp [unreceipted], _, state.balances, rfl⟩
        · rw [if_neg unreceipted]
          exact Or.inl ⟨⟨⟨amount, rfl, nothing⟩, nobody, Bool.not_eq_false _ ▸ unreceipted⟩, rfl⟩

/-- A stale nonce is refused and changes nothing.  A fresh one is recorded, and
the rest follows from the payload. -/
theorem applyTransaction_cases (P : Platform F) (state : CreditState F) (tx : ComputeTransaction) :
    (Stale tx state ∧ ∃ error, applyTransaction P state tx = ⟨.error error, state⟩) ∨
      (¬ Stale tx state ∧ Applies P (state.recording tx) tx (applyTransaction P state tx)) := by
  rw [applyTransaction]
  by_cases stale : Stale tx state
  · exact Or.inl ⟨stale, _, if_pos stale⟩
  · refine Or.inr ⟨stale, ?_⟩
    have fresh : ¬ tx.nonce ≤ (state.nonces.lookup tx.sender).getD (-1) := stale
    dsimp only
    rw [if_neg fresh]
    cases isType : tx.txType with
    | jobCompleted => exact applies_jobCompleted isType
    | creditSettled => exact applies_creditSettled isType
    | bridgeBurn => exact applies_bridgeBurn isType
    | bridgeMint => exact applies_bridgeMint isType
    | jobSubmitted | jobAssigned | validatorRegistered =>
      refine Or.inl ⟨by rw [Payable, isType]; trivial, ?_⟩
      rw [entriesOf, isType]
      rfl

theorem payable_recording : Payable P tx (state.recording tx) ↔ Payable P tx state := by
  rw [Payable, Payable]
  rfl

theorem lookup_ne_of_fresh (fresh : ¬ Stale tx state) :
    state.nonces.lookup tx.sender ≠ some tx.nonce := by
  intro found
  rw [Stale, found, Option.getD_some] at fresh
  exact fresh le_rfl

theorem not_keepsOnError (fresh : ¬ Stale tx state) (unpayable : ¬ Payable P tx state) :
    ¬ (applyTransaction P state tx).KeepsOnError id state := by
  rcases applyTransaction_cases P state tx with ⟨stale, _⟩ | ⟨_, ⟨payable, _⟩ | ⟨_, error, _, same⟩⟩
  · exact absurd stale fresh
  · exact absurd (payable_recording.mp payable) unpayable
  · rw [same, Outcome.keepsOnError_error]
    intro kept
    have nonces : (state.nonces.insert tx.sender tx.nonce).lookup tx.sender =
        state.nonces.lookup tx.sender :=
      congrArg (fun after : CreditState F => after.nonces.lookup tx.sender) kept
    rw [AList.lookup_insert] at nonces
    exact absurd nonces.symm (lookup_ne_of_fresh fresh)

/-- A transaction leaves the credit state as it was whenever it raises, exactly
when its nonce is stale or its payload passes the checks of its type.  With a
fresh nonce and any other payload the nonce of the sender has been recorded. -/
theorem applyTransaction_keepsOnError_iff (P : Platform F) (state : CreditState F)
    (tx : ComputeTransaction) :
    (applyTransaction P state tx).KeepsOnError id state ↔
      Stale tx state ∨ Payable P tx state := by
  constructor
  · intro keeps
    by_cases stale : Stale tx state
    · exact Or.inl stale
    · exact Or.inr (of_not_not fun unpayable => not_keepsOnError stale unpayable keeps)
  · intro allowed
    rcases applyTransaction_cases P state tx with ⟨_, error, same⟩ |
      ⟨fresh, ⟨_, same⟩ | ⟨unpayable, _⟩⟩
    · rw [same]
      exact Outcome.keepsOnError_error.mpr rfl
    · rw [same]
      exact Outcome.keepsOnError_ok
    · exact absurd (payable_recording.mpr (allowed.resolve_left fresh)) unpayable

/-- A mint without a receipt is refused, but its nonce has been used up. -/
theorem refused_mint_keeps_nonce :
    ¬ (applyTransaction Reference.platform {} {
        txType := .bridgeMint
        sender := "bridge"
        nonce := 0
        payload := [("account", .str "alice"), ("amount_seconds", .float 5)]
        timestamp := "2026-01-01T00:00:00+00:00"
        id := "mint-1" }).KeepsOnError id {} := by
  refine not_keepsOnError (fun stale => ?_) (fun payable => absurd payable.2.2 (by decide))
  rw [Stale] at stale
  exact absurd stale (by decide)

end Effects

end Ledger
end ZepGpu
