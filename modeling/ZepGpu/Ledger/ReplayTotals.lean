import Mathlib.Data.String.Basic
import Mathlib.Tactic.Abel
import ZepGpu.Foundation.Accounts
import ZepGpu.Ledger.ReplayEffects

namespace ZepGpu
namespace Ledger

open Foundation List

/-!
# Balances as totals over the replayed transactions

A successful replay posts the entries of every transaction, in order.  The
balances are therefore sums over the transactions, whatever their order, and
the only entries without a counterpart are those of jobs without a consumer,
of mints and of burns.

Sums are exact here: amounts are rationals.  Doubles add neither in any order
nor without error.
-/

namespace CreditBalance

instance : Zero (CreditBalance Rat) := ⟨{}⟩

instance : Add (CreditBalance Rat) :=
  ⟨fun left right => ⟨left.creditSeconds + right.creditSeconds,
    left.debitSeconds + right.debitSeconds⟩⟩

@[simp] theorem creditSeconds_zero : (0 : CreditBalance Rat).creditSeconds = 0 := rfl

@[simp] theorem debitSeconds_zero : (0 : CreditBalance Rat).debitSeconds = 0 := rfl

@[simp] theorem creditSeconds_add (left right : CreditBalance Rat) :
    (left + right).creditSeconds = left.creditSeconds + right.creditSeconds := rfl

@[simp] theorem debitSeconds_add (left right : CreditBalance Rat) :
    (left + right).debitSeconds = left.debitSeconds + right.debitSeconds := rfl

theorem ext_seconds {left right : CreditBalance Rat} (credit : left.creditSeconds = right.creditSeconds)
    (debit : left.debitSeconds = right.debitSeconds) : left = right := by
  obtain ⟨leftCredit, leftDebit⟩ := left
  obtain ⟨rightCredit, rightDebit⟩ := right
  dsimp only at credit debit
  rw [credit, debit]

instance : AddCommMonoid (CreditBalance Rat) where
  add_assoc := fun _ _ _ => ext_seconds (add_assoc _ _ _) (add_assoc _ _ _)
  zero_add := fun _ => ext_seconds (zero_add _) (zero_add _)
  add_zero := fun _ => ext_seconds (add_zero _) (add_zero _)
  add_comm := fun _ _ => ext_seconds (add_comm _ _) (add_comm _ _)
  nsmul := nsmulRec

end CreditBalance

namespace Entry

/-- The balance that an entry adds to its account. -/
def balance : Entry Rat -> String × CreditBalance Rat
  | .credit account amount => (account, ⟨amount, 0⟩)
  | .debit account amount => (account, ⟨0, amount⟩)

theorem post_balances (state : CreditState Rat) (entry : Entry Rat) :
    (state.post entry).balances = Accounts.post state.balances entry.balance := by
  cases entry with
  | credit account amount =>
    have same : (⟨(state.getOrCreate account).creditSeconds + amount,
        (state.getOrCreate account).debitSeconds⟩ : CreditBalance Rat) =
          state.getOrCreate account + ⟨amount, 0⟩ :=
      CreditBalance.ext_seconds rfl (add_zero _).symm
    exact congrArg (state.balances.insert account) same
  | debit account amount =>
    have same : (⟨(state.getOrCreate account).creditSeconds,
        (state.getOrCreate account).debitSeconds + amount⟩ : CreditBalance Rat) =
          state.getOrCreate account + ⟨0, amount⟩ :=
      CreditBalance.ext_seconds (add_zero _).symm rfl
    exact congrArg (state.balances.insert account) same

theorem posting_balances (state : CreditState Rat) (entries : List (Entry Rat)) :
    (state.posting entries).balances = Accounts.postAll state.balances (entries.map balance) := by
  induction entries generalizing state with
  | nil => rfl
  | cons entry rest ih =>
    rw [CreditState.posting, foldl_cons, ← CreditState.posting, ih, post_balances, map_cons,
      Accounts.postAll, Accounts.postAll, foldl_cons]

end Entry

section Totals

variable (P : Platform Rat)

def postingsOf (tx : ComputeTransaction) : List (String × CreditBalance Rat) :=
  (entriesOf P tx).map Entry.balance

def creditOf (account : String) (tx : ComputeTransaction) : Rat :=
  match tx.txType with
  | .jobCompleted => if accountAt P tx "provider_account" tx.sender = account then secondsOf P tx else 0
  | .creditSettled => if accountAt P tx "to_account" "" = account then secondsOf P tx else 0
  | .bridgeMint => if accountAt P tx "account" "" = account then secondsOf P tx else 0
  | .bridgeBurn | .jobSubmitted | .jobAssigned | .validatorRegistered => 0

/-- A job without a consumer is charged to nobody. -/
def debitOf (account : String) (tx : ComputeTransaction) : Rat :=
  match tx.txType with
  | .jobCompleted =>
    if accountAt P tx "consumer_account" "" ≠ "" ∧ accountAt P tx "consumer_account" "" = account then
      secondsOf P tx
    else 0
  | .creditSettled => if accountAt P tx "from_account" tx.sender = account then secondsOf P tx else 0
  | .bridgeBurn => if accountAt P tx "account" "" = account then secondsOf P tx else 0
  | .bridgeMint | .jobSubmitted | .jobAssigned | .validatorRegistered => 0

def accountsOf (tx : ComputeTransaction) : List String :=
  (postingsOf P tx).map Prod.fst

/-- The amount of a job that names no consumer. -/
def unchargedOf (tx : ComputeTransaction) : Rat :=
  if tx.txType = .jobCompleted ∧ accountAt P tx "consumer_account" "" = "" then secondsOf P tx else 0

def mintedOf (tx : ComputeTransaction) : Rat :=
  if tx.txType = .bridgeMint then secondsOf P tx else 0

def burnedOf (tx : ComputeTransaction) : Rat :=
  if tx.txType = .bridgeBurn then secondsOf P tx else 0

def CreditState.totalNet (state : CreditState Rat) : Rat :=
  (state.balances.entries.map (fun row => row.2.netSeconds)).sum

variable {P}

theorem netSeconds_add (left right : CreditBalance Rat) :
    (left + right).netSeconds = left.netSeconds + right.netSeconds := by
  rw [CreditBalance.netSeconds, CreditBalance.creditSeconds_add, CreditBalance.debitSeconds_add,
    CreditBalance.netSeconds, CreditBalance.netSeconds]
  abel

theorem netSeconds_sum (balances : List (CreditBalance Rat)) :
    balances.sum.netSeconds = (balances.map CreditBalance.netSeconds).sum := by
  induction balances with
  | nil => exact sub_self 0
  | cons balance rest ih => rw [sum_cons, netSeconds_add, ih, map_cons, sum_cons]

theorem sumAt_postingsOf (account : String) (tx : ComputeTransaction) :
    Accounts.sumAt (postingsOf P tx) account = ⟨creditOf P account tx, debitOf P account tx⟩ := by
  have single : ∀ entry : String × CreditBalance Rat,
      Accounts.sumAt [entry] account = if entry.1 = account then entry.2 else 0 := by
    intro entry
    rw [Accounts.sumAt_cons]
    exact add_zero _
  rw [postingsOf, entriesOf, creditOf, debitOf]
  cases tx.txType with
  | jobCompleted =>
    dsimp only
    rw [map_cons, Accounts.sumAt_cons]
    by_cases alone : accountAt P tx "consumer_account" "" = ""
    · rw [if_pos alone, map_nil]
      apply CreditBalance.ext_seconds
      all_goals by_cases here : accountAt P tx "provider_account" tx.sender = account
      all_goals simp [Entry.balance, here, alone, Accounts.sumAt]
    · rw [if_neg alone, map_singleton, single]
      apply CreditBalance.ext_seconds
      all_goals by_cases here : accountAt P tx "provider_account" tx.sender = account
      all_goals by_cases there : accountAt P tx "consumer_account" "" = account
      all_goals simp_all [Entry.balance]
  | creditSettled =>
    dsimp only
    rw [map_cons, map_singleton, Accounts.sumAt_cons, single]
    apply CreditBalance.ext_seconds
    all_goals by_cases here : accountAt P tx "to_account" "" = account
    all_goals by_cases there : accountAt P tx "from_account" tx.sender = account
    all_goals simp [Entry.balance, here, there]
  | bridgeBurn =>
    dsimp only
    rw [map_singleton, single]
    by_cases here : accountAt P tx "account" "" = account
    · rw [Entry.balance, if_pos here, if_pos here]
    · rw [Entry.balance, if_neg here, if_neg here]
      rfl
  | bridgeMint =>
    dsimp only
    rw [map_singleton, single]
    by_cases here : accountAt P tx "account" "" = account
    · rw [Entry.balance, if_pos here, if_pos here]
    · rw [Entry.balance, if_neg here, if_neg here]
      rfl
  | jobSubmitted | jobAssigned | validatorRegistered => rfl

theorem net_postingsOf (tx : ComputeTransaction) :
    (((postingsOf P tx).map Prod.snd).map CreditBalance.netSeconds).sum =
      unchargedOf P tx + mintedOf P tx - burnedOf P tx := by
  rw [postingsOf, entriesOf, unchargedOf, mintedOf, burnedOf]
  cases tx.txType with
  | jobCompleted =>
    by_cases alone : accountAt P tx "consumer_account" "" = ""
    all_goals simp [alone, Entry.balance, CreditBalance.netSeconds]
  | creditSettled | bridgeBurn | bridgeMint =>
    simp [Entry.balance, CreditBalance.netSeconds]
  | jobSubmitted | jobAssigned | validatorRegistered => simp

theorem sumAt_flatMap_postingsOf (account : String) (txs : List ComputeTransaction) :
    Accounts.sumAt (txs.flatMap (postingsOf P)) account =
      ⟨(txs.map (creditOf P account)).sum, (txs.map (debitOf P account)).sum⟩ := by
  induction txs with
  | nil => rfl
  | cons tx rest ih =>
    rw [flatMap_cons, Accounts.sumAt_append, sumAt_postingsOf, ih, map_cons, map_cons,
      sum_cons, sum_cons]
    rfl

theorem netSeconds_flatMap_postingsOf (txs : List ComputeTransaction) :
    (((txs.flatMap (postingsOf P)).map Prod.snd).sum).netSeconds =
      (txs.map (unchargedOf P)).sum + (txs.map (mintedOf P)).sum - (txs.map (burnedOf P)).sum := by
  induction txs with
  | nil => simp [CreditBalance.netSeconds]
  | cons tx rest ih =>
    rw [flatMap_cons, map_append, sum_append, netSeconds_add, ih, netSeconds_sum, net_postingsOf]
    simp only [map_cons, sum_cons]
    abel

theorem applied_of_ok {state : CreditState Rat} {tx : ComputeTransaction} {done : Unit}
    (applied : (applyTransaction P state tx).result = .ok done) :
    ¬ Stale tx state ∧ (applyTransaction P state tx).state =
      (state.recording tx).posting (entriesOf P tx) := by
  rcases applyTransaction_cases P state tx with ⟨_, error, same⟩ | ⟨fresh, applies⟩
  · rw [same] at applied
    cases applied
  · rcases applies with ⟨_, same⟩ | ⟨_, error, balances, same⟩
    · rw [same]
      exact ⟨fresh, rfl⟩
    · rw [same] at applied
      cases applied

theorem replayFrom_cons {state final : CreditState Rat} {tx : ComputeTransaction}
    {rest : List ComputeTransaction} (replayed : replayFrom P state (tx :: rest) = .ok final) :
    ¬ Stale tx state ∧
      replayFrom P ((state.recording tx).posting (entriesOf P tx)) rest = .ok final := by
  rw [replayFrom] at replayed
  cases result : (applyTransaction P state tx).result with
  | error error =>
    rw [result] at replayed
    cases replayed
  | ok done =>
    obtain ⟨fresh, same⟩ := applied_of_ok result
    rw [result, same] at replayed
    exact ⟨fresh, replayed⟩

theorem replayFrom_balances {state final : CreditState Rat} {txs : List ComputeTransaction}
    (replayed : replayFrom P state txs = .ok final) :
    final.balances = Accounts.postAll state.balances (txs.flatMap (postingsOf P)) := by
  induction txs generalizing state with
  | nil =>
    rw [← Except.ok.inj replayed]
    rfl
  | cons tx rest ih =>
    rw [ih (replayFrom_cons replayed).2, Entry.posting_balances, flatMap_cons,
      Accounts.postAll, Accounts.postAll, Accounts.postAll, foldl_append]
    rfl

theorem replayFrom_nonces {state final : CreditState Rat} {txs : List ComputeTransaction}
    (replayed : replayFrom P state txs = .ok final) (sender : String) :
    (∀ tx, tx ∈ txs -> tx.sender = sender ->
      (state.nonces.lookup sender).getD (-1) < tx.nonce) ∧
    (txs.filter (fun tx => tx.sender = sender)).Pairwise (fun earlier later =>
      earlier.nonce < later.nonce) := by
  induction txs generalizing state with
  | nil => exact ⟨fun tx member => absurd member not_mem_nil, List.Pairwise.nil⟩
  | cons tx rest ih =>
    obtain ⟨fresh, later⟩ := replayFrom_cons replayed
    obtain ⟨above, increasing⟩ := ih later
    have recorded : ((state.recording tx).posting (entriesOf P tx)).nonces =
        state.nonces.insert tx.sender tx.nonce := CreditState.nonces_posting _ _
    rw [recorded] at above
    have last := not_le.mp fresh
    by_cases own : tx.sender = sender
    · subst own
      rw [AList.lookup_insert, Option.getD_some] at above
      constructor
      · intro other member same
        rcases mem_cons.mp member with rfl | behind
        · exact last
        · exact last.trans (above other behind same)
      · rw [filter_cons_of_pos (by simp), pairwise_cons]
        refine ⟨?_, increasing⟩
        intro other member
        obtain ⟨behind, same⟩ := mem_filter.mp member
        exact above other behind (of_decide_eq_true same)
    · rw [AList.lookup_insert_ne (Ne.symm own)] at above
      constructor
      · intro other member same
        rcases mem_cons.mp member with rfl | behind
        · exact absurd same own
        · exact above other behind same
      · rw [filter_cons_of_neg (by simpa using own)]
        exact increasing

theorem mem_toList_unsorted {state : CreditState Rat} {row : BalanceEntry Rat} :
    row ∈ state.balances.entries.map (fun entry =>
        (⟨entry.1, entry.2.creditSeconds, entry.2.debitSeconds⟩ : BalanceEntry Rat)) ->
      state.balances.lookup row.account = some ⟨row.creditSeconds, row.debitSeconds⟩ := by
  intro member
  obtain ⟨entry, inside, rfl⟩ := mem_map.mp member
  exact AList.mem_lookup_iff.mpr inside

theorem toList_of_perm {left right : CreditState Rat}
    (shuffled : left.balances.entries.Perm right.balances.entries) : left.toList = right.toList := by
  rw [CreditState.toList, CreditState.toList]
  have rows := shuffled.map (fun entry =>
    (⟨entry.1, entry.2.creditSeconds, entry.2.debitSeconds⟩ : BalanceEntry Rat))
  have total : Std.Total (fun left right : BalanceEntry Rat => left.account ≤ right.account) :=
    ⟨fun left right => le_total left.account right.account⟩
  have trans : IsTrans (BalanceEntry Rat) (fun left right => left.account ≤ right.account) :=
    ⟨fun _ _ _ => le_trans⟩
  refine List.Perm.eq_of_pairwise ?_ (pairwise_insertionSort _ _)
    (pairwise_insertionSort _ _)
    (((perm_insertionSort _ _).trans rows).trans (perm_insertionSort _ _).symm)
  -- an account has one row, so rows of one account are equal
  intro first second isFirst isSecond below above
  have firstRow := mem_toList_unsorted ((mem_insertionSort _).mp isFirst)
  have secondRow := mem_toList_unsorted ((mem_insertionSort _).mp isSecond)
  rw [← AList.perm_lookup shuffled, ← le_antisymm below above, firstRow] at secondRow
  have same := Option.some.inj secondRow
  obtain ⟨account, credit, debit⟩ := first
  obtain ⟨other, otherCredit, otherDebit⟩ := second
  dsimp only at below above same
  rw [le_antisymm below above, (CreditBalance.mk.inj same).1, (CreditBalance.mk.inj same).2]

/-! ## Rows of the balances after a replay -/

section Rows

variable {state final : CreditState Rat} {txs : List ComputeTransaction}

end Rows

/-- After a successful replay the credits and debits of every account are the
sums over the transactions that name it, the nonces of every sender increase,
and the net balances add up to the uncharged and minted amounts less the
burned ones.  No order of the same transactions that can be replayed gives
other balances or another root. -/
theorem replay_totals (P : Platform Rat) {txs : List ComputeTransaction} {final : CreditState Rat}
    (replayed : replayTransactions P txs = .ok final) :
    (∀ account,
      (final.getOrCreate account).creditSeconds = (txs.map (creditOf P account)).sum ∧
      (final.getOrCreate account).debitSeconds = (txs.map (debitOf P account)).sum ∧
      (account ∈ final.balances ↔ ∃ tx, tx ∈ txs ∧ account ∈ accountsOf P tx)) ∧
    (∀ sender, (txs.filter (fun tx => tx.sender = sender)).Pairwise (fun earlier later =>
      earlier.nonce < later.nonce)) ∧
    final.totalNet = (txs.map (unchargedOf P)).sum + (txs.map (mintedOf P)).sum -
      (txs.map (burnedOf P)).sum ∧
    ∀ shuffled other, shuffled.Perm txs -> replayTransactions P shuffled = .ok other ->
      (∀ account, other.balances.lookup account = final.balances.lookup account) ∧
        other.stateRoot P = final.stateRoot P := by
  have entries : ∀ {txs : List ComputeTransaction} {final : CreditState Rat},
      replayTransactions P txs = .ok final ->
        final.balances = Accounts.postAll ∅ (txs.flatMap (postingsOf P)) :=
    fun replayed => replayFrom_balances replayed
  refine ⟨?_, fun sender => (replayFrom_nonces replayed sender).2, ?_, ?_⟩
  · intro account
    have balance : final.getOrCreate account =
        ⟨(txs.map (creditOf P account)).sum, (txs.map (debitOf P account)).sum⟩ := by
      change Accounts.balance final.balances account = _
      rw [entries replayed, Accounts.balance_postAll, sumAt_flatMap_postingsOf]
      exact zero_add _
    rw [balance]
    refine ⟨rfl, rfl, ?_⟩
    rw [entries replayed, Accounts.mem_postAll, or_iff_right (AList.notMem_empty account)]
    simp only [accountsOf, mem_map, mem_flatMap]
    constructor
    · rintro ⟨entry, ⟨tx, member, inside⟩, named⟩
      exact ⟨tx, member, entry, inside, named⟩
    · rintro ⟨tx, member, entry, inside, named⟩
      exact ⟨entry, ⟨tx, member, inside⟩, named⟩
  · have sum : final.totalNet = (Accounts.total final.balances).netSeconds := by
      rw [CreditState.totalNet, Accounts.total, netSeconds_sum, map_map]
      rfl
    have nothing : (Accounts.total (∅ : AList (fun _ : String => CreditBalance Rat))).netSeconds = 0 :=
      sub_self 0
    rw [sum, entries replayed, Accounts.total_postAll, netSeconds_add, netSeconds_flatMap_postingsOf,
      nothing, zero_add]
  · intro shuffled other reordered again
    have sameEntries : (shuffled.flatMap (postingsOf P)).Perm (txs.flatMap (postingsOf P)) :=
      reordered.flatMap_right _
    have lookups : ∀ account, other.balances.lookup account = final.balances.lookup account := by
      intro account
      rw [entries again, entries replayed]
      exact Accounts.lookup_postAll_perm sameEntries
    refine ⟨lookups, ?_⟩
    have rows : other.toList = final.toList := by
      apply toList_of_perm
      rw [entries again, entries replayed]
      exact Accounts.entries_postAll_perm sameEntries
    rw [CreditState.stateRoot, CreditState.stateRoot, rows]

/-- A job that is paid by its consumer, a job without one, a settlement, a burn
and a mint. -/
def sampleReplay : List ComputeTransaction :=
  let stamp := "2026-01-01T00:00:00+00:00"
  [⟨.jobCompleted, "node", 0, [("provider_account", .str "alice"), ("consumer_account", .str "bob"),
      ("gpu_seconds", .float 10)], stamp, "tx-0", ""⟩,
    ⟨.jobCompleted, "node", 1, [("provider_account", .str "alice"), ("gpu_seconds", .float 4)], stamp,
      "tx-1", ""⟩,
    ⟨.creditSettled, "alice", 0, [("to_account", .str "carol"), ("amount_seconds", .float 3)], stamp,
      "tx-2", ""⟩,
    ⟨.bridgeBurn, "bridge", 0, [("account", .str "carol"), ("amount_seconds", .float 1)], stamp,
      "tx-3", ""⟩,
    ⟨.bridgeMint, "bridge", 1, [("account", .str "dave"), ("amount_seconds", .float 2),
      ("receipt_id", .str "r")], stamp, "tx-4", ""⟩]

/-- Two jobs, a settlement, a burn and a mint, added up. -/
theorem sampleReplay_totals :
    ∃ final, replayTransactions Reference.exactPlatform sampleReplay = .ok final ∧
      final.totalNet = 5 ∧ (final.getOrCreate "alice").creditSeconds = 14 ∧
      (final.getOrCreate "alice").debitSeconds = 3 := by
  have succeeds : (replayTransactions Reference.exactPlatform sampleReplay).toOption.isSome = true := by
    decide +kernel
  obtain ⟨final, isFinal⟩ := Option.isSome_iff_exists.mp succeeds
  have replayed := ok_of_toOption isFinal
  obtain ⟨accounts, _, net, _⟩ := replay_totals Reference.exactPlatform replayed
  obtain ⟨credit, debit, _⟩ := accounts "alice"
  refine ⟨final, replayed, net.trans ?_, credit.trans ?_, debit.trans ?_⟩
  all_goals decide +kernel

end Totals

end Ledger
end ZepGpu
