import Mathlib.Algebra.BigOperators.Group.List.Basic
import Mathlib.Data.List.AList

namespace ZepGpu
namespace Foundation

open List

/-!
# Accounts that are sums of their entries

A table of accounts is kept by posting entries: an entry names an account and
an amount, the account is created when it is missing, and the amount is added
to its balance.  Amounts are of any commutative monoid, so that a balance can
have several components.

A balance is the sum of the entries that name the account, and the sum over
all accounts is the sum over all entries.  Neither depends on the order of the
entries.
-/

namespace Accounts

variable {κ A : Type} [DecidableEq κ] [AddCommMonoid A]

def balance (accounts : AList (fun _ : κ => A)) (account : κ) : A :=
  (accounts.lookup account).getD 0

def post (accounts : AList (fun _ : κ => A)) (entry : κ × A) : AList (fun _ : κ => A) :=
  accounts.insert entry.1 (balance accounts entry.1 + entry.2)

def postAll (accounts : AList (fun _ : κ => A)) (entries : List (κ × A)) : AList (fun _ : κ => A) :=
  entries.foldl post accounts

def sumAt (entries : List (κ × A)) (account : κ) : A :=
  ((entries.filter (fun entry => entry.1 = account)).map Prod.snd).sum

def total (accounts : AList (fun _ : κ => A)) : A :=
  (accounts.entries.map Sigma.snd).sum

variable {accounts : AList (fun _ : κ => A)} {entries others : List (κ × A)} {account : κ}

theorem balance_post (entry : κ × A) :
    balance (post accounts entry) account =
      balance accounts account + if entry.1 = account then entry.2 else 0 := by
  rw [balance, post]
  by_cases same : entry.1 = account
  · subst same
    rw [AList.lookup_insert, Option.getD_some, if_pos rfl]
  · rw [AList.lookup_insert_ne (Ne.symm same), if_neg same, add_zero, balance]

theorem mem_post (entry : κ × A) :
    account ∈ post accounts entry ↔ account = entry.1 ∨ account ∈ accounts :=
  AList.mem_insert accounts

theorem sum_kerase (rows : List (Sigma (fun _ : κ => A))) :
    ((rows.dlookup account).getD 0) + ((rows.kerase account).map Sigma.snd).sum =
      (rows.map Sigma.snd).sum := by
  induction rows with
  | nil => simp
  | cons row rest ih =>
    by_cases same : account = row.1
    · have found : (row :: rest).dlookup account = some row.2 := by
        rw [same]
        exact dlookup_cons_eq rest row.1 row.2
      rw [found, kerase_cons_eq same, map_cons, sum_cons, Option.getD_some]
    · rw [dlookup_cons_ne rest row same, kerase_cons_ne same, map_cons, sum_cons,
        add_left_comm, ih, map_cons, sum_cons]

theorem total_post (entry : κ × A) : total (post accounts entry) = total accounts + entry.2 := by
  have removed : ((accounts.entries.dlookup entry.1).getD 0) +
      ((accounts.entries.kerase entry.1).map Sigma.snd).sum = (accounts.entries.map Sigma.snd).sum :=
    sum_kerase accounts.entries
  rw [total, post, AList.entries_insert, map_cons, sum_cons, total, ← removed, balance,
    AList.lookup, add_right_comm]

theorem sumAt_cons (entry : κ × A) :
    sumAt (entry :: entries) account =
      (if entry.1 = account then entry.2 else 0) + sumAt entries account := by
  rw [sumAt, sumAt, filter_cons]
  by_cases same : entry.1 = account
  · rw [if_pos (decide_eq_true same), if_pos same, map_cons, sum_cons]
  · rw [if_neg (by simpa using same), if_neg same, zero_add]

theorem sumAt_append : sumAt (entries ++ others) account = sumAt entries account + sumAt others account := by
  rw [sumAt, filter_append, map_append, sum_append]
  rfl

theorem sumAt_perm (shuffled : entries.Perm others) : sumAt entries account = sumAt others account :=
  ((shuffled.filter _).map _).sum_eq

theorem balance_postAll :
    balance (postAll accounts entries) account = balance accounts account + sumAt entries account := by
  induction entries generalizing accounts with
  | nil => exact (add_zero _).symm
  | cons entry rest ih => rw [postAll, foldl_cons, ← postAll, ih, balance_post, sumAt_cons, add_assoc]

theorem mem_postAll :
    account ∈ postAll accounts entries ↔
      account ∈ accounts ∨ ∃ entry, entry ∈ entries ∧ entry.1 = account := by
  induction entries generalizing accounts with
  | nil => simp [postAll]
  | cons entry rest ih =>
    rw [postAll, foldl_cons, ← postAll, ih, mem_post, exists_mem_cons_iff,
      or_assoc, or_left_comm, eq_comm]

theorem total_postAll :
    total (postAll accounts entries) = total accounts + (entries.map Prod.snd).sum := by
  induction entries generalizing accounts with
  | nil => exact (add_zero _).symm
  | cons entry rest ih =>
    rw [postAll, foldl_cons, ← postAll, ih, total_post, map_cons, sum_cons, add_assoc]

theorem lookup_postAll_perm (shuffled : entries.Perm others) :
    (postAll accounts entries).lookup account = (postAll accounts others).lookup account := by
  have same : balance (postAll accounts entries) account = balance (postAll accounts others) account := by
    rw [balance_postAll, balance_postAll, sumAt_perm shuffled]
  have present : account ∈ postAll accounts entries ↔ account ∈ postAll accounts others := by
    simp only [mem_postAll, shuffled.mem_iff]
  cases found : (postAll accounts entries).lookup account with
  | none =>
    rw [AList.lookup_eq_none, present, ← AList.lookup_eq_none] at found
    exact found.symm
  | some amount =>
    obtain ⟨other, isOther⟩ := Option.isSome_iff_exists.mp
      (AList.lookup_isSome.mpr (present.mp (AList.lookup_isSome.mp (Option.isSome_of_eq_some found))))
    rw [balance, balance, found, isOther, Option.getD_some, Option.getD_some] at same
    rw [isOther, same]

theorem entries_postAll_perm (shuffled : entries.Perm others) :
    (postAll accounts entries).entries.Perm (postAll accounts others).entries := by
  refine lookup_ext (postAll accounts entries).nodupKeys (postAll accounts others).nodupKeys ?_
  intro account amount
  rw [← AList.lookup, ← AList.lookup, lookup_postAll_perm shuffled]

end Accounts

end Foundation
end ZepGpu
