import DexterVault.State.Ledger

/-!
# The terms of a vault

Withdrawals and credit turn on fields of a vault that no session and no claim
is accounted against.  They are read together as the terms of the vault, next
to the ledgers of the financiers.
-/

namespace DexterVault.Accounts

open Function
open DexterVault.Machine

structure VaultTerms where
  passkeyPubkey : PasskeyPubkey
  coolingOffSeconds : U32
  pendingVoucherCount : U32
  pendingWithdrawal : Option PendingWithdrawal
  borrowed : U64
  standbyBacker : Option Pubkey
  standbyCap : U64
  borrowRecoveryAt : Option I64
  deriving DecidableEq

def Vault.terms (vault : Vault) : VaultTerms where
  passkeyPubkey := vault.passkeyPubkey
  coolingOffSeconds := vault.coolingOffSeconds
  pendingVoucherCount := vault.pendingVoucherCount
  pendingWithdrawal := vault.pendingWithdrawal
  borrowed := vault.borrowed
  standbyBacker := vault.standbyBacker
  standbyCap := vault.standbyCap
  borrowRecoveryAt := vault.borrowRecoveryAt

namespace State

variable {state next : State} {key : Pubkey} {vault : Vault}

def terms? (state : State) (key : Pubkey) : Option VaultTerms :=
  (state.vault? key).map Vault.terms

theorem terms?_of_vault? (hvault : state.vault? key = some vault) :
    state.terms? key = some vault.terms := by
  rw [terms?, hvault, Option.map_some]

theorem vault?_of_terms? {terms : VaultTerms}
    (hterms : state.terms? key = some terms) :
    ∃ vault, state.vault? key = some vault ∧ vault.terms = terms :=
  Option.map_eq_some_iff.mp hterms

theorem terms?_of_view
    (hsame : next.view Account.vault? = state.view Account.vault?) :
    next.terms? = state.terms? := by
  funext other
  rw [terms?, terms?, vault?, hsame]

theorem terms?_of_none (hnone : state.view Account.vault? key = none) :
    state.terms? key = none := by
  rw [terms?, vault?, hnone, Option.map_none]

theorem terms?_write_vault (vault : Vault) :
    (state.write key (.vault vault)).terms? =
      update state.terms? key (some vault.terms) := by
  funext other
  rw [terms?, vault?, view_write, update_apply]
  split <;> rfl

end State

/-- The terms of the vaults and the ledgers of the financiers of a state. -/
structure HasTerms (state : State) (terms : Pubkey → Option VaultTerms)
    (backers : Pubkey → Option StandbyBacker) : Prop where
  terms : state.terms? = terms
  backers : state.standbyBacker? = backers

namespace HasTerms

variable {state : State} {terms : Pubkey → Option VaultTerms}
  {backers : Pubkey → Option StandbyBacker} {key : Pubkey} {account : Account}

theorem self (state : State) :
    HasTerms state state.terms? state.standbyBacker? :=
  ⟨rfl, rfl⟩

/-- A vault may replace a vault, a vacant address or a V5 image. -/
theorem write_vault (hviews : HasTerms state terms backers)
    (hbacker : backers key = none) (vault : Vault) :
    HasTerms (state.write key (.vault vault))
      (update terms key (some vault.terms)) backers where
  terms := by rw [State.terms?_write_vault, hviews.terms]
  backers := by
    rw [← hviews.backers] at hbacker ⊢
    exact State.view_write_of_eq hbacker

/-- A vault write that keeps the terms changes neither view. -/
theorem write_vault_same (hviews : HasTerms state terms backers)
    (hbacker : backers key = none) {vault : Vault}
    (hterms : terms key = some vault.terms) :
    HasTerms (state.write key (.vault vault)) terms backers := by
  have hwritten := hviews.write_vault hbacker vault
  rwa [← hterms, update_eq_self] at hwritten

theorem vault?_eq_none (hviews : HasTerms state terms backers)
    (hnone : terms key = none) : state.vault? key = none := by
  rw [← hviews.terms, State.terms?, Option.map_eq_none_iff] at hnone
  exact hnone

theorem write_standbyBacker (hviews : HasTerms state terms backers)
    (hterms : terms key = none) (backer : StandbyBacker) :
    HasTerms (state.write key (.standbyBacker backer)) terms
      (update backers key (some backer)) where
  terms := (State.terms?_of_view
    (State.view_write_of_eq (hviews.vault?_eq_none hterms))).trans hviews.terms
  backers := by
    rw [← hviews.backers]
    exact State.view_write_eq_update

/-- A write of an account of another type, where no vault and no ledger is. -/
theorem write_foreign (hviews : HasTerms state terms backers)
    (hvault : account.vault? = none) (hbacker : account.standbyBacker? = none)
    (hterms : terms key = none) (hbackers : backers key = none) :
    HasTerms (state.write key account) terms backers where
  terms := by
    have hnone := (hviews.vault?_eq_none hterms).trans hvault.symm
    exact (State.terms?_of_view (State.view_write_of_eq hnone)).trans hviews.terms
  backers := by
    rw [← hviews.backers] at hbackers ⊢
    exact State.view_write_of_eq (hbackers.trans hbacker.symm)

theorem close_foreign (hviews : HasTerms state terms backers)
    (hterms : terms key = none) (hbackers : backers key = none) :
    HasTerms (state.close key) terms backers where
  terms := by
    have hnone := hviews.vault?_eq_none hterms
    exact (State.terms?_of_view (State.view_close_of_none hnone)).trans
      hviews.terms
  backers := by
    rw [← hviews.backers] at hbackers ⊢
    exact State.view_close_of_none hbackers

end HasTerms

namespace State

variable {state : State} {key : Pubkey}

/-- At the address of a session, a claim, a ledger or an image there is no
vault. -/
theorem terms?_of_lookup {account : Account}
    (hlookup : state.accounts.lookup key = some account)
    (hvault : account.vault? = none) : state.terms? key = none :=
  terms?_of_none ((view_of_lookup hlookup).trans hvault)

theorem terms?_of_vacant (hvacant : state.accounts.lookup key = none) :
    state.terms? key = none :=
  terms?_of_none (view_of_lookup_none hvacant)

end State

end DexterVault.Accounts
