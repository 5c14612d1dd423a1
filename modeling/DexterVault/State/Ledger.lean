import DexterVault.State.Execution
import Mathlib.Logic.Function.Basic

/-!
# Views of a state

The accounting of the program relates three families of accounts: vaults,
sessions and claims.  A state is read through one partial function for each,
and an instruction is described by how it updates these functions.  Most
instructions are quiet: they leave the sessions, the claims and the accounted
fields of every vault as they were.
-/

namespace DexterVault.Accounts

open DexterVault.Machine

/-- The fields of a vault that other accounts are accounted against. -/
structure VaultLedger where
  version : U8
  swigAddress : Pubkey
  liveSessionCount : U8
  outstandingLockedAmount : U64
  totalCrystallizedAmount : U64
  totalSettledAmount : U64
  deriving DecidableEq

def Vault.ledger (vault : Vault) : VaultLedger where
  version := vault.version
  swigAddress := vault.swigAddress
  liveSessionCount := vault.liveSessionCount
  outstandingLockedAmount := vault.outstandingLockedAmount
  totalCrystallizedAmount := vault.totalCrystallizedAmount
  totalSettledAmount := vault.totalSettledAmount

namespace State

open Function

variable {state : State} {key : Pubkey} {account : Account} {Data : Type}
  {read : Account → Option Data}

def ledger? (state : State) (key : Pubkey) : Option VaultLedger :=
  (state.vault? key).map Vault.ledger

theorem view_write_eq_update :
    (state.write key account).view read =
      update (state.view read) key (read account) := by
  funext other
  rw [view_write, update_apply]

/-- A write that a view cannot tell from what was there. -/
theorem view_write_of_eq (hsame : state.view read key = read account) :
    (state.write key account).view read = state.view read := by
  rw [view_write_eq_update, ← hsame, update_eq_self]

theorem view_close_eq_update :
    (state.close key).view read = update (state.view read) key none := by
  funext other
  rw [view_close, update_apply]

theorem view_close_of_none (hnone : state.view read key = none) :
    (state.close key).view read = state.view read := by
  rw [view_close_eq_update, ← hnone, update_eq_self]

theorem ledger?_write_vault (vault : Vault) :
    (state.write key (.vault vault)).ledger? =
      update state.ledger? key (some vault.ledger) := by
  funext other
  rw [ledger?, vault?, view_write, update_apply]
  split <;> rfl

theorem ledger?_of_view (next : State)
    (hsame : next.view Account.vault? = state.view Account.vault?) :
    next.ledger? = state.ledger? := by
  funext other
  rw [ledger?, ledger?, vault?, hsame]

theorem ledger?_of_vault? {vault : Vault} (hvault : state.vault? key = some vault) :
    state.ledger? key = some vault.ledger := by
  simp [ledger?, hvault]

theorem vault?_of_ledger? {ledger : VaultLedger}
    (hledger : state.ledger? key = some ledger) :
    ∃ vault, state.vault? key = some vault ∧ vault.ledger = ledger := by
  simpa [ledger?] using hledger

/-- Writing a ledger that keeps a field keeps it for every vault. -/
theorem ledger?_map_write {Field : Type} {read : VaultLedger → Field}
    {after : State} {ledger written : VaultLedger}
    (hledgers : after.ledger? = update state.ledger? key (some written))
    (hledger : state.ledger? key = some ledger)
    (hsame : read written = read ledger) (other : Pubkey) :
    (after.ledger? other).map read = (state.ledger? other).map read := by
  rw [hledgers]
  by_cases hother : other = key
  · subst hother
    rw [update_self, hledger, Option.map_some, Option.map_some, hsame]
  · rw [update_of_ne hother]

/-! An address holds an account of one type only. -/

theorem view_of_vault? {vault : Vault} (hvault : state.vault? key = some vault) :
    state.view read key = read (.vault vault) :=
  view_of_lookup (lookup_of_vault? hvault)

theorem view_of_session? {session : SessionAccount}
    (hsession : state.session? key = some session) :
    state.view read key = read (.session session) :=
  view_of_lookup (lookup_of_session? hsession)

theorem view_of_claim? {claim : LockedClaim}
    (hclaim : state.claim? key = some claim) :
    state.view read key = read (.claim claim) :=
  view_of_lookup (lookup_of_claim? hclaim)

theorem lookup_of_standbyBacker? {backer : StandbyBacker}
    (hbacker : state.standbyBacker? key = some backer) :
    state.accounts.lookup key = some (.standbyBacker backer) := by
  obtain ⟨account, hlookup, hread⟩ := Option.bind_eq_some_iff.mp hbacker
  cases account <;> simp_all [Account.standbyBacker?]

theorem lookup_of_vaultV5? {image : VaultV5Reader}
    (himage : state.vaultV5? key = some image) :
    state.accounts.lookup key = some (.vaultV5 image) := by
  obtain ⟨account, hlookup, hread⟩ := Option.bind_eq_some_iff.mp himage
  cases account <;> simp_all [Account.vaultV5?]

theorem session?_of_vault? {vault : Vault}
    (hvault : state.vault? key = some vault) : state.session? key = none :=
  view_of_vault? hvault

theorem claim?_of_vault? {vault : Vault}
    (hvault : state.vault? key = some vault) : state.claim? key = none :=
  view_of_vault? hvault

theorem claim?_of_session? {session : SessionAccount}
    (hsession : state.session? key = some session) : state.claim? key = none :=
  view_of_session? hsession

theorem session?_of_claim? {claim : LockedClaim}
    (hclaim : state.claim? key = some claim) : state.session? key = none :=
  view_of_claim? hclaim

theorem ne_of_session?_of_vault? {other : Pubkey} {session : SessionAccount}
    {vault : Vault} (hsession : state.session? key = some session)
    (hvault : state.vault? other = some vault) : key ≠ other := by
  rintro rfl
  rw [session?, view_of_vault? hvault] at hsession
  cases hsession

theorem ne_of_claim?_of_vault? {other : Pubkey} {claim : LockedClaim}
    {vault : Vault} (hclaim : state.claim? key = some claim)
    (hvault : state.vault? other = some vault) : key ≠ other := by
  rintro rfl
  rw [claim?, view_of_vault? hvault] at hclaim
  cases hclaim

end State

/-- The views of a state, one function for each. -/
structure HasViews (state : State) (ledgers : Pubkey → Option VaultLedger)
    (sessions : Pubkey → Option SessionAccount)
    (claims : Pubkey → Option LockedClaim) : Prop where
  ledgers : state.ledger? = ledgers
  sessions : state.session? = sessions
  claims : state.claim? = claims

namespace HasViews

open Function

variable {state : State} {ledgers : Pubkey → Option VaultLedger}
  {sessions : Pubkey → Option SessionAccount}
  {claims : Pubkey → Option LockedClaim} {key : Pubkey}

theorem self (state : State) :
    HasViews state state.ledger? state.session? state.claim? :=
  ⟨rfl, rfl, rfl⟩

theorem vault?_eq_none (hviews : HasViews state ledgers sessions claims)
    (hnone : ledgers key = none) : state.vault? key = none := by
  rw [← hviews.ledgers, State.ledger?, Option.map_eq_none_iff] at hnone
  exact hnone

theorem write_session (hviews : HasViews state ledgers sessions claims)
    (hledger : ledgers key = none) (hclaim : claims key = none) (session : SessionAccount) :
    HasViews (state.write key (.session session)) ledgers
      (update sessions key (some session)) claims where
  ledgers := (State.ledger?_of_view _
    (State.view_write_of_eq (hviews.vault?_eq_none hledger))).trans
      hviews.ledgers
  sessions := by
    rw [← hviews.sessions]
    exact State.view_write_eq_update
  claims := (State.view_write_of_eq
    (by rw [← hviews.claims] at hclaim; exact hclaim)).trans hviews.claims

theorem write_claim (hviews : HasViews state ledgers sessions claims)
    (hledger : ledgers key = none) (hsession : sessions key = none) (claim : LockedClaim) :
    HasViews (state.write key (.claim claim)) ledgers sessions
      (update claims key (some claim)) where
  ledgers := (State.ledger?_of_view _
    (State.view_write_of_eq (hviews.vault?_eq_none hledger))).trans
      hviews.ledgers
  sessions := (State.view_write_of_eq
    (by rw [← hviews.sessions] at hsession; exact hsession)).trans
      hviews.sessions
  claims := by
    rw [← hviews.claims]
    exact State.view_write_eq_update

/-- A vault may replace a vault, a vacant address or a V5 image. -/
theorem write_vault (hviews : HasViews state ledgers sessions claims)
    (hsession : sessions key = none) (hclaim : claims key = none)
    (vault : Vault) :
    HasViews (state.write key (.vault vault))
      (update ledgers key (some vault.ledger)) sessions claims where
  ledgers := by
    rw [State.ledger?_write_vault, hviews.ledgers]
  sessions := (State.view_write_of_eq
    (by rw [← hviews.sessions] at hsession; exact hsession)).trans
      hviews.sessions
  claims := (State.view_write_of_eq
    (by rw [← hviews.claims] at hclaim; exact hclaim)).trans hviews.claims

/-- A vault write that keeps the ledger changes no view. -/
theorem write_vault_same (hviews : HasViews state ledgers sessions claims)
    (hsession : sessions key = none) (hclaim : claims key = none) {vault : Vault}
    (hledger : ledgers key = some vault.ledger) :
    HasViews (state.write key (.vault vault)) ledgers sessions claims := by
  have hwritten := hviews.write_vault hsession hclaim vault
  rwa [← hledger, update_eq_self] at hwritten

theorem close_session (hviews : HasViews state ledgers sessions claims)
    (hledger : ledgers key = none) (hclaim : claims key = none) :
    HasViews (state.close key) ledgers (update sessions key none) claims where
  ledgers := (State.ledger?_of_view _
    (State.view_close_of_none (hviews.vault?_eq_none hledger))).trans
      hviews.ledgers
  sessions := by
    rw [← hviews.sessions]
    exact State.view_close_eq_update
  claims := (State.view_close_of_none
    (by rw [← hviews.claims] at hclaim; exact hclaim)).trans hviews.claims

end HasViews

namespace State

variable {state : State} {key : Pubkey}

theorem ledger?_of_session? {session : SessionAccount}
    (hsession : state.session? key = some session) : state.ledger? key = none := by
  rw [ledger?, vault?, view_of_session? hsession]
  rfl

theorem ledger?_of_claim? {claim : LockedClaim}
    (hclaim : state.claim? key = some claim) : state.ledger? key = none := by
  rw [ledger?, vault?, view_of_claim? hclaim]
  rfl

theorem view_of_vaultV5? {Data : Type} {read : Account → Option Data}
    {image : VaultV5Reader} (himage : state.vaultV5? key = some image) :
    state.view read key = read (.vaultV5 image) :=
  view_of_lookup (lookup_of_vaultV5? himage)

theorem ledger?_of_vaultV5? {image : VaultV5Reader}
    (himage : state.vaultV5? key = some image) : state.ledger? key = none := by
  rw [ledger?, vault?, view_of_vaultV5? himage]
  rfl

theorem ledger?_of_lookup_none (hvacant : state.accounts.lookup key = none) :
    state.ledger? key = none := by
  rw [ledger?, vault?, view_of_lookup_none hvacant]
  rfl

end State

/-- The step leaves every view that the accounting reads as it was. -/
structure Quiet (before after : State) : Prop where
  ledgers : after.ledger? = before.ledger?
  sessions : after.session? = before.session?
  claims : after.claim? = before.claim?
  tokens : after.tokens = before.tokens

namespace Quiet

variable {state middle next : State} {key : Pubkey}

theorem refl (state : State) : Quiet state state :=
  ⟨rfl, rfl, rfl, rfl⟩

theorem trans (hfirst : Quiet state middle) (hsecond : Quiet middle next) :
    Quiet state next :=
  ⟨hsecond.ledgers.trans hfirst.ledgers, hsecond.sessions.trans hfirst.sessions,
    hsecond.claims.trans hfirst.claims, hsecond.tokens.trans hfirst.tokens⟩

theorem write_vault {before after : Vault}
    (hvault : state.vault? key = some before)
    (hledger : after.ledger = before.ledger) :
    Quiet state (state.write key (.vault after)) where
  ledgers := by
    rw [State.ledger?_write_vault, hledger, ← State.ledger?_of_vault? hvault,
      Function.update_eq_self]
  sessions := State.view_write_of_eq ((State.view_of_vault? hvault).trans rfl)
  claims := State.view_write_of_eq ((State.view_of_vault? hvault).trans rfl)
  tokens := rfl

theorem write_standbyBacker {after : StandbyBacker}
    (hbacker : state.accounts.lookup key = none ∨
      ∃ before, state.standbyBacker? key = some before) :
    Quiet state (state.write key (.standbyBacker after)) := by
  have hsame : ∀ {Data : Type} (read : Account → Option Data),
      (∀ backer, read (.standbyBacker backer) = none) →
      (state.write key (.standbyBacker after)).view read = state.view read := by
    intro Data read hread
    apply State.view_write_of_eq
    rw [hread]
    rcases hbacker with hvacant | ⟨before, hbefore⟩
    · exact State.view_of_lookup_none hvacant
    · rw [State.view_of_lookup (State.lookup_of_standbyBacker? hbefore), hread]
  exact ⟨State.ledger?_of_view _ (hsame _ fun _ => rfl), hsame _ fun _ => rfl,
    hsame _ fun _ => rfl, rfl⟩

end Quiet

end DexterVault.Accounts
