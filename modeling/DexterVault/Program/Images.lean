import DexterVault.Program.Step
import DexterVault.State.Terms

/-!
# No call creates a vault in the V5 layout

An address at which no V5 image stands never gets one, so a vault that starts
at a vacant address is never migrated.
-/

namespace DexterVault.Program

open DexterVault.Machine
open DexterVault.Accounts
open DexterVault.Execution
open DexterVault.Setup
open DexterVault.Withdrawal
open DexterVault.Session
open DexterVault.Gate
open DexterVault.Voucher
open DexterVault.Claim
open DexterVault.Credit
open DexterVault.Migration

/-- No vault of either layout stands at the address. -/
structure NoVault (state : State) (key : Pubkey) : Prop where
  vault : state.vault? key = none
  image : state.vaultV5? key = none

theorem NoVault.terms {state : State} {key : Pubkey}
    (hvacant : NoVault state key) : state.terms? key = none := by
  rw [State.terms?, hvacant.vault, Option.map_none]

/-- No image appears where there was none. -/
def NoNewImage (before after : State) : Prop :=
  ∀ key, before.vaultV5? key = none → after.vaultV5? key = none

namespace NoNewImage

variable {before after : State} {key : Pubkey} {account : Account}

theorem refl (state : State) : NoNewImage state state :=
  fun _ hnone => hnone

/-- A write of an account of another type. -/
theorem write (himages : NoNewImage before after)
    (haccount : account.vaultV5? = none) :
    NoNewImage before (after.write key account) := by
  intro other hnone
  rw [State.vaultV5?, State.view_write]
  split
  · exact haccount
  · exact himages other hnone

theorem close (himages : NoNewImage before after) :
    NoNewImage before (after.close key) := by
  intro other hnone
  rw [State.vaultV5?, State.view_close]
  split
  · rfl
  · exact himages other hnone

end NoNewImage

section Steps

variable {runtime : Runtime} {state next : State}

theorem registerSessionKey_images {context : Context}
    {accounts : RegisterSessionKey} {args : RegisterSessionKeyArgs}
    (hok : registerSessionKey runtime context accounts args state = .ok next) :
    NoNewImage state next := by
  obtain ⟨vault, _, session, bump, gate, count, -, hgate, -, rfl⟩ :=
    registerSessionKey_gate hok
  have hswept : NoNewImage state gate.state := by
    intro key hnone
    rw [State.vaultV5?, gateLoop_view (fun _ => rfl) hgate]
    exact hnone
  exact (hswept.write rfl).write rfl

theorem step_images {call : Call} (hstep : step runtime state call = .ok next) :
    NoNewImage state next := by
  have hrefl := NoNewImage.refl state
  cases call with
  | initializeVault =>
      obtain ⟨-, bump, rfl⟩ := initializeVault_ok hstep
      exact hrefl.write rfl
  | setSwig =>
      obtain ⟨vault, -, -, rfl⟩ := setSwig_ok hstep
      exact hrefl.write rfl
  | setSwigAtomic =>
      obtain ⟨vault, -, -, rfl⟩ := setSwigAtomic_ok hstep
      exact hrefl.write rfl
  | settleVoucher context accounts args =>
      rcases settleVoucher_ok hstep with ⟨hclose, -⟩ |
        ⟨-, vault, sessionKey, session, newOutstanding, -, rfl⟩
      · obtain ⟨vault, -, -, rfl⟩ := settleVoucher_closed hstep hclose
        exact hrefl.write rfl
      · exact (hrefl.write rfl).write rfl
  | requestWithdrawal =>
      obtain ⟨vault, -, rfl⟩ := requestWithdrawal_ok hstep
      exact hrefl.write rfl
  | finalizeWithdrawal =>
      obtain ⟨vault, pending, ata, -, rfl⟩ := finalizeWithdrawal_ok hstep
      exact hrefl.write rfl
  | forceRelease =>
      obtain ⟨vault, pending, -, rfl⟩ := forceRelease_ok hstep
      exact hrefl.write rfl
  | rotatePasskey =>
      obtain ⟨vault, -, -, rfl⟩ := rotatePasskey_ok hstep
      exact hrefl.write rfl
  | rotateDexterAuthority =>
      obtain ⟨vault, -, rfl⟩ := rotateDexterAuthority_ok hstep
      exact hrefl.write rfl
  | provePasskey =>
      obtain rfl := provePasskey_unchanged hstep
      exact hrefl
  | registerSessionKey => exact registerSessionKey_images hstep
  | revokeSessionKey =>
      obtain ⟨vault, session, count, -, -, rfl⟩ := revokeSessionKey_ok hstep
      exact (hrefl.write rfl).write rfl
  | settleTabVoucher =>
      obtain ⟨vault, account, increment, -, rfl⟩ := settleTabVoucher_ok hstep
      exact (hrefl.write rfl).write rfl
  | migrateV5ToV6 =>
      obtain ⟨v5, -, rfl⟩ := migrateV5ToV6_ok hstep
      exact hrefl.write rfl
  | migrateV5ToV6WithSession =>
      obtain ⟨v5, carried, bump, -, rfl⟩ := migrateV5ToV6WithSession_ok hstep
      exact (hrefl.write rfl).write rfl
  | lockVoucher =>
      obtain ⟨vault, account, ata, delta, outstanding, claimBump, -, rfl⟩ :=
        lockVoucher_ok hstep
      exact ((hrefl.write rfl).write rfl).write rfl
  | transferLockOwnership =>
      obtain ⟨claim, -, -, rfl⟩ := transferLockOwnership_ok hstep
      exact hrefl.write rfl
  | settleLockedVoucher =>
      obtain ⟨vault, claim, -, rfl⟩ := settleLockedVoucher_ok hstep
      exact (hrefl.write rfl).write rfl
  | recoverAbandonedLock =>
      obtain ⟨vault, claim, -, rfl⟩ := recoverAbandonedLock_ok hstep
      exact (hrefl.write rfl).write rfl
  | openStandby =>
      obtain ⟨vault, backer, newAggregate, -, rfl⟩ := openStandby_ok hstep
      exact (hrefl.write rfl).write rfl
  | drawCredit =>
      obtain ⟨vault, newBorrowed, recoveryAt, -, rfl⟩ := drawCredit_ok hstep
      exact hrefl.write rfl
  | repayCredit =>
      obtain ⟨vault, -, rfl⟩ := repayCredit_ok hstep
      exact hrefl.write rfl
  | seizeCollateral =>
      obtain ⟨vault, -, rfl⟩ := seizeCollateral_ok hstep
      exact hrefl.write rfl
  | setStandbyReserve =>
      obtain ⟨found, bump, -, rfl⟩ := setStandbyReserve_ok hstep
      exact hrefl.write rfl
  | closeStandby =>
      obtain ⟨vault, backer, -, rfl⟩ := closeStandby_ok hstep
      exact (hrefl.write rfl).write rfl
  | closeSession =>
      obtain ⟨session, -, -, rfl⟩ := closeSession_ok hstep
      exact hrefl.close

/-- The environment rewrites the images that exist. -/
theorem environment_images (hmove : Environment state next) :
    NoNewImage state next := by
  cases hmove with
  | tokens tokens => exact NoNewImage.refl state
  | image himage written =>
      intro key hnone
      rw [State.vaultV5?, State.view_write]
      split
      · next hkey =>
          subst hkey
          cases himage.symm.trans hnone
      · exact hnone
  | ledger himage hbacker written => exact (NoNewImage.refl state).write rfl

end Steps

end DexterVault.Program
