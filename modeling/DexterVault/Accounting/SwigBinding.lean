import DexterVault.Core.Holding
import DexterVault.Program.Change

/-!
# Which swig a vault holds

A vault gets its swig from a binding, or from the image it is migrated out of,
and keeps it.  A call that drives a swig names a vault that holds it, and the
checks of the call are the checks of that vault.
-/

namespace DexterVault.SwigBinding

open Function
open DexterVault.Accounts
open DexterVault.Execution
open DexterVault.Transition
open DexterVault.Holding
open DexterVault.Withdrawal
open DexterVault.Voucher
open DexterVault.Claim
open DexterVault.Credit
open DexterVault.Program

variable {runtime : Runtime} {vaultKey swig : Pubkey}

/-! ## Bindings -/

/-- The default address stands for a vault that is not bound yet. -/
def Bound (swig : Pubkey) : Prop := swig ≠ defaultPubkey

instance : DecidablePred Bound :=
  fun swig => inferInstanceAs (Decidable (swig ≠ defaultPubkey))

/-- The swig that a vault holds. -/
def swigOf (state : State) (vaultKey : Pubkey) : Option Pubkey :=
  (state.ledger? vaultKey).map VaultLedger.swigAddress

/-- The swig that a vault of the current layout or of V5 holds. -/
def heldSwig (state : State) (vaultKey : Pubkey) : Option Pubkey :=
  swigOf state vaultKey <|>
    (state.vaultV5? vaultKey).map VaultV5Reader.swigAddress

/-- The vault to which a call gives a swig: the one it binds, or the one it
brings out of a V5 image. -/
def takenSwig (before : State) (call : Call) : Option (Pubkey × Pubkey) :=
  call.boundSwig <|> call.migratedVault.bind fun vaultKey =>
    (before.vaultV5? vaultKey).map fun image => (vaultKey, image.swigAddress)

/-- A vault that is bound, or that comes out of a V5 image, holds a swig that no
other vault holds. -/
def BindsUnclaimed : Accepted State Call → Prop :=
  TakesUnclaimed Bound heldSwig takenSwig

theorem unclaimed_iff {state : State} :
    Unclaimed (heldSwig state) vaultKey swig ↔
      ∀ other ∈ state.accounts.keys, heldSwig state other = some swig →
        other = vaultKey := by
  refine ⟨fun hunclaimed other _ => hunclaimed other, fun hkeys other hheld => ?_⟩
  refine hkeys other (Finmap.mem_keys.mpr ?_) hheld
  by_contra habsent
  have hnone := Finmap.lookup_eq_none.mpr habsent
  have hledger : state.ledger? other = none := by
    rw [State.ledger?, State.vault?, State.view_of_lookup_none hnone]
    rfl
  have himage : state.vaultV5? other = none := State.view_of_lookup_none hnone
  rw [heldSwig, swigOf, hledger, himage] at hheld
  cases hheld

instance (state : State) (vaultKey swig : Pubkey) :
    Decidable (Unclaimed (heldSwig state) vaultKey swig) :=
  decidable_of_iff _ unclaimed_iff.symm

instance : DecidablePred BindsUnclaimed := fun accepted =>
  inferInstanceAs (Decidable
    (∀ pair ∈ takenSwig accepted.before accepted.call, _ → _))

section Steps

variable {before after : State} {call : Call} {written : VaultLedger}

theorem swigOf_eq_some_iff {state : State} :
    swigOf state vaultKey = some swig ↔
      ∃ vault, state.vault? vaultKey = some vault ∧ vault.swigAddress = swig := by
  simp [swigOf, State.ledger?, Vault.ledger]

theorem moves_same {taken : Option (Pubkey × Pubkey)}
    (hsame : ∀ vaultKey, swigOf after vaultKey = swigOf before vaultKey) :
    Moves Bound (swigOf before) (swigOf after) taken :=
  .of_le fun key _ hheld => (hsame key).symm.trans hheld

/-- A vault written with what it takes, or with no swig. -/
theorem moves_write {taken : Option (Pubkey × Pubkey)}
    (hledgers : after.ledger? = update before.ledger? vaultKey (some written))
    (htaken : Bound written.swigAddress →
      taken = some (vaultKey, written.swigAddress)) :
    Moves Bound (swigOf before) (swigOf after) taken := by
  intro other swig hbound hheld
  by_cases hother : other = vaultKey
  · subst hother
    rw [swigOf, hledgers, update_self, Option.map_some] at hheld
    obtain rfl := Option.some.inj hheld
    exact .inr (htaken hbound)
  · rw [swigOf, hledgers, update_of_ne hother] at hheld
    exact .inl hheld

/-- The step lemma. -/
theorem swigs_step (hstep : step runtime before call = .ok after) :
    Moves Bound (swigOf before) (swigOf after) (takenSwig before call) := by
  cases step_change hstep with
  | quiet _ hsame =>
      exact moves_same fun _ => by rw [swigOf, hsame.ledgers, swigOf]
  | created _ hledger hviews =>
      subst hledger
      exact moves_write hviews.ledgers fun hbound => absurd rfl hbound
  | bound hcall _ _ hviews =>
      exact moves_write hviews.ledgers fun _ => by rw [takenSwig, hcall]; rfl
  | tabOpened _ hviews =>
      exact moves_same fun _ => by rw [swigOf, hviews.ledgers, swigOf]
  | tabSettled _ hviews =>
      exact moves_same fun _ => by rw [swigOf, hviews.ledgers, swigOf]
  | locked hlocked hviews =>
      exact moves_same (State.ledger?_map_write hviews.ledgers
        (State.ledger?_of_vault? hlocked.vaultAt) rfl)
  | transferred _ hviews =>
      exact moves_same fun _ => by rw [swigOf, hviews.ledgers, swigOf]
  | claimSettled hsettled hviews =>
      exact moves_same (State.ledger?_map_write hviews.ledgers
        (State.ledger?_of_vault? hsettled.vaultAt) rfl)
  | claimRecovered hrecovered hviews =>
      exact moves_same (State.ledger?_map_write hviews.ledgers
        (State.ledger?_of_vault? hrecovered.vaultAt) rfl)
  | registered hregistered _ hviews =>
      exact moves_same (State.ledger?_map_write hviews.ledgers
        (State.ledger?_of_vault? hregistered.vaultAt) rfl)
  | revoked hrevoked _ hviews =>
      exact moves_same (State.ledger?_map_write hviews.ledgers
        (State.ledger?_of_vault? hrevoked.vaultAt) rfl)
  | closed _ _ hviews =>
      exact moves_same fun _ => by rw [swigOf, hviews.ledgers, swigOf]
  | @migrated _ accounts _ _ himage hviews =>
      refine moves_write hviews.ledgers fun _ => ?_
      rw [takenSwig]
      change (before.vaultV5? accounts.vault).map _ = _
      rw [himage]
      rfl
  | @migratedWithSession _ accounts _ _ _ _ _ hmigrated hviews =>
      refine moves_write hviews.ledgers fun _ => ?_
      rw [takenSwig]
      change (before.vaultV5? accounts.vault).map _ = _
      rw [hmigrated.imageAt]
      rfl

end Steps

/-- What the vault named by the call has checked: its passkey and its withdrawal
gate, the key of one of its sessions, the holder of one of its claims, or its
authority. -/
def Authorised (runtime : Runtime) (before : State) : Call → Prop
  | .finalizeWithdrawal context accounts args => ∃ vault pending ata,
      Finalized runtime context accounts args before vault pending ata
  | .settleTabVoucher context accounts args => ∃ vault account increment,
      TabSettled runtime context accounts args before vault account increment
  | .settleLockedVoucher context accounts => ∃ vault claim,
      ClaimSettled context accounts before vault claim
  | .repayCredit context accounts _ => ∃ vault,
      CreditExited context accounts before vault
  | .seizeCollateral context accounts => ∃ vault,
      CreditExited context accounts before vault
  | _ => True

/-- The call drives its swig through a vault that holds it, and was authorised
by that vault. -/
theorem exit_authorised {before after : State} {call : Call} {driven : DrivenSwig}
    (hexit : call.exit = some driven)
    (hstep : step runtime before call = .ok after) :
    swigOf before driven.vault = some driven.swig ∧
      Authorised runtime before call := by
  cases call with
  | finalizeWithdrawal =>
      cases hexit
      obtain ⟨vault, pending, ata, hfinalized, -⟩ := finalizeWithdrawal_ok hstep
      exact ⟨swigOf_eq_some_iff.mpr
        ⟨vault, hfinalized.vaultAt, hfinalized.swig.symm⟩, vault, pending, ata,
        hfinalized⟩
  | settleTabVoucher =>
      cases hexit
      obtain ⟨vault, account, increment, hsettled, -⟩ := settleTabVoucher_ok hstep
      exact ⟨swigOf_eq_some_iff.mpr
        ⟨vault, hsettled.vaultAt, hsettled.swig.symm⟩, vault, account, increment,
        hsettled⟩
  | settleLockedVoucher =>
      cases hexit
      obtain ⟨vault, claim, hsettled, -⟩ := settleLockedVoucher_ok hstep
      exact ⟨swigOf_eq_some_iff.mpr
        ⟨vault, hsettled.vaultAt, hsettled.swig.symm⟩, vault, claim, hsettled⟩
  | repayCredit =>
      cases hexit
      obtain ⟨vault, hexited, -⟩ := repayCredit_ok hstep
      exact ⟨swigOf_eq_some_iff.mpr
        ⟨vault, hexited.vaultAt, hexited.swig.symm⟩, vault, hexited⟩
  | seizeCollateral =>
      cases hexit
      obtain ⟨vault, hexited, -⟩ := seizeCollateral_ok hstep
      exact ⟨swigOf_eq_some_iff.mpr
        ⟨vault, hexited.vaultAt, hexited.swig.symm⟩, vault, hexited⟩
  | _ => cases hexit

end DexterVault.SwigBinding
