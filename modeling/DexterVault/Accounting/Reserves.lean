import DexterVault.Accounting.Claims
import DexterVault.Accounting.SwigBinding
import DexterVault.Program.Payment

/-!
# The reservation and the balance behind it

A vault reserves the amounts of its pending claims in the USDC account of its
wallet.  `lock_voucher` and `finalize_withdrawal` compare the reservation with
that balance; a settled claim takes the same amount out of both.  The other
three exits compare nothing, and the reservation stays covered as long as what
they pay comes out of the unreserved part.
-/

namespace DexterVault.Reserves

open DexterVault.Machine
open DexterVault.Accounts
open DexterVault.Execution
open DexterVault.Transition
open DexterVault.Holding
open DexterVault.Withdrawal
open DexterVault.Claim
open DexterVault.Program
open DexterVault.Payments
open DexterVault.SwigBinding
open DexterVault.Claims

variable {runtime : Runtime} {vaultKey : Pubkey}

/-! ## The condition on the calls -/

/-- A token account in which a call looks up the balance of a wallet. -/
structure BalanceReading where
  swig : Pubkey
  account : Pubkey

/-- The two calls that compare the reservation with a balance. -/
def balanceReading : Call → Option BalanceReading
  | .lockVoucher _ accounts _ => some ⟨accounts.swig, accounts.vaultUsdcAta⟩
  | .finalizeWithdrawal _ accounts _ =>
      some ⟨accounts.swig, accounts.vaultUsdcAta⟩
  | _ => none

/-- The exits that compare the reservation with nothing. -/
def uncheckedExit : Call → Bool
  | .settleTabVoucher .. | .repayCredit .. | .seizeCollateral .. => true
  | _ => false

/-- The account a call reads as the balance of a wallet is the USDC account of
that wallet. -/
def ReadsUsdcAta (runtime : Runtime) (call : Call) : Prop :=
  ∀ reading ∈ balanceReading call,
    usdcAta runtime reading.swig = some reading.account

/-- What an unchecked exit pays out of the wallet of the vault leaves the
reservation of the vault in it. -/
def LeavesReserve (runtime : Runtime) (vaultKey : Pubkey) (before : State)
    (call : Call) : Prop :=
  uncheckedExit call = true → ∀ paid ∈ payment before call,
    ∀ vault ∈ before.vault? vaultKey, paid.swig = vault.swigAddress →
      vault.outstandingLockedAmount.val + paid.amount.val ≤
        usdcBalance runtime before paid.swig

/-- The vault is not migrated, no swig is bound twice, balances are read in the
right account, and the unchecked exits leave the reservation. -/
structure KeepsReserve (runtime : Runtime) (vaultKey : Pubkey)
    (accepted : Accepted State Call) : Prop where
  initializes : Initializes vaultKey accepted
  binds : BindsUnclaimed accepted
  reads : ReadsUsdcAta runtime accepted.call
  leaves : LeavesReserve runtime vaultKey accepted.before accepted.call

instance (call : Call) : Decidable (ReadsUsdcAta runtime call) :=
  inferInstanceAs (Decidable (∀ reading ∈ balanceReading call, _ = _))

instance (before : State) (call : Call) :
    Decidable (LeavesReserve runtime vaultKey before call) :=
  inferInstanceAs (Decidable (_ → ∀ paid ∈ payment before call,
    ∀ vault ∈ before.vault? vaultKey, _ → _ ≤ _))

instance (accepted : Accepted State Call) :
    Decidable (KeepsReserve runtime vaultKey accepted) :=
  decidable_of_iff
    (Initializes vaultKey accepted ∧ BindsUnclaimed accepted ∧
      ReadsUsdcAta runtime accepted.call ∧
      LeavesReserve runtime vaultKey accepted.before accepted.call)
    ⟨fun ⟨hinitializes, hbinds, hreads, hleaves⟩ =>
        ⟨hinitializes, hbinds, hreads, hleaves⟩,
      fun hkeeps => ⟨hkeeps.initializes, hkeeps.binds, hkeeps.reads,
        hkeeps.leaves⟩⟩

/-! ## The invariant -/

/-- The fields of a vault that the balance is compared with. -/
structure Reserve where
  swigAddress : Pubkey
  outstandingLockedAmount : U64

def reserve (ledger : VaultLedger) : Reserve :=
  ⟨ledger.swigAddress, ledger.outstandingLockedAmount⟩

/-- A vault without a swig reserves nothing, and the wallet covers what the
vault reserves. -/
structure Covered (runtime : Runtime) (state : State) (reserve : Reserve) :
    Prop where
  unbound : reserve.swigAddress = defaultPubkey →
    reserve.outstandingLockedAmount = 0
  balance : reserve.outstandingLockedAmount.val ≤
    usdcBalance runtime state reserve.swigAddress

structure Solvent (runtime : Runtime) (vaultKey : Pubkey) (state : State) :
    Prop where
  conserved : Conserved vaultKey state
  unshared : Unshared Bound (swigOf state)
  covered : ∀ ledger, state.ledger? vaultKey = some ledger →
    Covered runtime state (reserve ledger)

section Steps

variable {before after : State} {call : Call} {ledger : VaultLedger}

/-- The USDC account read by an accepted call holds the balance of the
wallet. -/
theorem usdcBalance_of_reading {swig account : Pubkey} {token : TokenAccount}
    (hata : usdcAta runtime swig = some account)
    (htoken : before.tokens.lookup account = some token) :
    usdcBalance runtime before swig = token.amount.val := by
  rw [usdcBalance, hata, Option.elim_some, tokenBalance, htoken,
    Option.elim_some]

theorem due_of_ne {paid : Payment} {swig : Pubkey} (hother : paid.swig ≠ swig) :
    due (some paid) swig = 0 := if_neg hother

theorem due_self (paid : Payment) : due (some paid) paid.swig = paid.amount.val :=
  if_pos rfl

/-- Only through the vault itself does a call drive the swig that it holds. -/
theorem Solvent.driven_eq (hsolvent : Solvent runtime vaultKey before)
    (hledger : before.ledger? vaultKey = some ledger)
    (hbound : ledger.swigAddress ≠ defaultPubkey) {driven : DrivenSwig}
    (hexit : call.exit = some driven) (hswig : driven.swig = ledger.swigAddress)
    (hstep : step runtime before call = .ok after) : driven.vault = vaultKey := by
  have hheld := (exit_authorised hexit hstep).1
  rw [hswig] at hheld
  apply hsolvent.unshared driven.vault vaultKey ledger.swigAddress hbound hheld
  rw [swigOf, hledger, Option.map_some]

/-- Any call but the settlement of a claim of the vault leaves the reservation
covered after its payment. -/
theorem Solvent.covers_due (hsolvent : Solvent runtime vaultKey before)
    (hkeeps : KeepsReserve runtime vaultKey ⟨before, call, after⟩)
    (hledger : before.ledger? vaultKey = some ledger)
    (hbound : ledger.swigAddress ≠ defaultPubkey)
    (hsettle : ∀ accounts ∈ call.settleLocked, accounts.vault ≠ vaultKey)
    {next : State} (hstep : step runtime before call = .ok next) :
    ledger.outstandingLockedAmount.val +
        due (payment before call) ledger.swigAddress ≤
      usdcBalance runtime before ledger.swigAddress := by
  have hbalance := (hsolvent.covered ledger hledger).balance
  cases hpayment : payment before call with
  | none => exact hbalance
  | some paid =>
      by_cases hswig : paid.swig = ledger.swigAddress
      case neg =>
        rw [due_of_ne hswig]
        exact hbalance
      obtain ⟨driven, hexit, hdriven⟩ := exit_of_payment hpayment
      have hvaultKey := hsolvent.driven_eq hledger hbound hexit
        (hdriven.symm.trans hswig) hstep
      obtain ⟨vault, hvault, rfl⟩ := State.vault?_of_ledger? hledger
      have hleaves := fun hunchecked => hkeeps.leaves hunchecked paid hpayment
        vault hvault hswig
      rw [← hswig, due_self]
      cases call with
      | finalizeWithdrawal context accounts args =>
          cases hexit
          subst hvaultKey
          obtain ⟨found, pending, ata, hfinalized, -⟩ :=
            finalizeWithdrawal_ok hstep
          obtain rfl := Option.some.inj (hfinalized.vaultAt.symm.trans hvault)
          simp only [payment, hfinalized.vaultAt, Option.bind_some,
            hfinalized.requested, Option.map_some, Option.some.injEq] at hpayment
          subst hpayment
          have hread := usdcBalance_of_reading (hkeeps.reads _ rfl)
            hfinalized.ataAt
          have hcovered := hfinalized.covered
          change found.outstandingLockedAmount.val + pending.amount.val ≤
            usdcBalance runtime before accounts.swig
          rw [hread]
          omega
      | settleLockedVoucher context accounts =>
          cases hexit
          exact absurd hvaultKey (hsettle _ rfl)
      | settleTabVoucher => exact hleaves rfl
      | repayCredit => exact hleaves rfl
      | seizeCollateral => exact hleaves rfl
      | _ => cases hexit

/-- The settlement of a claim takes its amount out of the reservation and out of
the wallet. -/
theorem Solvent.settled_due (hsolvent : Solvent runtime vaultKey before)
    {context : Context} {accounts : SettleLockedVoucher} {vault : Vault}
    {claim : LockedClaim}
    (hsettled : ClaimSettled context accounts before vault claim)
    (hvaultKey : accounts.vault = vaultKey) :
    vault.outstandingLockedAmount.val - claim.amount.val +
        due (payment before (.settleLockedVoucher context accounts))
          vault.swigAddress ≤
      usdcBalance runtime before vault.swigAddress := by
  subst hvaultKey
  have hbalance := (hsolvent.covered _
    (State.ledger?_of_vault? hsettled.vaultAt)).balance
  have hle := hsolvent.conserved.amount_le hsettled.vaultAt hsettled.claimAt
    hsettled.sameVault hsettled.pending
  have hpayment : payment before (.settleLockedVoucher context accounts) =
      some ⟨accounts.swig, claim.amount⟩ := by
    rw [payment, hsettled.claimAt, Option.map_some]
  rw [hpayment, ← hsettled.swig, due_self]
  change vault.outstandingLockedAmount.val ≤
    usdcBalance runtime before vault.swigAddress at hbalance
  rw [← hsettled.swig] at hbalance
  have hpaid : claim.amount.val ≤ vault.outstandingLockedAmount.val := hle
  change vault.outstandingLockedAmount.val - claim.amount.val +
    claim.amount.val ≤ usdcBalance runtime before accounts.swig
  omega

/-- What the next state has to meet, in terms of the state before the payment. -/
theorem covered_of_due {written : VaultLedger} (hpaid : ∀ swig,
      usdcBalance runtime after swig + due (payment before call) swig =
        usdcBalance runtime before swig)
    (hunbound : written.swigAddress = defaultPubkey →
      written.outstandingLockedAmount = 0)
    (hdue : written.swigAddress ≠ defaultPubkey →
      written.outstandingLockedAmount.val +
          due (payment before call) written.swigAddress ≤
        usdcBalance runtime before written.swigAddress) :
    Covered runtime after (reserve written) := by
  constructor
  case unbound => exact hunbound
  case balance =>
    change written.outstandingLockedAmount.val ≤
      usdcBalance runtime after written.swigAddress
    by_cases hbound : written.swigAddress = defaultPubkey
    · rw [hunbound hbound]
      exact Nat.zero_le _
    · have hcovers := hdue hbound
      have hbalance := hpaid written.swigAddress
      omega

/-- A call that leaves the reserve of the vault as it was. -/
theorem Solvent.covered_keep (hsolvent : Solvent runtime vaultKey before)
    (hkeeps : KeepsReserve runtime vaultKey ⟨before, call, after⟩)
    (hsettle : ∀ accounts ∈ call.settleLocked, accounts.vault ≠ vaultKey)
    {next : State} (hstep : step runtime before call = .ok next)
    (hpaid : ∀ swig,
      usdcBalance runtime after swig + due (payment before call) swig =
        usdcBalance runtime before swig)
    (hsame : (next.ledger? vaultKey).map reserve =
      (before.ledger? vaultKey).map reserve) :
    ∀ written, next.ledger? vaultKey = some written →
      Covered runtime after (reserve written) := by
  intro written hwritten
  rw [hwritten, Option.map_some, eq_comm, Option.map_eq_some_iff] at hsame
  obtain ⟨ledger, hledger, hsame⟩ := hsame
  have hcovered := hsolvent.covered ledger hledger
  have hswig : ledger.swigAddress = written.swigAddress :=
    congrArg Reserve.swigAddress hsame
  have hreserved :
      ledger.outstandingLockedAmount = written.outstandingLockedAmount :=
    congrArg Reserve.outstandingLockedAmount hsame
  apply covered_of_due hpaid
  · rw [← hswig, ← hreserved]
    exact hcovered.unbound
  · intro hbound
    rw [← hswig] at hbound
    rw [← hswig, ← hreserved]
    exact hsolvent.covers_due hkeeps hledger hbound hsettle hstep

/-- An unbound vault reserves nothing after a claim is taken out either. -/
theorem Covered.released {state : State}
    (hcovered : Covered runtime state (reserve ledger)) (amount : U64) :
    ledger.swigAddress = defaultPubkey →
      saturatingSub ledger.outstandingLockedAmount amount = 0 := by
  intro hunbound
  have hzero : ledger.outstandingLockedAmount = 0 := hcovered.unbound hunbound
  apply Fin.ext
  rw [saturatingSub_val, hzero]
  exact Nat.zero_sub _

/-- The step lemma for the covered reserve. -/
theorem covered_step (hsolvent : Solvent runtime vaultKey before)
    (hkeeps : KeepsReserve runtime vaultKey ⟨before, call, after⟩)
    {next : State} (hstep : step runtime before call = .ok next)
    (hpaid : ∀ swig,
      usdcBalance runtime after swig + due (payment before call) swig =
        usdcBalance runtime before swig) :
    ∀ written, next.ledger? vaultKey = some written →
      Covered runtime after (reserve written) := by
  have hkeep := hsolvent.covered_keep hkeeps
  -- a write to another vault, or one that keeps the reserve of this one
  have helsewhere : ∀ {key : Pubkey} {other : VaultLedger},
      next.ledger? = Function.update before.ledger? key (some other) →
      key ≠ vaultKey → (next.ledger? vaultKey).map reserve =
        (before.ledger? vaultKey).map reserve := by
    intro key other hledgers hkey
    rw [hledgers, Function.update_of_ne hkey.symm]
  cases step_change hstep with
  | quiet hquiet hsame =>
      have hsettle : call.settleLocked = none := by
        cases call <;> first | rfl | cases hquiet
      exact hkeep (by rw [hsettle]; exact nofun) hstep hpaid
        (by rw [hsame.ledgers])
  | @created _ accounts _ _ ledger hvacant hledger hviews =>
      by_cases hkey : accounts.vault = vaultKey
      case neg => exact hkeep nofun hstep hpaid (helsewhere hviews.ledgers hkey)
      intro written hwritten
      rw [hviews.ledgers, hkey, Function.update_self] at hwritten
      obtain rfl := Option.some.inj hwritten
      subst hledger
      exact covered_of_due hpaid (fun _ => rfl) fun hbound => absurd rfl hbound
  | @bound _ key swig ledger _ hcall hledger hdefault hviews =>
      have hsettle : call.settleLocked = none := by
        cases call <;> first | rfl | cases hcall
      have hpayment : payment before call = none := by
        cases call <;> first | rfl | cases hcall
      by_cases hkey : key = vaultKey
      case neg =>
        exact hkeep (by rw [hsettle]; exact nofun) hstep hpaid
          (helsewhere hviews.ledgers hkey)
      intro written hwritten
      rw [hviews.ledgers, hkey, Function.update_self] at hwritten
      obtain rfl := Option.some.inj hwritten
      have hzero : ledger.outstandingLockedAmount = 0 :=
        (hsolvent.covered ledger (hkey ▸ hledger)).unbound hdefault
      apply covered_of_due hpaid
      · exact fun _ => hzero
      intro _
      change ledger.outstandingLockedAmount.val + _ ≤ _
      rw [hzero, hpayment]
      exact Nat.zero_le _
  | tabOpened _ hviews => exact hkeep nofun hstep hpaid (by rw [hviews.ledgers])
  | tabSettled _ hviews =>
      exact hkeep nofun hstep hpaid (by rw [hviews.ledgers])
  | @locked _ accounts _ _ vault _ ata delta outstanding _ hlocked hviews =>
      by_cases hkey : accounts.vault = vaultKey
      case neg => exact hkeep nofun hstep hpaid (helsewhere hviews.ledgers hkey)
      intro written hwritten
      rw [hviews.ledgers, hkey, Function.update_self] at hwritten
      obtain rfl := Option.some.inj hwritten
      apply covered_of_due hpaid
      · exact fun hunbound => absurd hunbound hlocked.swigBound
      · intro _
        have hread := usdcBalance_of_reading (hkeeps.reads _ rfl) hlocked.ataAt
        have hcovered : outstanding.val ≤ ata.amount.val := hlocked.covered
        change outstanding.val ≤ usdcBalance runtime before vault.swigAddress
        rw [← hlocked.swig, hread]
        exact hcovered
  | transferred _ hviews =>
      exact hkeep nofun hstep hpaid (by rw [hviews.ledgers])
  | @claimSettled _ accounts _ vault claim hsettled hviews =>
      by_cases hkey : accounts.vault = vaultKey
      case neg =>
        apply hkeep _ hstep hpaid (helsewhere hviews.ledgers hkey)
        intro named hnamed
        obtain rfl := Option.some.inj hnamed
        exact hkey
      have hbefore := hsolvent.covered _
        (State.ledger?_of_vault? (hkey ▸ hsettled.vaultAt))
      intro written hwritten
      rw [hviews.ledgers, hkey, Function.update_self] at hwritten
      obtain rfl := Option.some.inj hwritten
      apply covered_of_due hpaid
      · exact hbefore.released claim.amount
      · intro _
        exact hsolvent.settled_due hsettled hkey
  | @claimRecovered _ accounts _ _ vault claim hrecovered hviews =>
      by_cases hkey : accounts.vault = vaultKey
      case neg => exact hkeep nofun hstep hpaid (helsewhere hviews.ledgers hkey)
      have hbefore := hsolvent.covered _
        (State.ledger?_of_vault? (hkey ▸ hrecovered.vaultAt))
      intro written hwritten
      rw [hviews.ledgers, hkey, Function.update_self] at hwritten
      obtain rfl := Option.some.inj hwritten
      apply covered_of_due hpaid
      · exact hbefore.released claim.amount
      · intro _
        exact (Nat.sub_le _ _).trans hbefore.balance
  | registered hregistered _ hviews =>
      exact hkeep nofun hstep hpaid (State.ledger?_map_write hviews.ledgers
        (State.ledger?_of_vault? hregistered.vaultAt) rfl vaultKey)
  | revoked hrevoked _ hviews =>
      exact hkeep nofun hstep hpaid (State.ledger?_map_write hviews.ledgers
        (State.ledger?_of_vault? hrevoked.vaultAt) rfl vaultKey)
  | closed _ _ hviews =>
      exact hkeep nofun hstep hpaid (by rw [hviews.ledgers])
  | @migrated _ accounts _ _ _ hviews =>
      exact hkeep nofun hstep hpaid (helsewhere hviews.ledgers fun hkey =>
        hkeeps.initializes (congrArg some hkey))
  | @migratedWithSession _ accounts _ _ _ _ _ _ hviews =>
      exact hkeep nofun hstep hpaid (helsewhere hviews.ledgers fun hkey =>
        hkeeps.initializes (congrArg some hkey))

end Steps

section Examples

open Deployment

end Examples

end DexterVault.Reserves
