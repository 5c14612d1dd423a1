import DexterVault.Program.Deployment
import DexterVault.Program.Transaction

/-!
# What an authorising call binds of the transfer behind it

Six calls authorise an amount, five of them for a party that the state records.
Swig lets the following `SignV2` ride on the call and performs the transfer that
the submitter wrote into it.  The program reads no later instruction of the
transaction, so the two agree exactly when the submitter has made them agree.
The calls are those on accounts of the current layout: an instruction that runs on
an older one is a foreign item, which no `SignV2` rides on.
-/

namespace DexterVault.ValueBinding

open DexterVault.Machine
open DexterVault.Framing
open DexterVault.Accounts
open DexterVault.Execution
open DexterVault.Introspection
open DexterVault.Transition
open DexterVault.Webauthn
open DexterVault.Voucher
open DexterVault.Withdrawal
open DexterVault.Claim
open DexterVault.Credit
open DexterVault.Program
open DexterVault.Payments
open DexterVault.Transactions

variable {runtime : Runtime} {markers : Markers}

/-- The amount a call authorises and the party it is for, where the state
records one. -/
structure Authorisation where
  amount : U64
  payee : Option Pubkey
  deriving DecidableEq

/-- The wallet of the financier that backs a vault. -/
def backerWallet (runtime : Runtime) (vault : Vault) : Option Pubkey := do
  let financierSwig ← vault.standbyBacker
  let wallet ← runtime.findProgramAddress (swigWalletSeeds financierSwig)
    swigProgramId
  return wallet.1

/-- The recorded payee: the counterparty of the session, the holder of the
claim, the destination the passkey signed, or the financier. -/
def payee (runtime : Runtime) (state : State) : Call → Option Pubkey
  | .settleTabVoucher _ accounts _ =>
      (state.session? accounts.session).map fun account =>
        account.session.allowedCounterparty
  | .settleLockedVoucher _ accounts =>
      (state.claim? accounts.claim).map LockedClaim.currentHolder
  | .finalizeWithdrawal _ accounts _ =>
      (state.vault? accounts.vault).bind fun vault =>
        vault.pendingWithdrawal.map PendingWithdrawal.destination
  | .repayCredit _ accounts _ =>
      (state.vault? accounts.vault).bind (backerWallet runtime)
  | .seizeCollateral _ accounts =>
      (state.vault? accounts.vault).bind (backerWallet runtime)
  | _ => none

def authorisedAmount (state : State) : Call → Option U64
  | .drawCredit _ _ args => some args.amount
  | call => (payment state call).map Payment.amount

def authorisation (runtime : Runtime) (state : State) (call : Call) :
    Option Authorisation :=
  (authorisedAmount state call).map fun amount =>
    ⟨amount, payee runtime state call⟩

/-- Exactly the authorised amount left the wallet and reached the payee. -/
def Honours (authorised : Authorisation) (wallet : Pubkey)
    (before after : State) : Prop :=
  paidOut wallet before after = authorised.amount.val ∧
    ∀ party ∈ authorised.payee, paidIn party before after = authorised.amount.val

/-- The transfer names the authorised amount of USDC, and a destination that
belongs to the payee. -/
def Carries (authorised : Authorisation) (state : State) (transfer : Transfer) :
    Prop :=
  transfer.usdc = authorised.amount.val ∧
    (authorised.amount = 0 ∨
      ∀ party ∈ authorised.payee, Belongs state transfer.destination party)

instance (authorised : Authorisation) (state : State) (transfer : Transfer) :
    Decidable (Carries authorised state transfer) :=
  inferInstanceAs (Decidable (_ ∧ _))

/-- Only the token accounts say whom a destination belongs to. -/
theorem carries_congr {authorised : Authorisation} {transfer : Transfer}
    {before after : State} (htokens : after.tokens = before.tokens) :
    Carries authorised after transfer ↔ Carries authorised before transfer := by
  rw [Carries, Carries]
  simp only [Belongs, htokens]

section Transfer

variable {authorised : Authorisation} {wallet : Pubkey} {transfer : Transfer}
  {before after : State}

/-- A transfer does what its arguments say, and nothing else decides. -/
theorem honours_iff_carries
    (htransfer : transferChecked wallet transfer before = .ok after) :
    Honours authorised wallet before after ↔
      Carries authorised before transfer := by
  rw [Honours, Carries, paidOut_of_transfer htransfer]
  apply and_congr_right
  intro hamount
  have hpaid (party : Pubkey) : paidIn party before after =
      if Belongs before transfer.destination party then authorised.amount.val
      else 0 := by
    rw [paidIn_of_transfer htransfer, hamount]
  constructor
  · intro hreached
    by_cases hzero : authorised.amount = 0
    · exact .inl hzero
    · right
      intro party hparty
      by_contra helsewhere
      have hnothing : authorised.amount.val = 0 := by
        rw [← hreached party hparty, hpaid, if_neg helsewhere]
      exact hzero (Fin.ext hnothing)
  · rintro (hzero | hbelongs) party hparty
    · rw [hpaid, hzero]
      exact ite_self _
    · rw [hpaid, if_pos (hbelongs party hparty)]

end Transfer

section Call

variable {before after : State} {call : Call}

/-- An accepted call that Swig lets a transfer ride on authorises one. -/
theorem authorisation_of_step {swig wallet : Pubkey}
    (hstep : step runtime before call = .ok after)
    (hdriven : Call.drivenWallet call = some (swig, wallet)) :
    ∃ authorised, authorisation runtime before call = some authorised := by
  have hamount : ∃ amount, authorisedAmount before call = some amount := by
    cases call with
    | finalizeWithdrawal =>
        obtain ⟨vault, pending, ata, hfinalized, -⟩ := finalizeWithdrawal_ok hstep
        exact ⟨pending.amount, by
          simp [authorisedAmount, payment, hfinalized.vaultAt,
            hfinalized.requested]⟩
    | settleTabVoucher _ _ args =>
        obtain ⟨vault, account, increment, hsettled, -⟩ :=
          settleTabVoucher_ok hstep
        exact ⟨saturatingSub args.cumulativeAmount account.session.spent, by
          simp [authorisedAmount, payment, hsettled.admitted.sessionAt]⟩
    | settleLockedVoucher =>
        obtain ⟨vault, claim, hsettled, -⟩ := settleLockedVoucher_ok hstep
        exact ⟨claim.amount, by
          simp [authorisedAmount, payment, hsettled.claimAt]⟩
    | drawCredit _ _ args => exact ⟨args.amount, rfl⟩
    | repayCredit _ _ args =>
        obtain ⟨vault, hexited, -⟩ := repayCredit_ok hstep
        exact ⟨repaidAmount vault args, by
          simp [authorisedAmount, payment, hexited.vaultAt]⟩
    | seizeCollateral =>
        obtain ⟨vault, hexited, -⟩ := seizeCollateral_ok hstep
        exact ⟨vault.borrowed, by
          simp [authorisedAmount, payment, hexited.vaultAt]⟩
    | _ => cases hdriven
  obtain ⟨amount, hamount⟩ := hamount
  exact ⟨_, by rw [authorisation, hamount, Option.map_some]⟩

end Call

/-! ## Every transaction -/

section Transactions

variable {transaction : Transaction} {start finish : State}
  {earlier later : List Item} {ride : Ride}

/-- What a ride moves is what its call authorised, for the party it authorised,
exactly when the transfer that the submitter wrote into the `SignV2` names that
amount and that party. -/
theorem value_bound_iff
    (hlands : Lands runtime markers transaction start finish)
    (hitems : transaction.items = earlier ++ (ride.items ++ later)) :
    (∃ before between after, RideAt runtime markers none start finish earlier
      later ride before between after) ∧
    ∀ before between after, RideAt runtime markers none start finish earlier
      later ride before between after →
      ∃ authorised, authorisation runtime before ride.call = some authorised ∧
        (Honours authorised ride.wallet between after ↔
          Carries authorised before ride.transfer) := by
  have hexecutes := hlands.executes
  rw [hitems] at hexecutes
  refine ⟨hexecutes.ride, fun before between after hride => ?_⟩
  obtain ⟨authorised, hauthorised⟩ :=
    authorisation_of_step hride.called hride.authorised.2.1
  refine ⟨authorised, hauthorised, ?_⟩
  calc Honours authorised ride.wallet between after
      ↔ Carries authorised between ride.transfer :=
        honours_iff_carries hride.transferred
    _ ↔ Carries authorised before ride.transfer :=
        carries_congr (step_tokens hride.called)

end Transactions

/-! ## A withdrawal of 10 with two different transfers behind it -/

section Examples

open Deployment

/-- The passkey's destination has a token account, and so has a stranger. -/
def payeeAccount : Pubkey := filled 71
def stranger : Pubkey := filled 72
def strangerAccount : Pubkey := filled 73

def storedWithdrawal : PendingWithdrawal :=
  (withdrawalScope Deployment.now).pending

def withdrawing (pending : Option PendingWithdrawal) (wallet payee other : U64) :
    State where
  accounts := Finmap.singleton Deployment.vaultKey
    (.vault { boundVault with pendingWithdrawal := pending })
  tokens := ((Finmap.singleton ataKey ⟨usdcMainnet, walletKey, wallet⟩).insert
    payeeAccount ⟨usdcMainnet, withdrawalDestination, payee⟩).insert
      strangerAccount ⟨usdcMainnet, stranger, other⟩

/-- Every swig registers the discriminator of `finalize_withdrawal`. -/
def finalizeMarker : Bytes :=
  (Sha256.digest (ascii "global:finalize_withdrawal")).toList.take 8

def sampleMarkers : Markers := fun _ => [finalizeMarker]

def finalizeInstruction : Instruction := ⟨programId, finalizeMarker⟩

def signInstruction : Instruction := ⟨swigProgramId, []⟩

/-- The instruction by which the passkey consents to the withdrawal of 10. -/
def consentInstruction : Instruction :=
  signatureInstruction secp256r1VerifyProgramId passkey.toList
    (List.replicate 64 1)
    (authenticatorData ++ (Sha256.digest (assertion
      (finalizeWithdrawalMessage storedWithdrawal)).clientDataJson).toList)

def finalizeContext : Context where
  instructions := [consentInstruction, finalizeInstruction, signInstruction]
  currentIndex := 1
  signers := []
  unixTimestamp := Deployment.now

def finalizeCall : Call :=
  .finalizeWithdrawal finalizeContext
    ⟨swig, walletKey, Deployment.vaultKey, ataKey⟩
    (assertion (finalizeWithdrawalMessage storedWithdrawal))

def withdrawalRide (destination : Pubkey) (amount : U64) : Ride where
  instruction := finalizeInstruction
  call := finalizeCall
  signInstruction := signInstruction
  swig := swig
  wallet := walletKey
  transfer := ⟨ataKey, usdcMainnet, destination, amount⟩

def withdrawalTransaction (destination : Pubkey) (amount : U64) :
    Transaction where
  items := [.foreign consentInstruction] ++
    ((withdrawalRide destination amount).items ++ [])
  signers := []
  unixTimestamp := Deployment.now

theorem finalize_step :
    step sampleRuntime (withdrawing (some storedWithdrawal) 100 0 0)
        finalizeCall = .ok (withdrawing none 100 0 0) := by
  decide +kernel

theorem discriminator_finalizeCall :
    discriminator sampleRuntime finalizeCall = finalizeMarker := by
  decide +kernel

theorem finalize_exec : ProgramExec sampleMarkers swig walletKey
    (some (.vault finalizeInstruction finalizeCall)) :=
  ⟨rfl, rfl, finalizeMarker, List.mem_singleton_self _, List.prefix_rfl⟩

/-- The call authorises whatever transfer the wallet can pay. -/
theorem withdrawal_ride {destination : Pubkey} {amount : U64} {after : State}
    (htransfer : transferChecked walletKey ⟨ataKey, usdcMainnet, destination,
      amount⟩ (withdrawing none 100 0 0) = .ok after) :
    RideAt sampleRuntime sampleMarkers none
      (withdrawing (some storedWithdrawal) 100 0 0) after
      [.foreign consentInstruction] [] (withdrawalRide destination amount)
      (withdrawing (some storedWithdrawal) 100 0 0) (withdrawing none 100 0 0)
      after where
  reached := .foreign (.tokens _ _) .done
  called := finalize_step
  authorised := finalize_exec
  transferred := htransfer
  goesOn := .done

/-- The transaction lands with it. -/
theorem withdrawal_lands {destination : Pubkey} {amount : U64} {after : State}
    (htransfer : transferChecked walletKey ⟨ataKey, usdcMainnet, destination,
      amount⟩ (withdrawing none 100 0 0) = .ok after) :
    Lands sampleRuntime sampleMarkers (withdrawalTransaction destination amount)
      (withdrawing (some storedWithdrawal) 100 0 0) after := by
  have hmarker : discriminator sampleRuntime finalizeCall <+: finalizeMarker := by
    rw [discriminator_finalizeCall]
  constructor
  · intro index instruction call hitem
    match index with
    | 1 =>
        cases hitem
        exact ⟨rfl, hmarker, rfl⟩
    | 0 | 2 => cases hitem
    | index + 3 => cases hitem
  · have hconsent : Environment (withdrawing (some storedWithdrawal) 100 0 0)
        (withdrawing (some storedWithdrawal) 100 0 0) := .tokens _ _
    exact .foreign hconsent
      (.vault finalize_step (.signV2 finalize_exec htransfer .done))

def paid : State := withdrawing none 90 10 0
def diverted : State := withdrawing none 5 0 95

theorem paid_transfer :
    transferChecked walletKey ⟨ataKey, usdcMainnet, payeeAccount, 10⟩
        (withdrawing none 100 0 0) = .ok paid := by
  decide +kernel

theorem diverted_transfer :
    transferChecked walletKey ⟨ataKey, usdcMainnet, strangerAccount, 95⟩
        (withdrawing none 100 0 0) = .ok diverted := by
  decide +kernel

def withdrawalAuthorised : Authorisation :=
  ⟨10, some withdrawalDestination⟩

theorem withdrawal_authorisation :
    authorisation sampleRuntime (withdrawing (some storedWithdrawal) 100 0 0)
        finalizeCall = some withdrawalAuthorised := by
  decide +kernel

/-- The wallet pays the 10 it was asked to pay, to the account of the passkey's
destination. -/
theorem value_bound_iff_paid :
    Honours withdrawalAuthorised walletKey (withdrawing none 100 0 0) paid := by
  have hbound := (value_bound_iff (withdrawal_lands paid_transfer) rfl).2 _ _ _
    (withdrawal_ride paid_transfer)
  obtain ⟨authorised, hauthorised, hiff⟩ := hbound
  obtain rfl : withdrawalAuthorised = authorised :=
    Option.some.inj (withdrawal_authorisation.symm.trans hauthorised)
  exact hiff.mpr (by decide +kernel)

/-- The passkey endorsed 10 for its destination.  The same call lets 95 of the
100 units go to a stranger. -/
theorem withdrawal_not_bound :
    Lands sampleRuntime sampleMarkers (withdrawalTransaction strangerAccount 95)
        (withdrawing (some storedWithdrawal) 100 0 0) diverted ∧
      RideAt sampleRuntime sampleMarkers none
        (withdrawing (some storedWithdrawal) 100 0 0) diverted
        [.foreign consentInstruction] [] (withdrawalRide strangerAccount 95)
        (withdrawing (some storedWithdrawal) 100 0 0) (withdrawing none 100 0 0)
        diverted ∧
      authorisation sampleRuntime (withdrawing (some storedWithdrawal) 100 0 0)
        finalizeCall = some withdrawalAuthorised ∧
      ¬ Honours withdrawalAuthorised walletKey (withdrawing none 100 0 0)
        diverted := by
  refine ⟨withdrawal_lands diverted_transfer, withdrawal_ride diverted_transfer,
    withdrawal_authorisation, fun hhonours => ?_⟩
  have hcarries := (honours_iff_carries diverted_transfer).mp hhonours
  have hamount : (95 : ℕ) = 10 := hcarries.1
  exact absurd hamount (by decide)

end Examples

end DexterVault.ValueBinding
