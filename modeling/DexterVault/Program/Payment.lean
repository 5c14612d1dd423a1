import DexterVault.Program.Change

/-!
# Calls together with their payments

Five instructions authorise a transfer out of the USDC account of a swig's
wallet, which the next instruction of the transaction performs.  Here a call
and its transfer are one step: it fails when the program refuses the call or
when the balance is too small.  Between two steps tokens move without the program,
but not out of the wallet of the vault that is looked at.
-/

namespace DexterVault.Payments

open DexterVault.Machine
open DexterVault.Accounts
open DexterVault.Execution
open DexterVault.Transition
open DexterVault.Credit
open DexterVault.Program

variable {runtime : Runtime} {vaultKey : Pubkey}

/-- A transfer out of the wallet of a swig. -/
structure Payment where
  swig : Pubkey
  amount : U64
  deriving DecidableEq

/-- The transfer that a call authorises: the increment of a tab settlement, the
amount of a settled claim or of a withdrawal, the clamped repayment, and the
whole debt of a seizure. -/
def payment (state : State) : Call → Option Payment
  | .settleTabVoucher _ accounts args =>
      (state.session? accounts.session).map fun account =>
        ⟨accounts.swig, saturatingSub args.cumulativeAmount account.session.spent⟩
  | .settleLockedVoucher _ accounts =>
      (state.claim? accounts.claim).map fun claim =>
        ⟨accounts.swig, claim.amount⟩
  | .finalizeWithdrawal _ accounts _ =>
      (state.vault? accounts.vault).bind fun vault =>
        vault.pendingWithdrawal.map fun pending =>
          ⟨accounts.swig, pending.amount⟩
  | .repayCredit _ accounts args =>
      (state.vault? accounts.vault).map fun vault =>
        ⟨accounts.swig, repaidAmount vault args⟩
  | .seizeCollateral _ accounts =>
      (state.vault? accounts.vault).map fun vault =>
        ⟨accounts.swig, vault.borrowed⟩
  | _ => none

/-- What leaves the wallet of `swig`. -/
def due (payment : Option Payment) (swig : Pubkey) : ℕ :=
  payment.elim 0 fun payment =>
    if payment.swig = swig then payment.amount.val else 0

inductive PaymentError
  | refused (error : ProgramError)
  | insufficientFunds
  deriving DecidableEq

/-- The transfer out of the USDC account of the wallet. -/
def pay (runtime : Runtime) (payment : Payment) (state : State) :
    Except PaymentError State :=
  match usdcAta runtime payment.swig with
  | none => .error .insufficientFunds
  | some ata =>
      match state.tokens.lookup ata with
      | none => .error .insufficientFunds
      | some account =>
          match checkedSub account.amount payment.amount with
          | none => .error .insufficientFunds
          | some amount => .ok { state with
              tokens := state.tokens.insert ata { account with amount := amount } }

section Pay

variable {state next : State} {payment : Payment}

end Pay

section Step

variable {before after : State} {call : Call}

/-- Only a call that drives a swig authorises a transfer, out of that swig. -/
theorem exit_of_payment {payment : Payment}
    (hpayment : DexterVault.Payments.payment before call = some payment) :
    ∃ driven, call.exit = some driven ∧ payment.swig = driven.swig := by
  cases call with
  | settleTabVoucher =>
      obtain ⟨_, -, rfl⟩ := Option.map_eq_some_iff.mp hpayment
      exact ⟨_, rfl, rfl⟩
  | settleLockedVoucher =>
      obtain ⟨_, -, rfl⟩ := Option.map_eq_some_iff.mp hpayment
      exact ⟨_, rfl, rfl⟩
  | finalizeWithdrawal =>
      obtain ⟨_, -, hpending⟩ := Option.bind_eq_some_iff.mp hpayment
      obtain ⟨_, -, rfl⟩ := Option.map_eq_some_iff.mp hpending
      exact ⟨_, rfl, rfl⟩
  | repayCredit =>
      obtain ⟨_, -, rfl⟩ := Option.map_eq_some_iff.mp hpayment
      exact ⟨_, rfl, rfl⟩
  | seizeCollateral =>
      obtain ⟨_, -, rfl⟩ := Option.map_eq_some_iff.mp hpayment
      exact ⟨_, rfl, rfl⟩
  | _ => cases hpayment

end Step

end DexterVault.Payments
