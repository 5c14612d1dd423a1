import DexterVault.Core.Odometer
import DexterVault.Core.Transition
import DexterVault.Instructions.Claim
import DexterVault.Instructions.Credit
import DexterVault.Instructions.Gate
import DexterVault.Instructions.Migration
import DexterVault.Instructions.Voucher
import DexterVault.Instructions.Withdrawal

/-!
# The program as a transition system

One call is one instruction with its accounts, its arguments and the
transaction around it.  Calls may come in any order, from any party; the
environment moves tokens and may rewrite accounts that are still in the V5
layout, which stands for the instructions that accept such an image.
-/

namespace DexterVault.Program

open DexterVault.Machine
open DexterVault.Accounts
open DexterVault.Execution
open DexterVault.Transition
open DexterVault.Webauthn
open DexterVault.Setup
open DexterVault.Withdrawal
open DexterVault.Session
open DexterVault.Voucher
open DexterVault.Claim
open DexterVault.Credit
open DexterVault.Migration

inductive Call
  | initializeVault (context : Context) (accounts : InitializeVault)
      (args : InitializeVaultArgs)
  | setSwig (context : Context) (vault : Pubkey) (args : SetSwigArgs)
  | setSwigAtomic (context : Context) (accounts : SetSwigAtomic)
      (args : SetSwigAtomicArgs)
  | settleVoucher (context : Context) (accounts : SettleVoucher)
      (args : SettleVoucherArgs)
  | requestWithdrawal (context : Context) (vault : Pubkey)
      (args : RequestWithdrawalArgs)
  | finalizeWithdrawal (context : Context) (accounts : FinalizeWithdrawal)
      (args : Assertion)
  | forceRelease (context : Context) (vault : Pubkey) (args : Assertion)
  | rotatePasskey (context : Context) (vault : Pubkey) (args : RotatePasskeyArgs)
  | rotateDexterAuthority (context : Context)
      (accounts : RotateDexterAuthority) (args : RotateDexterAuthorityArgs)
  | provePasskey (context : Context) (vault : Pubkey) (args : ProvePasskeyArgs)
  | registerSessionKey (context : Context) (accounts : RegisterSessionKey)
      (args : RegisterSessionKeyArgs)
  | revokeSessionKey (context : Context) (accounts : RevokeSessionKey)
      (args : RevokeSessionKeyArgs)
  | settleTabVoucher (context : Context) (accounts : SettleTabVoucher)
      (args : SettleTabVoucherArgs)
  | migrateV5ToV6 (context : Context) (accounts : MigrateV5ToV6)
  | migrateV5ToV6WithSession (context : Context)
      (accounts : MigrateV5ToV6WithSession)
      (args : MigrateV5ToV6WithSessionArgs)
  | lockVoucher (context : Context) (accounts : LockVoucher)
      (args : LockVoucherArgs)
  | transferLockOwnership (context : Context)
      (accounts : TransferLockOwnership) (args : TransferLockOwnershipArgs)
  | settleLockedVoucher (context : Context) (accounts : SettleLockedVoucher)
  | recoverAbandonedLock (context : Context) (accounts : RecoverAbandonedLock)
      (args : Assertion)
  | openStandby (context : Context) (accounts : OpenStandby)
      (args : OpenStandbyArgs)
  | drawCredit (context : Context) (accounts : DrawCredit)
      (args : DrawCreditArgs)
  | repayCredit (context : Context) (accounts : CreditExit)
      (args : RepayCreditArgs)
  | seizeCollateral (context : Context) (accounts : CreditExit)
  | setStandbyReserve (context : Context) (accounts : SetStandbyReserve)
      (args : SetStandbyReserveArgs)
  | closeStandby (context : Context) (accounts : CloseStandby)
      (args : CloseStandbyArgs)
  | closeSession (context : Context) (accounts : CloseSession)
      (args : CloseSessionArgs)
  deriving DecidableEq

def step (runtime : Runtime) (state : State) : Call → Result State
  | .initializeVault context accounts args =>
      initializeVault runtime context accounts args state
  | .setSwig context vault args => setSwig runtime context vault args state
  | .setSwigAtomic context accounts args =>
      setSwigAtomic runtime context accounts args state
  | .settleVoucher context accounts args =>
      settleVoucher runtime context accounts args state
  | .requestWithdrawal context vault args =>
      requestWithdrawal runtime context vault args state
  | .finalizeWithdrawal context accounts args =>
      finalizeWithdrawal runtime context accounts args state
  | .forceRelease context vault args =>
      forceRelease runtime context vault args state
  | .rotatePasskey context vault args =>
      rotatePasskey runtime context vault args state
  | .rotateDexterAuthority context accounts args =>
      rotateDexterAuthority context accounts args state
  | .provePasskey context vault args =>
      provePasskey runtime context vault args state
  | .registerSessionKey context accounts args =>
      registerSessionKey runtime context accounts args state
  | .revokeSessionKey context accounts args =>
      revokeSessionKey runtime context accounts args state
  | .settleTabVoucher context accounts args =>
      settleTabVoucher runtime context accounts args state
  | .migrateV5ToV6 context accounts => migrateV5ToV6 context accounts state
  | .migrateV5ToV6WithSession context accounts args =>
      migrateV5ToV6WithSession runtime context accounts args state
  | .lockVoucher context accounts args =>
      lockVoucher runtime context accounts args state
  | .transferLockOwnership context accounts args =>
      transferLockOwnership context accounts args state
  | .settleLockedVoucher context accounts =>
      settleLockedVoucher runtime context accounts state
  | .recoverAbandonedLock context accounts args =>
      recoverAbandonedLock runtime context accounts args state
  | .openStandby context accounts args =>
      openStandby runtime context accounts args state
  | .drawCredit context accounts args =>
      drawCredit runtime context accounts args state
  | .repayCredit context accounts args =>
      repayCredit runtime context accounts args state
  | .seizeCollateral context accounts =>
      seizeCollateral runtime context accounts state
  | .setStandbyReserve context accounts args =>
      setStandbyReserve runtime context accounts args state
  | .closeStandby context accounts args =>
      closeStandby runtime context accounts args state
  | .closeSession context accounts args =>
      closeSession runtime context accounts args state

/-- The transaction around a call. -/
def Call.context : Call → Context
  | .initializeVault context _ _ | .setSwig context _ _
  | .setSwigAtomic context _ _ | .settleVoucher context _ _
  | .requestWithdrawal context _ _ | .finalizeWithdrawal context _ _
  | .forceRelease context _ _ | .rotatePasskey context _ _
  | .rotateDexterAuthority context _ _ | .provePasskey context _ _
  | .registerSessionKey context _ _ | .revokeSessionKey context _ _
  | .settleTabVoucher context _ _ | .migrateV5ToV6 context _
  | .migrateV5ToV6WithSession context _ _ | .lockVoucher context _ _
  | .transferLockOwnership context _ _ | .settleLockedVoucher context _
  | .recoverAbandonedLock context _ _ | .openStandby context _ _
  | .drawCredit context _ _ | .repayCredit context _ _
  | .seizeCollateral context _ | .setStandbyReserve context _ _
  | .closeStandby context _ _ | .closeSession context _ _ => context

/-- The time at which a call lands. -/
def Call.now (call : Call) : I64 := call.context.unixTimestamp

/-- What changes without a call of the program on a V6 vault: token balances,
and the content of accounts in the V5 layout together with the financier
ledger they are credited against. -/
inductive Environment : State → State → Prop
  | tokens (before : State) (tokens : KeyedSum.Store Pubkey TokenAccount) :
      Environment before { before with tokens := tokens }
  | image {before : State} {key : Pubkey} {image : VaultV5Reader}
      (himage : before.vaultV5? key = some image) (next : VaultV5Reader) :
      Environment before (before.write key (.vaultV5 next))
  | ledger {before : State} {key backerKey : Pubkey} {image : VaultV5Reader}
      {backer : StandbyBacker} (himage : before.vaultV5? key = some image)
      (hbacker : before.standbyBacker? backerKey = some backer)
      (next : StandbyBacker) :
      Environment before (before.write backerKey (.standbyBacker next))

def system (runtime : Runtime) : System State Call ProgramError where
  step := step runtime
  environment := Environment

/-- No account of the program exists yet. -/
def genesis : State where
  accounts := ∅
  tokens := ∅

/-- No vault in the V6 layout, no session and no claim exists yet; accounts in
the V5 layout and financier ledgers may, with arbitrary content. -/
def OnlyImages (state : State) : Prop :=
  state.ledger? = (fun _ => none) ∧ state.session? = (fun _ => none) ∧
    state.claim? = (fun _ => none)

theorem onlyImages_genesis : OnlyImages genesis := by
  refine ⟨?_, ?_, ?_⟩ <;> funext key <;>
    simp [genesis, State.ledger?, State.view]

abbrev Trace := List (Accepted State Call)

/-- The clock does not run backwards from one accepted call to a later one. -/
def ClockAdvances (earlier : Trace) (latest : Accepted State Call) : Prop :=
  ∀ previous ∈ earlier, previous.call.now ≤ latest.call.now

instance (earlier : Trace) (latest : Accepted State Call) :
    Decidable (ClockAdvances earlier latest) :=
  inferInstanceAs (Decidable (∀ previous ∈ earlier, _ ≤ _))

/-- The calls that may write vaults and financier ledgers but nothing the
accounting reads. -/
def Call.quiet : Call → Bool
  | .settleVoucher _ _ args => !args.increment
  | .requestWithdrawal .. | .finalizeWithdrawal .. | .forceRelease ..
  | .rotatePasskey .. | .rotateDexterAuthority .. | .provePasskey ..
  | .openStandby .. | .drawCredit .. | .repayCredit .. | .seizeCollateral ..
  | .setStandbyReserve .. | .closeStandby .. => true
  | _ => false

/-- The vault and the swig that a `set_swig` call of either form binds. -/
def Call.boundSwig : Call → Option (Pubkey × Pubkey)
  | .setSwig _ vault args => some (vault, args.swigAddress)
  | .setSwigAtomic _ accounts _ => some (accounts.vault, accounts.swigAccount)
  | _ => none

/-- A vault with the swig that a call names at its first account. -/
structure DrivenSwig where
  vault : Pubkey
  swig : Pubkey
  deriving DecidableEq

/-- The calls after which the wallet of a swig pays, with the vault and the swig
they name. -/
def Call.exit : Call → Option DrivenSwig
  | .finalizeWithdrawal _ accounts _ => some ⟨accounts.vault, accounts.swig⟩
  | .settleTabVoucher _ accounts _ => some ⟨accounts.vault, accounts.swig⟩
  | .settleLockedVoucher _ accounts => some ⟨accounts.vault, accounts.swig⟩
  | .repayCredit _ accounts _ => some ⟨accounts.vault, accounts.swig⟩
  | .seizeCollateral _ accounts => some ⟨accounts.vault, accounts.swig⟩
  | _ => none

/-- A voucher presented to a terminal path.  `settle_tab_voucher` moves the left
meter of the session, `lock_voucher` the right one. -/
structure PresentedVoucher where
  session : Pubkey
  path : Odometer.Side
  payload : VoucherPayload
  deriving DecidableEq

/-- The mark a voucher makes on the odometer of its session. -/
def PresentedVoucher.mark (voucher : PresentedVoucher) : Odometer.Mark :=
  ⟨voucher.path, voucher.payload.cumulativeAmount.val⟩

/-- The voucher a call presents, on either terminal path. -/
def Call.voucher : Call → Option PresentedVoucher
  | .settleTabVoucher _ accounts args =>
      some ⟨accounts.session, .left, args.toVoucherPayload⟩
  | .lockVoucher _ accounts args =>
      some ⟨accounts.session, .right, args.toVoucherPayload⟩
  | _ => none

/-- The registration of a session that a call asks for. -/
structure PresentedRegistration where
  context : Context
  accounts : RegisterSessionKey
  args : RegisterSessionKeyArgs
  deriving DecidableEq

def Call.registration : Call → Option PresentedRegistration
  | .registerSessionKey context accounts args => some ⟨context, accounts, args⟩
  | _ => none

theorem Call.eq_of_registration {call : Call}
    {registration : PresentedRegistration}
    (hregistration : call.registration = some registration) :
    call = .registerSessionKey registration.context registration.accounts
      registration.args := by
  cases call with
  | registerSessionKey =>
      cases hregistration
      rfl
  | _ => cases hregistration

/-- The session account that a call names as the one it is about. -/
def Call.target : Call → Option Pubkey
  | .registerSessionKey _ accounts _ => some accounts.session
  | .revokeSessionKey _ accounts _ => some accounts.session
  | .settleTabVoucher _ accounts _ => some accounts.session
  | .lockVoucher _ accounts _ => some accounts.session
  | .migrateV5ToV6WithSession _ accounts _ => some accounts.session
  | .closeSession _ accounts _ => some accounts.session
  | _ => none

/-- The counterparty for which a call writes a registered session. -/
def Call.counterparty : Call → Option Pubkey
  | .registerSessionKey _ _ args => some args.allowedCounterparty
  | .migrateV5ToV6WithSession _ _ args => some args.liveCounterparty
  | _ => none

/-- The vault that a call brings from the V5 layout into the V6 one. -/
def Call.migratedVault : Call → Option Pubkey
  | .migrateV5ToV6 _ accounts => some accounts.vault
  | .migrateV5ToV6WithSession _ accounts _ => some accounts.vault
  | _ => none

/-! The accounts of the calls that write claims. -/

def Call.lock : Call → Option LockVoucher
  | .lockVoucher _ accounts _ => some accounts
  | _ => none

def Call.settleLocked : Call → Option SettleLockedVoucher
  | .settleLockedVoucher _ accounts => some accounts
  | _ => none

def Call.recoverLock : Call → Option RecoverAbandonedLock
  | .recoverAbandonedLock _ accounts _ => some accounts
  | _ => none

/-- The call carries a session over from a V5 vault. -/
def Call.carriesSession : Call → Bool
  | .migrateV5ToV6WithSession .. => true
  | _ => false

theorem Call.target_of_quiet {call : Call} (hquiet : call.quiet = true) :
    call.target = none := by
  cases call <;> simp_all [Call.quiet, Call.target]

theorem Call.target_of_boundSwig {call : Call} {bound : Pubkey × Pubkey}
    (hbound : call.boundSwig = some bound) : call.target = none := by
  cases call <;> simp_all [Call.boundSwig, Call.target]

theorem Call.target_of_voucher {call : Call} {voucher : PresentedVoucher}
    (hvoucher : call.voucher = some voucher) :
    call.target = some voucher.session := by
  cases call <;> simp_all [Call.voucher, Call.target] <;> simp [← hvoucher]

end DexterVault.Program
