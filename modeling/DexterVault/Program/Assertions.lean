import DexterVault.Instructions.Operations
import DexterVault.Program.Deployment

/-!
# Which operation an assertion is accepted for

A passkey-gated call carries an assertion and is accepted only if the challenge
of that assertion is the hash of the operation message, which the handler builds
from the accounts, the arguments and the state it finds.  As equal messages
belong to equal operations, an assertion is accepted for one operation only, as
long as the hash tells the messages in question apart.
-/

namespace DexterVault.Assertions

open DexterVault.Machine
open DexterVault.Framing
open DexterVault.Accounts
open DexterVault.Execution
open DexterVault.Webauthn
open DexterVault.Setup
open DexterVault.Withdrawal
open DexterVault.Session
open DexterVault.Gate
open DexterVault.Claim
open DexterVault.Credit
open DexterVault.Program
open DexterVault.Operations

/-- An assertion, the vault whose passkey has to have made it, and the operation
it has to have been made for. -/
structure Presented where
  vault : Pubkey
  assertion : Assertion
  operation : Operation
  deriving DecidableEq

/-- What the handler of a passkey-gated call asks of the assertion.  The
financier closes a standby without a passkey. -/
def presented (state : State) : Call → Option Presented
  | .setSwig _ vault args =>
      some ⟨vault, args.toAssertion, .setSwig args.swigAddress⟩
  | .setSwigAtomic _ accounts args =>
      some ⟨accounts.vault, args.toAssertion, .setSwig accounts.swigAccount⟩
  | .requestWithdrawal _ vault args =>
      some ⟨vault, args.toAssertion,
        .requestWithdrawal args.amount args.destination args.signedAt⟩
  | .finalizeWithdrawal _ accounts args => do
      let vault ← state.vault? accounts.vault
      let pending ← vault.pendingWithdrawal
      return ⟨accounts.vault, args,
        .finalizeWithdrawal pending.amount pending.destination⟩
  | .forceRelease _ vaultKey args => do
      let vault ← state.vault? vaultKey
      return ⟨vaultKey, args, .forceRelease vault.swigAddress⟩
  | .rotatePasskey _ vault args =>
      some ⟨vault, args.toAssertion, .rotatePasskey args.newPasskeyPubkey⟩
  | .provePasskey _ vault args =>
      some ⟨vault, args.toAssertion, .siwxLogin args.challenge⟩
  | .registerSessionKey _ accounts args =>
      some ⟨accounts.vault, args.toAssertion,
        .register programId accounts.vault args.sessionPubkey args.maxAmount
          args.expiresAt args.allowedCounterparty args.nonce
          args.maxRevolvingCapacity⟩
  | .revokeSessionKey _ accounts args => do
      let session ← state.session? accounts.session
      return ⟨accounts.vault, args.toAssertion,
        .revoke programId accounts.vault session.session.sessionPubkey⟩
  | .recoverAbandonedLock _ accounts args =>
      some ⟨accounts.vault, args,
        .recoverAbandonedLock accounts.vault accounts.claim⟩
  | .openStandby _ accounts args =>
      some ⟨accounts.vault, args.toAssertion,
        .openStandby accounts.vault accounts.financierSwig args.cap⟩
  | .closeStandby _ accounts args =>
      match args.closer with
      | .financier => none
      | .user => do
          let vault ← state.vault? accounts.vault
          let backer ← vault.standbyBacker
          return ⟨accounts.vault, args.toAssertion,
            .closeStandby accounts.vault backer⟩
  | _ => none

/-- The cases of `presented`, with what it reads from the state. -/
inductive Presents (state : State) : Call → Presented → Prop
  | setSwig {context : Context} {vaultKey : Pubkey} {args : SetSwigArgs} :
      Presents state (.setSwig context vaultKey args)
        ⟨vaultKey, args.toAssertion, .setSwig args.swigAddress⟩
  | setSwigAtomic {context : Context} {accounts : SetSwigAtomic}
      {args : SetSwigAtomicArgs} :
      Presents state (.setSwigAtomic context accounts args)
        ⟨accounts.vault, args.toAssertion, .setSwig accounts.swigAccount⟩
  | requestWithdrawal {context : Context} {vaultKey : Pubkey}
      {args : RequestWithdrawalArgs} :
      Presents state (.requestWithdrawal context vaultKey args)
        ⟨vaultKey, args.toAssertion,
          .requestWithdrawal args.amount args.destination args.signedAt⟩
  | finalizeWithdrawal {context : Context} {accounts : FinalizeWithdrawal}
      {args : Assertion} {vault : Vault} {pending : PendingWithdrawal}
      (hvault : state.vault? accounts.vault = some vault)
      (hpending : vault.pendingWithdrawal = some pending) :
      Presents state (.finalizeWithdrawal context accounts args)
        ⟨accounts.vault, args,
          .finalizeWithdrawal pending.amount pending.destination⟩
  | forceRelease {context : Context} {vaultKey : Pubkey} {args : Assertion}
      {vault : Vault} (hvault : state.vault? vaultKey = some vault) :
      Presents state (.forceRelease context vaultKey args)
        ⟨vaultKey, args, .forceRelease vault.swigAddress⟩
  | rotatePasskey {context : Context} {vaultKey : Pubkey}
      {args : RotatePasskeyArgs} :
      Presents state (.rotatePasskey context vaultKey args)
        ⟨vaultKey, args.toAssertion, .rotatePasskey args.newPasskeyPubkey⟩
  | provePasskey {context : Context} {vaultKey : Pubkey}
      {args : ProvePasskeyArgs} :
      Presents state (.provePasskey context vaultKey args)
        ⟨vaultKey, args.toAssertion, .siwxLogin args.challenge⟩
  | register {context : Context} {accounts : RegisterSessionKey}
      {args : RegisterSessionKeyArgs} :
      Presents state (.registerSessionKey context accounts args)
        ⟨accounts.vault, args.toAssertion,
          .register programId accounts.vault args.sessionPubkey args.maxAmount
            args.expiresAt args.allowedCounterparty args.nonce
            args.maxRevolvingCapacity⟩
  | revoke {context : Context} {accounts : RevokeSessionKey}
      {args : RevokeSessionKeyArgs} {session : SessionAccount}
      (hsession : state.session? accounts.session = some session) :
      Presents state (.revokeSessionKey context accounts args)
        ⟨accounts.vault, args.toAssertion,
          .revoke programId accounts.vault session.session.sessionPubkey⟩
  | recoverAbandonedLock {context : Context} {accounts : RecoverAbandonedLock}
      {args : Assertion} :
      Presents state (.recoverAbandonedLock context accounts args)
        ⟨accounts.vault, args,
          .recoverAbandonedLock accounts.vault accounts.claim⟩
  | openStandby {context : Context} {accounts : OpenStandby}
      {args : OpenStandbyArgs} :
      Presents state (.openStandby context accounts args)
        ⟨accounts.vault, args.toAssertion,
          .openStandby accounts.vault accounts.financierSwig args.cap⟩
  | closeStandby {context : Context} {accounts : CloseStandby}
      {args : CloseStandbyArgs} {vault : Vault} {backer : Pubkey}
      (hcloser : args.closer = .user)
      (hvault : state.vault? accounts.vault = some vault)
      (hbacker : vault.standbyBacker = some backer) :
      Presents state (.closeStandby context accounts args)
        ⟨accounts.vault, args.toAssertion,
          .closeStandby accounts.vault backer⟩

theorem presents_of_presented {state : State} {call : Call}
    {attempt : Presented} (hattempt : presented state call = some attempt) :
    Presents state call attempt := by
  cases call with
  | setSwig =>
      cases hattempt
      exact .setSwig
  | setSwigAtomic =>
      cases hattempt
      exact .setSwigAtomic
  | requestWithdrawal =>
      cases hattempt
      exact .requestWithdrawal
  | finalizeWithdrawal =>
      obtain ⟨vault, hvault, hattempt⟩ := Option.bind_eq_some_iff.mp hattempt
      obtain ⟨pending, hpending, hattempt⟩ :=
        Option.bind_eq_some_iff.mp hattempt
      cases hattempt
      exact .finalizeWithdrawal hvault hpending
  | forceRelease =>
      obtain ⟨vault, hvault, hattempt⟩ := Option.bind_eq_some_iff.mp hattempt
      cases hattempt
      exact .forceRelease hvault
  | rotatePasskey =>
      cases hattempt
      exact .rotatePasskey
  | provePasskey =>
      cases hattempt
      exact .provePasskey
  | registerSessionKey =>
      cases hattempt
      exact .register
  | revokeSessionKey =>
      obtain ⟨session, hsession, hattempt⟩ :=
        Option.bind_eq_some_iff.mp hattempt
      cases hattempt
      exact .revoke hsession
  | recoverAbandonedLock =>
      cases hattempt
      exact .recoverAbandonedLock
  | openStandby =>
      cases hattempt
      exact .openStandby
  | closeStandby context accounts args =>
      cases hcloser : args.closer with
      | financier =>
          simp only [presented, hcloser] at hattempt
          cases hattempt
      | user =>
          simp only [presented, hcloser, Option.bind_eq_bind,
            Option.bind_eq_some_iff, Option.pure_def, Option.some.injEq]
            at hattempt
          obtain ⟨vault, hvault, backer, hbacker, rfl⟩ := hattempt
          exact .closeStandby hcloser hvault hbacker
  | _ => cases hattempt

section Accepted

variable {runtime : Runtime} {before after : State} {call : Call}

/-- The verifier accepts the assertion for the operation, under a passkey. -/
def Presented.Verified (runtime : Runtime) (context : Context)
    (passkey : PasskeyPubkey) (attempt : Presented) : Prop :=
  verifyPasskeySigned runtime context passkey attempt.assertion.clientDataJson
    attempt.assertion.authenticatorData attempt.operation.message = .ok ()

instance (runtime : Runtime) (context : Context) (passkey : PasskeyPubkey)
    (attempt : Presented) :
    Decidable (attempt.Verified runtime context passkey) :=
  inferInstanceAs (Decidable (_ = _))

/-- An accepted call has verified what it presents under the passkey of the
vault it names, one case for each passkey-gated instruction. -/
theorem presented_verified {attempt : Presented}
    (hok : step runtime before call = .ok after)
    (hattempt : presented before call = some attempt) :
    ∃ vault, before.vault? attempt.vault = some vault ∧
      attempt.Verified runtime call.context vault.passkeyPubkey := by
  cases presents_of_presented hattempt with
  | setSwig =>
      simp only [step, setSwig, loadVault, bind_eq_ok_iff, load_eq_ok_iff]
        at hok
      obtain ⟨vault, hvault, _, _, _, _, _, hsigned, -⟩ := hok
      exact ⟨vault, hvault, hsigned⟩
  | setSwigAtomic =>
      simp only [step, setSwigAtomic, loadVault, bind_eq_ok_iff, load_eq_ok_iff]
        at hok
      obtain ⟨vault, hvault, _, _, _, _, _, _, _, _, _, hsigned, -⟩ := hok
      exact ⟨vault, hvault, hsigned⟩
  | requestWithdrawal =>
      obtain ⟨vault, hrequested, -⟩ := requestWithdrawal_ok hok
      exact ⟨vault, hrequested.vaultAt, hrequested.signed⟩
  | finalizeWithdrawal hvault hpending =>
      obtain ⟨found, stored, ata, hfinalized, -⟩ := finalizeWithdrawal_ok hok
      obtain rfl := Option.some.inj (hfinalized.vaultAt.symm.trans hvault)
      obtain rfl := Option.some.inj (hfinalized.requested.symm.trans hpending)
      exact ⟨found, hvault, hfinalized.signed⟩
  | forceRelease hvault =>
      obtain ⟨found, pending, hreleased, -⟩ := forceRelease_ok hok
      obtain rfl := Option.some.inj (hreleased.vaultAt.symm.trans hvault)
      exact ⟨found, hvault, hreleased.signed⟩
  | rotatePasskey =>
      obtain ⟨vault, hvault, hsigned, -⟩ := rotatePasskey_ok hok
      exact ⟨vault, hvault, hsigned⟩
  | provePasskey =>
      simp only [step, provePasskey, loadVault, bind_eq_ok_iff, load_eq_ok_iff]
        at hok
      obtain ⟨vault, hvault, _, _, _, hsigned, -⟩ := hok
      exact ⟨vault, hvault, hsigned⟩
  | register =>
      obtain ⟨vault, _, _, _, _, _, hregistered, -⟩ := registerSessionKey_ok hok
      exact ⟨vault, hregistered.vaultAt, hregistered.signed⟩
  | revoke hsession =>
      obtain ⟨vault, found, count, hrevoked, -⟩ := revokeSessionKey_ok hok
      obtain rfl := Option.some.inj (hrevoked.sessionAt.symm.trans hsession)
      exact ⟨vault, hrevoked.vaultAt, hrevoked.signed⟩
  | recoverAbandonedLock =>
      obtain ⟨vault, claim, hrecovered, -⟩ := recoverAbandonedLock_ok hok
      exact ⟨vault, hrecovered.vaultAt, hrecovered.signed⟩
  | openStandby =>
      simp only [step, openStandby, loadVault, bind_eq_ok_iff, load_eq_ok_iff]
        at hok
      obtain ⟨vault, hvault, _, _, _, _, _, _, _, _, _, hsigned, -⟩ := hok
      exact ⟨vault, hvault, hsigned⟩
  | closeStandby hcloser hvault hbacker =>
      simp only [step, closeStandby, closerConsent, hcloser, loadVault,
        bind_eq_ok_iff, load_eq_ok_iff, okOr_eq_ok_iff] at hok
      obtain ⟨found, hfound, _, _, _, _, _, _, backer, hstored, _, hsigned,
        -⟩ := hok
      obtain rfl := Option.some.inj (hfound.symm.trans hvault)
      obtain rfl := Option.some.inj (hstored.symm.trans hbacker)
      exact ⟨found, hvault, hsigned⟩

/-- The challenge of an assertion is the hash of one message. -/
theorem Presented.Verified.sha256_eq {left right : Presented}
    {leftContext rightContext : Context}
    {leftPasskey rightPasskey : PasskeyPubkey}
    (hleft : left.Verified runtime leftContext leftPasskey)
    (hright : right.Verified runtime rightContext rightPasskey)
    (hclient : left.assertion.clientDataJson =
      right.assertion.clientDataJson) :
    runtime.sha256 left.operation.message =
      runtime.sha256 right.operation.message := by
  have hleftChallenge := (verifyPasskeySigned_ok hleft).1
  have hrightChallenge := (verifyPasskeySigned_ok hright).1
  rw [hclient, hrightChallenge, Except.ok.injEq] at hleftChallenge
  exact FixedBytes.toList_injective hleftChallenge.symm

/-- An assertion verified for two operations, whose messages the hash tells
apart, was verified for the same one. -/
theorem Presented.Verified.operation_eq {left right : Presented}
    {leftContext rightContext : Context}
    {leftPasskey rightPasskey : PasskeyPubkey} {messages : Set Bytes}
    (hcollisionFree : Set.InjOn runtime.sha256 messages)
    (hleft : left.Verified runtime leftContext leftPasskey)
    (hright : right.Verified runtime rightContext rightPasskey)
    (hleftMem : left.operation.message ∈ messages)
    (hrightMem : right.operation.message ∈ messages)
    (hclient : left.assertion.clientDataJson =
      right.assertion.clientDataJson) :
    left.operation = right.operation :=
  Operation.message_injective
    (hcollisionFree hleftMem hrightMem (hleft.sha256_eq hright hclient))

end Accepted

/-! ## One operation for each assertion -/

/-- The messages of the operations are distinct, and an assertion that two calls
are accepted with, whatever they are and in whatever states, is for one
operation: the hash only has to tell apart the messages that the calls ask
for. -/
theorem assertion_for_one_operation :
    (∀ left right : Operation, left.message = right.message →
      left.kind = right.kind ∧ left = right) ∧
    ∀ (runtime : Runtime) (messages : Set Bytes),
      Set.InjOn runtime.sha256 messages →
      ∀ (left right : Transition.Accepted State Call)
        (leftAttempt rightAttempt : Presented),
      step runtime left.before left.call = .ok left.after →
      step runtime right.before right.call = .ok right.after →
      presented left.before left.call = some leftAttempt →
      presented right.before right.call = some rightAttempt →
      leftAttempt.operation.message ∈ messages →
      rightAttempt.operation.message ∈ messages →
      leftAttempt.assertion.clientDataJson =
        rightAttempt.assertion.clientDataJson →
      leftAttempt.operation = rightAttempt.operation := by
  constructor
  · intro left right heq
    exact ⟨Operation.kind_eq_of_message heq, Operation.message_injective heq⟩
  · intro runtime messages hcollisionFree left right leftAttempt rightAttempt
      hleft hright hleftAttempt hrightAttempt hleftMem hrightMem hclient
    obtain ⟨_, -, hleftVerified⟩ := presented_verified hleft hleftAttempt
    obtain ⟨_, -, hrightVerified⟩ := presented_verified hright hrightAttempt
    exact hleftVerified.operation_eq hcollisionFree hrightVerified hleftMem
      hrightMem hclient

section Sample

open Deployment

/-- One assertion binds the swig to two vaults, whose passkeys differ. -/
theorem assertion_for_one_operation_sample :
    presented created bindSwig =
        some ⟨vaultKey, assertion (setSwigMessage swig), .setSwig swig⟩ ∧
      presented rivalCreated bindRival =
        some ⟨rivalVault, assertion (setSwigMessage swig), .setSwig swig⟩ ∧
      Operation.setSwig swig = Operation.setSwig swig :=
  ⟨rfl, rfl,
    assertion_for_one_operation.2 sampleRuntime {setSwigMessage swig}
      (Set.injOn_singleton _ _) ⟨created, bindSwig, bound⟩
      ⟨rivalCreated, bindRival, rivalBound⟩
      ⟨vaultKey, assertion (setSwigMessage swig), .setSwig swig⟩
      ⟨rivalVault, assertion (setSwigMessage swig), .setSwig swig⟩
      sample_steps.2.1 rival_steps.2 rfl rfl rfl rfl rfl⟩

end Sample

end DexterVault.Assertions
