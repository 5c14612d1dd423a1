import DexterVault.Accounting.Claims
import DexterVault.Core.History
import DexterVault.Program.Deployment
import DexterVault.Program.TermsChange

/-!
# Withdrawals were asked for in time

The pending withdrawal of a vault is what its passkey last asked for, and the
time stored in it is within five minutes of the time at which that request
landed.  A withdrawal is finalized, and a tab released by force, only a full
period after the request.
-/

namespace DexterVault.Consent

open DexterVault.Machine
open DexterVault.Accounts
open DexterVault.Execution
open DexterVault.Transition
open DexterVault.Withdrawal
open DexterVault.Program
open DexterVault.Claims

variable {runtime : Runtime} {vaultKey : Pubkey}

/-- The vault whose pending withdrawal a call writes. -/
def withdrawalVault : Call → Option Pubkey
  | .requestWithdrawal _ vaultKey _ => some vaultKey
  | .finalizeWithdrawal _ accounts _ => some accounts.vault
  | _ => none

/-- The call requests or finalizes a withdrawal of the vault. -/
def MovesWithdrawal (vaultKey : Pubkey) (accepted : Accepted State Call) :
    Prop :=
  withdrawalVault accepted.call = some vaultKey

/-- The call stored the pending withdrawal, endorsed by the passkey that the
vault had at that time. -/
inductive RequestOf (runtime : Runtime) (vaultKey : Pubkey)
    (pending : PendingWithdrawal) : Accepted State Call → Prop
  | request {context : Context} {args : RequestWithdrawalArgs}
      {before after : State} {vault : Vault}
      (hrequested : Requested runtime context vaultKey args before vault)
      (hpending : args.pending = pending) :
      RequestOf runtime vaultKey pending
        ⟨before, .requestWithdrawal context vaultKey args, after⟩

/-- The time stored in a pending withdrawal is close to the time of its
request. -/
theorem RequestOf.drift {pending : PendingWithdrawal}
    {request : Accepted State Call}
    (hrequest : RequestOf runtime vaultKey pending request) :
    (request.call.now.val - pending.requestedAt.val).natAbs ≤ 300 := by
  cases hrequest with
  | request hrequested hpending =>
      subst hpending
      exact hrequested.drift

/-- The newest request or finalization on the vault is the request of the
pending withdrawal, and at least `period` seconds have passed since it
landed. -/
structure RequestedSince (runtime : Runtime) (vaultKey : Pubkey)
    (earlier : Trace) (pending : PendingWithdrawal) (now : I64) (period : ℤ)
    (request : Accepted State Call) : Prop where
  newest : Latest (MovesWithdrawal vaultKey) earlier request
  endorsed : RequestOf runtime vaultKey pending request
  landed : request.call.now ≤ now
  waited : period ≤ now.val - request.call.now.val

/-- What holds of a finalization and of a release on the vault. -/
def Consented (runtime : Runtime) (vaultKey : Pubkey) (earlier : Trace)
    (accepted : Accepted State Call) : Prop :=
  match accepted.call with
  | .finalizeWithdrawal context accounts _ => accounts.vault = vaultKey →
      ∃ vault pending request,
        accepted.before.vault? vaultKey = some vault ∧
        vault.pendingWithdrawal = some pending ∧
        vault.pendingVoucherCount = 0 ∧
        RequestedSince runtime vaultKey earlier pending context.unixTimestamp
          (vault.coolingOffSeconds.val - 300) request
  | .forceRelease context key _ => key = vaultKey →
      ∃ vault pending request,
        accepted.before.vault? vaultKey = some vault ∧
        vault.pendingWithdrawal = some pending ∧
        RequestedSince runtime vaultKey earlier pending context.unixTimestamp
          (7 * 24 * 60 * 60 - 300) request
  | _ => True

/-! ## The pending withdrawal -/

def withdrawal? (state : State) (vaultKey : Pubkey) :
    Option (Option PendingWithdrawal) :=
  (state.terms? vaultKey).map VaultTerms.pendingWithdrawal

/-- What an accepted call makes of the pending withdrawal of one vault. -/
inductive WithdrawalMove (runtime : Runtime) (before : State)
    (vaultKey : Pubkey) : Call → Option (Option PendingWithdrawal) → Prop
  | kept {call : Call} (hother : withdrawalVault call ≠ some vaultKey) :
      WithdrawalMove runtime before vaultKey call (withdrawal? before vaultKey)
  | created {call : Call} (hvacant : before.terms? vaultKey = none) :
      WithdrawalMove runtime before vaultKey call (some none)
  | migrated {call : Call} {image : VaultV5Reader}
      {pending : Option PendingWithdrawal}
      (hcall : call.migratedVault = some vaultKey)
      (himage : before.vaultV5? vaultKey = some image) :
      WithdrawalMove runtime before vaultKey call (some pending)
  | requested {context : Context} {args : RequestWithdrawalArgs} {vault : Vault}
      (hrequested : Requested runtime context vaultKey args before vault) :
      WithdrawalMove runtime before vaultKey
        (.requestWithdrawal context vaultKey args) (some (some args.pending))
  | finalized {context : Context} {accounts : FinalizeWithdrawal}
      {args : Webauthn.Assertion} (hkey : accounts.vault = vaultKey) :
      WithdrawalMove runtime before vaultKey
        (.finalizeWithdrawal context accounts args) (some none)

section Moves

variable {before after : State} {call : Call}

theorem withdrawalVault_ne (hother : call.termsVault ≠ some vaultKey) :
    withdrawalVault call ≠ some vaultKey := by
  cases call with
  | requestWithdrawal => exact hother
  | finalizeWithdrawal => exact hother
  | _ => exact (Option.some_ne_none vaultKey).symm

/-- Other terms may change, the pending withdrawal stays. -/
theorem WithdrawalMove.of_same {vault : Vault} {written : VaultTerms}
    (hother : withdrawalVault call = none)
    (hvault : before.vault? vaultKey = some vault)
    (hsame : written.pendingWithdrawal = vault.pendingWithdrawal) :
    WithdrawalMove runtime before vaultKey call
      ((some written).map VaultTerms.pendingWithdrawal) := by
  have hkept : (some written).map VaultTerms.pendingWithdrawal =
      withdrawal? before vaultKey := by
    rw [withdrawal?, State.terms?_of_vault? hvault]
    exact congrArg some hsame
  rw [hkept]
  apply WithdrawalMove.kept
  rw [hother]
  exact (Option.some_ne_none vaultKey).symm

theorem step_withdrawal (vaultKey : Pubkey)
    (hstep : step runtime before call = .ok after) :
    WithdrawalMove runtime before vaultKey call
      (withdrawal? after vaultKey) := by
  have hmove := step_move vaultKey hstep
  rw [withdrawal?]
  generalize after.terms? vaultKey = moved at hmove ⊢
  cases hmove with
  | kept hother => exact .kept (withdrawalVault_ne hother)
  | created hkey hvacant => exact .created hvacant
  | migrated hcall himage => exact .migrated hcall himage
  | tabOpened _ _ hvault => exact .of_same rfl hvault rfl
  | tabClosed _ _ hvault => exact .of_same rfl hvault rfl
  | tabSettled _ hvault => exact .of_same rfl hvault rfl
  | requested hrequested => exact .requested hrequested
  | finalized hkey hfinalized => exact .finalized hkey
  | released hreleased => exact .of_same rfl hreleased.vaultAt rfl
  | rotated hvault => exact .of_same rfl hvault rfl
  | standbyOpened hkey hopened =>
      exact .of_same rfl (hkey ▸ hopened.vaultAt) rfl
  | drawn hkey hdrawn => exact .of_same rfl (hkey ▸ hdrawn.vaultAt) rfl
  | @repaid _ _ _ vault hkey hexited =>
      have hvault : before.vault? vaultKey = some vault := hkey ▸ hexited.vaultAt
      exact .of_same rfl hvault rfl
  | seized hkey hexited => exact .of_same rfl (hkey ▸ hexited.vaultAt) rfl
  | standbyClosed hkey hclosed =>
      exact .of_same rfl (hkey ▸ hclosed.vaultAt) rfl

end Moves

/-! ## The invariant -/

/-- The pending withdrawal of the vault is that of the newest request, and it
has not been finalized since. -/
def PendingRequested (runtime : Runtime) (vaultKey : Pubkey) (trace : Trace)
    (state : State) : Prop :=
  ∀ terms, state.terms? vaultKey = some terms →
    ∀ pending, terms.pendingWithdrawal = some pending →
      ∃ request, Latest (MovesWithdrawal vaultKey) trace request ∧
        RequestOf runtime vaultKey pending request

section Steps

variable {trace : Trace} {before after : State} {call : Call}

/-- The step lemma. -/
theorem pendingRequested_step
    (hpending : PendingRequested runtime vaultKey trace before)
    (hinitializes : Initializes vaultKey ⟨before, call, after⟩)
    (hstep : step runtime before call = .ok after) :
    PendingRequested runtime vaultKey (⟨before, call, after⟩ :: trace) after := by
  intro terms hterms pending hstored
  have hmove := step_withdrawal vaultKey hstep
  rw [withdrawal?, hterms, Option.map_some, hstored] at hmove
  generalize hmoved : some (some pending) = moved at hmove
  cases hmove with
  | kept hother =>
      obtain ⟨old, hold, hkept⟩ := Option.map_eq_some_iff.mp hmoved.symm
      obtain ⟨request, hlatest, hrequest⟩ := hpending old hold pending hkept
      exact ⟨request, .behind hother hlatest, hrequest⟩
  | created => cases hmoved
  | migrated hcall => exact absurd hcall hinitializes
  | requested hrequested =>
      have hwritten := Option.some.inj (Option.some.inj hmoved)
      exact ⟨_, .here rfl, .request hrequested hwritten.symm⟩
  | finalized => cases hmoved

end Steps

section Runs

variable {start state : State} {trace : Trace}
  {guard : Trace → Accepted State Call → Prop}

/-- The run lemma. -/
theorem pendingRequested_run (hstart : OnlyImages start)
    (hrun : Run (system runtime) start trace state)
    (hinitializes : Guarded (fun _ => Initializes vaultKey) trace) :
    PendingRequested runtime vaultKey trace state := by
  apply hrun.history_invariant (PendingRequested runtime vaultKey) _ _ _
    hinitializes
  · intro terms hterms
    obtain ⟨vault, hvault, -⟩ := State.vault?_of_terms? hterms
    have hnone := congrFun hstart.1 vaultKey
    rw [State.ledger?_of_vault? hvault] at hnone
    cases hnone
  · intro earlier before call after hpending hstep hmeets
    exact pendingRequested_step hpending hmeets hstep
  · intro earlier before after hpending hmove
    rw [PendingRequested, environment_terms hmove]
    exact hpending

/-- A request that landed before, whose own time is at least `period` seconds
ago, is at most five minutes short of that period. -/
theorem requestedSince {earlier : Trace} {request : Accepted State Call}
    {pending : PendingWithdrawal} {now : I64} {period : ℤ}
    (hlatest : Latest (MovesWithdrawal vaultKey) earlier request)
    (hrequest : RequestOf runtime vaultKey pending request)
    (hclock : ∀ previous ∈ earlier, previous.call.now ≤ now)
    (hperiod : period = 0 ∨ period ≤ now.val - pending.requestedAt.val) :
    RequestedSince runtime vaultKey earlier pending now (period - 300)
      request := by
  have hlanded := hclock request hlatest.mem
  have hdrift := hrequest.drift
  refine ⟨hlatest, hrequest, hlanded, ?_⟩
  have hle : request.call.now.val ≤ now.val := hlanded
  omega

/-- In every run with a clock that does not run backwards, a withdrawal of a
vault that was not migrated is finalized, and a tab released by force, only
after the newest request of that withdrawal, a full period after it landed up
to five minutes. -/
theorem withdrawals_consented (hstart : OnlyImages start)
    (hrun : Run (system runtime) start trace state)
    (hguard : Guarded (fun earlier accepted => Initializes vaultKey accepted ∧
      ClockAdvances earlier accepted) trace) :
    Guarded (Consented runtime vaultKey) trace := by
  apply hrun.guarded_of_step (Consented runtime vaultKey) _ hguard
  intro earlier before call after hrun hearlier hmeets hstep
  have hinitializes : Guarded (fun _ => Initializes vaultKey) earlier :=
    hearlier.mono fun _ _ hboth => hboth.1
  have hpending := pendingRequested_run hstart hrun hinitializes
  have hclock := hmeets.2
  cases call with
  | finalizeWithdrawal context accounts args =>
      rintro rfl
      obtain ⟨vault, pending, ata, hfinalized, -⟩ := finalizeWithdrawal_ok hstep
      obtain ⟨request, hlatest, hrequest⟩ := hpending _
        (State.terms?_of_vault? hfinalized.vaultAt) pending hfinalized.requested
      have helapsed := finalizeWithdrawal_elapsed hstep hfinalized.vaultAt
        hfinalized.requested
      refine ⟨vault, pending, request, hfinalized.vaultAt, hfinalized.requested,
        hfinalized.noVouchers, requestedSince hlatest hrequest hclock ?_⟩
      rcases helapsed with hzero | hwaited
      · exact .inl (by rw [hzero]; rfl)
      · exact .inr hwaited
  | forceRelease context key args =>
      rintro rfl
      obtain ⟨vault, pending, hreleased, -⟩ := forceRelease_ok hstep
      obtain ⟨request, hlatest, hrequest⟩ := hpending _
        (State.terms?_of_vault? hreleased.vaultAt) pending hreleased.requested
      have hgrace : forceReleaseGraceSeconds.val = 7 * 24 * 60 * 60 := by decide
      have hwaited := hreleased.waited
      rw [hgrace] at hwaited
      exact ⟨vault, pending, request, hreleased.vaultAt, hreleased.requested,
        requestedSince hlatest hrequest hclock (.inr hwaited)⟩
  | _ => trivial

end Runs

section Examples

open Deployment

def requestedVault : Vault :=
  { boundVault with
    pendingWithdrawal := some (withdrawalScope Deployment.now).pending }

def requested : State := funded.write Deployment.vaultKey (.vault requestedVault)

def requestedTrace : Trace :=
  ⟨bound, requestAt Deployment.now, requested⟩ :: boundTrace

def withdrawnTrace : Trace :=
  ⟨requested, finalizeAt Deployment.now, bound⟩ :: requestedTrace

theorem withdrawal_steps :
    step sampleRuntime bound (requestAt Deployment.now) = .ok requested ∧
      step sampleRuntime requested (finalizeAt Deployment.now) = .ok bound := by
  decide +kernel

theorem withdrawn_run :
    Run (system sampleRuntime) funded withdrawnTrace bound := by
  obtain ⟨hrequest, hfinalize⟩ := withdrawal_steps
  have hrequested : Run (system sampleRuntime) funded requestedTrace requested :=
    bound_run.accept hrequest
  exact hrequested.accept hfinalize

theorem withdrawals_consented_withdrawn :
    Consented sampleRuntime Deployment.vaultKey requestedTrace
      ⟨requested, finalizeAt Deployment.now, bound⟩ := by
  have hconsented := withdrawals_consented onlyImages_funded withdrawn_run
    (show Guarded (fun earlier accepted =>
        Initializes Deployment.vaultKey accepted ∧
          ClockAdvances earlier accepted) withdrawnTrace by decide +kernel)
  exact hconsented.1

end Examples

end DexterVault.Consent
