import DexterVault.Core.Locality
import DexterVault.Custody.Isolation
import DexterVault.Program.Admission

/-!
# The owner's way out

A vault that is wound down has no registered session, no locked claim and no
credit line.  From then on nobody but its passkey can get in the way of a
withdrawal: whatever the authority, sellers, financiers and other vaults do in
between, the pending withdrawal stays, no tab is opened, and when the periods are
over the passkey takes the funds out with releases and one finalization.
-/

namespace DexterVault.Exit

open DexterVault.Machine
open DexterVault.Framing
open DexterVault.Accounts
open DexterVault.Execution
open DexterVault.Transition
open DexterVault.Locality
open DexterVault.Webauthn
open DexterVault.Setup
open DexterVault.Withdrawal
open DexterVault.Session
open DexterVault.Voucher
open DexterVault.Claim
open DexterVault.Credit
open DexterVault.Migration
open DexterVault.Program
open DexterVault.Operations
open DexterVault.Assertions
open DexterVault.Admission
open DexterVault.Isolation

/-- The vault whose passkey a call has to convince. -/
def gatedVault : Call → Option Pubkey
  | .setSwig _ vault _ => some vault
  | .setSwigAtomic _ accounts _ => some accounts.vault
  | .requestWithdrawal _ vault _ => some vault
  | .finalizeWithdrawal _ accounts _ => some accounts.vault
  | .forceRelease _ vault _ => some vault
  | .rotatePasskey _ vault _ => some vault
  | .provePasskey _ vault _ => some vault
  | .registerSessionKey _ accounts _ => some accounts.vault
  | .revokeSessionKey _ accounts _ => some accounts.vault
  | .recoverAbandonedLock _ accounts _ => some accounts.vault
  | .openStandby _ accounts _ => some accounts.vault
  | .closeStandby _ accounts args =>
      if args.closer = .user then some accounts.vault else none
  | _ => none

/-- No claim, no loan and no financier. -/
structure WoundDown (vault : Vault) : Prop where
  versionV6 : vault.version = vaultVersionV6
  swigBound : vault.swigAddress ≠ defaultPubkey
  unlocked : vault.outstandingLockedAmount = 0
  repaid : vault.borrowed = 0
  unbacked : vault.standbyBacker = none

/-- No session account of the vault is registered. -/
def NoSession (runtime : Runtime) (vaultKey : Pubkey) (state : State) : Prop :=
  ∀ key session counterparty bump, state.session? key = some session →
    SessionAddress runtime vaultKey counterparty bump key → session.version = 0

/-- What the withdrawal depends on is as it was, and no tab has been opened. -/
structure Keeps (first later : Vault) : Prop where
  passkeyPubkey : later.passkeyPubkey = first.passkeyPubkey
  swigAddress : later.swigAddress = first.swigAddress
  coolingOffSeconds : later.coolingOffSeconds = first.coolingOffSeconds
  pendingWithdrawal : later.pendingWithdrawal = first.pendingWithdrawal
  pendingVoucherCount : later.pendingVoucherCount ≤ first.pendingVoucherCount

/-- The vault is wound down and waits with the withdrawal it had. -/
structure Waiting (runtime : Runtime) (vaultKey : Pubkey) (first : Vault)
    (state : State) (vault : Vault) : Prop where
  vaultAt : state.vault? vaultKey = some vault
  woundDown : WoundDown vault
  noSession : NoSession runtime vaultKey state
  keeps : Keeps first vault

section Steps

variable {runtime : Runtime} {vaultKey key : Pubkey} {first vault : Vault}
  {context : Context} {before after : State} {call : Call}

theorem NoSession.write (hsessions : NoSession runtime vaultKey before)
    {account : Account} (haccount : account.session? = none) :
    NoSession runtime vaultKey (before.write key account) := by
  intro other session counterparty bump hsession haddress
  rw [State.session?, State.view_write] at hsession
  split at hsession
  · rw [haccount] at hsession
    cases hsession
  · exact hsessions other session counterparty bump hsession haddress

theorem NoSession.close (hsessions : NoSession runtime vaultKey before) :
    NoSession runtime vaultKey (before.close key) := by
  intro other session counterparty bump hsession haddress
  rw [State.session?, State.view_close] at hsession
  split at hsession
  · cases hsession
  · exact hsessions other session counterparty bump hsession haddress

/-- No session of the vault can be used. -/
theorem NoSession.not_registered (hsessions : NoSession runtime vaultKey before)
    {session : SessionAccount} {counterparty : Pubkey} {bump : U8}
    (hsession : before.session? key = some session)
    (haddress : SessionAddress runtime vaultKey counterparty bump key) :
    ¬ session.version ≠ 0 :=
  not_not_intro (hsessions key session counterparty bump hsession haddress)

theorem Waiting.of_untouched (hwaiting : Waiting runtime vaultKey first before vault)
    (huntouched : Untouched runtime vaultKey before after) :
    Waiting runtime vaultKey first after vault where
  vaultAt := by
    have hstored := (huntouched _ _ (.vault vault rfl)).mpr
      (State.lookup_of_vault? hwaiting.vaultAt)
    exact State.view_of_lookup hstored
  woundDown := hwaiting.woundDown
  noSession := by
    intro key session counterparty bump hsession haddress
    have hstored := (huntouched _ _ (.session session haddress)).mp
      (State.lookup_of_session? hsession)
    exact hwaiting.noSession key session counterparty bump
      (State.view_of_lookup hstored) haddress
  keeps := hwaiting.keeps

/-- A write to the vault that keeps it wound down. -/
theorem Waiting.write (hwaiting : Waiting runtime vaultKey first before vault)
    {middle : State} {written : Vault}
    (hsessions : NoSession runtime vaultKey middle) (hwound : WoundDown written)
    (hkeeps : Keeps vault written) :
    Waiting runtime vaultKey first (middle.write vaultKey (.vault written))
      written where
  vaultAt := State.view_write_self
  woundDown := hwound
  noSession := hsessions.write rfl
  keeps :=
    { passkeyPubkey := hkeeps.passkeyPubkey.trans hwaiting.keeps.passkeyPubkey
      swigAddress := hkeeps.swigAddress.trans hwaiting.keeps.swigAddress
      coolingOffSeconds :=
        hkeeps.coolingOffSeconds.trans hwaiting.keeps.coolingOffSeconds
      pendingWithdrawal :=
        hkeeps.pendingWithdrawal.trans hwaiting.keeps.pendingWithdrawal
      pendingVoucherCount :=
        hkeeps.pendingVoucherCount.trans hwaiting.keeps.pendingVoucherCount }

/-- The vault that a call stores is the one that waits. -/
theorem Waiting.found (hwaiting : Waiting runtime vaultKey first before vault)
    {found : Vault} (hfound : before.vault? vaultKey = some found) :
    found = vault :=
  Option.some.inj (hfound.symm.trans hwaiting.vaultAt)

theorem Waiting.not_image (hwaiting : Waiting runtime vaultKey first before vault)
    (image : VaultV5Reader) : before.vaultV5? vaultKey ≠ some image := by
  rw [State.vaultV5?, State.view_of_vault? hwaiting.vaultAt]
  exact (Option.some_ne_none image).symm

/-- A tab may be closed, and none is opened. -/
theorem settleVoucher_waiting {accounts : SettleVoucher}
    {args : SettleVoucherArgs}
    (hwaiting : Waiting runtime accounts.vault first before vault)
    (hok : settleVoucher runtime context accounts args before = .ok after) :
    ∃ later, Waiting runtime accounts.vault first after later := by
  cases hincrement : args.increment with
  | true =>
      obtain ⟨_, key, session, _, hopenable, -⟩ := openable_of_ok hok hincrement
      exact absurd hopenable.registered (hwaiting.noSession.not_registered
        hopenable.sessionAt hopenable.address)
  | false =>
      obtain ⟨found, hfound, -, rfl⟩ := settleVoucher_closed hok hincrement
      obtain rfl := hwaiting.found hfound
      have hwound := hwaiting.woundDown
      refine ⟨_, hwaiting.write hwaiting.noSession
        ⟨hwound.versionV6, hwound.swigBound, hwound.unlocked, hwound.repaid,
          hwound.unbacked⟩ ⟨rfl, rfl, rfl, rfl, ?_⟩⟩
      exact Nat.sub_le _ _

/-- The step lemma: a call that does not convince the passkey of the vault
leaves it waiting. -/
theorem step_waiting (hfree : runtime.CollisionFree)
    (hwaiting : Waiting runtime vaultKey first before vault)
    (hgate : gatedVault call ≠ some vaultKey)
    (hstep : step runtime before call = .ok after) :
    ∃ later, Waiting runtime vaultKey first after later := by
  by_cases habout : aboutVault before call = some vaultKey
  case neg =>
    exact ⟨vault, hwaiting.of_untouched (.of_stays hfree habout (step_stays hstep))⟩
  have hwound := hwaiting.woundDown
  cases call with
  | setSwig | setSwigAtomic | requestWithdrawal | finalizeWithdrawal
  | forceRelease | rotatePasskey | provePasskey | registerSessionKey
  | revokeSessionKey | recoverAbandonedLock | openStandby =>
      exact absurd habout hgate
  | initializeVault context accounts args =>
      obtain rfl := Option.some.inj habout
      obtain ⟨hvacant, -⟩ := initializeVault_ok hstep
      cases hvacant.symm.trans (State.lookup_of_vault? hwaiting.vaultAt)
  | settleVoucher context accounts args =>
      obtain rfl := Option.some.inj habout
      exact settleVoucher_waiting hwaiting hstep
  | rotateDexterAuthority context accounts args =>
      obtain rfl := Option.some.inj habout
      obtain ⟨found, hfound, rfl⟩ := rotateDexterAuthority_ok hstep
      obtain rfl := hwaiting.found hfound
      exact ⟨_, hwaiting.write hwaiting.noSession
        ⟨hwound.versionV6, hwound.swigBound, hwound.unlocked, hwound.repaid,
          hwound.unbacked⟩ ⟨rfl, rfl, rfl, rfl, le_rfl⟩⟩
  | settleTabVoucher context accounts args =>
      obtain rfl := Option.some.inj habout
      obtain ⟨_, session, _, hsettled, -⟩ := settleTabVoucher_ok hstep
      exact absurd hsettled.admitted.registered
        (hwaiting.noSession.not_registered hsettled.admitted.sessionAt
          hsettled.admitted.address)
  | lockVoucher context accounts args =>
      obtain rfl := Option.some.inj habout
      obtain ⟨_, session, _, _, _, _, hlocked, -⟩ := lockVoucher_ok hstep
      exact absurd hlocked.admitted.registered
        (hwaiting.noSession.not_registered hlocked.admitted.sessionAt
          hlocked.admitted.address)
  | migrateV5ToV6 context accounts =>
      obtain rfl := Option.some.inj habout
      obtain ⟨image, himage, -⟩ := migrateV5ToV6_ok hstep
      exact absurd himage (hwaiting.not_image image)
  | migrateV5ToV6WithSession context accounts args =>
      obtain rfl := Option.some.inj habout
      obtain ⟨image, _, _, hmigrated, -⟩ := migrateV5ToV6WithSession_ok hstep
      exact absurd hmigrated.imageAt (hwaiting.not_image image)
  | transferLockOwnership context accounts args =>
      obtain ⟨claim, hclaim, -, rfl⟩ := transferLockOwnership_ok hstep
      have hne := State.ne_of_claim?_of_vault? hclaim hwaiting.vaultAt
      refine ⟨vault, ?_, hwound, hwaiting.noSession.write rfl, hwaiting.keeps⟩
      rw [State.vault?, State.view_write, if_neg hne.symm]
      exact hwaiting.vaultAt
  | settleLockedVoucher context accounts =>
      obtain rfl := Option.some.inj habout
      obtain ⟨found, claim, hsettled, rfl⟩ := settleLockedVoucher_ok hstep
      obtain rfl := hwaiting.found hsettled.vaultAt
      have hunlocked : saturatingSub found.outstandingLockedAmount claim.amount =
          0 := by
        apply Fin.ext
        rw [saturatingSub_val, hwound.unlocked]
        exact Nat.zero_sub _
      exact ⟨_, hwaiting.write (hwaiting.noSession.write rfl)
        ⟨hwound.versionV6, hwound.swigBound, hunlocked, hwound.repaid,
          hwound.unbacked⟩ ⟨rfl, rfl, rfl, rfl, le_rfl⟩⟩
  | drawCredit context accounts args =>
      obtain rfl := Option.some.inj habout
      obtain ⟨found, _, _, hdrawn, -⟩ := drawCredit_ok hstep
      obtain rfl := hwaiting.found hdrawn.vaultAt
      cases hdrawn.backer.symm.trans hwound.unbacked
  | repayCredit context accounts args =>
      obtain rfl := Option.some.inj habout
      obtain ⟨found, hexited, -⟩ := repayCredit_ok hstep
      obtain rfl := hwaiting.found hexited.vaultAt
      exact absurd hwound.repaid hexited.borrowed.ne'
  | seizeCollateral context accounts =>
      obtain rfl := Option.some.inj habout
      obtain ⟨found, hexited, -⟩ := seizeCollateral_ok hstep
      obtain rfl := hwaiting.found hexited.vaultAt
      exact absurd hwound.repaid hexited.borrowed.ne'
  | setStandbyReserve => cases habout
  | closeStandby context accounts args =>
      obtain rfl := Option.some.inj habout
      obtain ⟨found, _, hclosed, -⟩ := closeStandby_ok hstep
      obtain rfl := hwaiting.found hclosed.vaultAt
      cases hclosed.sameBacker.symm.trans hwound.unbacked
  | closeSession context accounts args =>
      obtain ⟨session, hsession, -, rfl⟩ := closeSession_ok hstep
      have hne := State.ne_of_session?_of_vault? hsession hwaiting.vaultAt
      refine ⟨vault, ?_, hwound, hwaiting.noSession.close, hwaiting.keeps⟩
      rw [State.vault?, State.view_close, if_neg hne.symm]
      exact hwaiting.vaultAt

end Steps

/-! ## The withdrawal -/

/-- What the owner sends in the end: two assertions with the transactions around
them, the wallet of the swig and its token account, and the time. -/
structure WayOut where
  releaseContext : Context
  release : Assertion
  finalContext : Context
  final : Assertion
  wallet : Pubkey
  ataKey : Pubkey
  now : I64
  deriving DecidableEq

/-- One release of a tab. -/
def WayOut.releaseCall (way : WayOut) (vaultKey : Pubkey) : Call :=
  .forceRelease { way.releaseContext with unixTimestamp := way.now } vaultKey
    way.release

/-- The finalization. -/
def WayOut.finalCall (way : WayOut) (vaultKey swig : Pubkey) : Call :=
  .finalizeWithdrawal { way.finalContext with unixTimestamp := way.now }
    ⟨swig, way.wallet, vaultKey, way.ataKey⟩ way.final

/-- As many releases as there are open tabs, and the finalization. -/
def WayOut.calls (way : WayOut) (vaultKey swig : Pubkey) (tabs : ℕ) : List Call :=
  List.replicate tabs (way.releaseCall vaultKey) ++ [way.finalCall vaultKey swig]

/-- The periods are over, and the passkey has signed. -/
structure WayOut.Ready (runtime : Runtime) (vaultKey : Pubkey) (vault : Vault)
    (pending : PendingWithdrawal) (way : WayOut) : Prop where
  cooledOff : vault.coolingOffSeconds.val ≤
    (way.now.saturatingSub pending.requestedAt).clampToU64.val
  waited : 0 < vault.pendingVoucherCount →
    forceReleaseGraceSeconds.val ≤
      max (way.now.saturatingSub pending.requestedAt).val 0
  releaseSigned : Presented.Verified runtime way.releaseContext
    vault.passkeyPubkey ⟨vaultKey, way.release, .forceRelease vault.swigAddress⟩
  finalSigned : Presented.Verified runtime way.finalContext vault.passkeyPubkey
    ⟨vaultKey, way.final, .finalizeWithdrawal pending.amount pending.destination⟩
  derived : ∃ bump, runtime.findProgramAddress
    (swigWalletSeeds vault.swigAddress) swigProgramId = some (way.wallet, bump)

/-- The wallet holds what is withdrawn. -/
def WayOut.Funded (state : State) (pending : PendingWithdrawal) (way : WayOut) :
    Prop :=
  ∃ ata, state.tokens.lookup way.ataKey = some ata ∧ ata.owner = way.wallet ∧
    pending.amount.val ≤ ata.amount.val

section Withdrawal

variable {runtime : Runtime} {vaultKey : Pubkey} {first vault : Vault}
  {state : State} {pending : PendingWithdrawal} {way : WayOut}

theorem supported_of_woundDown (hwound : WoundDown vault) :
    requireSupportedVersion vault = .ok () :=
  require_eq_ok_iff.mpr (.inl hwound.versionV6)

/-- One release goes through and leaves one tab less. -/
theorem release_served (hwaiting : Waiting runtime vaultKey first state vault)
    (hpending : first.pendingWithdrawal = some pending)
    (hready : way.Ready runtime vaultKey first pending)
    (hopen : 0 < vault.pendingVoucherCount) :
    ∃ next later,
      perform (system runtime) state (way.releaseCall vaultKey) = (next, true) ∧
      next.tokens = state.tokens ∧ Waiting runtime vaultKey first next later ∧
      later.pendingVoucherCount.val + 1 = vault.pendingVoucherCount.val := by
  have hkeeps := hwaiting.keeps
  have hwound := hwaiting.woundDown
  have hreleasable : Releasable vault pending way.now :=
    ⟨hkeeps.pendingWithdrawal.trans hpending, hopen,
      hready.waited (lt_of_lt_of_le hopen hkeeps.pendingVoucherCount)⟩
  have hsigned := hready.releaseSigned
  rw [← hkeeps.passkeyPubkey, ← hkeeps.swigAddress] at hsigned
  obtain ⟨next, hok⟩ := forceRelease_admitted hwaiting.vaultAt
    (supported_of_woundDown hwound) hreleasable hsigned
  obtain ⟨found, _, hreleased, hnext⟩ := forceRelease_ok hok
  obtain rfl := hwaiting.found hreleased.vaultAt
  have hpositive : 0 < found.pendingVoucherCount.val := hopen
  have hwritten : WoundDown { found with
      pendingVoucherCount := predecessor found.pendingVoucherCount } :=
    ⟨hwound.versionV6, hwound.swigBound, hwound.unlocked, hwound.repaid,
      hwound.unbacked⟩
  have hlater := hwaiting.write hwaiting.noSession hwritten
    ⟨rfl, rfl, rfl, rfl, Nat.sub_le _ _⟩
  rw [← hnext] at hlater
  exact ⟨next, _, perform_of_ok hok, hnext ▸ State.write_tokens, hlater,
    Nat.sub_add_cancel hpositive⟩

/-- The finalization goes through once no tab is open. -/
theorem final_served (hwaiting : Waiting runtime vaultKey first state vault)
    (hpending : first.pendingWithdrawal = some pending)
    (hready : way.Ready runtime vaultKey first pending)
    (hfunded : way.Funded state pending) (hclosed : vault.pendingVoucherCount = 0) :
    ∃ next later,
      perform (system runtime) state
        (way.finalCall vaultKey first.swigAddress) = (next, true) ∧
      next.vault? vaultKey = some later ∧ later.pendingWithdrawal = none := by
  have hkeeps := hwaiting.keeps
  have hwound := hwaiting.woundDown
  obtain ⟨ata, hata, howner, hcovered⟩ := hfunded
  have hderived := hready.derived
  have hsigned := hready.finalSigned
  have hcooled := hready.cooledOff
  rw [← hkeeps.swigAddress] at hderived
  rw [← hkeeps.passkeyPubkey] at hsigned
  rw [← hkeeps.coolingOffSeconds] at hcooled
  have hfree : pending.amount.val + vault.outstandingLockedAmount.val +
      vault.borrowed.val ≤ ata.amount.val := by
    rw [hwound.unlocked, hwound.repaid]
    exact hcovered
  have hfinalizable : Finalizable runtime state vault pending way.wallet
      way.ataKey way.now :=
    ⟨hkeeps.pendingWithdrawal.trans hpending, hwound.swigBound, hderived, hcooled,
      hclosed, ata, hata, howner, hfree⟩
  obtain ⟨next, hok⟩ := finalizeWithdrawal_admitted hwaiting.vaultAt
    (supported_of_woundDown hwound) hfinalizable hsigned
  rw [hkeeps.swigAddress] at hok
  obtain ⟨found, _, _, -, hnext⟩ := finalizeWithdrawal_ok hok
  have hlater : next.vault? vaultKey =
      some { found with pendingWithdrawal := none } := by
    rw [hnext]
    exact State.view_write_self
  exact ⟨next, _, perform_of_ok hok, hlater, rfl⟩

/-- Releases until no tab is open, then the finalization: every call is
accepted. -/
theorem calls_served (hpending : first.pendingWithdrawal = some pending)
    (hready : way.Ready runtime vaultKey first pending) {tabs : ℕ}
    (hwaiting : Waiting runtime vaultKey first state vault)
    (hfunded : way.Funded state pending)
    (htabs : vault.pendingVoucherCount.val = tabs) :
    (serve (system runtime) state
        (way.calls vaultKey first.swigAddress tabs)).2 =
        (way.calls vaultKey first.swigAddress tabs).map (·, true) ∧
      ∃ later, (serve (system runtime) state
          (way.calls vaultKey first.swigAddress tabs)).1.vault? vaultKey =
          some later ∧ later.pendingWithdrawal = none := by
  induction tabs generalizing state vault with
  | zero =>
      obtain ⟨next, later, hperform, hlater, hnone⟩ :=
        final_served hwaiting hpending hready hfunded (Fin.ext htabs)
      rw [WayOut.calls, List.replicate_zero, List.nil_append, serve_cons,
        hperform]
      exact ⟨rfl, later, hlater, hnone⟩
  | succ tabs ih =>
      have hopen : 0 < vault.pendingVoucherCount := by
        rw [Fin.lt_def, htabs]
        exact Nat.succ_pos tabs
      obtain ⟨next, later, hperform, htokens, hnext, hcount⟩ :=
        release_served hwaiting hpending hready hopen
      have hfundedNext : way.Funded next pending := by
        rw [WayOut.Funded, htokens]
        exact hfunded
      obtain ⟨hverdicts, hdone⟩ := ih hnext hfundedNext (by omega)
      have hcalls : way.calls vaultKey first.swigAddress (tabs + 1) =
          way.releaseCall vaultKey ::
            way.calls vaultKey first.swigAddress tabs := by
        rw [WayOut.calls, List.replicate_succ, List.cons_append]
        rfl
      rw [hcalls, serve_cons, hperform]
      exact ⟨by rw [hverdicts, List.map_cons], hdone⟩

end Withdrawal

/-! ## Nobody can stop it -/

section Runs

variable {runtime : Runtime} {vaultKey : Pubkey} {first : Vault}
  {start state : State} {trace : Trace} {pending : PendingWithdrawal}
  {way : WayOut}

/-- The run lemma: whatever the others do, the vault waits. -/
theorem waiting_along (hfree : runtime.CollisionFree)
    (hwaiting : Waiting runtime vaultKey first start first)
    (hrun : Run (system runtime) start trace state)
    (hothers : Guarded (fun _ accepted =>
      gatedVault accepted.call ≠ some vaultKey) trace) :
    ∃ vault, Waiting runtime vaultKey first state vault := by
  refine hrun.guarded_invariant
    (fun reached => ∃ vault, Waiting runtime vaultKey first reached vault)
    ⟨first, hwaiting⟩ ?_ ?_ hothers
  · rintro before call after ⟨vault, hbefore⟩ hstep hgate
    exact step_waiting hfree hbefore hgate hstep
  · rintro before after ⟨vault, hbefore⟩ hmove
    have himage : before.vaultV5? vaultKey = none :=
      Option.eq_none_iff_forall_ne_some.mpr hbefore.not_image
    exact ⟨vault, hbefore.of_untouched
      (environment_untouched hfree himage hmove)⟩

/-- Once a vault is wound down with a withdrawal requested, the owner gets it out
by the passkey alone.  Let anybody send any calls in between that do not carry
an assertion of that passkey, neither a new one nor one that was used before:
when the periods are over and the wallet holds the amount, at most as many
releases as there were open tabs and one finalization are all accepted. -/
theorem exit_unstoppable (hfree : runtime.CollisionFree)
    (hvault : start.vault? vaultKey = some first) (hwound : WoundDown first)
    (hsessions : NoSession runtime vaultKey start)
    (hpending : first.pendingWithdrawal = some pending)
    (hrun : Run (system runtime) start trace state)
    (hothers : Guarded (fun _ accepted =>
      gatedVault accepted.call ≠ some vaultKey) trace)
    (hready : way.Ready runtime vaultKey first pending)
    (hfunded : way.Funded state pending) :
    ∃ tabs ≤ first.pendingVoucherCount.val,
      (serve (system runtime) state
          (way.calls vaultKey first.swigAddress tabs)).2 =
          (way.calls vaultKey first.swigAddress tabs).map (·, true) ∧
        ∃ vault, (serve (system runtime) state
            (way.calls vaultKey first.swigAddress tabs)).1.vault? vaultKey =
            some vault ∧ vault.pendingWithdrawal = none := by
  have hstart : Waiting runtime vaultKey first start first :=
    ⟨hvault, hwound, hsessions, rfl, rfl, rfl, rfl, le_rfl⟩
  obtain ⟨vault, hwaiting⟩ := waiting_along hfree hstart hrun hothers
  exact ⟨_, hwaiting.keeps.pendingVoucherCount,
    calls_served hpending hready hwaiting hfunded rfl⟩

end Runs

section Sample

open DexterVault.Deployment

/-- A tab is open and a withdrawal of 10 requested. -/
def leavingVault : Vault :=
  { boundVault with
    pendingVoucherCount := 1
    pendingWithdrawal := some (withdrawalScope Deployment.now).pending }

def leaving : State := funded.write vaultKey (.vault leavingVault)

/-- The authority hands over to another one. -/
def handOver : Call :=
  .rotateDexterAuthority (plainContext [authority] Deployment.now)
    ⟨vaultKey, authority⟩ ⟨seller⟩

def handedOver : State :=
  funded.write vaultKey (.vault { leavingVault with dexterAuthority := seller })

/-- A week later. -/
def leavingWay : WayOut where
  releaseContext := passkeyContext passkey (forceReleaseMessage swig) []
    Deployment.now
  release := assertion (forceReleaseMessage swig)
  finalContext := passkeyContext passkey
    (finalizeWithdrawalMessage (withdrawalScope Deployment.now).pending) []
    Deployment.now
  final := assertion
    (finalizeWithdrawalMessage (withdrawalScope Deployment.now).pending)
  wallet := walletKey
  ataKey := ataKey
  now := I64.saturate 605800

theorem leaving_steps :
    step sampleRuntime leaving handOver = .ok handedOver ∧
      Presented.Verified sampleRuntime leavingWay.releaseContext passkey
        ⟨vaultKey, leavingWay.release, .forceRelease swig⟩ ∧
      Presented.Verified sampleRuntime leavingWay.finalContext passkey
        ⟨vaultKey, leavingWay.final,
          .finalizeWithdrawal 10 withdrawalDestination⟩ ∧
      (sampleRuntime.findProgramAddress (swigWalletSeeds swig)
        swigProgramId).map Prod.fst = some walletKey := by
  decide +kernel

/-- The owner of the sample vault leaves although its authority changes hands. -/
theorem leaving_unstoppable : ∃ tabs ≤ 1,
    (serve (system sampleRuntime) handedOver
        (leavingWay.calls vaultKey swig tabs)).2 =
        (leavingWay.calls vaultKey swig tabs).map (·, true) ∧
      ∃ vault, (serve (system sampleRuntime) handedOver
          (leavingWay.calls vaultKey swig tabs)).1.vault? vaultKey =
          some vault ∧ vault.pendingWithdrawal = none := by
  obtain ⟨hstep, hrelease, hfinal, hwallet⟩ := leaving_steps
  obtain ⟨⟨_, bump⟩, hderived, rfl⟩ := Option.map_eq_some_iff.mp hwallet
  have hrun : Run (system sampleRuntime) leaving
      [⟨leaving, handOver, handedOver⟩] handedOver := Run.start.accept hstep
  have hsessions : NoSession sampleRuntime vaultKey leaving := by
    have hnone : NoSession sampleRuntime vaultKey funded := by
      intro key session counterparty bump hsession
      rw [onlyImages_funded.2.1] at hsession
      cases hsession
    exact hnone.write rfl
  have hwound : WoundDown leavingVault := ⟨rfl, by decide, rfl, rfl, rfl⟩
  have hready : leavingWay.Ready sampleRuntime vaultKey leavingVault
      (withdrawalScope Deployment.now).pending :=
    ⟨by decide, fun _ => by decide, hrelease, hfinal, bump, hderived⟩
  have hfunded : leavingWay.Funded handedOver
      (withdrawalScope Deployment.now).pending :=
    ⟨_, Finmap.lookup_singleton_eq, rfl, by decide⟩
  exact exit_unstoppable sampleRuntime_collisionFree State.view_write_self hwound
    hsessions rfl hrun ⟨by decide, trivial⟩ hready hfunded

end Sample

end DexterVault.Exit
