import DexterVault.Accounting.LockAdmission
import DexterVault.Custody.Grace
import DexterVault.Custody.TabGate
import DexterVault.Program.Closing

/-!
# Expired sessions

A session expires by the clock alone: nothing is written when its time is over.
Both terminal paths of a voucher compare the clock with the expiry, and the
opening of a tab does not.  As long as no tab is opened on a session that has
expired, such a session is inert until it is registered again.
-/

namespace DexterVault.Expiry

open DexterVault.Machine
open DexterVault.Accounts
open DexterVault.Execution
open DexterVault.Transition
open DexterVault.Voucher
open DexterVault.Program
open DexterVault.Sessions
open DexterVault.Closing
open DexterVault.TabGate
open DexterVault.LockAdmission (RegistersAt)

variable {runtime : Runtime} {context : Context} {key vaultKey : Pubkey}
  {account : SessionAccount}

/-! ## Calls on a session -/

/-- The session on which a call opens a tab, settles a voucher or locks one. -/
def usedSession : Call → Option Pubkey
  | .settleVoucher _ accounts args =>
      if args.increment then accounts.session else none
  | .settleTabVoucher _ accounts _ => some accounts.session
  | .lockVoucher _ accounts _ => some accounts.session
  | _ => none

/-- The call meets every condition of a tab opening, and the session it names
has expired when it lands. -/
def OpensExpired (runtime : Runtime) (state : State) : Call → Prop
  | .settleVoucher context accounts args => ∃ vault key account,
      Openable runtime context accounts args state vault key account ∧
        account.session.expiresAt ≤ context.unixTimestamp
  | _ => False

theorem usedSession_settleVoucher {accounts : SettleVoucher}
    {args : SettleVoucherArgs} :
    usedSession (.settleVoucher context accounts args) = some key ↔
      args.increment = true ∧ accounts.session = some key := by
  rw [usedSession]
  split
  · next hincrement => exact (and_iff_right hincrement).symm
  · next hclose =>
      exact iff_of_false (Option.some_ne_none key).symm
        fun hopens => hclose hopens.1

section Steps

variable {before after : State} {call : Call}

/-- A call on a session is refused where no session is registered. -/
theorem not_dormant_of_used (hused : usedSession call = some key)
    (hstep : step runtime before call = .ok after) : ¬ Dormant before key := by
  intro hdormant
  cases call with
  | settleVoucher context accounts args =>
      obtain ⟨hincrement, hsession⟩ := usedSession_settleVoucher.mp hused
      exact settleVoucher_refused hincrement hsession hdormant hstep
  | settleTabVoucher context accounts args =>
      obtain rfl := Option.some.inj hused
      exact settleTabVoucher_refused hdormant hstep
  | lockVoucher context accounts args =>
      obtain rfl := Option.some.inj hused
      exact lockVoucher_refused hdormant hstep
  | _ => cases hused

/-- Of the calls on a session, the openings of tabs alone are accepted when it
has expired. -/
theorem opensExpired_of_used (haccount : before.session? key = some account)
    (hused : usedSession call = some key)
    (hexpired : account.session.expiresAt ≤ call.now)
    (hstep : step runtime before call = .ok after) :
    OpensExpired runtime before call := by
  cases call with
  | settleVoucher context accounts args =>
      obtain ⟨hincrement, hsession⟩ := usedSession_settleVoucher.mp hused
      obtain ⟨vault, found, opened, _, hopenable, -⟩ :=
        openable_of_ok hstep hincrement
      obtain rfl := Option.some.inj (hopenable.session.symm.trans hsession)
      obtain rfl := Option.some.inj (hopenable.sessionAt.symm.trans haccount)
      exact ⟨vault, found, opened, hopenable, hexpired⟩
  | settleTabVoucher context accounts args =>
      obtain rfl := Option.some.inj hused
      obtain ⟨_, settled, _, hsettled, -⟩ := settleTabVoucher_ok hstep
      obtain rfl :=
        Option.some.inj (hsettled.admitted.sessionAt.symm.trans haccount)
      exact absurd hexpired (Int.not_le.mpr hsettled.admitted.unexpired)
  | lockVoucher context accounts args =>
      obtain rfl := Option.some.inj hused
      obtain ⟨_, locked, _, _, _, _, hlocked, -⟩ := lockVoucher_ok hstep
      obtain rfl :=
        Option.some.inj (hlocked.admitted.sessionAt.symm.trans haccount)
      exact absurd hexpired (Int.not_le.mpr hlocked.admitted.unexpired)
  | _ => cases hused

theorem OpensExpired.accepted (hopens : OpensExpired runtime before call) :
    ∃ after, step runtime before call = .ok after := by
  cases call with
  | settleVoucher context accounts args =>
      obtain ⟨vault, found, opened, hopenable, -⟩ := hopens
      exact hopenable.accepted
  | _ => exact hopens.elim

/-- A call that does not use the session leaves its account alone when it opens
or closes a tab. -/
theorem settleVoucher_session? {accounts : SettleVoucher}
    {args : SettleVoucherArgs}
    (hok : settleVoucher runtime context accounts args before = .ok after)
    (haccount : before.session? key = some account)
    (hunused : usedSession (.settleVoucher context accounts args) ≠ some key) :
    after.session? key = some account := by
  rcases settleVoucher_ok hok with ⟨-, hquiet⟩ | ⟨hincrement, -⟩
  · rw [hquiet.sessions]
    exact haccount
  · obtain ⟨vault, opened, _, _, hopenable, -, rfl⟩ :=
      openable_of_ok hok hincrement
    have hother : key ≠ opened := by
      rintro rfl
      exact hunused
        (usedSession_settleVoucher.mpr ⟨hincrement, hopenable.session⟩)
    have hvault : key ≠ accounts.vault :=
      State.ne_of_session?_of_vault? haccount hopenable.vaultAt
    rw [State.session?, State.view_write, State.view_write, if_neg hvault,
      if_neg hother]
    exact haccount

/-- What is left of the account at `key`: it is cleared or removed, or it holds
the same registration, with no more exposure. -/
def Faded (key : Pubkey) (account : SessionAccount) (state : State) : Prop :=
  ∀ later, state.session? key = some later →
    (later.version ≠ 0 →
      later.session.expiresAt = account.session.expiresAt) ∧
    later.session.currentOutstanding ≤ account.session.currentOutstanding

/-- A cleared account has no exposure. -/
theorem faded_of_clear {cleared : SessionAccount}
    (hafter : after.session? key = some cleared.clear) :
    Faded key account after := by
  intro later hlater
  obtain rfl := Option.some.inj (hafter.symm.trans hlater)
  exact ⟨fun hversion => absurd rfl hversion, Nat.zero_le _⟩

/-- At a time after the expiry of the account, exactly the conditions of a tab
opening decide whether a call on the session is accepted. -/
theorem Faded.accepted_iff (hfaded : Faded key account before)
    (hused : usedSession call = some key)
    (hexpired : account.session.expiresAt ≤ call.now) :
    (∃ after, step runtime before call = .ok after) ↔
      OpensExpired runtime before call := by
  constructor
  · rintro ⟨after, hstep⟩
    have hregistered := not_dormant_of_used hused hstep
    rw [Dormant] at hregistered
    push Not at hregistered
    obtain ⟨later, hlater, hversion⟩ := hregistered
    have hsame := (hfaded later hlater).1 hversion
    exact opensExpired_of_used hlater hused (hsame ▸ hexpired) hstep
  · exact OpensExpired.accepted

/-- The step lemma. -/
theorem faded_step (hfaded : Faded key account before)
    (hunused : usedSession call ≠ some key)
    (hregisters : ¬ RegistersAt key call)
    (hstep : step runtime before call = .ok after) :
    Faded key account after := by
  have hchange := session_change (step_change hstep) key
  cases hchange with
  | same _ hafter =>
      intro later hlater
      exact hfaded later (hafter.symm.trans hlater)
  | opened hopened =>
      intro later hlater
      have hkept := settleVoucher_session? hstep hopened.sessionAt hunused
      obtain rfl := Option.some.inj (hkept.symm.trans hlater)
      exact hfaded _ hopened.sessionAt
  | settled hkey => exact absurd (congrArg some hkey) hunused
  | locked hkey => exact absurd (congrArg some hkey) hunused
  | registered hkey =>
      exact absurd ⟨Option.some_ne_none _, congrArg some hkey⟩ hregisters
  | swept _ _ _ hafter => exact faded_of_clear hafter
  | revoked _ _ hafter => exact faded_of_clear hafter
  | closed _ _ _ hafter =>
      intro later hlater
      rw [hafter] at hlater
      cases hlater
  | carried hkey =>
      exact absurd ⟨Option.some_ne_none _, congrArg some hkey⟩ hregisters

/-- Only the opening of a tab raises the counter of a vault. -/
theorem opensTab_of_raised {vault raised : Vault}
    (hbefore : before.vault? vaultKey = some vault)
    (hafter : after.vault? vaultKey = some raised)
    (hraised : vault.pendingVoucherCount < raised.pendingVoucherCount)
    (hstep : step runtime before call = .ok after) :
    ∃ session, OpensTab vaultKey session call := by
  have hmove := step_counter vaultKey hstep
  rw [counter?_of_vault? hafter] at hmove
  -- a counter that is at most the stored one is not the raised one
  have hnot : ∀ {found : Vault} {count : U32},
      some raised.pendingVoucherCount = some count →
      before.vault? vaultKey = some found →
      count ≤ found.pendingVoucherCount →
      ∃ session, OpensTab vaultKey session call := by
    intro found count hcount hfound hle
    obtain rfl := Option.some.inj hcount
    obtain rfl := Option.some.inj (hfound.symm.trans hbefore)
    exact absurd hraised (not_lt.mpr hle)
  generalize hcount : some raised.pendingVoucherCount = moved at hmove
  cases hmove with
  | kept =>
      rw [counter?_of_vault? hbefore] at hcount
      exact hnot hcount hbefore le_rfl
  | created hvacant =>
      rw [counter?_of_vault? hbefore] at hvacant
      cases hvacant
  | migrated _ hvacant =>
      rw [counter?_of_vault? hbefore] at hvacant
      cases hvacant
  | opened hkey hincrement =>
      obtain ⟨_, session, _, _, hopenable, -⟩ := openable_of_ok hstep hincrement
      refine ⟨session, ?_⟩
      rw [OpensTab, tabOpening, if_pos hincrement, hkey, hopenable.session]
  | closed _ _ hfound => exact hnot hcount hfound (Nat.sub_le _ _)
  | settled _ hfound => exact hnot hcount hfound (Nat.sub_le _ _)
  | released hfound => exact hnot hcount hfound (Nat.sub_le _ _)

end Steps

/-! ## Runs -/

/-- The call lands when the account has expired, and does not register its
address anew. -/
def Outlives (key : Pubkey) (account : SessionAccount)
    (accepted : Accepted State Call) : Prop :=
  account.session.expiresAt ≤ accepted.call.now ∧
    ¬ RegistersAt key accepted.call

/-- The session account at `key` takes part in no call of the trace: no call
uses it, its exposure has not risen, and every call that has raised the counter
of a vault has opened a tab on another session. -/
structure Inert (key : Pubkey) (account : SessionAccount) (trace : Trace)
    (state : State) : Prop where
  unused : ∀ accepted ∈ trace, usedSession accepted.call ≠ some key
  exposure : ∀ later, state.session? key = some later →
    later.session.currentOutstanding ≤ account.session.currentOutstanding
  uncounted : ∀ accepted ∈ trace, ∀ vaultKey vault raised,
    accepted.before.vault? vaultKey = some vault →
    accepted.after.vault? vaultKey = some raised →
    vault.pendingVoucherCount < raised.pendingVoucherCount →
    ∃ other, other ≠ key ∧ OpensTab vaultKey other accepted.call

theorem usedSession_of_opensTab {session : Pubkey} {call : Call}
    (hopens : OpensTab vaultKey session call) :
    usedSession call = some session := by
  cases call with
  | settleVoucher context accounts args =>
      rw [OpensTab, tabOpening] at hopens
      split at hopens
      · next hincrement =>
          have hsession := congrArg TabOpening.session (Option.some.inj hopens)
          exact usedSession_settleVoucher.mpr ⟨hincrement, hsession⟩
      · cases hopens
  | _ => cases hopens

section Runs

variable {start state : State} {trace : Trace}

/-- The run lemma. -/
theorem faded_run (hrun : Run (system runtime) start trace state)
    (haccount : start.session? key = some account)
    (hguard : Guarded (fun _ accepted => Outlives key account accepted ∧
      ¬ OpensExpired runtime accepted.before accepted.call) trace) :
    Faded key account state ∧
      ∀ accepted ∈ trace, usedSession accepted.call ≠ some key := by
  refine hrun.history_invariant (fun trace state => Faded key account state ∧
    ∀ accepted ∈ trace, usedSession accepted.call ≠ some key) ?_ ?_ ?_ hguard
  · constructor
    · intro later hlater
      obtain rfl := Option.some.inj (haccount.symm.trans hlater)
      exact ⟨fun _ => rfl, le_rfl⟩
    · exact fun _ hmem => absurd hmem List.not_mem_nil
  · rintro earlier before call after ⟨hfaded, hearlier⟩ hstep
      ⟨⟨hexpired, hregisters⟩, hopens⟩
    have hunused : usedSession call ≠ some key := fun hused =>
      hopens ((hfaded.accepted_iff hused hexpired).mp ⟨after, hstep⟩)
    refine ⟨faded_step hfaded hunused hregisters hstep, fun accepted hmem => ?_⟩
    rcases List.mem_cons.mp hmem with rfl | hbehind
    · exact hunused
    · exact hearlier accepted hbehind
  · rintro earlier before after ⟨hfaded, hearlier⟩ hmove
    refine ⟨fun later hlater => hfaded later ?_, hearlier⟩
    rw [← (environment_views hmove).sessions]
    exact hlater

/-- From any state on, in every run that outlives a session account and in
which no tab is opened on an expired session, the account is inert; and where
the run ends, a further call on it is accepted exactly when it opens a tab. -/
theorem expired_session_inert (hrun : Run (system runtime) start trace state)
    (haccount : start.session? key = some account)
    (houtlives : Guarded (fun _ => Outlives key account) trace)
    (hopens : Guarded (fun _ accepted =>
      ¬ OpensExpired runtime accepted.before accepted.call) trace) :
    Inert key account trace state ∧
      ∀ call, usedSession call = some key →
        account.session.expiresAt ≤ call.now →
        ((∃ next, step runtime state call = .ok next) ↔
          OpensExpired runtime state call) := by
  obtain ⟨hfaded, hunused⟩ := faded_run hrun haccount (houtlives.and hopens)
  refine ⟨⟨hunused, fun later hlater => (hfaded later hlater).2, ?_⟩, ?_⟩
  · intro accepted hmem vaultKey vault raised hbefore hafter hraised
    obtain ⟨_, _, _, _, hstep⟩ := hrun.step_of_mem hmem
    obtain ⟨session, hopened⟩ :=
      opensTab_of_raised hbefore hafter hraised hstep
    refine ⟨session, ?_, hopened⟩
    rintro rfl
    exact hunused accepted hmem (usedSession_of_opensTab hopened)
  · intro call hused hexpired
    exact hfaded.accepted_iff hused hexpired

end Runs

/-! ## After the expiry -/

section Examples

open Deployment
open DexterVault.Grace

/-- The session of the seller with an open tab. -/
def exposedAccount : SessionAccount :=
  { sellerAccount 0 0 0 with
    session := { (sellerAccount 0 0 0).session with currentOutstanding := 10 } }

def lateRequest : PendingWithdrawal := (withdrawalScope weekLater).pending

/-- Long after the expiry a tab is opened on the session, and a withdrawal
requested. -/
theorem late_steps :
    step sampleRuntime registered lateTab = .ok (tabState 1 none 10) ∧
      step sampleRuntime (tabState 1 none 10) (requestAt weekLater) =
        .ok (tabState 1 (some lateRequest) 10) := by
  decide +kernel

def lateTabTrace : Trace := [⟨registered, lateTab, tabState 1 none 10⟩]

def lateRequestTrace : Trace :=
  [⟨tabState 1 none 10, requestAt weekLater, tabState 1 (some lateRequest) 10⟩]

theorem expired_session_inert_requested :
    Inert sellerSession exposedAccount lateRequestTrace
      (tabState 1 (some lateRequest) 10) := by
  obtain ⟨-, hrequest⟩ := late_steps
  have hrun : Run (system sampleRuntime) (tabState 1 none 10) lateRequestTrace
      (tabState 1 (some lateRequest) 10) := .accept .start hrequest
  have houtlives : Outlives sellerSession exposedAccount
      ⟨tabState 1 none 10, requestAt weekLater,
        tabState 1 (some lateRequest) 10⟩ :=
    ⟨by decide +kernel, fun hregisters => hregisters.1 rfl⟩
  exact (expired_session_inert hrun (by decide +kernel) ⟨houtlives, trivial⟩
    ⟨not_false, trivial⟩).1

/-- In a state that a run of the program reaches, a tab is opened on a session
that has expired, and raises its exposure. -/
theorem tab_on_expired_session :
    Run (system sampleRuntime) funded registeredTrace registered ∧
      registered.session? sellerSession = some (sellerAccount 0 0 0) ∧
      Run (system sampleRuntime) registered lateTabTrace
        (tabState 1 none 10) ∧
      Guarded (fun _ => Outlives sellerSession (sellerAccount 0 0 0))
        lateTabTrace ∧
      ¬ Inert sellerSession (sellerAccount 0 0 0) lateTabTrace
        (tabState 1 none 10) := by
  obtain ⟨hopen, -⟩ := late_steps
  refine ⟨registered_run, by decide +kernel, .accept .start hopen, ?_, ?_⟩
  · exact ⟨⟨by decide +kernel, fun hregisters => hregisters.1 rfl⟩, trivial⟩
  · intro hinert
    have hexposure := hinert.exposure exposedAccount (by decide +kernel)
    exact absurd hexposure (by decide)

end Examples

end DexterVault.Expiry
