import DexterVault.Custody.Consent

/-!
# The grace period of an opened tab

A release by force waits seven days from the stored withdrawal request.  A tab
that is opened after the request has the whole period before it only when the
request is as recent as the tab.
-/

namespace DexterVault.Grace

open DexterVault.Machine
open DexterVault.Accounts
open DexterVault.Execution
open DexterVault.Transition
open DexterVault.Withdrawal
open DexterVault.Voucher
open DexterVault.Program
open DexterVault.Consent

variable {runtime : Runtime} {vaultKey : Pubkey}

/-! ## The condition on the calls -/

/-- The vault on which a call opens a tab. -/
def openedVault : Call → Option Pubkey
  | .settleVoucher _ accounts args =>
      if args.increment then some accounts.vault else none
  | _ => none

/-- The call opens a tab on the vault, whose counter is zero. -/
def OpensFirstTab (vaultKey : Pubkey) (accepted : Accepted State Call) : Prop :=
  openedVault accepted.call = some vaultKey ∧
    ∃ vault ∈ accepted.before.vault? vaultKey, vault.pendingVoucherCount = 0

instance (accepted : Accepted State Call) :
    Decidable (OpensFirstTab vaultKey accepted) :=
  inferInstanceAs (Decidable (_ ∧
    ∃ vault ∈ accepted.before.vault? vaultKey, _ = _))

/-- A first tab finds no withdrawal request, or one that is at most five minutes
old. -/
def OpensAfresh (vaultKey : Pubkey) (accepted : Accepted State Call) : Prop :=
  OpensFirstTab vaultKey accepted →
    ∀ vault ∈ accepted.before.vault? vaultKey,
      ∀ pending ∈ vault.pendingWithdrawal,
        accepted.call.now.val - 300 ≤ pending.requestedAt.val

instance (accepted : Accepted State Call) :
    Decidable (OpensAfresh vaultKey accepted) :=
  inferInstanceAs (Decidable (_ → ∀ vault ∈ accepted.before.vault? vaultKey,
    ∀ pending ∈ vault.pendingWithdrawal, _ ≤ _))

/-- A release on the vault comes seven days, up to five minutes, after every
first tab. -/
def GraceWindow (vaultKey : Pubkey) (earlier : Trace)
    (accepted : Accepted State Call) : Prop :=
  match accepted.call with
  | .forceRelease context key _ => key = vaultKey →
      ∀ opening ∈ earlier, OpensFirstTab vaultKey opening →
        opening.call.now.val + 7 * 24 * 60 * 60 - 300 ≤
          context.unixTimestamp.val
  | _ => True

/-! ## The invariant -/

/-- The stored request of the vault is no more than five minutes older than the
opening. -/
def RequestedAfter (opening : Accepted State Call) (terms : VaultTerms) :
    Prop :=
  ∀ pending, terms.pendingWithdrawal = some pending →
    opening.call.now.val - 300 ≤ pending.requestedAt.val

def GraceKept (vaultKey : Pubkey) (trace : Trace) (state : State) : Prop :=
  ∀ opening ∈ trace, OpensFirstTab vaultKey opening →
    ∃ terms, state.terms? vaultKey = some terms ∧
      RequestedAfter opening terms

section Steps

variable {trace : Trace} {before after : State} {call : Call}

/-- The call that opens a first tab keeps the pending withdrawal. -/
theorem OpensFirstTab.withdrawal_eq
    (hfirst : OpensFirstTab vaultKey ⟨before, call, after⟩)
    (hstep : step runtime before call = .ok after) :
    withdrawal? after vaultKey = withdrawal? before vaultKey := by
  obtain ⟨hopens, vault, hvault, -⟩ := hfirst
  have hmove := step_withdrawal vaultKey hstep
  generalize withdrawal? after vaultKey = moved at hmove
  cases hmove with
  | kept => rfl
  | created hvacant =>
      rw [State.terms?_of_vault? hvault] at hvacant
      cases hvacant
  | migrated hcall =>
      change openedVault call = some vaultKey at hopens
      cases call <;> first | cases hopens | cases hcall
  | requested => cases hopens
  | finalized => cases hopens

/-- The step lemma. -/
theorem graceKept_step (hgrace : GraceKept vaultKey trace before)
    (hafresh : OpensAfresh vaultKey ⟨before, call, after⟩)
    (hclock : ClockAdvances trace ⟨before, call, after⟩)
    (hstep : step runtime before call = .ok after) :
    GraceKept vaultKey (⟨before, call, after⟩ :: trace) after := by
  intro opening hmem hfirst
  rcases List.mem_cons.mp hmem with rfl | hearlier
  · have hsame := hfirst.withdrawal_eq hstep
    obtain ⟨vault, hvault, -⟩ := hfirst.2
    rw [withdrawal?, withdrawal?, State.terms?_of_vault? hvault,
      Option.map_some, Option.map_eq_some_iff] at hsame
    obtain ⟨written, hwritten, hkept⟩ := hsame
    refine ⟨written, hwritten, fun pending hpending => ?_⟩
    exact hafresh hfirst vault hvault pending (hkept.symm.trans hpending)
  · obtain ⟨terms, hterms, hrequested⟩ := hgrace opening hearlier hfirst
    have hmove := step_withdrawal vaultKey hstep
    rw [withdrawal?] at hmove
    generalize hafter : (after.terms? vaultKey).map
      VaultTerms.pendingWithdrawal = moved at hmove
    cases hmove with
    | kept hother =>
        rw [withdrawal?, hterms, Option.map_some, Option.map_eq_some_iff] at hafter
        obtain ⟨written, hwritten, hkept⟩ := hafter
        refine ⟨written, hwritten, fun pending hpending => ?_⟩
        exact hrequested pending (hkept.symm.trans hpending)
    | created hvacant =>
        rw [hterms] at hvacant
        cases hvacant
    | migrated hcall himage =>
        rw [State.terms?_of_lookup (State.lookup_of_vaultV5? himage) rfl] at hterms
        cases hterms
    | @requested context args vault hasked =>
        obtain ⟨written, hwritten, hstored⟩ := Option.map_eq_some_iff.mp hafter
        refine ⟨written, hwritten, fun pending hpending => ?_⟩
        obtain rfl := Option.some.inj (hstored.symm.trans hpending)
        have hlanded : opening.call.now.val ≤ context.unixTimestamp.val :=
          hclock opening hearlier
        have hdrift := hasked.drift
        change opening.call.now.val - 300 ≤ args.signedAt.val
        omega
    | finalized =>
        obtain ⟨written, hwritten, hcleared⟩ := Option.map_eq_some_iff.mp hafter
        refine ⟨written, hwritten, fun pending hpending => ?_⟩
        rw [hcleared] at hpending
        cases hpending

end Steps

/-! ## Runs -/

section Runs

variable {start state : State} {trace : Trace}

/-- The run lemma. -/
theorem graceKept_run (hrun : Run (system runtime) start trace state)
    (hguard : Guarded (fun earlier latest => OpensAfresh vaultKey latest ∧
      ClockAdvances earlier latest) trace) :
    GraceKept vaultKey trace state := by
  apply hrun.history_invariant (GraceKept vaultKey) _ _ _ hguard
  · exact fun _ hmem => absurd hmem List.not_mem_nil
  · intro earlier before call after hgrace hstep hmeets
    exact graceKept_step hgrace hmeets.1 hmeets.2 hstep
  · intro earlier before after hgrace hmove
    rw [GraceKept, environment_terms hmove]
    exact hgrace

/-- In every run with a clock that does not run backwards, in which every first
tab finds no request or a recent one, no release comes before the grace period
of a first tab is over. -/
theorem grace_protects_tabs (hrun : Run (system runtime) start trace state)
    (hclock : Guarded ClockAdvances trace)
    (hafresh : Guarded (fun _ => OpensAfresh vaultKey) trace) :
    Guarded (GraceWindow vaultKey) trace := by
  apply hrun.guarded_of_step (GraceWindow vaultKey) _ (hafresh.and hclock)
  intro earlier before call after hrun hearlier _ hstep
  have hgrace := graceKept_run hrun hearlier
  cases call with
  | forceRelease context key args =>
      rintro rfl opening hmem hfirst
      obtain ⟨vault, pending, hreleased, -⟩ := forceRelease_ok hstep
      obtain ⟨terms, hterms, hrequested⟩ := hgrace opening hmem hfirst
      rw [State.terms?_of_vault? hreleased.vaultAt] at hterms
      obtain rfl := Option.some.inj hterms
      have hstored := hrequested pending hreleased.requested
      have hperiod : forceReleaseGraceSeconds.val = 7 * 24 * 60 * 60 := by decide
      have hwaited := hreleased.waited
      omega
  | _ => trivial

end Runs

/-! ## Before and after the request -/

section Examples

open Deployment

/-- Seven days after the sample transactions. -/
def weekLater : I64 := I64.saturate (1000 + 7 * 24 * 60 * 60)

def tabState (pendingVoucherCount : U32) (pending : Option PendingWithdrawal)
    (exposure : U64) : State :=
  (funded.write sellerSession (.session { sellerAccount 0 0 0 with
      session := { (sellerAccount 0 0 0).session with
        currentOutstanding := exposure } })).write Deployment.vaultKey
    (.vault { registeredVault with
      pendingVoucherCount := pendingVoucherCount
      pendingWithdrawal := pending })

def storedRequest : PendingWithdrawal :=
  (withdrawalScope Deployment.now).pending

def earlyTab : Call := openTab seller sellerSession 10 Deployment.now
def lateTab : Call := openTab seller sellerSession 10 weekLater

/-- The tab before the request and the request before the tab, and the release
a week later. -/
theorem tab_steps :
    step sampleRuntime registered earlyTab = .ok (tabState 1 none 10) ∧
      step sampleRuntime (tabState 1 none 10) (requestAt Deployment.now) =
        .ok (tabState 1 (some storedRequest) 10) ∧
      step sampleRuntime registered (requestAt Deployment.now) =
        .ok (tabState 0 (some storedRequest) 0) ∧
      step sampleRuntime (tabState 0 (some storedRequest) 0) lateTab =
        .ok (tabState 1 (some storedRequest) 10) ∧
      step sampleRuntime (tabState 1 (some storedRequest) 10)
        (releaseAt weekLater) = .ok (tabState 0 (some storedRequest) 10) := by
  decide +kernel

/-- A tab is opened, and then the withdrawal requested. -/
def tabThenRequest : Trace :=
  ⟨tabState 1 none 10, requestAt Deployment.now,
      tabState 1 (some storedRequest) 10⟩ ::
    ⟨registered, earlyTab, tabState 1 none 10⟩ :: registeredTrace

/-- The withdrawal is requested, and a week later a tab opened. -/
def requestThenTab : Trace :=
  ⟨tabState 0 (some storedRequest) 0, lateTab,
      tabState 1 (some storedRequest) 10⟩ ::
    ⟨registered, requestAt Deployment.now, tabState 0 (some storedRequest) 0⟩ ::
      registeredTrace

def release : Accepted State Call :=
  ⟨tabState 1 (some storedRequest) 10, releaseAt weekLater,
    tabState 0 (some storedRequest) 10⟩

theorem tabThenRequest_run :
    Run (system sampleRuntime) funded (release :: tabThenRequest)
      (tabState 0 (some storedRequest) 10) := by
  obtain ⟨hopen, hask, -, -, hrelease⟩ := tab_steps
  have htab : Run (system sampleRuntime) funded
      (⟨registered, earlyTab, tabState 1 none 10⟩ :: registeredTrace)
      (tabState 1 none 10) := registered_run.accept hopen
  have hrequest : Run (system sampleRuntime) funded tabThenRequest
      (tabState 1 (some storedRequest) 10) := htab.accept hask
  exact hrequest.accept hrelease

theorem requestThenTab_run :
    Run (system sampleRuntime) funded (release :: requestThenTab)
      (tabState 0 (some storedRequest) 10) := by
  obtain ⟨-, -, hask, hopen, hrelease⟩ := tab_steps
  have hrequest : Run (system sampleRuntime) funded
      (⟨registered, requestAt Deployment.now,
        tabState 0 (some storedRequest) 0⟩ :: registeredTrace)
      (tabState 0 (some storedRequest) 0) :=
    registered_run.accept hask
  have htab : Run (system sampleRuntime) funded requestThenTab
      (tabState 1 (some storedRequest) 10) := hrequest.accept hopen
  exact htab.accept hrelease

theorem grace_protects_tabs_released :
    GraceWindow Deployment.vaultKey tabThenRequest release := by
  have hgrace := grace_protects_tabs tabThenRequest_run
    (show Guarded ClockAdvances (release :: tabThenRequest) by decide +kernel)
    (show Guarded (fun _ => OpensAfresh Deployment.vaultKey)
      (release :: tabThenRequest) by decide +kernel)
  exact hgrace.1

/-- The release is accepted in the same second in which the tab is opened. -/
theorem release_without_grace :
    Run (system sampleRuntime) funded (release :: requestThenTab)
        (tabState 0 (some storedRequest) 10) ∧
      Guarded ClockAdvances (release :: requestThenTab) ∧
      ¬ Guarded (GraceWindow Deployment.vaultKey)
        (release :: requestThenTab) := by
  refine ⟨requestThenTab_run, by decide +kernel, fun hgrace => ?_⟩
  have hwaited := hgrace.1 rfl _ List.mem_cons_self (by decide +kernel)
  exact absurd hwaited (by decide)

end Examples

end DexterVault.Grace
