import DexterVault.Program.Deployment
import DexterVault.Program.TermsChange

/-!
# What the voucher counter says about open tabs

Opening a tab raises the one counter of the vault, and every settled voucher of
any session lowers it.  The counter stays positive while a tab is open as long
as no settlement takes its last unit away from a tab of another session.
-/

namespace DexterVault.TabGate

open DexterVault.Machine
open DexterVault.Accounts
open DexterVault.Execution
open DexterVault.Transition
open DexterVault.Withdrawal
open DexterVault.Voucher
open DexterVault.Program

variable {runtime : Runtime} {vaultKey session : Pubkey}

/-! ## Open tabs -/

/-- The vault and the session on which a call opens a tab. -/
structure TabOpening where
  vault : Pubkey
  session : Option Pubkey
  deriving DecidableEq

def tabOpening : Call → Option TabOpening
  | .settleVoucher _ accounts args =>
      if args.increment then some ⟨accounts.vault, accounts.session⟩ else none
  | _ => none

/-- The accounts of a tab settlement. -/
def tabSettlement : Call → Option SettleTabVoucher
  | .settleTabVoucher _ accounts _ => some accounts
  | _ => none

def OpensTab (vaultKey session : Pubkey) (call : Call) : Prop :=
  tabOpening call = some ⟨vaultKey, some session⟩

def SettlesTab (session : Pubkey) (call : Call) : Prop :=
  ∃ accounts ∈ tabSettlement call, accounts.session = session

instance (call : Call) : Decidable (OpensTab vaultKey session call) :=
  inferInstanceAs (Decidable (_ = _))

instance (call : Call) : Decidable (SettlesTab session call) :=
  inferInstanceAs (Decidable (∃ accounts ∈ tabSettlement call, _))

/-- A tab was opened on the session, and no tab of the session has been settled
since. -/
def OpenTab (vaultKey session : Pubkey) : Trace → Prop
  | [] => False
  | latest :: earlier => OpensTab vaultKey session latest.call ∨
      ¬ SettlesTab session latest.call ∧ OpenTab vaultKey session earlier

instance decidableOpenTab (vaultKey session : Pubkey) :
    ∀ trace, Decidable (OpenTab vaultKey session trace)
  | [] => isFalse not_false
  | _ :: earlier =>
      have := decidableOpenTab vaultKey session earlier
      inferInstanceAs (Decidable (_ ∨ _ ∧ OpenTab vaultKey session earlier))

/-! ## The condition on the calls -/

/-- The vault whose counter a call lowers without a voucher: by a bare decrement
or by force. -/
def bareLowering : Call → Option Pubkey
  | .settleVoucher _ accounts args =>
      if args.increment then none else some accounts.vault
  | .forceRelease _ vaultKey _ => some vaultKey
  | _ => none

def LowersBare (vaultKey : Pubkey) (call : Call) : Prop :=
  bareLowering call = some vaultKey

instance (call : Call) : Decidable (LowersBare vaultKey call) :=
  inferInstanceAs (Decidable (_ = _))

/-- A settlement that finds the counter at one or zero leaves no tab of another
session open. -/
def SettlesLastTab (vaultKey : Pubkey) (earlier : Trace)
    (latest : Accepted State Call) : Prop :=
  ∀ accounts ∈ tabSettlement latest.call, accounts.vault = vaultKey →
    ∀ vault ∈ latest.before.vault? vaultKey, vault.pendingVoucherCount ≤ 1 →
      ∀ opening ∈ earlier, ∀ tab ∈ tabOpening opening.call,
        ∀ other ∈ tab.session, other ≠ accounts.session →
          ¬ OpenTab vaultKey other earlier

instance (earlier : Trace) (latest : Accepted State Call) :
    Decidable (SettlesLastTab vaultKey earlier latest) :=
  inferInstanceAs (Decidable (∀ accounts ∈ tabSettlement latest.call, _ →
    ∀ vault ∈ latest.before.vault? vaultKey, _ → ∀ opening ∈ earlier,
      ∀ tab ∈ tabOpening opening.call, ∀ other ∈ tab.session, _ → _))

section Steps

variable {trace : Trace} {before after : State} {call : Call}
  {latest : Accepted State Call}

/-- An open tab was opened by a call of the trace. -/
theorem OpenTab.opened (hopen : OpenTab vaultKey session trace) :
    ∃ opening ∈ trace, OpensTab vaultKey session opening.call := by
  induction trace with
  | nil => exact hopen.elim
  | cons latest earlier ih =>
      rcases hopen with hopens | ⟨-, hearlier⟩
      · exact ⟨latest, List.mem_cons_self, hopens⟩
      · obtain ⟨opening, hmem, hopens⟩ := ih hearlier
        exact ⟨opening, List.mem_cons_of_mem _ hmem, hopens⟩

/-- The condition, for any other session. -/
theorem SettlesLastTab.not_open {accounts : SettleTabVoucher} {vault : Vault}
    (hlast : SettlesLastTab vaultKey trace latest)
    (hcall : tabSettlement latest.call = some accounts)
    (hkey : accounts.vault = vaultKey)
    (hvault : latest.before.vault? vaultKey = some vault)
    (hcount : vault.pendingVoucherCount ≤ 1)
    (hother : session ≠ accounts.session) :
    ¬ OpenTab vaultKey session trace := by
  intro hopen
  obtain ⟨opening, hmem, hopens⟩ := hopen.opened
  exact hlast accounts hcall hkey vault hvault hcount opening hmem _ hopens
    session rfl hother hopen

/-- While a tab of the vault is open, its counter is positive. -/
def TabsCounted (vaultKey : Pubkey) (trace : Trace) (state : State) : Prop :=
  ∀ session, OpenTab vaultKey session trace →
    ∃ terms, state.terms? vaultKey = some terms ∧ 0 < terms.pendingVoucherCount

/-! ### The counter of a vault -/

def counter? (state : State) (vaultKey : Pubkey) : Option U32 :=
  (state.terms? vaultKey).map VaultTerms.pendingVoucherCount

theorem counter?_of_vault? {state : State} {vault : Vault}
    (hvault : state.vault? vaultKey = some vault) :
    counter? state vaultKey = some vault.pendingVoucherCount := by
  rw [counter?, State.terms?_of_vault? hvault]
  rfl

/-- The vault whose counter a call moves. -/
def counterVault : Call → Option Pubkey
  | .settleVoucher _ accounts _ => some accounts.vault
  | .settleTabVoucher _ accounts _ => some accounts.vault
  | .forceRelease _ vaultKey _ => some vaultKey
  | _ => none

/-- What an accepted call makes of the counter of one vault. -/
inductive CounterMove (before : State) (vaultKey : Pubkey) :
    Call → Option U32 → Prop
  | kept {call : Call} (hother : counterVault call ≠ some vaultKey) :
      CounterMove before vaultKey call (counter? before vaultKey)
  | created {context : Context} {accounts : Setup.InitializeVault}
      {args : Setup.InitializeVaultArgs}
      (hvacant : counter? before vaultKey = none) :
      CounterMove before vaultKey (.initializeVault context accounts args)
        (some 0)
  | migrated {call : Call} {count : U32}
      (hcall : call.migratedVault = some vaultKey)
      (hvacant : counter? before vaultKey = none) :
      CounterMove before vaultKey call (some count)
  | opened {context : Context} {accounts : SettleVoucher}
      {args : SettleVoucherArgs} {vault : Vault}
      (hkey : accounts.vault = vaultKey) (hincrement : args.increment = true)
      (hvault : before.vault? vaultKey = some vault) :
      CounterMove before vaultKey (.settleVoucher context accounts args)
        (some (saturatingAdd vault.pendingVoucherCount 1))
  | closed {context : Context} {accounts : SettleVoucher}
      {args : SettleVoucherArgs} {vault : Vault}
      (hkey : accounts.vault = vaultKey) (hclose : args.increment = false)
      (hvault : before.vault? vaultKey = some vault) :
      CounterMove before vaultKey (.settleVoucher context accounts args)
        (some (saturatingSub vault.pendingVoucherCount 1))
  | settled {context : Context} {accounts : SettleTabVoucher}
      {args : SettleTabVoucherArgs} {vault : Vault}
      (hkey : accounts.vault = vaultKey)
      (hvault : before.vault? vaultKey = some vault) :
      CounterMove before vaultKey (.settleTabVoucher context accounts args)
        (some (saturatingSub vault.pendingVoucherCount 1))
  | released {context : Context} {args : Webauthn.Assertion} {vault : Vault}
      (hvault : before.vault? vaultKey = some vault) :
      CounterMove before vaultKey (.forceRelease context vaultKey args)
        (some (predecessor vault.pendingVoucherCount))

theorem counterVault_ne (hother : call.termsVault ≠ some vaultKey) :
    counterVault call ≠ some vaultKey := by
  cases call with
  | settleVoucher => exact hother
  | settleTabVoucher => exact hother
  | forceRelease => exact hother
  | _ => exact (Option.some_ne_none vaultKey).symm

/-- Other terms may change, the counter stays. -/
theorem CounterMove.of_same {vault : Vault} {written : VaultTerms}
    (hother : counterVault call = none)
    (hvault : before.vault? vaultKey = some vault)
    (hsame : written.pendingVoucherCount = vault.pendingVoucherCount) :
    CounterMove before vaultKey call
      ((some written).map VaultTerms.pendingVoucherCount) := by
  have hkept : (some written).map VaultTerms.pendingVoucherCount =
      counter? before vaultKey := by
    rw [counter?_of_vault? hvault]
    exact congrArg some hsame
  rw [hkept]
  apply CounterMove.kept
  rw [hother]
  exact (Option.some_ne_none vaultKey).symm

theorem step_counter (vaultKey : Pubkey)
    (hstep : step runtime before call = .ok after) :
    CounterMove before vaultKey call (counter? after vaultKey) := by
  have hmove := step_move vaultKey hstep
  rw [counter?]
  generalize after.terms? vaultKey = moved at hmove ⊢
  cases hmove with
  | kept hother => exact .kept (counterVault_ne hother)
  | created hkey hvacant => exact .created (by rw [counter?, hvacant]; rfl)
  | migrated hcall himage =>
      have hvacant : before.terms? vaultKey = none :=
        State.terms?_of_lookup (State.lookup_of_vaultV5? himage) rfl
      exact .migrated hcall (by rw [counter?, hvacant]; rfl)
  | tabOpened hkey hincrement hvault => exact .opened hkey hincrement hvault
  | tabClosed hkey hclose hvault => exact .closed hkey hclose hvault
  | tabSettled hkey hvault => exact .settled hkey hvault
  | requested hrequested => exact .of_same rfl hrequested.vaultAt rfl
  | finalized hkey hfinalized =>
      exact .of_same rfl (hkey ▸ hfinalized.vaultAt) rfl
  | released hreleased => exact .released hreleased.vaultAt
  | rotated hvault => exact .of_same rfl hvault rfl
  | standbyOpened hkey hopened =>
      exact .of_same rfl (hkey ▸ hopened.vaultAt) rfl
  | drawn hkey hdrawn => exact .of_same rfl (hkey ▸ hdrawn.vaultAt) rfl
  | @repaid _ _ _ vault hkey hexited =>
      have hvault : before.vault? vaultKey = some vault := hkey ▸ hexited.vaultAt
      exact .of_same rfl hvault rfl
  | seized hkey hexited => exact .of_same rfl (hkey ▸ hexited.vaultAt) rfl
  | standbyClosed hkey hclosed =>
      exact .of_same rfl (hkey ▸ hclosed.vaultAt) rfl

/-! ### Open tabs are counted -/

theorem opensTab_counterVault (hopens : OpensTab vaultKey session call) :
    counterVault call = some vaultKey := by
  cases call with
  | settleVoucher context accounts args =>
      cases hincrement : args.increment with
      | true =>
          rw [OpensTab, tabOpening, if_pos hincrement] at hopens
          exact congrArg (Option.map TabOpening.vault) hopens
      | false =>
          rw [OpensTab, tabOpening, hincrement] at hopens
          cases hopens
  | _ => cases hopens

/-- A call that opens no tab of the vault keeps the counter of its open tabs
positive when it keeps the counter positive. -/
theorem TabsCounted.keep (hcounted : TabsCounted vaultKey trace before)
    (hopens : ∀ session, ¬ OpensTab vaultKey session call)
    (hpositive : ∀ session, ¬ SettlesTab session call →
      OpenTab vaultKey session trace →
      ∀ count, counter? before vaultKey = some count → 0 < count →
        ∃ written, counter? after vaultKey = some written ∧ 0 < written) :
    TabsCounted vaultKey (⟨before, call, after⟩ :: trace) after := by
  intro session hopen
  rcases hopen with hnow | ⟨hsettles, hearlier⟩
  · exact absurd hnow (hopens session)
  · obtain ⟨terms, hterms, hcount⟩ := hcounted session hearlier
    have hbefore : counter? before vaultKey = some terms.pendingVoucherCount := by
      rw [counter?, hterms]
      rfl
    obtain ⟨_, hafter, hwritten⟩ :=
      hpositive session hsettles hearlier _ hbefore hcount
    obtain ⟨written, hterms, rfl⟩ := Option.map_eq_some_iff.mp hafter
    exact ⟨written, hterms, hwritten⟩

/-- The step lemma. -/
theorem tabsCounted_step (hcounted : TabsCounted vaultKey trace before)
    (hbare : ¬ LowersBare vaultKey call)
    (hlast : SettlesLastTab vaultKey trace ⟨before, call, after⟩)
    (hstep : step runtime before call = .ok after) :
    TabsCounted vaultKey (⟨before, call, after⟩ :: trace) after := by
  have hmove := step_counter vaultKey hstep
  generalize hafter : counter? after vaultKey = moved at hmove
  cases hmove with
  | kept hother =>
      apply hcounted.keep
      · exact fun session hopens => hother (opensTab_counterVault hopens)
      · exact fun session _ _ count hcount hpositive =>
          ⟨count, hafter.trans hcount, hpositive⟩
  | created hvacant =>
      apply hcounted.keep
      · exact fun session hopens => by cases hopens
      · intro session _ _ count hcount
        rw [hvacant] at hcount
        cases hcount
  | migrated hcall hvacant =>
      apply hcounted.keep
      · intro session hopens
        cases call <;> first | cases hopens | cases hcall
      · intro session _ _ count hcount
        rw [hvacant] at hcount
        cases hcount
  | @opened _ _ _ vault =>
      intro session hopen
      obtain ⟨written, hterms, hcount⟩ := Option.map_eq_some_iff.mp hafter
      refine ⟨written, hterms, ?_⟩
      rw [hcount]
      change 0 < (saturatingAdd vault.pendingVoucherCount 1).val
      rw [saturatingAdd_val]
      have hone : ((1 : U32) : ℕ) = 1 := rfl
      omega
  | closed hkey hclose =>
      refine absurd ?_ hbare
      rw [LowersBare, bareLowering, hclose, hkey]
      rfl
  | @settled _ accounts _ vault hkey hvault =>
      apply hcounted.keep
      · exact fun session hopens => by cases hopens
      · intro session hsettles hopen count hcount hpositive
        have hother : session ≠ accounts.session := fun hsame =>
          hsettles ⟨accounts, rfl, hsame.symm⟩
        have hmore : ¬ vault.pendingVoucherCount.val ≤ 1 := fun hone =>
          hlast.not_open rfl hkey hvault hone hother hopen
        refine ⟨_, hafter, ?_⟩
        change 0 < vault.pendingVoucherCount.val - 1
        omega
  | released => exact absurd rfl hbare

end Steps

/-! ## Runs -/

section Runs

variable {start state : State} {trace : Trace}

/-- The run lemma. -/
theorem tabsCounted_run (hrun : Run (system runtime) start trace state)
    (hguard : Guarded (fun earlier latest => ¬ LowersBare vaultKey latest.call ∧
      SettlesLastTab vaultKey earlier latest) trace) :
    TabsCounted vaultKey trace state := by
  apply hrun.history_invariant (TabsCounted vaultKey) _ _ _ hguard
  · exact fun session hopen => hopen.elim
  · intro earlier before call after hcounted hstep hmeets
    exact tabsCounted_step hcounted hmeets.1 hmeets.2 hstep
  · intro earlier before after hcounted hmove
    rw [TabsCounted, environment_terms hmove]
    exact hcounted

/-- No finalization on the vault is accepted. -/
def GateHolds (runtime : Runtime) (vaultKey : Pubkey) (state : State) : Prop :=
  ∀ context accounts args, accounts.vault = vaultKey →
    ¬ ∃ next,
      step runtime state (.finalizeWithdrawal context accounts args) = .ok next

/-- In every run without bare decrements in which no settlement takes the last
unit of the counter from a tab of another session, an open tab keeps the gate
shut. -/
theorem open_tab_holds_gate (hrun : Run (system runtime) start trace state)
    (hbare : Guarded (fun _ latest => ¬ LowersBare vaultKey latest.call) trace)
    (hlast : Guarded (SettlesLastTab vaultKey) trace)
    (hopen : OpenTab vaultKey session trace) :
    GateHolds runtime vaultKey state := by
  rintro context accounts args rfl ⟨next, hstep⟩
  have hcounted := tabsCounted_run hrun (hbare.and hlast)
  obtain ⟨terms, hterms, hpositive⟩ := hcounted session hopen
  obtain ⟨vault, pending, ata, hfinalized, -⟩ := finalizeWithdrawal_ok hstep
  rw [State.terms?_of_vault? hfinalized.vaultAt] at hterms
  obtain rfl := Option.some.inj hterms
  have hzero : vault.pendingVoucherCount = 0 := hfinalized.noVouchers
  change 0 < vault.pendingVoucherCount at hpositive
  rw [hzero] at hpositive
  exact absurd hpositive (lt_irrefl 0)

end Runs

/-! ## Two sessions -/

section Examples

open Deployment

def registerWith (counterparty account : Pubkey) (siblings : List AccountMeta) :
    Call :=
  registerFor counterparty account 50 siblings

def accountWith (counterparty : Pubkey) (currentOutstanding spent : U64) :
    SessionAccount :=
  ⟨1, 255, Deployment.vaultKey,
    { (sessionScope counterparty 50).registration with
      currentOutstanding := currentOutstanding
      spent := spent }⟩

/-- A vault with a session of each seller, the given count of pending vouchers
and the exposure and the meter of the sessions. -/
def pairState (pendingVoucherCount : U32) (pending : Option PendingWithdrawal)
    (exposure spent : U64) : State :=
  ((funded.write sellerSession (.session (accountWith seller 0 spent))).write
    otherSession (.session (accountWith otherSeller exposure 0))).write
    Deployment.vaultKey (.vault { boundVault with
      liveSessionCount := 2
      pendingVoucherCount := pendingVoucherCount
      pendingWithdrawal := pending })

def firstState : State :=
  (funded.write sellerSession (.session (accountWith seller 0 0))).write
    Deployment.vaultKey (.vault registeredVault)

def otherTab : Call := openTab otherSeller otherSession 10 Deployment.now

def pendingNow : PendingWithdrawal := (withdrawalScope Deployment.now).pending

/-- The sessions of both sellers are registered, a tab of the second is opened
and a voucher of the first settled; then a withdrawal is requested and
finalized. -/
theorem pair_steps :
    step sampleRuntime bound (registerWith seller sellerSession []) =
        .ok firstState ∧
      step sampleRuntime firstState
          (registerWith otherSeller otherSession [⟨sellerSession, true⟩]) =
        .ok (pairState 0 none 0 0) ∧
      step sampleRuntime (pairState 0 none 0 0) otherTab =
        .ok (pairState 1 none 10 0) ∧
      step sampleRuntime (pairState 1 none 10 0) (settleTab 40) =
        .ok (pairState 0 none 10 40) ∧
      step sampleRuntime (pairState 0 none 10 40) (requestAt Deployment.now) =
        .ok (pairState 0 (some pendingNow) 10 40) ∧
      step sampleRuntime (pairState 0 (some pendingNow) 10 40)
        (finalizeAt Deployment.now) = .ok (pairState 0 none 10 40) := by
  decide +kernel

def pairTrace : Trace :=
  ⟨firstState, registerWith otherSeller otherSession [⟨sellerSession, true⟩],
      pairState 0 none 0 0⟩ ::
    ⟨bound, registerWith seller sellerSession [], firstState⟩ :: boundTrace

/-- The tab of the other seller is opened. -/
def openedTrace : Trace :=
  ⟨pairState 0 none 0 0, otherTab, pairState 1 none 10 0⟩ :: pairTrace

/-- A voucher of the first seller is settled, and a withdrawal requested. -/
def releasedTrace : Trace :=
  ⟨pairState 0 none 10 40, requestAt Deployment.now,
      pairState 0 (some pendingNow) 10 40⟩ ::
    ⟨pairState 1 none 10 0, settleTab 40, pairState 0 none 10 40⟩ :: openedTrace

theorem opened_run :
    Run (system sampleRuntime) funded openedTrace (pairState 1 none 10 0) := by
  obtain ⟨hfirst, hpair, htab, -⟩ := pair_steps
  have hregistered : Run (system sampleRuntime) funded
      (⟨bound, registerWith seller sellerSession [], firstState⟩ :: boundTrace)
      firstState := bound_run.accept hfirst
  have hboth : Run (system sampleRuntime) funded pairTrace
      (pairState 0 none 0 0) := hregistered.accept hpair
  exact hboth.accept htab

theorem released_run :
    Run (system sampleRuntime) funded releasedTrace
      (pairState 0 (some pendingNow) 10 40) := by
  obtain ⟨-, -, -, hsettle, hrequest, -⟩ := pair_steps
  have hsettled : Run (system sampleRuntime) funded
      (⟨pairState 1 none 10 0, settleTab 40, pairState 0 none 10 40⟩ ::
        openedTrace) (pairState 0 none 10 40) :=
    opened_run.accept hsettle
  exact hsettled.accept hrequest

/-- Both tabs are open. -/
def bothOpen : State :=
  ((pairState 2 none 10 0).write sellerSession
    (.session (accountWith seller 10 0)))

def sellerTab : Call := openTab seller sellerSession 10 Deployment.now

/-- Each seller has a tab, a voucher of the first is settled, and a withdrawal
requested. -/
def settledApartTrace : Trace :=
  ⟨pairState 1 none 10 40, requestAt Deployment.now,
      pairState 1 (some pendingNow) 10 40⟩ ::
    ⟨bothOpen, settleTab 40, pairState 1 none 10 40⟩ ::
    ⟨pairState 1 none 10 0, sellerTab, bothOpen⟩ :: openedTrace

theorem apart_steps :
    step sampleRuntime (pairState 1 none 10 0) sellerTab = .ok bothOpen ∧
      step sampleRuntime bothOpen (settleTab 40) =
        .ok (pairState 1 none 10 40) ∧
      step sampleRuntime (pairState 1 none 10 40) (requestAt Deployment.now) =
        .ok (pairState 1 (some pendingNow) 10 40) := by
  decide +kernel

theorem settledApart_run :
    Run (system sampleRuntime) funded settledApartTrace
      (pairState 1 (some pendingNow) 10 40) := by
  obtain ⟨htab, hsettle, hrequest⟩ := apart_steps
  have hboth : Run (system sampleRuntime) funded
      (⟨pairState 1 none 10 0, sellerTab, bothOpen⟩ :: openedTrace) bothOpen :=
    opened_run.accept htab
  have hsettled : Run (system sampleRuntime) funded settledApartTrace.tail
      (pairState 1 none 10 40) := hboth.accept hsettle
  exact hsettled.accept hrequest

theorem open_tab_holds_gate_opened :
    GateHolds sampleRuntime Deployment.vaultKey
      (pairState 1 (some pendingNow) 10 40) :=
  open_tab_holds_gate settledApart_run
    (show Guarded (fun _ latest => ¬ LowersBare Deployment.vaultKey latest.call)
      settledApartTrace by decide +kernel)
    (show Guarded (SettlesLastTab Deployment.vaultKey) settledApartTrace by
      decide +kernel)
    (show OpenTab Deployment.vaultKey otherSession settledApartTrace by
      decide +kernel)

/-- One settled voucher of the first seller opens the gate, with the tab of the
other seller still open. -/
theorem gate_released_by_other_tab :
    Run (system sampleRuntime) funded releasedTrace
        (pairState 0 (some pendingNow) 10 40) ∧
      Guarded (fun _ latest => ¬ LowersBare Deployment.vaultKey latest.call)
        releasedTrace ∧
      OpenTab Deployment.vaultKey otherSession releasedTrace ∧
      ¬ GateHolds sampleRuntime Deployment.vaultKey
        (pairState 0 (some pendingNow) 10 40) := by
  obtain ⟨-, -, -, -, -, hfinalize⟩ := pair_steps
  refine ⟨released_run, by decide +kernel, by decide +kernel, fun hholds => ?_⟩
  exact hholds _ ⟨swig, walletKey, Deployment.vaultKey, ataKey⟩ _ rfl
    ⟨_, hfinalize⟩

end Examples

end DexterVault.TabGate
