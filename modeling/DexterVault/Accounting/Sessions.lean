import DexterVault.Program.Change
import DexterVault.Program.Deployment

/-!
# One session account over a run

What an accepted call can do to the session account at one address, and what
follows for every session account of a reachable state: a cleared account is
all zero, a registered one stands at the address of its own vault and
counterparty and stays within its caps, and its meters only grow until the next
registration, revocation or sweep of that address.
-/

namespace DexterVault.Sessions

open Function
open DexterVault.Machine
open DexterVault.Accounts
open DexterVault.Execution
open DexterVault.Transition
open DexterVault.Session
open DexterVault.Gate
open DexterVault.Voucher
open DexterVault.Migration
open DexterVault.Program

variable {runtime : Runtime} {key : Pubkey}

/-- What an accepted call does to the session account at `key`. -/
inductive SessionChange (runtime : Runtime) (before : State) (key : Pubkey)
    (after : State) : Call → Prop
  | same {call : Call} (htarget : call.target ≠ some key)
      (hafter : after.session? key = before.session? key) :
      SessionChange runtime before key after call
  | opened {context : Context} {accounts : SettleVoucher}
      {args : SettleVoucherArgs} {vault : Vault} {account : SessionAccount}
      {newOutstanding : U64}
      (hopened : TabOpened runtime accounts args before vault key account
        newOutstanding)
      (hafter : after.session? key = some { account with
        session := { account.session with
          currentOutstanding := newOutstanding } }) :
      SessionChange runtime before key after
        (.settleVoucher context accounts args)
  | settled {context : Context} {accounts : SettleTabVoucher}
      {args : SettleTabVoucherArgs} {vault : Vault} {account : SessionAccount}
      {increment : U64} (hkey : accounts.session = key)
      (hsettled : TabSettled runtime context accounts args before vault account
        increment)
      (hafter : after.session? key = some { account with
        session := settledRegistration account.session args.cumulativeAmount
          increment }) :
      SessionChange runtime before key after
        (.settleTabVoucher context accounts args)
  | locked {context : Context} {accounts : LockVoucher} {args : LockVoucherArgs}
      {vault : Vault} {account : SessionAccount} {ata : TokenAccount}
      {delta proposedOutstanding : U64} {claimBump : U8}
      (hkey : accounts.session = key)
      (hlocked : Locked runtime context accounts args before vault account ata
        delta proposedOutstanding)
      (hclaim : after.claim? accounts.claim = some (newClaim claimBump
        accounts.vault accounts.sellerHolder account.session.sessionPubkey delta
        context.unixTimestamp args))
      (hafter : after.session? key = some { account with
        session := lockedRegistration account.session delta
          args.sequenceNumber }) :
      SessionChange runtime before key after (.lockVoucher context accounts args)
  | registered {context : Context} {accounts : RegisterSessionKey}
      {args : RegisterSessionKeyArgs} {vault : Vault} {ata : TokenAccount}
      {account : SessionAccount} {bump : U8} {gate : Gate}
      (hkey : accounts.session = key)
      (hregistered : Registered runtime context accounts args before vault ata
        account bump gate)
      (hafter : after.session? key =
        some (writtenSession account bump accounts.vault args)) :
      SessionChange runtime before key after
        (.registerSessionKey context accounts args)
  | swept {context : Context} {accounts : RegisterSessionKey}
      {args : RegisterSessionKeyArgs} {account : SessionAccount}
      (hother : accounts.session ≠ key)
      (hexpired : key ∈ expiredKeys context.unixTimestamp before
        (siblingKeys accounts))
      (hbefore : before.session? key = some account)
      (hafter : after.session? key = some account.clear) :
      SessionChange runtime before key after
        (.registerSessionKey context accounts args)
  | revoked {context : Context} {accounts : RevokeSessionKey}
      {args : RevokeSessionKeyArgs} {vault : Vault} {account : SessionAccount}
      (hkey : accounts.session = key)
      (hrevoked : Revoked runtime context accounts args before vault account)
      (hafter : after.session? key = some account.clear) :
      SessionChange runtime before key after
        (.revokeSessionKey context accounts args)
  | closed {context : Context} {accounts : CloseSession}
      {args : CloseSessionArgs} {account : SessionAccount}
      (hkey : accounts.session = key)
      (hbefore : before.session? key = some account)
      (hcleared : account.version = 0) (hafter : after.session? key = none) :
      SessionChange runtime before key after
        (.closeSession context accounts args)
  | carried {context : Context} {accounts : MigrateV5ToV6WithSession}
      {args : MigrateV5ToV6WithSessionArgs} {v5 : VaultV5Reader}
      {carried : SessionRegistration} {bump : U8}
      (hkey : accounts.session = key)
      (hmigrated : MigratedWithSession runtime accounts args before v5 carried
        bump)
      (hafter : after.session? key =
        some ⟨sessionVersionV1, bump, accounts.vault, carried⟩) :
      SessionChange runtime before key after
        (.migrateV5ToV6WithSession context accounts args)

/-- A registration that is not about `key` clears the account there or leaves
it alone. -/
theorem sessionChange_of_sibling {before after : State} {context : Context}
    {accounts : RegisterSessionKey} {args : RegisterSessionKeyArgs}
    (hother : accounts.session ≠ key)
    (hafter : after.session? key = sweptSessions before.session?
      (expiredKeys context.unixTimestamp before (siblingKeys accounts)) key) :
    SessionChange runtime before key after
      (.registerSessionKey context accounts args) := by
  have htarget : (Call.registerSessionKey context accounts args).target ≠
      some key := by
    simpa [Call.target] using hother
  rw [sweptSessions] at hafter
  split at hafter
  · next hexpired =>
      cases hbefore : before.session? key with
      | none =>
          rw [hbefore] at hafter
          exact .same htarget (hafter.trans hbefore.symm)
      | some account =>
          rw [hbefore] at hafter
          exact .swept hother hexpired hbefore hafter
  · exact .same htarget hafter

/-- Every accepted call is one of the cases, at every address. -/
theorem session_change {before after : State} {call : Call}
    (hchange : Change runtime before call after) (key : Pubkey) :
    SessionChange runtime before key after call := by
  cases hchange with
  | quiet hquiet hsame =>
      exact .same (by simp [Call.target_of_quiet hquiet]) (by rw [hsame.sessions])
  | created _ _ hviews =>
      exact .same (by simp [Call.target]) (by rw [hviews.sessions])
  | bound hcall _ _ hviews =>
      exact .same (by simp [Call.target_of_boundSwig hcall])
        (by rw [hviews.sessions])
  | @tabOpened _ _ _ _ _ sessionKey _ _ hopened hviews =>
      by_cases hkey : key = sessionKey
      · subst hkey
        exact .opened hopened (by rw [hviews.sessions, update_self])
      · exact .same (by simp [Call.target])
          (by rw [hviews.sessions, update_of_ne hkey])
  | @tabSettled _ accounts _ _ _ _ _ hsettled hviews =>
      by_cases hkey : key = accounts.session
      · subst hkey
        exact .settled rfl hsettled (by rw [hviews.sessions, update_self])
      · exact .same (by simpa [Call.target] using Ne.symm hkey)
          (by rw [hviews.sessions, update_of_ne hkey])
  | @locked _ accounts _ _ _ _ _ _ _ _ hlocked hviews =>
      by_cases hkey : key = accounts.session
      · subst hkey
        exact .locked rfl hlocked (by rw [hviews.claims, update_self])
          (by rw [hviews.sessions, update_self])
      · exact .same (by simpa [Call.target] using Ne.symm hkey)
          (by rw [hviews.sessions, update_of_ne hkey])
  | transferred _ hviews =>
      exact .same (by simp [Call.target]) (by rw [hviews.sessions])
  | claimSettled _ hviews =>
      exact .same (by simp [Call.target]) (by rw [hviews.sessions])
  | claimRecovered _ hviews =>
      exact .same (by simp [Call.target]) (by rw [hviews.sessions])
  | @registered _ accounts _ _ _ _ _ _ _ _ hregistered _ hviews =>
      by_cases hkey : key = accounts.session
      · subst hkey
        exact .registered rfl hregistered (by rw [hviews.sessions, update_self])
      · exact sessionChange_of_sibling (Ne.symm hkey)
          (by rw [hviews.sessions, update_of_ne hkey])
  | @revoked _ accounts _ _ _ _ _ hrevoked _ hviews =>
      by_cases hkey : key = accounts.session
      · subst hkey
        exact .revoked rfl hrevoked (by rw [hviews.sessions, update_self])
      · exact .same (by simpa [Call.target] using Ne.symm hkey)
          (by rw [hviews.sessions, update_of_ne hkey])
  | @closed _ accounts _ _ _ hsession hcleared hviews =>
      by_cases hkey : key = accounts.session
      · subst hkey
        exact .closed rfl hsession hcleared (by rw [hviews.sessions, update_self])
      · exact .same (by simpa [Call.target] using Ne.symm hkey)
          (by rw [hviews.sessions, update_of_ne hkey])
  | migrated _ hviews =>
      exact .same (by simp [Call.target]) (by rw [hviews.sessions])
  | @migratedWithSession _ accounts _ _ _ _ _ hmigrated hviews =>
      by_cases hkey : key = accounts.session
      · subst hkey
        exact .carried rfl hmigrated (by rw [hviews.sessions, update_self])
      · exact .same (by simpa [Call.target] using Ne.symm hkey)
          (by rw [hviews.sessions, update_of_ne hkey])

/-! ## Invariants of every session account -/

/-- The invariant rule for session accounts: a property that no account starts
without and that every accepted call keeps at each address holds of every
session account of a reachable state. -/
theorem session_invariant (good : Pubkey → SessionAccount → Prop)
    {guard : Accepted State Call → Prop} {start : State}
    (hstart : start.session? = fun _ => none)
    (hstep : ∀ before call after, guard ⟨before, call, after⟩ → ∀ key,
      (∀ account, before.session? key = some account → good key account) →
      SessionChange runtime before key after call →
      ∀ account, after.session? key = some account → good key account)
    {trace : Trace} {state : State}
    (hrun : Run (system runtime) start trace state)
    (hguard : Guarded (fun _ => guard) trace) {key : Pubkey}
    {account : SessionAccount} (haccount : state.session? key = some account) :
    good key account := by
  refine hrun.guarded_invariant
    (fun state => ∀ key account, state.session? key = some account →
      good key account) ?_ ?_ ?_ hguard key account haccount
  · intro key account haccount
    rw [hstart] at haccount
    cases haccount
  · intro before call after hgood hcall hmeets key
    exact hstep before call after hmeets key (hgood key)
      (session_change (step_change hcall) key)
  · intro before after hgood hmove
    rw [(environment_views hmove).sessions]
    exact hgood

/-- The account stands at an address derived from its vault, its bump and a
counterparty that is allowed, the stored one while the session is registered. -/
def Sited (runtime : Runtime) (allowed : Pubkey → Prop) (key : Pubkey)
    (account : SessionAccount) : Prop :=
  ∃ counterparty, allowed counterparty ∧
    SessionAddress runtime account.vault counterparty account.bump key ∧
    (account.version ≠ 0 → counterparty = account.session.allowedCounterparty)

/-- Every counterparty a session is registered or migrated for is allowed. -/
def Registers (allowed : Pubkey → Prop) (accepted : Accepted State Call) :
    Prop :=
  ∀ counterparty ∈ accepted.call.counterparty, allowed counterparty

theorem Sited.clear {allowed : Pubkey → Prop} {account : SessionAccount}
    (hsited : Sited runtime allowed key account) :
    Sited runtime allowed key account.clear := by
  obtain ⟨counterparty, hallowed, haddress, -⟩ := hsited
  exact ⟨counterparty, hallowed, haddress, fun hversion => absurd rfl hversion⟩

/-- Writing the meters of a session leaves it where it stands. -/
theorem Sited.overwrite {allowed : Pubkey → Prop} {account : SessionAccount}
    {session : SessionRegistration}
    (hsited : Sited runtime allowed key account)
    (hcounterparty :
      session.allowedCounterparty = account.session.allowedCounterparty) :
    Sited runtime allowed key { account with session := session } := by
  obtain ⟨counterparty, hallowed, haddress, hstored⟩ := hsited
  exact ⟨counterparty, hallowed, haddress,
    fun hversion => (hstored hversion).trans hcounterparty.symm⟩

theorem session?_of_found {state : State}
    {account : SessionAccount} (hfound : FoundSession state key account)
    (hregistered : account.version ≠ 0) : state.session? key = some account := by
  rcases hfound with ⟨-, rfl⟩ | hsession
  · exact absurd rfl hregistered
  · exact hsession

/-- A registration leaves an account at its address: a first touch stamps the
canonical vault and bump, and an account replaced in place already had them,
for an address has one derivation only. -/
theorem writtenSession_sited {allowed : Pubkey → Prop}
    (hfree : runtime.CollisionFree) {state : State} {account : SessionAccount}
    {bump : U8} {vaultKey : Pubkey} {args : RegisterSessionKeyArgs}
    (hsited : ∀ account, state.session? key = some account →
      Sited runtime allowed key account)
    (hfound : FoundSession state key account)
    (hcanonical : runtime.findProgramAddress
      (sessionSeeds vaultKey args.allowedCounterparty) programId =
        some (key, bump))
    (hallowed : allowed args.allowedCounterparty) :
    Sited runtime allowed key (writtenSession account bump vaultKey args) := by
  have hderived : SessionAddress runtime vaultKey args.allowedCounterparty bump
      key := Runtime.create_of_find hcanonical
  unfold writtenSession
  split
  · exact ⟨_, hallowed, hderived, fun _ => rfl⟩
  · next hversion =>
      obtain ⟨counterparty, -, haddress, -⟩ :=
        hsited account (session?_of_found hfound hversion)
      obtain ⟨hvault, -, hbump⟩ := haddress.unique hfree hderived
      refine ⟨args.allowedCounterparty, hallowed, ?_, fun _ => rfl⟩
      rw [hvault, hbump]
      exact hderived

theorem SessionChange.sited {allowed : Pubkey → Prop}
    (hfree : runtime.CollisionFree) {before after : State} {call : Call}
    (hallowed : Registers allowed ⟨before, call, after⟩)
    (hsited : ∀ account, before.session? key = some account →
      Sited runtime allowed key account)
    (hchange : SessionChange runtime before key after call) :
    ∀ account, after.session? key = some account →
      Sited runtime allowed key account := by
  intro account haccount
  cases hchange with
  | same _ hafter => exact hsited account (hafter ▸ haccount)
  | opened hopened hafter =>
      obtain rfl := Option.some.inj (hafter.symm.trans haccount)
      exact (hsited _ hopened.sessionAt).overwrite rfl
  | settled hkey hsettled hafter =>
      obtain rfl := Option.some.inj (hafter.symm.trans haccount)
      exact (hsited _ (hkey ▸ hsettled.admitted.sessionAt)).overwrite rfl
  | locked hkey hlocked _ hafter =>
      obtain rfl := Option.some.inj (hafter.symm.trans haccount)
      exact (hsited _ (hkey ▸ hlocked.admitted.sessionAt)).overwrite rfl
  | registered hkey hregistered hafter =>
      obtain rfl := Option.some.inj (hafter.symm.trans haccount)
      subst hkey
      exact writtenSession_sited hfree hsited hregistered.found
        hregistered.canonical (hallowed _ rfl)
  | swept _ _ hbefore hafter =>
      obtain rfl := Option.some.inj (hafter.symm.trans haccount)
      exact (hsited _ hbefore).clear
  | revoked hkey hrevoked hafter =>
      obtain rfl := Option.some.inj (hafter.symm.trans haccount)
      exact (hsited _ (hkey ▸ hrevoked.sessionAt)).clear
  | closed _ _ _ hafter =>
      rw [hafter] at haccount
      cases haccount
  | carried hkey hmigrated hafter =>
      obtain rfl := Option.some.inj (hafter.symm.trans haccount)
      subst hkey
      exact ⟨_, hallowed _ rfl, Runtime.create_of_find hmigrated.canonical,
        fun _ => hmigrated.counterparty.symm⟩

theorem sited_of_run {allowed : Pubkey → Prop} (hfree : runtime.CollisionFree)
    {start state : State} {trace : Trace} (hstart : OnlyImages start)
    (hrun : Run (system runtime) start trace state)
    (hallowed : Guarded (fun _ => Registers allowed) trace)
    {account : SessionAccount} (haccount : state.session? key = some account) :
    Sited runtime allowed key account :=
  session_invariant (Sited runtime allowed) hstart.2.1
    (fun _ _ _ hmeets _ hgood hchange => hchange.sited hfree hmeets hgood) hrun
    hallowed haccount

/-! ## Meters and caps -/

/-- The two meters of a session as an odometer: `spent` is the left one. -/
def meters (session : SessionRegistration) : Odometer.Meters :=
  ⟨session.spent.val, session.crystallizedCumulative.val⟩

theorem frontier_val (session : SessionRegistration) :
    (frontier session).val = (meters session).frontier :=
  Fin.coe_max _ _

/-- A settlement is an accepted mark on the left. -/
theorem meters_settled (session : SessionRegistration)
    (cumulativeAmount increment : U64) :
    meters (settledRegistration session cumulativeAmount increment) =
      (meters session).advance ⟨.left, cumulativeAmount.val⟩ := rfl

/-- The addition to `crystallized_cumulative` is exact: the sum is the accepted
amount. -/
theorem crystallized_locked {session : SessionRegistration}
    {delta cumulativeAmount : U64} {sequenceNumber : U32}
    (hdelta : session.crystallizedCumulative.val + delta.val =
      cumulativeAmount.val) :
    (lockedRegistration session delta sequenceNumber).crystallizedCumulative =
      cumulativeAmount := by
  apply Fin.ext
  rw [← hdelta]
  exact saturatingAdd_val_of_lt (by omega)

/-- A lock is an accepted mark on the right. -/
theorem meters_locked {session : SessionRegistration}
    {delta cumulativeAmount : U64} {sequenceNumber : U32}
    (hdelta : session.crystallizedCumulative.val + delta.val =
      cumulativeAmount.val) :
    meters (lockedRegistration session delta sequenceNumber) =
      (meters session).advance ⟨.right, cumulativeAmount.val⟩ := by
  rw [meters, crystallized_locked hdelta]
  rfl

/-- The bounds a registered session keeps. -/
structure WithinCaps (session : SessionRegistration) : Prop where
  capPositive : 0 < session.maxAmount
  spent : session.spent ≤ session.maxAmount
  crystallized : session.crystallizedCumulative ≤ session.maxAmount
  outstanding : session.currentOutstanding ≤ session.maxRevolvingCapacity

/-- A cleared account is all zero. -/
def Blank (account : SessionAccount) : Prop :=
  account.version = 0 → account.session = SessionRegistration.cleared

/-- A registered account is within its caps. -/
def Capped (account : SessionAccount) : Prop :=
  account.version ≠ 0 → WithinCaps account.session

theorem blank_of_registered {account : SessionAccount}
    (hregistered : account.version ≠ 0) : Blank account :=
  fun hversion => absurd hversion hregistered

theorem writtenSession_registered (account : SessionAccount) (bump : U8)
    (vaultKey : Pubkey) (args : RegisterSessionKeyArgs) :
    (writtenSession account bump vaultKey args).version ≠ 0 := by
  have hstamped : sessionVersionV1 ≠ 0 := by decide
  unfold writtenSession
  split
  · exact hstamped
  · next hversion => exact hversion

theorem writtenSession_session (account : SessionAccount) (bump : U8)
    (vaultKey : Pubkey) (args : RegisterSessionKeyArgs) :
    (writtenSession account bump vaultKey args).session = args.registration := by
  unfold writtenSession
  split <;> rfl

theorem SessionChange.blank {before after : State} {call : Call}
    (hblank : ∀ account, before.session? key = some account → Blank account)
    (hchange : SessionChange runtime before key after call) :
    ∀ account, after.session? key = some account → Blank account := by
  intro account haccount
  cases hchange with
  | same _ hafter => exact hblank account (hafter ▸ haccount)
  | opened hopened hafter =>
      obtain rfl := Option.some.inj (hafter.symm.trans haccount)
      exact blank_of_registered hopened.registered
  | settled _ hsettled hafter =>
      obtain rfl := Option.some.inj (hafter.symm.trans haccount)
      exact blank_of_registered hsettled.admitted.registered
  | locked _ hlocked _ hafter =>
      obtain rfl := Option.some.inj (hafter.symm.trans haccount)
      exact blank_of_registered hlocked.admitted.registered
  | registered _ _ hafter =>
      obtain rfl := Option.some.inj (hafter.symm.trans haccount)
      exact blank_of_registered (writtenSession_registered _ _ _ _)
  | swept _ _ _ hafter | revoked _ _ hafter =>
      obtain rfl := Option.some.inj (hafter.symm.trans haccount)
      exact fun _ => rfl
  | closed _ _ _ hafter =>
      rw [hafter] at haccount
      cases haccount
  | carried _ _ hafter =>
      obtain rfl := Option.some.inj (hafter.symm.trans haccount)
      have hstamped : sessionVersionV1 ≠ 0 := by decide
      exact blank_of_registered hstamped

theorem blank_of_run {start state : State} {trace : Trace}
    (hstart : OnlyImages start) (hrun : Run (system runtime) start trace state)
    {account : SessionAccount} (haccount : state.session? key = some account) :
    Blank account :=
  session_invariant (fun _ => Blank) hstart.2.1
    (fun _ _ _ _ _ hgood hchange => hchange.blank hgood) hrun
    (guarded_true trace) haccount

theorem saturatingSub_le {bound : ℕ} (left right : Fin bound) :
    saturatingSub left right ≤ left :=
  Nat.sub_le _ _

/-- The call does not carry a session over from a V5 vault. -/
def CarriesNone (accepted : Accepted State Call) : Prop :=
  accepted.call.carriesSession = false

theorem SessionChange.capped {before after : State} {call : Call}
    (hcarries : CarriesNone ⟨before, call, after⟩)
    (hcapped : ∀ account, before.session? key = some account → Capped account)
    (hchange : SessionChange runtime before key after call) :
    ∀ account, after.session? key = some account → Capped account := by
  intro account haccount hversion
  cases hchange with
  | same _ hafter => exact hcapped account (hafter ▸ haccount) hversion
  | opened hopened hafter =>
      obtain rfl := Option.some.inj (hafter.symm.trans haccount)
      have hcaps := hcapped _ hopened.sessionAt hopened.registered
      exact { hcaps with outstanding := hopened.admitted }
  | settled hkey hsettled hafter =>
      obtain rfl := Option.some.inj (hafter.symm.trans haccount)
      have hadmitted := hsettled.admitted
      have hcaps := hcapped _ (hkey ▸ hadmitted.sessionAt) hadmitted.registered
      exact { hcaps with
        spent := hadmitted.withinCap
        outstanding := le_trans (saturatingSub_le _ _) hcaps.outstanding }
  | locked hkey hlocked _ hafter =>
      obtain rfl := Option.some.inj (hafter.symm.trans haccount)
      have hadmitted := hlocked.admitted
      have hcaps := hcapped _ (hkey ▸ hadmitted.sessionAt) hadmitted.registered
      exact { hcaps with
        crystallized := by
          rw [crystallized_locked hlocked.deltaIs]
          exact hadmitted.withinCap
        outstanding := le_trans (saturatingSub_le _ _) hcaps.outstanding }
  | registered _ hregistered hafter =>
      obtain rfl := Option.some.inj (hafter.symm.trans haccount)
      rw [writtenSession_session]
      exact ⟨hregistered.cap, Fin.zero_le _, Fin.zero_le _, Fin.zero_le _⟩
  | swept _ _ _ hafter | revoked _ _ hafter =>
      obtain rfl := Option.some.inj (hafter.symm.trans haccount)
      exact absurd rfl hversion
  | closed _ _ _ hafter =>
      rw [hafter] at haccount
      cases haccount
  | carried => exact absurd hcarries (by simp [CarriesNone, Call.carriesSession])

/-! ## Between two registrations -/

/-- The calls after which the meters of the account at `key` may restart: its
revocation, its registration, and a registration that sweeps it. -/
def EndsEpoch (key : Pubkey) (accepted : Accepted State Call) : Prop :=
  match accepted.call with
  | .revokeSessionKey _ accounts _ => accounts.session = key
  | .registerSessionKey context accounts _ =>
      accounts.session = key ∨
        key ∈ expiredKeys context.unixTimestamp accepted.before
          (siblingKeys accounts)
  | _ => False

instance (key : Pubkey) (accepted : Accepted State Call) :
    Decidable (EndsEpoch key accepted) := by
  unfold EndsEpoch
  split <;> infer_instance

/-- The later account holds the same registration with meters that have not
fallen. -/
structure Continues (earlier later : SessionAccount) : Prop where
  version : later.version = earlier.version
  sessionPubkey : later.session.sessionPubkey = earlier.session.sessionPubkey
  maxAmount : later.session.maxAmount = earlier.session.maxAmount
  spent : earlier.session.spent ≤ later.session.spent
  crystallized : earlier.session.crystallizedCumulative ≤
    later.session.crystallizedCumulative

theorem Continues.refl (account : SessionAccount) : Continues account account :=
  ⟨rfl, rfl, rfl, le_rfl, le_rfl⟩

theorem Continues.trans {earlier middle later : SessionAccount}
    (hfirst : Continues earlier middle) (hsecond : Continues middle later) :
    Continues earlier later :=
  ⟨hsecond.version.trans hfirst.version,
    hsecond.sessionPubkey.trans hfirst.sessionPubkey,
    hsecond.maxAmount.trans hfirst.maxAmount,
    le_trans hfirst.spent hsecond.spent,
    le_trans hfirst.crystallized hsecond.crystallized⟩

/-- The step lemma of an epoch: a registered account that the call does not
revoke, replace or sweep continues. -/
theorem SessionChange.continues {before after : State} {call : Call}
    {account : SessionAccount}
    (hepoch : ¬ EndsEpoch key ⟨before, call, after⟩)
    (haccount : before.session? key = some account)
    (hregistered : account.version ≠ 0)
    (hchange : SessionChange runtime before key after call) :
    ∃ later, after.session? key = some later ∧ Continues account later := by
  cases hchange with
  | same _ hafter => exact ⟨account, hafter.trans haccount, .refl account⟩
  | opened hopened hafter =>
      obtain rfl := Option.some.inj (hopened.sessionAt.symm.trans haccount)
      exact ⟨_, hafter, rfl, rfl, rfl, le_rfl, le_rfl⟩
  | settled hkey hsettled hafter =>
      subst hkey
      obtain rfl :=
        Option.some.inj (hsettled.admitted.sessionAt.symm.trans haccount)
      have habove := (max_lt_iff.mp hsettled.admitted.aboveFrontier).1
      exact ⟨_, hafter, rfl, rfl, rfl, le_of_lt habove, le_rfl⟩
  | locked hkey hlocked _ hafter =>
      subst hkey
      obtain rfl :=
        Option.some.inj (hlocked.admitted.sessionAt.symm.trans haccount)
      have habove := (max_lt_iff.mp hlocked.admitted.aboveFrontier).2
      refine ⟨_, hafter, rfl, rfl, rfl, le_rfl, ?_⟩
      rw [crystallized_locked hlocked.deltaIs]
      exact le_of_lt habove
  | registered hkey => exact absurd (.inl hkey) hepoch
  | swept _ hexpired => exact absurd (.inr hexpired) hepoch
  | revoked hkey => exact absurd hkey hepoch
  | closed _ hbefore hcleared =>
      obtain rfl := Option.some.inj (hbefore.symm.trans haccount)
      exact absurd hcleared hregistered
  | carried hkey hmigrated =>
      have hvacant : before.session? key = none := by
        rw [← hkey]
        exact State.view_of_lookup_none hmigrated.vacant
      rw [hvacant] at haccount
      cases haccount

/-- The run lemma of an epoch. -/
theorem continues_of_run {start state : State} {trace : Trace}
    {account : SessionAccount} (haccount : start.session? key = some account)
    (hregistered : account.version ≠ 0)
    (hrun : Run (system runtime) start trace state)
    (hepoch : Guarded (fun _ accepted => ¬ EndsEpoch key accepted) trace) :
    ∃ later, state.session? key = some later ∧ Continues account later := by
  refine hrun.guarded_invariant (fun state => ∃ later,
    state.session? key = some later ∧ Continues account later) ?_ ?_ ?_ hepoch
  · exact ⟨account, haccount, .refl account⟩
  · rintro before call after ⟨middle, hmiddle, hcontinues⟩ hstep hends
    have hversion : middle.version ≠ 0 := by
      rw [hcontinues.version]
      exact hregistered
    obtain ⟨later, hlater, hnext⟩ :=
      (session_change (step_change hstep) key).continues hends hmiddle hversion
    exact ⟨later, hlater, hcontinues.trans hnext⟩
  · rintro before after hcontinues hmove
    rw [(environment_views hmove).sessions]
    exact hcontinues

/-! ## Accepted vouchers -/

def spentAt (state : State) (key : Pubkey) : ℕ :=
  (state.session? key).elim 0 fun account => account.session.spent.val

def claimAmountAt (state : State) (key : Pubkey) : ℕ :=
  (state.claim? key).elim 0 fun claim => claim.amount.val

/-- What a call pays out of a session: the increment of a settlement over
`spent` as it was, or the amount of the claim that a lock has created. -/
def paid (accepted : Accepted State Call) : ℕ :=
  match accepted.call with
  | .settleTabVoucher _ accounts args =>
      args.cumulativeAmount.val - spentAt accepted.before accounts.session
  | .lockVoucher _ accounts _ => claimAmountAt accepted.after accounts.claim
  | _ => 0

/-- What an accepted voucher does to its session account: it becomes the
frontier, by an exact move of the meter of its path. -/
structure Advanced (accepted : Accepted State Call) (voucher : PresentedVoucher)
    (before after : SessionAccount) : Prop where
  beforeAt : accepted.before.session? voucher.session = some before
  afterAt : accepted.after.session? voucher.session = some after
  registered : before.version ≠ 0
  aboveFrontier : frontier before.session < voucher.payload.cumulativeAmount
  withinCap : voucher.payload.cumulativeAmount ≤ before.session.maxAmount
  continues : Continues before after
  meters : meters after.session =
    (meters before.session).advance voucher.mark
  payment : paid accepted = (Sessions.meters before.session).payment voucher.mark
  exact : voucher.path = .right → ∃ delta : U64,
    checkedSub voucher.payload.cumulativeAmount
      before.session.crystallizedCumulative = some delta ∧
    after.session.crystallizedCumulative.val =
      before.session.crystallizedCumulative.val + delta.val

theorem Advanced.frontier_eq {accepted : Accepted State Call}
    {voucher : PresentedVoucher} {before after : SessionAccount}
    (hadvanced : Advanced accepted voucher before after) :
    frontier after.session = voucher.payload.cumulativeAmount := by
  have habove : (Sessions.meters before.session).frontier <
      voucher.mark.amount := by
    rw [← frontier_val]
    exact hadvanced.aboveFrontier
  apply Fin.ext
  rw [frontier_val, hadvanced.meters]
  exact Odometer.Meters.frontier_advance habove

theorem advanced_of_settled {before after : State} {context : Context}
    {accounts : SettleTabVoucher} {args : SettleTabVoucherArgs} {vault : Vault}
    {account : SessionAccount} {increment : U64}
    (hsettled : TabSettled runtime context accounts args before vault account
      increment)
    (hafter : after.session? accounts.session = some { account with
      session := settledRegistration account.session args.cumulativeAmount
        increment }) :
    Advanced ⟨before, .settleTabVoucher context accounts args, after⟩
      ⟨accounts.session, .left, args.toVoucherPayload⟩ account
      { account with
        session := settledRegistration account.session args.cumulativeAmount
          increment } := by
  have hadmitted := hsettled.admitted
  have habove := max_lt_iff.mp hadmitted.aboveFrontier
  constructor
  case beforeAt => exact hadmitted.sessionAt
  case afterAt => exact hafter
  case registered => exact hadmitted.registered
  case aboveFrontier => exact hadmitted.aboveFrontier
  case withinCap => exact hadmitted.withinCap
  case continues => exact ⟨rfl, rfl, rfl, le_of_lt habove.1, le_rfl⟩
  case meters => exact meters_settled _ _ _
  case payment =>
    simp only [paid, spentAt, hadmitted.sessionAt, Option.elim_some]
    rfl
  case exact =>
    intro hpath
    cases hpath

theorem advanced_of_locked {before after : State} {context : Context}
    {accounts : LockVoucher} {args : LockVoucherArgs} {vault : Vault}
    {account : SessionAccount} {ata : TokenAccount}
    {delta proposedOutstanding : U64}
    {claimBump : U8}
    (hlocked : Locked runtime context accounts args before vault account ata
      delta proposedOutstanding)
    (hclaim : after.claim? accounts.claim = some (newClaim claimBump
      accounts.vault accounts.sellerHolder account.session.sessionPubkey delta
      context.unixTimestamp args))
    (hafter : after.session? accounts.session = some { account with
      session := lockedRegistration account.session delta
        args.sequenceNumber }) :
    Advanced ⟨before, .lockVoucher context accounts args, after⟩
      ⟨accounts.session, .right, args.toVoucherPayload⟩ account
      { account with
        session := lockedRegistration account.session delta
          args.sequenceNumber } := by
  have hadmitted := hlocked.admitted
  have habove := max_lt_iff.mp hadmitted.aboveFrontier
  have hcrystallized : (lockedRegistration account.session delta
      args.sequenceNumber).crystallizedCumulative = args.cumulativeAmount :=
    crystallized_locked hlocked.deltaIs
  constructor
  case beforeAt => exact hadmitted.sessionAt
  case afterAt => exact hafter
  case registered => exact hadmitted.registered
  case aboveFrontier => exact hadmitted.aboveFrontier
  case withinCap => exact hadmitted.withinCap
  case continues =>
    refine ⟨rfl, rfl, rfl, le_rfl, ?_⟩
    rw [hcrystallized]
    exact le_of_lt habove.2
  case meters => exact meters_locked hlocked.deltaIs
  case payment =>
    simp only [paid, claimAmountAt, hclaim, Option.elim_some]
    exact Nat.eq_sub_of_add_eq' hlocked.deltaIs
  case exact =>
    intro _
    have hdelta := hlocked.deltaIs
    have hchecked : checkedSub args.cumulativeAmount
        account.session.crystallizedCumulative = some delta :=
      checkedSub_eq_some_iff.mpr ⟨by omega, by omega⟩
    refine ⟨delta, hchecked, ?_⟩
    rw [hcrystallized]
    exact hdelta.symm

theorem SessionChange.advanced {before after : State} {call : Call}
    {voucher : PresentedVoucher} (hvoucher : call.voucher = some voucher)
    (hchange : SessionChange runtime before voucher.session after call) :
    ∃ account later, Advanced ⟨before, call, after⟩ voucher account later := by
  cases hchange with
  | same htarget => exact absurd (Call.target_of_voucher hvoucher) htarget
  | settled hkey hsettled hafter =>
      obtain rfl := Option.some.inj hvoucher
      exact ⟨_, _, advanced_of_settled hsettled hafter⟩
  | locked hkey hlocked hclaim hafter =>
      obtain rfl := Option.some.inj hvoucher
      exact ⟨_, _, advanced_of_locked hlocked hclaim hafter⟩
  | opened | registered | swept | revoked | closed | carried => cases hvoucher

/-- Every accepted voucher of a run has advanced its session. -/
theorem advanced_of_step {before after : State} {call : Call}
    {voucher : PresentedVoucher} (hvoucher : call.voucher = some voucher)
    (hstep : step runtime before call = .ok after) :
    ∃ account later, Advanced ⟨before, call, after⟩ voucher account later :=
  (session_change (step_change hstep) voucher.session).advanced hvoucher

/-! ## Where a registered account comes from -/

def IsRegistered (state : State) (key : Pubkey) (account : SessionAccount) :
    Prop :=
  state.session? key = some account ∧ account.version ≠ 0

/-- How an account that is registered after a call came to be so: it was
registered before and has continued, with the same meters unless the call
presents one of its vouchers; or the call has registered it, with meters at
zero; or it was carried over from a V5 vault. -/
inductive Origin (before : State) (key : Pubkey) (later : SessionAccount) :
    Call → Prop
  | kept {call : Call} {account : SessionAccount}
      (haccount : IsRegistered before key account)
      (hcontinues : Continues account later)
      (hmeters : (∀ voucher ∈ call.voucher, voucher.session ≠ key) →
        meters later.session = meters account.session) :
      Origin before key later call
  | registered {context : Context} {accounts : RegisterSessionKey}
      {args : RegisterSessionKeyArgs} (hkey : accounts.session = key)
      (hsession : later.session = args.registration) :
      Origin before key later (.registerSessionKey context accounts args)
  | carried {context : Context} {accounts : MigrateV5ToV6WithSession}
      {args : MigrateV5ToV6WithSessionArgs} (hkey : accounts.session = key) :
      Origin before key later (.migrateV5ToV6WithSession context accounts args)

theorem SessionChange.origin {before after : State} {call : Call}
    {later : SessionAccount}
    (hchange : SessionChange runtime before key after call)
    (hlater : IsRegistered after key later) : Origin before key later call := by
  obtain ⟨hlater, hversion⟩ := hlater
  cases hchange with
  | same _ hafter =>
      exact .kept ⟨hafter.symm.trans hlater, hversion⟩ (.refl later) fun _ => rfl
  | opened hopened hafter =>
      obtain rfl := Option.some.inj (hafter.symm.trans hlater)
      exact .kept ⟨hopened.sessionAt, hopened.registered⟩
        ⟨rfl, rfl, rfl, le_rfl, le_rfl⟩ fun _ => rfl
  | settled hkey hsettled hafter =>
      subst hkey
      obtain rfl := Option.some.inj (hafter.symm.trans hlater)
      have hadvanced := advanced_of_settled hsettled hafter
      exact .kept ⟨hadvanced.beforeAt, hadvanced.registered⟩
        hadvanced.continues fun hother => absurd rfl (hother _ rfl)
  | locked hkey hlocked hclaim hafter =>
      subst hkey
      obtain rfl := Option.some.inj (hafter.symm.trans hlater)
      have hadvanced := advanced_of_locked hlocked hclaim hafter
      exact .kept ⟨hadvanced.beforeAt, hadvanced.registered⟩
        hadvanced.continues fun hother => absurd rfl (hother _ rfl)
  | registered hkey _ hafter =>
      obtain rfl := Option.some.inj (hafter.symm.trans hlater)
      exact .registered hkey (writtenSession_session _ _ _ _)
  | swept _ _ _ hafter =>
      obtain rfl := Option.some.inj (hafter.symm.trans hlater)
      exact absurd rfl hversion
  | revoked _ _ hafter =>
      obtain rfl := Option.some.inj (hafter.symm.trans hlater)
      exact absurd rfl hversion
  | closed _ _ _ hafter =>
      rw [hafter] at hlater
      cases hlater
  | carried hkey => exact .carried hkey

/-! ## The session accounts of a reachable state -/

/-- A cleared session account is all zero; a registered one has the vault and
the counterparty of the only seeds its address can have, and keeps its caps. -/
structure SessionSound (runtime : Runtime) (key : Pubkey)
    (account : SessionAccount) : Prop where
  cleared : account.version = 0 → account.session = SessionRegistration.cleared
  derived : account.version ≠ 0 → SessionAddress runtime account.vault
    account.session.allowedCounterparty account.bump key
  seeds : account.version ≠ 0 → ∀ vault counterparty bump,
    SessionAddress runtime vault counterparty bump key →
      vault = account.vault ∧
        counterparty = account.session.allowedCounterparty
  withinCaps : account.version ≠ 0 → WithinCaps account.session

theorem sessionSound_of_sited (hfree : runtime.CollisionFree)
    {account : SessionAccount} (hblank : Blank account)
    (hcapped : Capped account)
    (hsited : Sited runtime (fun _ => True) key account) :
    SessionSound runtime key account := by
  obtain ⟨counterparty, -, haddress, hstored⟩ := hsited
  constructor
  case cleared => exact hblank
  case derived =>
    intro hversion
    rw [← hstored hversion]
    exact haddress
  case seeds =>
    intro hversion vault other bump hother
    obtain ⟨hvault, hcounterparty, -⟩ := hother.unique hfree haddress
    exact ⟨hvault, hcounterparty.trans (hstored hversion)⟩
  case withinCaps => exact hcapped

/-- In every reachable state whose sessions were created by registrations, each
session account is sound; from then on its meters only grow until the address
is revoked, registered again or swept; and each accepted voucher has become the
larger of the two meters. -/
theorem session_accounts_sound (hfree : runtime.CollisionFree)
    {start state : State} {trace : Trace} (hstart : OnlyImages start)
    (hrun : Run (system runtime) start trace state)
    (hcarries : Guarded (fun _ => CarriesNone) trace) :
    (∀ key account, state.session? key = some account →
      SessionSound runtime key account) ∧
    (∀ key account, state.session? key = some account → account.version ≠ 0 →
      ∀ later final, Run (system runtime) state later final →
        Guarded (fun _ accepted => ¬ EndsEpoch key accepted) later →
        ∃ finalAccount, final.session? key = some finalAccount ∧
          Continues account finalAccount) ∧
    (∀ accepted ∈ trace, ∀ voucher ∈ accepted.call.voucher,
      ∃ before after, Advanced accepted voucher before after ∧
        max after.session.spent after.session.crystallizedCumulative =
          voucher.payload.cumulativeAmount) := by
  refine ⟨?_, ?_, ?_⟩
  · intro key account haccount
    have hcapped : Capped account :=
      session_invariant (fun _ => Capped) hstart.2.1
        (fun _ _ _ hmeets _ hgood hchange => hchange.capped hmeets hgood) hrun
        hcarries haccount
    have hregisters : Guarded (fun _ => Registers fun _ => True) trace :=
      (guarded_true trace).mono fun _ _ _ _ _ => trivial
    exact sessionSound_of_sited hfree (blank_of_run hstart hrun haccount) hcapped
      (sited_of_run hfree hstart hrun hregisters haccount)
  · intro key account haccount hregistered later final hlater hepoch
    exact continues_of_run haccount hregistered hlater hepoch
  · intro accepted haccepted voucher hvoucher
    obtain ⟨_, _, _, _, hstep⟩ := hrun.step_of_mem haccepted
    obtain ⟨before, after, hadvanced⟩ := advanced_of_step hvoucher hstep
    exact ⟨before, after, hadvanced, hadvanced.frontier_eq⟩

section Examples

open DexterVault.Deployment

/-- The session settles a voucher of 60. -/
def settledTrace : Trace :=
  ⟨registered, settleTab 60, settled⟩ :: registeredTrace

theorem settled_run :
    Run (system sampleRuntime) funded settledTrace settled := by
  obtain ⟨-, -, -, hsettle, -⟩ := sample_steps
  exact registered_run.accept hsettle

theorem session_accounts_sound_settled :
    SessionSound Deployment.sampleRuntime Deployment.sellerSession
      (Deployment.sellerAccount 60 0 0) ∧
    ∃ before after, Advanced
      ⟨Deployment.registered, Deployment.settleTab 60, Deployment.settled⟩
      ⟨Deployment.sellerSession, .left, Deployment.voucherOf 60⟩ before after ∧
      max after.session.spent after.session.crystallizedCumulative = 60 := by
  have hsound := session_accounts_sound Deployment.sampleRuntime_collisionFree
    Deployment.onlyImages_funded settled_run
    ⟨rfl, rfl, rfl, rfl, trivial⟩
  exact ⟨hsound.1 _ _ (by decide +kernel),
    hsound.2.2 _ (List.mem_cons_self ..) _ rfl⟩

end Examples

end DexterVault.Sessions
