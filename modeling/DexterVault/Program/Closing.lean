import DexterVault.Core.Agreement
import DexterVault.Program.Addresses

/-!
# A cleared session account and a missing one

Two states that differ in one session account, cleared in the left one and
closed in the right one.  Every instruction succeeds in both or fails in both,
with one exception for each way to ask whether the account exists: closing it,
and closing a tab that names it.  Its results differ in that account only, and
not at all when the account is registered again.
-/

namespace DexterVault.Closing

open DexterVault.Machine
open DexterVault.Framing
open DexterVault.Accounts
open DexterVault.Execution
open DexterVault.Agreement
open DexterVault.Setup
open DexterVault.Withdrawal
open DexterVault.Session
open DexterVault.Gate
open DexterVault.Voucher
open DexterVault.Claim
open DexterVault.Credit
open DexterVault.Migration
open DexterVault.Program
open DexterVault.Addresses

/-! ## Writing and closing -/

section States

variable {state : State} {key other : Pubkey} {account : Account}

theorem State.ext_lookup {left right : State}
    (htokens : left.tokens = right.tokens)
    (haccounts : ∀ key, left.accounts.lookup key = right.accounts.lookup key) :
    left = right := by
  cases left
  cases right
  rw [State.mk.injEq]
  exact ⟨Finmap.ext_lookup haccounts, htokens⟩

theorem lookup_write :
    (state.write key account).accounts.lookup other =
      if other = key then some account else state.accounts.lookup other := by
  split
  · next hkey =>
      subst hkey
      exact Finmap.lookup_insert _
  · next hkey => exact Finmap.lookup_insert_of_ne _ hkey

theorem lookup_close :
    (state.close key).accounts.lookup other =
      if other = key then none else state.accounts.lookup other := by
  split
  · next hkey =>
      subst hkey
      exact Finmap.lookup_erase _ _
  · next hkey => exact Finmap.lookup_erase_ne hkey

/-- Writing to a closed account undoes the closing. -/
theorem write_close_self :
    (state.close key).write key account = state.write key account := by
  refine State.ext_lookup rfl fun found => ?_
  rw [lookup_write, lookup_write, lookup_close]
  split <;> rfl

theorem write_close (hne : other ≠ key) :
    (state.close key).write other account =
      (state.write other account).close key := by
  refine State.ext_lookup rfl fun found => ?_
  rw [lookup_write, lookup_close, lookup_close, lookup_write]
  split
  · next hfound => rw [if_neg (hfound ▸ hne)]
  · rfl

theorem close_close :
    (state.close key).close other = (state.close other).close key := by
  refine State.ext_lookup rfl fun found => ?_
  rw [lookup_close, lookup_close, lookup_close, lookup_close]
  split <;> split <;> rfl

end States

/-! ## Twins -/

/-- The states are the same, or the left one has the account at `key` and the
right one is the left one with that account closed. -/
def Twins (key : Pubkey) (account : SessionAccount) (left right : State) :
    Prop :=
  left = right ∨ left.session? key = some account ∧ right = left.close key

section Twins

variable {key other : Pubkey} {account : SessionAccount} {left right : State}

theorem Twins.write (htwins : Twins key account left right) (other : Pubkey)
    (written : Account) :
    Twins key account (left.write other written) (right.write other written) := by
  rcases htwins with rfl | ⟨hsession, rfl⟩
  · exact .inl rfl
  · by_cases hother : other = key
    · subst hother
      exact .inl write_close_self.symm
    · refine .inr ⟨?_, write_close hother⟩
      rw [State.session?, State.view_write, if_neg (Ne.symm hother)]
      exact hsession

theorem Twins.close (htwins : Twins key account left right)
    (hother : other ≠ key) :
    Twins key account (left.close other) (right.close other) := by
  rcases htwins with rfl | ⟨hsession, rfl⟩
  · exact .inl rfl
  · refine .inr ⟨?_, close_close⟩
    rw [State.session?, State.view_close, if_neg (Ne.symm hother)]
    exact hsession

theorem Twins.tokens (htwins : Twins key account left right) :
    right.tokens = left.tokens := by
  rcases htwins with rfl | ⟨-, rfl⟩
  · rfl
  · rfl

/-- No other type of account tells twins apart. -/
theorem Twins.view (htwins : Twins key account left right) {Data : Type}
    {read : Account → Option Data} (hread : ∀ body, read (.session body) = none) :
    right.view read = left.view read := by
  rcases htwins with rfl | ⟨hsession, rfl⟩
  · rfl
  · apply State.view_close_of_none
    rw [State.view_of_session? hsession, hread]

theorem Twins.lookup (htwins : Twins key account left right)
    (hother : other ≠ key) :
    right.accounts.lookup other = left.accounts.lookup other := by
  rcases htwins with rfl | ⟨-, rfl⟩
  · rfl
  · rw [lookup_close, if_neg hother]

theorem Twins.session (htwins : Twins key account left right)
    (hother : other ≠ key) : right.session? other = left.session? other := by
  rw [State.session?, State.view, htwins.lookup hother]
  rfl

/-! What the framework loads of them. -/

theorem Twins.loadVault (htwins : Twins key account left right)
    (vaultKey : Pubkey) (vault : Vault) :
    Execution.loadVault left vaultKey = .ok vault ↔
      Execution.loadVault right vaultKey = .ok vault := by
  rw [Execution.loadVault, Execution.loadVault, load_eq_ok_iff, load_eq_ok_iff,
    htwins.view fun _ => rfl]

theorem Twins.loadClaim (htwins : Twins key account left right)
    (claimKey : Pubkey) (claim : LockedClaim) :
    Execution.loadClaim left claimKey = .ok claim ↔
      Execution.loadClaim right claimKey = .ok claim := by
  rw [Execution.loadClaim, Execution.loadClaim, load_eq_ok_iff, load_eq_ok_iff,
    htwins.view fun _ => rfl]

theorem Twins.loadStandbyBacker (htwins : Twins key account left right)
    (backerKey : Pubkey) (backer : StandbyBacker) :
    Execution.loadStandbyBacker left backerKey = .ok backer ↔
      Execution.loadStandbyBacker right backerKey = .ok backer := by
  rw [Execution.loadStandbyBacker, Execution.loadStandbyBacker, load_eq_ok_iff,
    load_eq_ok_iff, htwins.view fun _ => rfl]

theorem Twins.loadVaultV5 (htwins : Twins key account left right)
    (vaultKey : Pubkey) :
    Migration.loadVaultV5 left vaultKey =
      Migration.loadVaultV5 right vaultKey := by
  rw [Migration.loadVaultV5, Migration.loadVaultV5, State.vaultV5?,
    State.vaultV5?, htwins.view fun _ => rfl]

theorem Twins.loadTokenAccount (htwins : Twins key account left right)
    (ataKey : Pubkey) :
    Execution.loadTokenAccount left ataKey =
      Execution.loadTokenAccount right ataKey := by
  rw [Execution.loadTokenAccount, Execution.loadTokenAccount, htwins.tokens]

theorem Twins.loadSession (htwins : Twins key account left right)
    (hother : other ≠ key) (session : SessionAccount) :
    Execution.loadSession left other = .ok session ↔
      Execution.loadSession right other = .ok session := by
  have hsession : right.view Account.session? other =
      left.view Account.session? other := htwins.session hother
  rw [Execution.loadSession, Execution.loadSession, load_eq_ok_iff,
    load_eq_ok_iff, hsession]

theorem Twins.requireVacant (htwins : Twins key account left right)
    (hother : other ≠ key) :
    Execution.requireVacant left other = Execution.requireVacant right other := by
  have hlookup := htwins.lookup hother
  rw [Execution.requireVacant, Execution.requireVacant]
  simp only [hlookup]

theorem Twins.loadOrInit (htwins : Twins key account left right)
    (hother : other ≠ key) {Data : Type} (read : Account → Option Data)
    (zeroed data : Data) :
    Execution.loadOrInit read zeroed left other = .ok data ↔
      Execution.loadOrInit read zeroed right other = .ok data := by
  have hlookup := htwins.lookup hother
  rw [loadOrInit_eq_ok_iff, loadOrInit_eq_ok_iff, State.view, State.view,
    hlookup]

end Twins

/-! ## Cleared accounts -/

/-- A cleared account at the address of a session of a vault, for a counterparty
other than the all-zero one. -/
structure Shell (runtime : Runtime) (key : Pubkey) (account : SessionAccount)
    (state : State) : Prop where
  sessionAt : state.session? key = some account
  cleared : account.version = 0
  blank : account.session.allowedCounterparty = defaultPubkey
  sited : ∃ vaultKey counterparty bump,
    SessionAddress runtime vaultKey counterparty bump key ∧
      counterparty ≠ defaultPubkey ∧ ∃ vault, state.vault? vaultKey = some vault

/-- No session is registered at the address. -/
def Dormant (state : State) (key : Pubkey) : Prop :=
  ∀ account, state.session? key = some account → account.version = 0

section Cleared

variable {runtime : Runtime} {context : Context} {key : Pubkey}
  {account : SessionAccount} {state next : State}

theorem Shell.twins (hshell : Shell runtime key account state) :
    Twins key account state (state.close key) :=
  .inr ⟨hshell.sessionAt, rfl⟩

theorem Shell.dormant (hshell : Shell runtime key account state) :
    Dormant state key := by
  intro found hfound
  obtain rfl := Option.some.inj (hshell.sessionAt.symm.trans hfound)
  exact hshell.cleared

theorem dormant_close : Dormant (state.close key) key := by
  intro found hfound
  rw [State.session?, State.view_close, if_pos rfl] at hfound
  cases hfound

/-- The address of the account belongs to its kind. -/
theorem Shell.site (hshell : Shell runtime key account state) :
    Site.session.At runtime key := by
  obtain ⟨_, _, _, haddress, -⟩ := hshell.sited
  exact .of_sessionAddress haddress

theorem Shell.not_site (hfree : runtime.CollisionFree)
    (hshell : Shell runtime key account state) {site : Site}
    (hsite : site ≠ .session) : ¬ site.At runtime key :=
  fun hat => hsite (hat.unique hfree hshell.site)

/-- The account is not where its cleared body says that it is. -/
theorem Shell.not_zero (hfree : runtime.CollisionFree)
    (hshell : Shell runtime key account state) (vaultKey : Pubkey) (bump : U8) :
    ¬ SessionAddress runtime vaultKey defaultPubkey bump key := by
  obtain ⟨_, counterparty, _, haddress, hcounterparty, -⟩ := hshell.sited
  intro hzero
  obtain ⟨-, hsame, -⟩ := haddress.unique hfree hzero
  exact hcounterparty hsame

/-- The vault of the account is not in the V5 layout. -/
theorem Shell.not_image (hfree : runtime.CollisionFree)
    (hshell : Shell runtime key account state) {vaultKey counterparty : Pubkey}
    {bump : U8} (haddress : SessionAddress runtime vaultKey counterparty bump key) :
    state.vaultV5? vaultKey = none := by
  obtain ⟨found, _, _, hfound, -, vault, hvault⟩ := hshell.sited
  obtain ⟨rfl, -, -⟩ := hfound.unique hfree haddress
  exact State.view_of_vault? hvault

/-! What is refused at an address without a registered session. -/

theorem settleVoucher_refused {accounts : SettleVoucher}
    {args : SettleVoucherArgs} (hincrement : args.increment = true)
    (hsession : accounts.session = some key) (hdormant : Dormant state key) :
    settleVoucher runtime context accounts args state ≠ .ok next := by
  intro hok
  obtain ⟨_, found, account, _, hopenable, -⟩ := openable_of_ok hok hincrement
  obtain rfl := Option.some.inj (hopenable.session.symm.trans hsession)
  exact hopenable.registered (hdormant account hopenable.sessionAt)

theorem revokeSessionKey_refused {accounts : RevokeSessionKey}
    {args : RevokeSessionKeyArgs} (hdormant : Dormant state accounts.session) :
    revokeSessionKey runtime context accounts args state ≠ .ok next := by
  intro hok
  obtain ⟨_, session, _, hrevoked, -⟩ := revokeSessionKey_ok hok
  exact hrevoked.registered (hdormant session hrevoked.sessionAt)

theorem settleTabVoucher_refused {accounts : SettleTabVoucher}
    {args : SettleTabVoucherArgs} (hdormant : Dormant state accounts.session) :
    settleTabVoucher runtime context accounts args state ≠ .ok next := by
  intro hok
  obtain ⟨_, session, _, hsettled, -⟩ := settleTabVoucher_ok hok
  exact hsettled.admitted.registered
    (hdormant session hsettled.admitted.sessionAt)

theorem lockVoucher_refused {accounts : LockVoucher} {args : LockVoucherArgs}
    (hdormant : Dormant state accounts.session) :
    lockVoucher runtime context accounts args state ≠ .ok next := by
  intro hok
  obtain ⟨_, session, _, _, _, _, hlocked, -⟩ := lockVoucher_ok hok
  exact hlocked.admitted.registered (hdormant session hlocked.admitted.sessionAt)

end Cleared

/-! ## The gate -/

section Gates

variable {runtime : Runtime} {key vaultKey sessionKey : Pubkey} {now : I64}
  {account : SessionAccount} {origin : State}

/-- The same accumulators, and states that differ in the account at `key`. -/
def GateTwins (key : Pubkey) (account : SessionAccount) (left right : Gate) :
    Prop :=
  left.state.session? key = some account ∧
    right = { left with state := left.state.close key }

/-- The gate refuses a cleared sibling for its address, and a missing one. -/
theorem gateStep_refused (hfree : runtime.CollisionFree)
    (hshell : Shell runtime key account origin) {gate after : Gate}
    {acct : AccountMeta} (hkey : acct.key = key)
    (hfound : ∀ found, gate.state.session? key = some found → found = account) :
    gateStep runtime vaultKey sessionKey now gate acct ≠ .ok after := by
  intro hok
  obtain ⟨-, -, sibling, hsibling, -⟩ := gateStep_ok hok
  have haddress := hsibling.address
  rw [hkey, hfound sibling (hkey ▸ hsibling.sessionAt), hshell.blank]
    at haddress
  exact hshell.not_zero hfree _ _ haddress

theorem gateStep_agrees (hfree : runtime.CollisionFree)
    (hshell : Shell runtime key account origin) {left right : Gate}
    (htwins : GateTwins key account left right) (acct : AccountMeta) :
    Agrees (GateTwins key account)
      (gateStep runtime vaultKey sessionKey now left acct)
      (gateStep runtime vaultKey sessionKey now right acct) := by
  obtain ⟨hsession, rfl⟩ := htwins
  by_cases hkey : acct.key = key
  · apply Agrees.of_fails
    · intro after
      apply gateStep_refused hfree hshell hkey
      intro found hfound
      exact Option.some.inj (hfound.symm.trans hsession)
    · intro after
      apply gateStep_refused hfree hshell hkey
      intro found hfound
      rw [State.session?, State.view_close, if_pos rfl] at hfound
      cases hfound
  · have htwins : Twins key account left.state (left.state.close key) :=
      .inr ⟨hsession, rfl⟩
    unfold gateStep
    refine Agrees.bind_self fun _ _ => Agrees.bind_self fun _ _ => ?_
    simp only [htwins.session hkey]
    refine Agrees.bind_self fun sib _ => ?_
    refine Agrees.bind_self fun _ _ => Agrees.bind_self fun _ _ => ?_
    by_cases hlive : now < sib.session.expiresAt
    · simp only [if_pos hlive]
      refine Agrees.bind_self fun _ _ => Agrees.bind_self fun _ _ => ?_
      exact Agrees.pure ⟨hsession, rfl⟩
    · simp only [if_neg hlive]
      refine Agrees.bind_self fun _ _ => Agrees.bind_self fun _ _ => ?_
      refine Agrees.pure ⟨?_, ?_⟩
      · rw [State.session?, State.view_write, if_neg (Ne.symm hkey)]
        exact hsession
      · rw [write_close hkey]

theorem overcommitGate_agrees (hfree : runtime.CollisionFree)
    (hshell : Shell runtime key account origin) (accts : List AccountMeta) :
    Agrees (GateTwins key account)
      (overcommitGate runtime vaultKey sessionKey now accts origin)
      (overcommitGate runtime vaultKey sessionKey now accts
        (origin.close key)) := by
  have hstart : GateTwins key account (Gate.start origin)
      (Gate.start (origin.close key)) := ⟨hshell.sessionAt, rfl⟩
  exact Agrees.foldlM hstart fun acct _ _ htwins =>
    gateStep_agrees hfree hshell htwins acct

end Gates

/-! ## Instructions

The checks between the loads and the writes look at loaded values only, so they
are the same computation on both sides. -/

section Instructions

variable {runtime : Runtime} {context : Context} {key : Pubkey}
  {account : SessionAccount} {left right : State}

/-- What a registration makes of the account it finds. -/
def SameRegistration (found other : SessionAccount) : Prop :=
  found.version = other.version ∧ ∀ bump vaultKey args,
    writtenSession found bump vaultKey args =
      writtenSession other bump vaultKey args

theorem sameRegistration_of_cleared {found other : SessionAccount}
    (hfound : found.version = 0) (hother : other.version = 0) :
    SameRegistration found other := by
  refine ⟨hfound.trans hother.symm, fun bump vaultKey args => ?_⟩
  rw [writtenSession, writtenSession, if_pos hfound, if_pos hother]

/-- A registration finds a cleared account or creates one: it is a first touch
either way. -/
theorem loadSession_agrees (hshell : Shell runtime key account left)
    (sessionKey : Pubkey) :
    Agrees SameRegistration
      (loadOrInit Account.session? SessionAccount.zeroed left sessionKey)
      (loadOrInit Account.session? SessionAccount.zeroed (left.close key)
        sessionKey) := by
  by_cases hkey : sessionKey = key
  · subst hkey
    have hleft : loadOrInit Account.session? SessionAccount.zeroed left
        sessionKey = .ok account :=
      loadOrInit_eq_ok_iff.mpr (.inr hshell.sessionAt)
    have hright : loadOrInit Account.session? SessionAccount.zeroed
        (left.close sessionKey) sessionKey = .ok SessionAccount.zeroed := by
      refine loadOrInit_eq_ok_iff.mpr (.inl ⟨?_, rfl⟩)
      rw [lookup_close, if_pos rfl]
    rw [hleft, hright]
    exact Agrees.pure (sameRegistration_of_cleared hshell.cleared rfl)
  · have hsame := hshell.twins.loadOrInit hkey Account.session?
      SessionAccount.zeroed
    constructor
    · intro found hok
      exact ⟨found, (hsame found).mp hok, rfl, fun _ _ _ => rfl⟩
    · exact fun found hok => ⟨found, (hsame found).mpr hok⟩

theorem registerSessionKey_agrees (hfree : runtime.CollisionFree)
    (hshell : Shell runtime key account left) (accounts : RegisterSessionKey)
    (args : RegisterSessionKeyArgs) :
    Agrees (Twins key account)
      (registerSessionKey runtime context accounts args left)
      (registerSessionKey runtime context accounts args (left.close key)) := by
  unfold registerSessionKey
  refine Agrees.bind_same (hshell.twins.loadVault _) fun vault _ => ?_
  simp only [← hshell.twins.loadTokenAccount]
  refine Agrees.bind_self fun vaultUsdcAta _ => ?_
  refine (loadSession_agrees hshell _).bind fun found other _ hsame => ?_
  obtain ⟨hversion, hwritten⟩ := hsame
  simp only [← hversion, ← hwritten]
  -- up to the gate
  repeat refine Agrees.bind_self fun _ _ => ?_
  refine (overcommitGate_agrees hfree hshell _).bind fun gate _ _ hgate => ?_
  obtain ⟨hsession, rfl⟩ := hgate
  have hswept : Twins key account gate.state (gate.state.close key) :=
    .inr ⟨hsession, rfl⟩
  -- from the gate to the writes
  repeat refine Agrees.bind_self fun _ _ => ?_
  exact Agrees.pure ((hswept.write _ _).write _ _)

theorem initializeVault_agrees (hfree : runtime.CollisionFree)
    (hshell : Shell runtime key account left) (accounts : InitializeVault)
    (args : InitializeVaultArgs) :
    Agrees (Twins key account)
      (initializeVault runtime context accounts args left)
      (initializeVault runtime context accounts args (left.close key)) := by
  by_cases hkey : accounts.vault = key
  · have hrefused : ∀ state next,
        initializeVault runtime context accounts args state ≠ .ok next :=
      fun state next hok => hshell.not_site hfree (by decide)
        (hkey ▸ initializeVault_site hok)
    exact Agrees.of_fails (hrefused left) (hrefused _)
  · unfold initializeVault
    rw [hshell.twins.requireVacant hkey]
    repeat refine Agrees.bind_self fun _ _ => ?_
    exact Agrees.pure (hshell.twins.write _ _)

theorem setStandbyReserve_agrees (hfree : runtime.CollisionFree)
    (hshell : Shell runtime key account left) (accounts : SetStandbyReserve)
    (args : SetStandbyReserveArgs) :
    Agrees (Twins key account)
      (setStandbyReserve runtime context accounts args left)
      (setStandbyReserve runtime context accounts args (left.close key)) := by
  by_cases hkey : accounts.standbyBacker = key
  · have hrefused : ∀ state next,
        setStandbyReserve runtime context accounts args state ≠ .ok next := by
      intro state next hok
      obtain ⟨_, _, hset, -⟩ := setStandbyReserve_ok hok
      have hat : Site.ledger.At runtime accounts.standbyBacker :=
        .of_find hset.canonical
      exact hshell.not_site hfree (by decide) (hkey ▸ hat)
    exact Agrees.of_fails (hrefused left) (hrefused _)
  · refine Agrees.bind_self fun _ _ => ?_
    refine Agrees.bind_same (hshell.twins.loadOrInit hkey _ _) fun found _ => ?_
    repeat refine Agrees.bind_self fun _ _ => ?_
    exact Agrees.pure (hshell.twins.write _ _)

/-- No migration carries a session to the address: the account stands there, or
its vault is migrated already. -/
theorem migrateV5ToV6WithSession_agrees (hfree : runtime.CollisionFree)
    (hshell : Shell runtime key account left)
    (accounts : MigrateV5ToV6WithSession) (args : MigrateV5ToV6WithSessionArgs) :
    Agrees (Twins key account)
      (migrateV5ToV6WithSession runtime context accounts args left)
      (migrateV5ToV6WithSession runtime context accounts args
        (left.close key)) := by
  have htwins := hshell.twins
  by_cases hkey : accounts.session = key
  · have hrefused : ∀ state next,
        state.vaultV5? accounts.vault = left.vaultV5? accounts.vault →
        migrateV5ToV6WithSession runtime context accounts args state ≠
          .ok next := by
      intro state next hsame hok
      obtain ⟨v5, _, _, hmigrated, -⟩ := migrateV5ToV6WithSession_ok hok
      have haddress := Runtime.create_of_find hmigrated.canonical
      have hnone := hshell.not_image hfree (hkey ▸ haddress)
      rw [← hsame, hmigrated.imageAt] at hnone
      cases hnone
    exact Agrees.of_fails (fun next => hrefused left next rfl)
      fun next => hrefused _ next (congrFun (htwins.view fun _ => rfl) _)
  · unfold migrateV5ToV6WithSession
    simp only [htwins.requireVacant hkey, htwins.loadVaultV5]
    repeat refine Agrees.bind_self fun _ _ => ?_
    exact Agrees.pure ((htwins.write _ _).write _ _)

theorem settleVoucher_agrees (hshell : Shell runtime key account left)
    (accounts : SettleVoucher) (args : SettleVoucherArgs)
    (hopen : accounts.session = some key → args.increment = true) :
    Agrees (Twins key account)
      (settleVoucher runtime context accounts args left)
      (settleVoucher runtime context accounts args (left.close key)) := by
  have htwins := hshell.twins
  by_cases hkey : accounts.session = some key
  · have hincrement := hopen hkey
    exact Agrees.of_fails
      (fun next => settleVoucher_refused hincrement hkey hshell.dormant)
      fun next => settleVoucher_refused hincrement hkey dormant_close
  · have hpassed : ∀ passed,
        loadOptionalSession runtime accounts.vault args.allowedCounterparty left
            accounts.session = .ok passed ↔
          loadOptionalSession runtime accounts.vault args.allowedCounterparty
            (left.close key) accounts.session = .ok passed := by
      intro passed
      cases hsession : accounts.session with
      | none => exact Iff.rfl
      | some found =>
          have hne : found ≠ key := fun hsame => hkey (hsame ▸ hsession)
          simp only [loadOptionalSession, bind_eq_ok_iff,
            htwins.loadSession hne]
    refine Agrees.bind_same (htwins.loadVault _) fun vault _ => ?_
    refine Agrees.bind_self fun _ _ => ?_
    refine Agrees.bind_same hpassed fun passed _ => ?_
    refine Agrees.bind_self fun _ _ => ?_
    by_cases hincrement : args.increment = true
    · simp only [if_pos hincrement]
      repeat refine Agrees.bind_self fun _ _ => ?_
      exact Agrees.pure ((htwins.write _ _).write _ _)
    · simp only [if_neg hincrement]
      refine Agrees.bind_self fun _ _ => ?_
      exact Agrees.pure (htwins.write _ _)

theorem revokeSessionKey_agrees (hshell : Shell runtime key account left)
    (accounts : RevokeSessionKey) (args : RevokeSessionKeyArgs) :
    Agrees (Twins key account)
      (revokeSessionKey runtime context accounts args left)
      (revokeSessionKey runtime context accounts args (left.close key)) := by
  have htwins := hshell.twins
  by_cases hkey : accounts.session = key
  · subst hkey
    exact Agrees.of_fails (fun _ => revokeSessionKey_refused hshell.dormant)
      fun _ => revokeSessionKey_refused dormant_close
  · refine Agrees.bind_same (htwins.loadVault _) fun vault _ => ?_
    refine Agrees.bind_same (htwins.loadSession hkey) fun session _ => ?_
    repeat refine Agrees.bind_self fun _ _ => ?_
    exact Agrees.pure ((htwins.write _ _).write _ _)

theorem settleTabVoucher_agrees (hshell : Shell runtime key account left)
    (accounts : SettleTabVoucher) (args : SettleTabVoucherArgs) :
    Agrees (Twins key account)
      (settleTabVoucher runtime context accounts args left)
      (settleTabVoucher runtime context accounts args (left.close key)) := by
  have htwins := hshell.twins
  by_cases hkey : accounts.session = key
  · subst hkey
    exact Agrees.of_fails (fun _ => settleTabVoucher_refused hshell.dormant)
      fun _ => settleTabVoucher_refused dormant_close
  · refine Agrees.bind_same (htwins.loadVault _) fun vault _ => ?_
    refine Agrees.bind_same (htwins.loadSession hkey) fun session _ => ?_
    repeat refine Agrees.bind_self fun _ _ => ?_
    exact Agrees.pure ((htwins.write _ _).write _ _)

theorem lockVoucher_agrees (hfree : runtime.CollisionFree)
    (hshell : Shell runtime key account left) (accounts : LockVoucher)
    (args : LockVoucherArgs) :
    Agrees (Twins key account) (lockVoucher runtime context accounts args left)
      (lockVoucher runtime context accounts args (left.close key)) := by
  have htwins := hshell.twins
  by_cases hkey : accounts.session = key
  · subst hkey
    exact Agrees.of_fails (fun _ => lockVoucher_refused hshell.dormant)
      fun _ => lockVoucher_refused dormant_close
  by_cases hclaim : accounts.claim = key
  · have hrefused : ∀ state next,
        lockVoucher runtime context accounts args state ≠ .ok next := by
      intro state next hok
      obtain ⟨bump, hcanonical⟩ := lockVoucher_canonical hok
      have hat : Site.claim.At runtime accounts.claim := .of_find hcanonical
      exact hshell.not_site hfree (by decide) (hclaim ▸ hat)
    exact Agrees.of_fails (hrefused left) (hrefused _)
  · unfold lockVoucher
    simp only [htwins.requireVacant hclaim, htwins.loadTokenAccount]
    refine Agrees.bind_same (htwins.loadVault _) fun vault _ => ?_
    refine Agrees.bind_self fun vaultUsdcAta _ => ?_
    refine Agrees.bind_same (htwins.loadSession hkey) fun session _ => ?_
    repeat refine Agrees.bind_self fun _ _ => ?_
    exact Agrees.pure (((htwins.write _ _).write _ _).write _ _)

theorem closeSession_agrees (htwins : Twins key account left right)
    (accounts : CloseSession) (args : CloseSessionArgs)
    (hkey : accounts.session ≠ key) :
    Agrees (Twins key account)
      (closeSession runtime context accounts args left)
      (closeSession runtime context accounts args right) := by
  refine Agrees.bind_same (htwins.loadVault _) fun vault _ => ?_
  refine Agrees.bind_same (htwins.loadSession hkey) fun session _ => ?_
  repeat refine Agrees.bind_self fun _ _ => ?_
  exact Agrees.pure (htwins.close hkey)

/-- The calls that do not ask whether the account at `key` exists: all but its
closing and the close of a tab that names it. -/
def Neutral (key : Pubkey) : Call → Prop
  | .closeSession _ accounts _ => accounts.session ≠ key
  | .settleVoucher _ accounts args =>
      accounts.session = some key → args.increment = true
  | _ => True

/-- Every other call succeeds with the cleared account exactly when it succeeds
without it, one case for each instruction. -/
theorem step_agrees (hfree : runtime.CollisionFree)
    (hshell : Shell runtime key account left) {call : Call}
    (hneutral : Neutral key call) :
    Agrees (Twins key account) (step runtime left call)
      (step runtime (left.close key) call) := by
  have htwins := hshell.twins
  cases call with
  | initializeVault => exact initializeVault_agrees hfree hshell _ _
  | settleVoucher => exact settleVoucher_agrees hshell _ _ hneutral
  | registerSessionKey => exact registerSessionKey_agrees hfree hshell _ _
  | revokeSessionKey => exact revokeSessionKey_agrees hshell _ _
  | settleTabVoucher => exact settleTabVoucher_agrees hshell _ _
  | migrateV5ToV6WithSession =>
      exact migrateV5ToV6WithSession_agrees hfree hshell _ _
  | lockVoucher => exact lockVoucher_agrees hfree hshell _ _
  | setStandbyReserve => exact setStandbyReserve_agrees hfree hshell _ _
  | closeSession => exact closeSession_agrees htwins _ _ hneutral
  | setSwig | setSwigAtomic | requestWithdrawal | forceRelease | rotatePasskey
  | rotateDexterAuthority | drawCredit | repayCredit | seizeCollateral =>
      refine Agrees.bind_same (htwins.loadVault _) fun vault _ => ?_
      repeat refine Agrees.bind_self fun _ _ => ?_
      exact Agrees.pure (htwins.write _ _)
  | provePasskey =>
      refine Agrees.bind_same (htwins.loadVault _) fun vault _ => ?_
      repeat refine Agrees.bind_self fun _ _ => ?_
      exact Agrees.pure htwins
  | finalizeWithdrawal =>
      refine Agrees.bind_same (htwins.loadVault _) fun vault _ => ?_
      simp only [htwins.loadTokenAccount]
      repeat refine Agrees.bind_self fun _ _ => ?_
      exact Agrees.pure (htwins.write _ _)
  | migrateV5ToV6 =>
      refine Agrees.bind_self fun _ _ => Agrees.bind_self fun _ _ => ?_
      simp only [htwins.loadVaultV5]
      repeat refine Agrees.bind_self fun _ _ => ?_
      exact Agrees.pure (htwins.write _ _)
  | transferLockOwnership =>
      refine Agrees.bind_same (htwins.loadClaim _) fun claim _ => ?_
      repeat refine Agrees.bind_self fun _ _ => ?_
      exact Agrees.pure (htwins.write _ _)
  | settleLockedVoucher | recoverAbandonedLock =>
      refine Agrees.bind_same (htwins.loadClaim _) fun claim _ => ?_
      refine Agrees.bind_same (htwins.loadVault _) fun vault _ => ?_
      repeat refine Agrees.bind_self fun _ _ => ?_
      exact Agrees.pure ((htwins.write _ _).write _ _)
  | openStandby | closeStandby =>
      refine Agrees.bind_same (htwins.loadVault _) fun vault _ => ?_
      refine Agrees.bind_same (htwins.loadStandbyBacker _) fun backer _ => ?_
      repeat refine Agrees.bind_self fun _ _ => ?_
      exact Agrees.pure ((htwins.write _ _).write _ _)

end Instructions

end DexterVault.Closing
