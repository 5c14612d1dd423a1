import DexterVault.Accounting.Sessions

/-!
# The count of registered sessions

`live_session_count` is the number of registered session accounts of the vault.
Registration, replacement, sweep, revocation and migration each move the count
and the set together, provided that a registration lists no cleared account
among the siblings it sweeps.
-/

namespace DexterVault.SessionCount

open Function
open DexterVault.Machine
open DexterVault.Framing
open DexterVault.Accounts
open DexterVault.Execution
open DexterVault.Transition
open DexterVault.Session
open DexterVault.Gate
open DexterVault.Voucher
open DexterVault.Migration
open DexterVault.Program
open DexterVault.Sessions

variable {runtime : Runtime} {key vaultKey : Pubkey}

/-! ## The registered accounts of a vault -/

/-- What is found at an address is a registered session of the vault. -/
def RegisteredFor (vaultKey : Pubkey) (found : Option SessionAccount) : Prop :=
  ∃ account ∈ found, account.version ≠ 0 ∧ account.vault = vaultKey

instance (vaultKey : Pubkey) (found : Option SessionAccount) :
    Decidable (RegisteredFor vaultKey found) :=
  inferInstanceAs (Decidable (∃ account ∈ found, _))

/-- The addresses of the vault's session accounts with a version other than
zero. -/
def registeredKeys (state : State) (vaultKey : Pubkey) : Finset Pubkey :=
  state.accounts.keys.filter fun key =>
    RegisteredFor vaultKey (state.session? key)

@[simp]
theorem not_registeredFor_none : ¬ RegisteredFor vaultKey none := by
  rintro ⟨account, hmem, -⟩
  cases hmem

@[simp]
theorem registeredFor_some {account : SessionAccount} :
    RegisteredFor vaultKey (some account) ↔
      account.version ≠ 0 ∧ account.vault = vaultKey := by
  simp [RegisteredFor]

theorem not_registeredFor_clear (account : SessionAccount) :
    ¬ RegisteredFor vaultKey (some account.clear) := by
  rw [registeredFor_some]
  exact fun hregistered => hregistered.1 rfl

theorem mem_registeredKeys {state : State} :
    key ∈ registeredKeys state vaultKey ↔
      RegisteredFor vaultKey (state.session? key) := by
  rw [registeredKeys, Finset.mem_filter, and_iff_right_iff_imp]
  rintro ⟨account, hmem, -⟩
  have hlookup := State.lookup_of_session? hmem
  rw [Finmap.mem_keys]
  exact Finmap.mem_of_lookup_eq_some hlookup

theorem registeredKeys_congr {before after : State}
    (hsame : after.session? = before.session?) (vaultKey : Pubkey) :
    registeredKeys after vaultKey = registeredKeys before vaultKey := by
  ext key
  rw [mem_registeredKeys, mem_registeredKeys, hsame]

/-- Writing one session account puts its address into the set or takes it
out. -/
theorem registeredKeys_update {before after : State}
    {value : Option SessionAccount}
    (hsessions : after.session? = update before.session? key value)
    (vaultKey : Pubkey) :
    registeredKeys after vaultKey =
      if RegisteredFor vaultKey value then
        insert key (registeredKeys before vaultKey)
      else
        (registeredKeys before vaultKey).erase key := by
  ext other
  rw [mem_registeredKeys, hsessions]
  by_cases hother : other = key
  · subst hother
    rw [update_self]
    split <;> simp [*]
  · rw [update_of_ne hother, ← mem_registeredKeys]
    split <;> simp [hother]

/-- Overwriting the registration of an account moves nothing. -/
theorem registeredKeys_overwrite {before after : State}
    {account : SessionAccount} {session : SessionRegistration}
    (haccount : before.session? key = some account)
    (hsessions : after.session? = update before.session? key
      (some { account with session := session })) (vaultKey : Pubkey) :
    registeredKeys after vaultKey = registeredKeys before vaultKey := by
  have hsame : RegisteredFor vaultKey (some { account with session := session })
      ↔ key ∈ registeredKeys before vaultKey := by
    rw [mem_registeredKeys, haccount, registeredFor_some, registeredFor_some]
  rw [registeredKeys_update hsessions]
  split
  · next hregistered => exact Finset.insert_eq_of_mem (hsame.mp hregistered)
  · next hregistered =>
      exact Finset.erase_eq_of_notMem fun hmem => hregistered (hsame.mpr hmem)

/-! ## The invariant -/

/-- The count of every vault is the number of its registered sessions, and
every registered session belongs to a vault. -/
structure CountExact (state : State) : Prop where
  exact : ∀ vaultKey ledger, state.ledger? vaultKey = some ledger →
    ledger.liveSessionCount.val = (registeredKeys state vaultKey).card
  housed : ∀ vaultKey, state.ledger? vaultKey = none →
    registeredKeys state vaultKey = ∅

/-- A registration lists no cleared account as a sibling. -/
def ListsRegistered (accepted : Accepted State Call) : Prop :=
  ∀ registration ∈ accepted.call.registration,
    ∀ key ∈ siblingKeys registration.accounts,
      ∀ account ∈ accepted.before.session? key, account.version ≠ 0

instance (accepted : Accepted State Call) :
    Decidable (ListsRegistered accepted) :=
  inferInstanceAs (Decidable (∀ registration ∈ accepted.call.registration,
    ∀ key ∈ siblingKeys registration.accounts,
      ∀ account ∈ accepted.before.session? key, _))

/-- Every session account stands at an address derived from its vault. -/
def AllSited (runtime : Runtime) (state : State) : Prop :=
  ∀ key account, state.session? key = some account →
    Sited runtime (fun _ => True) key account

/-- An account at an address derived from a vault is one of that vault. -/
theorem vault_of_address (hfree : runtime.CollisionFree) {state : State}
    (hsited : AllSited runtime state) {account : SessionAccount}
    (haccount : state.session? key = some account) {counterparty : Pubkey}
    {bump : U8} (haddress : SessionAddress runtime vaultKey counterparty bump key) :
    account.vault = vaultKey := by
  obtain ⟨_, -, hown, -⟩ := hsited key account haccount
  exact (hown.unique hfree haddress).1

/-- An account found at the canonical address of a vault is registered for it
exactly when its version is not zero. -/
theorem found_mem_iff (hfree : runtime.CollisionFree) {state : State}
    (hsited : AllSited runtime state) {session : SessionAccount}
    (hfound : FoundSession state key session) {counterparty : Pubkey} {bump : U8}
    (hcanonical : runtime.findProgramAddress (sessionSeeds vaultKey counterparty)
      programId = some (key, bump)) :
    key ∈ registeredKeys state vaultKey ↔ session.version ≠ 0 := by
  rw [mem_registeredKeys]
  rcases hfound with ⟨hvacant, rfl⟩ | hstored
  · have hnone : state.session? key = none := State.view_of_lookup_none hvacant
    simp [hnone, SessionAccount.zeroed]
  · rw [hstored, registeredFor_some, vault_of_address hfree hsited hstored
      (Runtime.create_of_find hcanonical)]
    exact and_iff_left rfl

section Steps

variable {before after : State}

/-- A change that moves no vault and no registered account. -/
theorem CountExact.same (hexact : CountExact before)
    (hledgers : after.ledger? = before.ledger?)
    (hkeys : ∀ vaultKey,
      registeredKeys after vaultKey = registeredKeys before vaultKey) :
    CountExact after := by
  constructor
  case exact =>
    intro vaultKey ledger hledger
    rw [hledgers] at hledger
    rw [hkeys]
    exact hexact.exact vaultKey ledger hledger
  case housed =>
    intro vaultKey hnone
    rw [hledgers] at hnone
    rw [hkeys]
    exact hexact.housed vaultKey hnone

/-- A change of one vault, whose count follows the set of its registered
accounts. -/
theorem CountExact.move (hexact : CountExact before) {ledger : VaultLedger}
    (hledgers : after.ledger? = update before.ledger? vaultKey (some ledger))
    (hcount : ledger.liveSessionCount.val =
      (registeredKeys after vaultKey).card)
    (hothers : ∀ other ≠ vaultKey,
      registeredKeys after other = registeredKeys before other) :
    CountExact after := by
  constructor
  case exact =>
    intro other found hfound
    rw [hledgers] at hfound
    by_cases hother : other = vaultKey
    · subst hother
      rw [update_self] at hfound
      rw [← Option.some.inj hfound]
      exact hcount
    · rw [update_of_ne hother] at hfound
      rw [hothers other hother]
      exact hexact.exact other found hfound
  case housed =>
    intro other hnone
    rw [hledgers] at hnone
    by_cases hother : other = vaultKey
    · subst hother
      rw [update_self] at hnone
      cases hnone
    · rw [update_of_ne hother] at hnone
      rw [hothers other hother]
      exact hexact.housed other hnone

/-- A write to the ledger of a vault that keeps the count. -/
theorem CountExact.write (hexact : CountExact before)
    {ledger written : VaultLedger}
    (hledger : before.ledger? vaultKey = some ledger)
    (hledgers : after.ledger? = update before.ledger? vaultKey (some written))
    (hcount : written.liveSessionCount = ledger.liveSessionCount)
    (hkeys : ∀ vaultKey,
      registeredKeys after vaultKey = registeredKeys before vaultKey) :
    CountExact after := by
  refine hexact.move hledgers ?_ fun other _ => hkeys other
  rw [hcount, hkeys]
  exact hexact.exact vaultKey ledger hledger

end Steps

/-! ## Registration and sweep -/

section Registration

variable {context : Context} {accounts : RegisterSessionKey}
  {args : RegisterSessionKeyArgs} {before after : State} {vault : Vault}
  {ata : TokenAccount} {session : SessionAccount} {bump : U8} {gate : Gate}

theorem siblingKeys_nodup (hregistered : Registered runtime context accounts
    args before vault ata session bump gate) : (siblingKeys accounts).Nodup :=
  hregistered.sorted.imp fun hlt => hlt.ne

theorem sibling_of_mem (hregistered : Registered runtime context accounts args
    before vault ata session bump gate) (hkey : key ∈ siblingKeys accounts) :
    ∃ sibling, IsSibling runtime accounts.vault accounts.session before key
      sibling := by
  obtain ⟨acct, hacct, rfl⟩ := List.mem_map.mp hkey
  obtain ⟨sibling, hsibling, -⟩ := hregistered.run.siblings acct hacct
  exact ⟨sibling, hsibling⟩

/-- Every listed sibling is a registered session of the vault. -/
theorem sibling_registered (hregistered : Registered runtime context accounts
    args before vault ata session bump gate)
    (hlisted : ListsRegistered
      ⟨before, .registerSessionKey context accounts args, after⟩)
    (hkey : key ∈ siblingKeys accounts) :
    key ∈ (registeredKeys before accounts.vault).erase accounts.session := by
  obtain ⟨sibling, hsibling⟩ := sibling_of_mem hregistered hkey
  rw [Finset.mem_erase, mem_registeredKeys, hsibling.sessionAt,
    registeredFor_some]
  exact ⟨hsibling.notTarget, hlisted _ rfl key hkey sibling hsibling.sessionAt,
    hsibling.sameVault⟩

/-- A stored account at the address of the registration belongs to the
vault. -/
theorem found_vault (hfree : runtime.CollisionFree)
    (hsited : AllSited runtime before) (hregistered : Registered runtime context
      accounts args before vault ata session bump gate)
    (hstored : before.session? accounts.session = some session) :
    session.vault = accounts.vault :=
  vault_of_address hfree hsited hstored
    (Runtime.create_of_find hregistered.canonical)

theorem writtenSession_vault (hfree : runtime.CollisionFree)
    (hsited : AllSited runtime before) (hregistered : Registered runtime context
      accounts args before vault ata session bump gate) :
    (writtenSession session bump accounts.vault args).vault = accounts.vault := by
  unfold writtenSession
  split
  · rfl
  · next hversion =>
      have hstored := session?_of_found hregistered.found hversion
      exact (found_vault hfree hsited hregistered hstored :)

/-- An accepted registration lists exactly the other registered sessions of the
vault: the count leaves no room for fewer. -/
theorem siblings_complete (hfree : runtime.CollisionFree)
    (hsited : AllSited runtime before) (hexact : CountExact before)
    (hregistered : Registered runtime context accounts args before vault ata
      session bump gate)
    (hlisted : ListsRegistered
      ⟨before, .registerSessionKey context accounts args, after⟩) :
    (siblingKeys accounts).toFinset =
      (registeredKeys before accounts.vault).erase accounts.session := by
  have hsubset : (siblingKeys accounts).toFinset ⊆
      (registeredKeys before accounts.vault).erase accounts.session := by
    intro key hkey
    exact sibling_registered hregistered hlisted (List.mem_toFinset.mp hkey)
  have hcount := hexact.exact _ _ (State.ledger?_of_vault? hregistered.vaultAt)
  have hcomplete := hregistered.complete
  have hlength : (siblingKeys accounts).length =
      gate.liveCounted.val + gate.swept.val := hregistered.run.length_eq
  have htarget := found_mem_iff hfree hsited hregistered.found
    hregistered.canonical
  apply Finset.eq_of_subset_of_card_le hsubset
  rw [List.toFinset_card_of_nodup (siblingKeys_nodup hregistered), hlength]
  have hledger : vault.ledger.liveSessionCount = vault.liveSessionCount := rfl
  rw [hledger] at hcount
  by_cases hversion : session.version = 0
  · rw [if_pos hversion] at hcomplete
    have hle := Finset.card_erase_le (s := registeredKeys before accounts.vault)
      (a := accounts.session)
    omega
  · rw [if_neg hversion] at hcomplete
    rw [Finset.card_erase_of_mem (htarget.mpr hversion)]
    omega

/-- The registered accounts of the vault after the registration: the expired
siblings leave the set, the target is in it. -/
theorem registeredKeys_register (hfree : runtime.CollisionFree)
    (hsited : AllSited runtime before)
    (hregistered : Registered runtime context accounts args before vault ata
      session bump gate)
    (hsessions : after.session? = update
      (sweptSessions before.session? (expiredKeys context.unixTimestamp before
        (siblingKeys accounts)))
      accounts.session
      (some (writtenSession session bump accounts.vault args))) :
    registeredKeys after accounts.vault = insert accounts.session
      (registeredKeys before accounts.vault \
        (expiredKeys context.unixTimestamp before
          (siblingKeys accounts)).toFinset) := by
  ext key
  rw [mem_registeredKeys, hsessions, Finset.mem_insert, Finset.mem_sdiff,
    List.mem_toFinset]
  by_cases hkey : key = accounts.session
  · subst hkey
    rw [update_self, registeredFor_some,
      writtenSession_vault hfree hsited hregistered]
    simp [writtenSession_registered]
  · rw [update_of_ne hkey, sweptSessions, mem_registeredKeys]
    by_cases hexpired : key ∈ expiredKeys context.unixTimestamp before
        (siblingKeys accounts)
    · cases hbefore : before.session? key with
      | none => simp [hkey, hexpired]
      | some account =>
          simp [hkey, hexpired, SessionAccount.clear]
    · simp [hkey, hexpired]

/-- The accounts of the other vaults are not concerned. -/
theorem registeredKeys_register_other (hfree : runtime.CollisionFree)
    (hsited : AllSited runtime before)
    (hregistered : Registered runtime context accounts args before vault ata
      session bump gate)
    (hsessions : after.session? = update
      (sweptSessions before.session? (expiredKeys context.unixTimestamp before
        (siblingKeys accounts)))
      accounts.session
      (some (writtenSession session bump accounts.vault args)))
    {other : Pubkey} (hother : other ≠ accounts.vault) :
    registeredKeys after other = registeredKeys before other := by
  ext key
  rw [mem_registeredKeys, hsessions, mem_registeredKeys]
  by_cases hkey : key = accounts.session
  · subst hkey
    rw [update_self, registeredFor_some,
      writtenSession_vault hfree hsited hregistered]
    rcases hregistered.found with ⟨hvacant, -⟩ | hstored
    · have hnone : before.session? accounts.session = none :=
        State.view_of_lookup_none hvacant
      simp [hnone, hother.symm]
    · rw [hstored, registeredFor_some,
        found_vault hfree hsited hregistered hstored]
      simp [hother.symm]
  · rw [update_of_ne hkey, sweptSessions]
    split
    · next hexpired =>
        have hlisted : key ∈ siblingKeys accounts := List.mem_of_mem_filter hexpired
        obtain ⟨sibling, hsibling⟩ := sibling_of_mem hregistered hlisted
        rw [hsibling.sessionAt, Option.map_some]
        simp [hother.symm, SessionAccount.clear, hsibling.sameVault]
    · exact Iff.rfl

/-- The count after the registration is the number of registered accounts. -/
theorem card_registeredKeys_register (hfree : runtime.CollisionFree)
    (hsited : AllSited runtime before) (hexact : CountExact before)
    (hregistered : Registered runtime context accounts args before vault ata
      session bump gate)
    (hlisted : ListsRegistered
      ⟨before, .registerSessionKey context accounts args, after⟩)
    {count : U8} (hcount : count.val + gate.swept.val =
      vault.liveSessionCount.val + (if session.version = 0 then 1 else 0)) :
    count.val = (insert accounts.session
      (registeredKeys before accounts.vault \
        (expiredKeys context.unixTimestamp before
          (siblingKeys accounts)).toFinset)).card := by
  have hbefore : vault.liveSessionCount.val =
      (registeredKeys before accounts.vault).card :=
    hexact.exact _ _ (State.ledger?_of_vault? hregistered.vaultAt)
  have hexpired : ∀ key ∈ expiredKeys context.unixTimestamp before
      (siblingKeys accounts), key ∈ registeredKeys before accounts.vault ∧
        key ≠ accounts.session := by
    intro key hkey
    have hmem := sibling_registered hregistered hlisted
      (List.mem_of_mem_filter hkey)
    rw [Finset.mem_erase] at hmem
    exact hmem.symm
  have hsubset : (expiredKeys context.unixTimestamp before
      (siblingKeys accounts)).toFinset ⊆
        registeredKeys before accounts.vault := fun key hkey =>
    (hexpired key (List.mem_toFinset.mp hkey)).1
  have hkept : accounts.session ∉ (expiredKeys context.unixTimestamp before
      (siblingKeys accounts)).toFinset := fun hkey =>
    (hexpired _ (List.mem_toFinset.mp hkey)).2 rfl
  have hswept : (expiredKeys context.unixTimestamp before
      (siblingKeys accounts)).toFinset.card = gate.swept.val := by
    have hnodup : (expiredKeys context.unixTimestamp before
        (siblingKeys accounts)).Nodup := (siblingKeys_nodup hregistered).filter _
    rw [List.toFinset_card_of_nodup hnodup, hregistered.run.swept]
    simp [Gate.start, siblingKeys]
  have hcard := Finset.card_sdiff_add_card_eq_card hsubset
  have htarget := found_mem_iff hfree hsited hregistered.found
    hregistered.canonical
  rw [hswept] at hcard
  by_cases hversion : session.version = 0
  · have hnew : accounts.session ∉ registeredKeys before accounts.vault :=
      fun hmem => htarget.mp hmem hversion
    rw [if_pos hversion] at hcount
    rw [Finset.card_insert_of_notMem fun hmem =>
      hnew (Finset.mem_sdiff.mp hmem).1]
    omega
  · have hstays : accounts.session ∈ registeredKeys before accounts.vault \
        (expiredKeys context.unixTimestamp before
          (siblingKeys accounts)).toFinset :=
      Finset.mem_sdiff.mpr ⟨htarget.mpr hversion, hkept⟩
    rw [if_neg hversion] at hcount
    rw [Finset.insert_eq_of_mem hstays]
    omega

end Registration

/-! ## Every accepted call -/

section Steps

variable {before after : State} {call : Call}

/-- Clearing or removing an account takes its address out of the set. -/
theorem registeredKeys_remove {value : Option SessionAccount}
    (hvalue : ∀ vaultKey, ¬ RegisteredFor vaultKey value)
    (hsessions : after.session? = update before.session? key value)
    (vaultKey : Pubkey) :
    registeredKeys after vaultKey = (registeredKeys before vaultKey).erase key := by
  rw [registeredKeys_update hsessions, if_neg (hvalue vaultKey)]

theorem notMem_registeredKeys_of_vault {account : SessionAccount}
    (haccount : before.session? key = some account)
    (hother : account.vault ≠ vaultKey) : key ∉ registeredKeys before vaultKey := by
  rw [mem_registeredKeys, haccount, registeredFor_some]
  exact fun hregistered => hother hregistered.2

/-- A revocation lowers the count by the one account it clears. -/
theorem countExact_revoked (hfree : runtime.CollisionFree)
    (hsited : AllSited runtime before) (hexact : CountExact before)
    {context : Context} {accounts : RevokeSessionKey}
    {args : RevokeSessionKeyArgs} {vault : Vault} {session : SessionAccount}
    {count : U8}
    (hrevoked : Revoked runtime context accounts args before vault session)
    (hcount : vault.liveSessionCount.val = count.val + 1)
    (hviews : HasViews after
      (update before.ledger? accounts.vault
        (some { vault.ledger with liveSessionCount := count }))
      (update before.session? accounts.session (some session.clear))
      before.claim?) : CountExact after := by
  have hvault : session.vault = accounts.vault :=
    vault_of_address hfree hsited hrevoked.sessionAt hrevoked.address
  have hkeys := registeredKeys_remove
    (fun _ => not_registeredFor_clear session) hviews.sessions
  have hbefore : vault.liveSessionCount.val =
      (registeredKeys before accounts.vault).card :=
    hexact.exact _ _ (State.ledger?_of_vault? hrevoked.vaultAt)
  have hmem : accounts.session ∈ registeredKeys before accounts.vault := by
    rw [mem_registeredKeys, hrevoked.sessionAt, registeredFor_some]
    exact ⟨hrevoked.registered, hvault⟩
  apply hexact.move hviews.ledgers
  · change count.val = _
    rw [hkeys, Finset.card_erase_of_mem hmem]
    omega
  · intro other hother
    have hnotMem : accounts.session ∉ registeredKeys before other :=
      notMem_registeredKeys_of_vault hrevoked.sessionAt
        (by rw [hvault]; exact hother.symm)
    rw [hkeys, Finset.erase_eq_of_notMem hnotMem]

/-- A vault that comes out of a V5 image has no registered session yet. -/
theorem countExact_emptyVault (hexact : CountExact before)
    (hvacant : before.ledger? vaultKey = none) {ledger : VaultLedger}
    (hzero : ledger.liveSessionCount = 0)
    (hledgers : after.ledger? = update before.ledger? vaultKey (some ledger))
    (hsessions : after.session? = before.session?) : CountExact after := by
  apply hexact.move hledgers
  · rw [hzero, registeredKeys_congr hsessions, hexact.housed vaultKey hvacant]
    rfl
  · exact fun other _ => registeredKeys_congr hsessions other

/-- A migration that carries a session over counts one. -/
theorem countExact_carried (hexact : CountExact before)
    {accounts : MigrateV5ToV6WithSession} {args : MigrateV5ToV6WithSessionArgs}
    {v5 : VaultV5Reader} {carried : SessionRegistration} {bump : U8}
    (hmigrated : MigratedWithSession runtime accounts args before v5 carried bump)
    (hviews : HasViews after
      (update before.ledger? accounts.vault (some (upgradedVault v5 1).ledger))
      (update before.session? accounts.session
        (some ⟨sessionVersionV1, bump, accounts.vault, carried⟩))
      before.claim?) : CountExact after := by
  have hstamped : sessionVersionV1 ≠ 0 := by decide
  have himage := State.ledger?_of_vaultV5? hmigrated.imageAt
  have hkeys := registeredKeys_update hviews.sessions
  have hnone : before.session? accounts.session = none :=
    State.view_of_lookup_none hmigrated.vacant
  have hown : RegisteredFor accounts.vault
      (some ⟨sessionVersionV1, bump, accounts.vault, carried⟩) :=
    registeredFor_some.mpr ⟨hstamped, rfl⟩
  apply hexact.move hviews.ledgers
  · rw [hkeys, if_pos hown, hexact.housed _ himage,
      insert_empty_eq, Finset.card_singleton]
    rfl
  · intro other hother
    have hnot : ¬ RegisteredFor other
        (some ⟨sessionVersionV1, bump, accounts.vault, carried⟩) := by
      rw [registeredFor_some]
      exact fun hregistered => hother hregistered.2.symm
    have hnotMem : accounts.session ∉ registeredKeys before other := by
      rw [mem_registeredKeys, hnone]
      exact not_registeredFor_none
    rw [hkeys, if_neg hnot, Finset.erase_eq_of_notMem hnotMem]

/-- The step lemma. -/
theorem countExact_step (hfree : runtime.CollisionFree)
    (hsited : AllSited runtime before) (hexact : CountExact before)
    (hlisted : ListsRegistered ⟨before, call, after⟩)
    (hstep : step runtime before call = .ok after) : CountExact after := by
  cases step_change hstep with
  | quiet _ hsame =>
      exact hexact.same hsame.ledgers (registeredKeys_congr hsame.sessions)
  | created hvacant hledger hviews =>
      subst hledger
      exact countExact_emptyVault hexact hvacant rfl hviews.ledgers
        hviews.sessions
  | bound _ hledger _ hviews =>
      exact hexact.write hledger hviews.ledgers rfl
        (registeredKeys_congr hviews.sessions)
  | tabOpened hopened hviews =>
      exact hexact.same hviews.ledgers
        (registeredKeys_overwrite hopened.sessionAt hviews.sessions)
  | tabSettled hsettled hviews =>
      exact hexact.same hviews.ledgers
        (registeredKeys_overwrite hsettled.admitted.sessionAt hviews.sessions)
  | locked hlocked hviews =>
      exact hexact.write (State.ledger?_of_vault? hlocked.vaultAt)
        hviews.ledgers rfl
        (registeredKeys_overwrite hlocked.admitted.sessionAt hviews.sessions)
  | transferred _ hviews =>
      exact hexact.same hviews.ledgers (registeredKeys_congr hviews.sessions)
  | claimSettled hsettled hviews =>
      exact hexact.write (State.ledger?_of_vault? hsettled.vaultAt)
        hviews.ledgers rfl (registeredKeys_congr hviews.sessions)
  | claimRecovered hrecovered hviews =>
      exact hexact.write (State.ledger?_of_vault? hrecovered.vaultAt)
        hviews.ledgers rfl (registeredKeys_congr hviews.sessions)
  | registered hregistered hcount hviews =>
      apply hexact.move hviews.ledgers
      · rw [registeredKeys_register hfree hsited hregistered hviews.sessions]
        exact card_registeredKeys_register hfree hsited hexact hregistered
          hlisted hcount
      · intro other hother
        exact registeredKeys_register_other hfree hsited hregistered
          hviews.sessions hother
  | revoked hrevoked hcount hviews =>
      exact countExact_revoked hfree hsited hexact hrevoked hcount hviews
  | closed hsession hcleared hviews =>
      apply hexact.same hviews.ledgers
      intro vaultKey
      rw [registeredKeys_remove (fun _ => not_registeredFor_none)
        hviews.sessions, Finset.erase_eq_of_notMem]
      rw [mem_registeredKeys, hsession, registeredFor_some]
      exact fun hregistered => hregistered.1 hcleared
  | migrated himage hviews =>
      exact countExact_emptyVault hexact (State.ledger?_of_vaultV5? himage) rfl
        hviews.ledgers hviews.sessions
  | migratedWithSession hmigrated hviews =>
      exact countExact_carried hexact hmigrated hviews

end Steps

theorem countExact_start {state : State} (hstart : OnlyImages state) :
    CountExact state := by
  constructor
  case exact =>
    intro vaultKey ledger hledger
    rw [hstart.1] at hledger
    cases hledger
  case housed =>
    intro vaultKey _
    ext key
    rw [mem_registeredKeys, hstart.2.1]
    simp

theorem allSited_of_run (hfree : runtime.CollisionFree) {start state : State}
    {trace : Trace} (hstart : OnlyImages start)
    (hrun : Run (system runtime) start trace state) : AllSited runtime state :=
  fun _ _ haccount => sited_of_run hfree hstart hrun
    ((guarded_true trace).mono fun _ _ _ _ _ => trivial) haccount

/-- The run lemma: the count is exact as long as no registration lists a
cleared account. -/
theorem countExact_run (hfree : runtime.CollisionFree) {start state : State}
    {trace : Trace} (hstart : OnlyImages start)
    (hrun : Run (system runtime) start trace state)
    (hlisted : Guarded (fun _ => ListsRegistered) trace) : CountExact state := by
  induction hrun with
  | start => exact countExact_start hstart
  | accept hrun hstep ih =>
      exact countExact_step hfree (allSited_of_run hfree hstart hrun)
        (ih hlisted.2) hlisted.1 hstep
  | refuse _ _ ih => exact ih hlisted
  | environment hrun hmove ih =>
      have hviews := environment_views hmove
      exact (ih hlisted).same hviews.ledgers
        (registeredKeys_congr hviews.sessions)

end DexterVault.SessionCount
