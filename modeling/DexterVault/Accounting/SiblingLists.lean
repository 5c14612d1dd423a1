import DexterVault.Accounting.SessionCount

/-!
# The sibling lists a registration accepts

As long as no session is registered for the all-zero counterparty, a cleared
account cannot pass as a sibling and the count is exact.  The gate then accepts
one list only, the other registered sessions of the vault in ascending order,
and never refuses that list for its order, derivation or completeness.
-/

namespace DexterVault.SiblingLists

open DexterVault.Machine
open DexterVault.Accounts
open DexterVault.Execution
open DexterVault.Transition
open DexterVault.Webauthn
open DexterVault.Session
open DexterVault.Gate
open DexterVault.Program
open DexterVault.Sessions
open DexterVault.SessionCount

variable {runtime : Runtime} {key : Pubkey}

/-! ## Runs without a session for the all-zero counterparty -/

/-- No session is registered or migrated for the all-zero counterparty. -/
def NamesCounterparty : Accepted State Call → Prop :=
  Registers (· ≠ defaultPubkey)

instance (accepted : Accepted State Call) :
    Decidable (NamesCounterparty accepted) :=
  inferInstanceAs (Decidable (∀ counterparty ∈ accepted.call.counterparty,
    counterparty ≠ defaultPubkey))

/-- The address of a cleared account is derived from the counterparty it was
registered for; the zeroed counterparty it now names derives another one. -/
theorem listsRegistered_of_sited (hfree : runtime.CollisionFree)
    {before after : State} {call : Call}
    (hsited : ∀ key account, before.session? key = some account →
      Sited runtime (· ≠ defaultPubkey) key account)
    (hblank : ∀ key account, before.session? key = some account →
      Blank account)
    (hstep : step runtime before call = .ok after) :
    ListsRegistered ⟨before, call, after⟩ := by
  intro registration hregistration key hkey account haccount hversion
  obtain rfl := Call.eq_of_registration hregistration
  obtain ⟨_, _, _, _, _, _, hregistered, -, -⟩ := registerSessionKey_ok hstep
  obtain ⟨sibling, hsibling⟩ := sibling_of_mem hregistered hkey
  obtain rfl := Option.some.inj (hsibling.sessionAt.symm.trans haccount)
  obtain ⟨counterparty, hnamed, haddress, -⟩ := hsited key sibling haccount
  have hzero := hsibling.address
  rw [hblank key sibling haccount hversion] at hzero
  exact hnamed (haddress.unique hfree hzero).2.1

theorem listsRegistered_of_run (hfree : runtime.CollisionFree)
    {start state : State} {trace : Trace} (hstart : OnlyImages start)
    (hrun : Run (system runtime) start trace state)
    (hnamed : Guarded (fun _ => NamesCounterparty) trace) {call : Call}
    {after : State} (hstep : step runtime state call = .ok after) :
    ListsRegistered ⟨state, call, after⟩ :=
  listsRegistered_of_sited hfree
    (fun _ _ haccount => sited_of_run hfree hstart hrun hnamed haccount)
    (fun _ _ haccount => blank_of_run hstart hrun haccount) hstep

theorem guarded_listsRegistered (hfree : runtime.CollisionFree)
    {start state : State} {trace : Trace} (hstart : OnlyImages start)
    (hrun : Run (system runtime) start trace state)
    (hnamed : Guarded (fun _ => NamesCounterparty) trace) :
    Guarded (fun _ => ListsRegistered) trace := by
  induction hrun with
  | start => trivial
  | accept hrun hstep ih =>
      exact ⟨listsRegistered_of_run hfree hstart hrun hnamed.2 hstep,
        ih hnamed.2⟩
  | refuse _ _ ih => exact ih hnamed
  | environment _ _ ih => exact ih hnamed

/-! ## What the count decides -/

/-- The siblings of the call are the addresses of all other registered sessions
of the vault, in ascending order. -/
structure ListsExactly (state : State) (accounts : RegisterSessionKey) :
    Prop where
  sorted : (siblingKeys accounts).Pairwise PubkeyLt
  complete : (siblingKeys accounts).toFinset =
    (registeredKeys state accounts.vault).erase accounts.session

/-- The refusals of a registration that concern the order, the derivation or
the completeness of its list, or the room for one more session. -/
def IsGateRefusal (error : ProgramError) : Prop :=
  error ∈ [.vault .sessionAccountsNotSorted, .vault .sessionAccountForeign,
    .vault .sessionAccountMisderived, .vault .sessionAccountNotWritable,
    .vault .incompleteSessionSet,
    .vault .sessionCountAtMax]

instance (error : ProgramError) : Decidable (IsGateRefusal error) :=
  inferInstanceAs (Decidable (error ∈ _))

theorem not_isGateRefusal_runtime {error : ProgramError}
    (hruntime : IsRuntimeError error) : ¬ IsGateRefusal error := by
  obtain ⟨failure, rfl⟩ := hruntime
  simp [IsGateRefusal]

section Decides

variable {state : State} {context : Context}

/-- An address of the list holds a sibling that the gate accepts. -/
theorem isSibling_of_listed (hsited : AllSited runtime state)
    {accounts : RegisterSessionKey} (hlists : ListsExactly state accounts)
    (hkey : key ∈ siblingKeys accounts) :
    ∃ sibling, IsSibling runtime accounts.vault accounts.session state key
      sibling := by
  have hmem : key ∈ (registeredKeys state accounts.vault).erase
      accounts.session := by
    rw [← hlists.complete]
    exact List.mem_toFinset.mpr hkey
  rw [Finset.mem_erase, mem_registeredKeys] at hmem
  obtain ⟨hother, account, haccount, hregistered, hvault⟩ := hmem
  obtain ⟨counterparty, -, haddress, hstored⟩ := hsited key account haccount
  refine ⟨account, haccount, hother, hvault, ?_⟩
  rw [← hstored hregistered, ← hvault]
  exact haddress

/-- The number of listed addresses is the one the gate expects. -/
theorem length_of_listsExactly (hfree : runtime.CollisionFree)
    (hsited : AllSited runtime state) (hexact : CountExact state)
    {accounts : RegisterSessionKey} (hlists : ListsExactly state accounts)
    {vault : Vault} (hvault : state.vault? accounts.vault = some vault)
    {session : SessionAccount}
    (hfound : FoundSession state accounts.session session)
    {counterparty : Pubkey} {bump : U8}
    (hcanonical : runtime.findProgramAddress
      (sessionSeeds accounts.vault counterparty) programId =
        some (accounts.session, bump)) :
    (siblingKeys accounts).length + (if session.version = 0 then 0 else 1) =
      vault.liveSessionCount.val := by
  have hnodup : (siblingKeys accounts).Nodup :=
    hlists.sorted.imp fun hlt => hlt.ne
  have hcount : vault.liveSessionCount.val =
      (registeredKeys state accounts.vault).card :=
    hexact.exact _ _ (State.ledger?_of_vault? hvault)
  have htarget := found_mem_iff hfree hsited hfound hcanonical
  rw [← List.toFinset_card_of_nodup hnodup, hlists.complete, hcount]
  by_cases hversion : session.version = 0
  · rw [if_pos hversion,
      Finset.erase_eq_of_notMem fun hmem => htarget.mp hmem hversion]
    rfl
  · rw [if_neg hversion]
    exact Finset.card_erase_add_one (htarget.mpr hversion)

/-- A revocation never finds the count at zero. -/
theorem revokeSessionKey_raises (hfree : runtime.CollisionFree)
    (hsited : AllSited runtime state) (hexact : CountExact state)
    (accounts : RevokeSessionKey) (args : RevokeSessionKeyArgs) :
    Raises (revokeSessionKey runtime context accounts args state)
      (· ≠ .vault .incompleteSessionSet) := by
  have hruntime : ∀ error, IsRuntimeError error →
      error ≠ .vault .incompleteSessionSet := by
    rintro _ ⟨failure, rfl⟩ ⟨⟩
  refine Raises.bind ((raises_load _).mono hruntime) fun vault hvault => ?_
  refine Raises.bind ((raises_load _).mono hruntime) fun session hsession => ?_
  refine Raises.bind (raises_require_iff.mpr (.inr nofun)) fun _ haddress => ?_
  refine Raises.bind (raises_require_iff.mpr (.inr nofun)) fun _ _ => ?_
  refine Raises.bind (raises_require_iff.mpr (.inr nofun))
    fun _ hregistered => ?_
  refine Raises.bind ((raises_verifyPasskeySigned _ _ _ _ _ _).mono ?_)
    fun _ _ => ?_
  · rintro _ (rfl | rfl) <;> nofun
  refine Raises.bind (raises_okOr_iff.mpr fun hnone => ?_) fun _ _ =>
    raises_pure _
  -- the session that is revoked is one of those counted
  have haddress := require_eq_ok_iff.mp haddress
  rw [require_eq_ok_iff] at hregistered
  have hvault : state.vault? accounts.vault = some vault :=
    load_eq_ok_iff.mp hvault
  have hsession : state.session? accounts.session = some session :=
    load_eq_ok_iff.mp hsession
  have hmem : accounts.session ∈ registeredKeys state accounts.vault := by
    rw [mem_registeredKeys, hsession, registeredFor_some]
    exact ⟨hregistered, vault_of_address hfree hsited hsession haddress⟩
  have hcount : vault.liveSessionCount.val =
      (registeredKeys state accounts.vault).card :=
    hexact.exact _ _ (State.ledger?_of_vault? hvault)
  have hpositive := Finset.card_pos.mpr ⟨_, hmem⟩
  have hbelow : vault.liveSessionCount.val < 1 :=
    checkedSub_eq_none_iff.mp hnone
  omega

/-- The gate lets every exact list of writable accounts through, up to the
overflow of its sum. -/
theorem overcommitGate_raises_of_exact (hsited : AllSited runtime state)
    {accounts : RegisterSessionKey} (hlists : ListsExactly state accounts)
    (hwritable : ∀ acct ∈ accounts.remainingAccounts, acct.isWritable = true)
    (now : I64) :
    Raises (overcommitGate runtime accounts.vault accounts.session now
      accounts.remainingAccounts state)
      (· = .vault .sessionWouldOvercommitVault) :=
  overcommitGate_raises hlists.sorted fun acct hacct =>
    ⟨hwritable acct hacct,
      isSibling_of_listed hsited hlists (List.mem_map_of_mem hacct)⟩

/-- The count takes the sweep and one more session. -/
theorem resyncedCount_raises {liveSessionCount swept : U8}
    (hswept : swept.val ≤ liveSessionCount.val)
    (hroom : liveSessionCount.val < 255) (isNew : Bool)
    (errors : ProgramError → Prop) :
    Raises (resyncedCount liveSessionCount swept isNew) errors := by
  refine Raises.bind (raises_okOr_iff.mpr fun hnone => ?_)
    fun remaining hremaining => ?_
  · rw [checkedSub_eq_none_iff] at hnone
    omega
  · rw [okOr_eq_ok_iff, checkedSub_eq_some_iff] at hremaining
    split
    · refine raises_okOr_iff.mpr fun hnone => ?_
      have hbound : 256 ≤ remaining.val + 1 := checkedAdd_eq_none_iff.mp hnone
      omega
    · exact raises_pure remaining

/-- The gate expects every session but the one that is replaced. -/
theorem expectedTotal_of_length {liveSessionCount total version : U8}
    (hlength : total.val + (if version = 0 then 0 else 1) =
      liveSessionCount.val) :
    checkedSub liveSessionCount (if decide (version = 0) = true then 0 else 1) =
      some total := by
  rw [checkedSub_eq_some_iff]
  by_cases hversion : version = 0
  · rw [if_pos hversion] at hlength
    rw [if_pos (decide_eq_true hversion)]
    exact ⟨Nat.zero_le _, hlength⟩
  · rw [if_neg hversion] at hlength
    rw [if_neg (by simpa using hversion)]
    have hone : (1 : U8).val = 1 := rfl
    omega

/-- Below 255 sessions an exact list is never refused for its order, its
derivation or its completeness. -/
theorem registerSessionKey_raises (hfree : runtime.CollisionFree)
    (hsited : AllSited runtime state) (hexact : CountExact state)
    {accounts : RegisterSessionKey} (args : RegisterSessionKeyArgs)
    {vault : Vault} (hvault : state.vault? accounts.vault = some vault)
    (hroom : vault.liveSessionCount.val < 255)
    (hlists : ListsExactly state accounts)
    (hwritable : ∀ acct ∈ accounts.remainingAccounts,
      acct.isWritable = true) :
    Raises (registerSessionKey runtime context accounts args state)
      fun error => ¬ IsGateRefusal error := by
  have hruntime : ∀ error, IsRuntimeError error → ¬ IsGateRefusal error :=
    fun _ => not_isGateRefusal_runtime
  have hrequire : ∀ {condition : Prop} [Decidable condition]
      {error : ProgramError}, ¬ IsGateRefusal error →
      Raises (require condition error) fun error => ¬ IsGateRefusal error :=
    fun hother => raises_require_iff.mpr (.inr hother)
  refine Raises.bind ((raises_load _).mono hruntime) fun found hfound => ?_
  obtain rfl : vault = found :=
    Option.some.inj (hvault.symm.trans (load_eq_ok_iff.mp hfound))
  refine Raises.bind (raises_okOr_iff.mpr fun _ => by decide) fun ata _ => ?_
  refine Raises.bind ((raises_loadOrInit _ _).mono hruntime)
    fun session hsession => ?_
  refine Raises.bind ((raises_requireCanonical _ _ _).mono hruntime)
    fun bump hcanonical => ?_
  rw [loadOrInit_eq_ok_iff] at hsession
  rw [requireCanonical_eq_ok_iff] at hcanonical
  have hlength := length_of_listsExactly hfree hsited hexact hlists hvault
    hsession hcanonical
  refine Raises.bind (hrequire (by decide)) fun _ _ => ?_
  refine Raises.bind ((raises_requireCanonical _ _ _).mono hruntime)
    fun _ _ => ?_
  refine Raises.bind (hrequire (by decide)) fun _ _ => ?_
  refine Raises.bind (hrequire (by decide)) fun _ _ => ?_
  refine Raises.bind (hrequire (by decide)) fun _ _ => ?_
  refine Raises.bind (hrequire (by decide)) fun _ _ => ?_
  refine Raises.bind (hrequire (by decide)) fun _ _ => ?_
  refine Raises.bind (hrequire (by decide)) fun _ _ => ?_
  refine Raises.bind (raises_require_iff.mpr (.inl hroom)) fun _ _ => ?_
  refine Raises.bind ((overcommitGate_raises_of_exact hsited hlists hwritable
    _).mono ?_) fun gate hgate => ?_
  · rintro _ rfl
    decide
  have hcounted : (siblingKeys accounts).length =
      gate.liveCounted.val + gate.swept.val :=
    (overcommitGate_ok hgate).2.length_eq
  refine Raises.bind (raises_okOr_iff.mpr fun hnone => ?_) fun total htotal => ?_
  · rw [checkedAdd_eq_none_iff] at hnone
    split at hlength <;> omega
  rw [okOr_eq_ok_iff, checkedAdd_eq_some_iff] at htotal
  have hexpected : checkedSub vault.liveSessionCount
      (if decide (session.version = 0) = true then 0 else 1) = some total :=
    expectedTotal_of_length (by omega)
  refine Raises.bind (raises_okOr_iff.mpr fun hnone => ?_)
    fun expected hsome => ?_
  · rw [hexpected] at hnone
    cases hnone
  obtain rfl : total = expected :=
    Option.some.inj (hexpected.symm.trans (okOr_eq_ok_iff.mp hsome))
  refine Raises.bind (raises_require_iff.mpr (.inl rfl)) fun _ _ => ?_
  refine Raises.bind (raises_okOr_iff.mpr fun _ => by decide) fun _ _ => ?_
  refine Raises.bind (hrequire (by decide)) fun _ _ => ?_
  refine Raises.bind ((raises_verifyPasskeySigned _ _ _ _ _ _).mono ?_)
    fun _ _ => ?_
  · rintro _ (rfl | rfl) <;> decide
  refine Raises.bind (resyncedCount_raises (by omega) hroom _ _) fun _ _ => ?_
  exact raises_pure _

end Decides

/-- The count of every vault is exact, and so it decides as it should: no
revocation fails on it, an exact list of siblings is never refused for the
list, and any other list is refused. -/
structure CountDecides (runtime : Runtime) (state : State) : Prop where
  exact : ∀ vaultKey vault, state.vault? vaultKey = some vault →
    vault.liveSessionCount.val = (registeredKeys state vaultKey).card
  revokes : ∀ context accounts args,
    Raises (revokeSessionKey runtime context accounts args state)
      (· ≠ .vault .incompleteSessionSet)
  registers : ∀ context accounts args vault,
    state.vault? accounts.vault = some vault →
    vault.liveSessionCount.val < 255 → ListsExactly state accounts →
    (∀ acct ∈ accounts.remainingAccounts, acct.isWritable = true) →
    Raises (registerSessionKey runtime context accounts args state)
      fun error => ¬ IsGateRefusal error
  refuses : ∀ context accounts args next,
    registerSessionKey runtime context accounts args state = .ok next →
    ListsExactly state accounts

/-- In every reachable state of a run that names no all-zero counterparty, the
count of each vault is the number of its registered sessions, with what
follows for registration and revocation. -/
theorem live_session_count_exact (hfree : runtime.CollisionFree)
    {start state : State} {trace : Trace} (hstart : OnlyImages start)
    (hrun : Run (system runtime) start trace state)
    (hnamed : Guarded (fun _ => NamesCounterparty) trace) :
    CountDecides runtime state := by
  have hsited := allSited_of_run hfree hstart hrun
  have hexact : CountExact state := countExact_run hfree hstart hrun
    (guarded_listsRegistered hfree hstart hrun hnamed)
  constructor
  case exact =>
    intro vaultKey vault hvault
    exact hexact.exact vaultKey vault.ledger (State.ledger?_of_vault? hvault)
  case revokes =>
    exact fun _ => revokeSessionKey_raises hfree hsited hexact
  case registers =>
    intro context accounts args vault hvault hroom hlists hwritable
    exact registerSessionKey_raises hfree hsited hexact args hvault hroom hlists
      hwritable
  case refuses =>
    intro context accounts args next hok
    obtain ⟨_, _, _, _, gate, _, hregistered, -, -⟩ := registerSessionKey_ok hok
    have hlisted : ListsRegistered
        ⟨state, .registerSessionKey context accounts args, next⟩ :=
      listsRegistered_of_run hfree hstart hrun hnamed hok
    exact ⟨hregistered.sorted,
      siblings_complete hfree hsited hexact hregistered hlisted⟩

theorem live_session_count_exact_settled :
    CountDecides Deployment.sampleRuntime Deployment.settled ∧
      Deployment.settled.vault? Deployment.vaultKey =
        some Deployment.registeredVault :=
  ⟨live_session_count_exact Deployment.sampleRuntime_collisionFree
    Deployment.onlyImages_funded settled_run (by decide +kernel),
    by decide +kernel⟩

end DexterVault.SiblingLists
