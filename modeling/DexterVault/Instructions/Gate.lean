import DexterVault.Instructions.Session

/-!
# The overcommit gate

What the loop over the sibling accounts has established when it succeeds: the
list is strictly ascending, every entry is the session account of the vault at
its own address, the sum and the counters are those of the live and of the
expired entries, and the expired entries are cleared.  The converse direction
says which lists the loop never refuses for their order or derivation.
-/

namespace DexterVault.Gate

open DexterVault.Machine
open DexterVault.Framing
open DexterVault.Accounts
open DexterVault.Execution
open DexterVault.Webauthn
open DexterVault.Session

def IsLive (now : I64) (session : SessionAccount) : Prop :=
  now < session.session.expiresAt

instance (now : I64) (session : SessionAccount) :
    Decidable (IsLive now session) :=
  inferInstanceAs (Decidable (now < session.session.expiresAt))

def LiveAt (now : I64) (state : State) (key : Pubkey) : Prop :=
  ∃ session ∈ state.session? key, IsLive now session

instance (now : I64) (state : State) (key : Pubkey) :
    Decidable (LiveAt now state key) :=
  inferInstanceAs (Decidable (∃ session ∈ state.session? key, _))

def liveKeys (now : I64) (state : State) (keys : List Pubkey) : List Pubkey :=
  keys.filter fun key => LiveAt now state key

def expiredKeys (now : I64) (state : State) (keys : List Pubkey) :
    List Pubkey :=
  keys.filter fun key => ¬ LiveAt now state key

def maxAmountAt (state : State) (key : Pubkey) : ℕ :=
  (state.session? key).elim 0 fun session => session.session.maxAmount.val

/-- The sessions after the accounts at `keys` have been cleared. -/
def sweptSessions (sessions : Pubkey → Option SessionAccount)
    (keys : List Pubkey) (key : Pubkey) : Option SessionAccount :=
  if key ∈ keys then (sessions key).map SessionAccount.clear else sessions key

/-- The account the gate accepts as a sibling at `key`. -/
structure IsSibling (runtime : Runtime) (vaultKey sessionKey : Pubkey)
    (state : State) (key : Pubkey) (session : SessionAccount) : Prop where
  sessionAt : state.session? key = some session
  notTarget : key ≠ sessionKey
  sameVault : session.vault = vaultKey
  address : SessionAddress runtime vaultKey session.session.allowedCounterparty
    session.bump key

section GateRun

variable {runtime : Runtime} {vaultKey sessionKey : Pubkey} {now : I64}

theorem gateStep_ok {gate after : Gate} {acct : AccountMeta}
    (hok : gateStep runtime vaultKey sessionKey now gate acct = .ok after) :
    (∀ prev ∈ gate.prev, PubkeyLt prev acct.key) ∧
      after.prev = some acct.key ∧
      ∃ session,
        IsSibling runtime vaultKey sessionKey gate.state acct.key session ∧
        (IsLive now session ∧
            after.siblingSum.val =
              gate.siblingSum.val + session.session.maxAmount.val ∧
            after.liveCounted.val = gate.liveCounted.val + 1 ∧
            after.swept = gate.swept ∧ after.state = gate.state ∨
          ¬ IsLive now session ∧ acct.isWritable = true ∧
            after.siblingSum = gate.siblingSum ∧
            after.liveCounted = gate.liveCounted ∧
            after.swept.val = gate.swept.val + 1 ∧
            after.state =
              gate.state.write acct.key (.session session.clear)) := by
  simp only [gateStep, bind_eq_ok_iff, okOr_eq_ok_iff, require_eq_ok_iff] at hok
  obtain ⟨_, habove, _, hne, session, hsession, _, hvault, _, haddress, hok⟩ :=
    hok
  have hsibling : IsSibling runtime vaultKey sessionKey gate.state acct.key
      session := ⟨hsession, hne, hvault, haddress⟩
  split at hok
  · next hlive =>
      simp only [bind_eq_ok_iff, okOr_eq_ok_iff, checkedAdd_eq_some_iff,
        pure_eq_ok_iff] at hok
      obtain ⟨sum, hsum, live, hcount, rfl⟩ := hok
      exact ⟨habove, rfl, session, hsibling,
        .inl ⟨hlive, hsum, hcount, rfl, rfl⟩⟩
  · next hexpired =>
      simp only [bind_eq_ok_iff, okOr_eq_ok_iff, require_eq_ok_iff,
        checkedAdd_eq_some_iff, pure_eq_ok_iff] at hok
      obtain ⟨_, hwritable, swept, hcount, rfl⟩ := hok
      exact ⟨habove, rfl, session, hsibling,
        .inr ⟨hexpired, hwritable, rfl, rfl, hcount, rfl⟩⟩

/-- A step writes no session account but the one it looks at. -/
theorem gateStep_other {gate after : Gate} {acct : AccountMeta} {key : Pubkey}
    (hok : gateStep runtime vaultKey sessionKey now gate acct = .ok after)
    (hother : key ≠ acct.key) :
    after.state.session? key = gate.state.session? key := by
  obtain ⟨-, -, session, -, hcase⟩ := gateStep_ok hok
  rcases hcase with ⟨-, -, -, -, hstate⟩ | ⟨-, -, -, -, -, hstate⟩
  · rw [hstate]
  · rw [hstate, State.session?, State.view_write, if_neg hother]

/-- The loop writes session accounts only. -/
theorem gateLoop_view {Data : Type} {read : Account → Option Data}
    (hread : ∀ session, read (.session session) = none)
    {accts : List AccountMeta} {gate after : Gate}
    (hok : accts.foldlM (gateStep runtime vaultKey sessionKey now) gate =
      .ok after) :
    after.state.view read = gate.state.view read := by
  induction accts generalizing gate with
  | nil =>
      rw [List.foldlM_nil, pure_eq_ok_iff] at hok
      rw [hok]
  | cons acct accts ih =>
      rw [List.foldlM_cons, bind_eq_ok_iff] at hok
      obtain ⟨middle, hstep, hrest⟩ := hok
      rw [ih hrest]
      obtain ⟨-, -, session, hsibling, hcase⟩ := gateStep_ok hstep
      rcases hcase with ⟨-, -, -, -, hstate⟩ | ⟨-, -, -, -, -, hstate⟩
      · rw [hstate]
      · rw [hstate]
        apply State.view_write_of_eq
        rw [State.view_of_session? hsibling.sessionAt, hread, hread]

/-- The loop accepts strictly ascending keys only. -/
theorem gateLoop_sorted {accts : List AccountMeta} {gate after : Gate}
    (hok : accts.foldlM (gateStep runtime vaultKey sessionKey now) gate =
      .ok after) :
    (accts.map AccountMeta.key).Pairwise PubkeyLt ∧
      ∀ prev ∈ gate.prev, ∀ acct ∈ accts, PubkeyLt prev acct.key := by
  induction accts generalizing gate with
  | nil => simp
  | cons acct accts ih =>
      rw [List.foldlM_cons, bind_eq_ok_iff] at hok
      obtain ⟨middle, hstep, hrest⟩ := hok
      obtain ⟨habove, hprev, -⟩ := gateStep_ok hstep
      obtain ⟨hsorted, hafter⟩ := ih hrest
      have hhead : ∀ later ∈ accts, PubkeyLt acct.key later.key :=
        hafter acct.key hprev
      constructor
      · rw [List.map_cons, List.pairwise_cons]
        refine ⟨?_, hsorted⟩
        intro key hkey
        obtain ⟨later, hlater, rfl⟩ := List.mem_map.mp hkey
        exact hhead later hlater
      · intro earlier hearlier later hlater
        rcases List.mem_cons.mp hlater with rfl | hlater
        · exact habove earlier hearlier
        · exact (habove earlier hearlier).trans (hhead later hlater)

/-- What the loop has established when it succeeds, against the state
`origin` in which the instruction was called. -/
structure GateRun (runtime : Runtime) (vaultKey sessionKey : Pubkey)
    (now : I64) (origin : State) (accts : List AccountMeta)
    (before after : Gate) : Prop where
  siblings : ∀ acct ∈ accts, ∃ session,
    IsSibling runtime vaultKey sessionKey origin acct.key session ∧
      (¬ IsLive now session → acct.isWritable = true)
  siblingSum : after.siblingSum.val = before.siblingSum.val +
    ((liveKeys now origin (accts.map AccountMeta.key)).map
      (maxAmountAt origin)).sum
  liveCounted : after.liveCounted.val = before.liveCounted.val +
    (liveKeys now origin (accts.map AccountMeta.key)).length
  swept : after.swept.val = before.swept.val +
    (expiredKeys now origin (accts.map AccountMeta.key)).length
  sessions : after.state.session? = sweptSessions before.state.session?
    (expiredKeys now origin (accts.map AccountMeta.key))
  ledgers : after.state.ledger? = before.state.ledger?
  vaults : after.state.vault? = before.state.vault?
  claims : after.state.claim? = before.state.claim?
  tokens : after.state.tokens = before.state.tokens

section KeyLists

variable {origin : State} {key : Pubkey} {keys : List Pubkey}

theorem mem_liveKeys :
    key ∈ liveKeys now origin keys ↔ key ∈ keys ∧ LiveAt now origin key := by
  simp [liveKeys]

theorem mem_expiredKeys :
    key ∈ expiredKeys now origin keys ↔
      key ∈ keys ∧ ¬ LiveAt now origin key := by
  simp [expiredKeys]

theorem liveKeys_cons_of_live (hlive : LiveAt now origin key) :
    liveKeys now origin (key :: keys) = key :: liveKeys now origin keys := by
  simp [liveKeys, hlive]

theorem liveKeys_cons_of_expired (hexpired : ¬ LiveAt now origin key) :
    liveKeys now origin (key :: keys) = liveKeys now origin keys := by
  simp [liveKeys, hexpired]

theorem expiredKeys_cons_of_live (hlive : LiveAt now origin key) :
    expiredKeys now origin (key :: keys) = expiredKeys now origin keys := by
  simp [expiredKeys, hlive]

theorem expiredKeys_cons_of_expired (hexpired : ¬ LiveAt now origin key) :
    expiredKeys now origin (key :: keys) =
      key :: expiredKeys now origin keys := by
  simp [expiredKeys, hexpired]

/-- Clearing one more account first changes nothing else: a cleared account
clears to itself. -/
theorem sweptSessions_update {sessions : Pubkey → Option SessionAccount}
    {session : SessionAccount} (hsession : sessions key = some session) :
    sweptSessions (Function.update sessions key (some session.clear)) keys =
      sweptSessions sessions (key :: keys) := by
  funext other
  by_cases hother : other = key
  · subst hother
    simp [sweptSessions, hsession, SessionAccount.clear]
  · simp [sweptSessions, hother]

end KeyLists

/-- A live sibling is summed and left alone. -/
theorem GateRun.cons_live {origin : State} {acct : AccountMeta}
    {accts : List AccountMeta} {before middle after : Gate}
    {session : SessionAccount}
    (hrun : GateRun runtime vaultKey sessionKey now origin accts middle after)
    (hsibling : IsSibling runtime vaultKey sessionKey origin acct.key session)
    (hlive : IsLive now session)
    (hsum : middle.siblingSum.val =
      before.siblingSum.val + session.session.maxAmount.val)
    (hcount : middle.liveCounted.val = before.liveCounted.val + 1)
    (hswept : middle.swept = before.swept)
    (hstate : middle.state = before.state) :
    GateRun runtime vaultKey sessionKey now origin (acct :: accts) before
      after := by
  have hhead : LiveAt now origin acct.key :=
    ⟨session, hsibling.sessionAt, hlive⟩
  have hmax : maxAmountAt origin acct.key = session.session.maxAmount.val := by
    rw [maxAmountAt, hsibling.sessionAt, Option.elim_some]
  constructor
  case siblings =>
    intro other hother
    rcases List.mem_cons.mp hother with rfl | hother
    · exact ⟨session, hsibling, fun hnot => absurd hlive hnot⟩
    · exact hrun.siblings other hother
  case siblingSum =>
    rw [List.map_cons, liveKeys_cons_of_live hhead, List.map_cons,
      List.sum_cons, hmax, hrun.siblingSum, hsum]
    omega
  case liveCounted =>
    rw [List.map_cons, liveKeys_cons_of_live hhead, List.length_cons,
      hrun.liveCounted, hcount]
    omega
  case swept =>
    rw [List.map_cons, expiredKeys_cons_of_live hhead, hrun.swept, hswept]
  case sessions =>
    rw [List.map_cons, expiredKeys_cons_of_live hhead, hrun.sessions, hstate]
  case ledgers => rw [hrun.ledgers, hstate]
  case vaults => rw [hrun.vaults, hstate]
  case claims => rw [hrun.claims, hstate]
  case tokens => rw [hrun.tokens, hstate]

/-- An expired sibling is counted as swept and cleared. -/
theorem GateRun.cons_expired {origin : State} {acct : AccountMeta}
    {accts : List AccountMeta} {before middle after : Gate}
    {session : SessionAccount}
    (hrun : GateRun runtime vaultKey sessionKey now origin accts middle after)
    (hsibling : IsSibling runtime vaultKey sessionKey origin acct.key session)
    (hbefore : before.state.session? acct.key = some session)
    (hexpired : ¬ IsLive now session) (hwritable : acct.isWritable = true)
    (hsum : middle.siblingSum = before.siblingSum)
    (hcount : middle.liveCounted = before.liveCounted)
    (hswept : middle.swept.val = before.swept.val + 1)
    (hstate : middle.state =
      before.state.write acct.key (.session session.clear)) :
    GateRun runtime vaultKey sessionKey now origin (acct :: accts) before
      after := by
  have hhead : ¬ LiveAt now origin acct.key := by
    rintro ⟨other, hother, hlive⟩
    obtain rfl : session = other :=
      Option.some.inj (hsibling.sessionAt.symm.trans hother)
    exact hexpired hlive
  have hframe : ∀ {Data : Type} (read : Account → Option Data),
      (∀ body, read (.session body) = none) →
      middle.state.view read = before.state.view read := by
    intro Data read hread
    rw [hstate]
    apply State.view_write_of_eq
    rw [State.view_of_session? hbefore, hread, hread]
  have hvaults := hframe Account.vault? fun _ => rfl
  constructor
  case siblings =>
    intro other hother
    rcases List.mem_cons.mp hother with rfl | hother
    · exact ⟨session, hsibling, fun _ => hwritable⟩
    · exact hrun.siblings other hother
  case siblingSum =>
    rw [List.map_cons, liveKeys_cons_of_expired hhead, hrun.siblingSum, hsum]
  case liveCounted =>
    rw [List.map_cons, liveKeys_cons_of_expired hhead, hrun.liveCounted, hcount]
  case swept =>
    rw [List.map_cons, expiredKeys_cons_of_expired hhead, List.length_cons,
      hrun.swept, hswept]
    omega
  case sessions =>
    rw [List.map_cons, expiredKeys_cons_of_expired hhead, hrun.sessions, hstate,
      ← sweptSessions_update hbefore]
    exact congrArg (sweptSessions · _) State.view_write_eq_update
  case ledgers => rw [hrun.ledgers, State.ledger?_of_view _ hvaults]
  case vaults => exact hrun.vaults.trans hvaults
  case claims => exact hrun.claims.trans (hframe Account.claim? fun _ => rfl)
  case tokens => rw [hrun.tokens, hstate, State.write_tokens]

/-- Induction over the list; `origin` stays the state of the call, with which
the current state agrees on the keys still to come. -/
theorem gateLoop_ok {origin : State} {accts : List AccountMeta}
    {gate after : Gate}
    (hagree : ∀ acct ∈ accts,
      gate.state.session? acct.key = origin.session? acct.key)
    (hok : accts.foldlM (gateStep runtime vaultKey sessionKey now) gate =
      .ok after) :
    GateRun runtime vaultKey sessionKey now origin accts gate after := by
  induction accts generalizing gate with
  | nil =>
      simp only [List.foldlM_nil, pure_eq_ok_iff] at hok
      subst hok
      constructor <;> simp [liveKeys, expiredKeys, sweptSessions, funext_iff]
  | cons acct accts ih =>
      have hsorted := (gateLoop_sorted hok).1
      rw [List.map_cons, List.pairwise_cons] at hsorted
      have hlater : ∀ later ∈ accts, later.key ≠ acct.key := fun later hmem =>
        (hsorted.1 _ (List.mem_map_of_mem hmem)).ne.symm
      rw [List.foldlM_cons, bind_eq_ok_iff] at hok
      obtain ⟨middle, hstep, hrest⟩ := hok
      obtain ⟨-, -, session, hsibling, hcase⟩ := gateStep_ok hstep
      have hbefore := hsibling.sessionAt
      have hrest := ih (fun later hmem =>
        (gateStep_other hstep (hlater later hmem)).trans
          (hagree later (List.mem_cons_of_mem _ hmem))) hrest
      have horigin : IsSibling runtime vaultKey sessionKey origin acct.key
          session :=
        { hsibling with
          sessionAt := (hagree acct (by simp)).symm.trans hbefore }
      rcases hcase with ⟨hlive, hsum, hcount, hswept, hstate⟩ |
        ⟨hexpired, hwritable, hsum, hcount, hswept, hstate⟩
      · exact hrest.cons_live horigin hlive hsum hcount hswept hstate
      · exact hrest.cons_expired horigin hbefore hexpired hwritable hsum hcount
          hswept hstate

theorem overcommitGate_ok {state : State} {accts : List AccountMeta}
    {gate : Gate}
    (hok : overcommitGate runtime vaultKey sessionKey now accts state =
      .ok gate) :
    (accts.map AccountMeta.key).Pairwise PubkeyLt ∧
      GateRun runtime vaultKey sessionKey now state accts (Gate.start state)
        gate :=
  ⟨(gateLoop_sorted hok).1, gateLoop_ok (fun _ _ => rfl) hok⟩

/-- Every sibling has been counted, as a live or as an expired one. -/
theorem GateRun.length_eq {state : State} {accts : List AccountMeta}
    {gate : Gate}
    (hrun : GateRun runtime vaultKey sessionKey now state accts
      (Gate.start state) gate) :
    (accts.map AccountMeta.key).length =
      gate.liveCounted.val + gate.swept.val := by
  have hsplit := List.length_eq_length_filter_add
    (l := accts.map AccountMeta.key) fun key => decide (LiveAt now state key)
  rw [hsplit, hrun.liveCounted, hrun.swept]
  simp [Gate.start, liveKeys, expiredKeys]

/-! ### What the loop refuses -/

/-- A writable sibling in its place is refused only when the sum or a counter
overflows. -/
theorem gateStep_raises {gate : Gate} {acct : AccountMeta}
    {sibling : SessionAccount}
    (habove : ∀ prev ∈ gate.prev, PubkeyLt prev acct.key)
    (hsibling : IsSibling runtime vaultKey sessionKey gate.state acct.key
      sibling) (hwritable : acct.isWritable = true) :
    Raises (gateStep runtime vaultKey sessionKey now gate acct)
      (· = .vault .sessionWouldOvercommitVault) := by
  unfold gateStep
  refine Raises.bind (raises_require_iff.mpr (.inl habove)) fun _ _ => ?_
  refine Raises.bind (raises_require_iff.mpr (.inl hsibling.notTarget))
    fun _ _ => ?_
  rw [hsibling.sessionAt]
  refine Raises.bind (by simp) fun session hsession => ?_
  obtain rfl : sibling = session := by simpa [okOr] using hsession
  refine Raises.bind (raises_require_iff.mpr (.inl hsibling.sameVault))
    fun _ _ => ?_
  refine Raises.bind (raises_require_iff.mpr (.inl hsibling.address))
    fun _ _ => ?_
  split
  · refine Raises.bind (raises_okOr_iff.mpr fun _ => rfl) fun _ _ => ?_
    exact Raises.bind (raises_okOr_iff.mpr fun _ => rfl) fun _ _ => raises_pure _
  · refine Raises.bind (raises_require_iff.mpr (.inl hwritable)) fun _ _ => ?_
    exact Raises.bind (raises_okOr_iff.mpr fun _ => rfl) fun _ _ => raises_pure _

theorem gateLoop_raises {origin : State} {accts : List AccountMeta}
    {gate : Gate}
    (hagree : ∀ acct ∈ accts,
      gate.state.session? acct.key = origin.session? acct.key)
    (hsorted : (accts.map AccountMeta.key).Pairwise PubkeyLt)
    (habove : ∀ prev ∈ gate.prev, ∀ acct ∈ accts, PubkeyLt prev acct.key)
    (hsiblings : ∀ acct ∈ accts, acct.isWritable = true ∧ ∃ sibling,
      IsSibling runtime vaultKey sessionKey origin acct.key sibling) :
    Raises (accts.foldlM (gateStep runtime vaultKey sessionKey now) gate)
      (· = .vault .sessionWouldOvercommitVault) := by
  induction accts generalizing gate with
  | nil => exact raises_pure gate
  | cons acct accts ih =>
      rw [List.map_cons, List.pairwise_cons] at hsorted
      have hhead : ∀ later ∈ accts, PubkeyLt acct.key later.key :=
        fun later hmem => hsorted.1 _ (List.mem_map_of_mem hmem)
      obtain ⟨hwritable, sibling, hsibling⟩ := hsiblings acct (by simp)
      have hcurrent : IsSibling runtime vaultKey sessionKey gate.state acct.key
          sibling :=
        { hsibling with
          sessionAt := (hagree acct (by simp)).trans hsibling.sessionAt }
      rw [List.foldlM_cons]
      refine Raises.bind (gateStep_raises
        (fun prev hprev => habove prev hprev acct (by simp)) hcurrent hwritable)
        fun middle hstep => ?_
      obtain ⟨-, hprev, -⟩ := gateStep_ok hstep
      apply ih
      · intro later hmem
        exact (gateStep_other hstep (hhead later hmem).ne.symm).trans
          (hagree later (List.mem_cons_of_mem _ hmem))
      · exact hsorted.2
      · intro prev hmem later hlater
        rw [hprev] at hmem
        cases hmem
        exact hhead later hlater
      · exact fun later hmem => hsiblings later (List.mem_cons_of_mem _ hmem)

theorem overcommitGate_raises {state : State} {accts : List AccountMeta}
    (hsorted : (accts.map AccountMeta.key).Pairwise PubkeyLt)
    (hsiblings : ∀ acct ∈ accts, acct.isWritable = true ∧ ∃ sibling,
      IsSibling runtime vaultKey sessionKey state acct.key sibling) :
    Raises (overcommitGate runtime vaultKey sessionKey now accts state)
      (· = .vault .sessionWouldOvercommitVault) :=
  gateLoop_raises (fun _ _ => rfl) hsorted (fun _ hprev => nomatch hprev)
    hsiblings

end GateRun

/-! ## What an accepted registration has checked -/

/-- The session account a registration finds: a stored one, or the zeroed body
of a freshly created one. -/
def FoundSession (state : State) (key : Pubkey) (session : SessionAccount) :
    Prop :=
  (state.accounts.lookup key = none ∧ session = SessionAccount.zeroed) ∨
    state.session? key = some session

def siblingKeys (accounts : RegisterSessionKey) : List Pubkey :=
  accounts.remainingAccounts.map AccountMeta.key

structure Registered (runtime : Runtime) (context : Context)
    (accounts : RegisterSessionKey) (args : RegisterSessionKeyArgs)
    (state : State) (vault : Vault) (ata : TokenAccount)
    (session : SessionAccount) (bump : U8) (gate : Gate) : Prop where
  vaultAt : state.vault? accounts.vault = some vault
  ataAt : state.tokens.lookup accounts.vaultUsdcAta = some ata
  found : FoundSession state accounts.session session
  canonical : runtime.findProgramAddress
    (sessionSeeds accounts.vault args.allowedCounterparty) programId =
      some (accounts.session, bump)
  swig : accounts.swig = vault.swigAddress
  versionV6 : vault.version = vaultVersionV6
  cap : 0 < args.maxAmount
  capacity : 0 < args.maxRevolvingCapacity
  inFuture : context.unixTimestamp < args.expiresAt
  sorted : (siblingKeys accounts).Pairwise PubkeyLt
  run : GateRun runtime accounts.vault accounts.session context.unixTimestamp
    state accounts.remainingAccounts (Gate.start state) gate
  complete : gate.liveCounted.val + gate.swept.val +
    (if session.version = 0 then 0 else 1) = vault.liveSessionCount.val
  covered : gate.siblingSum.val + args.maxAmount.val +
    vault.outstandingLockedAmount.val ≤ ata.amount.val
  signed : verifyPasskeySigned runtime context vault.passkeyPubkey
    args.clientDataJson args.authenticatorData
    (buildRegistrationMessage programId accounts.vault args) = .ok ()

/-- The accepted registration together with the run of its gate. -/
theorem registerSessionKey_gate {runtime : Runtime} {context : Context}
    {accounts : RegisterSessionKey} {args : RegisterSessionKeyArgs}
    {state next : State}
    (hok : registerSessionKey runtime context accounts args state = .ok next) :
    ∃ vault ata session bump gate count,
      Registered runtime context accounts args state vault ata session bump
        gate ∧
      overcommitGate runtime accounts.vault accounts.session
        context.unixTimestamp accounts.remainingAccounts state = .ok gate ∧
      count.val + gate.swept.val = vault.liveSessionCount.val +
        (if session.version = 0 then 1 else 0) ∧
      next = (gate.state.write accounts.session
          (.session (writtenSession session bump accounts.vault args))).write
        accounts.vault (.vault { vault with liveSessionCount := count }) := by
  simp only [registerSessionKey, loadVault, loadTokenAccount, requireAddress,
    requireVersionV6, bind_eq_ok_iff, load_eq_ok_iff, okOr_eq_ok_iff,
    require_eq_ok_iff, requireCanonical_eq_ok_iff, loadOrInit_eq_ok_iff,
    checkedSub_eq_some_iff, checkedAdd_eq_some_iff, Option.bind_eq_some_iff,
    pure_eq_ok_iff] at hok
  obtain ⟨vault, hvault, ata, hata, session, hfound, bump, hcanonical, _, hswig,
    _, _, _, _, _, hversion, _, hcap, _, hcapacity, _, hfuture, _, _, _, _,
    gate, hgate, total, htotal, expected, ⟨hexpectedLe, hexpected⟩, _, heq,
    combined, ⟨sum, hsum, hcombined⟩, _, hcovered, _, hsigned, count, hcount,
    rfl⟩ := hok
  obtain ⟨hsorted, hrun⟩ := overcommitGate_ok hgate
  obtain ⟨hsweptLe, hcount⟩ := resyncedCount_ok hcount
  have hcovered' : combined.val ≤ ata.amount.val := hcovered
  subst heq
  have hcomplete : gate.liveCounted.val + gate.swept.val +
      (if session.version = 0 then 0 else 1) = vault.liveSessionCount.val := by
    by_cases hnew : session.version = 0
    · simp only [hnew, decide_true, if_true] at hexpected hexpectedLe ⊢
      have hzero : (0 : U8).val = 0 := rfl
      omega
    · simp only [hnew, decide_false, Bool.false_eq_true, if_false]
        at hexpected hexpectedLe ⊢
      have hone : (1 : U8).val = 1 := rfl
      omega
  refine ⟨vault, ata, session, bump, gate, count,
    ⟨hvault, hata, hfound, hcanonical, hswig, hversion, hcap, hcapacity,
      hfuture, hsorted, hrun, hcomplete, by omega, hsigned⟩, hgate, ?_, rfl⟩
  by_cases hnew : session.version = 0
  · simp only [hnew, decide_true, Bool.toNat_true, if_true] at hcount ⊢
    omega
  · simp only [hnew, decide_false, Bool.toNat_false, if_false] at hcount ⊢
    omega

theorem registerSessionKey_ok {runtime : Runtime} {context : Context}
    {accounts : RegisterSessionKey} {args : RegisterSessionKeyArgs}
    {state next : State}
    (hok : registerSessionKey runtime context accounts args state = .ok next) :
    ∃ vault ata session bump gate count,
      Registered runtime context accounts args state vault ata session bump
        gate ∧
      count.val + gate.swept.val = vault.liveSessionCount.val +
        (if session.version = 0 then 1 else 0) ∧
      next = (gate.state.write accounts.session
          (.session (writtenSession session bump accounts.vault args))).write
        accounts.vault (.vault { vault with liveSessionCount := count }) := by
  obtain ⟨vault, ata, session, bump, gate, count, hregistered, -, hcount,
    hnext⟩ := registerSessionKey_gate hok
  exact ⟨vault, ata, session, bump, gate, count, hregistered, hcount, hnext⟩

end DexterVault.Gate
