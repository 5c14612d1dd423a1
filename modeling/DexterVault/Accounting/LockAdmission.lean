import DexterVault.Accounting.ClaimLife
import DexterVault.Accounting.Replay
import DexterVault.Custody.RootOfTrust
import DexterVault.Program.Addresses

/-!
# Which locks are admitted

The claim of a lock stands at an address derived from the vault and the hash of
the voucher message, and is never removed.  The message names a channel, an
amount and a sequence number, so two vouchers of different sessions may have
the same one, and then the same claim address: a lock that meets every other
condition is refused when that address was taken before.
-/

namespace DexterVault.LockAdmission

open DexterVault.Machine
open DexterVault.Framing
open DexterVault.Accounts
open DexterVault.Execution
open DexterVault.Transition
open DexterVault.Setup
open DexterVault.Session
open DexterVault.Voucher
open DexterVault.Program
open DexterVault.Addresses
open DexterVault.ClaimLife
open DexterVault.RootOfTrust

/-! ## The conditions of a lock -/

/-- Everything that `lock_voucher` asks of the voucher, the session, the vault
and the accounts, but a vacant address for the claim. -/
structure Lockable (runtime : Runtime) (context : Context)
    (accounts : LockVoucher) (args : LockVoucherArgs) (state : State)
    (vault : Vault) (account : SessionAccount) (ata : TokenAccount) :
    Prop where
  vaultAt : state.vault? accounts.vault = some vault
  ataAt : state.tokens.lookup accounts.vaultUsdcAta = some ata
  admitted : VoucherAdmitted runtime context accounts.vault accounts.session
    args.allowedCounterparty args.toVoucherPayload state account
  voucherHash : runtime.sha256 (voucherMessage args.toVoucherPayload) =
    args.voucherHash
  covered : vault.outstandingLockedAmount.val +
    (args.cumulativeAmount.val - account.session.crystallizedCumulative.val) ≤
      ata.amount.val
  deadlines : RecoveryAfterMaturity args.maturityAt args.holderRecoveryAt
  claim : ∃ bump, runtime.findProgramAddress
    (claimSeeds accounts.vault args.voucherHash) programId =
      some (accounts.claim, bump)
  swig : accounts.swig = vault.swigAddress
  swigBound : vault.swigAddress ≠ defaultPubkey
  wallet : ∃ bump, runtime.findProgramAddress (swigWalletSeeds accounts.swig)
    swigProgramId = some (accounts.swigWalletAddress, bump)
  owner : ata.owner = accounts.swigWalletAddress
  authority : accounts.dexterAuthority ∈ context.signers ∧
    vault.dexterAuthority = accounts.dexterAuthority
  holder : accounts.sellerHolder ∈ context.signers
  payer : accounts.payer ∈ context.signers

section Handler

variable {runtime : Runtime} {context : Context} {accounts : LockVoucher}
  {args : LockVoucherArgs} {state : State} {vault : Vault}
  {account : SessionAccount} {ata : TokenAccount}

/-- A lockable voucher is locked exactly when the address of its claim is
vacant. -/
theorem Lockable.accepted_iff
    (hlockable : Lockable runtime context accounts args state vault account ata)
    (hversion : vault.version = vaultVersionV6) :
    (∃ next, lockVoucher runtime context accounts args state = .ok next) ↔
      ¬ Occupied state accounts.claim := by
  obtain ⟨claimBump, hclaim⟩ := hlockable.claim
  obtain ⟨walletBump, hwallet⟩ := hlockable.wallet
  have habove := hlockable.admitted.aboveFrontier
  have hfrontier : account.session.crystallizedCumulative.val <
      args.cumulativeAmount.val := lt_of_le_of_lt (le_max_right _ _) habove
  have hcovered := hlockable.covered
  have hfits := ata.amount.isLt
  constructor
  · rintro ⟨next, hok⟩ hoccupied
    obtain ⟨_, _, _, _, _, _, hlocked, -⟩ := lockVoucher_ok hok
    exact hoccupied hlocked.vacant
  · intro hvacant
    rw [Occupied, ne_eq, not_not] at hvacant
    let delta : U64 := ⟨args.cumulativeAmount.val -
      account.session.crystallizedCumulative.val, by omega⟩
    let outstanding : U64 := ⟨vault.outstandingLockedAmount.val + delta.val,
      lt_of_le_of_lt hcovered hfits⟩
    simp only [lockVoucher, loadVault, loadSession, loadTokenAccount,
      requireSigner, requireAddress, requireVacant, requireSwigWallet,
      requireSessionAddress, requireVersionV6, bind_eq_ok_iff, load_eq_ok_iff,
      okOr_eq_ok_iff, require_eq_ok_iff, requireCanonical_eq_ok_iff,
      checkedSub_eq_some_iff, checkedAdd_eq_some_iff, pure_eq_ok_iff]
    exact ⟨_, vault, hlockable.vaultAt, ata, hlockable.ataAt, account,
      hlockable.admitted.sessionAt, (), hlockable.holder, (), hlockable.payer,
      (), hvacant, claimBump, hclaim, (),
      requireDexterAuthority_ok.mpr hlockable.authority, (), hlockable.swig,
      walletBump, hwallet, (), hlockable.admitted.address, (), hversion, (),
      hlockable.swigBound, (), hlockable.deadlines, (), hlockable.owner, (),
      hlockable.admitted.registered, (), hlockable.admitted.unexpired, (),
      hlockable.admitted.aboveFrontier, (), hlockable.admitted.withinCap, (),
      hlockable.admitted.signed, (), hlockable.voucherHash, delta,
      ⟨hfrontier.le, rfl⟩, (), Nat.sub_pos_of_lt hfrontier, outstanding, rfl,
      (), hcovered, rfl⟩

end Handler

/-! ## Earlier locks -/

/-- A voucher that a call locks. -/
structure LockedVoucher where
  vault : Pubkey
  session : Pubkey
  payload : VoucherPayload
  deriving DecidableEq

def lockedVoucher : Call → Option LockedVoucher
  | .lockVoucher _ accounts args =>
      some ⟨accounts.vault, accounts.session, args.toVoucherPayload⟩
  | _ => none

/-- The call writes a registration into the session account. -/
def RegistersAt (session : Pubkey) (call : Call) : Prop :=
  call.counterparty ≠ none ∧ call.target = some session

/-- The trace has a lock of the voucher, and `later` are the calls that were
accepted after it. -/
def LockBefore (trace later : Trace) (voucher : LockedVoucher) : Prop :=
  ∃ accepted earlier, trace = later ++ accepted :: earlier ∧
    lockedVoucher accepted.call = some voucher

/-- The voucher was locked, and its session was not registered since. -/
def LockedSince (trace : Trace) (voucher : LockedVoucher) : Prop :=
  ∃ later, LockBefore trace later voucher ∧
    ∀ accepted ∈ later, ¬ RegistersAt voucher.session accepted.call

/-- The payload was locked for the vault on another session, or under an
earlier registration of the session. -/
def LockedElsewhere (trace : Trace) (voucher : LockedVoucher) : Prop :=
  ∃ later session, LockBefore trace later { voucher with session := session } ∧
    (session ≠ voucher.session ∨
      ∃ accepted ∈ later, RegistersAt voucher.session accepted.call)

theorem lockBefore_iff {trace : Trace} {voucher : LockedVoucher} :
    (∃ later session,
        LockBefore trace later { voucher with session := session }) ↔
      LockedSince trace voucher ∨ LockedElsewhere trace voucher := by
  constructor
  · rintro ⟨later, session, hlock⟩
    by_cases hsession : session = voucher.session
    · subst hsession
      by_cases hsince : ∀ accepted ∈ later,
          ¬ RegistersAt voucher.session accepted.call
      · exact .inl ⟨later, hlock, hsince⟩
      · push Not at hsince
        exact .inr ⟨later, voucher.session, hlock, .inr hsince⟩
    · exact .inr ⟨later, session, hlock, .inl hsession⟩
  · rintro (⟨later, hlock, -⟩ | ⟨later, session, hlock, -⟩)
    · exact ⟨later, voucher.session, hlock⟩
    · exact ⟨later, session, hlock⟩

/-! ## Taken claim addresses -/

/-- The claim of a lock, where it should be. -/
def ClaimSited (runtime : Runtime) (accepted : Accepted State Call) : Prop :=
  ∀ context accounts args, accepted.call = .lockVoucher context accounts args →
    runtime.sha256 (voucherMessage args.toVoucherPayload) = args.voucherHash ∧
    ∃ bump, runtime.findProgramAddress
      (claimSeeds accounts.vault args.voucherHash) programId =
        some (accounts.claim, bump)

/-- The addresses of claims that are taken are those of the locks. -/
structure ClaimsTaken (runtime : Runtime) (trace : Trace) (state : State) :
    Prop where
  taken : ∀ accepted ∈ trace, ∀ accounts ∈ accepted.call.lock,
    ∃ claim, state.claim? accounts.claim = some claim
  locked : ∀ key, Site.claim.At runtime key → Occupied state key →
    ∃ accepted ∈ trace, ∃ accounts ∈ accepted.call.lock, accounts.claim = key

section Runs

variable {runtime : Runtime} {start state before after : State}
  {trace earlier : Trace} {call : Call}

theorem eq_of_lock {accounts : LockVoucher} (hlock : call.lock = some accounts) :
    ∃ context args, call = .lockVoucher context accounts args := by
  cases call with
  | lockVoucher context found args =>
      obtain rfl := Option.some.inj hlock
      exact ⟨context, args, rfl⟩
  | _ => cases hlock

theorem claim_of_lock (hstep : step runtime before call = .ok after)
    {accounts : LockVoucher} (hlock : call.lock = some accounts) :
    ∃ claim, after.claim? accounts.claim = some claim := by
  obtain ⟨context, args, rfl⟩ := eq_of_lock hlock
  cases step_change hstep with
  | locked hlocked hviews =>
      rw [hviews.claims, Function.update_self]
      exact ⟨_, rfl⟩
  | quiet hquiet => cases hquiet
  | bound hcall => cases hcall

theorem claimsTaken_step (hfree : runtime.CollisionFree)
    (htaken : ClaimsTaken runtime earlier before)
    (hstep : step runtime before call = .ok after) :
    ClaimsTaken runtime (⟨before, call, after⟩ :: earlier) after := by
  constructor
  case taken =>
    intro accepted hmem accounts hlock
    rcases List.mem_cons.mp hmem with rfl | hmem
    · exact claim_of_lock hstep hlock
    · obtain ⟨claim, hclaim⟩ := htaken.taken accepted hmem accounts hlock
      obtain ⟨later, hlater, -⟩ := evolves_step hclaim hstep
      exact ⟨later, hlater⟩
  case locked =>
    intro key hsite hoccupied
    cases step_standing hstep hoccupied with
    | kept hbefore =>
        obtain ⟨accepted, hmem, hlock⟩ := htaken.locked key hsite hbefore
        exact ⟨accepted, List.mem_cons_of_mem _ hmem, hlock⟩
    | locked accounts hlock hkey =>
        exact ⟨_, List.mem_cons_self, accounts, hlock, hkey⟩
    | site site hclaim hat => exact absurd (hat.unique hfree hsite) hclaim

theorem claimsTaken_run (hfree : runtime.CollisionFree)
    (hvacant : ∀ key, Site.claim.At runtime key → ¬ Occupied start key)
    (hrun : Run (system runtime) start trace state) :
    ClaimsTaken runtime trace state := by
  apply hrun.history_invariant (ClaimsTaken runtime) _ _ _ (guarded_true trace)
  · exact ⟨fun _ hmem => absurd hmem List.not_mem_nil,
      fun key hsite hoccupied => absurd hoccupied (hvacant key hsite)⟩
  · exact fun earlier before call after htaken hstep _ =>
      claimsTaken_step hfree htaken hstep
  · intro earlier before after htaken hmove
    constructor
    · rw [environment_claims hmove]
      exact htaken.taken
    · exact fun key hsite hoccupied =>
        htaken.locked key hsite (environment_occupied hmove hoccupied)

theorem claimSited_run (hrun : Run (system runtime) start trace state) :
    ∀ accepted ∈ trace, ClaimSited runtime accepted := by
  apply hrun.forall_accepted (ClaimSited runtime) _ (guarded_true trace)
  rintro earlier before call after - - - hstep context accounts args rfl
  obtain ⟨_, _, _, _, _, _, hlocked, -⟩ := lockVoucher_ok hstep
  exact ⟨hlocked.voucherHash, lockVoucher_canonical hstep⟩

theorem eq_of_lockedVoucher {voucher : LockedVoucher}
    (hlocked : lockedVoucher call = some voucher) :
    ∃ context accounts args, call = .lockVoucher context accounts args ∧
      voucher = ⟨accounts.vault, accounts.session, args.toVoucherPayload⟩ := by
  cases call with
  | lockVoucher context accounts args =>
      exact ⟨context, accounts, args, rfl, (Option.some.inj hlocked).symm⟩
  | _ => cases hlocked

/-- The canonical address of a claim has one vault and one voucher hash. -/
theorem claimSeeds_injective (hfree : runtime.CollisionFree)
    {vault vault' claim : Pubkey} {hash hash' : FixedBytes 32} {bump bump' : U8}
    (hleft : runtime.findProgramAddress (claimSeeds vault hash) programId =
      some (claim, bump))
    (hright : runtime.findProgramAddress (claimSeeds vault' hash') programId =
      some (claim, bump')) : vault = vault' ∧ hash = hash' := by
  have hseeds := findProgramAddress_injective hfree hleft hright
  simp only [claimSeeds, List.flatten_cons, List.flatten_nil, List.append_nil,
    List.append_assoc, List.append_cancel_left_eq] at hseeds
  obtain ⟨hvault, hrest⟩ := List.append_inj hseeds (by simp)
  obtain ⟨hhash, -⟩ := List.append_inj hrest (by simp)
  exact ⟨FixedBytes.toList_injective hvault, FixedBytes.toList_injective hhash⟩

/-- The address of a claim is taken exactly when a voucher of the same payload
was locked for the vault, on whatever session. -/
theorem occupied_iff_lockBefore (hfree : runtime.CollisionFree)
    {messages : Set Bytes} (hhash : Set.InjOn runtime.sha256 messages)
    (hvacant : ∀ key, Site.claim.At runtime key → ¬ Occupied start key)
    (hrun : Run (system runtime) start trace state)
    (hmessages : ∀ accepted ∈ trace, ∀ voucher ∈ lockedVoucher accepted.call,
      voucherMessage voucher.payload ∈ messages)
    (voucher : LockedVoucher) (hmem : voucherMessage voucher.payload ∈ messages)
    {claim : Pubkey} {bump : U8}
    (hclaim : runtime.findProgramAddress (claimSeeds voucher.vault
      (runtime.sha256 (voucherMessage voucher.payload))) programId =
        some (claim, bump)) :
    Occupied state claim ↔ ∃ later session,
      LockBefore trace later { voucher with session := session } := by
  have htaken := claimsTaken_run hfree hvacant hrun
  constructor
  · intro hoccupied
    obtain ⟨accepted, haccepted, accounts, hlock, rfl⟩ :=
      htaken.locked claim (.of_find hclaim) hoccupied
    obtain ⟨context, args, hcall⟩ := eq_of_lock hlock
    obtain ⟨hargs, _, hfound⟩ :=
      claimSited_run hrun accepted haccepted _ _ _ hcall
    obtain ⟨hvault, hsame⟩ := claimSeeds_injective hfree hfound hclaim
    have hlocked : lockedVoucher accepted.call =
        some ⟨accounts.vault, accounts.session, args.toVoucherPayload⟩ := by
      rw [hcall]
      rfl
    have hpayload : args.toVoucherPayload = voucher.payload := by
      apply Replay.voucherMessage_injective
      apply hhash (hmessages accepted haccepted _ hlocked) hmem
      exact hargs.trans hsame
    rw [hvault, hpayload] at hlocked
    obtain ⟨later, before, htrace⟩ := List.append_of_mem haccepted
    exact ⟨later, accounts.session, accepted, before, htrace, hlocked⟩
  · rintro ⟨later, session, accepted, before, rfl, hlocked⟩
    have haccepted : accepted ∈ later ++ accepted :: before := by simp
    obtain ⟨context, accounts, args, hcall, hvoucher⟩ :=
      eq_of_lockedVoucher hlocked
    obtain ⟨hargs, _, hfound⟩ :=
      claimSited_run hrun accepted haccepted _ _ _ hcall
    rw [LockedVoucher.mk.injEq] at hvoucher
    rw [← hargs, ← hvoucher.1, ← hvoucher.2.2, hclaim, Option.some.injEq,
      Prod.mk.injEq] at hfound
    have hlock : accounts ∈ accepted.call.lock := by
      rw [hcall]
      rfl
    obtain ⟨found, hat⟩ := htaken.taken accepted haccepted accounts hlock
    rw [hfound.1]
    exact occupied_of_view hat

/-- In every reachable state, a lock that meets every condition of the handler
is accepted exactly when its payload was not locked for the vault on another
session or under an earlier registration. -/
theorem lock_admission_iff (hfree : runtime.CollisionFree)
    {messages : Set Bytes} (hhash : Set.InjOn runtime.sha256 messages)
    (hstart : OnlyImages start)
    (hvacant : ∀ key, Site.claim.At runtime key → ¬ Occupied start key)
    (hrun : Run (system runtime) start trace state)
    (hmessages : ∀ accepted ∈ trace, ∀ voucher ∈ lockedVoucher accepted.call,
      voucherMessage voucher.payload ∈ messages)
    {context : Context} {accounts : LockVoucher} {args : LockVoucherArgs}
    (hmem : voucherMessage args.toVoucherPayload ∈ messages)
    {vault : Vault} {account : SessionAccount} {ata : TokenAccount}
    (hlockable : Lockable runtime context accounts args state vault account ata)
    (hunlocked : ¬ LockedSince trace
      ⟨accounts.vault, accounts.session, args.toVoucherPayload⟩) :
    (∃ next, step runtime state (.lockVoucher context accounts args) =
        .ok next) ↔
      ¬ LockedElsewhere trace
        ⟨accounts.vault, accounts.session, args.toVoucherPayload⟩ := by
  have hversion := version_run hrun hstart _ _ hlockable.vaultAt
  obtain ⟨bump, hclaim⟩ := hlockable.claim
  rw [← hlockable.voucherHash] at hclaim
  calc (∃ next, lockVoucher runtime context accounts args state = .ok next)
    _ ↔ ¬ Occupied state accounts.claim := hlockable.accepted_iff hversion
    _ ↔ ¬ (LockedSince trace _ ∨ LockedElsewhere trace _) := by
        rw [occupied_iff_lockBefore hfree hhash hvacant hrun hmessages
          ⟨accounts.vault, accounts.session, args.toVoucherPayload⟩ hmem hclaim,
          lockBefore_iff]
    _ ↔ ¬ LockedElsewhere trace _ := by rw [or_iff_right hunlocked]

end Runs

section Collision

open Deployment

/-! Two sessions of one vault, each with its own key, sign the same payload. -/

def otherPubkey : FixedBytes 32 := filled 91

def otherScope : RegisterSessionKeyArgs :=
  { sessionScope otherSeller 100 with sessionPubkey := otherPubkey }

def registerOther : Call :=
  let message := buildRegistrationMessage programId vaultKey otherScope
  .registerSessionKey (passkeyContext passkey message [authority] now)
    (registrationAccounts otherSession [⟨sellerSession, true⟩])
    { otherScope with toAssertion := assertion message }

def otherContext : Context :=
  voucherContext otherPubkey (voucherOf 60) [authority, otherSeller] now

def otherAccounts : LockVoucher :=
  ⟨vaultKey, ataKey, swig, walletKey, otherSession, claimKey, otherSeller,
    authority, authority⟩

def otherArgs : LockVoucherArgs :=
  ⟨voucherOf 60, Sha256.digest (voucherMessage (voucherOf 60)), none, none,
    otherSeller⟩

def richAta : TokenAccount := ⟨usdcMainnet, walletKey, 300⟩

/-- The wallet receives 200 units more after the first lock. -/
def topped : State :=
  { locked with tokens := Finmap.singleton ataKey richAta }

def sharedVault : Vault := { lockedVault with liveSessionCount := 2 }

def otherAccount : SessionAccount :=
  ⟨1, 255, vaultKey, otherScope.registration⟩

def shared : State :=
  (topped.write otherSession (.session otherAccount)).write vaultKey
    (.vault sharedVault)

theorem shared_steps :
    step sampleRuntime topped registerOther = .ok shared ∧
      step sampleRuntime shared
          (.lockVoucher otherContext otherAccounts otherArgs) =
        .error (.runtime .accountAlreadyInUse) := by
  decide +kernel

def sharedTrace : Trace := ⟨topped, registerOther, shared⟩ :: lockedTrace

theorem shared_run :
    Run (system sampleRuntime) funded sharedTrace shared := by
  have htopped : Run (system sampleRuntime) funded lockedTrace topped :=
    .environment locked_run (.tokens locked _)
  exact htopped.accept shared_steps.1

theorem shared_lockable :
    Lockable sampleRuntime otherContext otherAccounts otherArgs shared
      sharedVault otherAccount richAta where
  vaultAt := by decide +kernel
  ataAt := by decide +kernel
  admitted := by
    constructor <;> decide +kernel
  voucherHash := rfl
  covered := by decide +kernel
  deadlines := by decide
  claim := ⟨255, by decide +kernel⟩
  swig := rfl
  swigBound := by decide
  wallet := ⟨255, by decide +kernel⟩
  owner := rfl
  authority := by decide
  holder := by decide
  payer := by decide

theorem shared_unlocked :
    ¬ LockedSince sharedTrace
      ⟨vaultKey, otherSession, otherArgs.toVoucherPayload⟩ := by
  have hnone : ∀ accepted ∈ sharedTrace, lockedVoucher accepted.call ≠
      some ⟨vaultKey, otherSession, otherArgs.toVoucherPayload⟩ := by
    decide +kernel
  rintro ⟨later, ⟨accepted, earlier, htrace, hlocked⟩, -⟩
  exact hnone accepted (by simp [htrace]) hlocked

theorem lock_admission_iff_shared :
    (∃ next, step sampleRuntime shared
        (.lockVoucher otherContext otherAccounts otherArgs) = .ok next) ↔
      ¬ LockedElsewhere sharedTrace
        ⟨vaultKey, otherSession, otherArgs.toVoucherPayload⟩ :=
  lock_admission_iff sampleRuntime_collisionFree
    (Set.injOn_singleton sampleRuntime.sha256 (voucherMessage (voucherOf 60)))
    onlyImages_funded
    (fun key _ hoccupied => hoccupied (Finmap.lookup_empty key)) shared_run
    (by decide +kernel) rfl shared_lockable shared_unlocked

/-- The second voucher is the first of its session, signed by a key of its own
and covered by the wallet, and is refused. -/
theorem lock_refused_for_other_session :
    Run (system sampleRuntime) funded sharedTrace shared ∧
      Lockable sampleRuntime otherContext otherAccounts otherArgs shared
        sharedVault otherAccount richAta ∧
      ¬ LockedSince sharedTrace
        ⟨vaultKey, otherSession, otherArgs.toVoucherPayload⟩ ∧
      ¬ ∃ next, step sampleRuntime shared
        (.lockVoucher otherContext otherAccounts otherArgs) = .ok next := by
  refine ⟨shared_run, shared_lockable, shared_unlocked, ?_⟩
  rintro ⟨next, hok⟩
  cases shared_steps.2.symm.trans hok

end Collision

end DexterVault.LockAdmission
