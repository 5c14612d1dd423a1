import DexterVault.Core.History
import DexterVault.Program.Closing
import DexterVault.Program.Deployment

/-!
# A call stays inside one vault

A vault owns the account at its own address, the session accounts derived from
it and the claims that name it.  Whatever accounts a caller passes, an accepted
call changes what one vault owns and the ledgers of financiers, and nothing
else: what a vault owns is left alone by every run of calls about other vaults.
-/

namespace DexterVault.Isolation

open DexterVault.Machine
open DexterVault.Framing
open DexterVault.Accounts
open DexterVault.Execution
open DexterVault.Transition
open DexterVault.Setup
open DexterVault.Withdrawal
open DexterVault.Session
open DexterVault.Gate
open DexterVault.Voucher
open DexterVault.Claim
open DexterVault.Credit
open DexterVault.Migration
open DexterVault.Program

/-- The account, stored at the key, belongs to the vault. -/
inductive Owned (runtime : Runtime) (vaultKey key : Pubkey) : Account → Prop
  | vault (data : Vault) (hkey : key = vaultKey) :
      Owned runtime vaultKey key (.vault data)
  | image (data : VaultV5Reader) (hkey : key = vaultKey) :
      Owned runtime vaultKey key (.vaultV5 data)
  | session (data : SessionAccount) {counterparty : Pubkey} {bump : U8}
      (haddress : SessionAddress runtime vaultKey counterparty bump key) :
      Owned runtime vaultKey key (.session data)
  | claim (data : LockedClaim) (hvault : data.vault = vaultKey) :
      Owned runtime vaultKey key (.claim data)

/-- An account has one owner. -/
theorem Owned.unique {runtime : Runtime} (hfree : runtime.CollisionFree)
    {vaultKey other key : Pubkey} {account : Account}
    (howned : Owned runtime vaultKey key account)
    (hother : Owned runtime other key account) : vaultKey = other := by
  cases howned with
  | vault data hkey =>
      cases hother with
      | vault _ hother => exact hkey.symm.trans hother
  | image data hkey =>
      cases hother with
      | image _ hother => exact hkey.symm.trans hother
  | session data haddress =>
      cases hother with
      | session _ hother => exact (haddress.unique hfree hother).1
  | claim data hvault =>
      cases hother with
      | claim _ hother => exact hvault.symm.trans hother

/-- The vault a call is about: the one it names or, for the transfer of a claim,
the one the claim names. -/
def aboutVault (state : State) : Call → Option Pubkey
  | .initializeVault _ accounts _ => some accounts.vault
  | .setSwig _ vault _ => some vault
  | .setSwigAtomic _ accounts _ => some accounts.vault
  | .settleVoucher _ accounts _ => some accounts.vault
  | .requestWithdrawal _ vault _ => some vault
  | .finalizeWithdrawal _ accounts _ => some accounts.vault
  | .forceRelease _ vault _ => some vault
  | .rotatePasskey _ vault _ => some vault
  | .rotateDexterAuthority _ accounts _ => some accounts.vault
  | .provePasskey _ vault _ => some vault
  | .registerSessionKey _ accounts _ => some accounts.vault
  | .revokeSessionKey _ accounts _ => some accounts.vault
  | .settleTabVoucher _ accounts _ => some accounts.vault
  | .migrateV5ToV6 _ accounts => some accounts.vault
  | .migrateV5ToV6WithSession _ accounts _ => some accounts.vault
  | .lockVoucher _ accounts _ => some accounts.vault
  | .transferLockOwnership _ accounts _ =>
      (state.claim? accounts.claim).map LockedClaim.vault
  | .settleLockedVoucher _ accounts => some accounts.vault
  | .recoverAbandonedLock _ accounts _ => some accounts.vault
  | .openStandby _ accounts _ => some accounts.vault
  | .drawCredit _ accounts _ => some accounts.vault
  | .repayCredit _ accounts _ => some accounts.vault
  | .seizeCollateral _ accounts => some accounts.vault
  | .setStandbyReserve _ _ _ => none
  | .closeStandby _ accounts _ => some accounts.vault
  | .closeSession _ accounts _ => some accounts.vault

/-! ## One step -/

/-- What may stand at a key that a call about the vault changes: nothing, an
account of the vault, or the ledger of a financier. -/
def Within (runtime : Runtime) (about : Option Pubkey) (key : Pubkey)
    (stored : Option Account) : Prop :=
  ∀ account, stored = some account →
    (∃ vaultKey, about = some vaultKey ∧ Owned runtime vaultKey key account) ∨
      ∃ backer, account = .standbyBacker backer

/-- Every key is as it was, or held and holds an account within the vault. -/
def Stays (runtime : Runtime) (about : Option Pubkey) (before after : State) :
    Prop :=
  ∀ key, after.accounts.lookup key = before.accounts.lookup key ∨
    (Within runtime about key (before.accounts.lookup key) ∧
      Within runtime about key (after.accounts.lookup key))

section Steps

variable {runtime : Runtime} {about : Option Pubkey} {context : Context}
  {before middle after : State} {key vaultKey : Pubkey}

theorem Within.empty : Within runtime about key none :=
  fun _ hstored => nomatch hstored

theorem Within.vacant (hvacant : middle.accounts.lookup key = none) :
    Within runtime about key (middle.accounts.lookup key) :=
  hvacant ▸ Within.empty

theorem Within.owned {account : Account} (habout : about = some vaultKey)
    (howned : Owned runtime vaultKey key account) :
    Within runtime about key (some account) := by
  rintro _ ⟨⟩
  exact .inl ⟨vaultKey, habout, howned⟩

theorem Within.backer (backer : StandbyBacker) :
    Within runtime about key (some (.standbyBacker backer)) := by
  rintro _ ⟨⟩
  exact .inr ⟨backer, rfl⟩

theorem Within.vaultAt {vault : Vault} (habout : about = some vaultKey)
    (hvault : middle.vault? vaultKey = some vault) :
    Within runtime about vaultKey (middle.accounts.lookup vaultKey) :=
  State.lookup_of_vault? hvault ▸ Within.owned habout (.vault vault rfl)

theorem Within.imageAt {image : VaultV5Reader} (habout : about = some vaultKey)
    (himage : middle.vaultV5? vaultKey = some image) :
    Within runtime about vaultKey (middle.accounts.lookup vaultKey) :=
  State.lookup_of_vaultV5? himage ▸ Within.owned habout (.image image rfl)

theorem Within.sessionAt {session : SessionAccount} {counterparty : Pubkey}
    {bump : U8} (habout : about = some vaultKey)
    (hsession : middle.session? key = some session)
    (haddress : SessionAddress runtime vaultKey counterparty bump key) :
    Within runtime about key (middle.accounts.lookup key) :=
  State.lookup_of_session? hsession ▸
    Within.owned habout (.session session haddress)

theorem Within.claimAt {claim : LockedClaim} (habout : about = some vaultKey)
    (hclaim : middle.claim? key = some claim) (hvault : claim.vault = vaultKey) :
    Within runtime about key (middle.accounts.lookup key) :=
  State.lookup_of_claim? hclaim ▸ Within.owned habout (.claim claim hvault)

theorem Within.backerAt {backer : StandbyBacker}
    (hbacker : middle.standbyBacker? key = some backer) :
    Within runtime about key (middle.accounts.lookup key) :=
  State.lookup_of_standbyBacker? hbacker ▸ Within.backer backer

theorem Stays.refl (state : State) : Stays runtime about state state :=
  fun _ => .inl rfl

/-- A write to an account within the vault, of an account within the vault. -/
theorem Stays.write (hstays : Stays runtime about before middle)
    {account : Account}
    (hold : Within runtime about key (before.accounts.lookup key))
    (hnew : Within runtime about key (some account)) :
    Stays runtime about before (middle.write key account) := by
  intro other
  rw [Closing.lookup_write]
  by_cases hother : other = key
  · subst hother
    rw [if_pos rfl]
    exact .inr ⟨hold, hnew⟩
  · rw [if_neg hother]
    exact hstays other

/-- What is within the vault now was so before. -/
theorem Stays.within (hstays : Stays runtime about before middle)
    (hnow : Within runtime about key (middle.accounts.lookup key)) :
    Within runtime about key (before.accounts.lookup key) := by
  rcases hstays key with hsame | ⟨hbefore, -⟩
  · exact hsame ▸ hnow
  · exact hbefore

theorem Stays.close
    (hold : Within runtime about key (before.accounts.lookup key)) :
    Stays runtime about before (before.close key) := by
  intro other
  rw [Closing.lookup_close]
  by_cases hother : other = key
  · subst hother
    rw [if_pos rfl]
    exact .inr ⟨hold, Within.empty⟩
  · rw [if_neg hother]
    exact .inl rfl

/-- A write to the vault, stored or new. -/
theorem Stays.write_vault (hstays : Stays runtime about before middle)
    (habout : about = some vaultKey)
    (hold : Within runtime about vaultKey (before.accounts.lookup vaultKey))
    (vault : Vault) :
    Stays runtime about before (middle.write vaultKey (.vault vault)) :=
  hstays.write hold (.owned habout (.vault vault rfl))

/-- A write to one of its sessions, stored or new. -/
theorem Stays.write_session (hstays : Stays runtime about before middle)
    {counterparty : Pubkey} {bump : U8} (habout : about = some vaultKey)
    (haddress : SessionAddress runtime vaultKey counterparty bump key)
    (hold : Within runtime about key (before.accounts.lookup key))
    (session : SessionAccount) :
    Stays runtime about before (middle.write key (.session session)) :=
  hstays.write hold (.owned habout (.session session haddress))

/-- A write to one of its claims, stored or new. -/
theorem Stays.write_claim (hstays : Stays runtime about before middle)
    (habout : about = some vaultKey) {claim : LockedClaim}
    (hvault : claim.vault = vaultKey)
    (hold : Within runtime about key (before.accounts.lookup key)) :
    Stays runtime about before (middle.write key (.claim claim)) :=
  hstays.write hold (.owned habout (.claim claim hvault))

/-- The sweep clears sessions of the vault. -/
theorem gate_stays {sessionKey : Pubkey} {now : I64} {accts : List AccountMeta}
    {gate swept : Gate} (habout : about = some vaultKey)
    (hstays : Stays runtime about before gate.state)
    (hok : accts.foldlM (gateStep runtime vaultKey sessionKey now) gate =
      .ok swept) :
    Stays runtime about before swept.state := by
  induction accts generalizing gate with
  | nil =>
      rw [List.foldlM_nil, pure_eq_ok_iff] at hok
      rwa [← hok]
  | cons acct accts ih =>
      rw [List.foldlM_cons, bind_eq_ok_iff] at hok
      obtain ⟨middle, hstep, hrest⟩ := hok
      refine ih ?_ hrest
      obtain ⟨-, -, session, hsibling, hcase⟩ := gateStep_ok hstep
      rcases hcase with ⟨-, -, -, -, hstate⟩ | ⟨-, -, -, -, -, hstate⟩
      · rwa [hstate]
      · rw [hstate]
        have hold := hstays.within
          (.sessionAt habout hsibling.sessionAt hsibling.address)
        exact hstays.write_session habout hsibling.address hold _

/-! The instructions that write to more than the vault. -/

theorem registerSessionKey_stays {accounts : RegisterSessionKey}
    {args : RegisterSessionKeyArgs}
    (hok : registerSessionKey runtime context accounts args before = .ok after) :
    Stays runtime (some accounts.vault) before after := by
  obtain ⟨vault, _, session, bump, gate, _, hregistered, hgate, -, rfl⟩ :=
    registerSessionKey_gate hok
  have haddress : SessionAddress runtime accounts.vault args.allowedCounterparty
      bump accounts.session := Runtime.create_of_find hregistered.canonical
  have hswept : Stays runtime (some accounts.vault) before gate.state :=
    gate_stays rfl (.refl before) hgate
  have hsession : Within runtime (some accounts.vault) accounts.session
      (before.accounts.lookup accounts.session) := by
    rcases hregistered.found with ⟨hvacant, -⟩ | hfound
    · exact .vacant hvacant
    · exact .sessionAt rfl hfound haddress
  exact (hswept.write_session rfl haddress hsession _).write_vault rfl
    (.vaultAt rfl hregistered.vaultAt) _

theorem settleVoucher_stays {accounts : SettleVoucher} {args : SettleVoucherArgs}
    (hok : settleVoucher runtime context accounts args before = .ok after) :
    Stays runtime (some accounts.vault) before after := by
  cases hincrement : args.increment with
  | true =>
      obtain ⟨vault, key, session, _, hopenable, -, rfl⟩ :=
        openable_of_ok hok hincrement
      have hsession := Within.sessionAt rfl hopenable.sessionAt hopenable.address
      exact ((Stays.refl before).write_session rfl hopenable.address hsession
        _).write_vault rfl (.vaultAt rfl hopenable.vaultAt) _
  | false =>
      obtain ⟨vault, hvault, -, rfl⟩ := settleVoucher_closed hok hincrement
      exact (Stays.refl before).write_vault rfl (.vaultAt rfl hvault) _

theorem settleTabVoucher_stays {accounts : SettleTabVoucher}
    {args : SettleTabVoucherArgs}
    (hok : settleTabVoucher runtime context accounts args before = .ok after) :
    Stays runtime (some accounts.vault) before after := by
  obtain ⟨vault, session, _, hsettled, rfl⟩ := settleTabVoucher_ok hok
  have haddress := hsettled.admitted.address
  have hsession := Within.sessionAt rfl hsettled.admitted.sessionAt haddress
  exact ((Stays.refl before).write_session rfl haddress hsession _).write_vault
    rfl (.vaultAt rfl hsettled.vaultAt) _

theorem revokeSessionKey_stays {accounts : RevokeSessionKey}
    {args : RevokeSessionKeyArgs}
    (hok : revokeSessionKey runtime context accounts args before = .ok after) :
    Stays runtime (some accounts.vault) before after := by
  obtain ⟨vault, session, _, hrevoked, -, rfl⟩ := revokeSessionKey_ok hok
  have hsession := Within.sessionAt rfl hrevoked.sessionAt hrevoked.address
  exact ((Stays.refl before).write_session rfl hrevoked.address hsession
    _).write_vault rfl (.vaultAt rfl hrevoked.vaultAt) _

theorem closeSession_stays {accounts : CloseSession} {args : CloseSessionArgs}
    (hok : closeSession runtime context accounts args before = .ok after) :
    Stays runtime (some accounts.vault) before after := by
  simp only [closeSession, loadVault, loadSession, requireSessionAddress,
    bind_eq_ok_iff, load_eq_ok_iff, require_eq_ok_iff, pure_eq_ok_iff] at hok
  obtain ⟨_, _, session, hsession, _, _, _, haddress, _, _, _, _, rfl⟩ := hok
  exact Stays.close (.sessionAt rfl hsession haddress)

theorem lockVoucher_stays {accounts : LockVoucher} {args : LockVoucherArgs}
    (hok : lockVoucher runtime context accounts args before = .ok after) :
    Stays runtime (some accounts.vault) before after := by
  obtain ⟨vault, session, _, _, _, _, hlocked, rfl⟩ := lockVoucher_ok hok
  have haddress := hlocked.admitted.address
  have hsession := Within.sessionAt rfl hlocked.admitted.sessionAt haddress
  exact (((Stays.refl before).write_claim rfl rfl
    (.vacant hlocked.vacant)).write_session rfl haddress hsession
      _).write_vault rfl (.vaultAt rfl hlocked.vaultAt) _

theorem migrateV5ToV6WithSession_stays {accounts : MigrateV5ToV6WithSession}
    {args : MigrateV5ToV6WithSessionArgs}
    (hok : migrateV5ToV6WithSession runtime context accounts args before =
      .ok after) :
    Stays runtime (some accounts.vault) before after := by
  obtain ⟨v5, _, bump, hmigrated, rfl⟩ := migrateV5ToV6WithSession_ok hok
  have haddress : SessionAddress runtime accounts.vault args.liveCounterparty
      bump accounts.session := Runtime.create_of_find hmigrated.canonical
  exact ((Stays.refl before).write_session rfl haddress
    (.vacant hmigrated.vacant) _).write_vault rfl
    (.imageAt rfl hmigrated.imageAt) _

theorem transferLockOwnership_stays {accounts : TransferLockOwnership}
    {args : TransferLockOwnershipArgs}
    (hok : transferLockOwnership context accounts args before = .ok after) :
    Stays runtime ((before.claim? accounts.claim).map LockedClaim.vault) before
      after := by
  obtain ⟨claim, hclaim, -, rfl⟩ := transferLockOwnership_ok hok
  have habout : (before.claim? accounts.claim).map LockedClaim.vault =
      some claim.vault := by
    rw [hclaim, Option.map_some]
  exact (Stays.refl before).write_claim habout rfl (.claimAt habout hclaim rfl)

/-- The step lemma: an accepted call changes accounts of the vault it is about
and ledgers of financiers only. -/
theorem step_stays {call : Call} (hstep : step runtime before call = .ok after) :
    Stays runtime (aboutVault before call) before after := by
  cases call with
  | initializeVault context accounts args =>
      obtain ⟨hvacant, bump, rfl⟩ := initializeVault_ok hstep
      exact (Stays.refl before).write_vault rfl (.vacant hvacant) _
  | setSwig =>
      obtain ⟨vault, hvault, -, rfl⟩ := setSwig_ok hstep
      exact (Stays.refl before).write_vault rfl (.vaultAt rfl hvault) _
  | setSwigAtomic =>
      obtain ⟨vault, hvault, -, rfl⟩ := setSwigAtomic_ok hstep
      exact (Stays.refl before).write_vault rfl (.vaultAt rfl hvault) _
  | settleVoucher => exact settleVoucher_stays hstep
  | requestWithdrawal =>
      obtain ⟨vault, hrequested, rfl⟩ := requestWithdrawal_ok hstep
      exact (Stays.refl before).write_vault rfl (.vaultAt rfl hrequested.vaultAt) _
  | finalizeWithdrawal =>
      obtain ⟨vault, _, _, hfinalized, rfl⟩ := finalizeWithdrawal_ok hstep
      exact (Stays.refl before).write_vault rfl (.vaultAt rfl hfinalized.vaultAt) _
  | forceRelease =>
      obtain ⟨vault, _, hreleased, rfl⟩ := forceRelease_ok hstep
      exact (Stays.refl before).write_vault rfl (.vaultAt rfl hreleased.vaultAt) _
  | rotatePasskey =>
      obtain ⟨vault, hvault, -, rfl⟩ := rotatePasskey_ok hstep
      exact (Stays.refl before).write_vault rfl (.vaultAt rfl hvault) _
  | rotateDexterAuthority =>
      obtain ⟨vault, hvault, rfl⟩ := rotateDexterAuthority_ok hstep
      exact (Stays.refl before).write_vault rfl (.vaultAt rfl hvault) _
  | provePasskey =>
      obtain rfl := provePasskey_unchanged hstep
      exact .refl _
  | registerSessionKey => exact registerSessionKey_stays hstep
  | revokeSessionKey => exact revokeSessionKey_stays hstep
  | settleTabVoucher => exact settleTabVoucher_stays hstep
  | migrateV5ToV6 =>
      obtain ⟨v5, himage, rfl⟩ := migrateV5ToV6_ok hstep
      exact (Stays.refl before).write_vault rfl (.imageAt rfl himage) _
  | migrateV5ToV6WithSession => exact migrateV5ToV6WithSession_stays hstep
  | lockVoucher => exact lockVoucher_stays hstep
  | transferLockOwnership => exact transferLockOwnership_stays hstep
  | settleLockedVoucher =>
      obtain ⟨vault, claim, hsettled, rfl⟩ := settleLockedVoucher_ok hstep
      refine Stays.write_vault (.write_claim (.refl before) rfl ?_
        (.claimAt rfl hsettled.claimAt hsettled.sameVault)) rfl
          (.vaultAt rfl hsettled.vaultAt) _
      exact hsettled.sameVault
  | recoverAbandonedLock =>
      obtain ⟨vault, claim, hrecovered, rfl⟩ := recoverAbandonedLock_ok hstep
      refine Stays.write_vault (.write_claim (.refl before) rfl ?_
        (.claimAt rfl hrecovered.claimAt hrecovered.sameVault)) rfl
          (.vaultAt rfl hrecovered.vaultAt) _
      exact hrecovered.sameVault
  | openStandby =>
      obtain ⟨vault, backer, _, hopened, rfl⟩ := openStandby_ok hstep
      exact ((Stays.refl before).write (.backerAt hopened.backerAt)
        (.backer _)).write_vault rfl (.vaultAt rfl hopened.vaultAt) _
  | drawCredit =>
      obtain ⟨vault, _, _, hdrawn, rfl⟩ := drawCredit_ok hstep
      exact (Stays.refl before).write_vault rfl (.vaultAt rfl hdrawn.vaultAt) _
  | repayCredit =>
      obtain ⟨vault, hexited, rfl⟩ := repayCredit_ok hstep
      exact (Stays.refl before).write_vault rfl (.vaultAt rfl hexited.vaultAt) _
  | seizeCollateral =>
      obtain ⟨vault, hexited, rfl⟩ := seizeCollateral_ok hstep
      exact (Stays.refl before).write_vault rfl (.vaultAt rfl hexited.vaultAt) _
  | setStandbyReserve =>
      obtain ⟨found, _, hset, rfl⟩ := setStandbyReserve_ok hstep
      refine (Stays.refl before).write ?_ (.backer _)
      rcases hset.ledgerAt with ⟨hvacant, -⟩ | hfound
      · exact .vacant hvacant
      · exact .backerAt hfound
  | closeStandby =>
      obtain ⟨vault, backer, hclosed, rfl⟩ := closeStandby_ok hstep
      exact ((Stays.refl before).write (.backerAt hclosed.backerAt)
        (.backer _)).write_vault rfl (.vaultAt rfl hclosed.vaultAt) _
  | closeSession => exact closeSession_stays hstep

end Steps

/-! ## Runs -/

section Runs

variable {runtime : Runtime} {start state : State} {trace : Trace}
  {vaultKey key : Pubkey} {account : Account}

/-- What a vault owns is exactly what it owned at the start. -/
def Untouched (runtime : Runtime) (vaultKey : Pubkey) (start state : State) :
    Prop :=
  ∀ key account, Owned runtime vaultKey key account →
    (state.accounts.lookup key = some account ↔
      start.accounts.lookup key = some account)

/-- A key within another vault holds nothing of this one. -/
theorem Within.not_owned (hfree : runtime.CollisionFree) {about : Option Pubkey}
    {stored : Option Account} (habout : about ≠ some vaultKey)
    (hwithin : Within runtime about key stored)
    (howned : Owned runtime vaultKey key account) : stored ≠ some account := by
  intro hstored
  rcases hwithin account hstored with ⟨other, hother, hothers⟩ | ⟨_, rfl⟩
  · exact habout (hother.trans (congrArg some (hothers.unique hfree howned)))
  · cases howned

theorem Untouched.trans {middle : State}
    (hfirst : Untouched runtime vaultKey start middle)
    (hsecond : Untouched runtime vaultKey middle state) :
    Untouched runtime vaultKey start state :=
  fun key account howned =>
    (hsecond key account howned).trans (hfirst key account howned)

/-- Changes within another vault. -/
theorem Untouched.of_stays (hfree : runtime.CollisionFree)
    {about : Option Pubkey} (habout : about ≠ some vaultKey)
    (hstays : Stays runtime about start state) :
    Untouched runtime vaultKey start state := by
  intro key account howned
  rcases hstays key with hsame | ⟨hbefore, hafter⟩
  · rw [hsame]
  · exact iff_of_false (hafter.not_owned hfree habout howned)
      (hbefore.not_owned hfree habout howned)

/-- The environment writes to images and to ledgers. -/
theorem environment_untouched (hfree : runtime.CollisionFree)
    (hmigrated : start.vaultV5? vaultKey = none)
    (hmove : Environment start state) : Untouched runtime vaultKey start state := by
  cases hmove with
  | tokens tokens => exact fun _ _ _ => Iff.rfl
  | @image key image himage next =>
      have hkey : some key ≠ some vaultKey := by
        rintro ⟨⟩
        cases himage.symm.trans hmigrated
      exact .of_stays hfree hkey ((Stays.refl start).write (.imageAt rfl himage)
        (.owned rfl (.image next rfl)))
  | ledger himage hbacker next =>
      exact .of_stays hfree (Option.some_ne_none vaultKey).symm
        ((Stays.refl start).write (.backerAt hbacker) (.backer next))

/-- A vault that is not in the V5 layout does not return to it. -/
theorem Untouched.migrated (huntouched : Untouched runtime vaultKey start state)
    (hmigrated : start.vaultV5? vaultKey = none) :
    state.vaultV5? vaultKey = none := by
  rw [Option.eq_none_iff_forall_ne_some]
  intro image himage
  have hstored := (huntouched _ _ (.image image rfl)).mp
    (State.lookup_of_vaultV5? himage)
  rw [State.vaultV5?, State.view_of_lookup hstored] at hmigrated
  cases hmigrated

/-- Every run of calls about other vaults, by whomever and with whatever
accounts, leaves a vault that is no V5 image, all its sessions and all its claims
as they were, and gives it no new ones. -/
theorem untouched_by_others (hfree : runtime.CollisionFree)
    (hmigrated : start.vaultV5? vaultKey = none)
    (hrun : Run (system runtime) start trace state)
    (hothers : Guarded (fun _ accepted =>
      aboutVault accepted.before accepted.call ≠ some vaultKey) trace) :
    Untouched runtime vaultKey start state := by
  refine hrun.guarded_invariant (Untouched runtime vaultKey start)
    (fun _ _ _ => Iff.rfl) ?_ ?_ hothers
  · intro before call after huntouched hstep habout
    exact huntouched.trans (.of_stays hfree habout (step_stays hstep))
  · intro before after huntouched hmove
    have hbefore := huntouched.migrated hmigrated
    exact huntouched.trans (environment_untouched hfree hbefore hmove)

end Runs

section Examples

open Deployment

def rivalBeside (swigAddress : Pubkey) : State :=
  locked.write rivalVault (.vault { createdRival with swigAddress := swigAddress })

theorem beside_steps :
    step sampleRuntime locked createRival = .ok (rivalBeside defaultPubkey) ∧
      step sampleRuntime (rivalBeside defaultPubkey) bindRival =
        .ok (rivalBeside Deployment.swig) := by
  decide +kernel

/-- Next to a vault with a session and a claim another vault is created and bound
to the same swig. -/
theorem untouched_by_rival :
    Untouched sampleRuntime Deployment.vaultKey locked
      (rivalBeside Deployment.swig) := by
  obtain ⟨hcreate, hbind⟩ := beside_steps
  have hcreated : Run (system sampleRuntime) locked
      [⟨locked, createRival, rivalBeside defaultPubkey⟩]
      (rivalBeside defaultPubkey) := Run.start.accept hcreate
  have hbound : Run (system sampleRuntime) locked
      [⟨rivalBeside defaultPubkey, bindRival, rivalBeside Deployment.swig⟩,
        ⟨locked, createRival, rivalBeside defaultPubkey⟩]
      (rivalBeside Deployment.swig) := hcreated.accept hbind
  have hcurrent : locked.vaultV5? Deployment.vaultKey = none := by
    decide +kernel
  exact untouched_by_others sampleRuntime_collisionFree hcurrent hbound
    (by decide +kernel)

end Examples

end DexterVault.Isolation
