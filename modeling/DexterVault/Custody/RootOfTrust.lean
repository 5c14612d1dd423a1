import DexterVault.Instructions.Legacy
import DexterVault.Program.Assertions

/-!
# Who may change the root of a vault

Every handler takes the whole vault and writes it back, but each field that the
safety of a vault rests on has one owner: the passkey and the swig change under
an assertion of the current passkey, the authority changes under its own
signature, and the rest of the root never changes.  No migration accepts an
account that is already in the current layout.
-/

namespace DexterVault.RootOfTrust

open Function
open DexterVault.Machine
open DexterVault.Framing
open DexterVault.Accounts
open DexterVault.Execution
open DexterVault.Transition
open DexterVault.Setup
open DexterVault.Withdrawal
open DexterVault.Session
open DexterVault.Gate
open DexterVault.Voucher
open DexterVault.Claim
open DexterVault.Credit
open DexterVault.Migration
open DexterVault.Program
open DexterVault.Operations
open DexterVault.Assertions

/-! ## Owners -/

/-- The call carries an assertion for the operation, made by the passkey that
the vault has before the call. -/
def Endorsed (runtime : Runtime) (before : State) (call : Call) (key : Pubkey)
    (vault : Vault) (operation : Operation) : Prop :=
  ∃ attempt, presented before call = some attempt ∧ attempt.vault = key ∧
    attempt.operation = operation ∧
    attempt.Verified runtime call.context vault.passkeyPubkey

/-- The call rotates the authority of the vault, under the current one. -/
def AuthorityRotated (call : Call) (key : Pubkey) (vault : Vault)
    (newAuthority : Pubkey) : Prop :=
  ∃ context accounts args, call = .rotateDexterAuthority context accounts args ∧
    accounts.vault = key ∧ vault.dexterAuthority ∈ context.signers ∧
    args.newDexterAuthority = newAuthority ∧ newAuthority ≠ defaultPubkey

/-- What a call may make of a vault: every field that changes is changed by its
owner. -/
structure FieldsOwned (runtime : Runtime) (before : State) (call : Call)
    (key : Pubkey) (vault later : Vault) : Prop where
  passkey : later.passkeyPubkey = vault.passkeyPubkey ∨
    Endorsed runtime before call key vault (.rotatePasskey later.passkeyPubkey)
  swig : later.swigAddress = vault.swigAddress ∨
    vault.swigAddress = defaultPubkey ∧
      Endorsed runtime before call key vault (.setSwig later.swigAddress)
  authority : later.dexterAuthority = vault.dexterAuthority ∨
    AuthorityRotated call key vault later.dexterAuthority
  bump : later.bump = vault.bump
  identityClaim : later.identityClaim = vault.identityClaim
  coolingOffSeconds : later.coolingOffSeconds = vault.coolingOffSeconds
  version : later.version = vault.version
  crystallized : vault.totalCrystallizedAmount ≤ later.totalCrystallizedAmount
  settled : vault.totalSettledAmount ≤ later.totalSettledAmount
  vouchers : later.pendingVoucherCount ≤ vault.pendingVoucherCount ∨
    vault.dexterAuthority ∈ call.context.signers

/-- The fields that most calls leave alone. -/
structure VaultRoot where
  passkeyPubkey : PasskeyPubkey
  swigAddress : Pubkey
  dexterAuthority : Pubkey
  bump : U8
  identityClaim : FixedBytes 32
  coolingOffSeconds : U32
  version : U8

def rootOf (vault : Vault) : VaultRoot where
  passkeyPubkey := vault.passkeyPubkey
  swigAddress := vault.swigAddress
  dexterAuthority := vault.dexterAuthority
  bump := vault.bump
  identityClaim := vault.identityClaim
  coolingOffSeconds := vault.coolingOffSeconds
  version := vault.version

section Steps

variable {runtime : Runtime} {before middle after : State} {call : Call}
  {key target : Pubkey} {vault later written found : Vault}

theorem FieldsOwned.of_root (hroot : rootOf later = rootOf vault)
    (hcrystallized :
      vault.totalCrystallizedAmount ≤ later.totalCrystallizedAmount)
    (hsettled : vault.totalSettledAmount ≤ later.totalSettledAmount)
    (hvouchers : later.pendingVoucherCount ≤ vault.pendingVoucherCount ∨
      vault.dexterAuthority ∈ call.context.signers) :
    FieldsOwned runtime before call key vault later := by
  rw [rootOf, rootOf, VaultRoot.mk.injEq] at hroot
  obtain ⟨hpasskey, hswig, hauthority, hbump, hidentity, hcooling, hversion⟩ :=
    hroot
  exact ⟨.inl hpasskey, .inl hswig, .inl hauthority, hbump, hidentity, hcooling,
    hversion, hcrystallized, hsettled, hvouchers⟩

/-- A write that keeps the root, the totals and the voucher counter. -/
theorem FieldsOwned.of_kept (hroot : rootOf later = rootOf vault)
    (hcrystallized :
      later.totalCrystallizedAmount = vault.totalCrystallizedAmount)
    (hsettled : later.totalSettledAmount = vault.totalSettledAmount)
    (hvouchers : later.pendingVoucherCount = vault.pendingVoucherCount) :
    FieldsOwned runtime before call key vault later :=
  .of_root hroot hcrystallized.ge hsettled.ge (.inl hvouchers.le)

/-- Every vault is still there after the call, its fields changed by their
owners only; a vault that was not there before has the current version. -/
structure OwnedStep (runtime : Runtime) (before : State) (call : Call)
    (after : State) : Prop where
  kept : ∀ key vault, before.vault? key = some vault →
    ∃ later, after.vault? key = some later ∧
      FieldsOwned runtime before call key vault later
  new : ∀ key vault, before.vault? key = none →
    after.vault? key = some vault → vault.version = vaultVersionV6

theorem OwnedStep.of_same (hsame : after.vault? = before.vault?) :
    OwnedStep runtime before call after where
  kept key vault hvault :=
    ⟨vault, (congrFun hsame key).trans hvault, .of_kept rfl rfl rfl rfl⟩
  new key vault hnone hvault := by
    rw [congrFun hsame key, hnone] at hvault
    cases hvault

theorem vault?_write_of_ne (hmiddle : middle.vault? = before.vault?)
    {key : Pubkey} (hkey : key ≠ target) :
    (middle.write target (.vault written)).vault? key = before.vault? key := by
  rw [State.vault?, State.view_write, if_neg hkey]
  exact congrFun hmiddle key

/-- The last write of a call is to the vault it found; the writes before it are
to other accounts. -/
theorem OwnedStep.of_write (hmiddle : middle.vault? = before.vault?)
    (hfound : before.vault? target = some found)
    (howned : FieldsOwned runtime before call target found written) :
    OwnedStep runtime before call (middle.write target (.vault written)) := by
  constructor
  · intro key vault hvault
    by_cases hkey : key = target
    · subst hkey
      obtain rfl := Option.some.inj (hfound.symm.trans hvault)
      exact ⟨written, State.view_write_self, howned⟩
    · exact ⟨vault, (vault?_write_of_ne hmiddle hkey).trans hvault, .of_kept rfl rfl rfl rfl⟩
  · intro key vault hnone hvault
    have hkey : key ≠ target := by
      rintro rfl
      rw [hnone] at hfound
      cases hfound
    rw [vault?_write_of_ne hmiddle hkey, hnone] at hvault
    cases hvault

/-- A vault written where there was none. -/
theorem OwnedStep.of_new (hmiddle : middle.vault? = before.vault?)
    (hnone : before.vault? target = none)
    (hversion : written.version = vaultVersionV6) :
    OwnedStep runtime before call (middle.write target (.vault written)) := by
  constructor
  · intro key vault hvault
    have hkey : key ≠ target := by
      rintro rfl
      rw [hnone] at hvault
      cases hvault
    exact ⟨vault, (vault?_write_of_ne hmiddle hkey).trans hvault, .of_kept rfl rfl rfl rfl⟩
  · intro key vault hbefore hvault
    by_cases hkey : key = target
    · subst hkey
      rw [State.vault?, State.view_write_self] at hvault
      cases hvault
      exact hversion
    · rw [vault?_write_of_ne hmiddle hkey, hbefore] at hvault
      cases hvault

/-! The writes to other accounts leave the vaults alone. -/

theorem vaults_write_session {session written : SessionAccount}
    (hsession : before.session? key = some session) :
    (before.write key (.session written)).vault? = before.vault? :=
  State.view_write_of_eq ((State.view_of_session? hsession).trans rfl)

theorem vaults_write_claim {claim written : LockedClaim}
    (hclaim : before.claim? key = some claim) :
    (before.write key (.claim written)).vault? = before.vault? :=
  State.view_write_of_eq ((State.view_of_claim? hclaim).trans rfl)

theorem vaults_write_standbyBacker {backer written : StandbyBacker}
    (hbacker : before.standbyBacker? key = some backer) :
    (before.write key (.standbyBacker written)).vault? = before.vault? :=
  State.view_write_of_eq
    ((State.view_of_lookup (State.lookup_of_standbyBacker? hbacker)).trans rfl)

theorem vaults_write_vacant {account : Account}
    (hvacant : before.accounts.lookup key = none)
    (hvault : account.vault? = none) :
    (before.write key account).vault? = before.vault? :=
  State.view_write_of_eq ((State.view_of_lookup_none hvacant).trans hvault.symm)

theorem registerSessionKey_owned {context : Context}
    {accounts : RegisterSessionKey} {args : RegisterSessionKeyArgs}
    (hok : registerSessionKey runtime context accounts args before =
      .ok after) :
    OwnedStep runtime before (.registerSessionKey context accounts args)
      after := by
  obtain ⟨vault, _, session, bump, gate, count, hregistered, -, rfl⟩ :=
    registerSessionKey_ok hok
  have hforeign : before.vault? accounts.session = none := by
    rcases hregistered.found with ⟨hvacant, -⟩ | hsession
    · exact State.view_of_lookup_none hvacant
    · exact State.view_of_session? hsession
  have hmiddle : (gate.state.write accounts.session (.session
      (writtenSession session bump accounts.vault args))).vault? =
        before.vault? := by
    have hgate : gate.state.vault? = before.vault? := hregistered.run.vaults
    refine (State.view_write_of_eq ?_).trans hgate
    exact (congrFun hgate _).trans hforeign
  exact .of_write hmiddle hregistered.vaultAt (.of_kept rfl rfl rfl rfl)

theorem lockVoucher_owned {context : Context} {accounts : LockVoucher}
    {args : LockVoucherArgs}
    (hok : lockVoucher runtime context accounts args before = .ok after) :
    OwnedStep runtime before (.lockVoucher context accounts args) after := by
  obtain ⟨vault, account, ata, delta, outstanding, claimBump, hlocked, rfl⟩ :=
    lockVoucher_ok hok
  have hclaim := vaults_write_vacant hlocked.vacant (show Account.vault?
    (.claim (newClaim claimBump accounts.vault accounts.sellerHolder
      account.session.sessionPubkey delta context.unixTimestamp args)) = none
    from rfl)
  refine .of_write ?_ hlocked.vaultAt (.of_root rfl ?_ le_rfl (.inl le_rfl))
  · refine (State.view_write_of_eq ?_).trans hclaim
    have hnone : before.vault? accounts.session = none :=
      State.view_of_session? hlocked.admitted.sessionAt
    exact (congrFun hclaim _).trans hnone
  · rw [Fin.le_def, saturatingAdd_val]
    have hbound := vault.totalCrystallizedAmount.isLt
    omega

theorem settleVoucher_owned {context : Context} {accounts : SettleVoucher}
    {args : SettleVoucherArgs}
    (hok : settleVoucher runtime context accounts args before = .ok after) :
    OwnedStep runtime before (.settleVoucher context accounts args) after := by
  have hsigned : ∀ vault, before.vault? accounts.vault = some vault →
      vault.dexterAuthority ∈ context.signers := by
    intro vault hvault
    simp only [settleVoucher, loadVault, bind_eq_ok_iff, load_eq_ok_iff] at hok
    obtain ⟨found, hfound, _, hauthority, -⟩ := hok
    obtain rfl := Option.some.inj (hfound.symm.trans hvault)
    obtain ⟨hsigner, hsame⟩ := requireDexterAuthority_ok.mp hauthority
    exact hsame ▸ hsigner
  rcases settleVoucher_ok hok with ⟨hclose, -⟩ |
    ⟨hincrement, vault, sessionKey, session, newOutstanding, hopened, rfl⟩
  · obtain ⟨vault, hvault, -, rfl⟩ := settleVoucher_closed hok hclose
    exact .of_write rfl hvault
      (.of_root rfl le_rfl le_rfl (.inr (hsigned vault hvault)))
  · exact .of_write (vaults_write_session hopened.sessionAt) hopened.vaultAt
      (.of_root rfl le_rfl le_rfl (.inr (hsigned vault hopened.vaultAt)))

theorem rotateDexterAuthority_owned {context : Context}
    {accounts : RotateDexterAuthority} {args : RotateDexterAuthorityArgs}
    (hok : rotateDexterAuthority context accounts args before = .ok after) :
    OwnedStep runtime before (.rotateDexterAuthority context accounts args)
      after := by
  simp only [rotateDexterAuthority, loadVault, bind_eq_ok_iff, load_eq_ok_iff,
    require_eq_ok_iff, pure_eq_ok_iff] at hok
  obtain ⟨vault, hvault, _, hauthority, _, hdefault, _, _, rfl⟩ := hok
  obtain ⟨hsigner, hsame⟩ := requireDexterAuthority_ok.mp hauthority
  have hrotated : AuthorityRotated
      (.rotateDexterAuthority context accounts args) accounts.vault vault
      args.newDexterAuthority :=
    ⟨context, accounts, args, rfl, rfl, hsame ▸ hsigner, rfl, hdefault⟩
  exact .of_write rfl hvault ⟨.inl rfl, .inl rfl, .inr hrotated, rfl, rfl, rfl,
    rfl, le_rfl, le_rfl, .inl le_rfl⟩

/-- Every accepted call leaves every vault with its fields changed by their
owners only, one case for each instruction. -/
theorem step_owned (hok : step runtime before call = .ok after) :
    OwnedStep runtime before call after := by
  cases call with
  | initializeVault =>
      obtain ⟨hvacant, bump, rfl⟩ := initializeVault_ok hok
      exact .of_new rfl (State.view_of_lookup_none hvacant) rfl
  | setSwig context vaultKey args =>
      obtain ⟨vault, hvault, hverified⟩ := presented_verified hok rfl
      obtain ⟨found, hfound, hdefault, rfl⟩ := setSwig_ok hok
      obtain rfl := Option.some.inj (hfound.symm.trans hvault)
      exact .of_write rfl hvault ⟨.inl rfl,
        .inr ⟨hdefault, _, rfl, rfl, rfl, hverified⟩, .inl rfl, rfl, rfl, rfl,
        rfl, le_rfl, le_rfl, .inl le_rfl⟩
  | setSwigAtomic context accounts args =>
      obtain ⟨vault, hvault, hverified⟩ := presented_verified hok rfl
      obtain ⟨found, hfound, hdefault, rfl⟩ := setSwigAtomic_ok hok
      obtain rfl := Option.some.inj (hfound.symm.trans hvault)
      exact .of_write rfl hvault ⟨.inl rfl,
        .inr ⟨hdefault, _, rfl, rfl, rfl, hverified⟩, .inl rfl, rfl, rfl, rfl,
        rfl, le_rfl, le_rfl, .inl le_rfl⟩
  | settleVoucher => exact settleVoucher_owned hok
  | requestWithdrawal =>
      obtain ⟨vault, hrequested, rfl⟩ := requestWithdrawal_ok hok
      exact .of_write rfl hrequested.vaultAt (.of_kept rfl rfl rfl rfl)
  | finalizeWithdrawal =>
      obtain ⟨vault, pending, ata, hfinalized, rfl⟩ := finalizeWithdrawal_ok hok
      exact .of_write rfl hfinalized.vaultAt (.of_kept rfl rfl rfl rfl)
  | forceRelease =>
      obtain ⟨vault, pending, hreleased, rfl⟩ := forceRelease_ok hok
      refine .of_write rfl hreleased.vaultAt
        (.of_root rfl le_rfl le_rfl (.inl ?_))
      rw [Fin.le_def]
      exact Nat.sub_le _ _
  | rotatePasskey context vaultKey args =>
      obtain ⟨vault, hvault, hverified⟩ := presented_verified hok rfl
      obtain ⟨found, hfound, -, rfl⟩ := rotatePasskey_ok hok
      obtain rfl := Option.some.inj (hfound.symm.trans hvault)
      exact .of_write rfl hvault ⟨.inr ⟨_, rfl, rfl, rfl, hverified⟩, .inl rfl,
        .inl rfl, rfl, rfl, rfl, rfl, le_rfl, le_rfl, .inl le_rfl⟩
  | rotateDexterAuthority context accounts args =>
      exact rotateDexterAuthority_owned hok
  | provePasskey =>
      obtain rfl := provePasskey_unchanged hok
      exact .of_same rfl
  | registerSessionKey => exact registerSessionKey_owned hok
  | revokeSessionKey =>
      obtain ⟨vault, session, count, hrevoked, -, rfl⟩ := revokeSessionKey_ok hok
      exact .of_write (vaults_write_session hrevoked.sessionAt) hrevoked.vaultAt
        (.of_kept rfl rfl rfl rfl)
  | settleTabVoucher =>
      obtain ⟨vault, account, increment, hsettled, rfl⟩ := settleTabVoucher_ok hok
      refine .of_write (vaults_write_session hsettled.admitted.sessionAt)
        hsettled.vaultAt (.of_root rfl le_rfl le_rfl (.inl ?_))
      rw [Fin.le_def]
      exact Nat.sub_le _ _
  | migrateV5ToV6 =>
      obtain ⟨v5, himage, rfl⟩ := migrateV5ToV6_ok hok
      exact .of_new rfl (State.view_of_vaultV5? himage) rfl
  | migrateV5ToV6WithSession context accounts args =>
      obtain ⟨v5, carried, bump, hmigrated, rfl⟩ :=
        migrateV5ToV6WithSession_ok hok
      exact .of_new (vaults_write_vacant hmigrated.vacant rfl)
        (State.view_of_vaultV5? hmigrated.imageAt) rfl
  | lockVoucher => exact lockVoucher_owned hok
  | transferLockOwnership =>
      obtain ⟨claim, hclaim, -, rfl⟩ := transferLockOwnership_ok hok
      exact .of_same (vaults_write_claim hclaim)
  | settleLockedVoucher =>
      obtain ⟨vault, claim, hsettled, rfl⟩ := settleLockedVoucher_ok hok
      refine .of_write (vaults_write_claim hsettled.claimAt) hsettled.vaultAt
        (.of_root rfl le_rfl ?_ (.inl le_rfl))
      rw [Fin.le_def, saturatingAdd_val]
      have hbound := vault.totalSettledAmount.isLt
      omega
  | recoverAbandonedLock =>
      obtain ⟨vault, claim, hrecovered, rfl⟩ := recoverAbandonedLock_ok hok
      exact .of_write (vaults_write_claim hrecovered.claimAt) hrecovered.vaultAt
        (.of_kept rfl rfl rfl rfl)
  | openStandby =>
      obtain ⟨vault, backer, newAggregate, hopened, rfl⟩ := openStandby_ok hok
      exact .of_write (vaults_write_standbyBacker hopened.backerAt)
        hopened.vaultAt (.of_kept rfl rfl rfl rfl)
  | drawCredit =>
      obtain ⟨vault, newBorrowed, recoveryAt, hdrawn, rfl⟩ := drawCredit_ok hok
      exact .of_write rfl hdrawn.vaultAt (.of_kept rfl rfl rfl rfl)
  | repayCredit =>
      obtain ⟨vault, hexited, rfl⟩ := repayCredit_ok hok
      exact .of_write rfl hexited.vaultAt (.of_kept rfl rfl rfl rfl)
  | seizeCollateral =>
      obtain ⟨vault, hexited, rfl⟩ := seizeCollateral_ok hok
      exact .of_write rfl hexited.vaultAt (.of_kept rfl rfl rfl rfl)
  | setStandbyReserve =>
      obtain ⟨found, bump, hset, rfl⟩ := setStandbyReserve_ok hok
      rcases hset.ledgerAt with ⟨hvacant, -⟩ | hbacker
      · exact .of_same (vaults_write_vacant hvacant rfl)
      · exact .of_same (vaults_write_standbyBacker hbacker)
  | closeStandby =>
      obtain ⟨vault, backer, hclosed, rfl⟩ := closeStandby_ok hok
      exact .of_write (vaults_write_standbyBacker hclosed.backerAt)
        hclosed.vaultAt (.of_kept rfl rfl rfl rfl)
  | closeSession =>
      obtain ⟨session, hsession, -, rfl⟩ := closeSession_ok hok
      exact .of_same
        (State.view_close_of_none (State.view_of_session? hsession))

/-- The environment writes no vault. -/
theorem environment_vaults (hmove : Environment before after) :
    after.vault? = before.vault? := by
  cases hmove with
  | tokens => rfl
  | image himage =>
      exact State.view_write_of_eq ((State.view_of_vaultV5? himage).trans rfl)
  | ledger _ hbacker => exact vaults_write_standbyBacker hbacker

end Steps

/-! ## Runs -/

/-- What no part of a run changes: the fixed fields, a swig once it is bound,
and the totals other than upwards. -/
structure Persists (vault later : Vault) : Prop where
  swig : vault.swigAddress ≠ defaultPubkey →
    later.swigAddress = vault.swigAddress
  bump : later.bump = vault.bump
  identityClaim : later.identityClaim = vault.identityClaim
  coolingOffSeconds : later.coolingOffSeconds = vault.coolingOffSeconds
  version : later.version = vault.version
  crystallized : vault.totalCrystallizedAmount ≤ later.totalCrystallizedAmount
  settled : vault.totalSettledAmount ≤ later.totalSettledAmount

theorem Persists.refl (vault : Vault) : Persists vault vault :=
  ⟨fun _ => rfl, rfl, rfl, rfl, rfl, le_rfl, le_rfl⟩

theorem Persists.trans {vault middle later : Vault}
    (hfirst : Persists vault middle) (hsecond : Persists middle later) :
    Persists vault later where
  swig hbound :=
    (hsecond.swig (hfirst.swig hbound ▸ hbound)).trans (hfirst.swig hbound)
  bump := hsecond.bump.trans hfirst.bump
  identityClaim := hsecond.identityClaim.trans hfirst.identityClaim
  coolingOffSeconds := hsecond.coolingOffSeconds.trans hfirst.coolingOffSeconds
  version := hsecond.version.trans hfirst.version
  crystallized := hfirst.crystallized.trans hsecond.crystallized
  settled := hfirst.settled.trans hsecond.settled

theorem FieldsOwned.persists {runtime : Runtime} {before : State} {call : Call}
    {key : Pubkey} {vault later : Vault}
    (howned : FieldsOwned runtime before call key vault later) :
    Persists vault later where
  swig hbound := by
    rcases howned.swig with hsame | ⟨hdefault, -⟩
    · exact hsame
    · exact absurd hdefault hbound
  bump := howned.bump
  identityClaim := howned.identityClaim
  coolingOffSeconds := howned.coolingOffSeconds
  version := howned.version
  crystallized := howned.crystallized
  settled := howned.settled

section Runs

variable {runtime : Runtime} {start state : State} {trace : Trace}

/-- The run lemma: no vault disappears, and each persists. -/
theorem persists_run (hrun : Run (system runtime) start trace state)
    {key : Pubkey} {vault : Vault} (hvault : start.vault? key = some vault) :
    ∃ later, state.vault? key = some later ∧ Persists vault later := by
  apply hrun.invariant
    fun state => ∃ later, state.vault? key = some later ∧ Persists vault later
  · exact ⟨vault, hvault, .refl vault⟩
  · rintro before call after ⟨middle, hmiddle, hpersists⟩ hstep
    obtain ⟨later, hlater, howned⟩ := (step_owned hstep).kept key middle hmiddle
    exact ⟨later, hlater, hpersists.trans howned.persists⟩
  · rintro before after ⟨middle, hmiddle, hpersists⟩ hmove
    exact ⟨middle, (congrFun (environment_vaults hmove) key).trans hmiddle,
      hpersists⟩

/-- Every vault of a run that starts without vaults has the current version. -/
theorem version_run (hrun : Run (system runtime) start trace state)
    (hstart : OnlyImages start) (key : Pubkey) (vault : Vault)
    (hvault : state.vault? key = some vault) :
    vault.version = vaultVersionV6 := by
  apply hrun.invariant
    (fun state => ∀ key vault, state.vault? key = some vault →
      vault.version = vaultVersionV6) _ _ _ key vault hvault
  · intro key vault hvault
    have hledger := State.ledger?_of_vault? hvault
    rw [hstart.1] at hledger
    cases hledger
  · intro before call after hversions hstep key later hlater
    have howned := step_owned hstep
    cases hvault : before.vault? key with
    | none => exact howned.new key later hvault hlater
    | some vault =>
        obtain ⟨found, hfound, hfields⟩ := howned.kept key vault hvault
        obtain rfl := Option.some.inj (hfound.symm.trans hlater)
        exact hfields.version.trans (hversions key vault hvault)
  · intro before after hversions hmove key vault hvault
    exact hversions key vault
      ((congrFun (environment_vaults hmove) key).symm.trans hvault)

end Runs

/-! ## Migrations -/

section Migrations

open DexterVault.Layouts
open DexterVault.Hops
open DexterVault.Legacy

variable {v6 : Vault} {account : Funded}

/-- The layout of an older generation does not read a current account. -/
theorem not_readFrozen_current {Value : Type} {layout : Borsh.Codec Value}
    {version : U8} {value : Value}
    (himage : IsImage Layouts.vault v6 account.data)
    (hcurrent : v6.version = vaultVersionV6)
    (hversion : version ≠ vaultVersionV6) :
    readFrozen layout version account.data ≠ .ok value := by
  intro hread
  simp only [readFrozen, bind_eq_ok_iff, require_eq_ok_iff] at hread
  obtain ⟨_, _, _, _, _, hstamp, -⟩ := hread
  obtain ⟨rest, hdata⟩ := himage.encoded
  have hfound : account.data.getD 8 0 = v6.version := by
    rw [← hdata]
    rfl
  exact hversion (hstamp.symm.trans (hfound.trans hcurrent))

theorem not_migrateUp_current {Old New : Type} {reader : Borsh.Codec Old}
    {version : U8} {writer : Borsh.Codec New} {recordedAuthority : Old → Pubkey}
    {upgraded : Old → New} {rent : Rent} {context : Context}
    {accounts : MigrateV5ToV6} {after : Funded}
    (himage : IsImage Layouts.vault v6 account.data)
    (hcurrent : v6.version = vaultVersionV6)
    (hversion : version ≠ vaultVersionV6) :
    migrateUp reader version writer recordedAuthority upgraded rent context
      accounts account ≠ .ok after := by
  intro hok
  simp only [migrateUp, bind_eq_ok_iff] at hok
  obtain ⟨_, _, _, _, old, hread, -⟩ := hok
  exact not_readFrozen_current himage hcurrent hversion hread

/-- No migration accepts the account, whoever signs. -/
structure NotMigrated (runtime : Runtime) (rent : Rent) (context : Context)
    (account : Funded) : Prop where
  v2 : ∀ accounts after,
    Hops.migrateV2ToV3 rent context accounts account ≠ .ok after
  v3 : ∀ accounts after,
    Hops.migrateV3ToV4 rent context accounts account ≠ .ok after
  v4 : ∀ accounts after,
    Hops.migrateV4ToV5 rent context accounts account ≠ .ok after
  v5 : ∀ accounts after,
    Hops.migrateV5ToV6 rent context accounts account ≠ .ok after
  v5WithSession : ∀ accounts args sessionData after,
    Hops.migrateV5ToV6WithSession runtime rent context accounts args sessionData
      account ≠ .ok after
  legacy : ∀ accounts after,
    migrateLegacyToV6 rent context accounts account ≠ .ok after

/-- An account in the current layout is refused: the hops read another version,
and the legacy migration another length. -/
theorem migrations_refuse_current
    (himage : IsImage Layouts.vault v6 account.data)
    (hcurrent : v6.version = vaultVersionV6) (runtime : Runtime) (rent : Rent)
    (context : Context) : NotMigrated runtime rent context account := by
  refine ⟨?_, fun _ _ => not_migrateUp_current himage hcurrent (by decide),
    fun _ _ => not_migrateUp_current himage hcurrent (by decide), ?_, ?_, ?_⟩
  · intro accounts after hok
    simp only [Hops.migrateV2ToV3, bind_eq_ok_iff] at hok
    obtain ⟨_, _, _, _, header, hread, -⟩ := hok
    exact not_readFrozen_current himage hcurrent (by decide) hread
  · intro accounts after hok
    simp only [Hops.migrateV5ToV6, bind_eq_ok_iff] at hok
    obtain ⟨_, _, _, _, v5, hread, -⟩ := hok
    exact not_readFrozen_current himage hcurrent (by decide) hread
  · intro accounts args sessionData after hok
    simp only [Hops.migrateV5ToV6WithSession, bind_eq_ok_iff] at hok
    obtain ⟨_, _, _, _, _, _, _, _, _, _, v5, hread, -⟩ := hok
    exact not_readFrozen_current himage hcurrent (by decide) hread
  · intro accounts after hok
    simp only [migrateLegacyToV6, decodeLegacyVault, bind_eq_ok_iff,
      require_eq_ok_iff] at hok
    obtain ⟨_, _, _, _, legacy, ⟨_, hlength, -⟩, -⟩ := hok
    rw [himage.size] at hlength
    exact absurd hlength (by decide)

end Migrations

/-- Over every run, whoever signs and whatever the arguments are: each accepted
call changes the root of a vault only through the owner of the field, nothing
else changes a vault, what is fixed stays fixed from any point of the run to any
later one, every vault has the current version, and no migration accepts an
account in the current layout. -/
theorem root_of_trust_owned {runtime : Runtime} {start state : State}
    {trace : Trace} (hrun : Run (system runtime) start trace state) :
    (∀ accepted ∈ trace, ∀ key vault,
      accepted.before.vault? key = some vault →
      ∃ later, accepted.after.vault? key = some later ∧
        FieldsOwned runtime accepted.before accepted.call key vault later) ∧
    (∀ before after, (system runtime).environment before after →
      after.vault? = before.vault?) ∧
    (∀ key vault, start.vault? key = some vault →
      ∃ later, state.vault? key = some later ∧ Persists vault later) ∧
    (OnlyImages start → ∀ key vault, state.vault? key = some vault →
      vault.version = vaultVersionV6) ∧
    ∀ (v6 : Vault) (account : Hops.Funded),
      Layouts.IsImage Layouts.vault v6 account.data →
      v6.version = vaultVersionV6 → ∀ rent context,
      NotMigrated runtime rent context account := by
  refine ⟨?_, fun _ _ => environment_vaults, fun _ _ => persists_run hrun,
    version_run hrun, fun v6 account himage hcurrent rent context =>
      migrations_refuse_current himage hcurrent runtime rent context⟩
  intro accepted hmem
  obtain ⟨_, _, -, -, hstep⟩ := hrun.step_of_mem hmem
  exact (step_owned hstep).kept

section Sample

open Deployment

theorem root_of_trust_owned_bound :
    ∃ later, bound.vault? vaultKey = some later ∧
      FieldsOwned sampleRuntime created bindSwig vaultKey
        (newVault 255 authority ⟨passkey, 0, identityClaim⟩) later :=
  (root_of_trust_owned bound_run).1 ⟨created, bindSwig, bound⟩ (by simp [boundTrace])
    vaultKey _ (by decide +kernel)

end Sample

end DexterVault.RootOfTrust
