import DexterVault.Program.Step
import DexterVault.State.Terms

/-!
# What one accepted call changes in the terms of the vaults

The counterpart of the cases for ledgers, sessions and claims: which terms of
which vault, and which ledger of a financier, an accepted call writes.  The
calls that keep the terms of every vault are one case.
-/

namespace DexterVault.Program

open Function
open DexterVault.Machine
open DexterVault.Accounts
open DexterVault.Execution
open DexterVault.Setup
open DexterVault.Withdrawal
open DexterVault.Session
open DexterVault.Gate
open DexterVault.Voucher
open DexterVault.Claim
open DexterVault.Credit
open DexterVault.Migration

/-- The calls that write no term of a vault and no ledger of a financier. -/
def Call.keepsTerms : Call → Bool
  | .setSwig .. | .setSwigAtomic .. | .rotateDexterAuthority ..
  | .provePasskey .. | .registerSessionKey .. | .revokeSessionKey ..
  | .lockVoucher .. | .transferLockOwnership .. | .settleLockedVoucher ..
  | .recoverAbandonedLock .. | .closeSession .. => true
  | _ => false

/-- The terms of a vault that `initialize_vault` creates. -/
def initialTerms (args : InitializeVaultArgs) : VaultTerms where
  passkeyPubkey := args.passkeyPubkey
  coolingOffSeconds := args.coolingOffSeconds
  pendingVoucherCount := 0
  pendingWithdrawal := none
  borrowed := 0
  standbyBacker := none
  standbyCap := 0
  borrowRecoveryAt := none

inductive TermsChange (runtime : Runtime) (before : State) : Call → State → Prop
  | kept {call : Call} {after : State} (hkeeps : call.keepsTerms = true)
      (hviews : HasTerms after before.terms? before.standbyBacker?) :
      TermsChange runtime before call after
  | created {context : Context} {accounts : InitializeVault}
      {args : InitializeVaultArgs} {after : State}
      (hvacant : before.terms? accounts.vault = none)
      (hviews : HasTerms after
        (update before.terms? accounts.vault (some (initialTerms args)))
        before.standbyBacker?) :
      TermsChange runtime before (.initializeVault context accounts args) after
  | migrated {call : Call} {key : Pubkey} {v5 : VaultV5Reader} {after : State}
      {terms : VaultTerms} (hcall : call.migratedVault = some key)
      (himage : before.vaultV5? key = some v5)
      (hviews : HasTerms after (update before.terms? key (some terms))
        before.standbyBacker?) :
      TermsChange runtime before call after
  | tabOpened {context : Context} {accounts : SettleVoucher}
      {args : SettleVoucherArgs} {after : State} {vault : Vault}
      (hincrement : args.increment = true)
      (hvault : before.vault? accounts.vault = some vault)
      (hviews : HasTerms after
        (update before.terms? accounts.vault (some { vault.terms with
          pendingVoucherCount := saturatingAdd vault.pendingVoucherCount 1 }))
        before.standbyBacker?) :
      TermsChange runtime before (.settleVoucher context accounts args) after
  | tabClosed {context : Context} {accounts : SettleVoucher}
      {args : SettleVoucherArgs} {after : State} {vault : Vault}
      (hclose : args.increment = false)
      (hvault : before.vault? accounts.vault = some vault)
      (hviews : HasTerms after
        (update before.terms? accounts.vault (some { vault.terms with
          pendingVoucherCount := saturatingSub vault.pendingVoucherCount 1 }))
        before.standbyBacker?) :
      TermsChange runtime before (.settleVoucher context accounts args) after
  | tabSettled {context : Context} {accounts : SettleTabVoucher}
      {args : SettleTabVoucherArgs} {after : State} {vault : Vault}
      (hvault : before.vault? accounts.vault = some vault)
      (hviews : HasTerms after
        (update before.terms? accounts.vault (some { vault.terms with
          pendingVoucherCount := saturatingSub vault.pendingVoucherCount 1 }))
        before.standbyBacker?) :
      TermsChange runtime before (.settleTabVoucher context accounts args) after
  | requested {context : Context} {vaultKey : Pubkey}
      {args : RequestWithdrawalArgs} {after : State} {vault : Vault}
      (hrequested : Requested runtime context vaultKey args before vault)
      (hviews : HasTerms after
        (update before.terms? vaultKey (some { vault.terms with
          pendingWithdrawal := some args.pending })) before.standbyBacker?) :
      TermsChange runtime before (.requestWithdrawal context vaultKey args) after
  | finalized {context : Context} {accounts : FinalizeWithdrawal}
      {args : Webauthn.Assertion} {after : State} {vault : Vault}
      {pending : PendingWithdrawal} {ata : TokenAccount}
      (hfinalized : Finalized runtime context accounts args before vault pending
        ata)
      (hviews : HasTerms after
        (update before.terms? accounts.vault (some { vault.terms with
          pendingWithdrawal := none })) before.standbyBacker?) :
      TermsChange runtime before (.finalizeWithdrawal context accounts args)
        after
  | released {context : Context} {vaultKey : Pubkey}
      {args : Webauthn.Assertion} {after : State} {vault : Vault}
      {pending : PendingWithdrawal}
      (hreleased : Released runtime context vaultKey args before vault pending)
      (hviews : HasTerms after
        (update before.terms? vaultKey (some { vault.terms with
          pendingVoucherCount := predecessor vault.pendingVoucherCount }))
        before.standbyBacker?) :
      TermsChange runtime before (.forceRelease context vaultKey args) after
  | rotated {context : Context} {vaultKey : Pubkey} {args : RotatePasskeyArgs}
      {after : State} {vault : Vault}
      (hvault : before.vault? vaultKey = some vault)
      (hviews : HasTerms after
        (update before.terms? vaultKey (some { vault.terms with
          passkeyPubkey := args.newPasskeyPubkey })) before.standbyBacker?) :
      TermsChange runtime before (.rotatePasskey context vaultKey args) after
  | reserveSet {context : Context} {accounts : SetStandbyReserve}
      {args : SetStandbyReserveArgs} {after : State} {found : StandbyBacker}
      {bump : U8} (hset : ReserveSet runtime accounts args before found bump)
      (hviews : HasTerms after before.terms?
        (update before.standbyBacker? accounts.standbyBacker
          (some { initializedBacker found bump accounts.financierSwig with
            committedReserve := args.newReserve }))) :
      TermsChange runtime before (.setStandbyReserve context accounts args) after
  | standbyOpened {context : Context} {accounts : OpenStandby}
      {args : OpenStandbyArgs} {after : State} {vault : Vault}
      {backer : StandbyBacker} {newAggregate : U64}
      (hopened : StandbyOpened accounts args before vault backer newAggregate)
      (hviews : HasTerms after
        (update before.terms? accounts.vault (some { vault.terms with
          standbyBacker := some accounts.financierSwig
          standbyCap := args.cap }))
        (update before.standbyBacker? accounts.standbyBacker
          (some { backer with aggregatePromised := newAggregate }))) :
      TermsChange runtime before (.openStandby context accounts args) after
  | drawn {context : Context} {accounts : DrawCredit} {args : DrawCreditArgs}
      {after : State} {vault : Vault} {newBorrowed : U64}
      {recoveryAt : Option I64}
      (hdrawn : CreditDrawn context accounts args before vault newBorrowed
        recoveryAt)
      (hviews : HasTerms after
        (update before.terms? accounts.vault (some { vault.terms with
          borrowed := newBorrowed
          borrowRecoveryAt := recoveryAt })) before.standbyBacker?) :
      TermsChange runtime before (.drawCredit context accounts args) after
  | repaid {context : Context} {accounts : CreditExit} {args : RepayCreditArgs}
      {after : State} {vault : Vault}
      (hexited : CreditExited context accounts before vault)
      (hviews : HasTerms after
        (update before.terms? accounts.vault
          (some (repaidVault vault args).terms)) before.standbyBacker?) :
      TermsChange runtime before (.repayCredit context accounts args) after
  | seized {context : Context} {accounts : CreditExit} {after : State}
      {vault : Vault} (hexited : CreditExited context accounts before vault)
      (hviews : HasTerms after
        (update before.terms? accounts.vault (some { vault.terms with
          borrowed := 0
          borrowRecoveryAt := none })) before.standbyBacker?) :
      TermsChange runtime before (.seizeCollateral context accounts) after
  | standbyClosed {context : Context} {accounts : CloseStandby}
      {args : CloseStandbyArgs} {after : State} {vault : Vault}
      {backer : StandbyBacker}
      (hclosed : StandbyClosed accounts before vault backer)
      (hviews : HasTerms after
        (update before.terms? accounts.vault (some { vault.terms with
          standbyBacker := none
          standbyCap := 0 }))
        (update before.standbyBacker? accounts.standbyBacker
          (some { backer with
            aggregatePromised :=
              saturatingSub backer.aggregatePromised vault.standbyCap }))) :
      TermsChange runtime before (.closeStandby context accounts args) after

section Writes

variable {state : State} {vaultKey otherKey : Pubkey} {vault after : Vault}

/-- A write to a stored vault. -/
theorem terms_write_vault (hvault : state.vault? vaultKey = some vault)
    (after : Vault) :
    HasTerms (state.write vaultKey (.vault after))
      (update state.terms? vaultKey (some after.terms)) state.standbyBacker? :=
  (HasTerms.self state).write_vault (State.view_of_vault? hvault) after

/-- A write to a stored vault that keeps its terms. -/
theorem terms_write_same (hvault : state.vault? vaultKey = some vault)
    (hsame : after.terms = vault.terms) :
    HasTerms (state.write vaultKey (.vault after)) state.terms?
      state.standbyBacker? :=
  (HasTerms.self state).write_vault_same (State.view_of_vault? hvault)
    (by rw [hsame]; exact State.terms?_of_vault? hvault)

/-- A write to an account of another type and then to a stored vault. -/
theorem terms_foreign_vault {account : Account}
    (hviews : HasTerms (state.write otherKey account) state.terms?
      state.standbyBacker?)
    (hvault : state.vault? vaultKey = some vault) (after : Vault) :
    HasTerms ((state.write otherKey account).write vaultKey (.vault after))
      (update state.terms? vaultKey (some after.terms)) state.standbyBacker? :=
  hviews.write_vault (State.view_of_vault? hvault) after

/-- A write to the ledger of a financier and then to a stored vault. -/
theorem terms_backer_vault {backer afterBacker : StandbyBacker}
    (hbacker : state.standbyBacker? otherKey = some backer)
    (hvault : state.vault? vaultKey = some vault) (after : Vault) :
    HasTerms
      ((state.write otherKey (.standbyBacker afterBacker)).write vaultKey
        (.vault after))
      (update state.terms? vaultKey (some after.terms))
      (update state.standbyBacker? otherKey (some afterBacker)) := by
  have hlookup := State.lookup_of_standbyBacker? hbacker
  have hne : vaultKey ≠ otherKey := by
    rintro rfl
    rw [State.standbyBacker?, State.view_of_vault? hvault] at hbacker
    cases hbacker
  apply ((HasTerms.self state).write_standbyBacker
    (State.terms?_of_lookup hlookup rfl) afterBacker).write_vault
  rw [update_of_ne hne]
  exact State.view_of_vault? hvault

/-- A write to a stored session changes no terms. -/
theorem terms_write_session {session : SessionAccount}
    (hsession : state.session? otherKey = some session)
    (after : SessionAccount) :
    HasTerms (state.write otherKey (.session after)) state.terms?
      state.standbyBacker? :=
  (HasTerms.self state).write_foreign rfl rfl
    (State.terms?_of_lookup (State.lookup_of_session? hsession) rfl)
    (State.view_of_session? hsession)

/-- A write to a stored claim changes no terms. -/
theorem terms_write_claim {claim : LockedClaim}
    (hclaim : state.claim? otherKey = some claim) (after : LockedClaim) :
    HasTerms (state.write otherKey (.claim after)) state.terms?
      state.standbyBacker? :=
  (HasTerms.self state).write_foreign rfl rfl
    (State.terms?_of_lookup (State.lookup_of_claim? hclaim) rfl)
    (State.view_of_claim? hclaim)

/-- A session or a claim created at a vacant address. -/
theorem terms_write_vacant (hvacant : state.accounts.lookup otherKey = none)
    (account : Account) (hvault : account.vault? = none)
    (hbacker : account.standbyBacker? = none) :
    HasTerms (state.write otherKey account) state.terms?
      state.standbyBacker? :=
  (HasTerms.self state).write_foreign hvault hbacker
    (State.terms?_of_vacant hvacant) (State.view_of_lookup_none hvacant)

end Writes

section Steps

variable {runtime : Runtime} {context : Context} {state next : State}

theorem registerSessionKey_terms {accounts : RegisterSessionKey}
    {args : RegisterSessionKeyArgs}
    (hok : registerSessionKey runtime context accounts args state = .ok next) :
    HasTerms next state.terms? state.standbyBacker? := by
  obtain ⟨vault, _, session, bump, gate, count, hregistered, hgate, -, rfl⟩ :=
    registerSessionKey_gate hok
  have hswept : HasTerms gate.state state.terms? state.standbyBacker? :=
    ⟨State.terms?_of_view hregistered.run.vaults, gateLoop_view (fun _ => rfl) hgate⟩
  have hforeign : state.terms? accounts.session = none ∧
      state.standbyBacker? accounts.session = none := by
    rcases hregistered.found with ⟨hvacant, -⟩ | hsession
    · exact ⟨State.terms?_of_vacant hvacant, State.view_of_lookup_none hvacant⟩
    · exact ⟨State.terms?_of_lookup (State.lookup_of_session? hsession) rfl,
        State.view_of_session? hsession⟩
  apply (hswept.write_foreign rfl rfl hforeign.1 hforeign.2).write_vault_same
  · exact State.view_of_vault? hregistered.vaultAt
  · exact (State.terms?_of_vault? hregistered.vaultAt).trans rfl

theorem lockVoucher_terms {accounts : LockVoucher} {args : LockVoucherArgs}
    (hok : lockVoucher runtime context accounts args state = .ok next) :
    HasTerms next state.terms? state.standbyBacker? := by
  obtain ⟨vault, account, ata, delta, outstanding, claimBump, hlocked, rfl⟩ :=
    lockVoucher_ok hok
  have hsession := hlocked.admitted.sessionAt
  have hclaim := terms_write_vacant hlocked.vacant
    (.claim (newClaim claimBump accounts.vault accounts.sellerHolder
      account.session.sessionPubkey delta context.unixTimestamp args)) rfl rfl
  apply (hclaim.write_foreign rfl rfl
    (State.terms?_of_lookup (State.lookup_of_session? hsession) rfl)
    (State.view_of_session? hsession)).write_vault_same
  · exact State.view_of_vault? hlocked.vaultAt
  · exact (State.terms?_of_vault? hlocked.vaultAt).trans rfl

theorem settleVoucher_terms {accounts : SettleVoucher}
    {args : SettleVoucherArgs}
    (hok : settleVoucher runtime context accounts args state = .ok next) :
    TermsChange runtime state (.settleVoucher context accounts args) next := by
  rcases settleVoucher_ok hok with ⟨hclose, -⟩ |
    ⟨hincrement, vault, sessionKey, session, newOutstanding, hopened, rfl⟩
  · obtain ⟨vault, hvault, -, rfl⟩ := settleVoucher_closed hok hclose
    exact .tabClosed hclose hvault (terms_write_vault hvault { vault with
      pendingVoucherCount := saturatingSub vault.pendingVoucherCount 1 })
  · exact .tabOpened hincrement hopened.vaultAt
      (terms_foreign_vault (terms_write_session hopened.sessionAt _)
        hopened.vaultAt { vault with
          pendingVoucherCount := saturatingAdd vault.pendingVoucherCount 1 })

theorem migrateV5ToV6WithSession_terms {accounts : MigrateV5ToV6WithSession}
    {args : MigrateV5ToV6WithSessionArgs}
    (hok : migrateV5ToV6WithSession runtime context accounts args state =
      .ok next) :
    TermsChange runtime state (.migrateV5ToV6WithSession context accounts args)
      next := by
  obtain ⟨v5, carried, bump, hmigrated, rfl⟩ := migrateV5ToV6WithSession_ok hok
  have hcarried := terms_write_vacant hmigrated.vacant
    (.session ⟨sessionVersionV1, bump, accounts.vault, carried⟩) rfl rfl
  exact .migrated rfl hmigrated.imageAt (hcarried.write_vault
    (State.view_of_vaultV5? hmigrated.imageAt) (upgradedVault v5 1))

/-- Every accepted call is one of the cases. -/
theorem step_terms {call : Call} (hstep : step runtime state call = .ok next) :
    TermsChange runtime state call next := by
  cases call with
  | initializeVault context accounts args =>
      obtain ⟨hvacant, bump, rfl⟩ := initializeVault_ok hstep
      exact .created (State.terms?_of_vacant hvacant)
        ((HasTerms.self state).write_vault (State.view_of_lookup_none hvacant)
          (newVault bump accounts.dexterAuthority args))
  | setSwig =>
      obtain ⟨vault, hvault, -, rfl⟩ := setSwig_ok hstep
      exact .kept rfl (terms_write_same hvault rfl)
  | setSwigAtomic =>
      obtain ⟨vault, hvault, -, rfl⟩ := setSwigAtomic_ok hstep
      exact .kept rfl (terms_write_same hvault rfl)
  | settleVoucher => exact settleVoucher_terms hstep
  | requestWithdrawal context vaultKey args =>
      obtain ⟨vault, hrequested, rfl⟩ := requestWithdrawal_ok hstep
      exact .requested hrequested (terms_write_vault hrequested.vaultAt
        { vault with pendingWithdrawal := some args.pending })
  | finalizeWithdrawal =>
      obtain ⟨vault, pending, ata, hfinalized, rfl⟩ := finalizeWithdrawal_ok hstep
      exact .finalized hfinalized (terms_write_vault hfinalized.vaultAt
        { vault with pendingWithdrawal := none })
  | forceRelease =>
      obtain ⟨vault, pending, hreleased, rfl⟩ := forceRelease_ok hstep
      exact .released hreleased (terms_write_vault hreleased.vaultAt { vault with
        pendingVoucherCount := predecessor vault.pendingVoucherCount })
  | rotatePasskey context vaultKey args =>
      obtain ⟨vault, hvault, -, rfl⟩ := rotatePasskey_ok hstep
      exact .rotated hvault (terms_write_vault hvault
        { vault with passkeyPubkey := args.newPasskeyPubkey })
  | rotateDexterAuthority =>
      obtain ⟨vault, hvault, rfl⟩ := rotateDexterAuthority_ok hstep
      exact .kept rfl (terms_write_same hvault rfl)
  | provePasskey =>
      obtain rfl := provePasskey_unchanged hstep
      exact .kept rfl (HasTerms.self next)
  | registerSessionKey => exact .kept rfl (registerSessionKey_terms hstep)
  | revokeSessionKey =>
      obtain ⟨vault, session, count, hrevoked, -, rfl⟩ :=
        revokeSessionKey_ok hstep
      exact .kept rfl ((terms_write_session hrevoked.sessionAt _).write_vault_same
        (State.view_of_vault? hrevoked.vaultAt)
        ((State.terms?_of_vault? hrevoked.vaultAt).trans rfl))
  | settleTabVoucher =>
      obtain ⟨vault, account, increment, hsettled, rfl⟩ :=
        settleTabVoucher_ok hstep
      exact .tabSettled hsettled.vaultAt (terms_foreign_vault
        (terms_write_session hsettled.admitted.sessionAt _) hsettled.vaultAt
        { vault with
          pendingVoucherCount := saturatingSub vault.pendingVoucherCount 1 })
  | migrateV5ToV6 =>
      obtain ⟨v5, himage, rfl⟩ := migrateV5ToV6_ok hstep
      exact .migrated rfl himage ((HasTerms.self state).write_vault
        (State.view_of_vaultV5? himage) (upgradedVault v5 0))
  | migrateV5ToV6WithSession => exact migrateV5ToV6WithSession_terms hstep
  | lockVoucher => exact .kept rfl (lockVoucher_terms hstep)
  | transferLockOwnership =>
      obtain ⟨claim, hclaim, -, rfl⟩ := transferLockOwnership_ok hstep
      exact .kept rfl (terms_write_claim hclaim _)
  | settleLockedVoucher =>
      obtain ⟨vault, claim, hsettled, rfl⟩ := settleLockedVoucher_ok hstep
      exact .kept rfl ((terms_write_claim hsettled.claimAt _).write_vault_same
        (State.view_of_vault? hsettled.vaultAt)
        ((State.terms?_of_vault? hsettled.vaultAt).trans rfl))
  | recoverAbandonedLock =>
      obtain ⟨vault, claim, hrecovered, rfl⟩ := recoverAbandonedLock_ok hstep
      exact .kept rfl ((terms_write_claim hrecovered.claimAt _).write_vault_same
        (State.view_of_vault? hrecovered.vaultAt)
        ((State.terms?_of_vault? hrecovered.vaultAt).trans rfl))
  | openStandby context accounts args =>
      obtain ⟨vault, backer, newAggregate, hopened, rfl⟩ := openStandby_ok hstep
      exact .standbyOpened hopened (terms_backer_vault hopened.backerAt
        hopened.vaultAt { vault with
          standbyBacker := some accounts.financierSwig
          standbyCap := args.cap })
  | drawCredit =>
      obtain ⟨vault, newBorrowed, recoveryAt, hdrawn, rfl⟩ := drawCredit_ok hstep
      exact .drawn hdrawn (terms_write_vault hdrawn.vaultAt { vault with
        borrowed := newBorrowed
        borrowRecoveryAt := recoveryAt })
  | repayCredit context accounts args =>
      obtain ⟨vault, hexited, rfl⟩ := repayCredit_ok hstep
      exact .repaid hexited
        (terms_write_vault hexited.vaultAt (repaidVault vault args))
  | seizeCollateral =>
      obtain ⟨vault, hexited, rfl⟩ := seizeCollateral_ok hstep
      exact .seized hexited (terms_write_vault hexited.vaultAt { vault with
        borrowed := 0
        borrowRecoveryAt := none })
  | setStandbyReserve =>
      obtain ⟨found, bump, hset, rfl⟩ := setStandbyReserve_ok hstep
      apply TermsChange.reserveSet hset
      apply (HasTerms.self state).write_standbyBacker
      rcases hset.ledgerAt with ⟨hvacant, -⟩ | hbacker
      · exact State.terms?_of_vacant hvacant
      · exact State.terms?_of_lookup (State.lookup_of_standbyBacker? hbacker) rfl
  | closeStandby =>
      obtain ⟨vault, backer, hclosed, rfl⟩ := closeStandby_ok hstep
      exact .standbyClosed hclosed (terms_backer_vault hclosed.backerAt
        hclosed.vaultAt { vault with standbyBacker := none, standbyCap := 0 })
  | closeSession =>
      obtain ⟨session, hsession, -, rfl⟩ := closeSession_ok hstep
      exact .kept rfl ((HasTerms.self state).close_foreign
        (State.terms?_of_lookup (State.lookup_of_session? hsession) rfl)
        (State.view_of_session? hsession))

/-! ## One vault -/

/-- The vault whose terms a call writes. -/
def Call.termsVault : Call → Option Pubkey
  | .initializeVault _ accounts _ => some accounts.vault
  | .settleVoucher _ accounts _ => some accounts.vault
  | .settleTabVoucher _ accounts _ => some accounts.vault
  | .requestWithdrawal _ vaultKey _ => some vaultKey
  | .finalizeWithdrawal _ accounts _ => some accounts.vault
  | .forceRelease _ vaultKey _ => some vaultKey
  | .rotatePasskey _ vaultKey _ => some vaultKey
  | .migrateV5ToV6 _ accounts => some accounts.vault
  | .migrateV5ToV6WithSession _ accounts _ => some accounts.vault
  | .openStandby _ accounts _ => some accounts.vault
  | .drawCredit _ accounts _ => some accounts.vault
  | .repayCredit _ accounts _ => some accounts.vault
  | .seizeCollateral _ accounts => some accounts.vault
  | .closeStandby _ accounts _ => some accounts.vault
  | _ => none

/-- What an accepted call makes of the terms of one vault. -/
inductive TermsMove (runtime : Runtime) (before : State) (vaultKey : Pubkey) :
    Call → Option VaultTerms → Prop
  | kept {call : Call} (hother : call.termsVault ≠ some vaultKey) :
      TermsMove runtime before vaultKey call (before.terms? vaultKey)
  | created {context : Context} {accounts : InitializeVault}
      {args : InitializeVaultArgs} (hkey : accounts.vault = vaultKey)
      (hvacant : before.terms? vaultKey = none) :
      TermsMove runtime before vaultKey (.initializeVault context accounts args)
        (some (initialTerms args))
  | migrated {call : Call} {v5 : VaultV5Reader} {terms : VaultTerms}
      (hcall : call.migratedVault = some vaultKey)
      (himage : before.vaultV5? vaultKey = some v5) :
      TermsMove runtime before vaultKey call (some terms)
  | tabOpened {context : Context} {accounts : SettleVoucher}
      {args : SettleVoucherArgs} {vault : Vault}
      (hkey : accounts.vault = vaultKey) (hincrement : args.increment = true)
      (hvault : before.vault? vaultKey = some vault) :
      TermsMove runtime before vaultKey (.settleVoucher context accounts args)
        (some { vault.terms with
          pendingVoucherCount := saturatingAdd vault.pendingVoucherCount 1 })
  | tabClosed {context : Context} {accounts : SettleVoucher}
      {args : SettleVoucherArgs} {vault : Vault}
      (hkey : accounts.vault = vaultKey) (hclose : args.increment = false)
      (hvault : before.vault? vaultKey = some vault) :
      TermsMove runtime before vaultKey (.settleVoucher context accounts args)
        (some { vault.terms with
          pendingVoucherCount := saturatingSub vault.pendingVoucherCount 1 })
  | tabSettled {context : Context} {accounts : SettleTabVoucher}
      {args : SettleTabVoucherArgs} {vault : Vault}
      (hkey : accounts.vault = vaultKey)
      (hvault : before.vault? vaultKey = some vault) :
      TermsMove runtime before vaultKey (.settleTabVoucher context accounts args)
        (some { vault.terms with
          pendingVoucherCount := saturatingSub vault.pendingVoucherCount 1 })
  | requested {context : Context} {args : RequestWithdrawalArgs} {vault : Vault}
      (hrequested : Requested runtime context vaultKey args before vault) :
      TermsMove runtime before vaultKey
        (.requestWithdrawal context vaultKey args)
        (some { vault.terms with pendingWithdrawal := some args.pending })
  | finalized {context : Context} {accounts : FinalizeWithdrawal}
      {args : Webauthn.Assertion} {vault : Vault} {pending : PendingWithdrawal}
      {ata : TokenAccount} (hkey : accounts.vault = vaultKey)
      (hfinalized : Finalized runtime context accounts args before vault pending
        ata) :
      TermsMove runtime before vaultKey
        (.finalizeWithdrawal context accounts args)
        (some { vault.terms with pendingWithdrawal := none })
  | released {context : Context} {args : Webauthn.Assertion} {vault : Vault}
      {pending : PendingWithdrawal}
      (hreleased : Released runtime context vaultKey args before vault
        pending) :
      TermsMove runtime before vaultKey (.forceRelease context vaultKey args)
        (some { vault.terms with
          pendingVoucherCount := predecessor vault.pendingVoucherCount })
  | rotated {context : Context} {args : RotatePasskeyArgs} {vault : Vault}
      (hvault : before.vault? vaultKey = some vault) :
      TermsMove runtime before vaultKey (.rotatePasskey context vaultKey args)
        (some { vault.terms with passkeyPubkey := args.newPasskeyPubkey })
  | standbyOpened {context : Context} {accounts : OpenStandby}
      {args : OpenStandbyArgs} {vault : Vault} {backer : StandbyBacker}
      {newAggregate : U64} (hkey : accounts.vault = vaultKey)
      (hopened : StandbyOpened accounts args before vault backer
        newAggregate) :
      TermsMove runtime before vaultKey (.openStandby context accounts args)
        (some { vault.terms with
          standbyBacker := some accounts.financierSwig
          standbyCap := args.cap })
  | drawn {context : Context} {accounts : DrawCredit} {args : DrawCreditArgs}
      {vault : Vault} {newBorrowed : U64} {recoveryAt : Option I64}
      (hkey : accounts.vault = vaultKey)
      (hdrawn : CreditDrawn context accounts args before vault newBorrowed
        recoveryAt) :
      TermsMove runtime before vaultKey (.drawCredit context accounts args)
        (some { vault.terms with
          borrowed := newBorrowed
          borrowRecoveryAt := recoveryAt })
  | repaid {context : Context} {accounts : CreditExit} {args : RepayCreditArgs}
      {vault : Vault} (hkey : accounts.vault = vaultKey)
      (hexited : CreditExited context accounts before vault) :
      TermsMove runtime before vaultKey (.repayCredit context accounts args)
        (some (repaidVault vault args).terms)
  | seized {context : Context} {accounts : CreditExit} {vault : Vault}
      (hkey : accounts.vault = vaultKey)
      (hexited : CreditExited context accounts before vault) :
      TermsMove runtime before vaultKey (.seizeCollateral context accounts)
        (some { vault.terms with borrowed := 0, borrowRecoveryAt := none })
  | standbyClosed {context : Context} {accounts : CloseStandby}
      {args : CloseStandbyArgs} {vault : Vault} {backer : StandbyBacker}
      (hkey : accounts.vault = vaultKey)
      (hclosed : StandbyClosed accounts before vault backer) :
      TermsMove runtime before vaultKey (.closeStandby context accounts args)
        (some { vault.terms with standbyBacker := none, standbyCap := 0 })

/-- A write to the terms of one vault, seen from any vault. -/
theorem TermsMove.of_update {call : Call} {key : Pubkey} {terms : VaultTerms}
    (vaultKey : Pubkey) (hcall : call.termsVault = some key)
    (hmove : key = vaultKey →
      TermsMove runtime state vaultKey call (some terms)) :
    TermsMove runtime state vaultKey call
      (update state.terms? key (some terms) vaultKey) := by
  by_cases hkey : key = vaultKey
  · rw [hkey, update_self]
    exact hmove hkey
  · rw [update_of_ne (Ne.symm hkey)]
    apply TermsMove.kept
    rw [hcall]
    exact fun hsame => hkey (Option.some.inj hsame)

theorem Call.termsVault_of_keepsTerms {call : Call}
    (hkeeps : call.keepsTerms = true) : call.termsVault = none := by
  cases call <;> first | rfl | cases hkeeps

theorem Call.termsVault_of_migratedVault {call : Call} {key : Pubkey}
    (hmigrated : call.migratedVault = some key) :
    call.termsVault = some key := by
  cases call <;> first | exact hmigrated | cases hmigrated

theorem step_move {call : Call} (vaultKey : Pubkey)
    (hstep : step runtime state call = .ok next) :
    TermsMove runtime state vaultKey call (next.terms? vaultKey) := by
  cases step_terms hstep with
  | kept hkeeps hviews =>
      rw [hviews.terms]
      apply TermsMove.kept
      rw [Call.termsVault_of_keepsTerms hkeeps]
      exact (Option.some_ne_none vaultKey).symm
  | created hvacant hviews =>
      rw [hviews.terms]
      exact .of_update vaultKey rfl fun hkey => .created hkey (hkey ▸ hvacant)
  | migrated hcall himage hviews =>
      rw [hviews.terms]
      apply TermsMove.of_update vaultKey (Call.termsVault_of_migratedVault hcall)
      rintro rfl
      exact .migrated hcall himage
  | tabOpened hincrement hvault hviews =>
      rw [hviews.terms]
      exact .of_update vaultKey rfl fun hkey =>
        .tabOpened hkey hincrement (hkey ▸ hvault)
  | tabClosed hclose hvault hviews =>
      rw [hviews.terms]
      exact .of_update vaultKey rfl fun hkey =>
        .tabClosed hkey hclose (hkey ▸ hvault)
  | tabSettled hvault hviews =>
      rw [hviews.terms]
      exact .of_update vaultKey rfl fun hkey =>
        .tabSettled hkey (hkey ▸ hvault)
  | requested hrequested hviews =>
      rw [hviews.terms]
      apply TermsMove.of_update vaultKey rfl
      rintro rfl
      exact .requested hrequested
  | finalized hfinalized hviews =>
      rw [hviews.terms]
      exact .of_update vaultKey rfl fun hkey => .finalized hkey hfinalized
  | released hreleased hviews =>
      rw [hviews.terms]
      apply TermsMove.of_update vaultKey rfl
      rintro rfl
      exact .released hreleased
  | rotated hvault hviews =>
      rw [hviews.terms]
      apply TermsMove.of_update vaultKey rfl
      rintro rfl
      exact .rotated hvault
  | @reserveSet context accounts args _ _ _ hset hviews =>
      rw [hviews.terms]
      exact .kept (Option.some_ne_none vaultKey).symm
  | standbyOpened hopened hviews =>
      rw [hviews.terms]
      exact .of_update vaultKey rfl fun hkey => .standbyOpened hkey hopened
  | drawn hdrawn hviews =>
      rw [hviews.terms]
      exact .of_update vaultKey rfl fun hkey => .drawn hkey hdrawn
  | repaid hexited hviews =>
      rw [hviews.terms]
      exact .of_update vaultKey rfl fun hkey => .repaid hkey hexited
  | seized hexited hviews =>
      rw [hviews.terms]
      exact .of_update vaultKey rfl fun hkey => .seized hkey hexited
  | standbyClosed hclosed hviews =>
      rw [hviews.terms]
      exact .of_update vaultKey rfl fun hkey => .standbyClosed hkey hclosed

/-- The environment changes no term of a V6 vault. -/
theorem environment_terms (hmove : Environment state next) :
    next.terms? = state.terms? := by
  cases hmove with
  | tokens tokens => rfl
  | image himage written =>
      apply State.terms?_of_view
      exact State.view_write_of_eq ((State.view_of_vaultV5? himage).trans rfl)
  | ledger himage hbacker written =>
      apply State.terms?_of_view
      have hlookup := State.lookup_of_standbyBacker? hbacker
      exact State.view_write_of_eq ((State.view_of_lookup hlookup).trans rfl)

end Steps

end DexterVault.Program
