import DexterVault.Program.Step

/-!
# What one accepted call changes

Each accepted call changes the ledgers of the vaults, the sessions and the
claims in one of a few ways.  The cases below say which, with everything the
call has checked; an invariant about these three families is proved from the
cases alone, without looking into a handler again.
-/

namespace DexterVault.Program

open Function
open DexterVault.Machine
open DexterVault.Accounts
open DexterVault.Execution
open DexterVault.Setup
open DexterVault.Withdrawal
open DexterVault.Session
open DexterVault.Gate
open DexterVault.Voucher
open DexterVault.Claim
open DexterVault.Credit
open DexterVault.Migration

inductive Change (runtime : Runtime) (before : State) : Call → State → Prop
  | quiet {call : Call} {after : State} (hquiet : call.quiet = true)
      (hsame : Quiet before after) : Change runtime before call after
  | created {context : Context} {accounts : InitializeVault}
      {args : InitializeVaultArgs} {after : State} {ledger : VaultLedger}
      (hvacant : before.ledger? accounts.vault = none)
      (hledger : ledger = ⟨vaultVersionV6, defaultPubkey, 0, 0, 0, 0⟩)
      (hviews : HasViews after
        (update before.ledger? accounts.vault (some ledger)) before.session?
        before.claim?) :
      Change runtime before (.initializeVault context accounts args) after
  | bound {call : Call} {vaultKey swig : Pubkey} {ledger : VaultLedger}
      {after : State} (hcall : call.boundSwig = some (vaultKey, swig))
      (hledger : before.ledger? vaultKey = some ledger)
      (hdefault : ledger.swigAddress = defaultPubkey)
      (hviews : HasViews after
        (update before.ledger? vaultKey
          (some { ledger with swigAddress := swig }))
        before.session? before.claim?) :
      Change runtime before call after
  | tabOpened {context : Context} {accounts : SettleVoucher}
      {args : SettleVoucherArgs} {after : State} {vault : Vault}
      {sessionKey : Pubkey} {session : SessionAccount} {newOutstanding : U64}
      (hopened : TabOpened runtime accounts args before vault sessionKey session
        newOutstanding)
      (hviews : HasViews after before.ledger?
        (update before.session? sessionKey (some { session with
          session := { session.session with
            currentOutstanding := newOutstanding } }))
        before.claim?) :
      Change runtime before (.settleVoucher context accounts args) after
  | tabSettled {context : Context} {accounts : SettleTabVoucher}
      {args : SettleTabVoucherArgs} {after : State} {vault : Vault}
      {account : SessionAccount} {increment : U64}
      (hsettled : TabSettled runtime context accounts args before vault account
        increment)
      (hviews : HasViews after before.ledger?
        (update before.session? accounts.session (some { account with
          session := settledRegistration account.session args.cumulativeAmount
            increment }))
        before.claim?) :
      Change runtime before (.settleTabVoucher context accounts args) after
  | locked {context : Context} {accounts : LockVoucher} {args : LockVoucherArgs}
      {after : State} {vault : Vault} {account : SessionAccount}
      {ata : TokenAccount} {delta proposedOutstanding : U64} {claimBump : U8}
      (hlocked : Locked runtime context accounts args before vault account ata
        delta proposedOutstanding)
      (hviews : HasViews after
        (update before.ledger? accounts.vault (some { vault.ledger with
          outstandingLockedAmount := proposedOutstanding
          totalCrystallizedAmount :=
            saturatingAdd vault.totalCrystallizedAmount delta }))
        (update before.session? accounts.session (some { account with
          session := lockedRegistration account.session delta
            args.sequenceNumber }))
        (update before.claim? accounts.claim (some (newClaim claimBump
          accounts.vault accounts.sellerHolder account.session.sessionPubkey
          delta context.unixTimestamp args)))) :
      Change runtime before (.lockVoucher context accounts args) after
  | transferred {context : Context} {accounts : TransferLockOwnership}
      {args : TransferLockOwnershipArgs} {after : State} {claim : LockedClaim}
      (hclaim : before.claim? accounts.claim = some claim)
      (hviews : HasViews after before.ledger? before.session?
        (update before.claim? accounts.claim
          (some { claim with currentHolder := args.newHolder }))) :
      Change runtime before (.transferLockOwnership context accounts args) after
  | claimSettled {context : Context} {accounts : SettleLockedVoucher}
      {after : State} {vault : Vault} {claim : LockedClaim}
      (hsettled : ClaimSettled context accounts before vault claim)
      (hviews : HasViews after
        (update before.ledger? accounts.vault (some { vault.ledger with
          outstandingLockedAmount :=
            saturatingSub vault.outstandingLockedAmount claim.amount
          totalSettledAmount :=
            saturatingAdd vault.totalSettledAmount claim.amount }))
        before.session?
        (update before.claim? accounts.claim (some { claim with
          status := .settled
          settledAt := some context.unixTimestamp }))) :
      Change runtime before (.settleLockedVoucher context accounts) after
  | claimRecovered {context : Context} {accounts : RecoverAbandonedLock}
      {args : Webauthn.Assertion} {after : State} {vault : Vault}
      {claim : LockedClaim}
      (hrecovered : ClaimRecovered runtime context accounts args before vault
        claim)
      (hviews : HasViews after
        (update before.ledger? accounts.vault (some { vault.ledger with
          outstandingLockedAmount :=
            saturatingSub vault.outstandingLockedAmount claim.amount }))
        before.session?
        (update before.claim? accounts.claim (some { claim with
          status := .abandoned
          recoveredAt := some context.unixTimestamp }))) :
      Change runtime before (.recoverAbandonedLock context accounts args) after
  | registered {context : Context} {accounts : RegisterSessionKey}
      {args : RegisterSessionKeyArgs} {after : State} {vault : Vault}
      {ata : TokenAccount} {session : SessionAccount} {bump : U8} {gate : Gate}
      {count : U8}
      (hregistered : Registered runtime context accounts args before vault ata
        session bump gate)
      (hcount : count.val + gate.swept.val = vault.liveSessionCount.val +
        (if session.version = 0 then 1 else 0))
      (hviews : HasViews after
        (update before.ledger? accounts.vault
          (some { vault.ledger with liveSessionCount := count }))
        (update
          (sweptSessions before.session? (expiredKeys context.unixTimestamp
            before (siblingKeys accounts)))
          accounts.session
          (some (writtenSession session bump accounts.vault args)))
        before.claim?) :
      Change runtime before (.registerSessionKey context accounts args) after
  | revoked {context : Context} {accounts : RevokeSessionKey}
      {args : RevokeSessionKeyArgs} {after : State} {vault : Vault}
      {session : SessionAccount} {count : U8}
      (hrevoked : Revoked runtime context accounts args before vault session)
      (hcount : vault.liveSessionCount.val = count.val + 1)
      (hviews : HasViews after
        (update before.ledger? accounts.vault
          (some { vault.ledger with liveSessionCount := count }))
        (update before.session? accounts.session (some session.clear))
        before.claim?) :
      Change runtime before (.revokeSessionKey context accounts args) after
  | closed {context : Context} {accounts : CloseSession} {args : CloseSessionArgs}
      {after : State} {session : SessionAccount}
      (hsession : before.session? accounts.session = some session)
      (hcleared : session.version = 0)
      (hviews : HasViews after before.ledger?
        (update before.session? accounts.session none) before.claim?) :
      Change runtime before (.closeSession context accounts args) after
  | migrated {context : Context} {accounts : MigrateV5ToV6} {after : State}
      {v5 : VaultV5Reader} (himage : before.vaultV5? accounts.vault = some v5)
      (hviews : HasViews after
        (update before.ledger? accounts.vault (some (upgradedVault v5 0).ledger))
        before.session? before.claim?) :
      Change runtime before (.migrateV5ToV6 context accounts) after
  | migratedWithSession {context : Context}
      {accounts : MigrateV5ToV6WithSession}
      {args : MigrateV5ToV6WithSessionArgs} {after : State} {v5 : VaultV5Reader}
      {carried : SessionRegistration} {bump : U8}
      (hmigrated : MigratedWithSession runtime accounts args before v5 carried
        bump)
      (hviews : HasViews after
        (update before.ledger? accounts.vault (some (upgradedVault v5 1).ledger))
        (update before.session? accounts.session
          (some ⟨sessionVersionV1, bump, accounts.vault, carried⟩))
        before.claim?) :
      Change runtime before (.migrateV5ToV6WithSession context accounts args)
        after

section Changes

variable {runtime : Runtime} {context : Context} {state next : State}

theorem initializeVault_change {accounts : InitializeVault}
    {args : InitializeVaultArgs}
    (hok : initializeVault runtime context accounts args state = .ok next) :
    Change runtime state (.initializeVault context accounts args) next := by
  obtain ⟨hvacant, bump, rfl⟩ := initializeVault_ok hok
  refine .created (State.ledger?_of_lookup_none hvacant) rfl ?_
  exact (HasViews.self state).write_vault (State.view_of_lookup_none hvacant)
    (State.view_of_lookup_none hvacant) (newVault bump accounts.dexterAuthority args)

/-- Binding a swig to a stored vault, by either form of `set_swig`. -/
theorem bound_change {call : Call} {vaultKey swig : Pubkey} {vault : Vault}
    (hcall : call.boundSwig = some (vaultKey, swig))
    (hvault : state.vault? vaultKey = some vault)
    (hdefault : vault.swigAddress = defaultPubkey) :
    Change runtime state call
      (state.write vaultKey (.vault { vault with swigAddress := swig })) := by
  refine .bound hcall (State.ledger?_of_vault? hvault) hdefault ?_
  exact (HasViews.self state).write_vault (State.session?_of_vault? hvault)
    (State.claim?_of_vault? hvault) { vault with swigAddress := swig }

theorem settleVoucher_change {accounts : SettleVoucher}
    {args : SettleVoucherArgs}
    (hok : settleVoucher runtime context accounts args state = .ok next) :
    Change runtime state (.settleVoucher context accounts args) next := by
  rcases settleVoucher_ok hok with ⟨hclose, hsame⟩ |
    ⟨_, vault, sessionKey, session, newOutstanding, hopened, rfl⟩
  · exact .quiet (by simp [Call.quiet, hclose]) hsame
  · have hne := State.ne_of_session?_of_vault? hopened.sessionAt hopened.vaultAt
    refine .tabOpened hopened ?_
    apply ((HasViews.self state).write_session
      (State.ledger?_of_session? hopened.sessionAt)
      (State.claim?_of_session? hopened.sessionAt) _).write_vault_same
    · rw [update_of_ne hne.symm]
      exact State.session?_of_vault? hopened.vaultAt
    · exact State.claim?_of_vault? hopened.vaultAt
    · exact (State.ledger?_of_vault? hopened.vaultAt).trans rfl

theorem settleTabVoucher_change {accounts : SettleTabVoucher}
    {args : SettleTabVoucherArgs}
    (hok : settleTabVoucher runtime context accounts args state = .ok next) :
    Change runtime state (.settleTabVoucher context accounts args) next := by
  obtain ⟨vault, account, increment, hsettled, rfl⟩ := settleTabVoucher_ok hok
  have hsession := hsettled.admitted.sessionAt
  have hne := State.ne_of_session?_of_vault? hsession hsettled.vaultAt
  refine .tabSettled hsettled ?_
  apply ((HasViews.self state).write_session (State.ledger?_of_session? hsession)
    (State.claim?_of_session? hsession) _).write_vault_same
  · rw [update_of_ne hne.symm]
    exact State.session?_of_vault? hsettled.vaultAt
  · exact State.claim?_of_vault? hsettled.vaultAt
  · exact (State.ledger?_of_vault? hsettled.vaultAt).trans rfl

theorem lockVoucher_change {accounts : LockVoucher} {args : LockVoucherArgs}
    (hok : lockVoucher runtime context accounts args state = .ok next) :
    Change runtime state (.lockVoucher context accounts args) next := by
  obtain ⟨vault, account, ata, delta, outstanding, claimBump, hlocked, rfl⟩ :=
    lockVoucher_ok hok
  have hsession := hlocked.admitted.sessionAt
  have hne := State.ne_of_session?_of_vault? hsession hlocked.vaultAt
  -- the claim address is vacant, so it is neither the session's nor the vault's
  have hclaimSession : accounts.session ≠ accounts.claim := by
    intro heq
    have hlookup := State.lookup_of_session? hsession
    rw [heq, hlocked.vacant] at hlookup
    cases hlookup
  have hclaimVault : accounts.vault ≠ accounts.claim := by
    intro heq
    have hlookup := State.lookup_of_vault? hlocked.vaultAt
    rw [heq, hlocked.vacant] at hlookup
    cases hlookup
  have hclaim := (HasViews.self state).write_claim
    (State.ledger?_of_lookup_none hlocked.vacant)
    (State.view_of_lookup_none hlocked.vacant)
    (newClaim claimBump accounts.vault accounts.sellerHolder
      account.session.sessionPubkey delta context.unixTimestamp args)
  have hlockedSession := hclaim.write_session
    (State.ledger?_of_session? hsession)
    (by rw [update_of_ne hclaimSession]; exact State.claim?_of_session? hsession)
    { account with
      session := lockedRegistration account.session delta args.sequenceNumber }
  exact .locked hlocked (hlockedSession.write_vault
    (by
      rw [update_of_ne hne.symm]
      exact State.session?_of_vault? hlocked.vaultAt)
    (by
      rw [update_of_ne hclaimVault]
      exact State.claim?_of_vault? hlocked.vaultAt)
    { vault with
      outstandingLockedAmount := outstanding
      totalCrystallizedAmount :=
        saturatingAdd vault.totalCrystallizedAmount delta })

theorem transferLockOwnership_change {accounts : TransferLockOwnership}
    {args : TransferLockOwnershipArgs}
    (hok : transferLockOwnership context accounts args state = .ok next) :
    Change runtime state (.transferLockOwnership context accounts args) next := by
  obtain ⟨claim, hclaim, _, rfl⟩ := transferLockOwnership_ok hok
  exact .transferred hclaim ((HasViews.self state).write_claim
    (State.ledger?_of_claim? hclaim) (State.session?_of_claim? hclaim) _)

/-- A write to a claim and then to its vault. -/
theorem write_claim_vault {vaultKey claimKey : Pubkey} {vault after : Vault}
    {claim : LockedClaim} (hclaim : state.claim? claimKey = some claim)
    (hvault : state.vault? vaultKey = some vault) (afterClaim : LockedClaim) :
    HasViews ((state.write claimKey (.claim afterClaim)).write vaultKey
        (.vault after))
      (update state.ledger? vaultKey (some after.ledger)) state.session?
      (update state.claim? claimKey (some afterClaim)) := by
  have hne := State.ne_of_claim?_of_vault? hclaim hvault
  apply ((HasViews.self state).write_claim (State.ledger?_of_claim? hclaim)
    (State.session?_of_claim? hclaim) afterClaim).write_vault
  · exact State.session?_of_vault? hvault
  · rw [update_of_ne hne.symm]
    exact State.claim?_of_vault? hvault

theorem settleLockedVoucher_change {accounts : SettleLockedVoucher}
    (hok : settleLockedVoucher runtime context accounts state = .ok next) :
    Change runtime state (.settleLockedVoucher context accounts) next := by
  obtain ⟨vault, claim, hsettled, rfl⟩ := settleLockedVoucher_ok hok
  exact .claimSettled hsettled
    (write_claim_vault hsettled.claimAt hsettled.vaultAt _)

theorem recoverAbandonedLock_change {accounts : RecoverAbandonedLock}
    {args : Webauthn.Assertion}
    (hok : recoverAbandonedLock runtime context accounts args state =
      .ok next) :
    Change runtime state (.recoverAbandonedLock context accounts args) next := by
  obtain ⟨vault, claim, hrecovered, rfl⟩ := recoverAbandonedLock_ok hok
  exact .claimRecovered hrecovered
    (write_claim_vault hrecovered.claimAt hrecovered.vaultAt _)

theorem registerSessionKey_change {accounts : RegisterSessionKey}
    {args : RegisterSessionKeyArgs}
    (hok : registerSessionKey runtime context accounts args state = .ok next) :
    Change runtime state (.registerSessionKey context accounts args) next := by
  obtain ⟨vault, ata, session, bump, gate, count, hregistered, hcount, rfl⟩ :=
    registerSessionKey_ok hok
  have hrun := hregistered.run
  have hgate : HasViews gate.state state.ledger?
      (sweptSessions state.session? (expiredKeys context.unixTimestamp state
        (siblingKeys accounts))) state.claim? :=
    ⟨hrun.ledgers, hrun.sessions, hrun.claims⟩
  have hvault := hregistered.vaultAt
  have hfound : state.ledger? accounts.session = none ∧
      state.claim? accounts.session = none := by
    rcases hregistered.found with ⟨hvacant, -⟩ | hsession
    · exact ⟨State.ledger?_of_lookup_none hvacant,
        State.view_of_lookup_none hvacant⟩
    · exact ⟨State.ledger?_of_session? hsession,
        State.claim?_of_session? hsession⟩
  have hne : accounts.vault ≠ accounts.session := by
    intro heq
    rw [← heq, State.ledger?_of_vault? hvault] at hfound
    cases hfound.1
  refine .registered hregistered hcount ?_
  apply (hgate.write_session hfound.1 hfound.2 _).write_vault
  · rw [update_of_ne hne, sweptSessions, State.session?_of_vault? hvault]
    exact ite_self none
  · exact State.claim?_of_vault? hvault

theorem revokeSessionKey_change {accounts : RevokeSessionKey}
    {args : RevokeSessionKeyArgs}
    (hok : revokeSessionKey runtime context accounts args state = .ok next) :
    Change runtime state (.revokeSessionKey context accounts args) next := by
  obtain ⟨vault, session, count, hrevoked, hcount, rfl⟩ :=
    revokeSessionKey_ok hok
  have hsession := hrevoked.sessionAt
  have hne := State.ne_of_session?_of_vault? hsession hrevoked.vaultAt
  refine .revoked hrevoked hcount ?_
  apply ((HasViews.self state).write_session (State.ledger?_of_session? hsession)
    (State.claim?_of_session? hsession) session.clear).write_vault
  · rw [update_of_ne hne.symm]
    exact State.session?_of_vault? hrevoked.vaultAt
  · exact State.claim?_of_vault? hrevoked.vaultAt

theorem closeSession_change {accounts : CloseSession} {args : CloseSessionArgs}
    (hok : closeSession runtime context accounts args state = .ok next) :
    Change runtime state (.closeSession context accounts args) next := by
  obtain ⟨session, hsession, hcleared, rfl⟩ := closeSession_ok hok
  exact .closed hsession hcleared ((HasViews.self state).close_session
    (State.ledger?_of_session? hsession) (State.claim?_of_session? hsession))

theorem migrateV5ToV6_change {accounts : MigrateV5ToV6}
    (hok : migrateV5ToV6 context accounts state = .ok next) :
    Change runtime state (.migrateV5ToV6 context accounts) next := by
  obtain ⟨v5, himage, rfl⟩ := migrateV5ToV6_ok hok
  exact .migrated himage
    ((HasViews.self state).write_vault (State.view_of_vaultV5? himage)
      (State.view_of_vaultV5? himage) (upgradedVault v5 0))

theorem migrateV5ToV6WithSession_change {accounts : MigrateV5ToV6WithSession}
    {args : MigrateV5ToV6WithSessionArgs}
    (hok : migrateV5ToV6WithSession runtime context accounts args state =
      .ok next) :
    Change runtime state (.migrateV5ToV6WithSession context accounts args)
      next := by
  obtain ⟨v5, carried, bump, hmigrated, rfl⟩ := migrateV5ToV6WithSession_ok hok
  have himage := hmigrated.imageAt
  have hne : accounts.vault ≠ accounts.session := by
    intro heq
    have hlookup := State.lookup_of_vaultV5? himage
    rw [heq, hmigrated.vacant] at hlookup
    cases hlookup
  refine .migratedWithSession hmigrated ?_
  apply ((HasViews.self state).write_session
    (State.ledger?_of_lookup_none hmigrated.vacant)
    (State.view_of_lookup_none hmigrated.vacant) _).write_vault
  · rw [update_of_ne hne]
    exact State.view_of_vaultV5? himage
  · exact State.view_of_vaultV5? himage

/-- Every accepted call is one of the cases. -/
theorem step_change {call : Call} (hstep : step runtime state call = .ok next) :
    Change runtime state call next := by
  cases call with
  | initializeVault => exact initializeVault_change hstep
  | setSwig =>
      obtain ⟨vault, hvault, hdefault, rfl⟩ := setSwig_ok hstep
      exact bound_change rfl hvault hdefault
  | setSwigAtomic =>
      obtain ⟨vault, hvault, hdefault, rfl⟩ := setSwigAtomic_ok hstep
      exact bound_change rfl hvault hdefault
  | settleVoucher => exact settleVoucher_change hstep
  | requestWithdrawal => exact .quiet rfl (requestWithdrawal_quiet hstep)
  | finalizeWithdrawal => exact .quiet rfl (finalizeWithdrawal_quiet hstep)
  | forceRelease => exact .quiet rfl (forceRelease_quiet hstep)
  | rotatePasskey => exact .quiet rfl (rotatePasskey_quiet hstep)
  | rotateDexterAuthority =>
      exact .quiet rfl (rotateDexterAuthority_quiet hstep)
  | provePasskey =>
      obtain rfl := provePasskey_unchanged hstep
      exact .quiet rfl (Quiet.refl _)
  | registerSessionKey => exact registerSessionKey_change hstep
  | revokeSessionKey => exact revokeSessionKey_change hstep
  | settleTabVoucher => exact settleTabVoucher_change hstep
  | migrateV5ToV6 => exact migrateV5ToV6_change hstep
  | migrateV5ToV6WithSession => exact migrateV5ToV6WithSession_change hstep
  | lockVoucher => exact lockVoucher_change hstep
  | transferLockOwnership => exact transferLockOwnership_change hstep
  | settleLockedVoucher => exact settleLockedVoucher_change hstep
  | recoverAbandonedLock => exact recoverAbandonedLock_change hstep
  | openStandby => exact .quiet rfl (openStandby_quiet hstep)
  | drawCredit => exact .quiet rfl (drawCredit_quiet hstep)
  | repayCredit =>
      obtain ⟨vault, hexited, rfl⟩ := repayCredit_ok hstep
      exact .quiet rfl (Quiet.write_vault hexited.vaultAt rfl)
  | seizeCollateral =>
      obtain ⟨vault, hexited, rfl⟩ := seizeCollateral_ok hstep
      exact .quiet rfl (Quiet.write_vault hexited.vaultAt rfl)
  | setStandbyReserve => exact .quiet rfl (setStandbyReserve_quiet hstep)
  | closeStandby => exact .quiet rfl (closeStandby_quiet hstep)
  | closeSession => exact closeSession_change hstep

/-- No accepted call writes a token account: the transfers it authorises are
instructions of the token program. -/
theorem step_tokens {call : Call} (hstep : step runtime state call = .ok next) :
    next.tokens = state.tokens := by
  cases call with
  | initializeVault =>
      obtain ⟨-, bump, rfl⟩ := initializeVault_ok hstep
      rfl
  | setSwig =>
      obtain ⟨vault, -, -, rfl⟩ := setSwig_ok hstep
      rfl
  | setSwigAtomic =>
      obtain ⟨vault, -, -, rfl⟩ := setSwigAtomic_ok hstep
      rfl
  | settleVoucher =>
      rcases settleVoucher_ok hstep with ⟨-, hsame⟩ | ⟨_, _, _, _, _, -, rfl⟩
      · exact hsame.tokens
      · rfl
  | requestWithdrawal => exact (requestWithdrawal_quiet hstep).tokens
  | finalizeWithdrawal => exact (finalizeWithdrawal_quiet hstep).tokens
  | forceRelease => exact (forceRelease_quiet hstep).tokens
  | rotatePasskey => exact (rotatePasskey_quiet hstep).tokens
  | rotateDexterAuthority => exact (rotateDexterAuthority_quiet hstep).tokens
  | provePasskey =>
      obtain rfl := provePasskey_unchanged hstep
      rfl
  | registerSessionKey =>
      obtain ⟨_, _, _, _, _, _, hregistered, -, rfl⟩ :=
        registerSessionKey_ok hstep
      exact hregistered.run.tokens
  | revokeSessionKey =>
      obtain ⟨_, _, _, -, -, rfl⟩ := revokeSessionKey_ok hstep
      rfl
  | settleTabVoucher =>
      obtain ⟨_, _, _, -, rfl⟩ := settleTabVoucher_ok hstep
      rfl
  | migrateV5ToV6 =>
      obtain ⟨_, -, rfl⟩ := migrateV5ToV6_ok hstep
      rfl
  | migrateV5ToV6WithSession =>
      obtain ⟨_, _, _, -, rfl⟩ := migrateV5ToV6WithSession_ok hstep
      rfl
  | lockVoucher =>
      obtain ⟨_, _, _, _, _, _, -, rfl⟩ := lockVoucher_ok hstep
      rfl
  | transferLockOwnership =>
      obtain ⟨_, -, -, rfl⟩ := transferLockOwnership_ok hstep
      rfl
  | settleLockedVoucher =>
      obtain ⟨_, _, -, rfl⟩ := settleLockedVoucher_ok hstep
      rfl
  | recoverAbandonedLock =>
      obtain ⟨_, _, -, rfl⟩ := recoverAbandonedLock_ok hstep
      rfl
  | openStandby => exact (openStandby_quiet hstep).tokens
  | drawCredit => exact (drawCredit_quiet hstep).tokens
  | repayCredit =>
      obtain ⟨_, -, rfl⟩ := repayCredit_ok hstep
      rfl
  | seizeCollateral =>
      obtain ⟨_, -, rfl⟩ := seizeCollateral_ok hstep
      rfl
  | setStandbyReserve => exact (setStandbyReserve_quiet hstep).tokens
  | closeStandby => exact (closeStandby_quiet hstep).tokens
  | closeSession =>
      obtain ⟨_, -, -, rfl⟩ := closeSession_ok hstep
      rfl

/-- The environment changes no view. -/
theorem environment_views (hmove : Environment state next) :
    HasViews next state.ledger? state.session? state.claim? := by
  cases hmove with
  | tokens tokens => exact ⟨rfl, rfl, rfl⟩
  | @image key image himage written =>
      have hsame : ∀ {Data : Type} (read : Account → Option Data),
          (∀ body, read (.vaultV5 body) = none) →
          (state.write key (.vaultV5 written)).view read = state.view read := by
        intro Data read hread
        apply State.view_write_of_eq
        rw [hread, State.view_of_vaultV5? himage, hread]
      exact ⟨State.ledger?_of_view _ (hsame _ fun _ => rfl),
        hsame _ fun _ => rfl, hsame _ fun _ => rfl⟩
  | ledger himage hbacker written =>
      have hquiet : Quiet state
          (state.write _ (.standbyBacker written)) :=
        Quiet.write_standbyBacker (.inr ⟨_, hbacker⟩)
      exact ⟨hquiet.ledgers, hquiet.sessions, hquiet.claims⟩

end Changes

end DexterVault.Program
