import DexterVault.Instructions.Session

/-!
# From V5 to V6

The two paths of `migrate_v5_to_v6`.  A V5 vault without a live session becomes
a V6 vault that counts none; one with a live session carries it out into a
session account and counts one.
-/

namespace DexterVault.Migration

open DexterVault.Machine
open DexterVault.Accounts
open DexterVault.Execution

structure MigrateV5ToV6 where
  vault : Pubkey
  dexterAuthority : Pubkey
  payer : Pubkey
  deriving DecidableEq

structure MigrateV5ToV6WithSession where
  vault : Pubkey
  dexterAuthority : Pubkey
  session : Pubkey
  payer : Pubkey
  deriving DecidableEq

structure MigrateV5ToV6WithSessionArgs where
  liveCounterparty : Pubkey
  deriving DecidableEq

/-- The V6 encoding of a V5 vault. -/
def upgradedVault (v5 : VaultV5Reader) (liveSessionCount : U8) : Vault where
  version := vaultVersionV6
  bump := v5.bump
  passkeyPubkey := v5.passkeyPubkey
  swigAddress := v5.swigAddress
  coolingOffSeconds := v5.coolingOffSeconds
  pendingVoucherCount := v5.pendingVoucherCount
  pendingWithdrawal := v5.pendingWithdrawal
  identityClaim := v5.identityClaim
  dexterAuthority := v5.dexterAuthority
  liveSessionCount := liveSessionCount
  outstandingLockedAmount := v5.outstandingLockedAmount
  totalCrystallizedAmount := v5.totalCrystallizedAmount
  totalSettledAmount := v5.totalSettledAmount
  borrowed := v5.borrowed
  standbyBacker := v5.standbyBacker
  standbyCap := v5.standbyCap
  borrowRecoveryAt := v5.borrowRecoveryAt

/-- The account decodes as a V5 vault. -/
def loadVaultV5 (state : State) (key : Pubkey) : Result VaultV5Reader := do
  let v5 ← okOr (state.vaultV5? key) VaultError.unsupportedVaultVersion
  require (v5.version = vaultVersionV5) VaultError.unsupportedVaultVersion
  return v5

def migrateV5ToV6 (context : Context) (accounts : MigrateV5ToV6)
    (state : State) : Result State := do
  requireSigner context accounts.dexterAuthority
  requireSigner context accounts.payer
  let v5 ← loadVaultV5 state accounts.vault
  require (v5.dexterAuthority = accounts.dexterAuthority)
    VaultError.passkeyVerificationFailed
  require (∀ session ∈ v5.activeSession,
      session.expiresAt ≤ context.unixTimestamp)
    VaultError.sessionAlreadyActive
  return state.write accounts.vault (.vault (upgradedVault v5 0))

def migrateV5ToV6WithSession (runtime : Runtime) (context : Context)
    (accounts : MigrateV5ToV6WithSession)
    (args : MigrateV5ToV6WithSessionArgs) (state : State) : Result State := do
  requireSigner context accounts.dexterAuthority
  requireSigner context accounts.payer
  requireVacant state accounts.session
  let bump ← requireCanonical runtime
    (sessionSeeds accounts.vault args.liveCounterparty) programId
    accounts.session
  let v5 ← loadVaultV5 state accounts.vault
  require (v5.dexterAuthority = accounts.dexterAuthority)
    VaultError.passkeyVerificationFailed
  let carried ← okOr v5.activeSession VaultError.noActiveSession
  require (context.unixTimestamp < carried.expiresAt)
    VaultError.sessionExpiryInPast
  require (carried.allowedCounterparty = args.liveCounterparty)
    VaultError.sessionAccountMisderived
  return (state.write accounts.session
      (.session
        { version := sessionVersionV1
          bump := bump
          vault := accounts.vault
          session := carried })).write accounts.vault
    (.vault (upgradedVault v5 1))

theorem migrateV5ToV6_ok {context : Context} {accounts : MigrateV5ToV6}
    {state next : State}
    (hok : migrateV5ToV6 context accounts state = .ok next) :
    ∃ v5, state.vaultV5? accounts.vault = some v5 ∧
      next = state.write accounts.vault (.vault (upgradedVault v5 0)) := by
  simp only [migrateV5ToV6, loadVaultV5, bind_eq_ok_iff, okOr_eq_ok_iff,
    require_eq_ok_iff, pure_eq_ok_iff] at hok
  obtain ⟨_, _, _, _, v5, ⟨_, himage, _, _, rfl⟩, _, _, _, _, rfl⟩ := hok
  exact ⟨_, himage, rfl⟩

/-- What an accepted migration with a live session has checked. -/
structure MigratedWithSession (runtime : Runtime)
    (accounts : MigrateV5ToV6WithSession) (args : MigrateV5ToV6WithSessionArgs)
    (state : State) (v5 : VaultV5Reader) (carried : SessionRegistration)
    (bump : U8) : Prop where
  imageAt : state.vaultV5? accounts.vault = some v5
  vacant : state.accounts.lookup accounts.session = none
  canonical : runtime.findProgramAddress
    (sessionSeeds accounts.vault args.liveCounterparty) programId =
      some (accounts.session, bump)
  active : v5.activeSession = some carried
  counterparty : carried.allowedCounterparty = args.liveCounterparty

theorem migrateV5ToV6WithSession_ok {runtime : Runtime} {context : Context}
    {accounts : MigrateV5ToV6WithSession} {args : MigrateV5ToV6WithSessionArgs}
    {state next : State}
    (hok : migrateV5ToV6WithSession runtime context accounts args state =
      .ok next) :
    ∃ v5 carried bump,
      MigratedWithSession runtime accounts args state v5 carried bump ∧
      next = (state.write accounts.session
          (.session
            { version := sessionVersionV1
              bump := bump
              vault := accounts.vault
              session := carried })).write accounts.vault
        (.vault (upgradedVault v5 1)) := by
  simp only [migrateV5ToV6WithSession, loadVaultV5, requireVacant,
    bind_eq_ok_iff, okOr_eq_ok_iff, require_eq_ok_iff,
    requireCanonical_eq_ok_iff, pure_eq_ok_iff] at hok
  obtain ⟨_, _, _, _, _, hvacant, bump, hcanonical, v5,
    ⟨_, himage, _, _, rfl⟩, _, _, carried, hactive, _, _, _, hcounterparty,
    rfl⟩ := hok
  exact ⟨_, carried, bump, ⟨himage, hvacant, hcanonical, hactive,
    hcounterparty⟩, rfl⟩

end DexterVault.Migration
