import DexterVault.Instructions.Setup

/-!
# Locked claims

`transfer_lock_ownership`, `settle_locked_voucher` and
`recover_abandoned_lock`.  A claim leaves `Pending` once, either settled by its
holder or recovered by the buyer after the deadline; both lower the reservation
of the vault by the amount of the claim.
-/

namespace DexterVault.Claim

open DexterVault.Machine
open DexterVault.Framing
open DexterVault.Accounts
open DexterVault.Execution
open DexterVault.Webauthn
open DexterVault.Setup

/-! ## transfer_lock_ownership -/

structure TransferLockOwnership where
  claim : Pubkey
  currentHolder : Pubkey
  deriving DecidableEq

structure TransferLockOwnershipArgs where
  newHolder : Pubkey
  deriving DecidableEq

def transferLockOwnership (context : Context) (accounts : TransferLockOwnership)
    (args : TransferLockOwnershipArgs) (state : State) : Result State := do
  let claim ← loadClaim state accounts.claim
  requireSigner context accounts.currentHolder
  require (claim.status = .pending) VaultError.lockRangeAlreadyClaimed
  require (claim.currentHolder = accounts.currentHolder)
    VaultError.passkeyVerificationFailed
  return state.write accounts.claim
    (.claim { claim with currentHolder := args.newHolder })

/-! ## settle_locked_voucher -/

structure SettleLockedVoucher where
  swig : Pubkey
  swigWalletAddress : Pubkey
  claim : Pubkey
  vault : Pubkey
  holder : Pubkey
  dexterAuthority : Pubkey
  deriving DecidableEq

def settleLockedVoucher (runtime : Runtime) (context : Context)
    (accounts : SettleLockedVoucher) (state : State) : Result State := do
  let claim ← loadClaim state accounts.claim
  let vault ← loadVault state accounts.vault
  requireSigner context accounts.holder
  requireAddress accounts.swig vault.swigAddress
  let _ ← requireSwigWallet runtime accounts.swig accounts.swigWalletAddress
  require (claim.status = .pending) VaultError.lockRangeAlreadyClaimed
  require (claim.vault = accounts.vault) VaultError.passkeyVerificationFailed
  require (claim.currentHolder = accounts.holder)
    VaultError.passkeyVerificationFailed
  requireDexterAuthority context vault accounts.dexterAuthority
  let now := context.unixTimestamp
  require (∀ maturity ∈ claim.maturityAt, maturity ≤ now)
    VaultError.coolingOffNotElapsed
  return (state.write accounts.claim
      (.claim { claim with status := .settled, settledAt := some now })).write
    accounts.vault
    (.vault { vault with
      outstandingLockedAmount :=
        saturatingSub vault.outstandingLockedAmount claim.amount
      totalSettledAmount :=
        saturatingAdd vault.totalSettledAmount claim.amount })

/-! ## recover_abandoned_lock -/

structure RecoverAbandonedLock where
  claim : Pubkey
  vault : Pubkey
  deriving DecidableEq

def recoverAbandonedLockMessage (vaultKey claimKey : Pubkey) : Bytes :=
  ascii "recover_abandoned_lock" ++ vaultKey.toList ++ claimKey.toList

def recoverAbandonedLock (runtime : Runtime) (context : Context)
    (accounts : RecoverAbandonedLock) (args : Assertion) (state : State) :
    Result State := do
  let claim ← loadClaim state accounts.claim
  let vault ← loadVault state accounts.vault
  require (claim.status = .pending) VaultError.nothingToRelease
  require (claim.vault = accounts.vault) VaultError.passkeyVerificationFailed
  let now := context.unixTimestamp
  let recoveryAt ← okOr claim.holderRecoveryAt VaultError.nothingToRelease
  require (recoveryAt ≤ now) VaultError.forceReleaseTooEarly
  verifyPasskeySigned runtime context vault.passkeyPubkey args.clientDataJson
    args.authenticatorData
    (recoverAbandonedLockMessage accounts.vault accounts.claim)
  return (state.write accounts.claim
      (.claim { claim with status := .abandoned, recoveredAt := some now })).write
    accounts.vault
    (.vault { vault with
      outstandingLockedAmount :=
        saturatingSub vault.outstandingLockedAmount claim.amount })

/-! ## What accepted calls have checked -/

theorem transferLockOwnership_ok {context : Context}
    {accounts : TransferLockOwnership} {args : TransferLockOwnershipArgs}
    {state next : State}
    (hok : transferLockOwnership context accounts args state = .ok next) :
    ∃ claim, state.claim? accounts.claim = some claim ∧
      claim.status = .pending ∧
      next = state.write accounts.claim
        (.claim { claim with currentHolder := args.newHolder }) := by
  simp only [transferLockOwnership, loadClaim, bind_eq_ok_iff, load_eq_ok_iff,
    require_eq_ok_iff, pure_eq_ok_iff] at hok
  obtain ⟨claim, hclaim, _, _, _, hpending, _, _, rfl⟩ := hok
  exact ⟨claim, hclaim, hpending, rfl⟩

/-- What an accepted settlement of a claim has checked. -/
structure ClaimSettled (context : Context) (accounts : SettleLockedVoucher)
    (state : State) (vault : Vault) (claim : LockedClaim) : Prop where
  claimAt : state.claim? accounts.claim = some claim
  vaultAt : state.vault? accounts.vault = some vault
  swig : accounts.swig = vault.swigAddress
  pending : claim.status = .pending
  sameVault : claim.vault = accounts.vault
  holder : accounts.holder ∈ context.signers ∧
    claim.currentHolder = accounts.holder
  authority : accounts.dexterAuthority ∈ context.signers ∧
    vault.dexterAuthority = accounts.dexterAuthority

theorem settleLockedVoucher_ok {runtime : Runtime} {context : Context}
    {accounts : SettleLockedVoucher} {state next : State}
    (hok : settleLockedVoucher runtime context accounts state = .ok next) :
    ∃ vault claim, ClaimSettled context accounts state vault claim ∧
      next = (state.write accounts.claim
          (.claim { claim with
            status := .settled
            settledAt := some context.unixTimestamp })).write accounts.vault
        (.vault { vault with
          outstandingLockedAmount :=
            saturatingSub vault.outstandingLockedAmount claim.amount
          totalSettledAmount :=
            saturatingAdd vault.totalSettledAmount claim.amount }) := by
  simp only [settleLockedVoucher, loadClaim, loadVault, requireSigner,
    requireAddress, bind_eq_ok_iff, load_eq_ok_iff, require_eq_ok_iff,
    pure_eq_ok_iff] at hok
  obtain ⟨claim, hclaim, vault, hvault, _, hsigner, _, hswig, _, _, _, hpending,
    _, hsame, _, hholder, _, hauthority, _, _, rfl⟩ := hok
  exact ⟨vault, claim, ⟨hclaim, hvault, hswig, hpending, hsame,
    ⟨hsigner, hholder⟩, requireDexterAuthority_ok.mp hauthority⟩, rfl⟩

/-- What an accepted recovery of a claim has checked. -/
structure ClaimRecovered (runtime : Runtime) (context : Context)
    (accounts : RecoverAbandonedLock) (args : Assertion) (state : State)
    (vault : Vault) (claim : LockedClaim) : Prop where
  claimAt : state.claim? accounts.claim = some claim
  vaultAt : state.vault? accounts.vault = some vault
  pending : claim.status = .pending
  sameVault : claim.vault = accounts.vault
  signed : verifyPasskeySigned runtime context vault.passkeyPubkey
    args.clientDataJson args.authenticatorData
    (recoverAbandonedLockMessage accounts.vault accounts.claim) = .ok ()

theorem recoverAbandonedLock_ok {runtime : Runtime} {context : Context}
    {accounts : RecoverAbandonedLock} {args : Assertion} {state next : State}
    (hok : recoverAbandonedLock runtime context accounts args state =
      .ok next) :
    ∃ vault claim,
      ClaimRecovered runtime context accounts args state vault claim ∧
      next = (state.write accounts.claim
          (.claim { claim with
            status := .abandoned
            recoveredAt := some context.unixTimestamp })).write accounts.vault
        (.vault { vault with
          outstandingLockedAmount :=
            saturatingSub vault.outstandingLockedAmount claim.amount }) := by
  simp only [recoverAbandonedLock, loadClaim, loadVault, bind_eq_ok_iff,
    load_eq_ok_iff, okOr_eq_ok_iff, require_eq_ok_iff, pure_eq_ok_iff] at hok
  obtain ⟨claim, hclaim, vault, hvault, _, hpending, _, hsame, _, _, _, _, _,
    hsigned, rfl⟩ := hok
  exact ⟨vault, claim, ⟨hclaim, hvault, hpending, hsame, hsigned⟩, rfl⟩

/-- A transfer is signed by the holder it takes the claim from. -/
theorem transferLockOwnership_signed {context : Context}
    {accounts : TransferLockOwnership} {args : TransferLockOwnershipArgs}
    {state next : State} {claim : LockedClaim}
    (hok : transferLockOwnership context accounts args state = .ok next)
    (hclaim : state.claim? accounts.claim = some claim) :
    claim.currentHolder ∈ context.signers := by
  simp only [transferLockOwnership, loadClaim, requireSigner, bind_eq_ok_iff,
    load_eq_ok_iff, require_eq_ok_iff] at hok
  obtain ⟨found, hfound, _, hsigner, _, -, _, hholder, -⟩ := hok
  obtain rfl : found = claim := Option.some.inj (hfound.symm.trans hclaim)
  rw [hholder]
  exact hsigner

/-- A settlement comes at or after maturity. -/
theorem settleLockedVoucher_matured {runtime : Runtime} {context : Context}
    {accounts : SettleLockedVoucher} {state next : State} {claim : LockedClaim}
    (hok : settleLockedVoucher runtime context accounts state = .ok next)
    (hclaim : state.claim? accounts.claim = some claim) :
    ∀ maturity ∈ claim.maturityAt, maturity ≤ context.unixTimestamp := by
  simp only [settleLockedVoucher, loadClaim, loadVault, bind_eq_ok_iff,
    load_eq_ok_iff, require_eq_ok_iff] at hok
  obtain ⟨found, hfound, _, -, _, -, _, -, _, -, _, -, _, -, _, -, _, -, _,
    hmatured, -⟩ := hok
  obtain rfl : found = claim := Option.some.inj (hfound.symm.trans hclaim)
  exact hmatured

/-- A recovery comes at or after the deadline, which is set. -/
theorem recoverAbandonedLock_due {runtime : Runtime} {context : Context}
    {accounts : RecoverAbandonedLock} {args : Assertion} {state next : State}
    {claim : LockedClaim}
    (hok : recoverAbandonedLock runtime context accounts args state = .ok next)
    (hclaim : state.claim? accounts.claim = some claim) :
    ∃ recovery ∈ claim.holderRecoveryAt, recovery ≤ context.unixTimestamp := by
  simp only [recoverAbandonedLock, loadClaim, loadVault, bind_eq_ok_iff,
    load_eq_ok_iff, okOr_eq_ok_iff, require_eq_ok_iff] at hok
  obtain ⟨found, hfound, _, -, _, -, _, -, recovery, hrecovery, _, hdue, -⟩ :=
    hok
  obtain rfl : found = claim := Option.some.inj (hfound.symm.trans hclaim)
  exact ⟨recovery, hrecovery, hdue⟩

end DexterVault.Claim
