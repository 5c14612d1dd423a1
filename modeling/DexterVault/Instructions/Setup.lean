import DexterVault.State.Ledger
import DexterVault.Verify.Webauthn

/-!
# Creating a vault and binding its keys

`initialize_vault`, the two forms of `set_swig`, the rotations and
`prove_passkey`.  Each handler performs the framework's account checks in
order and then the checks of its body; the theorem beside it says what an
accepted call has checked and written.
-/

namespace DexterVault.Setup

open DexterVault.Machine
open DexterVault.Framing
open DexterVault.Accounts
open DexterVault.Execution
open DexterVault.Webauthn

/-- The version guard of the instructions that accept every layout since V2. -/
def requireSupportedVersion (vault : Vault) : Result Unit :=
  require
    (vault.version = vaultVersionV6 ∨ vault.version = vaultVersionV5 ∨
      vault.version = vaultVersionV4 ∨ vault.version = vaultVersionV3 ∨
      vault.version = vaultVersionV2)
    VaultError.unsupportedVaultVersion

/-- A SEC1 compressed point starts with `0x02` or `0x03`. -/
def requireCompressed (pubkey : PasskeyPubkey) : Result Unit :=
  require (pubkey.head = 2 ∨ pubkey.head = 3)
    VaultError.passkeyVerificationFailed

/-! ## initialize_vault -/

structure InitializeVault where
  vault : Pubkey
  payer : Pubkey
  dexterAuthority : Pubkey
  deriving DecidableEq

structure InitializeVaultArgs where
  passkeyPubkey : PasskeyPubkey
  coolingOffSeconds : U32
  identityClaim : FixedBytes 32
  deriving DecidableEq

def vaultSeeds (identityClaim : FixedBytes 32) : List Bytes :=
  [vaultSeed, identityClaim.toList.take 16]

def newVault (bump : U8) (dexterAuthority : Pubkey)
    (args : InitializeVaultArgs) : Vault where
  version := vaultVersionV6
  bump := bump
  passkeyPubkey := args.passkeyPubkey
  swigAddress := defaultPubkey
  coolingOffSeconds := args.coolingOffSeconds
  pendingVoucherCount := 0
  pendingWithdrawal := none
  identityClaim := args.identityClaim
  dexterAuthority := dexterAuthority
  liveSessionCount := 0
  outstandingLockedAmount := 0
  totalCrystallizedAmount := 0
  totalSettledAmount := 0
  borrowed := 0
  standbyBacker := none
  standbyCap := 0
  borrowRecoveryAt := none

def initializeVault (runtime : Runtime) (context : Context)
    (accounts : InitializeVault) (args : InitializeVaultArgs) (state : State) :
    Result State := do
  requireVacant state accounts.vault
  let bump ← requireCanonical runtime (vaultSeeds args.identityClaim) programId
    accounts.vault
  requireSigner context accounts.payer
  requireSigner context accounts.dexterAuthority
  requireCompressed args.passkeyPubkey
  return state.write accounts.vault
    (.vault (newVault bump accounts.dexterAuthority args))

theorem initializeVault_ok {runtime : Runtime} {context : Context}
    {accounts : InitializeVault} {args : InitializeVaultArgs}
    {state next : State}
    (hok : initializeVault runtime context accounts args state = .ok next) :
    state.accounts.lookup accounts.vault = none ∧
      ∃ bump, next = state.write accounts.vault
        (.vault (newVault bump accounts.dexterAuthority args)) := by
  simp only [initializeVault, requireVacant, bind_eq_ok_iff, require_eq_ok_iff,
    pure_eq_ok_iff] at hok
  obtain ⟨_, hvacant, bump, _, _, _, _, _, _, _, rfl⟩ := hok
  exact ⟨hvacant, bump, rfl⟩

/-! ## set_swig -/

structure SetSwigArgs extends Assertion where
  swigAddress : Pubkey
  deriving DecidableEq

/-- `"set_swig" || swig_address_bytes`. -/
def setSwigMessage (swigAddress : Pubkey) : Bytes :=
  ascii "set_swig" ++ swigAddress.toList

def setSwig (runtime : Runtime) (context : Context) (vaultKey : Pubkey)
    (args : SetSwigArgs) (state : State) : Result State := do
  let vault ← loadVault state vaultKey
  requireSupportedVersion vault
  require (vault.swigAddress = defaultPubkey)
    VaultError.passkeyVerificationFailed
  verifyPasskeySigned runtime context vault.passkeyPubkey args.clientDataJson
    args.authenticatorData (setSwigMessage args.swigAddress)
  return state.write vaultKey
    (.vault { vault with swigAddress := args.swigAddress })

structure SetSwigAtomic where
  vault : Pubkey
  feePayer : Pubkey
  swigAccount : Pubkey
  deriving DecidableEq

structure SetSwigAtomicArgs extends Assertion where
  /-- Whether the four calls into the Swig program succeed: creating the swig
  account and adding its three authorities. -/
  swigCreated : Bool
  deriving DecidableEq

def setSwigAtomic (runtime : Runtime) (context : Context)
    (accounts : SetSwigAtomic) (args : SetSwigAtomicArgs) (state : State) :
    Result State := do
  let vault ← loadVault state accounts.vault
  requireSigner context accounts.feePayer
  requireSupportedVersion vault
  require (vault.swigAddress = defaultPubkey)
    VaultError.passkeyVerificationFailed
  require (args.swigCreated = true) VaultError.passkeyVerificationFailed
  verifyPasskeySigned runtime context vault.passkeyPubkey args.clientDataJson
    args.authenticatorData (setSwigMessage accounts.swigAccount)
  return state.write accounts.vault
    (.vault { vault with swigAddress := accounts.swigAccount })

/-- A swig is bound to a vault that had none, by a vault passkey that signed
the address. -/
theorem setSwig_ok {runtime : Runtime} {context : Context} {vaultKey : Pubkey}
    {args : SetSwigArgs} {state next : State}
    (hok : setSwig runtime context vaultKey args state = .ok next) :
    ∃ vault, state.vault? vaultKey = some vault ∧
      vault.swigAddress = defaultPubkey ∧
      next = state.write vaultKey
        (.vault { vault with swigAddress := args.swigAddress }) := by
  simp only [setSwig, loadVault, bind_eq_ok_iff, load_eq_ok_iff,
    require_eq_ok_iff, pure_eq_ok_iff] at hok
  obtain ⟨vault, hvault, _, _, _, hdefault, _, _, rfl⟩ := hok
  exact ⟨vault, hvault, hdefault, rfl⟩

theorem setSwigAtomic_ok {runtime : Runtime} {context : Context}
    {accounts : SetSwigAtomic} {args : SetSwigAtomicArgs} {state next : State}
    (hok : setSwigAtomic runtime context accounts args state = .ok next) :
    ∃ vault, state.vault? accounts.vault = some vault ∧
      vault.swigAddress = defaultPubkey ∧
      next = state.write accounts.vault
        (.vault { vault with swigAddress := accounts.swigAccount }) := by
  simp only [setSwigAtomic, loadVault, bind_eq_ok_iff, load_eq_ok_iff,
    require_eq_ok_iff, pure_eq_ok_iff] at hok
  obtain ⟨vault, hvault, _, _, _, _, _, hdefault, _, _, _, _, rfl⟩ := hok
  exact ⟨vault, hvault, hdefault, rfl⟩

/-! ## Rotations and proofs of control -/

structure RotatePasskeyArgs extends Assertion where
  newPasskeyPubkey : PasskeyPubkey
  deriving DecidableEq

def rotatePasskeyMessage (newPasskeyPubkey : PasskeyPubkey) : Bytes :=
  ascii "rotate_passkey" ++ newPasskeyPubkey.toList

def rotatePasskey (runtime : Runtime) (context : Context) (vaultKey : Pubkey)
    (args : RotatePasskeyArgs) (state : State) : Result State := do
  let vault ← loadVault state vaultKey
  requireCompressed args.newPasskeyPubkey
  requireSupportedVersion vault
  verifyPasskeySigned runtime context vault.passkeyPubkey args.clientDataJson
    args.authenticatorData (rotatePasskeyMessage args.newPasskeyPubkey)
  return state.write vaultKey
    (.vault { vault with passkeyPubkey := args.newPasskeyPubkey })

/-- `has_one = dexter_authority` together with the signer check. -/
def requireDexterAuthority (context : Context) (vault : Vault)
    (dexterAuthority : Pubkey) : Result Unit := do
  require (dexterAuthority ∈ context.signers) RuntimeError.constraintSigner
  require (vault.dexterAuthority = dexterAuthority)
    VaultError.passkeyVerificationFailed

theorem requireDexterAuthority_ok {context : Context} {vault : Vault}
    {dexterAuthority : Pubkey} :
    requireDexterAuthority context vault dexterAuthority = .ok () ↔
      dexterAuthority ∈ context.signers ∧
        vault.dexterAuthority = dexterAuthority := by
  simp only [requireDexterAuthority, bind_eq_ok_iff, require_eq_ok_iff,
    exists_const]

structure RotateDexterAuthority where
  vault : Pubkey
  dexterAuthority : Pubkey
  deriving DecidableEq

structure RotateDexterAuthorityArgs where
  newDexterAuthority : Pubkey
  deriving DecidableEq

def rotateDexterAuthority (context : Context) (accounts : RotateDexterAuthority)
    (args : RotateDexterAuthorityArgs) (state : State) : Result State := do
  let vault ← loadVault state accounts.vault
  requireDexterAuthority context vault accounts.dexterAuthority
  require (args.newDexterAuthority ≠ defaultPubkey)
    VaultError.passkeyVerificationFailed
  requireSupportedVersion vault
  return state.write accounts.vault
    (.vault { vault with dexterAuthority := args.newDexterAuthority })

structure ProvePasskeyArgs extends Assertion where
  challenge : FixedBytes 32
  deriving DecidableEq

def provePasskeyMessage (challenge : FixedBytes 32) : Bytes :=
  ascii "siwx_login" ++ challenge.toList

def provePasskey (runtime : Runtime) (context : Context) (vaultKey : Pubkey)
    (args : ProvePasskeyArgs) (state : State) : Result State := do
  let vault ← loadVault state vaultKey
  requireSupportedVersion vault
  verifyPasskeySigned runtime context vault.passkeyPubkey args.clientDataJson
    args.authenticatorData (provePasskeyMessage args.challenge)
  return state

theorem rotatePasskey_ok {runtime : Runtime} {context : Context}
    {vaultKey : Pubkey} {args : RotatePasskeyArgs} {state next : State}
    (hok : rotatePasskey runtime context vaultKey args state = .ok next) :
    ∃ vault, state.vault? vaultKey = some vault ∧
      verifyPasskeySigned runtime context vault.passkeyPubkey
        args.clientDataJson args.authenticatorData
        (rotatePasskeyMessage args.newPasskeyPubkey) = .ok () ∧
      next = state.write vaultKey
        (.vault { vault with passkeyPubkey := args.newPasskeyPubkey }) := by
  simp only [rotatePasskey, loadVault, bind_eq_ok_iff, load_eq_ok_iff,
    pure_eq_ok_iff] at hok
  obtain ⟨vault, hvault, _, _, _, _, _, hsigned, rfl⟩ := hok
  exact ⟨vault, hvault, hsigned, rfl⟩

theorem rotateDexterAuthority_ok {context : Context}
    {accounts : RotateDexterAuthority} {args : RotateDexterAuthorityArgs}
    {state next : State}
    (hok : rotateDexterAuthority context accounts args state = .ok next) :
    ∃ vault, state.vault? accounts.vault = some vault ∧
      next = state.write accounts.vault
        (.vault { vault with dexterAuthority := args.newDexterAuthority }) := by
  simp only [rotateDexterAuthority, loadVault, bind_eq_ok_iff, load_eq_ok_iff,
    pure_eq_ok_iff] at hok
  obtain ⟨vault, hvault, _, _, _, _, _, _, rfl⟩ := hok
  exact ⟨vault, hvault, rfl⟩

theorem rotatePasskey_quiet {runtime : Runtime} {context : Context}
    {vaultKey : Pubkey} {args : RotatePasskeyArgs} {state next : State}
    (hok : rotatePasskey runtime context vaultKey args state = .ok next) :
    Quiet state next := by
  obtain ⟨vault, hvault, -, rfl⟩ := rotatePasskey_ok hok
  exact Quiet.write_vault hvault rfl

theorem rotateDexterAuthority_quiet {context : Context}
    {accounts : RotateDexterAuthority} {args : RotateDexterAuthorityArgs}
    {state next : State}
    (hok : rotateDexterAuthority context accounts args state = .ok next) :
    Quiet state next := by
  obtain ⟨vault, hvault, rfl⟩ := rotateDexterAuthority_ok hok
  exact Quiet.write_vault hvault rfl

theorem provePasskey_unchanged {runtime : Runtime} {context : Context}
    {vaultKey : Pubkey} {args : ProvePasskeyArgs} {state next : State}
    (hok : provePasskey runtime context vaultKey args state = .ok next) :
    next = state := by
  simp only [provePasskey, bind_eq_ok_iff, pure_eq_ok_iff] at hok
  obtain ⟨_, _, _, _, _, _, rfl⟩ := hok
  rfl

end DexterVault.Setup
