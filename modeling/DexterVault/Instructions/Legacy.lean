import DexterVault.Instructions.Hops

/-!
# Vaults without a version

Two layouts precede the version byte.  `migrate_legacy_to_v6` tells them apart
by the length of the account, walks a cursor over the fields and writes the
current layout, padded with zeros, over the whole account.
-/

namespace DexterVault.Legacy

open DexterVault.Machine
open DexterVault.Framing
open DexterVault.Borsh
open DexterVault.Borsh.Codec
open DexterVault.Accounts
open DexterVault.Execution
open DexterVault.Layouts
open DexterVault.Hops (Funded Rent)

structure MigrateLegacyToV6 where
  vault : Pubkey
  authority : Pubkey
  payer : Pubkey
  deriving DecidableEq

/-- The only signer that may migrate, and so claim, a vault without a recorded
authority. -/
def legacyMigrateAdmin : Pubkey :=
  ⟨[7, 179, 182, 183, 100, 73, 173, 138, 103, 164, 177, 48, 109, 81, 119, 92,
    179, 121, 21, 46, 144, 88, 221, 191, 26, 34, 146, 198, 80, 86, 95, 150],
    rfl⟩

def legacyV1Len : ℕ := 151
def legacyV15Len : ℕ := 183

structure LegacyVaultDecoded where
  bump : U8
  passkeyPubkey : PasskeyPubkey
  swigAddress : Pubkey
  coolingOffSeconds : I64
  pendingVoucherCount : U32
  pendingWithdrawal : Option PendingWithdrawal
  supabaseUserId : FixedBytes 16
  storedAuthority : Option Pubkey
  deriving DecidableEq

/-- `T::deserialize(&mut cursor)?`: the value and the advanced cursor. -/
def deserialize {Value : Type} (codec : Codec Value) (cursor : Bytes) :
    Result (Value × Bytes) :=
  okOr (codec.decode cursor) RuntimeError.borshIo

/-- Only the longer layout records an authority. -/
def deserializeAuthority (data cursor : Bytes) : Result (Option Pubkey) :=
  if data.length = legacyV15Len then do
    let (authority, _) ← deserialize (array 32) cursor
    return some authority
  else
    return none

def decodeLegacyVault (data : Bytes) : Result LegacyVaultDecoded := do
  require (data.length = legacyV1Len ∨ data.length = legacyV15Len)
    VaultError.notALegacyVault
  require (data.take 8 = vaultDiscriminator) VaultError.notALegacyVault
  let (bump, cursor) ← deserialize u8 (data.drop 8)
  let (passkeyPubkey, cursor) ← deserialize (array 33) cursor
  let (swigAddress, cursor) ← deserialize (array 32) cursor
  let (coolingOffSeconds, cursor) ← deserialize i64 cursor
  let (pendingVoucherCount, cursor) ← deserialize u32 cursor
  let (pendingWithdrawal, cursor) ← deserialize pendingWithdrawal.option cursor
  let (supabaseUserId, cursor) ← deserialize (array 16) cursor
  let storedAuthority ← deserializeAuthority data cursor
  return {
    bump := bump
    passkeyPubkey := passkeyPubkey
    swigAddress := swigAddress
    coolingOffSeconds := coolingOffSeconds
    pendingVoucherCount := pendingVoucherCount
    pendingWithdrawal := pendingWithdrawal
    supabaseUserId := supabaseUserId
    storedAuthority := storedAuthority }

/-- `value.clamp(0, u32::MAX as i64) as u32`. -/
def clampToU32 (value : I64) : U32 :=
  ⟨(max 0 (min value.val (2 ^ 32 - 1))).toNat, by omega⟩

/-- The 16 bytes of a user at the front of an identity of 32. -/
def identityClaim (supabaseUserId : FixedBytes 16) : FixedBytes 32 :=
  ⟨supabaseUserId.toList ++ List.replicate 16 0, by
    rw [List.length_append, supabaseUserId.toList_length,
      List.length_replicate]⟩

def encodeV6Image (legacy : LegacyVaultDecoded) (dexterAuthority : Pubkey) :
    Result Bytes := do
  let v6 : Vault := {
    version := vaultVersionV6
    bump := legacy.bump
    passkeyPubkey := legacy.passkeyPubkey
    swigAddress := legacy.swigAddress
    coolingOffSeconds := clampToU32 legacy.coolingOffSeconds
    pendingVoucherCount := legacy.pendingVoucherCount
    pendingWithdrawal := legacy.pendingWithdrawal
    identityClaim := identityClaim legacy.supabaseUserId
    dexterAuthority := dexterAuthority
    liveSessionCount := 0
    outstandingLockedAmount := 0
    totalCrystallizedAmount := 0
    totalSettledAmount := 0
    borrowed := 0
    standbyBacker := none
    standbyCap := 0
    borrowRecoveryAt := none }
  let target := 8 + vault.space
  let out := vaultDiscriminator ++ vault.encode v6
  require (out.length ≤ target) VaultError.unsupportedVaultVersion
  return resize target out

/-- The authority the migrated vault will have: the recorded one, or the admin
where the layout records none.  It has to sign either way. -/
def resolveAuthority (legacy : LegacyVaultDecoded) (authority : Pubkey) :
    Result Pubkey :=
  match legacy.storedAuthority with
  | some stored => do
      require (authority = stored) VaultError.passkeyVerificationFailed
      return stored
  | none => do
      require (authority = legacyMigrateAdmin)
        VaultError.passkeyVerificationFailed
      return legacyMigrateAdmin

def migrateLegacyToV6 (rent : Rent) (context : Context)
    (accounts : MigrateLegacyToV6) (account : Funded) : Result Funded := do
  requireSigner context accounts.authority
  requireSigner context accounts.payer
  let legacy ← decodeLegacyVault account.data
  let newAuthority ← resolveAuthority legacy accounts.authority
  let image ← encodeV6Image legacy newAuthority
  let newSize := image.length
  let topUp := rent newSize - account.lamports
  require (topUp ≤ account.payerLamports) RuntimeError.insufficientLamports
  let resized := resize newSize account.data
  require (resized.length = newSize) VaultError.unsupportedVaultVersion
  return {
    data := overwrite image resized
    lamports := account.lamports + topUp
    payerLamports := account.payerLamports - topUp }

end DexterVault.Legacy
