import DexterVault.Core.Borsh
import DexterVault.State.Execution

/-!
# The layouts of a vault

A vault account holds an eight-byte discriminator, the Borsh encoding of its
struct and slack up to the size its generation was created with.  The structs
of the older generations are the frozen snapshots of the migrations: a reader
for each hop and a writer for each hop that emits an older layout.  All of them
begin with the same nine fields.
-/

namespace DexterVault.Layouts

open DexterVault.Machine
open DexterVault.Framing
open DexterVault.Borsh
open DexterVault.Borsh.Codec
open DexterVault.Accounts
open DexterVault.Execution

/-! ## Parts -/

def pendingWithdrawal : Codec PendingWithdrawal :=
  (u64.prod ((array 32).prod i64)).equiv
    { toFun := fun (amount, destination, requestedAt) =>
        ⟨amount, destination, requestedAt⟩
      invFun := fun pending =>
        (pending.amount, pending.destination, pending.requestedAt)
      left_inv := fun _ => rfl
      right_inv := fun _ => rfl }

/-- The session before the meters of V3. -/
structure SessionRegistrationV2 where
  sessionPubkey : FixedBytes 32
  maxAmount : U64
  expiresAt : I64
  allowedCounterparty : Pubkey
  nonce : U32
  spent : U64
  deriving DecidableEq

/-- The session before the lock fields of V4. -/
structure SessionRegistrationV3 where
  sessionPubkey : FixedBytes 32
  maxAmount : U64
  expiresAt : I64
  allowedCounterparty : Pubkey
  nonce : U32
  spent : U64
  currentOutstanding : U64
  maxRevolvingCapacity : U64
  deriving DecidableEq

def sessionRegistrationV2 : Codec SessionRegistrationV2 :=
  ((array 32).prod (u64.prod (i64.prod ((array 32).prod (u32.prod u64))))).equiv
    { toFun := fun (sessionPubkey, maxAmount, expiresAt, allowedCounterparty,
        nonce, spent) =>
        ⟨sessionPubkey, maxAmount, expiresAt, allowedCounterparty, nonce, spent⟩
      invFun := fun session =>
        (session.sessionPubkey, session.maxAmount, session.expiresAt,
          session.allowedCounterparty, session.nonce, session.spent)
      left_inv := fun _ => rfl
      right_inv := fun _ => rfl }

def sessionRegistrationV3 : Codec SessionRegistrationV3 :=
  ((array 32).prod (u64.prod (i64.prod ((array 32).prod (u32.prod
    (u64.prod (u64.prod u64))))))).equiv
    { toFun := fun (sessionPubkey, maxAmount, expiresAt, allowedCounterparty,
        nonce, spent, currentOutstanding, maxRevolvingCapacity) =>
        ⟨sessionPubkey, maxAmount, expiresAt, allowedCounterparty, nonce, spent,
          currentOutstanding, maxRevolvingCapacity⟩
      invFun := fun session =>
        (session.sessionPubkey, session.maxAmount, session.expiresAt,
          session.allowedCounterparty, session.nonce, session.spent,
          session.currentOutstanding, session.maxRevolvingCapacity)
      left_inv := fun _ => rfl
      right_inv := fun _ => rfl }

def sessionRegistration : Codec SessionRegistration :=
  ((array 32).prod (u64.prod (i64.prod ((array 32).prod (u32.prod
    (u64.prod (u64.prod (u64.prod (u64.prod u32))))))))).equiv
    { toFun := fun (sessionPubkey, maxAmount, expiresAt, allowedCounterparty,
        nonce, spent, currentOutstanding, maxRevolvingCapacity,
        crystallizedCumulative, lastLockedSequence) =>
        ⟨sessionPubkey, maxAmount, expiresAt, allowedCounterparty, nonce, spent,
          currentOutstanding, maxRevolvingCapacity, crystallizedCumulative,
          lastLockedSequence⟩
      invFun := fun session =>
        (session.sessionPubkey, session.maxAmount, session.expiresAt,
          session.allowedCounterparty, session.nonce, session.spent,
          session.currentOutstanding, session.maxRevolvingCapacity,
          session.crystallizedCumulative, session.lastLockedSequence)
      left_inv := fun _ => rfl
      right_inv := fun _ => rfl }

@[simp]
theorem length_encode_sessionRegistration (session : SessionRegistration) :
    (sessionRegistration.encode session).length = 120 := by
  simp [sessionRegistration]

/-- The fields every layout begins with. -/
structure VaultHeader where
  version : U8
  bump : U8
  passkeyPubkey : PasskeyPubkey
  swigAddress : Pubkey
  coolingOffSeconds : U32
  pendingVoucherCount : U32
  pendingWithdrawal : Option PendingWithdrawal
  identityClaim : FixedBytes 32
  dexterAuthority : Pubkey
  deriving DecidableEq

def vaultHeader : Codec VaultHeader :=
  (u8.prod (u8.prod ((array 33).prod ((array 32).prod (u32.prod (u32.prod
    (pendingWithdrawal.option.prod ((array 32).prod (array 32))))))))).equiv
    { toFun := fun (version, bump, passkeyPubkey, swigAddress, coolingOffSeconds,
        pendingVoucherCount, pendingWithdrawal, identityClaim, dexterAuthority) =>
        ⟨version, bump, passkeyPubkey, swigAddress, coolingOffSeconds,
          pendingVoucherCount, pendingWithdrawal, identityClaim, dexterAuthority⟩
      invFun := fun header =>
        (header.version, header.bump, header.passkeyPubkey, header.swigAddress,
          header.coolingOffSeconds, header.pendingVoucherCount,
          header.pendingWithdrawal, header.identityClaim, header.dexterAuthority)
      left_inv := fun _ => rfl
      right_inv := fun _ => rfl }

theorem length_encode_header (header : VaultHeader) :
    (vaultHeader.encode header).length =
      140 + if header.pendingWithdrawal.isSome then 48 else 0 := by
  cases hpending : header.pendingWithdrawal <;>
    simp [vaultHeader, pendingWithdrawal, hpending]

/-- The accounting that V4 appends. -/
structure LockOdometers where
  outstandingLockedAmount : U64
  totalCrystallizedAmount : U64
  totalSettledAmount : U64
  deriving DecidableEq

def lockOdometers : Codec LockOdometers :=
  (u64.prod (u64.prod u64)).equiv
    { toFun := fun (outstandingLockedAmount, totalCrystallizedAmount,
        totalSettledAmount) =>
        ⟨outstandingLockedAmount, totalCrystallizedAmount, totalSettledAmount⟩
      invFun := fun odometers =>
        (odometers.outstandingLockedAmount, odometers.totalCrystallizedAmount,
          odometers.totalSettledAmount)
      left_inv := fun _ => rfl
      right_inv := fun _ => rfl }

@[simp]
theorem length_encode_lockOdometers (odometers : LockOdometers) :
    (lockOdometers.encode odometers).length = 24 := by
  simp [lockOdometers]

/-- The accounting that V5 appends. -/
structure CreditLine where
  borrowed : U64
  standbyBacker : Option Pubkey
  standbyCap : U64
  borrowRecoveryAt : Option I64
  deriving DecidableEq

def creditLine : Codec CreditLine :=
  (u64.prod ((array 32).option.prod (u64.prod i64.option))).equiv
    { toFun := fun (borrowed, standbyBacker, standbyCap, borrowRecoveryAt) =>
        ⟨borrowed, standbyBacker, standbyCap, borrowRecoveryAt⟩
      invFun := fun credit =>
        (credit.borrowed, credit.standbyBacker, credit.standbyCap,
          credit.borrowRecoveryAt)
      left_inv := fun _ => rfl
      right_inv := fun _ => rfl }

/-! ## Vaults -/

/-- The layout that `migrate_v2_to_v3` reads the authority out of. -/
structure VaultV2 where
  version : U8
  bump : U8
  passkeyPubkey : PasskeyPubkey
  swigAddress : Pubkey
  coolingOffSeconds : U32
  pendingVoucherCount : U32
  pendingWithdrawal : Option PendingWithdrawal
  identityClaim : FixedBytes 32
  dexterAuthority : Pubkey
  activeSession : Option SessionRegistrationV2
  deriving DecidableEq

def vaultV2Fields : VaultHeader × Option SessionRegistrationV2 ≃ VaultV2 where
  toFun := fun (header, activeSession) =>
    ⟨header.version, header.bump, header.passkeyPubkey, header.swigAddress,
      header.coolingOffSeconds, header.pendingVoucherCount,
      header.pendingWithdrawal, header.identityClaim,
      header.dexterAuthority, activeSession⟩
  invFun := fun vault =>
    (⟨vault.version, vault.bump, vault.passkeyPubkey, vault.swigAddress,
      vault.coolingOffSeconds, vault.pendingVoucherCount,
      vault.pendingWithdrawal, vault.identityClaim, vault.dexterAuthority⟩,
      vault.activeSession)
  left_inv _ := rfl
  right_inv _ := rfl

def vaultV2 : Codec VaultV2 :=
  (vaultHeader.prod sessionRegistrationV2.option).equiv vaultV2Fields

/-- The reader of `migrate_v3_to_v4`. -/
structure VaultV3 where
  version : U8
  bump : U8
  passkeyPubkey : PasskeyPubkey
  swigAddress : Pubkey
  coolingOffSeconds : U32
  pendingVoucherCount : U32
  pendingWithdrawal : Option PendingWithdrawal
  identityClaim : FixedBytes 32
  dexterAuthority : Pubkey
  activeSession : Option SessionRegistrationV3
  deriving DecidableEq

def vaultV3Fields : VaultHeader × Option SessionRegistrationV3 ≃ VaultV3 where
  toFun := fun (header, activeSession) =>
    ⟨header.version, header.bump, header.passkeyPubkey, header.swigAddress,
      header.coolingOffSeconds, header.pendingVoucherCount,
      header.pendingWithdrawal, header.identityClaim,
      header.dexterAuthority, activeSession⟩
  invFun := fun vault =>
    (⟨vault.version, vault.bump, vault.passkeyPubkey, vault.swigAddress,
      vault.coolingOffSeconds, vault.pendingVoucherCount,
      vault.pendingWithdrawal, vault.identityClaim, vault.dexterAuthority⟩,
      vault.activeSession)
  left_inv _ := rfl
  right_inv _ := rfl

def vaultV3 : Codec VaultV3 :=
  (vaultHeader.prod sessionRegistrationV3.option).equiv vaultV3Fields

/-- The writer of `migrate_v3_to_v4`. -/
structure VaultV4Frozen where
  version : U8
  bump : U8
  passkeyPubkey : PasskeyPubkey
  swigAddress : Pubkey
  coolingOffSeconds : U32
  pendingVoucherCount : U32
  pendingWithdrawal : Option PendingWithdrawal
  identityClaim : FixedBytes 32
  dexterAuthority : Pubkey
  activeSession : Option SessionRegistration
  outstandingLockedAmount : U64
  totalCrystallizedAmount : U64
  totalSettledAmount : U64
  deriving DecidableEq

def vaultV4FrozenFields :
    VaultHeader × Option SessionRegistration × LockOdometers ≃ VaultV4Frozen where
  toFun := fun (header, activeSession, odometers) =>
    ⟨header.version, header.bump, header.passkeyPubkey, header.swigAddress,
      header.coolingOffSeconds, header.pendingVoucherCount,
      header.pendingWithdrawal, header.identityClaim,
      header.dexterAuthority, activeSession, odometers.outstandingLockedAmount,
      odometers.totalCrystallizedAmount, odometers.totalSettledAmount⟩
  invFun := fun vault =>
    (⟨vault.version, vault.bump, vault.passkeyPubkey, vault.swigAddress,
      vault.coolingOffSeconds, vault.pendingVoucherCount,
      vault.pendingWithdrawal, vault.identityClaim, vault.dexterAuthority⟩,
      vault.activeSession,
      ⟨vault.outstandingLockedAmount, vault.totalCrystallizedAmount,
      vault.totalSettledAmount⟩)
  left_inv _ := rfl
  right_inv _ := rfl

def vaultV4Frozen : Codec VaultV4Frozen :=
  (vaultHeader.prod (sessionRegistration.option.prod lockOdometers)).equiv
    vaultV4FrozenFields

/-- The reader of `migrate_v4_to_v5`. -/
structure VaultV4 where
  version : U8
  bump : U8
  passkeyPubkey : PasskeyPubkey
  swigAddress : Pubkey
  coolingOffSeconds : U32
  pendingVoucherCount : U32
  pendingWithdrawal : Option PendingWithdrawal
  identityClaim : FixedBytes 32
  dexterAuthority : Pubkey
  activeSession : Option SessionRegistration
  outstandingLockedAmount : U64
  totalCrystallizedAmount : U64
  totalSettledAmount : U64
  deriving DecidableEq

def vaultV4Fields :
    VaultHeader × Option SessionRegistration × LockOdometers ≃ VaultV4 where
  toFun := fun (header, activeSession, odometers) =>
    ⟨header.version, header.bump, header.passkeyPubkey, header.swigAddress,
      header.coolingOffSeconds, header.pendingVoucherCount,
      header.pendingWithdrawal, header.identityClaim,
      header.dexterAuthority, activeSession, odometers.outstandingLockedAmount,
      odometers.totalCrystallizedAmount, odometers.totalSettledAmount⟩
  invFun := fun vault =>
    (⟨vault.version, vault.bump, vault.passkeyPubkey, vault.swigAddress,
      vault.coolingOffSeconds, vault.pendingVoucherCount,
      vault.pendingWithdrawal, vault.identityClaim, vault.dexterAuthority⟩,
      vault.activeSession,
      ⟨vault.outstandingLockedAmount, vault.totalCrystallizedAmount,
      vault.totalSettledAmount⟩)
  left_inv _ := rfl
  right_inv _ := rfl

def vaultV4 : Codec VaultV4 :=
  (vaultHeader.prod (sessionRegistration.option.prod lockOdometers)).equiv
    vaultV4Fields

/-- The writer of `migrate_v4_to_v5`. -/
structure VaultV5Frozen where
  version : U8
  bump : U8
  passkeyPubkey : PasskeyPubkey
  swigAddress : Pubkey
  coolingOffSeconds : U32
  pendingVoucherCount : U32
  pendingWithdrawal : Option PendingWithdrawal
  identityClaim : FixedBytes 32
  dexterAuthority : Pubkey
  activeSession : Option SessionRegistration
  outstandingLockedAmount : U64
  totalCrystallizedAmount : U64
  totalSettledAmount : U64
  borrowed : U64
  standbyBacker : Option Pubkey
  standbyCap : U64
  borrowRecoveryAt : Option I64
  deriving DecidableEq

def vaultV5FrozenFields :
    VaultHeader × Option SessionRegistration × LockOdometers × CreditLine ≃
      VaultV5Frozen where
  toFun := fun (header, activeSession, odometers, credit) =>
    ⟨header.version, header.bump, header.passkeyPubkey, header.swigAddress,
      header.coolingOffSeconds, header.pendingVoucherCount,
      header.pendingWithdrawal, header.identityClaim,
      header.dexterAuthority, activeSession, odometers.outstandingLockedAmount,
      odometers.totalCrystallizedAmount, odometers.totalSettledAmount,
      credit.borrowed, credit.standbyBacker, credit.standbyCap,
      credit.borrowRecoveryAt⟩
  invFun := fun vault =>
    (⟨vault.version, vault.bump, vault.passkeyPubkey, vault.swigAddress,
      vault.coolingOffSeconds, vault.pendingVoucherCount,
      vault.pendingWithdrawal, vault.identityClaim, vault.dexterAuthority⟩,
      vault.activeSession,
      ⟨vault.outstandingLockedAmount, vault.totalCrystallizedAmount,
      vault.totalSettledAmount⟩,
      ⟨vault.borrowed, vault.standbyBacker, vault.standbyCap,
      vault.borrowRecoveryAt⟩)
  left_inv _ := rfl
  right_inv _ := rfl

def vaultV5Frozen : Codec VaultV5Frozen :=
  (vaultHeader.prod (sessionRegistration.option.prod
    (lockOdometers.prod creditLine))).equiv vaultV5FrozenFields

/-- The reader of `migrate_v5_to_v6`. -/
def vaultV5ReaderFields :
    VaultHeader × Option SessionRegistration × LockOdometers × CreditLine ≃
      VaultV5Reader where
  toFun := fun (header, activeSession, odometers, credit) =>
    ⟨header.version, header.bump, header.passkeyPubkey, header.swigAddress,
      header.coolingOffSeconds, header.pendingVoucherCount,
      header.pendingWithdrawal, header.identityClaim,
      header.dexterAuthority, activeSession, odometers.outstandingLockedAmount,
      odometers.totalCrystallizedAmount, odometers.totalSettledAmount,
      credit.borrowed, credit.standbyBacker, credit.standbyCap,
      credit.borrowRecoveryAt⟩
  invFun := fun vault =>
    (⟨vault.version, vault.bump, vault.passkeyPubkey, vault.swigAddress,
      vault.coolingOffSeconds, vault.pendingVoucherCount,
      vault.pendingWithdrawal, vault.identityClaim, vault.dexterAuthority⟩,
      vault.activeSession,
      ⟨vault.outstandingLockedAmount, vault.totalCrystallizedAmount,
      vault.totalSettledAmount⟩,
      ⟨vault.borrowed, vault.standbyBacker, vault.standbyCap,
      vault.borrowRecoveryAt⟩)
  left_inv _ := rfl
  right_inv _ := rfl

def vaultV5Reader : Codec VaultV5Reader :=
  (vaultHeader.prod (sessionRegistration.option.prod
    (lockOdometers.prod creditLine))).equiv vaultV5ReaderFields

/-- The current layout: a count stands in the place of the session. -/
def vaultFields : VaultHeader × U8 × LockOdometers × CreditLine ≃ Vault where
  toFun := fun (header, liveSessionCount, odometers, credit) =>
    ⟨header.version, header.bump, header.passkeyPubkey, header.swigAddress,
      header.coolingOffSeconds, header.pendingVoucherCount,
      header.pendingWithdrawal, header.identityClaim,
      header.dexterAuthority, liveSessionCount,
      odometers.outstandingLockedAmount, odometers.totalCrystallizedAmount,
      odometers.totalSettledAmount,
      credit.borrowed, credit.standbyBacker, credit.standbyCap,
      credit.borrowRecoveryAt⟩
  invFun := fun vault =>
    (⟨vault.version, vault.bump, vault.passkeyPubkey, vault.swigAddress,
      vault.coolingOffSeconds, vault.pendingVoucherCount,
      vault.pendingWithdrawal, vault.identityClaim, vault.dexterAuthority⟩,
      vault.liveSessionCount,
      ⟨vault.outstandingLockedAmount, vault.totalCrystallizedAmount,
      vault.totalSettledAmount⟩,
      ⟨vault.borrowed, vault.standbyBacker, vault.standbyCap,
      vault.borrowRecoveryAt⟩)
  left_inv _ := rfl
  right_inv _ := rfl

def vault : Codec Vault :=
  (vaultHeader.prod (u8.prod (lockOdometers.prod creditLine))).equiv vaultFields

def sessionAccount : Codec SessionAccount :=
  (u8.prod (u8.prod ((array 32).prod sessionRegistration))).equiv
    { toFun := fun (version, bump, vault, session) =>
        ⟨version, bump, vault, session⟩
      invFun := fun account =>
        (account.version, account.bump, account.vault, account.session)
      left_inv := fun _ => rfl
      right_inv := fun _ => rfl }

/-! ## Account data -/

/-- `Vault::DISCRIMINATOR`. -/
def vaultDiscriminator : Bytes := [211, 8, 232, 43, 2, 152, 117, 119]

/-- `SessionAccount::DISCRIMINATOR`. -/
def sessionAccountDiscriminator : Bytes := [74, 34, 65, 133, 96, 163, 80, 69]

/-- An account of the size of its layout that holds `value`, with any slack
behind the encoding. -/
structure IsImage {Value : Type} (layout : Codec Value) (value : Value)
    (data : Bytes) : Prop where
  size : data.length = 8 + layout.space
  encoded : vaultDiscriminator ++ layout.encode value <+: data

/-- `try_deserialize`: whatever follows the encoding is ignored. -/
def tryDeserialize {Value : Type} (layout : Codec Value) (data : Bytes) :
    Result Value := do
  require (8 ≤ data.length) RuntimeError.accountDiscriminatorNotFound
  require (data.take 8 = vaultDiscriminator)
    RuntimeError.accountDiscriminatorMismatch
  let decoded ← okOr (layout.decode (data.drop 8))
    RuntimeError.accountDidNotDeserialize
  return decoded.1

/-- `try_serialize`: whatever follows the encoding stays. -/
def trySerialize {Value : Type} (layout : Codec Value) (value : Value)
    (data : Bytes) : Result Bytes := do
  let out := vaultDiscriminator ++ layout.encode value
  require (out.length ≤ data.length) RuntimeError.accountDidNotSerialize
  return overwrite out data

section Images

variable {Value : Type} {layout : Codec Value} {value : Value} {data : Bytes}

theorem IsImage.decode (himage : IsImage layout value data) :
    ∃ slack, layout.decode (data.drop 8) = some (value, slack) := by
  obtain ⟨slack, rfl⟩ := himage.encoded
  exact ⟨slack, layout.decode_encode_append value slack⟩

/-- An image holds one value only. -/
theorem IsImage.unique {other : Value} (himage : IsImage layout value data)
    (hother : IsImage layout other data) : value = other := by
  obtain ⟨slack, hdecode⟩ := himage.decode
  obtain ⟨otherSlack, hdecodeOther⟩ := hother.decode
  rw [hdecode] at hdecodeOther
  cases hdecodeOther
  rfl

theorem tryDeserialize_eq_ok_iff :
    tryDeserialize layout data = .ok value ↔
      vaultDiscriminator ++ layout.encode value <+: data := by
  simp only [tryDeserialize, bind_eq_ok_iff, require_eq_ok_iff, okOr_eq_ok_iff,
    pure_eq_ok_iff]
  constructor
  · rintro ⟨_, _, _, hdiscriminator, ⟨_, rest⟩, hdecode, rfl⟩
    rw [layout.decode_eq_some_iff] at hdecode
    refine ⟨rest, ?_⟩
    rw [List.append_assoc, ← hdecode, ← hdiscriminator, List.take_append_drop]
  · rintro ⟨rest, rfl⟩
    refine ⟨(), ?_, (), rfl, (value, rest), ?_, rfl⟩
    · simp [vaultDiscriminator]
    · exact layout.decode_encode_append value rest

theorem trySerialize_eq_ok_iff {result : Bytes} :
    trySerialize layout value data = .ok result ↔
      (vaultDiscriminator ++ layout.encode value).length ≤ data.length ∧
        result = overwrite (vaultDiscriminator ++ layout.encode value) data := by
  simp only [trySerialize, bind_eq_ok_iff, require_eq_ok_iff, pure_eq_ok_iff]
  constructor
  · rintro ⟨_, hfits, hresult⟩
    exact ⟨hfits, hresult.symm⟩
  · rintro ⟨hfits, hresult⟩
    exact ⟨(), hfits, hresult.symm⟩

end Images

end DexterVault.Layouts
