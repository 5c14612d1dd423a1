import DexterVault.Instructions.Migration
import DexterVault.State.Layouts

/-!
# The migrations on account data

Each hop decodes the account under the frozen struct of its own generation and
writes the next layout over the front of the same buffer.  The first two hops
grow the buffer and leave whatever lies behind the new encoding; the last one
pads with zeros and cuts the buffer to the size of the current layout.  The
payer covers the rent of a longer account and takes back what a shorter one
frees.
-/

namespace DexterVault.Hops

open DexterVault.Machine
open DexterVault.Framing
open DexterVault.Borsh
open DexterVault.Accounts
open DexterVault.Execution
open DexterVault.Layouts
open DexterVault.Migration (upgradedVault MigrateV5ToV6
  MigrateV5ToV6WithSession MigrateV5ToV6WithSessionArgs)

/-- The vault account of a migration, with its lamports and the payer's. -/
structure Funded where
  data : Bytes
  lamports : ℕ
  payerLamports : ℕ
  deriving DecidableEq

/-- `Rent::minimum_balance`. -/
abbrev Rent := ℕ → ℕ

/-! ## Common steps -/

/-- The checks on the raw data and the decoding under a frozen struct. -/
def readFrozen {Value : Type} (layout : Codec Value) (version : U8)
    (data : Bytes) : Result Value := do
  require (9 ≤ data.length) VaultError.unsupportedVaultVersion
  require (data.take 8 = vaultDiscriminator) VaultError.unsupportedVaultVersion
  require (data.getD 8 0 = version) VaultError.unsupportedVaultVersion
  let decoded ← okOr (layout.decode (data.drop 8)) RuntimeError.borshIo
  return decoded.1

/-- A grown account stays rent-exempt at the expense of the payer. -/
def growTo (rent : Rent) (newSize : ℕ) (account : Funded) : Result Funded :=
  if account.data.length < newSize then do
    let missing := rent newSize - account.lamports
    require (missing ≤ account.payerLamports) RuntimeError.insufficientLamports
    return {
      data := resize newSize account.data
      lamports := account.lamports + missing
      payerLamports := account.payerLamports - missing }
  else
    return account

/-- The common body of the two hops that write an older layout. -/
def migrateUp {Old New : Type} (reader : Codec Old) (version : U8)
    (writer : Codec New) (recordedAuthority : Old → Pubkey)
    (upgraded : Old → New) (rent : Rent) (context : Context)
    (accounts : MigrateV5ToV6) (account : Funded) : Result Funded := do
  requireSigner context accounts.dexterAuthority
  requireSigner context accounts.payer
  let old ← readFrozen reader version account.data
  require (recordedAuthority old = accounts.dexterAuthority)
    VaultError.passkeyVerificationFailed
  let grown ← growTo rent (8 + writer.space) account
  let out := vaultDiscriminator ++ writer.encode (upgraded old)
  require (out.length ≤ grown.data.length) VaultError.unsupportedVaultVersion
  return { grown with data := overwrite out grown.data }

/-! ## From V2 to V3 -/

/-- This hop decodes no further than the recorded authority and encodes nothing:
the account grows to the current size, where it is shorter, and gets a new
stamp.  `MigrateV2ToV3` names the same three accounts. -/
def migrateV2ToV3 (rent : Rent) (context : Context) (accounts : MigrateV5ToV6)
    (account : Funded) : Result Funded := do
  requireSigner context accounts.dexterAuthority
  requireSigner context accounts.payer
  let header ← readFrozen vaultHeader vaultVersionV2 account.data
  require (header.dexterAuthority = accounts.dexterAuthority)
    VaultError.passkeyVerificationFailed
  let grown ← growTo rent (8 + vault.space) account
  return { grown with data := grown.data.set 8 vaultVersionV3 }

/-! ## From V3 to V4 -/

def upgradedSession (session : SessionRegistrationV3) : SessionRegistration where
  sessionPubkey := session.sessionPubkey
  maxAmount := session.maxAmount
  expiresAt := session.expiresAt
  allowedCounterparty := session.allowedCounterparty
  nonce := session.nonce
  spent := session.spent
  currentOutstanding := session.currentOutstanding
  maxRevolvingCapacity := session.maxRevolvingCapacity
  crystallizedCumulative := 0
  lastLockedSequence := 0

def upgradedV3 (v3 : VaultV3) : VaultV4Frozen where
  version := vaultVersionV4
  bump := v3.bump
  passkeyPubkey := v3.passkeyPubkey
  swigAddress := v3.swigAddress
  coolingOffSeconds := v3.coolingOffSeconds
  pendingVoucherCount := v3.pendingVoucherCount
  pendingWithdrawal := v3.pendingWithdrawal
  identityClaim := v3.identityClaim
  dexterAuthority := v3.dexterAuthority
  activeSession := v3.activeSession.map upgradedSession
  outstandingLockedAmount := 0
  totalCrystallizedAmount := 0
  totalSettledAmount := 0

/-- `MigrateV3ToV4` names the same three accounts. -/
def migrateV3ToV4 (rent : Rent) (context : Context) (accounts : MigrateV5ToV6)
    (account : Funded) : Result Funded :=
  migrateUp vaultV3 vaultVersionV3 vaultV4Frozen VaultV3.dexterAuthority
    upgradedV3 rent context accounts account

/-! ## From V4 to V5 -/

def upgradedV4 (v4 : VaultV4) : VaultV5Frozen where
  version := vaultVersionV5
  bump := v4.bump
  passkeyPubkey := v4.passkeyPubkey
  swigAddress := v4.swigAddress
  coolingOffSeconds := v4.coolingOffSeconds
  pendingVoucherCount := v4.pendingVoucherCount
  pendingWithdrawal := v4.pendingWithdrawal
  identityClaim := v4.identityClaim
  dexterAuthority := v4.dexterAuthority
  activeSession := v4.activeSession
  outstandingLockedAmount := v4.outstandingLockedAmount
  totalCrystallizedAmount := v4.totalCrystallizedAmount
  totalSettledAmount := v4.totalSettledAmount
  borrowed := 0
  standbyBacker := none
  standbyCap := 0
  borrowRecoveryAt := none

def migrateV4ToV5 (rent : Rent) (context : Context) (accounts : MigrateV5ToV6)
    (account : Funded) : Result Funded :=
  migrateUp vaultV4 vaultVersionV4 vaultV5Frozen VaultV4.dexterAuthority
    upgradedV4 rent context accounts account

/-! ## From V5 to V6 -/

/-- A shrunk account keeps its rent and returns the rest to the payer. -/
def shrinkTo (rent : Rent) (newSize : ℕ) (account : Funded) : Funded :=
  let refund := account.lamports - rent newSize
  { data := resize newSize account.data
    lamports := account.lamports - refund
    payerLamports := account.payerLamports + refund }

/-- The V6 encoding, padded with zeros to the full size before it is copied. -/
def writeV6 (rent : Rent) (v6 : Vault) (account : Funded) : Result Funded := do
  let newSize := 8 + vault.space
  let out := vaultDiscriminator ++ vault.encode v6
  require (out.length ≤ newSize) VaultError.unsupportedVaultVersion
  let padded := resize newSize out
  require (padded.length ≤ account.data.length)
    VaultError.unsupportedVaultVersion
  return shrinkTo rent newSize
    { account with data := overwrite padded account.data }

def migrateV5ToV6 (rent : Rent) (context : Context) (accounts : MigrateV5ToV6)
    (account : Funded) : Result Funded := do
  requireSigner context accounts.dexterAuthority
  requireSigner context accounts.payer
  let v5 ← readFrozen vaultV5Reader vaultVersionV5 account.data
  require (v5.dexterAuthority = accounts.dexterAuthority)
    VaultError.passkeyVerificationFailed
  require (∀ session ∈ v5.activeSession,
      session.expiresAt ≤ context.unixTimestamp)
    VaultError.sessionAlreadyActive
  writeV6 rent (upgradedVault v5 0) account

/-- The data of a session account: it fills its buffer. -/
def sessionImage (account : SessionAccount) : Bytes :=
  sessionAccountDiscriminator ++ sessionAccount.encode account

/-- The vault and the data of the session account that is created for it.
`sessionData` is what the address of the session holds before. -/
def migrateV5ToV6WithSession (runtime : Runtime) (rent : Rent)
    (context : Context) (accounts : MigrateV5ToV6WithSession)
    (args : MigrateV5ToV6WithSessionArgs) (sessionData : Option Bytes)
    (account : Funded) : Result (Funded × Bytes) := do
  requireSigner context accounts.dexterAuthority
  requireSigner context accounts.payer
  require (sessionData = none) RuntimeError.accountAlreadyInUse
  let bump ← requireCanonical runtime
    (sessionSeeds accounts.vault args.liveCounterparty) programId
    accounts.session
  let cost := rent (8 + sessionAccount.space)
  require (cost ≤ account.payerLamports) RuntimeError.insufficientLamports
  let v5 ← readFrozen vaultV5Reader vaultVersionV5 account.data
  require (v5.dexterAuthority = accounts.dexterAuthority)
    VaultError.passkeyVerificationFailed
  let carried ← okOr v5.activeSession VaultError.noActiveSession
  require (context.unixTimestamp < carried.expiresAt)
    VaultError.sessionExpiryInPast
  require (carried.allowedCounterparty = args.liveCounterparty)
    VaultError.sessionAccountMisderived
  let written ← writeV6 rent (upgradedVault v5 1)
    { account with payerLamports := account.payerLamports - cost }
  return (written, sessionImage
    { version := sessionVersionV1
      bump := bump
      vault := accounts.vault
      session := carried })

/-! ## What the steps do to an image -/

section Steps

variable {Value Old New : Type} {layout : Codec Value} {value : Value}
  {version : U8} {data : Bytes} {rent : Rent}

/-- The first byte of an encoding is the version of the vault. -/
def Stamped (layout : Codec Value) (value : Value) (version : U8) : Prop :=
  ∃ rest, layout.encode value = version :: rest

/-- Only an account that begins with the encoding is read as the value. -/
theorem prefix_of_readFrozen (hok : readFrozen layout version data = .ok value) :
    vaultDiscriminator ++ layout.encode value <+: data := by
  simp only [readFrozen, bind_eq_ok_iff, require_eq_ok_iff, okOr_eq_ok_iff,
    pure_eq_ok_iff] at hok
  obtain ⟨_, _, _, hdiscriminator, _, _, ⟨_, rest⟩, hdecode, rfl⟩ := hok
  rw [layout.decode_eq_some_iff] at hdecode
  refine ⟨rest, ?_⟩
  rw [List.append_assoc, ← hdecode, ← hdiscriminator, List.take_append_drop]

theorem readFrozen_eq_ok_iff (hstamped : Stamped layout value version) :
    readFrozen layout version data = .ok value ↔
      vaultDiscriminator ++ layout.encode value <+: data := by
  constructor
  · exact prefix_of_readFrozen
  · rintro ⟨rest, rfl⟩
    simp only [readFrozen, bind_eq_ok_iff, require_eq_ok_iff, okOr_eq_ok_iff,
      pure_eq_ok_iff]
    obtain ⟨fields, hfields⟩ := hstamped
    refine ⟨(), ?_, (), rfl, (), ?_, (value, rest), ?_, rfl⟩
    · simp [vaultDiscriminator, hfields]
    · rw [hfields]
      rfl
    · exact layout.decode_encode_append value rest

theorem growTo_eq_ok {newSize : ℕ} {account : Funded}
    (hfunded : rent newSize - account.lamports ≤ account.payerLamports)
    (hgrows : account.data.length ≤ newSize) :
    ∃ grown, growTo rent newSize account = .ok grown ∧
      grown.data.length = newSize ∧
      ∀ front, front <+: account.data → front <+: grown.data := by
  unfold growTo
  split
  · next hlt =>
    simp only [require, if_pos hfunded]
    refine ⟨_, rfl, length_resize _ _, fun front hfront => ?_⟩
    exact prefix_resize hfront hgrows
  · next hge =>
    exact ⟨account, rfl, Nat.le_antisymm hgrows (Nat.le_of_not_lt hge),
      fun _ => id⟩

/-- A hop turns an image of the older layout into an image of the newer one,
whatever slack lies behind the fields. -/
theorem migrateUp_eq_ok {reader : Codec Old} {writer : Codec New}
    {recordedAuthority : Old → Pubkey} {upgraded : Old → New}
    {context : Context} {accounts : MigrateV5ToV6} {account : Funded} {old : Old}
    (hstamped : Stamped reader old version)
    (hold : vaultDiscriminator ++ reader.encode old <+: account.data)
    (hgrows : account.data.length ≤ 8 + writer.space)
    (hauthority : accounts.dexterAuthority ∈ context.signers)
    (hpayer : accounts.payer ∈ context.signers)
    (hrecorded : recordedAuthority old = accounts.dexterAuthority)
    (hfunded : rent (8 + writer.space) - account.lamports ≤
      account.payerLamports) :
    ∃ after, migrateUp reader version writer recordedAuthority upgraded rent
        context accounts account = .ok after ∧
      IsImage writer (upgraded old) after.data := by
  obtain ⟨grown, hgrown, hsize, -⟩ := growTo_eq_ok hfunded hgrows
  let out := vaultDiscriminator ++ writer.encode (upgraded old)
  have hfits : out.length ≤ grown.data.length := by
    rw [hsize, List.length_append]
    exact Nat.add_le_add_left (writer.length_encode_le _) 8
  refine ⟨{ grown with data := overwrite out grown.data }, ?_, ?_, ?_⟩
  · simp only [migrateUp, requireSigner, bind_eq_ok_iff, require_eq_ok_iff,
      pure_eq_ok_iff]
    exact ⟨(), hauthority, (), hpayer, old,
      (readFrozen_eq_ok_iff hstamped).mpr hold, (), hrecorded, grown, hgrown, (),
      hfits, rfl⟩
  · rw [← hsize]
    exact length_overwrite hfits
  · exact List.prefix_append _ _

/-- The current layout is written over any account that is at least as long. -/
theorem writeV6_eq_ok {v6 : Vault} {account : Funded}
    (hfits : 8 + vault.space ≤ account.data.length) :
    ∃ after, writeV6 rent v6 account = .ok after ∧
      IsImage vault v6 after.data := by
  let out := vaultDiscriminator ++ vault.encode v6
  have hout : out.length ≤ 8 + vault.space := by
    rw [List.length_append]
    exact Nat.add_le_add_left (vault.length_encode_le _) 8
  have hpadded : (resize (8 + vault.space) out).length = 8 + vault.space :=
    length_resize _ _
  have hcut : resize (8 + vault.space)
      (overwrite (resize (8 + vault.space) out) account.data) =
        resize (8 + vault.space) out := by
    rw [overwrite]
    nth_rewrite 1 [← hpadded]
    exact resize_append
  refine ⟨shrinkTo rent (8 + vault.space) { account with
    data := overwrite (resize (8 + vault.space) out) account.data }, ?_, ?_, ?_⟩
  · simp only [writeV6, bind_eq_ok_iff, require_eq_ok_iff, pure_eq_ok_iff]
    exact ⟨(), hout, (), hpadded.symm ▸ hfits, rfl⟩
  · exact length_resize _ _
  · simp only [shrinkTo, hcut]
    exact prefix_resize (List.prefix_refl _) hout

/-- The hop with a session accepts a live session only. -/
theorem live_of_migrateV5ToV6WithSession {runtime : Runtime} {context : Context}
    {accounts : MigrateV5ToV6WithSession} {args : MigrateV5ToV6WithSessionArgs}
    {sessionData : Option Bytes} {account : Funded} {v5 : VaultV5Reader}
    {result : Funded × Bytes}
    (hread : readFrozen vaultV5Reader vaultVersionV5 account.data = .ok v5)
    (hok : migrateV5ToV6WithSession runtime rent context accounts args
      sessionData account = .ok result) :
    ∃ session, v5.activeSession = some session ∧
      context.unixTimestamp < session.expiresAt := by
  simp only [migrateV5ToV6WithSession, hread, bind_eq_ok_iff,
    require_eq_ok_iff, okOr_eq_ok_iff, Except.ok.injEq,
    exists_eq_left'] at hok
  obtain ⟨_, -, _, -, _, -, _, -, _, -, _, -, session, hactive, _, hlive,
    -⟩ := hok
  exact ⟨session, hactive, hlive⟩

end Steps

end DexterVault.Hops
