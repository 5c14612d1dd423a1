import DexterVault.Generations.Chain

/-!
# From V2 to V3 by zero filling

The first hop appends two meters to the session, the last field of the vault,
and relies on the bytes behind the session to be zero.  It asks for the current
size of a vault, which is below the size of a V2 account, so nothing is
appended: the meters are read out of the slack.  The hop is right exactly when
there is no session, or at least 16 bytes of slack are left and the first 16 of
them are zero.
-/

namespace DexterVault.ZeroFill

open DexterVault.Machine
open DexterVault.Framing
open DexterVault.Borsh
open DexterVault.Borsh.Codec
open DexterVault.Accounts
open DexterVault.Execution
open DexterVault.Layouts
open DexterVault.Hops
open DexterVault.Migration (MigrateV5ToV6)
open DexterVault.Chain

/-! ## What the hop is meant to do -/

def meteredSession (session : SessionRegistrationV2) :
    SessionRegistrationV3 where
  sessionPubkey := session.sessionPubkey
  maxAmount := session.maxAmount
  expiresAt := session.expiresAt
  allowedCounterparty := session.allowedCounterparty
  nonce := session.nonce
  spent := session.spent
  currentOutstanding := 0
  maxRevolvingCapacity := 0

/-- Every field is kept, and a session starts with empty meters. -/
def upgradedV2 (v2 : VaultV2) : VaultV3 where
  version := vaultVersionV3
  bump := v2.bump
  passkeyPubkey := v2.passkeyPubkey
  swigAddress := v2.swigAddress
  coolingOffSeconds := v2.coolingOffSeconds
  pendingVoucherCount := v2.pendingVoucherCount
  pendingWithdrawal := v2.pendingWithdrawal
  identityClaim := v2.identityClaim
  dexterAuthority := v2.dexterAuthority
  activeSession := v2.activeSession.map meteredSession

/-- The account decodes as the V3 vault that the hop promises. -/
def ReadsAsUpgraded (v2 : VaultV2) (data : Bytes) : Prop :=
  readFrozen vaultV3 vaultVersionV3 data = .ok (upgradedV2 v2)

/-- The bytes behind the encoded fields. -/
def slackOf (v2 : VaultV2) (data : Bytes) : Bytes :=
  data.drop (8 + (vaultV2.encode v2).length)

def zeroMeters : Bytes := List.replicate 16 0

/-- There is no session, or the slack begins with the zeros of two meters. -/
def ZeroFilled (v2 : VaultV2) (data : Bytes) : Prop :=
  v2.activeSession = none ∨ zeroMeters <+: slackOf v2 data

/-! ## What it does -/

section Hop

variable {v2 : VaultV2} {data : Bytes} {rent : Rent} {context : Context}
  {accounts : MigrateV5ToV6} {account after : Funded}

/-- The header of a vault with another stamp. -/
def restamped (version : U8) (v2 : VaultV2) : VaultHeader :=
  { (vaultV2Fields.symm v2).1 with version := version }

theorem restamped_self (hversion : v2.version = vaultVersionV2) :
    restamped vaultVersionV2 v2 = (vaultV2Fields.symm v2).1 := by
  rw [← hversion]
  rfl

/-- The stamp is the byte behind the discriminator. -/
theorem set_stamp (old new : U8) (v2 : VaultV2) (rest : Bytes) :
    (vaultDiscriminator ++ (vaultHeader.encode (restamped old v2) ++ rest)).set 8
        new =
      vaultDiscriminator ++ (vaultHeader.encode (restamped new v2) ++ rest) :=
  rfl

theorem encode_v2 (hversion : v2.version = vaultVersionV2) :
    vaultV2.encode v2 = vaultHeader.encode (restamped vaultVersionV2 v2) ++
      sessionRegistrationV2.option.encode v2.activeSession := by
  rw [restamped_self hversion]
  rfl

theorem encode_upgraded (v2 : VaultV2) :
    vaultV3.encode (upgradedV2 v2) =
      vaultHeader.encode (restamped vaultVersionV3 v2) ++
        sessionRegistrationV3.option.encode
          (v2.activeSession.map meteredSession) := rfl

/-- The two meters follow the fields of the session. -/
theorem encode_meteredSession (session : SessionRegistrationV2) :
    sessionRegistrationV3.encode (meteredSession session) =
      sessionRegistrationV2.encode session ++ zeroMeters := by
  simp only [sessionRegistrationV3, sessionRegistrationV2, encode_equiv,
    encode_prod, Equiv.coe_fn_symm_mk, meteredSession, List.append_assoc]
  rfl

/-- The account is long enough already, so only its stamp changes. -/
theorem migrateV2ToV3_ok (himage : IsImage vaultV2 v2 account.data)
    (hok : migrateV2ToV3 rent context accounts account = .ok after) :
    after.data = account.data.set 8 vaultVersionV3 := by
  simp only [migrateV2ToV3, bind_eq_ok_iff, pure_eq_ok_iff] at hok
  obtain ⟨_, -, _, -, header, -, _, -, grown, hgrown, rfl⟩ := hok
  have hlong : ¬ account.data.length < 8 + vault.space := by
    rw [himage.size]
    decide
  rw [growTo, if_neg hlong, pure_eq_ok_iff] at hgrown
  rw [hgrown]

/-- The hop goes through for the recorded authority. -/
theorem migrateV2ToV3_succeeds (himage : IsImage vaultV2 v2 account.data)
    (hversion : v2.version = vaultVersionV2)
    (hauthority : v2.dexterAuthority ∈ context.signers)
    (hpayer : accounts.payer ∈ context.signers)
    (hrecorded : v2.dexterAuthority = accounts.dexterAuthority) :
    ∃ after, migrateV2ToV3 rent context accounts account = .ok after := by
  have hlong : ¬ account.data.length < 8 + vault.space := by
    rw [himage.size]
    decide
  have hheader : readFrozen vaultHeader vaultVersionV2 account.data =
      .ok (restamped vaultVersionV2 v2) := by
    refine (readFrozen_eq_ok_iff ⟨_, rfl⟩).mpr (List.IsPrefix.trans ?_ himage.encoded)
    rw [encode_v2 hversion, ← List.append_assoc]
    exact List.prefix_append _ _
  refine ⟨{ account with data := account.data.set 8 vaultVersionV3 }, ?_⟩
  simp only [migrateV2ToV3, requireSigner, bind_eq_ok_iff, require_eq_ok_iff,
    pure_eq_ok_iff]
  exact ⟨(), hrecorded ▸ hauthority, (), hpayer, _, hheader, (), hrecorded,
    account, if_neg hlong, rfl⟩

/-- With a new stamp the account decodes as promised exactly when the meters
are read as zero. -/
theorem readsAsUpgraded_iff (himage : IsImage vaultV2 v2 data)
    (hversion : v2.version = vaultVersionV2) :
    ReadsAsUpgraded v2 (data.set 8 vaultVersionV3) ↔ ZeroFilled v2 data := by
  obtain ⟨-, slack, rfl⟩ := himage
  have hslack : slackOf v2 (vaultDiscriminator ++ vaultV2.encode v2 ++ slack) =
      slack := by
    rw [slackOf]
    exact List.drop_left' (List.length_append ..)
  have hstamped : Stamped vaultV3 (upgradedV2 v2) vaultVersionV3 := ⟨_, rfl⟩
  rw [ReadsAsUpgraded, readFrozen_eq_ok_iff hstamped, ZeroFilled, hslack,
    encode_v2 hversion, encode_upgraded, List.append_assoc, List.append_assoc,
    set_stamp, List.prefix_append_right_inj, List.prefix_append_right_inj]
  cases v2.activeSession with
  | none => simp
  | some session =>
      rw [Option.map_some, encode_option_some, encode_option_some,
        encode_meteredSession, List.cons_append, List.cons_prefix_cons,
        List.prefix_append_right_inj]
      simp

end Hop

/-- The hop yields the promised vault, for every authority and payer that can
call it, exactly on the accounts whose slack holds the zeros it counts on. -/
theorem zero_fill_iff {rent : Rent} {account : Funded} {v2 : VaultV2}
    (himage : IsImage vaultV2 v2 account.data)
    (hversion : v2.version = vaultVersionV2) :
    (∀ context accounts after,
      migrateV2ToV3 rent context accounts account = .ok after →
        ReadsAsUpgraded v2 after.data) ↔ ZeroFilled v2 account.data := by
  constructor
  · intro hupgrades
    let context : Context := ⟨[], 0, [v2.dexterAuthority], I64.zero⟩
    let accounts : MigrateV5ToV6 :=
      ⟨defaultPubkey, v2.dexterAuthority, v2.dexterAuthority⟩
    obtain ⟨after, hafter⟩ : ∃ after,
        migrateV2ToV3 rent context accounts account = .ok after :=
      migrateV2ToV3_succeeds himage hversion (List.mem_singleton_self _)
        (List.mem_singleton_self _) rfl
    have hreads := hupgrades context accounts after hafter
    rw [migrateV2ToV3_ok himage hafter] at hreads
    exact (readsAsUpgraded_iff himage hversion).mp hreads
  · intro hfilled context accounts after hafter
    rw [migrateV2ToV3_ok himage hafter]
    exact (readsAsUpgraded_iff himage hversion).mpr hfilled

/-! ## Vaults with a session -/

section Examples

open Deployment

def heldSession : SessionRegistrationV2 where
  sessionPubkey := sessionPubkey
  maxAmount := 100
  expiresAt := expiry
  allowedCounterparty := seller
  nonce := 1
  spent := 7

def vaultWith (pendingWithdrawal : Option PendingWithdrawal) : VaultV2 where
  version := vaultVersionV2
  bump := 255
  passkeyPubkey := passkey
  swigAddress := swig
  coolingOffSeconds := 60
  pendingVoucherCount := 0
  pendingWithdrawal := pendingWithdrawal
  identityClaim := identityClaim
  dexterAuthority := authority
  activeSession := some heldSession

/-- The vault with 48 bytes of slack that no withdrawal was ever pending in. -/
def quietAccount : Funded where
  data := vaultDiscriminator ++ vaultV2.encode (vaultWith none) ++
    List.replicate 48 0
  lamports := 289
  payerLamports := 0

/-- With a pending withdrawal the encoding fills the account. -/
def crowdedAccount : Funded where
  data := vaultDiscriminator ++
    vaultV2.encode (vaultWith (some (withdrawalScope now).pending))
  lamports := 289
  payerLamports := 0

/-- The account as the end of that withdrawal leaves it: the shorter encoding
over the longer one. -/
def staleAccount : Funded where
  data := overwrite (vaultDiscriminator ++ vaultV2.encode (vaultWith none))
    crowdedAccount.data
  lamports := 289
  payerLamports := 0

/-- What the hop leaves in an account. -/
def stamped (account : Funded) : Funded :=
  { account with data := account.data.set 8 vaultVersionV3 }

theorem quietAccount_image :
    IsImage vaultV2 (vaultWith none) quietAccount.data :=
  ⟨by decide +kernel, List.prefix_append _ _⟩

theorem zero_fill_iff_quiet :
    migrateV2ToV3 sampleRent sampleHop.context sampleHop.accounts quietAccount =
        .ok (stamped quietAccount) ∧
      ReadsAsUpgraded (vaultWith none) (stamped quietAccount).data := by
  have hfilled : ZeroFilled (vaultWith none) quietAccount.data :=
    .inr (by decide +kernel)
  have hhop : migrateV2ToV3 sampleRent sampleHop.context sampleHop.accounts
      quietAccount = .ok (stamped quietAccount) := by decide +kernel
  exact ⟨hhop, (zero_fill_iff quietAccount_image rfl).mpr hfilled _ _ _ hhop⟩

/-- With a pending withdrawal the V3 reader runs over the end of the account;
after one it reads what the withdrawal left as meters. -/
theorem zero_fill_breaks :
    IsImage vaultV2 (vaultWith (some (withdrawalScope now).pending))
        crowdedAccount.data ∧
      migrateV2ToV3 sampleRent sampleHop.context sampleHop.accounts
        crowdedAccount = .ok (stamped crowdedAccount) ∧
      readFrozen vaultV3 vaultVersionV3 (stamped crowdedAccount).data =
        .error RuntimeError.borshIo ∧
      IsImage vaultV2 (vaultWith none) staleAccount.data ∧
      migrateV2ToV3 sampleRent sampleHop.context sampleHop.accounts
        staleAccount = .ok (stamped staleAccount) ∧
      ¬ ReadsAsUpgraded (vaultWith none) (stamped staleAccount).data := by
  refine ⟨⟨by decide +kernel, List.prefix_refl _⟩, by decide +kernel,
    by decide +kernel, ⟨by decide +kernel, List.prefix_append _ _⟩, ?_, ?_⟩
  · decide +kernel
  · unfold ReadsAsUpgraded
    decide +kernel

end Examples

end DexterVault.ZeroFill
