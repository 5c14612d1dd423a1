import DexterVault.Instructions.Legacy

/-!
# The vaults without a version in the current layout

A legacy account is its discriminator, its fields and slack up to one of two
lengths.  A pending withdrawal moves every later field by 48 bytes, into what
is slack otherwise.  The decoder reads exactly these accounts, and the encoder
turns whatever was read into an account of the current layout.
-/

namespace DexterVault.LegacyImages

open DexterVault.Machine
open DexterVault.Framing
open DexterVault.Borsh
open DexterVault.Borsh.Codec
open DexterVault.Accounts
open DexterVault.Execution
open DexterVault.Layouts
open DexterVault.Legacy
open DexterVault.Hops (Funded Rent)

/-! ## The layouts -/

/-- What stands before the pending withdrawal. -/
def encodeFront (legacy : LegacyVaultDecoded) : Bytes :=
  u8.encode legacy.bump ++
    ((array 33).encode legacy.passkeyPubkey ++
      ((array 32).encode legacy.swigAddress ++
        (i64.encode legacy.coolingOffSeconds ++
          u32.encode legacy.pendingVoucherCount)))

/-- What stands behind it: the longer layout also records an authority. -/
def encodeBack (legacy : LegacyVaultDecoded) : Bytes :=
  (array 16).encode legacy.supabaseUserId ++
    legacy.storedAuthority.elim [] (array 32).encode

def encodeLegacy (legacy : LegacyVaultDecoded) : Bytes :=
  encodeFront legacy ++
    (pendingWithdrawal.option.encode legacy.pendingWithdrawal ++
      encodeBack legacy)

def legacyLen (legacy : LegacyVaultDecoded) : ℕ :=
  legacy.storedAuthority.elim legacyV1Len fun _ => legacyV15Len

/-- An account that holds the fields, with any slack behind them. -/
structure IsLegacyImage (legacy : LegacyVaultDecoded) (data : Bytes) : Prop where
  size : data.length = legacyLen legacy
  encoded : vaultDiscriminator ++ encodeLegacy legacy <+: data

instance (legacy : LegacyVaultDecoded) (data : Bytes) :
    Decidable (IsLegacyImage legacy data) :=
  decidable_of_iff
    (data.length = legacyLen legacy ∧
      vaultDiscriminator ++ encodeLegacy legacy <+: data)
    ⟨fun himage => ⟨himage.1, himage.2⟩, fun himage => ⟨himage.size, himage.encoded⟩⟩

@[simp]
theorem length_encodeFront (legacy : LegacyVaultDecoded) :
    (encodeFront legacy).length = 78 := by
  simp [encodeFront]

/-! ## Decoding -/

@[simp]
theorem deserialize_eq_ok_iff {Value : Type} {codec : Codec Value}
    {cursor rest : Bytes} {value : Value} :
    deserialize codec cursor = .ok (value, rest) ↔
      cursor = codec.encode value ++ rest := by
  rw [deserialize, okOr_eq_ok_iff, codec.decode_eq_some_iff]

/-- The authority is read exactly when the length is the longer one. -/
theorem deserializeAuthority_eq_ok_iff {data cursor : Bytes}
    {stored : Option Pubkey}
    (hlength : data.length = legacyV1Len ∨ data.length = legacyV15Len) :
    deserializeAuthority data cursor = .ok stored ↔
      data.length = stored.elim legacyV1Len (fun _ => legacyV15Len) ∧
        stored.elim [] (array 32).encode <+: cursor := by
  unfold deserializeAuthority
  split
  · next hlong =>
    simp only [bind_eq_ok_iff, Prod.exists, deserialize_eq_ok_iff, pure_eq_ok_iff]
    constructor
    · rintro ⟨authority, rest, rfl, rfl⟩
      exact ⟨hlong, List.prefix_append _ _⟩
    · rintro ⟨hsize, rest, rfl⟩
      cases stored with
      | none => cases hlong.symm.trans hsize
      | some authority => exact ⟨authority, rest, rfl, rfl⟩
  · next hshort =>
    have hsize := hlength.resolve_right hshort
    rw [pure_eq_ok_iff]
    constructor
    · rintro rfl
      exact ⟨hsize, List.nil_prefix⟩
    · rintro ⟨hstored, -⟩
      cases stored with
      | none => rfl
      | some authority => exact absurd hstored hshort

/-- The decoder reads the accounts of the two layouts and no others. -/
theorem decodeLegacyVault_eq_ok_iff {legacy : LegacyVaultDecoded} {data : Bytes} :
    decodeLegacyVault data = .ok legacy ↔ IsLegacyImage legacy data := by
  simp only [decodeLegacyVault, bind_eq_ok_iff, require_eq_ok_iff,
    Prod.exists, deserialize_eq_ok_iff, pure_eq_ok_iff]
  constructor
  · rintro ⟨_, hlength, _, hdiscriminator, bump, _, hbump, passkey, _, rfl, swig,
      _, rfl, cooling, _, rfl, count, _, rfl, pending, _, rfl, user, cursor, rfl,
      stored, hstored, rfl⟩
    obtain ⟨hsize, slack, rfl⟩ :=
      (deserializeAuthority_eq_ok_iff hlength).mp hstored
    refine ⟨hsize, slack, ?_⟩
    rw [← List.take_append_drop 8 data, hdiscriminator, hbump]
    simp only [encodeLegacy, encodeFront, encodeBack, List.append_assoc]
  · rintro ⟨hsize, slack, hdata⟩
    have hlength : data.length = legacyV1Len ∨ data.length = legacyV15Len := by
      rw [hsize, legacyLen]
      cases legacy.storedAuthority with
      | none => exact .inl rfl
      | some authority => exact .inr rfl
    have hbump : data.drop 8 = encodeLegacy legacy ++ slack := by
      rw [← hdata, List.append_assoc]
      rfl
    simp only [encodeLegacy, encodeFront, encodeBack, List.append_assoc] at hbump
    exact ⟨(), hlength, (), by rw [← hdata]; rfl, _, _, hbump, _, _, rfl, _, _,
      rfl, _, _, rfl, _, _, rfl, _, _, rfl, _, _, rfl, legacy.storedAuthority,
      (deserializeAuthority_eq_ok_iff hlength).mpr
        ⟨hsize, List.prefix_append _ _⟩, rfl⟩

/-- Of another length, another type, or with neither tag of an option where the
pending withdrawal begins. -/
def Unreadable (data : Bytes) : Prop :=
  (data.length ≠ legacyV1Len ∧ data.length ≠ legacyV15Len) ∨
    data.take 8 ≠ vaultDiscriminator ∨
    ∃ tag, data[86]? = some tag ∧ tag ≠ 0 ∧ tag ≠ 1

theorem not_unreadable_of_image {legacy : LegacyVaultDecoded} {data : Bytes}
    (himage : IsLegacyImage legacy data) : ¬ Unreadable data := by
  obtain ⟨hsize, slack, hdata⟩ := himage
  have hfront : data = (vaultDiscriminator ++ encodeFront legacy) ++
      (pendingWithdrawal.option.encode legacy.pendingWithdrawal ++
        (encodeBack legacy ++ slack)) := by
    rw [← hdata]
    simp only [encodeLegacy, List.append_assoc]
  have hlength : (vaultDiscriminator ++ encodeFront legacy).length = 86 := by
    rw [List.length_append, length_encodeFront]
    rfl
  rintro (⟨hshort, hlong⟩ | hdiscriminator | ⟨tag, htag, hzero, hone⟩)
  · rw [legacyLen] at hsize
    cases hstored : legacy.storedAuthority with
    | none =>
        rw [hstored] at hsize
        exact hshort hsize
    | some authority =>
        rw [hstored] at hsize
        exact hlong hsize
  · exact hdiscriminator (hdata ▸ rfl)
  · rw [hfront, List.getElem?_append_right (Nat.le_of_eq hlength), hlength] at htag
    cases hpending : legacy.pendingWithdrawal with
    | none =>
        rw [hpending] at htag
        exact hzero (Option.some.inj htag).symm
    | some pending =>
        rw [hpending] at htag
        exact hone (Option.some.inj htag).symm

theorem decodeLegacyVault_error {data : Bytes} (hunreadable : Unreadable data) :
    ∃ error, decodeLegacyVault data = .error error := by
  cases hdecode : decodeLegacyVault data with
  | error error => exact ⟨error, rfl⟩
  | ok legacy =>
      exact absurd hunreadable
        (not_unreadable_of_image (decodeLegacyVault_eq_ok_iff.mp hdecode))

/-! ## Encoding -/

theorem clampToU32_val (value : I64) :
    ((clampToU32 value).val : ℤ) = max 0 (min value.val (2 ^ 32 - 1)) := by
  simp only [clampToU32]
  omega

/-- The vault that stands for a legacy account in the current layout. -/
structure Carried (legacy : LegacyVaultDecoded) (authority : Pubkey)
    (v6 : Vault) : Prop where
  version : v6.version = vaultVersionV6
  bump : v6.bump = legacy.bump
  passkey : v6.passkeyPubkey = legacy.passkeyPubkey
  swig : v6.swigAddress = legacy.swigAddress
  coolingOff : (v6.coolingOffSeconds.val : ℤ) =
    max 0 (min legacy.coolingOffSeconds.val (2 ^ 32 - 1))
  pendingVouchers : v6.pendingVoucherCount = legacy.pendingVoucherCount
  pending : v6.pendingWithdrawal = legacy.pendingWithdrawal
  identity : v6.identityClaim.toList =
    legacy.supabaseUserId.toList ++ List.replicate 16 0
  authority : v6.dexterAuthority = authority
  sessionless : v6.liveSessionCount = 0
  unlocked : v6.outstandingLockedAmount = 0
  neverCrystallized : v6.totalCrystallizedAmount = 0
  neverSettled : v6.totalSettledAmount = 0
  undrawn : v6.borrowed = 0
  unbacked : v6.standbyBacker = none
  uncapped : v6.standbyCap = 0
  unarmed : v6.borrowRecoveryAt = none

/-- Padding with zeros keeps the encoding in front. -/
theorem encodeV6Image_ok (legacy : LegacyVaultDecoded) (authority : Pubkey) :
    ∃ image v6, encodeV6Image legacy authority = .ok image ∧
      IsImage vault v6 image ∧ Carried legacy authority v6 := by
  let v6 : Vault :=
    ⟨vaultVersionV6, legacy.bump, legacy.passkeyPubkey, legacy.swigAddress,
      clampToU32 legacy.coolingOffSeconds, legacy.pendingVoucherCount,
      legacy.pendingWithdrawal, identityClaim legacy.supabaseUserId, authority,
      0, 0, 0, 0, 0, none, 0, none⟩
  let out := vaultDiscriminator ++ vault.encode v6
  have hfits : out.length ≤ 8 + vault.space := by
    rw [List.length_append]
    exact Nat.add_le_add_left (vault.length_encode_le v6) 8
  refine ⟨resize (8 + vault.space) out, v6, ?_, ⟨length_resize _ _, ?_⟩, ?_⟩
  · simp only [encodeV6Image, bind_eq_ok_iff, require_eq_ok_iff, pure_eq_ok_iff]
    exact ⟨(), hfits, rfl⟩
  · exact prefix_resize (List.prefix_refl _) hfits
  · exact ⟨rfl, rfl, rfl, rfl, clampToU32_val _, rfl, rfl, rfl, rfl, rfl, rfl,
      rfl, rfl, rfl, rfl, rfl, rfl⟩

/-- Every legacy account is read field by field, whatever slack it has, nothing
else is read, and what was read becomes an account of the current layout. -/
theorem legacy_images_upgraded :
    (∀ legacy data, IsLegacyImage legacy data →
      decodeLegacyVault data = .ok legacy) ∧
    (∀ data, Unreadable data →
      ∃ error, decodeLegacyVault data = .error error) ∧
    ∀ legacy authority, ∃ image v6,
      encodeV6Image legacy authority = .ok image ∧ image.length = 279 ∧
        tryDeserialize vault image = .ok v6 ∧ Carried legacy authority v6 := by
  refine ⟨fun _ _ => decodeLegacyVault_eq_ok_iff.mpr,
    fun _ => decodeLegacyVault_error, ?_⟩
  intro legacy authority
  obtain ⟨image, v6, himage, hholds, hcarried⟩ :=
    encodeV6Image_ok legacy authority
  exact ⟨image, v6, himage, hholds.size,
    tryDeserialize_eq_ok_iff.mpr hholds.encoded, hcarried⟩

/-! ## An account of the shorter layout -/

/-- One of the accounts on the chain: no swig, a day to cool off. -/
def relic : LegacyVaultDecoded where
  bump := 252
  passkeyPubkey :=
    ⟨[3, 220, 0, 244, 1, 97, 32, 120, 164, 119, 147, 24, 92, 26, 216, 115, 182, 180,
      42, 16, 80, 196, 7, 244, 61, 128, 102, 17, 183, 26, 160, 70, 146], rfl⟩
  swigAddress := defaultPubkey
  coolingOffSeconds := I64.saturate 86400
  pendingVoucherCount := 0
  pendingWithdrawal := none
  supabaseUserId :=
    ⟨[204, 73, 255, 97, 251, 114, 172, 44, 60, 46, 151, 74, 209, 218, 182, 14], rfl⟩
  storedAuthority := none

def relicData : Bytes :=
  [211, 8, 232, 43, 2, 152, 117, 119, 252, 3, 220, 0, 244, 1, 97, 32, 120, 164, 119,
    147, 24, 92, 26, 216, 115, 182, 180, 42, 16, 80, 196, 7, 244, 61, 128, 102, 17,
    183, 26, 160, 70, 146, 0, 0, 0, 0, 0, 0, 0, 0, 0, 0, 0, 0, 0, 0, 0, 0, 0, 0, 0,
    0, 0, 0, 0, 0, 0, 0, 0, 0, 0, 0, 0, 0, 128, 81, 1, 0, 0, 0, 0, 0, 0, 0, 0, 0, 0,
    204, 73, 255, 97, 251, 114, 172, 44, 60, 46, 151, 74, 209, 218, 182, 14] ++
    List.replicate 48 0

theorem legacy_images_upgraded_relic :
    decodeLegacyVault relicData = .ok relic ∧
      (∃ error, decodeLegacyVault (relicData.drop 1) = .error error) ∧
      ∃ image v6, encodeV6Image relic legacyMigrateAdmin = .ok image ∧
        image.length = 279 ∧ tryDeserialize vault image = .ok v6 ∧
        Carried relic legacyMigrateAdmin v6 := by
  obtain ⟨hread, hrefused, hwritten⟩ := legacy_images_upgraded
  exact ⟨hread relic relicData (by decide +kernel),
    hrefused _ (.inl (by decide +kernel)), hwritten _ _⟩

end DexterVault.LegacyImages
