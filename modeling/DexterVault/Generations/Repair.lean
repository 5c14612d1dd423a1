import DexterVault.Generations.FleetScript

/-!
# The repair of the born-broken vaults

Some accounts hold the current layout under the stamp of V4.  Where V4 has the
tag of its session the current layout has its session count, so the migration
out of V4 reads such an account when the count is zero, and the two migrations
that follow write it back with the right stamp.  With any other count the tag
is wrong or the session it announces does not fit, and the account stays as it
is.
-/

namespace DexterVault.Repair

open DexterVault.Machine
open DexterVault.Framing
open DexterVault.Borsh
open DexterVault.Borsh.Codec
open DexterVault.Accounts
open DexterVault.Execution
open DexterVault.Layouts
open DexterVault.Hops
open DexterVault.FleetScript
open DexterVault.Migration (upgradedVault MigrateV5ToV6)
open DexterVault.Chain

/-- An account of the current layout that is stamped V4 and has no credit. -/
structure BornBroken (stored : Vault) (data : Bytes) : Prop where
  image : IsImage vault stored data
  stamp : stored.version = vaultVersionV4
  undrawn : stored.borrowed = 0
  unbacked : stored.standbyBacker = none
  uncapped : stored.standbyCap = 0
  unarmed : stored.borrowRecoveryAt = none

/-- What a transaction leaves of the account: the writes of one that fails are
discarded. -/
def landed (account : Funded) : Result Funded → Funded
  | .ok after => after
  | .error _ => account

/-- The admission of `--include-mismatch` for this cohort: an account of the
current size that is stamped V4 and whose byte behind the authority is zero. -/
def admitted (data : Bytes) : Option Bool := do
  if data.take 8 = vaultDiscriminator ∧ data.length = 279 ∧
      data[8]? = some vaultVersionV4 then
    let p ← readPrefix data
    return data[p.afterAuthority]? = some 0
  else
    return false

/-! ## The two readings of one account -/

/-- The vault that the migration out of V4 reads when the count is zero. -/
def readAsV4 (stored : Vault) : VaultV4 where
  version := stored.version
  bump := stored.bump
  passkeyPubkey := stored.passkeyPubkey
  swigAddress := stored.swigAddress
  coolingOffSeconds := stored.coolingOffSeconds
  pendingVoucherCount := stored.pendingVoucherCount
  pendingWithdrawal := stored.pendingWithdrawal
  identityClaim := stored.identityClaim
  dexterAuthority := stored.dexterAuthority
  activeSession := none
  outstandingLockedAmount := stored.outstandingLockedAmount
  totalCrystallizedAmount := stored.totalCrystallizedAmount
  totalSettledAmount := stored.totalSettledAmount

section Readings

variable {stored : Vault} {data : Bytes}

def headerOf (stored : Vault) : VaultHeader := (vaultFields.symm stored).1

def tailOf (stored : Vault) : LockOdometers × CreditLine :=
  (vaultFields.symm stored).2.2

/-- The count stands behind the header. -/
theorem encode_stored (stored : Vault) :
    vault.encode stored = vaultHeader.encode (headerOf stored) ++
      stored.liveSessionCount ::
        (lockOdometers.prod creditLine).encode (tailOf stored) := rfl

theorem encode_v4 (v4 : VaultV4) :
    vaultV4.encode v4 = vaultHeader.encode (vaultV4Fields.symm v4).1 ++
      (sessionRegistration.option.encode v4.activeSession ++
        lockOdometers.encode (vaultV4Fields.symm v4).2.2) := rfl

theorem prefix_readAsV4 (hbroken : BornBroken stored data)
    (hcount : stored.liveSessionCount = 0) :
    vaultDiscriminator ++ vaultV4.encode (readAsV4 stored) <+: data := by
  refine List.IsPrefix.trans ?_ hbroken.image.encoded
  have hread : vaultV4.encode (readAsV4 stored) =
      vaultHeader.encode (headerOf stored) ++
        0 :: lockOdometers.encode (tailOf stored).1 := rfl
  rw [encode_stored, hcount, hread]
  refine ⟨creditLine.encode (tailOf stored).2, ?_⟩
  simp only [encode_prod, List.append_assoc, List.cons_append]

/-- With another count nothing is read: no session starts with another tag than
one, and the account is too short for a session and the odometers of V4. -/
theorem readFrozen_refuses (hbroken : BornBroken stored data)
    (hcount : stored.liveSessionCount ≠ 0) (v4 : VaultV4) :
    readFrozen vaultV4 vaultVersionV4 data ≠ .ok v4 := by
  intro hread
  obtain ⟨slack, hslack⟩ := hbroken.image.encoded
  obtain ⟨rest, hrest⟩ := prefix_of_readFrozen hread
  have hsame : vaultHeader.encode (vaultV4Fields.symm v4).1 ++
      (sessionRegistration.option.encode v4.activeSession ++
        (lockOdometers.encode (vaultV4Fields.symm v4).2.2 ++ rest)) =
      vaultHeader.encode (headerOf stored) ++ (stored.liveSessionCount ::
        ((lockOdometers.prod creditLine).encode (tailOf stored) ++ slack)) := by
    have hboth := hrest.trans hslack.symm
    rw [encode_v4, encode_stored] at hboth
    simpa only [List.append_assoc, List.cons_append,
      List.append_cancel_left_eq] using hboth
  have htail := (vaultHeader.encode_append_inj hsame).2
  cases hactive : v4.activeSession with
  | none =>
      rw [hactive, encode_option_none] at htail
      exact hcount (List.cons.inj htail).1.symm
  | some session =>
      have hsize := hbroken.image.size
      have hlengths := congrArg List.length htail
      have hheader := length_encode_header (headerOf stored)
      rw [← hslack, encode_stored] at hsize
      rw [hactive, encode_option_some] at hlengths
      simp only [List.length_append, List.length_cons,
        length_encode_sessionRegistration, length_encode_lockOdometers] at hsize hlengths
      have hspace : 8 + vault.space = 279 := rfl
      have hdiscriminator : vaultDiscriminator.length = 8 := rfl
      omega

/-- The script finds the count behind the authority. -/
theorem admitted_iff (hbroken : BornBroken stored data) :
    admitted data = some true ↔ stored.liveSessionCount = 0 := by
  obtain ⟨slack, hslack⟩ := hbroken.image.encoded
  have hsplit : data = vaultDiscriminator ++
      (vaultHeader.encode (headerOf stored) ++ (stored.liveSessionCount ::
        ((lockOdometers.prod creditLine).encode (tailOf stored) ++ slack))) := by
    rw [← hslack, encode_stored]
    simp only [List.append_assoc, List.cons_append]
  have hfound : readPrefix data = some (prefixOf (headerOf stored)) := by
    rw [hsplit]
    exact readPrefix_header _ _
  have hcount : data[(prefixOf (headerOf stored)).afterAuthority]? =
      some stored.liveSessionCount := by
    rw [hsplit, ← List.append_assoc]
    exact getElem?_append_cons _ _ (List.length_append ..)
  have hstamp : data[8]? = some vaultVersionV4 := by
    rw [hsplit, ← hbroken.stamp]
    rfl
  have hcohort : data.take 8 = vaultDiscriminator ∧ data.length = 279 ∧
      data[8]? = some vaultVersionV4 :=
    ⟨by rw [hsplit]; rfl, hbroken.image.size, hstamp⟩
  simp only [admitted, if_pos hcohort, hfound, Option.bind_eq_bind,
    Option.bind_some, Option.pure_def, hcount, Option.some.injEq,
    decide_eq_true_eq]

end Readings

/-! ## The two migrations -/

section Walk

variable {stored : Vault} {rent : Rent} {account : Funded} {first last : Hop}

/-- Nothing but the stamp has changed after both hops. -/
theorem upgraded_readAsV4 (hbroken : BornBroken stored account.data)
    (hcount : stored.liveSessionCount = 0) :
    upgradedVault (readV5 (upgradedV4 (readAsV4 stored))) 0 =
      { stored with version := vaultVersionV6 } := by
  obtain ⟨-, -, hundrawn, hunbacked, huncapped, hunarmed⟩ := hbroken
  cases stored
  simp_all [upgradedVault, readV5, upgradedV4, readAsV4]

theorem repaired (hbroken : BornBroken stored account.data)
    (hcount : stored.liveSessionCount = 0)
    (hfirst : first.Signed stored.dexterAuthority)
    (hcovers : first.Covers rent 399 account)
    (hlast : last.Signed stored.dexterAuthority) :
    ∃ grown after,
      migrateV4ToV5 rent first.context first.accounts (first.fund account) =
        .ok grown ∧
      migrateV5ToV6 rent last.context last.accounts (last.fund grown) =
        .ok after ∧
      Holds { stored with version := vaultVersionV6 } after.data := by
  obtain ⟨hrecorded, hauthority, hpayer⟩ := hfirst
  have hstamped : Stamped vaultV4 (readAsV4 stored) vaultVersionV4 := by
    rw [← hbroken.stamp]
    exact ⟨_, rfl⟩
  have hgrows : account.data.length ≤ 8 + vaultV5Frozen.space := by
    rw [hbroken.image.size]
    decide
  obtain ⟨grown, hgrown, hfive⟩ : ∃ grown,
      migrateV4ToV5 rent first.context first.accounts (first.fund account) =
        .ok grown ∧
      IsImage vaultV5Frozen (upgradedV4 (readAsV4 stored)) grown.data :=
    migrateUp_eq_ok hstamped (prefix_readAsV4 hbroken hcount) hgrows
      (hrecorded ▸ hauthority) hpayer hrecorded.symm hcovers
  obtain ⟨after, hafter, hsix⟩ : ∃ after,
      migrateV5ToV6 rent last.context last.accounts (last.fund grown) =
        .ok after ∧
      IsImage vault (upgradedVault (readV5 (upgradedV4 (readAsV4 stored))) 0)
        after.data :=
    migrateV5ToV6_expired (isImage_readV5 hfive) rfl hlast
      (by rintro session ⟨⟩)
  rw [upgraded_readAsV4 hbroken hcount] at hsix
  exact ⟨grown, after, hgrown, hafter, holds_of_image hsix⟩

/-- With another count the first of the two migrations fails for everyone. -/
theorem refused (hbroken : BornBroken stored account.data)
    (hcount : stored.liveSessionCount ≠ 0) (context : Context)
    (accounts : MigrateV5ToV6) :
    ∃ error, migrateV4ToV5 rent context accounts account = .error error := by
  cases hresult : migrateV4ToV5 rent context accounts account with
  | error error => exact ⟨error, rfl⟩
  | ok after =>
      simp only [migrateV4ToV5, migrateUp, bind_eq_ok_iff] at hresult
      obtain ⟨_, -, _, -, v4, hread, -⟩ := hresult
      exact absurd hread (readFrozen_refuses hbroken hcount v4)

end Walk

/-- The two migrations repair exactly the born-broken accounts that the script
admits, and no transaction changes another one. -/
theorem born_broken_repaired {stored : Vault} {account : Funded}
    (hbroken : BornBroken stored account.data) :
    (admitted account.data = some true ↔ stored.liveSessionCount = 0) ∧
    (stored.liveSessionCount = 0 → ∀ (rent : Rent) (first last : Hop),
      first.Signed stored.dexterAuthority → first.Covers rent 399 account →
      last.Signed stored.dexterAuthority → ∃ grown after,
        migrateV4ToV5 rent first.context first.accounts (first.fund account) =
          .ok grown ∧
        migrateV5ToV6 rent last.context last.accounts (last.fund grown) =
          .ok after ∧
        Holds { stored with version := vaultVersionV6 } after.data) ∧
    (stored.liveSessionCount ≠ 0 → ∀ rent context accounts payerLamports,
      ∃ error,
        migrateV4ToV5 rent context accounts
          { account with payerLamports := payerLamports } = .error error ∧
        (landed account (migrateV4ToV5 rent context accounts
          { account with payerLamports := payerLamports })).data =
            account.data) := by
  refine ⟨admitted_iff hbroken, fun hcount rent first last hfirst hcovers hlast =>
    repaired hbroken hcount hfirst hcovers hlast, ?_⟩
  intro hcount rent context accounts payerLamports
  let funded : Funded := { account with payerLamports := payerLamports }
  have hfunded : BornBroken stored funded.data := hbroken
  obtain ⟨error, herror⟩ : ∃ error,
      migrateV4ToV5 rent context accounts funded = .error error :=
    refused hfunded hcount context accounts
  exact ⟨error, herror, by rw [herror]; rfl⟩

/-! ## Two born-broken accounts -/

section Examples

open Deployment

def brokenVault (liveSessionCount : U8) : Vault :=
  { boundVault with
    version := vaultVersionV4
    liveSessionCount := liveSessionCount }

def brokenAccount (liveSessionCount : U8) : Funded where
  data := resize 279
    (vaultDiscriminator ++ vault.encode (brokenVault liveSessionCount))
  lamports := 279
  payerLamports := 0

theorem bornBroken (liveSessionCount : U8) :
    BornBroken (brokenVault liveSessionCount)
      (brokenAccount liveSessionCount).data := by
  refine ⟨⟨length_resize _ _, prefix_resize (List.prefix_refl _) ?_⟩, rfl, rfl,
    rfl, rfl, rfl⟩
  rw [List.length_append]
  exact Nat.add_le_add_left (vault.length_encode_le _) 8

theorem born_broken_repaired_sample :
    (∃ grown after,
      migrateV4ToV5 sampleRent sampleHop.context sampleHop.accounts
          (sampleHop.fund (brokenAccount 0)) = .ok grown ∧
        migrateV5ToV6 sampleRent sampleHop.context sampleHop.accounts
          (sampleHop.fund grown) = .ok after ∧
        Holds { brokenVault 0 with version := vaultVersionV6 } after.data) ∧
      admitted (brokenAccount 0).data = some true ∧
      ∃ error, migrateV4ToV5 sampleRent sampleHop.context sampleHop.accounts
          (sampleHop.fund (brokenAccount 2)) = .error error ∧
        (landed (brokenAccount 2) (migrateV4ToV5 sampleRent sampleHop.context
          sampleHop.accounts (sampleHop.fund (brokenAccount 2)))).data =
            (brokenAccount 2).data := by
  obtain ⟨hadmitted, hrepaired, -⟩ := born_broken_repaired (bornBroken 0)
  obtain ⟨-, -, hrefused⟩ := born_broken_repaired (bornBroken 2)
  have hsigned : sampleHop.Signed (brokenVault 0).dexterAuthority :=
    ⟨rfl, by decide, by decide⟩
  exact ⟨hrepaired rfl sampleRent sampleHop sampleHop hsigned (by decide) hsigned,
    hadmitted.mpr rfl, hrefused (by decide) _ _ _ _⟩

end Examples

end DexterVault.Repair
