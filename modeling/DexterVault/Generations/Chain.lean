import DexterVault.Instructions.Hops
import DexterVault.Program.Deployment

/-!
# From V3 to V6

What one migration writes is what the next one reads: the frozen writer of a
layout and its frozen reader have the same encodings.  A vault therefore passes
through all three hops with its fields unchanged, whatever slack its account
holds, and a live session leaves through the path that carries it out.
-/

namespace DexterVault.Chain

open DexterVault.Machine
open DexterVault.Framing
open DexterVault.Borsh
open DexterVault.Accounts
open DexterVault.Execution
open DexterVault.Layouts
open DexterVault.Hops
open DexterVault.Migration (upgradedVault MigrateV5ToV6
  MigrateV5ToV6WithSession MigrateV5ToV6WithSessionArgs)

/-! ## Writers and readers agree -/

/-- A V4 vault as the next migration reads it. -/
def readV4 (v4 : VaultV4Frozen) : VaultV4 where
  version := v4.version
  bump := v4.bump
  passkeyPubkey := v4.passkeyPubkey
  swigAddress := v4.swigAddress
  coolingOffSeconds := v4.coolingOffSeconds
  pendingVoucherCount := v4.pendingVoucherCount
  pendingWithdrawal := v4.pendingWithdrawal
  identityClaim := v4.identityClaim
  dexterAuthority := v4.dexterAuthority
  activeSession := v4.activeSession
  outstandingLockedAmount := v4.outstandingLockedAmount
  totalCrystallizedAmount := v4.totalCrystallizedAmount
  totalSettledAmount := v4.totalSettledAmount

/-- A V5 vault as the next migration reads it. -/
def readV5 (v5 : VaultV5Frozen) : VaultV5Reader where
  version := v5.version
  bump := v5.bump
  passkeyPubkey := v5.passkeyPubkey
  swigAddress := v5.swigAddress
  coolingOffSeconds := v5.coolingOffSeconds
  pendingVoucherCount := v5.pendingVoucherCount
  pendingWithdrawal := v5.pendingWithdrawal
  identityClaim := v5.identityClaim
  dexterAuthority := v5.dexterAuthority
  activeSession := v5.activeSession
  outstandingLockedAmount := v5.outstandingLockedAmount
  totalCrystallizedAmount := v5.totalCrystallizedAmount
  totalSettledAmount := v5.totalSettledAmount
  borrowed := v5.borrowed
  standbyBacker := v5.standbyBacker
  standbyCap := v5.standbyCap
  borrowRecoveryAt := v5.borrowRecoveryAt

section Agreement

variable {data : Bytes}

theorem isImage_readV4 {v4 : VaultV4Frozen}
    (himage : IsImage vaultV4Frozen v4 data) : IsImage vaultV4 (readV4 v4) data :=
  ⟨himage.size, himage.encoded⟩

theorem isImage_readV5 {v5 : VaultV5Frozen}
    (himage : IsImage vaultV5Frozen v5 data) :
    IsImage vaultV5Reader (readV5 v5) data :=
  ⟨himage.size, himage.encoded⟩

theorem stamped_vaultV3 (v3 : VaultV3) : Stamped vaultV3 v3 v3.version :=
  ⟨_, rfl⟩

theorem stamped_vaultV4 (v4 : VaultV4) : Stamped vaultV4 v4 v4.version :=
  ⟨_, rfl⟩

theorem stamped_vaultV5Reader (v5 : VaultV5Reader) :
    Stamped vaultV5Reader v5 v5.version :=
  ⟨_, rfl⟩

end Agreement

/-! ## The transactions of the chain -/

/-- One migration transaction: what it sees, the accounts it names and what its
payer holds. -/
structure Hop where
  context : Context
  accounts : MigrateV5ToV6
  payerLamports : ℕ

namespace Hop

variable (hop : Hop)

/-- The vault account with the payer of this transaction. -/
def fund (account : Funded) : Funded :=
  { account with payerLamports := hop.payerLamports }

/-- The recorded authority and the payer sign. -/
def Signed (authority : Pubkey) : Prop :=
  hop.accounts.dexterAuthority = authority ∧
    authority ∈ hop.context.signers ∧ hop.accounts.payer ∈ hop.context.signers

/-- The payer can cover the rent of the account at its new size. -/
def Covers (rent : Rent) (newSize : ℕ) (account : Funded) : Prop :=
  rent newSize - account.lamports ≤ hop.payerLamports

instance (rent : Rent) (newSize : ℕ) (account : Funded) :
    Decidable (hop.Covers rent newSize account) :=
  inferInstanceAs (Decidable (_ ≤ _))

end Hop

section Hops

variable {rent : Rent} {hop : Hop} {account : Funded}

theorem migrateV3ToV4_image {v3 : VaultV3}
    (himage : IsImage vaultV3 v3 account.data)
    (hversion : v3.version = vaultVersionV3)
    (hsigned : hop.Signed v3.dexterAuthority)
    (hcovers : hop.Covers rent 341 account) :
    ∃ after, migrateV3ToV4 rent hop.context hop.accounts (hop.fund account) =
        .ok after ∧ IsImage vaultV4 (readV4 (upgradedV3 v3)) after.data := by
  obtain ⟨hrecorded, hauthority, hpayer⟩ := hsigned
  have hgrows : account.data.length ≤ 8 + vaultV4Frozen.space := by
    rw [himage.size]
    decide
  obtain ⟨after, hafter, hwritten⟩ : ∃ after, migrateV3ToV4 rent hop.context
      hop.accounts (hop.fund account) = .ok after ∧
        IsImage vaultV4Frozen (upgradedV3 v3) after.data :=
    migrateUp_eq_ok (hversion ▸ stamped_vaultV3 v3) himage.encoded hgrows
      (hrecorded ▸ hauthority) hpayer hrecorded.symm hcovers
  exact ⟨after, hafter, isImage_readV4 hwritten⟩

theorem migrateV4ToV5_image {v4 : VaultV4}
    (himage : IsImage vaultV4 v4 account.data)
    (hversion : v4.version = vaultVersionV4)
    (hsigned : hop.Signed v4.dexterAuthority)
    (hcovers : hop.Covers rent 399 account) :
    ∃ after, migrateV4ToV5 rent hop.context hop.accounts (hop.fund account) =
        .ok after ∧ IsImage vaultV5Reader (readV5 (upgradedV4 v4)) after.data := by
  obtain ⟨hrecorded, hauthority, hpayer⟩ := hsigned
  have hgrows : account.data.length ≤ 8 + vaultV5Frozen.space := by
    rw [himage.size]
    decide
  obtain ⟨after, hafter, hwritten⟩ : ∃ after, migrateV4ToV5 rent hop.context
      hop.accounts (hop.fund account) = .ok after ∧
        IsImage vaultV5Frozen (upgradedV4 v4) after.data :=
    migrateUp_eq_ok (hversion ▸ stamped_vaultV4 v4) himage.encoded hgrows
      (hrecorded ▸ hauthority) hpayer hrecorded.symm hcovers
  exact ⟨after, hafter, isImage_readV5 hwritten⟩

/-! ## The last hop, and the handlers on decoded accounts -/

theorem readFrozen_image {v5 : VaultV5Reader} {data : Bytes}
    (himage : IsImage vaultV5Reader v5 data)
    (hversion : v5.version = vaultVersionV5) :
    readFrozen vaultV5Reader vaultVersionV5 data = .ok v5 :=
  (readFrozen_eq_ok_iff (hversion ▸ stamped_vaultV5Reader v5)).mpr himage.encoded

theorem loadVaultV5_image {v5 : VaultV5Reader} {state : State} {key : Pubkey}
    (hstate : state.vaultV5? key = some v5)
    (hversion : v5.version = vaultVersionV5) :
    Migration.loadVaultV5 state key = .ok v5 := by
  simp only [Migration.loadVaultV5, bind_eq_ok_iff, okOr_eq_ok_iff,
    require_eq_ok_iff, pure_eq_ok_iff]
  exact ⟨v5, hstate, (), hversion, rfl⟩

theorem writeV6_image {v5 : VaultV5Reader} {v6 : Vault}
    (himage : IsImage vaultV5Reader v5 account.data) :
    ∃ written, writeV6 rent v6 account = .ok written ∧
      IsImage vault v6 written.data := by
  apply writeV6_eq_ok
  rw [himage.size]
  decide

/-- The plain path accepts and refuses what the handler on decoded accounts
does, and writes an image of the vault that handler writes. -/
theorem migrateV5ToV6_image {v5 : VaultV5Reader} {context : Context}
    {accounts : MigrateV5ToV6} {state : State}
    (himage : IsImage vaultV5Reader v5 account.data)
    (hversion : v5.version = vaultVersionV5)
    (hstate : state.vaultV5? accounts.vault = some v5) :
    ∃ written, IsImage vault (upgradedVault v5 0) written.data ∧
      migrateV5ToV6 rent context accounts account =
        (Migration.migrateV5ToV6 context accounts state).map
          fun _ => written := by
  obtain ⟨written, hwritten, hdata⟩ : ∃ written,
      writeV6 rent (upgradedVault v5 0) account = .ok written ∧
        IsImage vault (upgradedVault v5 0) written.data :=
    writeV6_image himage
  refine ⟨written, hdata, ?_⟩
  rw [migrateV5ToV6, Migration.migrateV5ToV6, readFrozen_image himage hversion,
    loadVaultV5_image hstate hversion]
  simp only [requireSigner, require, Bind.bind, Except.bind, hwritten]
  split_ifs <;> rfl

/-- Without a live session the plain path goes through for the recorded
authority. -/
theorem migrateV5ToV6_expired {v5 : VaultV5Reader}
    (himage : IsImage vaultV5Reader v5 account.data)
    (hversion : v5.version = vaultVersionV5)
    (hsigned : hop.Signed v5.dexterAuthority)
    (hexpired : ∀ session ∈ v5.activeSession,
      session.expiresAt ≤ hop.context.unixTimestamp) :
    ∃ final, migrateV5ToV6 rent hop.context hop.accounts (hop.fund account) =
        .ok final ∧ IsImage vault (upgradedVault v5 0) final.data := by
  obtain ⟨hrecorded, hauthority, hpayer⟩ := hsigned
  obtain ⟨final, hwritten, hdata⟩ : ∃ final,
      writeV6 rent (upgradedVault v5 0) (hop.fund account) = .ok final ∧
        IsImage vault (upgradedVault v5 0) final.data :=
    writeV6_image himage
  have hread : readFrozen vaultV5Reader vaultVersionV5
      (hop.fund account).data = .ok v5 := readFrozen_image himage hversion
  refine ⟨final, ?_, hdata⟩
  simp only [migrateV5ToV6, requireSigner, bind_eq_ok_iff, require_eq_ok_iff]
  exact ⟨(), hrecorded ▸ hauthority, (), hpayer, v5, hread, (), hrecorded.symm,
    (), hexpired, hwritten⟩

/-- The session account a state holds at the address of a new session. -/
def sessionDataOf (state : State) (key : Pubkey) : Bytes :=
  (state.session? key).elim [] sessionImage

/-- The path with a session agrees with its handler on decoded accounts in the
same way, and the session account it creates holds what that handler stores. -/
theorem migrateV5ToV6WithSession_image {runtime : Runtime} {v5 : VaultV5Reader}
    {context : Context} {accounts : MigrateV5ToV6WithSession}
    {args : MigrateV5ToV6WithSessionArgs} {state : State}
    (himage : IsImage vaultV5Reader v5 account.data)
    (hversion : v5.version = vaultVersionV5)
    (hstate : state.vaultV5? accounts.vault = some v5)
    (hvacant : state.accounts.lookup accounts.session = none)
    (hcovers : rent (8 + sessionAccount.space) ≤ account.payerLamports) :
    ∃ written, IsImage vault (upgradedVault v5 1) written.data ∧
      migrateV5ToV6WithSession runtime rent context accounts args none account =
        (Migration.migrateV5ToV6WithSession runtime context accounts args
          state).map fun next =>
            (written, sessionDataOf next accounts.session) := by
  obtain ⟨written, hwritten, hdata⟩ : ∃ written, writeV6 rent
      (upgradedVault v5 1) ⟨account.data, account.lamports,
        account.payerLamports - rent (8 + sessionAccount.space)⟩ =
        .ok written ∧ IsImage vault (upgradedVault v5 1) written.data :=
    writeV6_image himage
  have hother : accounts.session ≠ accounts.vault := by
    intro hsame
    rw [State.vaultV5?, State.view_of_lookup_none (hsame ▸ hvacant)] at hstate
    cases hstate
  have hsession (carried : SessionAccount) : sessionDataOf
      ((state.write accounts.session (.session carried)).write accounts.vault
        (.vault (upgradedVault v5 1))) accounts.session =
          sessionImage carried := by
    rw [sessionDataOf, State.session?, State.view_write, if_neg hother,
      State.view_write_self]
    rfl
  refine ⟨written, hdata, ?_⟩
  rw [migrateV5ToV6WithSession, Migration.migrateV5ToV6WithSession,
    readFrozen_image himage hversion, loadVaultV5_image hstate hversion]
  cases hbump : requireCanonical runtime
      (sessionSeeds accounts.vault args.liveCounterparty) programId
      accounts.session with
  | error error =>
      simp only [requireSigner, requireVacant, hvacant, require, Bind.bind,
        Except.bind, if_true]
      split_ifs <;> rfl
  | ok bump =>
      cases hactive : v5.activeSession with
      | none =>
          simp only [requireSigner, requireVacant, hvacant, require, Bind.bind,
            Except.bind, if_true, hcovers, okOr, hactive]
          split_ifs <;> rfl
      | some carried =>
          simp only [requireSigner, requireVacant, hvacant, require, Bind.bind,
            Except.bind, if_true, hcovers, okOr, hactive, hwritten]
          split_ifs
          · simp only [Except.map, pure, Except.pure, hsession]
          all_goals rfl

end Hops

/-! ## The whole chain -/

/-- The vault after all hops: every field of V3, and every later one neutral. -/
def carriedVault (v3 : VaultV3) (liveSessionCount : U8) : Vault where
  version := vaultVersionV6
  bump := v3.bump
  passkeyPubkey := v3.passkeyPubkey
  swigAddress := v3.swigAddress
  coolingOffSeconds := v3.coolingOffSeconds
  pendingVoucherCount := v3.pendingVoucherCount
  pendingWithdrawal := v3.pendingWithdrawal
  identityClaim := v3.identityClaim
  dexterAuthority := v3.dexterAuthority
  liveSessionCount := liveSessionCount
  outstandingLockedAmount := 0
  totalCrystallizedAmount := 0
  totalSettledAmount := 0
  borrowed := 0
  standbyBacker := none
  standbyCap := 0
  borrowRecoveryAt := none

/-- The session has not expired. -/
def Live (v3 : VaultV3) (now : I64) : Prop :=
  ∃ session ∈ v3.activeSession, now < session.expiresAt

/-- An account of the current size that decodes as the vault. -/
structure Holds (v6 : Vault) (data : Bytes) : Prop where
  size : data.length = 279
  decodes : tryDeserialize vault data = .ok v6

theorem holds_of_image {v6 : Vault} {data : Bytes}
    (himage : IsImage vault v6 data) : Holds v6 data :=
  ⟨himage.size, tryDeserialize_eq_ok_iff.mpr himage.encoded⟩

/-- A transaction that migrates with a session, and the bump of the address it
names. -/
structure SessionHop where
  context : Context
  accounts : MigrateV5ToV6WithSession
  args : MigrateV5ToV6WithSessionArgs
  bump : U8
  payerLamports : ℕ

namespace SessionHop

variable (hop : SessionHop)

def fund (account : Funded) : Funded :=
  { account with payerLamports := hop.payerLamports }

/-- The authority and the payer sign, the session account is the one of the
counterparty, and the payer can pay for it. -/
structure Ready (runtime : Runtime) (rent : Rent) (authority : Pubkey)
    (session : SessionRegistrationV3) : Prop where
  recorded : hop.accounts.dexterAuthority = authority
  authority : authority ∈ hop.context.signers
  payer : hop.accounts.payer ∈ hop.context.signers
  counterparty : session.allowedCounterparty = hop.args.liveCounterparty
  canonical : runtime.findProgramAddress
    (sessionSeeds hop.accounts.vault hop.args.liveCounterparty) programId =
      some (hop.accounts.session, hop.bump)
  covers : rent (8 + sessionAccount.space) ≤ hop.payerLamports

/-- The session account that carries the session. -/
def carried (session : SessionRegistrationV3) : SessionAccount where
  version := sessionVersionV1
  bump := hop.bump
  vault := hop.accounts.vault
  session := upgradedSession session

end SessionHop

section Chain

variable {runtime : Runtime} {rent : Rent} {v3 : VaultV3} {account : Funded}

/-- The V5 reading of a V3 vault that has passed the first two hops. -/
def atV5 (v3 : VaultV3) : VaultV5Reader :=
  readV5 (upgradedV4 (readV4 (upgradedV3 v3)))

theorem session_atV5 (v3 : VaultV3) :
    (atV5 v3).activeSession = v3.activeSession.map upgradedSession := rfl

theorem expired_atV5_iff {now : I64} :
    (∀ session ∈ (atV5 v3).activeSession, session.expiresAt ≤ now) ↔
      ¬ Live v3 now := by
  rw [session_atV5]
  constructor
  · rintro hexpired ⟨session, hsession, hlive⟩
    have hle := hexpired _ (Option.mem_map_of_mem upgradedSession hsession)
    rw [I64.le_def] at hle
    rw [I64.lt_def] at hlive
    exact absurd hlive (Int.not_lt.mpr hle)
  · intro hdead _ hsession
    obtain ⟨session, hactive, rfl⟩ := Option.mem_map.mp hsession
    rw [I64.le_def]
    exact Int.not_lt.mp fun hlive =>
      hdead ⟨session, hactive, I64.lt_def.mpr hlive⟩

/-- The plain path refuses a live session and drops any other. -/
theorem plain_path {last : Hop}
    (himage : IsImage vaultV5Reader (atV5 v3) account.data)
    (hsigned : last.Signed v3.dexterAuthority) :
    (Live v3 last.context.unixTimestamp →
      migrateV5ToV6 rent last.context last.accounts (last.fund account) =
        .error VaultError.sessionAlreadyActive) ∧
    (¬ Live v3 last.context.unixTimestamp →
      ∃ final, migrateV5ToV6 rent last.context last.accounts
          (last.fund account) = .ok final ∧
        Holds (carriedVault v3 0) final.data) := by
  constructor
  · intro hlive
    obtain ⟨hrecorded, hauthority, hpayer⟩ := hsigned
    have hrecordedV5 : (atV5 v3).dexterAuthority = last.accounts.dexterAuthority :=
      hrecorded.symm
    have hread : readFrozen vaultV5Reader vaultVersionV5
        (last.fund account).data = .ok (atV5 v3) := readFrozen_image himage rfl
    have hrefused : ¬ ∀ session ∈ (atV5 v3).activeSession,
        session.expiresAt ≤ last.context.unixTimestamp :=
      fun hexpired => expired_atV5_iff.mp hexpired hlive
    rw [migrateV5ToV6, hread]
    simp only [requireSigner, require, hrecorded ▸ hauthority, hpayer, hrecordedV5,
      if_true, if_neg hrefused, Bind.bind, Except.bind]
  · intro hdead
    obtain ⟨final, hfinal, hdata⟩ : ∃ final,
        migrateV5ToV6 rent last.context last.accounts (last.fund account) =
          .ok final ∧ IsImage vault (upgradedVault (atV5 v3) 0) final.data :=
      migrateV5ToV6_expired himage rfl hsigned (expired_atV5_iff.mpr hdead)
    exact ⟨final, hfinal, holds_of_image hdata⟩

/-- The path with a session takes nothing but a live one. -/
theorem session_path_refuses {last : SessionHop} {sessionData : Option Bytes}
    {result : Funded × Bytes}
    (himage : IsImage vaultV5Reader (atV5 v3) account.data)
    (hdead : ¬ Live v3 last.context.unixTimestamp) :
    migrateV5ToV6WithSession runtime rent last.context last.accounts last.args
      sessionData (last.fund account) ≠ .ok result := by
  intro hok
  have hread : readFrozen vaultV5Reader vaultVersionV5
      (last.fund account).data = .ok (atV5 v3) := readFrozen_image himage rfl
  obtain ⟨carried, hactive, hlive⟩ := live_of_migrateV5ToV6WithSession hread hok
  rw [session_atV5, Option.map_eq_some_iff] at hactive
  obtain ⟨session, hsession, rfl⟩ := hactive
  exact hdead ⟨session, hsession, hlive⟩

/-- It carries a live session into the account of its counterparty. -/
theorem session_path {last : SessionHop} {session : SessionRegistrationV3}
    (himage : IsImage vaultV5Reader (atV5 v3) account.data)
    (hsession : v3.activeSession = some session)
    (hlive : last.context.unixTimestamp < session.expiresAt)
    (hready : last.Ready runtime rent v3.dexterAuthority session) :
    ∃ final, migrateV5ToV6WithSession runtime rent last.context last.accounts
        last.args none (last.fund account) =
          .ok (final, sessionImage (last.carried session)) ∧
      Holds (carriedVault v3 1) final.data := by
  obtain ⟨final, hwritten, hdata⟩ : ∃ final, writeV6 rent
      (upgradedVault (atV5 v3) 1) ⟨account.data, account.lamports,
        last.payerLamports - rent (8 + sessionAccount.space)⟩ = .ok final ∧
      IsImage vault (upgradedVault (atV5 v3) 1) final.data :=
    writeV6_image himage
  have hread : readFrozen vaultV5Reader vaultVersionV5
      (last.fund account).data = .ok (atV5 v3) := readFrozen_image himage rfl
  have hactive : (atV5 v3).activeSession = some (upgradedSession session) := by
    rw [session_atV5, hsession, Option.map_some]
  refine ⟨final, ?_, holds_of_image hdata⟩
  simp only [migrateV5ToV6WithSession, requireSigner, bind_eq_ok_iff,
    okOr_eq_ok_iff, require_eq_ok_iff, requireCanonical_eq_ok_iff, pure_eq_ok_iff]
  exact ⟨(), hready.recorded ▸ hready.authority, (), hready.payer, (),
    trivial, last.bump, hready.canonical, (), hready.covers, atV5 v3, hread, (),
    hready.recorded.symm, upgradedSession session, hactive, (), hlive, (),
    hready.counterparty, final, hwritten, rfl⟩

/-- Every V3 vault passes through the chain: its account is 305 bytes long, its
slack is arbitrary, and at the end every field of V3 is in place. -/
theorem migration_chain {start : Funded} {first : Hop}
    (himage : IsImage vaultV3 v3 start.data)
    (hversion : v3.version = vaultVersionV3)
    (hfirst : first.Signed v3.dexterAuthority)
    (hcovers : first.Covers rent 341 start) :
    ∃ afterFirst, migrateV3ToV4 rent first.context first.accounts
        (first.fund start) = .ok afterFirst ∧
      ∀ second : Hop, second.Signed v3.dexterAuthority →
        second.Covers rent 399 afterFirst →
        ∃ afterSecond, migrateV4ToV5 rent second.context second.accounts
            (second.fund afterFirst) = .ok afterSecond ∧
          (∀ last : Hop, last.Signed v3.dexterAuthority →
            (Live v3 last.context.unixTimestamp →
              migrateV5ToV6 rent last.context last.accounts
                (last.fund afterSecond) =
                  .error VaultError.sessionAlreadyActive) ∧
            (¬ Live v3 last.context.unixTimestamp →
              ∃ final, migrateV5ToV6 rent last.context last.accounts
                  (last.fund afterSecond) = .ok final ∧
                Holds (carriedVault v3 0) final.data)) ∧
          ∀ (runtime : Runtime) (last : SessionHop),
            (∀ session ∈ v3.activeSession,
              last.context.unixTimestamp < session.expiresAt →
              last.Ready runtime rent v3.dexterAuthority session →
              ∃ final, migrateV5ToV6WithSession runtime rent last.context
                  last.accounts last.args none (last.fund afterSecond) =
                    .ok (final, sessionImage (last.carried session)) ∧
                Holds (carriedVault v3 1) final.data) ∧
            (¬ Live v3 last.context.unixTimestamp → ∀ sessionData result,
              migrateV5ToV6WithSession runtime rent last.context last.accounts
                last.args sessionData (last.fund afterSecond) ≠ .ok result) := by
  obtain ⟨afterFirst, hafterFirst, hfirstImage⟩ :=
    migrateV3ToV4_image himage hversion hfirst hcovers
  refine ⟨afterFirst, hafterFirst, fun second hsecond hsecondCovers => ?_⟩
  obtain ⟨afterSecond, hafterSecond, hsecondImage⟩ :=
    migrateV4ToV5_image hfirstImage rfl hsecond hsecondCovers
  refine ⟨afterSecond, hafterSecond, fun last hlast => ?_, fun runtime last => ?_⟩
  · exact plain_path hsecondImage hlast
  · constructor
    · intro session hsession hlive hready
      exact session_path hsecondImage hsession hlive hready
    · intro hdead sessionData result
      exact session_path_refuses hsecondImage hdead

end Chain

/-! ## A vault with a live session -/

section Examples

open Deployment

def sampleSession : SessionRegistrationV3 where
  sessionPubkey := sessionPubkey
  maxAmount := 100
  expiresAt := expiry
  allowedCounterparty := seller
  nonce := 1
  spent := 7
  currentOutstanding := 5
  maxRevolvingCapacity := 50

def sampleVault : VaultV3 where
  version := vaultVersionV3
  bump := 255
  passkeyPubkey := passkey
  swigAddress := swig
  coolingOffSeconds := 60
  pendingVoucherCount := 1
  pendingWithdrawal := some (withdrawalScope now).pending
  identityClaim := identityClaim
  dexterAuthority := authority
  activeSession := some sampleSession

/-- The encoding fills the account. -/
def sampleAccount : Funded where
  data := vaultDiscriminator ++ vaultV3.encode sampleVault
  lamports := 305
  payerLamports := 0

/-- One lamport for each byte. -/
def sampleRent : Rent := id

def sampleHop : Hop where
  context := plainContext [authority] now
  accounts := ⟨Deployment.vaultKey, authority, authority⟩
  payerLamports := 1000

def sampleSessionHop : SessionHop where
  context := plainContext [authority] now
  accounts := ⟨Deployment.vaultKey, authority, sellerSession, authority⟩
  args := ⟨seller⟩
  bump := 255
  payerLamports := 1000

theorem sampleAccount_image : IsImage vaultV3 sampleVault sampleAccount.data :=
  ⟨by decide +kernel, List.prefix_refl _⟩

theorem sampleHop_signed : sampleHop.Signed sampleVault.dexterAuthority :=
  ⟨rfl, by decide, by decide⟩

theorem sampleSessionHop_ready :
    sampleSessionHop.Ready sampleRuntime sampleRent authority sampleSession where
  recorded := rfl
  authority := by decide
  payer := by decide
  counterparty := rfl
  canonical := by decide +kernel
  covers := by decide

theorem migration_chain_sample :
    ∃ afterFirst afterSecond final,
      migrateV3ToV4 sampleRent sampleHop.context sampleHop.accounts
          (sampleHop.fund sampleAccount) = .ok afterFirst ∧
        migrateV4ToV5 sampleRent sampleHop.context sampleHop.accounts
          (sampleHop.fund afterFirst) = .ok afterSecond ∧
        migrateV5ToV6WithSession sampleRuntime sampleRent
            sampleSessionHop.context sampleSessionHop.accounts
            sampleSessionHop.args none (sampleSessionHop.fund afterSecond) =
          .ok (final, sessionImage (sampleSessionHop.carried sampleSession)) ∧
        Holds (carriedVault sampleVault 1) final.data := by
  have hpaid : sampleHop.Covers sampleRent 341 sampleAccount := by decide
  obtain ⟨afterFirst, hfirst, hchain⟩ :=
    migration_chain sampleAccount_image rfl sampleHop_signed hpaid
  have hcovers : sampleHop.Covers sampleRent 399 afterFirst := by
    have hle : 399 - afterFirst.lamports ≤ 1000 := by omega
    exact hle
  obtain ⟨afterSecond, hsecond, -, hlast⟩ :=
    hchain sampleHop sampleHop_signed hcovers
  obtain ⟨final, hfinal, hholds⟩ := (hlast sampleRuntime sampleSessionHop).1
    sampleSession rfl (by decide) sampleSessionHop_ready
  exact ⟨afterFirst, afterSecond, final, hfirst, hsecond, hfinal, hholds⟩

end Examples

end DexterVault.Chain
