import DexterVault.Generations.Chain
import DexterVault.Generations.FleetWalk

/-!
# What a migration does to an account that is on its way

An account of an older layout is on its way to one vault of the current layout.
A migration that lands finds the stamp it is meant for, raises it by one and
leaves the account on the way to the same vault; the last one arrives there.
-/

namespace DexterVault.Landing

open DexterVault.Machine
open DexterVault.Framing
open DexterVault.Borsh
open DexterVault.Accounts
open DexterVault.Execution
open DexterVault.Agreement
open DexterVault.Layouts
open DexterVault.Reading
open DexterVault.Hops
open DexterVault.Chain
open DexterVault.FleetWalk
open DexterVault.Migration (upgradedVault MigrateV5ToV6
  MigrateV5ToV6WithSession MigrateV5ToV6WithSessionArgs)

/-! ## Where an account is going -/

/-- The vault that the last migration will read out of an account.  The first
one changes the stamp alone, so a V2 account is read as V3. -/
def readingOf (data : Bytes) : Generation → Option VaultV5Reader
  | .v2 => (readFrozen vaultV3 vaultVersionV2 data).toOption.map atV5
  | .v3 => (readFrozen vaultV3 vaultVersionV3 data).toOption.map atV5
  | .v4 => (readFrozen vaultV4 vaultVersionV4 data).toOption.map
      fun v4 => readV5 (upgradedV4 v4)
  | .v5 => (readFrozen vaultV5Reader vaultVersionV5 data).toOption

/-- The layout that the migration out of an older one writes, if it is an older
one as well. -/
def nextOf : Generation → Option Generation
  | .v2 => some .v3
  | .v3 => some .v4
  | .v4 => some .v5
  | .v5 => none

/-! ## Stamps -/

section Stamps

variable {data : Bytes} {generation next : Generation}

theorem generationOf_eq_some_iff {version : Byte} :
    generationOf version = some generation ↔ version = generation.stamp := by
  constructor
  · intro hfound
    have hstamp := List.find?_some hfound
    exact (of_decide_eq_true hstamp).symm
  · rintro rfl
    cases generation <;> rfl

theorem stamp_injective {left right : Generation}
    (hsame : left.stamp = right.stamp) : left = right := by
  have hleft := generationOf_eq_some_iff.mpr (rfl : left.stamp = left.stamp)
  rw [hsame, generationOf_eq_some_iff.mpr rfl] at hleft
  exact (Option.some.inj hleft).symm

theorem stamp_lt_six (generation : Generation) : generation.stamp.val < 6 := by
  cases generation <;> decide

/-- An older layout does not have the current stamp. -/
theorem ne_six_of_stamp (hstamp : stampOf data = generation.stamp) :
    stampOf data ≠ vaultVersionV6 := by
  intro hsix
  have hlt := stamp_lt_six generation
  rw [← hstamp, hsix] at hlt
  exact absurd hlt (by decide)

theorem stamp_next (hnext : nextOf generation = some next) :
    next.stamp.val = generation.stamp.val + 1 := by
  cases generation <;> cases hnext <;> rfl

theorem eq_v5_of_nextOf (hnone : nextOf generation = none) : generation = .v5 := by
  cases generation with
  | v5 => rfl
  | _ => cases hnone

theorem stampOf_of_front {version : Byte} {rest : Bytes}
    (hfront : vaultDiscriminator ++ version :: rest <+: data) :
    stampOf data = version := by
  obtain ⟨slack, rfl⟩ := hfront
  rfl

theorem stampOf_of_readFrozen {Value : Type} {layout : Codec Value}
    {version : U8} {value : Value}
    (hread : readFrozen layout version data = .ok value) :
    stampOf data = version := by
  simp only [readFrozen, bind_eq_ok_iff, require_eq_ok_iff] at hread
  obtain ⟨_, -, _, -, _, hstamp, -⟩ := hread
  exact hstamp

end Stamps

/-! ## One hop -/

section Hop

variable {rent : Rent} {context : Context} {accounts : MigrateV5ToV6}
  {account after : Funded} {origin : VaultV5Reader}

/-- What growing an account does and costs. -/
theorem growTo_ok {newSize : ℕ} {grown : Funded}
    (hok : growTo rent newSize account = .ok grown) :
    grown.data.length = max account.data.length newSize ∧
      (∀ front, front <+: account.data → front <+: grown.data) ∧
      grown.lamports + grown.payerLamports =
        account.lamports + account.payerLamports ∧
      account.lamports ≤ grown.lamports := by
  unfold growTo at hok
  split at hok
  · next hlt =>
    simp only [bind_eq_ok_iff, require_eq_ok_iff, pure_eq_ok_iff] at hok
    obtain ⟨_, hfunded, rfl⟩ := hok
    refine ⟨?_, fun front hfront => prefix_resize hfront (Nat.le_of_lt hlt), ?_,
      ?_⟩
    · rw [length_resize, Nat.max_eq_right (Nat.le_of_lt hlt)]
    · simp only
      omega
    · exact Nat.le_add_right _ _
  · next hge =>
    rw [pure_eq_ok_iff] at hok
    subst hok
    exact ⟨(Nat.max_eq_left (Nat.le_of_not_lt hge)).symm, fun _ => id, rfl,
      Nat.le_refl _⟩

theorem migrateUp_ok {Old New : Type} {reader : Codec Old} {version : U8}
    {writer : Codec New} {recordedAuthority : Old → Pubkey}
    {upgraded : Old → New}
    (hok : migrateUp reader version writer recordedAuthority upgraded rent
      context accounts account = .ok after) :
    ∃ old grown, readFrozen reader version account.data = .ok old ∧
      accounts.dexterAuthority ∈ context.signers ∧
      recordedAuthority old = accounts.dexterAuthority ∧
      growTo rent (8 + writer.space) account = .ok grown ∧
      (vaultDiscriminator ++ writer.encode (upgraded old)).length ≤
        grown.data.length ∧
      after = { grown with
        data := overwrite (vaultDiscriminator ++ writer.encode (upgraded old))
          grown.data } := by
  simp only [migrateUp, requireSigner, bind_eq_ok_iff, require_eq_ok_iff,
    pure_eq_ok_iff] at hok
  obtain ⟨_, hsigned, _, -, old, hread, _, hrecorded, grown, hgrown, _, hfits,
    rfl⟩ := hok
  exact ⟨old, grown, hread, hsigned, hrecorded, hgrown, hfits, rfl⟩

theorem migrateV2ToV3_inv
    (hok : migrateV2ToV3 rent context accounts account = .ok after) :
    ∃ header grown,
      readFrozen vaultHeader vaultVersionV2 account.data = .ok header ∧
      accounts.dexterAuthority ∈ context.signers ∧
      header.dexterAuthority = accounts.dexterAuthority ∧
      growTo rent (8 + vault.space) account = .ok grown ∧
      after = { grown with data := grown.data.set 8 vaultVersionV3 } := by
  simp only [migrateV2ToV3, requireSigner, bind_eq_ok_iff, require_eq_ok_iff,
    pure_eq_ok_iff] at hok
  obtain ⟨_, hsigned, _, -, header, hread, _, hrecorded, grown, hgrown, rfl⟩ := hok
  exact ⟨header, grown, hread, hsigned, hrecorded, hgrown, rfl⟩

/-- Whatever the account is, the current layout fills it. -/
theorem writeV6_ok {v6 : Vault} (hok : writeV6 rent v6 account = .ok after) :
    IsImage vault v6 after.data ∧
      after.lamports = min account.lamports (rent v6Size) ∧
      after.lamports + after.payerLamports =
        account.lamports + account.payerLamports := by
  have hsteps := hok
  simp only [writeV6, bind_eq_ok_iff, require_eq_ok_iff, pure_eq_ok_iff,
    length_resize] at hsteps
  obtain ⟨_, -, _, hfits, hafter⟩ := hsteps
  obtain ⟨written, hwritten, himage⟩ : ∃ written,
      writeV6 rent v6 account = .ok written ∧ IsImage vault v6 written.data :=
    writeV6_eq_ok hfits
  obtain rfl : after = written := Except.ok.inj (hok.symm.trans hwritten)
  have hspace : 8 + vault.space = v6Size := rfl
  subst hafter
  refine ⟨himage, ?_, ?_⟩
  · simp only [shrinkTo, hspace]
    omega
  · simp only [shrinkTo]
    omega

/-- The stamp before and after the first hops. -/
theorem hopOf_stamp {generation next : Generation}
    (hnext : nextOf generation = some next)
    (hok : hopOf generation rent context accounts account = .ok after) :
    stampOf account.data = generation.stamp ∧
      accounts.dexterAuthority ∈ context.signers ∧
      stampOf after.data = next.stamp := by
  cases generation with
  | v2 =>
      obtain rfl : Generation.v3 = next := Option.some.inj hnext
      obtain ⟨header, grown, hread, hsigned, -, hgrown, rfl⟩ :=
        migrateV2ToV3_inv hok
      have hlong := congrArg List.length
        (List.prefix_iff_eq_take.mp (prefix_of_readFrozen hread))
      have hheader := length_encode_header header
      have hsize := (growTo_ok hgrown).1
      have hdiscriminator : vaultDiscriminator.length = 8 := rfl
      rw [List.length_append, List.length_take] at hlong
      have hinside : 8 < grown.data.length := by omega
      refine ⟨stampOf_of_readFrozen hread, hsigned, ?_⟩
      rw [stampOf, List.getD_eq_getElem?_getD, List.getElem?_set_self hinside]
      rfl
  | v3 =>
      obtain rfl : Generation.v4 = next := Option.some.inj hnext
      obtain ⟨_, _, hread, hsigned, -, -, -, rfl⟩ := migrateUp_ok hok
      exact ⟨stampOf_of_readFrozen hread, hsigned, rfl⟩
  | v4 =>
      obtain rfl : Generation.v5 = next := Option.some.inj hnext
      obtain ⟨_, _, hread, hsigned, -, -, -, rfl⟩ := migrateUp_ok hok
      exact ⟨stampOf_of_readFrozen hread, hsigned, rfl⟩
  | v5 => cases hnext

theorem readingOf_v2 {data : Bytes} (hread : readingOf data .v2 = some origin) :
    ∃ v3, atV5 v3 = origin ∧ Stamped vaultV3 v3 vaultVersionV2 ∧
      vaultDiscriminator ++ vaultV3.encode v3 <+: data := by
  obtain ⟨v3, hv3, rfl⟩ := Option.map_eq_some_iff.mp hread
  rw [toOption_eq_some_iff] at hv3
  have hfront := prefix_of_readFrozen hv3
  have hstamp : v3.version = vaultVersionV2 :=
    (stampOf_of_front hfront).symm.trans (stampOf_of_readFrozen hv3)
  exact ⟨v3, rfl, hstamp ▸ stamped_vaultV3 v3, hfront⟩

/-- The header that the first hop decodes. -/
theorem header_of_v3 {v3 : VaultV3} {version : U8} {data : Bytes}
    (hstamped : Stamped vaultV3 v3 version)
    (hfront : vaultDiscriminator ++ vaultV3.encode v3 <+: data) :
    readFrozen vaultHeader version data = .ok (vaultV3Fields.symm v3).1 := by
  refine (readFrozen_eq_ok_iff ?_).mpr (List.IsPrefix.trans ?_ hfront)
  · obtain ⟨rest, hrest⟩ := hstamped
    exact ⟨_, congrArg (· :: _) (List.cons.inj hrest).1⟩
  · exact ⟨sessionRegistrationV3.option.encode v3.activeSession,
      List.append_assoc ..⟩

/-- Another stamp on a vault of the V3 layout. -/
def withStamp (version : U8) (v3 : VaultV3) : VaultV3 :=
  { v3 with version := version }

theorem prefix_set_stamp {version : U8} {v3 : VaultV3} {data : Bytes}
    (hfront : vaultDiscriminator ++ vaultV3.encode v3 <+: data) :
    vaultDiscriminator ++ vaultV3.encode (withStamp version v3) <+:
      data.set 8 version := by
  obtain ⟨slack, rfl⟩ := hfront
  exact ⟨slack, rfl⟩

/-- The reading is what the first hops keep, and its authority is the one that
signs them. -/
theorem hopOf_reading {generation next : Generation}
    (hnext : nextOf generation = some next)
    (hok : hopOf generation rent context accounts account = .ok after)
    (horigin : readingOf account.data generation = some origin) :
    readingOf after.data next = some origin ∧
      origin.dexterAuthority = accounts.dexterAuthority := by
  cases generation with
  | v2 =>
      obtain rfl : Generation.v3 = next := Option.some.inj hnext
      obtain ⟨header, grown, hread, -, hrecorded, hgrown, rfl⟩ :=
        migrateV2ToV3_inv hok
      obtain ⟨v3, rfl, hstamped, hfront⟩ := readingOf_v2 horigin
      have hheader := header_of_v3 hstamped hfront
      have hwritten : readFrozen vaultV3 vaultVersionV3
          (grown.data.set 8 vaultVersionV3) =
            .ok (withStamp vaultVersionV3 v3) :=
        (readFrozen_eq_ok_iff ⟨_, rfl⟩).mpr
          (prefix_set_stamp ((growTo_ok hgrown).2.1 _ hfront))
      obtain rfl := Except.ok.inj (hheader.symm.trans hread)
      exact ⟨congrArg (Option.map atV5) (toOption_eq_some_iff.mpr hwritten),
        hrecorded⟩
  | v3 =>
      obtain rfl : Generation.v4 = next := Option.some.inj hnext
      obtain ⟨v3, grown, hread, -, hrecorded, -, -, rfl⟩ := migrateUp_ok hok
      obtain ⟨found, hfound, rfl⟩ := Option.map_eq_some_iff.mp horigin
      rw [toOption_eq_some_iff] at hfound
      obtain rfl := Except.ok.inj (hread.symm.trans hfound)
      have hwritten : readFrozen vaultV4 vaultVersionV4
          (overwrite (vaultDiscriminator ++
            vaultV4Frozen.encode (upgradedV3 v3)) grown.data) =
            .ok (readV4 (upgradedV3 v3)) :=
        (readFrozen_eq_ok_iff ⟨_, rfl⟩).mpr (List.prefix_append _ _)
      exact ⟨congrArg (Option.map _) (toOption_eq_some_iff.mpr hwritten),
        hrecorded⟩
  | v4 =>
      obtain rfl : Generation.v5 = next := Option.some.inj hnext
      obtain ⟨v4, grown, hread, -, hrecorded, -, -, rfl⟩ := migrateUp_ok hok
      obtain ⟨found, hfound, rfl⟩ := Option.map_eq_some_iff.mp horigin
      rw [toOption_eq_some_iff] at hfound
      obtain rfl := Except.ok.inj (hread.symm.trans hfound)
      have hwritten : readFrozen vaultV5Reader vaultVersionV5
          (overwrite (vaultDiscriminator ++
            vaultV5Frozen.encode (upgradedV4 v4)) grown.data) =
            .ok (readV5 (upgradedV4 v4)) :=
        (readFrozen_eq_ok_iff ⟨_, rfl⟩).mpr (List.prefix_append _ _)
      exact ⟨toOption_eq_some_iff.mpr hwritten, hrecorded⟩
  | v5 => cases hnext

/-! ## The last hop -/

theorem migrateV5ToV6_inv
    (hok : migrateV5ToV6 rent context accounts account = .ok after) :
    ∃ v5, readingOf account.data .v5 = some v5 ∧
      accounts.dexterAuthority ∈ context.signers ∧
      v5.dexterAuthority = accounts.dexterAuthority ∧
      (∀ session ∈ v5.activeSession, session.expiresAt ≤ context.unixTimestamp) ∧
      writeV6 rent (upgradedVault v5 0) account = .ok after := by
  simp only [migrateV5ToV6, requireSigner, bind_eq_ok_iff,
    require_eq_ok_iff] at hok
  obtain ⟨_, hsigned, _, -, v5, hread, _, hrecorded, _, hexpired, hwritten⟩ := hok
  exact ⟨v5, toOption_eq_some_iff.mpr hread, hsigned, hrecorded, hexpired,
    hwritten⟩

/-- What the path with a session has checked and written. -/
structure CarriedOut (runtime : Runtime) (rent : Rent) (context : Context)
    (accounts : MigrateV5ToV6WithSession) (liveCounterparty : Pubkey)
    (sessionData : Option Bytes) (account after : Funded) (created : Bytes)
    (v5 : VaultV5Reader) (session : SessionRegistration) (bump : U8) : Prop where
  read : readingOf account.data .v5 = some v5
  signed : accounts.dexterAuthority ∈ context.signers
  recorded : v5.dexterAuthority = accounts.dexterAuthority
  vacant : sessionData = none
  canonical : runtime.findProgramAddress
    (sessionSeeds accounts.vault liveCounterparty) programId =
      some (accounts.session, bump)
  active : v5.activeSession = some session
  live : context.unixTimestamp < session.expiresAt
  counterparty : session.allowedCounterparty = liveCounterparty
  covers : rent (8 + sessionAccount.space) ≤ account.payerLamports
  written : writeV6 rent (upgradedVault v5 1) { account with
    payerLamports :=
      account.payerLamports - rent (8 + sessionAccount.space) } = .ok after
  created : created = sessionImage
    { version := sessionVersionV1
      bump := bump
      vault := accounts.vault
      session := session }

theorem migrateV5ToV6WithSession_inv {runtime : Runtime}
    {accounts : MigrateV5ToV6WithSession} {args : MigrateV5ToV6WithSessionArgs}
    {sessionData : Option Bytes} {created : Bytes}
    (hok : migrateV5ToV6WithSession runtime rent context accounts args
      sessionData account = .ok (after, created)) :
    ∃ v5 session bump, CarriedOut runtime rent context accounts
      args.liveCounterparty sessionData account after created v5 session
      bump := by
  simp only [migrateV5ToV6WithSession, requireSigner, bind_eq_ok_iff,
    require_eq_ok_iff, okOr_eq_ok_iff, requireCanonical_eq_ok_iff,
    pure_eq_ok_iff, Prod.mk.injEq] at hok
  obtain ⟨_, hsigned, _, -, _, hvacant, bump, hcanonical, _, hcovers, v5, hread,
    _, hrecorded, session, hactive, _, hlive, _, hcounterparty, written, hwritten,
    rfl, rfl⟩ := hok
  exact ⟨v5, session, bump, toOption_eq_some_iff.mpr hread, hsigned, hrecorded,
    hvacant, hcanonical, hactive, hlive, hcounterparty, hcovers, hwritten, rfl⟩

end Hop

/-! ## One transaction -/

/-- What the last migration leaves: the vault of the reading, with a session
that has expired dropped or one that is live carried into an account of its
own. -/
inductive Arrived (runtime : Runtime) (vaultKey : Pubkey)
    (origin : VaultV5Reader) (last : Submission) (chain : OnChain) : Prop
  | dropped (hplain : last.instruction = .migrate .v5)
      (hexpired : ∀ session ∈ origin.activeSession,
        session.expiresAt ≤ last.context.unixTimestamp)
      (himage : IsImage vault (upgradedVault origin 0) chain.data)
  | carried (session : SessionRegistration) (sessionKey : Pubkey) (bump : U8)
      (hinstruction : last.instruction =
        .migrateV5ToV6WithSession sessionKey session.allowedCounterparty)
      (hactive : origin.activeSession = some session)
      (hlive : last.context.unixTimestamp < session.expiresAt)
      (hcanonical : runtime.findProgramAddress
        (sessionSeeds vaultKey session.allowedCounterparty) programId =
          some (sessionKey, bump))
      (hcreated : chain.sessionData sessionKey = some (sessionImage
        { version := sessionVersionV1
          bump := bump
          vault := vaultKey
          session := session }))
      (himage : IsImage vault (upgradedVault origin 1) chain.data)

section Land

variable {runtime : Runtime} {rent : Rent} {vaultKey : Pubkey}
  {chain after : OnChain} {submission : Submission} {generation next : Generation}

theorem Arrived.image {origin : VaultV5Reader}
    (harrived : Arrived runtime vaultKey origin submission chain) :
    ∃ liveSessionCount,
      IsImage vault (upgradedVault origin liveSessionCount) chain.data := by
  cases harrived with
  | dropped _ _ himage => exact ⟨0, himage⟩
  | carried _ _ _ _ _ _ _ _ himage => exact ⟨1, himage⟩

theorem stampOf_of_image {origin : VaultV5Reader} {liveSessionCount : U8}
    {data : Bytes}
    (himage : IsImage vault (upgradedVault origin liveSessionCount) data) :
    stampOf data = vaultVersionV6 := by
  have hfront : vaultDiscriminator ++ vaultVersionV6 ::
      (vault.encode (upgradedVault origin liveSessionCount)).tail <+: data :=
    himage.encoded
  exact stampOf_of_front hfront

theorem Arrived.stamp {origin : VaultV5Reader}
    (harrived : Arrived runtime vaultKey origin submission chain) :
    stampOf chain.data = vaultVersionV6 := by
  obtain ⟨liveSessionCount, himage⟩ := harrived.image
  exact stampOf_of_image himage

/-- A transaction out of one of the first three layouts is a plain hop. -/
theorem land_older (hnext : nextOf submission.instruction.generation = some next)
    (hok : land runtime rent vaultKey chain submission = .ok after) :
    ∃ settled, hopOf submission.instruction.generation rent submission.context
        ⟨vaultKey, submission.dexterAuthority, submission.payer⟩
        ⟨chain.data, chain.lamports, submission.payerLamports⟩ = .ok settled ∧
      after = chain.settle submission settled := by
  unfold land at hok
  cases hinstruction : submission.instruction with
  | migrate generation =>
      simp only [hinstruction, bind_eq_ok_iff, pure_eq_ok_iff] at hok
      obtain ⟨settled, hsettled, rfl⟩ := hok
      exact ⟨settled, hsettled, rfl⟩
  | migrateV5ToV6WithSession session liveCounterparty =>
      rw [hinstruction] at hnext
      cases hnext

theorem land_last (hgeneration : submission.instruction.generation = .v5)
    (hok : land runtime rent vaultKey chain submission = .ok after) :
    ∃ origin, readingOf chain.data .v5 = some origin ∧
      submission.dexterAuthority ∈ submission.context.signers ∧
      origin.dexterAuthority = submission.dexterAuthority ∧
      Arrived runtime vaultKey origin submission after := by
  unfold land at hok
  cases hinstruction : submission.instruction with
  | migrate generation =>
      obtain rfl : generation = .v5 := by
        rw [hinstruction] at hgeneration
        exact hgeneration
      simp only [hinstruction, bind_eq_ok_iff, pure_eq_ok_iff] at hok
      obtain ⟨settled, hsettled, rfl⟩ := hok
      obtain ⟨origin, hread, hsigned, hrecorded, hexpired, hwritten⟩ :=
        migrateV5ToV6_inv hsettled
      exact ⟨origin, hread, hsigned, hrecorded,
        .dropped hinstruction hexpired (writeV6_ok hwritten).1⟩
  | migrateV5ToV6WithSession session liveCounterparty =>
      simp only [hinstruction, bind_eq_ok_iff, pure_eq_ok_iff] at hok
      obtain ⟨⟨settled, created⟩, hsettled, rfl⟩ := hok
      obtain ⟨origin, carried, bump, hcarried⟩ :=
        migrateV5ToV6WithSession_inv hsettled
      obtain rfl := hcarried.counterparty
      have hcreated := (Function.update_self session (some created)
        chain.sessionData).trans (congrArg some hcarried.created)
      exact ⟨origin, hcarried.read, hcarried.signed, hcarried.recorded,
        .carried carried session bump hinstruction hcarried.active hcarried.live
          hcarried.canonical hcreated (writeV6_ok hcarried.written).1⟩

/-- A transaction lands on the one stamp it is meant for, raises it by one, and
is signed by the authority it names. -/
theorem land_stamp (hok : land runtime rent vaultKey chain submission = .ok after) :
    stampOf chain.data = submission.instruction.generation.stamp ∧
      (stampOf after.data).val = (stampOf chain.data).val + 1 ∧
      submission.dexterAuthority ∈ submission.context.signers := by
  cases hnext : nextOf submission.instruction.generation with
  | some next =>
      obtain ⟨settled, hsettled, rfl⟩ := land_older hnext hok
      obtain ⟨hbefore, hsigned, hafter⟩ := hopOf_stamp hnext hsettled
      have hbefore' : stampOf chain.data =
        submission.instruction.generation.stamp := hbefore
      have hafter' : stampOf (chain.settle submission settled).data =
        next.stamp := hafter
      exact ⟨hbefore', by rw [hafter', hbefore', stamp_next hnext], hsigned⟩
  | none =>
      have hlast := eq_v5_of_nextOf hnext
      obtain ⟨origin, hread, hsigned, -, harrived⟩ := land_last hlast hok
      have hbefore : stampOf chain.data = vaultVersionV5 :=
        stampOf_of_readFrozen (toOption_eq_some_iff.mp hread)
      rw [hlast]
      exact ⟨hbefore, by rw [harrived.stamp, hbefore]; rfl, hsigned⟩

end Land

end DexterVault.Landing
