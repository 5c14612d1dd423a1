import DexterVault.Generations.WalkSafety
import DexterVault.Generations.ZeroFill

/-!
# Which walks come to their end

The census admits an account by its size and its stamp, the program by what its
frozen structs decode.  From an admitted account that decodes, the script can be
started again wherever a walk was left, and with the signatures and the lamports
it needs it finishes.  From an admitted account that does not decode no walk
finishes, whatever is sent.
-/

namespace DexterVault.WalkEnd

open DexterVault.Machine
open DexterVault.Framing
open DexterVault.Borsh
open DexterVault.Accounts
open DexterVault.Execution
open DexterVault.Agreement
open DexterVault.Layouts
open DexterVault.Reading
open DexterVault.Hops
open DexterVault.Chain
open DexterVault.FleetScript
open DexterVault.Transition
open DexterVault.FleetWalk
open DexterVault.Landing
open DexterVault.WalkSafety
open DexterVault.Migration (upgradedVault MigrateV5ToV6
  MigrateV5ToV6WithSession MigrateV5ToV6WithSessionArgs)

/-! ## What the census admits -/

/-- The script queues the account. -/
def Walkable (includeMismatch : Bool) (data : Bytes) (lamports : ℕ) (r : Rec) :
    Prop :=
  ∃ base, classify data lamports = some base ∧
    admitMismatch includeMismatch base = some r ∧ r.walkable = true

/-- The sizes that the census admits, and those the hops lead to. -/
def Sized (includeMismatch : Bool) (data : Bytes) : Generation → Prop
  | .v2 => data.length = 289
  | .v3 => data.length = 289 ∨ data.length = 305
  | .v4 => data.length = 341 ∨ data.length = 399 ∨
      data.length = 279 ∧ passesSize includeMismatch data = true
  | .v5 => data.length = 399

/-- The vault that an account of an older layout is going to be. -/
def destiny (data : Bytes) : Option VaultV5Reader :=
  (generationOf (stampOf data)).bind (readingOf data)

section Census

variable {includeMismatch : Bool} {data : Bytes} {r base : Rec} {lamports : ℕ}
  {generation : Generation}

theorem stampOf_of_getElem? {version : Byte} (hbyte : data[8]? = some version) :
    stampOf data = version := by
  rw [stampOf, List.getD_eq_getElem?_getD, hbyte, Option.getD_some]

theorem sized_genSize (hsize : data.length = genSize generation) :
    Sized includeMismatch data generation := by
  cases generation with
  | v2 => exact hsize
  | v3 => exact .inr hsize
  | v4 => exact .inl hsize
  | v5 => exact hsize

/-- The session that the census finds. -/
def readSession (data : Bytes) : Option SessionInfo :=
  (readPrefix data).bind fun p => readActiveSession data p.afterAuthority

/-- The records of the census before anything else is admitted. -/
structure Recorded (data : Bytes) (lamports : ℕ) (base : Rec) : Prop where
  sameData : base.data = data
  sameSize : base.size = data.length
  sameLamports : base.lamports = lamports
  version : base.versionByte = data[8]?
  walkable : base.walkable = true → ∃ generation,
    data[8]? = some generation.stamp ∧ data.length = genSize generation ∧
      base.session = readSession data
  broken : base.cls = .bornBroken279 →
    data.length = 279 ∧ base.session = none ∧ base.walkable = false

theorem recorded_of_classify (hclassify : classify data lamports = some base) :
    Recorded data lamports base := by
  unfold classify at hclassify
  simp only [Option.bind_eq_bind, Option.pure_def] at hclassify
  split_ifs at hclassify with hfront hsize hsix
  · obtain rfl := Option.some.inj hclassify
    exact ⟨rfl, rfl, rfl, rfl, nofun, nofun⟩
  · obtain ⟨p, -, hbase⟩ := Option.bind_eq_some_iff.mp hclassify
    obtain rfl := Option.some.inj hbase
    exact ⟨rfl, rfl, rfl, rfl, nofun, nofun⟩
  · obtain rfl := Option.some.inj hclassify
    exact ⟨rfl, rfl, rfl, rfl, nofun, fun _ => ⟨hsize, rfl, rfl⟩⟩
  · cases hgeneration : data[8]?.bind generationOf with
    | none =>
        rw [hgeneration] at hclassify
        obtain rfl := Option.some.inj hclassify
        exact ⟨rfl, rfl, rfl, rfl, nofun, nofun⟩
    | some generation =>
        simp only [hgeneration] at hclassify
        split_ifs at hclassify with hexpected
        · obtain ⟨p, hfound, hrest⟩ := Option.bind_eq_some_iff.mp hclassify
          obtain ⟨session, hsession, hbase⟩ := Option.bind_eq_some_iff.mp hrest
          obtain rfl := Option.some.inj hbase
          obtain ⟨version, hbyte, hknown⟩ := Option.bind_eq_some_iff.mp hgeneration
          rw [generationOf_eq_some_iff] at hknown
          have hread : some session = readSession data := by
            rw [readSession, hfound, Option.bind_some, hsession]
          exact ⟨rfl, rfl, rfl, rfl,
            fun _ => ⟨generation, hknown ▸ hbyte, hexpected, hread⟩, nofun⟩
        · obtain rfl := Option.some.inj hclassify
          exact ⟨rfl, rfl, rfl, rfl, nofun, nofun⟩

/-- What the script knows of an account it queues.  In the second cohort of
`--include-mismatch` it does not read a session, and the byte where one would
begin is zero. -/
structure Queued (includeMismatch : Bool) (data : Bytes) (lamports : ℕ) (r : Rec)
    (generation : Generation) : Prop where
  lamports : r.lamports = lamports
  versionByte : r.versionByte = some generation.stamp
  stamp : stampOf data = generation.stamp
  sized : Sized includeMismatch data generation
  session : r.session = readSession data ∨
    r.session = none ∧
      ((readPrefix data).bind fun p => data[p.afterAuthority]?) = some 0

theorem queued_of_walkable (hwalkable : Walkable includeMismatch data lamports r) :
    ∃ generation, Queued includeMismatch data lamports r generation := by
  obtain ⟨base, hclassify, hadmitted, hqueued⟩ := hwalkable
  have hbase := recorded_of_classify hclassify
  have hplain (hwalks : base.walkable = true) :
      ∃ generation, Queued includeMismatch data lamports base generation := by
    obtain ⟨generation, hbyte, hexpected, hsession⟩ := hbase.walkable hwalks
    exact ⟨generation, hbase.sameLamports, hbase.version.trans hbyte,
      stampOf_of_getElem? hbyte, sized_genSize hexpected, .inl hsession⟩
  unfold admitMismatch at hadmitted
  simp only [Option.bind_eq_bind, Option.pure_def] at hadmitted
  split_ifs at hadmitted with hflag hgrown hshrunk
  · obtain rfl := Option.some.inj hadmitted
    exact hplain hqueued
  · obtain ⟨-, hbyte, hsize⟩ := hgrown
    obtain ⟨p, hfound, hrest⟩ := Option.bind_eq_some_iff.mp hadmitted
    obtain ⟨session, hsession, hr⟩ := Option.bind_eq_some_iff.mp hrest
    obtain rfl := Option.some.inj hr
    rw [hbase.sameData] at hfound hsession
    rw [hbase.sameSize] at hsize
    refine ⟨.v4, hbase.sameLamports, hbyte,
      stampOf_of_getElem? (hbase.version.symm.trans hbyte),
      .inr (.inl hsize), .inl ?_⟩
    rw [readSession, hfound, Option.bind_some, hsession]
  · obtain ⟨hcls, hbyte⟩ := hshrunk
    obtain ⟨hsize, hsession, hidle⟩ := hbase.broken hcls
    obtain ⟨p, hfound, hadmitted⟩ := Option.bind_eq_some_iff.mp hadmitted
    rw [hbase.sameData] at hfound hadmitted
    split_ifs at hadmitted with hcount
    · obtain rfl := Option.some.inj hadmitted
      rw [hidle] at hqueued
      cases hqueued
    · obtain rfl := Option.some.inj hadmitted
      have hzero : data[p.afterAuthority]? = some 0 := not_not.mp hcount
      have hpasses : passesSize includeMismatch data = true := by
        rw [passesSize, Bool.eq_true_of_not_eq_false hflag, hfound]
        simp [hzero]
      refine ⟨.v4, hbase.sameLamports, hbyte,
        stampOf_of_getElem? (hbase.version.symm.trans hbyte),
        .inr (.inr ⟨hsize, hpasses⟩), .inr ⟨hsession, ?_⟩⟩
      rw [hfound, Option.bind_some, hzero]
  · obtain rfl := Option.some.inj hadmitted
    exact hplain hqueued

theorem passesSize_of_sized (hsized : Sized includeMismatch data generation) :
    passesSize includeMismatch data = true := by
  have hother (hne : data.length ≠ v6Size) :
      passesSize includeMismatch data = true := by
    simp [passesSize, hne]
  cases generation with
  | v2 => exact hother (by rw [show data.length = 289 from hsized]; decide)
  | v3 => exact hother (by rcases hsized with h | h <;> rw [h] <;> decide)
  | v4 =>
      rcases hsized with h | h | ⟨-, hpasses⟩
      · exact hother (by rw [h]; decide)
      · exact hother (by rw [h]; decide)
      · exact hpasses
  | v5 => exact hother (by rw [show data.length = 399 from hsized]; decide)

end Census

/-! ## Sizes and readings along the hops -/

section Hops

variable {includeMismatch : Bool} {rent : Rent} {context : Context}
  {accounts : MigrateV5ToV6} {account after : Funded}
  {generation next : Generation} {origin : VaultV5Reader}

theorem sized_next (hnext : nextOf generation = some next)
    (hok : hopOf generation rent context accounts account = .ok after)
    (hsized : Sized includeMismatch account.data generation) :
    Sized includeMismatch after.data next := by
  cases generation with
  | v2 =>
      obtain rfl : Generation.v3 = next := Option.some.inj hnext
      obtain ⟨_, grown, -, -, -, hgrown, rfl⟩ := migrateV2ToV3_inv hok
      have hlength := (growTo_ok hgrown).1
      rw [show account.data.length = 289 from hsized] at hlength
      refine .inl ?_
      rw [List.length_set, hlength]
      decide
  | v3 =>
      obtain rfl : Generation.v4 = next := Option.some.inj hnext
      obtain ⟨_, grown, -, -, -, hgrown, hfits, rfl⟩ := migrateUp_ok hok
      have hlength := (growTo_ok hgrown).1
      refine .inl ?_
      rw [length_overwrite hfits, hlength]
      rcases hsized with hsize | hsize <;> rw [hsize] <;> decide
  | v4 =>
      obtain rfl : Generation.v5 = next := Option.some.inj hnext
      obtain ⟨_, grown, -, -, -, hgrown, hfits, rfl⟩ := migrateUp_ok hok
      have hlength := (growTo_ok hgrown).1
      have hgrew : grown.data.length = 399 := by
        rw [hlength]
        rcases hsized with hsize | hsize | ⟨hsize, -⟩ <;> rw [hsize] <;> decide
      exact (length_overwrite hfits).trans hgrew
  | v5 => cases hnext

/-- The first hop changes the stamp alone: what decodes behind it has decoded
before. -/
theorem readingOf_of_set_stamp {data : Bytes}
    (hstamped : data.set 8 vaultVersionV2 = data)
    (hreading : readingOf (data.set 8 vaultVersionV3) .v3 = some origin) :
    ∃ before, readingOf data .v2 = some before := by
  obtain ⟨v3, hv3, -⟩ := Option.map_eq_some_iff.mp hreading
  rw [toOption_eq_some_iff] at hv3
  have hfront : vaultDiscriminator ++
      vaultV3.encode (withStamp vaultVersionV2 v3) <+:
        (data.set 8 vaultVersionV3).set 8 vaultVersionV2 :=
    prefix_set_stamp (prefix_of_readFrozen hv3)
  rw [List.set_set, hstamped] at hfront
  have hread : readFrozen vaultV3 vaultVersionV2 data =
      .ok (withStamp vaultVersionV2 v3) :=
    (readFrozen_eq_ok_iff ⟨_, rfl⟩).mpr hfront
  exact ⟨_, congrArg (Option.map atV5) (toOption_eq_some_iff.mpr hread)⟩

/-- An account that does not decode does not decode after a hop either. -/
theorem unread_next (hnext : nextOf generation = some next)
    (hok : hopOf generation rent context accounts account = .ok after)
    (hsized : Sized includeMismatch account.data generation)
    (hunread : readingOf account.data generation = none) :
    readingOf after.data next = none := by
  cases generation with
  | v2 =>
      obtain rfl : Generation.v3 = next := Option.some.inj hnext
      obtain ⟨header, grown, hheader, -, -, hgrown, rfl⟩ := migrateV2ToV3_inv hok
      have hlong : ¬ account.data.length < 8 + vault.space := by
        rw [show account.data.length = 289 from hsized]
        decide
      rw [growTo, if_neg hlong, pure_eq_ok_iff] at hgrown
      subst hgrown
      have hstamped : account.data.set 8 vaultVersionV2 = account.data := by
        have hstamp := stampOf_of_readFrozen hheader
        obtain ⟨rest, hrest⟩ := prefix_of_readFrozen hheader
        rw [← hstamp, ← hrest]
        rfl
      cases hafter : readingOf (account.data.set 8 vaultVersionV3) .v3 with
      | none => rfl
      | some origin =>
          obtain ⟨before, hbefore⟩ := readingOf_of_set_stamp hstamped hafter
          rw [hunread] at hbefore
          cases hbefore
  | v3 =>
      obtain ⟨v3, -, hread, -⟩ := migrateUp_ok hok
      rw [readingOf, toOption_eq_some_iff.mpr hread] at hunread
      cases hunread
  | v4 =>
      obtain ⟨v4, -, hread, -⟩ := migrateUp_ok hok
      rw [readingOf, toOption_eq_some_iff.mpr hread] at hunread
      cases hunread
  | v5 => cases hnext

theorem growTo_succeeds {newSize : ℕ}
    (hcovers : rent newSize ≤ account.payerLamports) :
    ∃ grown, growTo rent newSize account = .ok grown := by
  have hmissing : rent newSize - account.lamports ≤ account.payerLamports :=
    (Nat.sub_le _ _).trans hcovers
  unfold growTo
  split
  · simp only [require, if_pos hmissing]
    exact ⟨_, rfl⟩
  · exact ⟨account, rfl⟩

theorem migrateUp_succeeds {Old New : Type} {reader : Codec Old} {version : U8}
    {writer : Codec New} {recordedAuthority : Old → Pubkey}
    {upgraded : Old → New} {old : Old}
    (hread : readFrozen reader version account.data = .ok old)
    (hauthority : accounts.dexterAuthority ∈ context.signers)
    (hpayer : accounts.payer ∈ context.signers)
    (hrecorded : recordedAuthority old = accounts.dexterAuthority)
    (hcovers : rent (8 + writer.space) ≤ account.payerLamports) :
    ∃ after, migrateUp reader version writer recordedAuthority upgraded rent
      context accounts account = .ok after := by
  obtain ⟨grown, hgrown⟩ : ∃ grown,
      growTo rent (8 + writer.space) account = .ok grown :=
    growTo_succeeds hcovers
  have hfits : (vaultDiscriminator ++ writer.encode (upgraded old)).length ≤
      grown.data.length := by
    rw [(growTo_ok hgrown).1, List.length_append]
    exact (Nat.add_le_add_left (writer.length_encode_le _) 8).trans
      (Nat.le_max_right _ _)
  let out := vaultDiscriminator ++ writer.encode (upgraded old)
  refine ⟨{ grown with data := overwrite out grown.data }, ?_⟩
  simp only [migrateUp, requireSigner, bind_eq_ok_iff, require_eq_ok_iff,
    pure_eq_ok_iff]
  exact ⟨(), hauthority, (), hpayer, old, hread, (), hrecorded, grown, hgrown, (),
    hfits, rfl⟩

/-- The first hops go through for the authority of the reading. -/
theorem hopOf_succeeds (hnext : nextOf generation = some next)
    (hreading : readingOf account.data generation = some origin)
    (hsized : Sized includeMismatch account.data generation)
    (hauthority : accounts.dexterAuthority ∈ context.signers)
    (hpayer : accounts.payer ∈ context.signers)
    (hrecorded : origin.dexterAuthority = accounts.dexterAuthority)
    (hcovers : ∀ size ∈ [341, 399], rent size ≤ account.payerLamports) :
    ∃ after, hopOf generation rent context accounts account = .ok after := by
  cases generation with
  | v2 =>
      obtain ⟨v3, rfl, hstamped, hfront⟩ := readingOf_v2 hreading
      have hlong : ¬ account.data.length < 8 + vault.space := by
        rw [show account.data.length = 289 from hsized]
        decide
      have hheader := header_of_v3 hstamped hfront
      refine ⟨{ account with data := account.data.set 8 vaultVersionV3 }, ?_⟩
      simp only [hopOf, migrateV2ToV3, requireSigner, bind_eq_ok_iff,
        require_eq_ok_iff, pure_eq_ok_iff]
      exact ⟨(), hauthority, (), hpayer, _, hheader, (), hrecorded, account,
        if_neg hlong, rfl⟩
  | v3 =>
      obtain ⟨v3, hread, rfl⟩ := Option.map_eq_some_iff.mp hreading
      rw [toOption_eq_some_iff] at hread
      exact migrateUp_succeeds hread hauthority hpayer hrecorded
        (hcovers 341 (by simp))
  | v4 =>
      obtain ⟨v4, hread, rfl⟩ := Option.map_eq_some_iff.mp hreading
      rw [toOption_eq_some_iff] at hread
      exact migrateUp_succeeds hread hauthority hpayer hrecorded
        (hcovers 399 (by simp))
  | v5 => cases hnext

end Hops

/-! ## What a finishing walk needs -/

/-- Who sends the transactions of a walk, and when they land. -/
structure Crew where
  context : Context
  payer : Pubkey
  payerLamports : ℕ

def Crew.submit (crew : Crew) (dexterAuthority : Pubkey)
    (instruction : MigrateIx) : Submission where
  instruction := instruction
  context := crew.context
  dexterAuthority := dexterAuthority
  payer := crew.payer
  payerLamports := crew.payerLamports

/-- The steps of a script whose clock agrees with the chain and whose sends all
land. -/
inductive Crew.Makes (crew : Crew) (dexterAuthority : Pubkey) : Event → Prop
  | looked : Crew.Makes crew dexterAuthority
      (.looked crew.context.unixTimestamp)
  | confirmed (instruction : MigrateIx) : Crew.Makes crew dexterAuthority
      (.confirmed (crew.submit dexterAuthority instruction))
  | checked : Crew.Makes crew dexterAuthority .checked

/-- The recorded authority and the payer sign, the payer covers the rent at
every size, and a session that is still live has an address that is vacant. -/
structure Crew.Ready (crew : Crew) (runtime : Runtime) (rent : Rent)
    (vaultKey : Pubkey) (origin : VaultV5Reader)
    (sessionData : Pubkey → Option Bytes) : Prop where
  authority : origin.dexterAuthority ∈ crew.context.signers
  payer : crew.payer ∈ crew.context.signers
  covers : ∀ size ∈ [162, 341, 399], rent size ≤ crew.payerLamports
  session : ∀ session ∈ origin.activeSession,
    crew.context.unixTimestamp < session.expiresAt → ∃ sessionKey bump,
      runtime.findProgramAddress
        (sessionSeeds vaultKey session.allowedCounterparty) programId =
          some (sessionKey, bump) ∧
      sessionData sessionKey = none

section Progress

variable {runtime : Runtime} {rent : Rent} {vaultKey : Pubkey}
  {includeMismatch : Bool} {origin : VaultV5Reader} {crew : Crew}
  {chain start : OnChain} {generation : Generation}

/-- The instruction at version 5 follows the session. -/
theorem pickHop_eq {v5 : VaultV5Reader} {data : Bytes} {now : I64}
    (himage : IsImage vaultV5Reader v5 data)
    (hversion : v5.version = vaultVersionV5) :
    pickHop now data =
      some ((v5.activeSession.filter fun session =>
        now < session.expiresAt).elim .plain fun session =>
          .withSession session.allowedCounterparty) := by
  have hagrees : FleetScript.Agrees .v5 v5 data := agrees_of_image himage hversion
  have hsession := hagrees.session
  rw [hagrees.found, Option.bind_some] at hsession
  have hhead : activeHead .v5 v5 = v5.activeSession.map fun session =>
      ⟨session.expiresAt, session.allowedCounterparty⟩ := rfl
  unfold pickHop
  simp only [Option.bind_eq_bind, hagrees.found, Option.bind_some, hsession,
    hhead]
  cases v5.activeSession with
  | none => rfl
  | some session =>
      by_cases hlive : now < session.expiresAt
      · simp [sessionInfo, hlive, Option.filter]
      · simp [sessionInfo, hlive, Option.filter]

/-- At version 5 the account has the size of its layout. -/
theorem image_of_v5 (hreading : readingOf chain.data .v5 = some origin)
    (hsized : Sized includeMismatch chain.data .v5) :
    IsImage vaultV5Reader origin chain.data ∧
      origin.version = vaultVersionV5 := by
  have hread := toOption_eq_some_iff.mp hreading
  have hfront := prefix_of_readFrozen hread
  refine ⟨⟨hsized, hfront⟩, ?_⟩
  have hstamp : stampOf chain.data = origin.version := by
    obtain ⟨slack, hslack⟩ := hfront
    rw [← hslack]
    rfl
  exact hstamp.symm.trans (stampOf_of_readFrozen hread)

variable (runtime rent vaultKey crew origin chain generation) in
/-- The script picks a migration of the account, and it lands. -/
def SendLands : Prop :=
  ∃ instruction after,
    instructionFor runtime vaultKey crew.context.unixTimestamp chain.data
      generation = some instruction ∧
    land runtime rent vaultKey chain
      (crew.submit origin.dexterAuthority instruction) = .ok after

theorem older_lands {next : Generation} (hnext : nextOf generation = some next)
    (hreading : readingOf chain.data generation = some origin)
    (hsized : Sized includeMismatch chain.data generation)
    (hready : crew.Ready runtime rent vaultKey origin chain.sessionData) :
    SendLands runtime rent vaultKey origin crew chain generation := by
  have hpicked : instructionFor runtime vaultKey crew.context.unixTimestamp
      chain.data generation = some (.migrate generation) := by
    cases generation with
    | v5 => cases hnext
    | _ => rfl
  obtain ⟨settled, hsettled⟩ : ∃ settled, hopOf generation rent crew.context
      ⟨vaultKey, origin.dexterAuthority, crew.payer⟩
      ⟨chain.data, chain.lamports, crew.payerLamports⟩ = .ok settled :=
    hopOf_succeeds hnext hreading hsized hready.authority hready.payer rfl
      fun size hsize => hready.covers size (List.mem_cons_of_mem _ hsize)
  refine ⟨.migrate generation, chain.settle
    (crew.submit origin.dexterAuthority (.migrate generation)) settled, hpicked, ?_⟩
  simp only [land, Crew.submit, bind_eq_ok_iff, pure_eq_ok_iff]
  exact ⟨settled, hsettled, rfl⟩

/-- A live session is carried into the vacant address. -/
theorem carried_lands {session : SessionRegistration}
    (hreading : readingOf chain.data .v5 = some origin)
    (hsized : Sized includeMismatch chain.data .v5)
    (hready : crew.Ready runtime rent vaultKey origin chain.sessionData)
    (hactive : origin.activeSession = some session)
    (hlive : crew.context.unixTimestamp < session.expiresAt) :
    SendLands runtime rent vaultKey origin crew chain .v5 := by
  obtain ⟨himage, hversion⟩ := image_of_v5 hreading hsized
  obtain ⟨sessionKey, bump, hcanonical, hvacant⟩ :=
    hready.session session hactive hlive
  have hpicked : instructionFor runtime vaultKey crew.context.unixTimestamp
      chain.data .v5 = some (.migrateV5ToV6WithSession sessionKey
        session.allowedCounterparty) := by
    simp [instructionFor, pickHop_eq himage hversion, hactive, Option.filter,
      hlive, hcanonical]
  obtain ⟨written, hwritten, -⟩ : ∃ written, writeV6 rent
      (upgradedVault origin 1) ⟨chain.data, chain.lamports,
        crew.payerLamports - rent (8 + sessionAccount.space)⟩ = .ok written ∧
      IsImage vault (upgradedVault origin 1) written.data :=
    writeV6_eq_ok (by rw [himage.size]; decide)
  have hread := toOption_eq_some_iff.mp hreading
  have hsettled : migrateV5ToV6WithSession runtime rent crew.context
      ⟨vaultKey, origin.dexterAuthority, sessionKey, crew.payer⟩
      ⟨session.allowedCounterparty⟩ (chain.sessionData sessionKey)
      ⟨chain.data, chain.lamports, crew.payerLamports⟩ =
        .ok (written, sessionImage
          { version := sessionVersionV1
            bump := bump
            vault := vaultKey
            session := session }) := by
    simp only [migrateV5ToV6WithSession, requireSigner, bind_eq_ok_iff,
      okOr_eq_ok_iff, require_eq_ok_iff, requireCanonical_eq_ok_iff,
      pure_eq_ok_iff]
    exact ⟨(), hready.authority, (), hready.payer, (), hvacant, bump, hcanonical,
      (), hready.covers 162 (by simp), origin, hread, (), rfl, session, hactive,
      (), hlive, (), rfl, written, hwritten, rfl⟩
  obtain ⟨after, hafter⟩ : ∃ after, land runtime rent vaultKey chain
      (crew.submit origin.dexterAuthority (.migrateV5ToV6WithSession sessionKey
        session.allowedCounterparty)) = .ok after := by
    simp only [land, Crew.submit, bind_eq_ok_iff, pure_eq_ok_iff]
    exact ⟨_, _, hsettled, rfl⟩
  exact ⟨_, after, hpicked, hafter⟩

/-- A session that has expired is dropped. -/
theorem dropped_lands (hreading : readingOf chain.data .v5 = some origin)
    (hsized : Sized includeMismatch chain.data .v5)
    (hready : crew.Ready runtime rent vaultKey origin chain.sessionData)
    (hexpired : ∀ session ∈ origin.activeSession,
      ¬ crew.context.unixTimestamp < session.expiresAt) :
    SendLands runtime rent vaultKey origin crew chain .v5 := by
  obtain ⟨himage, hversion⟩ := image_of_v5 hreading hsized
  have hnone : origin.activeSession.filter (fun session =>
      crew.context.unixTimestamp < session.expiresAt) = none := by
    rw [Option.filter_eq_none_iff]
    intro session hactive hlt
    exact hexpired session hactive (of_decide_eq_true hlt)
  have hpicked : instructionFor runtime vaultKey crew.context.unixTimestamp
      chain.data .v5 = some (.migrate .v5) := by
    simp [instructionFor, pickHop_eq himage hversion, hnone]
  have hpast : ∀ session ∈ origin.activeSession,
      session.expiresAt ≤ crew.context.unixTimestamp := by
    intro session hactive
    rw [I64.le_def]
    exact Int.not_lt.mp fun hlt =>
      hexpired session hactive (I64.lt_def.mpr hlt)
  let hop : Hop := ⟨crew.context,
    ⟨vaultKey, origin.dexterAuthority, crew.payer⟩, crew.payerLamports⟩
  let account : Funded := ⟨chain.data, chain.lamports, crew.payerLamports⟩
  have hsigned : hop.Signed origin.dexterAuthority :=
    ⟨rfl, hready.authority, hready.payer⟩
  obtain ⟨settled, hsettled, -⟩ : ∃ settled, migrateV5ToV6 rent hop.context
      hop.accounts (hop.fund account) = .ok settled ∧
        IsImage vault (upgradedVault origin 0) settled.data :=
    migrateV5ToV6_expired himage hversion hsigned hpast
  refine ⟨.migrate .v5, chain.settle
    (crew.submit origin.dexterAuthority (.migrate .v5)) settled, hpicked, ?_⟩
  simp only [land, Crew.submit, bind_eq_ok_iff, pure_eq_ok_iff]
  exact ⟨settled, hsettled, rfl⟩

/-- What the script sends of an account that decodes lands. -/
theorem send_lands (hreading : readingOf chain.data generation = some origin)
    (hsized : Sized includeMismatch chain.data generation)
    (hready : crew.Ready runtime rent vaultKey origin chain.sessionData) :
    SendLands runtime rent vaultKey origin crew chain generation := by
  cases hnext : nextOf generation with
  | some next => exact older_lands hnext hreading hsized hready
  | none =>
      obtain rfl := eq_v5_of_nextOf hnext
      by_cases hlive : ∃ session, origin.activeSession = some session ∧
          crew.context.unixTimestamp < session.expiresAt
      · obtain ⟨session, hactive, hlive⟩ := hlive
        exact carried_lands hreading hsized hready hactive hlive
      · exact dropped_lands hreading hsized hready
          fun session hactive hlt => hlive ⟨session, hactive, hlt⟩

/-! ## On course -/

/-- The account is still to be migrated and fits the script, or has arrived. -/
inductive Ahead (includeMismatch : Bool) (origin : VaultV5Reader)
    (sessionData : Pubkey → Option Bytes) (chain : OnChain) : Prop
  | older (generation : Generation)
      (hstamp : stampOf chain.data = generation.stamp)
      (hreading : readingOf chain.data generation = some origin)
      (hsized : Sized includeMismatch chain.data generation)
      (hsessions : chain.sessionData = sessionData)
  | arrived (liveSessionCount : U8)
      (himage : IsImage vault (upgradedVault origin liveSessionCount) chain.data)

variable {sessionData : Pubkey → Option Bytes}

theorem Ahead.older_of_stamp (hahead : Ahead includeMismatch origin sessionData
      chain)
    (hstamp : stampOf chain.data = generation.stamp) :
    readingOf chain.data generation = some origin ∧
      Sized includeMismatch chain.data generation ∧
      chain.sessionData = sessionData := by
  cases hahead with
  | older found hfound hreading hsized hsessions =>
      obtain rfl := stamp_injective (hfound.symm.trans hstamp)
      exact ⟨hreading, hsized, hsessions⟩
  | arrived liveSessionCount himage =>
      exact absurd (stampOf_of_image himage) (ne_six_of_stamp hstamp)

theorem Ahead.image_of_stamp (hahead : Ahead includeMismatch origin sessionData
      chain)
    (hsix : stampOf chain.data = vaultVersionV6) : ∃ liveSessionCount,
      IsImage vault (upgradedVault origin liveSessionCount) chain.data := by
  cases hahead with
  | older generation hstamp => exact absurd hsix (ne_six_of_stamp hstamp)
  | arrived liveSessionCount himage => exact ⟨liveSessionCount, himage⟩

theorem Ahead.land {after : OnChain} {submission : Submission}
    (hahead : Ahead includeMismatch origin sessionData chain)
    (hok : land runtime rent vaultKey chain submission = .ok after) :
    Ahead includeMismatch origin sessionData after := by
  obtain ⟨hreading, hsized, hsessions⟩ :=
    hahead.older_of_stamp (land_stamp hok).1
  cases hnext : nextOf submission.instruction.generation with
  | some next =>
      obtain ⟨settled, hsettled, rfl⟩ := land_older hnext hok
      exact .older next (hopOf_stamp hnext hsettled).2.2
        (hopOf_reading hnext hsettled hreading).1
        (sized_next hnext hsettled hsized) hsessions
  | none =>
      have hlast := eq_v5_of_nextOf hnext
      rw [hlast] at hreading
      obtain ⟨found, hfound, -, -, harrived⟩ := land_last hlast hok
      obtain rfl := Option.some.inj (hreading.symm.trans hfound)
      obtain ⟨liveSessionCount, himage⟩ := harrived.image
      exact .arrived liveSessionCount himage

/-- The account has a size and a stamp that are admitted, and does not decode. -/
def Stuck (includeMismatch : Bool) (data : Bytes) : Prop :=
  ∃ generation, stampOf data = generation.stamp ∧
    Sized includeMismatch data generation ∧ readingOf data generation = none

theorem Stuck.land {after : OnChain} {submission : Submission}
    (hstuck : Stuck includeMismatch chain.data)
    (hok : land runtime rent vaultKey chain submission = .ok after) :
    Stuck includeMismatch after.data := by
  obtain ⟨found, hfound, hsized, hnone⟩ := hstuck
  obtain rfl := stamp_injective (hfound.symm.trans (land_stamp hok).1)
  cases hnext : nextOf submission.instruction.generation with
  | some next =>
      obtain ⟨settled, hsettled, rfl⟩ := land_older hnext hok
      exact ⟨next, (hopOf_stamp hnext hsettled).2.2,
        sized_next hnext hsettled hsized,
        unread_next hnext hsettled hsized hnone⟩
  | none =>
      have hlast := eq_v5_of_nextOf hnext
      obtain ⟨origin, hread, -⟩ := land_last hlast hok
      rw [hlast, hread] at hnone
      cases hnone

variable (runtime vaultKey includeMismatch origin crew sessionData) in
/-- Where the walk of a crew stands when nothing has gone wrong. -/
def OnCourse (world : World) : Prop :=
  Ahead includeMismatch origin sessionData world.chain ∧
    match world.phase with
    | .reading => True
    | .sending version instruction attempt =>
        version = instruction.generation.stamp ∧
          version = stampOf world.chain.data ∧ attempt = 0 ∧
          instructionFor runtime vaultKey crew.context.unixTimestamp
            world.chain.data instruction.generation = some instruction
    | .verifying | .verified => stampOf world.chain.data = vaultVersionV6
    | .failed => False

theorem OnCourse.inTurn {world : World}
    (hcourse : OnCourse runtime vaultKey includeMismatch origin crew sessionData
      world) : InTurn world := by
  obtain ⟨chain, phase⟩ := world
  cases phase with
  | sending version instruction attempt =>
      obtain ⟨-, hstamp, hversion, hattempt, -⟩ := hcourse
      exact ⟨hstamp, Fin.le_of_eq hversion, hattempt ▸ Nat.zero_le _⟩
  | verifying => exact hcourse.2
  | verified => exact hcourse.2
  | _ => trivial

theorem look_older {now : I64} {data : Bytes} {instruction : MigrateIx}
    (hstamp : stampOf data = generation.stamp)
    (hpasses : passesSize includeMismatch data = true)
    (hpicked : instructionFor runtime vaultKey now data generation =
      some instruction) :
    look runtime vaultKey includeMismatch now data =
      .sending (stampOf data) instruction 0 := by
  have hopen : stampOf data ≠ vaultVersionV6 := ne_six_of_stamp hstamp
  have hgeneration : generationOf (stampOf data) = some generation :=
    generationOf_eq_some_iff.mpr hstamp
  simp only [look, if_neg hopen, hgeneration, hpasses, if_true, hpicked,
    Option.elim_some]

/-- From every place on course there is a step of the crew that stays on it. -/
theorem OnCourse.step {world : World}
    (hready : crew.Ready runtime rent vaultKey origin sessionData)
    (hcourse : OnCourse runtime vaultKey includeMismatch origin crew sessionData
      world)
    (hunfinished : world.phase ≠ .verified) :
    ∃ event next, crew.Makes origin.dexterAuthority event ∧
      advance runtime rent vaultKey includeMismatch world event = .ok next ∧
      OnCourse runtime vaultKey includeMismatch origin crew sessionData next := by
  obtain ⟨chain, phase⟩ := world
  obtain ⟨hahead, hphase⟩ := hcourse
  cases phase with
  | reading =>
      refine ⟨.looked crew.context.unixTimestamp, _, .looked, rfl, hahead, ?_⟩
      cases hahead with
      | arrived liveSessionCount himage =>
          have hsix := stampOf_of_image himage
          have hlook : look runtime vaultKey includeMismatch
              crew.context.unixTimestamp chain.data = .verifying := if_pos hsix
          simp only [hlook]
          exact hsix
      | older generation hstamp hreading hsized hsessions =>
          obtain ⟨instruction, -, hpicked, -⟩ :=
            send_lands hreading hsized (hsessions.symm ▸ hready)
          have hlook := look_older hstamp (passesSize_of_sized hsized) hpicked
          have hgeneration := generation_of_instructionFor hpicked
          simp only [hlook]
          exact ⟨by rw [hstamp, hgeneration], trivial, trivial,
            hgeneration ▸ hpicked⟩
  | sending version instruction attempt =>
      obtain ⟨hstamp, hversion, -, hpicked⟩ := hphase
      obtain ⟨hreading, hsized, hsessions⟩ :=
        hahead.older_of_stamp (hversion.symm.trans hstamp)
      obtain ⟨sent, after, hsent, hland⟩ :=
        send_lands hreading hsized (hsessions.symm ▸ hready)
      obtain rfl := Option.some.inj (hpicked.symm.trans hsent)
      refine ⟨.confirmed (crew.submit origin.dexterAuthority instruction),
        ⟨after, .reading⟩, .confirmed instruction, ?_, hahead.land hland, trivial⟩
      simp only [advance, Crew.submit, if_true]
      rw [Crew.submit] at hland
      rw [hland]
      rfl
  | verifying =>
      obtain ⟨liveSessionCount, himage⟩ := hahead.image_of_stamp hphase
      have hsize : chain.data.length = v6Size := himage.size
      have hverify : verify chain.data = .verified := if_pos ⟨hphase, hsize⟩
      refine ⟨.checked, _, .checked, rfl, hahead, ?_⟩
      simp only [hverify]
      exact hphase
  | verified => exact absurd rfl hunfinished
  | failed => exact hphase.elim

/-- On course the walk gets to its end. -/
theorem OnCourse.completes {world : World}
    (hready : crew.Ready runtime rent vaultKey origin sessionData)
    (hcourse : OnCourse runtime vaultKey includeMismatch origin crew sessionData
      world) :
    ∃ later final, Run (walk runtime rent vaultKey includeMismatch) world later
        final ∧
      final.phase = .verified ∧
      (∃ liveSessionCount,
        IsImage vault (upgradedVault origin liveSessionCount) final.chain.data) ∧
      ∀ accepted ∈ later, crew.Makes origin.dexterAuthority accepted.call := by
  let system := walk runtime rent vaultKey includeMismatch
  have hdescent : ∀ before, OnCourse runtime vaultKey includeMismatch origin
      crew sessionData before → ¬ before.phase = .verified → ∃ event next,
        crew.Makes origin.dexterAuthority event ∧
        system.step before event = .ok next ∧
        OnCourse runtime vaultKey includeMismatch origin crew sessionData next ∧
        rank next < rank before := by
    intro before hbefore hunfinished
    obtain ⟨event, next, hmakes, hstep, hnext⟩ := hbefore.step hready hunfinished
    exact ⟨event, next, hmakes, hstep, hnext,
      (moves_of_advance hstep).rank_lt hbefore.inTurn⟩
  obtain ⟨later, final, hlater, ⟨hahead, hphase⟩, hverified, hmakes⟩ :=
    exists_run_of_descent rank hdescent world hcourse
  rw [hverified] at hphase
  exact ⟨later, final, hlater, hverified, hahead.image_of_stamp hphase, hmakes⟩

/-! ## Which walks finish -/

theorem Stuck.not_verified {trace : List (Accepted World Event)} {world : World}
    (hstuck : Stuck includeMismatch start.data)
    (hrun : Run (walk runtime rent vaultKey includeMismatch) ⟨start, .reading⟩
      trace world) : world.phase ≠ .verified := by
  intro hverified
  obtain ⟨found, hfound, -⟩ : Stuck includeMismatch world.chain.data :=
    chain_invariant (fun _ chain => Stuck includeMismatch chain.data) hstuck
      (fun _ _ _ _ hstuck hok => hstuck.land hok) hrun
  exact ne_six_of_stamp hfound (stamp_of_verified hrun hverified)

/-- An admitted account that decodes can be walked to its end from wherever a
walk has left it, and one that does not decode never gets there. -/
theorem walk_completes {r : Rec}
    (hwalkable : Walkable includeMismatch start.data start.lamports r) :
    (∀ origin, destiny start.data = some origin → ∀ crew : Crew,
      crew.Ready runtime rent vaultKey origin start.sessionData →
      ∀ trace world, Run (walk runtime rent vaultKey includeMismatch)
          ⟨start, .reading⟩ trace world →
        ∃ later final, Run (walk runtime rent vaultKey includeMismatch)
            ⟨world.chain, .reading⟩ later final ∧
          final.phase = .verified ∧
          (∃ liveSessionCount, Holds (upgradedVault origin liveSessionCount)
            final.chain.data) ∧
          ∀ accepted ∈ later, crew.Makes origin.dexterAuthority accepted.call) ∧
    (destiny start.data = none → ∀ trace world,
      Run (walk runtime rent vaultKey includeMismatch) ⟨start, .reading⟩ trace
        world → world.phase ≠ .verified) := by
  obtain ⟨generation, -, -, hstamp, hsized, -⟩ := queued_of_walkable hwalkable
  have hgeneration := generationOf_eq_some_iff.mpr hstamp
  constructor
  · intro origin hdestiny crew hready trace world hrun
    rw [destiny, hgeneration, Option.bind_some] at hdestiny
    have hahead : Ahead includeMismatch origin start.sessionData world.chain :=
      chain_invariant (fun _ => Ahead includeMismatch origin start.sessionData)
        (.older generation hstamp hdestiny hsized rfl)
        (fun _ _ _ _ hahead hok => hahead.land hok) hrun
    have hcourse : OnCourse runtime vaultKey includeMismatch origin crew
        start.sessionData ⟨world.chain, .reading⟩ := ⟨hahead, trivial⟩
    obtain ⟨later, final, hlater, hverified, ⟨liveSessionCount, himage⟩, hmakes⟩ :=
      hcourse.completes hready
    exact ⟨later, final, hlater, hverified,
      ⟨liveSessionCount, holds_of_image himage⟩, hmakes⟩
  · intro hdestiny trace world hrun
    rw [destiny, hgeneration, Option.bind_some] at hdestiny
    exact Stuck.not_verified ⟨generation, hstamp, hsized, hdestiny⟩ hrun

end Progress

/-! ## Two admitted accounts -/

section Examples

open Deployment
open ZeroFill

def sampleCrew : Crew where
  context := plainContext [authority] now
  payer := authority
  payerLamports := 1000

theorem sampleCrew_ready : sampleCrew.Ready sampleRuntime sampleRent
    Deployment.vaultKey (atV5 sampleVault) sampleChain.sessionData where
  authority := List.mem_singleton_self _
  payer := List.mem_singleton_self _
  covers := by decide
  session := by
    rintro session hsession -
    obtain rfl : upgradedSession sampleSession = session :=
      Option.some.inj hsession
    exact ⟨sellerSession, 255, sampleSessionHop_ready.canonical, rfl⟩

/-- A V2 vault whose session leaves no room for the meters of V3. -/
def crowdedChain : OnChain where
  data := crowdedAccount.data
  lamports := crowdedAccount.lamports
  sessionData _ := none
  paid := 0

theorem walkable_of_classify {data : Bytes} {lamports : ℕ}
    (hwalks : (classify data lamports).any Rec.walkable = true) :
    ∃ r, Walkable false data lamports r := by
  obtain ⟨r, hclassify, hwalkable⟩ := (Option.any_eq_true ..).mp hwalks
  exact ⟨r, r, hclassify, rfl, hwalkable⟩

theorem sampleChain_walkable :
    ∃ r, Walkable false sampleChain.data sampleChain.lamports r :=
  walkable_of_classify (by decide +kernel)

theorem crowdedChain_steps :
    (classify crowdedChain.data crowdedChain.lamports).any Rec.walkable = true ∧
      destiny crowdedChain.data = none := by
  decide +kernel

theorem sampleChain_destiny :
    destiny sampleChain.data = some (atV5 sampleVault) := by
  rw [destiny, generationOf_eq_some_iff.mpr sampleChain_stamp, Option.bind_some]
  exact sampleChain_reading

/-- The one is walked to its end, the other one never is. -/
theorem walk_completes_sample :
    (∃ later final,
      Run (walk sampleRuntime sampleRent Deployment.vaultKey false)
          ⟨sampleChain, .reading⟩ later final ∧
        final.phase = .verified) ∧
    ∀ trace world,
      Run (walk sampleRuntime sampleRent Deployment.vaultKey false)
        ⟨crowdedChain, .reading⟩ trace world → world.phase ≠ .verified := by
  obtain ⟨r, hwalkable⟩ := sampleChain_walkable
  obtain ⟨c, hcrowded⟩ := walkable_of_classify crowdedChain_steps.1
  obtain ⟨later, final, hrun, hverified, -⟩ :=
    (walk_completes hwalkable).1 _ sampleChain_destiny sampleCrew
      sampleCrew_ready _ _ .start
  exact ⟨⟨later, final, hrun, hverified⟩,
    (walk_completes hcrowded).2 crowdedChain_steps.2⟩

end Examples

end DexterVault.WalkEnd
