import DexterVault.Generations.WalkEnd

/-!
# What a walk costs

The dry run of the script estimates the hops of a vault and the lamports that
the payers will have paid at its end: rent that is topped up for a larger
account and for the account of a live session, less what the last hop gives
back.  The estimate grows the account by the sizes of the layouts, the program
by what each hop really needs; both end at the rent of the current size.
-/

namespace DexterVault.WalkCost

open DexterVault.Machine
open DexterVault.Framing
open DexterVault.Accounts
open DexterVault.Execution
open DexterVault.Agreement
open DexterVault.Layouts
open DexterVault.Reading
open DexterVault.Hops
open DexterVault.Chain
open DexterVault.FleetScript
open DexterVault.Transition
open DexterVault.FleetWalk
open DexterVault.Landing
open DexterVault.WalkSafety
open DexterVault.WalkEnd
open DexterVault.Migration (upgradedVault MigrateV5ToV6
  MigrateV5ToV6WithSession MigrateV5ToV6WithSessionArgs)

/-! ## The estimate -/

section Estimate

variable (rent : Rent) (planned : I64) (session : Option SessionInfo)

/-- All hops but the last one grow the account. -/
theorem hopsFrom_eq (generation : Generation) : ∃ growing,
    hopsFrom generation = growing ++ [.v5] ∧ ∀ hop ∈ growing, hop ≠ .v5 := by
  cases generation with
  | v2 => exact ⟨[.v2, .v3, .v4], rfl, by decide⟩
  | v3 => exact ⟨[.v3, .v4], rfl, by decide⟩
  | v4 => exact ⟨[.v4], rfl, by decide⟩
  | v5 => exact ⟨[], rfl, by decide⟩

/-- What a growing hop adds to the estimate is what the account gains. -/
theorem planHop_growing {hop : Generation} (hgrowing : hop ≠ .v5)
    (plan : VaultPlan) :
    (planHop rent planned session plan hop).hops = plan.hops ++ [hop] ∧
      (planHop rent planned session plan hop).rentDelta - plan.rentDelta =
        (planHop rent planned session plan hop).lamports - plan.lamports ∧
      plan.lamports ≤ (planHop rent planned session plan hop).lamports := by
  cases hop with
  | v5 => exact absurd rfl hgrowing
  | _ =>
      simp only [planHop]
      exact ⟨trivial, by omega, Nat.le_max_left _ _⟩

theorem foldl_planHop_growing {growing : List Generation}
    (hgrowing : ∀ hop ∈ growing, hop ≠ .v5) (plan : VaultPlan) :
    (growing.foldl (planHop rent planned session) plan).hops =
        plan.hops ++ growing ∧
      (growing.foldl (planHop rent planned session) plan).rentDelta -
          plan.rentDelta =
        (growing.foldl (planHop rent planned session) plan).lamports -
          plan.lamports ∧
      plan.lamports ≤
        (growing.foldl (planHop rent planned session) plan).lamports := by
  induction growing generalizing plan with
  | nil => simp
  | cons hop later ih =>
      obtain ⟨hhops, hdelta, hle⟩ := planHop_growing rent planned session
        (hgrowing hop List.mem_cons_self) plan
      obtain ⟨hhops', hdelta', hle'⟩ :=
        ih (fun next hnext => hgrowing next (List.mem_cons_of_mem _ hnext))
          (planHop rent planned session plan hop)
      rw [List.foldl_cons]
      refine ⟨?_, by omega, hle.trans hle'⟩
      rw [hhops', hhops, List.append_assoc, List.singleton_append]

/-- The whole estimate, for an account that is rent-exempt at the current
size. -/
theorem planVault_eq {r : Rec} {generation : Generation}
    (hversion : r.versionByte = some generation.stamp)
    (hexempt : rent v6Size ≤ r.lamports) :
    (planVault r rent planned).hops = hopsFrom generation ∧
      (planVault r rent planned).rentDelta = rent v6Size - r.lamports +
        if isLive planned r.session then (rent sessionAccountSize : ℤ) else 0 := by
  obtain ⟨growing, hhops, hgrowing⟩ := hopsFrom_eq generation
  have hfold : planVault r rent planned =
      planHop rent planned r.session (growing.foldl
        (planHop rent planned r.session) ⟨[], r.lamports, 0, false⟩) .v5 := by
    rw [planVault, hversion, Option.bind_some, generationOf_eq_some_iff.mpr rfl,
      Option.elim_some, hhops, List.foldl_append, List.foldl_cons, List.foldl_nil]
  obtain ⟨hgrown, hdelta, hle⟩ := foldl_planHop_growing rent planned r.session
    hgrowing ⟨[], r.lamports, 0, false⟩
  rw [hfold, hhops]
  simp only [planHop, hgrown, List.nil_append, true_and] at hdelta hle ⊢
  split_ifs <;> omega

end Estimate

/-! ## What the chain charges -/

/-- The rent of a session account, where one is created. -/
def carryCost (rent : Rent) : MigrateIx → ℕ
  | .migrate _ => 0
  | .migrateV5ToV6WithSession .. => rent sessionAccountSize

section Charges

variable {runtime : Runtime} {rent : Rent} {vaultKey : Pubkey}
  {includeMismatch : Bool} {chain after start : OnChain}
  {submission : Submission} {generation next : Generation}

theorem hopOf_lamports {context : Context} {accounts : MigrateV5ToV6}
    {account settled : Funded} (hnext : nextOf generation = some next)
    (hok : hopOf generation rent context accounts account = .ok settled) :
    settled.lamports + settled.payerLamports =
        account.lamports + account.payerLamports ∧
      account.lamports ≤ settled.lamports := by
  cases generation with
  | v2 =>
      obtain ⟨_, grown, -, -, -, hgrown, rfl⟩ := migrateV2ToV3_inv hok
      exact (growTo_ok hgrown).2.2
  | v3 =>
      obtain ⟨_, grown, -, -, -, hgrown, -, rfl⟩ := migrateUp_ok hok
      exact (growTo_ok hgrown).2.2
  | v4 =>
      obtain ⟨_, grown, -, -, -, hgrown, -, rfl⟩ := migrateUp_ok hok
      exact (growTo_ok hgrown).2.2
  | v5 => cases hnext

theorem paid_older (hnext : nextOf submission.instruction.generation = some next)
    (hok : land runtime rent vaultKey chain submission = .ok after) :
    after.paid - chain.paid = after.lamports - chain.lamports ∧
      chain.lamports ≤ after.lamports := by
  obtain ⟨settled, hsettled, rfl⟩ := land_older hnext hok
  obtain ⟨hkept, hle⟩ := hopOf_lamports hnext hsettled
  simp only [OnChain.settle] at hkept hle ⊢
  exact ⟨by omega, hle⟩

theorem paid_last (hlast : submission.instruction.generation = .v5)
    (hok : land runtime rent vaultKey chain submission = .ok after) :
    after.paid - chain.paid = min chain.lamports (rent v6Size) -
      chain.lamports + carryCost rent submission.instruction := by
  unfold land at hok
  cases hinstruction : submission.instruction with
  | migrate generation =>
      obtain rfl : generation = .v5 := by
        rw [hinstruction] at hlast
        exact hlast
      simp only [hinstruction, bind_eq_ok_iff, pure_eq_ok_iff] at hok
      obtain ⟨settled, hsettled, rfl⟩ := hok
      obtain ⟨origin, -, -, -, -, hwritten⟩ := migrateV5ToV6_inv hsettled
      obtain ⟨-, hlamports, hkept⟩ := writeV6_ok hwritten
      simp only [OnChain.settle, carryCost] at hlamports hkept ⊢
      omega
  | migrateV5ToV6WithSession session liveCounterparty =>
      simp only [hinstruction, bind_eq_ok_iff, pure_eq_ok_iff] at hok
      obtain ⟨⟨settled, created⟩, hsettled, rfl⟩ := hok
      obtain ⟨origin, carried, bump, hcarried⟩ :=
        migrateV5ToV6WithSession_inv hsettled
      obtain ⟨-, hlamports, hkept⟩ := writeV6_ok hcarried.written
      have hcovers := hcarried.covers
      have hspace : 8 + sessionAccount.space = sessionAccountSize := rfl
      simp only [OnChain.settle, carryCost, hspace] at hlamports hkept hcovers ⊢
      omega

/-- What has been paid: as long as the account grows, what it has gained; in the
end, what is left of it and the rent of a session account. -/
inductive Charged (rent : Rent) (start : OnChain) (landed : List Submission)
    (chain : OnChain) : Prop
  | growing (hopen : (stampOf chain.data).val < 6)
      (hle : start.lamports ≤ chain.lamports)
      (hpaid : chain.paid - start.paid = chain.lamports - start.lamports)
  | shrunk (last : Submission) (earlier : List Submission)
      (hlanded : landed = last :: earlier)
      (hsix : stampOf chain.data = vaultVersionV6)
      (hpaid : chain.paid - start.paid =
        rent v6Size - start.lamports + carryCost rent last.instruction)

theorem Charged.land {landed : List Submission}
    (hexempt : rent v6Size ≤ start.lamports)
    (hcharged : Charged rent start landed chain)
    (hok : land runtime rent vaultKey chain submission = .ok after) :
    Charged rent start (submission :: landed) after := by
  obtain ⟨hbefore, hraised, -⟩ := land_stamp hok
  cases hcharged with
  | shrunk _ _ _ hsix _ => exact absurd hsix (ne_six_of_stamp hbefore)
  | growing _ hle hpaid =>
      cases hnext : nextOf submission.instruction.generation with
      | some next =>
          obtain ⟨hstep, hgrows⟩ := paid_older hnext hok
          have hafter := stamp_lt_six next
          rw [stamp_next hnext, ← hbefore, ← hraised] at hafter
          exact .growing hafter (hle.trans hgrows) (by omega)
      | none =>
          have hlast := eq_v5_of_nextOf hnext
          have hstep := paid_last hlast hok
          obtain ⟨origin, -, -, -, harrived⟩ := land_last hlast hok
          exact .shrunk submission landed rfl harrived.stamp (by omega)

end Charges

/-! ## The session of the census -/

section Census

variable {data : Bytes} {origin : VaultV5Reader}

/-- The readers of the script, on any account that begins with the encoding of
an older layout. -/
theorem found_of_encoded (generation : Generation) (stored : generation.Value)
    (hfront : vaultDiscriminator ++ generation.layout.encode stored <+: data) :
    readPrefix data = some (prefixOf (generation.header stored)) ∧
      readActiveSession data
        (prefixOf (generation.header stored)).afterAuthority =
          some (sessionInfo (activeHead generation stored)) := by
  obtain ⟨slack, rfl⟩ := hfront
  have hencode : generation.layout.encode stored =
      vaultHeader.encode (generation.header stored) ++
        generation.tail.encode (generation.tailOf stored) := by
    conv_lhs => rw [← Equiv.apply_symm_apply generation.fields stored]
    exact Generation.encode_layout _ _
  have hsplit : vaultDiscriminator ++ generation.layout.encode stored ++ slack =
      vaultDiscriminator ++ (vaultHeader.encode (generation.header stored) ++
        (generation.tail.encode (generation.tailOf stored) ++ slack)) := by
    rw [hencode]
    simp only [List.append_assoc]
  rw [hsplit]
  refine ⟨readPrefix_header _ _, ?_⟩
  rw [← List.append_assoc]
  exact readActiveSession_of_beginsWith
    ((beginsWith_tail generation _).append slack) (List.length_append ..)

/-- The fields of a session that the census reads. -/
def headOf (session : SessionRegistration) : SessionHead :=
  ⟨session.expiresAt, session.allowedCounterparty⟩

theorem read_of_reading {generation : Generation}
    (hreading : readingOf data generation = some origin) :
    ∃ p, readPrefix data = some p ∧ readActiveSession data p.afterAuthority =
      some (sessionInfo (origin.activeSession.map headOf)) := by
  have hv3 (v3 : VaultV3)
      (hfront : vaultDiscriminator ++ vaultV3.encode v3 <+: data) :
      ∃ p, readPrefix data = some p ∧ readActiveSession data p.afterAuthority =
        some (sessionInfo ((atV5 v3).activeSession.map headOf)) := by
    obtain ⟨hfound, hsession⟩ := found_of_encoded .v3 v3 hfront
    refine ⟨_, hfound, hsession.trans ?_⟩
    rw [session_atV5, Option.map_map]
    rfl
  cases generation with
  | v2 =>
      obtain ⟨v3, rfl, -, hfront⟩ := readingOf_v2 hreading
      exact hv3 v3 hfront
  | v3 =>
      obtain ⟨v3, hread, rfl⟩ := Option.map_eq_some_iff.mp hreading
      exact hv3 v3 (prefix_of_readFrozen (toOption_eq_some_iff.mp hread))
  | v4 =>
      obtain ⟨v4, hread, rfl⟩ := Option.map_eq_some_iff.mp hreading
      obtain ⟨hfound, hsession⟩ := found_of_encoded .v4 v4
        (prefix_of_readFrozen (toOption_eq_some_iff.mp hread))
      exact ⟨_, hfound, hsession⟩
  | v5 =>
      obtain ⟨hfound, hsession⟩ := found_of_encoded .v5 origin
        (prefix_of_readFrozen (toOption_eq_some_iff.mp hreading))
      exact ⟨_, hfound, hsession⟩

theorem isLive_sessionInfo {now : I64} {session : Option SessionRegistration} :
    isLive now (some (sessionInfo (session.map headOf))) = true ↔
      ∃ found ∈ session, now < found.expiresAt := by
  cases session with
  | none => simp [isLive, sessionInfo]
  | some found => simp [isLive, sessionInfo, headOf]

/-- The estimate expects a live session exactly where the vault of the reading
has one. -/
theorem isLive_of_queued (planned : I64) {includeMismatch : Bool} {lamports : ℕ}
    {r : Rec} {generation : Generation}
    (hqueued : Queued includeMismatch data lamports r generation)
    (hreading : readingOf data generation = some origin) :
    isLive planned r.session = true ↔
      ∃ session ∈ origin.activeSession, planned < session.expiresAt := by
  obtain ⟨p, hfound, hsession⟩ := read_of_reading hreading
  rcases hqueued.session with hread | ⟨hnone, hzero⟩
  · rw [hread, readSession, hfound, Option.bind_some, hsession]
    exact isLive_sessionInfo
  · rw [hfound, Option.bind_some] at hzero
    have hempty : sessionInfo (origin.activeSession.map headOf) =
        ⟨false, none, none⟩ := by
      rw [readActiveSession, if_pos (by rw [hzero]; decide)] at hsession
      exact (Option.some.inj hsession).symm
    have hinactive : origin.activeSession = none := by
      have hsome := congrArg SessionInfo.some hempty
      simpa [sessionInfo] using hsome
    rw [hnone, hinactive]
    simp [isLive]

end Census

/-! ## The estimate is exact -/

/-- The last hop creates a session account exactly where the estimate has one. -/
theorem carryCost_eq {runtime : Runtime} {rent : Rent} {vaultKey : Pubkey}
    {origin : VaultV5Reader} {last : Submission} {chain : OnChain}
    {planned : I64} {live : Bool}
    (harrived : Arrived runtime vaultKey origin last chain)
    (hlive : live = true ↔
      ∃ session ∈ origin.activeSession, planned < session.expiresAt)
    (hsteady : ∀ session ∈ origin.activeSession, planned < session.expiresAt ↔
      last.context.unixTimestamp < session.expiresAt) :
    (carryCost rent last.instruction : ℤ) =
      if live then (rent sessionAccountSize : ℤ) else 0 := by
  cases harrived with
  | dropped hplain hexpired =>
      have hdead : ¬ live = true := by
        intro hon
        obtain ⟨session, hsession, hlater⟩ := hlive.mp hon
        have hle := I64.le_def.mp (hexpired session hsession)
        have hlt := I64.lt_def.mp ((hsteady session hsession).mp hlater)
        exact absurd hlt (not_lt_of_ge hle)
      rw [hplain, if_neg hdead]
      rfl
  | carried session _ _ hinstruction hactive hlater =>
      have hon : live = true :=
        hlive.mpr ⟨session, hactive, (hsteady session hactive).mpr hlater⟩
      rw [hinstruction, if_pos hon]
      rfl

/-- What the dry run estimates for an account it queues is what a finished walk
has done and what its payers have paid, as long as no session expires between
the estimate and the last hop; and it counts the fee of every transaction that
landed.  The address of the session is taken to hold no lamports before, and the
vault to receive none but those of its payers. -/
theorem plan_exact {runtime : Runtime} {rent : Rent} {vaultKey : Pubkey}
    {includeMismatch : Bool} {start : OnChain} {r : Rec} {planned : I64}
    {trace : List (Accepted World Event)} {world : World} (sigsPerTx : ℕ)
    (hwalkable : Walkable includeMismatch start.data start.lamports r)
    (hexempt : rent v6Size ≤ start.lamports)
    (hrun : Run (walk runtime rent vaultKey includeMismatch) ⟨start, .reading⟩
      trace world)
    (hverified : world.phase = .verified)
    (hsteady : ∀ origin ∈ destiny start.data,
      ∀ session ∈ origin.activeSession, ∀ submission ∈ landings trace,
        planned < session.expiresAt ↔
          submission.context.unixTimestamp < session.expiresAt) :
    (planVault r rent planned).hops.map (fun hop => hop.stamp.val) =
        hopsLanded trace ∧
      (planVault r rent planned).rentDelta = world.chain.paid - start.paid ∧
      (planVault r rent planned).fees sigsPerTx =
        (landings trace).length * lamportsPerSig * sigsPerTx := by
  obtain ⟨generation, hqueued⟩ := queued_of_walkable hwalkable
  obtain ⟨hhops, hdelta⟩ := planVault_eq rent planned
    hqueued.versionByte (hqueued.lamports.symm ▸ hexempt)
  have hsix := stamp_of_verified hrun hverified
  have hgeneration := generationOf_eq_some_iff.mpr hqueued.stamp
  have hlandings : (planVault r rent planned).hops.map
      (fun hop => hop.stamp.val) = hopsLanded trace := by
    rw [hhops, (hops_of_run hrun).2, hsix, hqueued.stamp]
    cases generation <;> rfl
  refine ⟨hlandings, ?_, ?_⟩
  · have hcharged : Charged rent start (landings trace) world.chain :=
      chain_invariant (Charged rent start)
        (.growing (hqueued.stamp ▸ stamp_lt_six generation) (Nat.le_refl _)
          (by omega))
        (fun _ _ _ _ hcharged hok => hcharged.land hexempt hok) hrun
    cases hcharged with
    | growing hopen =>
        rw [hsix] at hopen
        exact absurd hopen (by decide)
    | shrunk last earlier hlanded _ hpaid =>
        cases hdestiny : destiny start.data with
        | none =>
            have hunread : readingOf start.data generation = none := by
              rw [destiny, hgeneration, Option.bind_some] at hdestiny
              exact hdestiny
            have hstuck : Stuck includeMismatch start.data :=
              ⟨generation, hqueued.stamp, hqueued.sized, hunread⟩
            exact absurd hverified (hstuck.not_verified hrun)
        | some origin =>
            have hreading : readingOf start.data generation = some origin := by
              rw [destiny, hgeneration, Option.bind_some] at hdestiny
              exact hdestiny
            have hcost : (carryCost rent last.instruction : ℤ) =
                if isLive planned r.session then (rent sessionAccountSize : ℤ)
                else 0 := by
              have hlive := isLive_of_queued planned hqueued hreading
              obtain ⟨_, _, hfound, harrived⟩ :=
                (onTheWay_of_run hqueued.stamp hreading hrun).1.arrived_of_stamp
                  hsix
              obtain ⟨rfl, -⟩ := List.cons.inj (hlanded.symm.trans hfound)
              exact carryCost_eq harrived hlive
                fun session hsession => hsteady origin hdestiny session hsession
                  last (hlanded ▸ List.mem_cons_self)
            rw [hdelta, hpaid, hcost, hqueued.lamports]
  · have hcount := congrArg List.length hlandings
    rw [List.length_map, hopsLanded, List.length_reverse, List.length_map] at hcount
    rw [VaultPlan.fees, hcount]

/-! ## The estimate of a walk -/

section Examples

open Deployment

/-- An account with more than the rent it ends with, and a session that is
carried. -/
theorem plan_exact_sample : ∃ r,
    (planVault r sampleRent now).hops.map (fun hop => hop.stamp.val) =
        hopsLanded sampleWalk.2 ∧
      (planVault r sampleRent now).rentDelta =
        sampleWalk.1.chain.paid - sampleChain.paid ∧
      (planVault r sampleRent now).fees 1 =
        (landings sampleWalk.2).length * lamportsPerSig * 1 := by
  obtain ⟨r, hwalkable⟩ := sampleChain_walkable
  obtain ⟨hverified, hclock⟩ := sampleWalk_steps
  refine ⟨r, plan_exact 1 hwalkable (by decide) sampleWalk_run hverified ?_⟩
  intro origin _ session _ submission hsubmission
  rw [hclock submission hsubmission]

end Examples

end DexterVault.WalkCost
