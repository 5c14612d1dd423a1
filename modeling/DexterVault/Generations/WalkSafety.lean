import DexterVault.Core.Descent
import DexterVault.Generations.Landing

/-!
# What every walk keeps

However often the script sends, and whoever else does, every hop lands once and
in its turn, the account stays on the way to one vault, and what is left of an
earlier send has no effect.  A walk comes to an end after a few steps, and one
that is verified has arrived.
-/

namespace DexterVault.WalkSafety

open DexterVault.Machine
open DexterVault.Framing
open DexterVault.Accounts
open DexterVault.Execution
open DexterVault.Agreement
open DexterVault.Layouts
open DexterVault.Reading
open DexterVault.Hops
open DexterVault.Transition
open DexterVault.FleetWalk
open DexterVault.Landing
open DexterVault.Migration (upgradedVault)

/-! ## One step of script and chain -/

section Steps

variable {runtime : Runtime} {rent : Rent} {vaultKey : Pubkey}
  {includeMismatch : Bool}

/-- The transaction that lands in a step. -/
def landingOf : Event → Option Submission
  | .landed submission | .confirmed submission => some submission
  | _ => none

variable (runtime rent vaultKey includeMismatch) in
/-- Everything that one step can do. -/
inductive Moves (world : World) : Event → World → Prop
  | landed (submission : Submission) (chain : OnChain)
      (hland : land runtime rent vaultKey world.chain submission = .ok chain) :
      Moves world (.landed submission) { world with chain := chain }
  | looked (now : I64) (hphase : world.phase = .reading) :
      Moves world (.looked now) { world with
        phase := look runtime vaultKey includeMismatch now world.chain.data }
  | confirmed (submission : Submission) (version : Byte) (attempt : ℕ)
      (chain : OnChain)
      (hphase : world.phase =
        .sending version submission.instruction attempt)
      (hland : land runtime rent vaultKey world.chain submission = .ok chain) :
      Moves world (.confirmed submission) ⟨chain, .reading⟩
  | thrown (transient : Bool) (version : Byte) (instruction : MigrateIx)
      (attempt : ℕ)
      (hphase : world.phase = .sending version instruction attempt) :
      Moves world (.thrown transient) { world with
        phase := rethink world.chain.data version instruction attempt transient }
  | checked (hphase : world.phase = .verifying) :
      Moves world .checked { world with phase := verify world.chain.data }
  | interrupted (hverified : world.phase ≠ .verified)
      (hfailed : world.phase ≠ .failed) :
      Moves world .interrupted { world with phase := .failed }

theorem moves_of_advance {world next : World} {event : Event}
    (hok : advance runtime rent vaultKey includeMismatch world event = .ok next) :
    Moves runtime rent vaultKey includeMismatch world event next := by
  obtain ⟨chain, phase⟩ := world
  cases event with
  | landed submission =>
      simp only [advance, Bind.bind, Except.bind] at hok
      split at hok <;> cases hok
      next after hafter =>
      exact .landed submission after (mapError_eq_ok_iff.mp hafter)
  | looked now =>
      cases phase <;> cases hok
      exact .looked now rfl
  | confirmed submission =>
      cases phase with
      | sending version instruction attempt =>
          simp only [advance, Bind.bind, Except.bind] at hok
          split_ifs at hok with hsame
          split at hok <;> cases hok
          next after hafter =>
          subst hsame
          exact .confirmed submission version attempt after rfl
            (mapError_eq_ok_iff.mp hafter)
      | _ => cases hok
  | thrown transient =>
      cases phase <;> cases hok
      exact .thrown transient _ _ _ rfl
  | checked =>
      cases phase <;> cases hok
      exact .checked rfl
  | interrupted =>
      cases phase <;> cases hok <;> exact .interrupted nofun nofun

/-- The chain moves only when a transaction lands. -/
theorem Moves.chain {world next : World} {event : Event}
    (hmoves : Moves runtime rent vaultKey includeMismatch world event next) :
    (∃ submission, landingOf event = some submission ∧
      land runtime rent vaultKey world.chain submission = .ok next.chain) ∨
    landingOf event = none ∧ next.chain = world.chain := by
  cases hmoves with
  | landed submission chain hland => exact .inl ⟨submission, rfl, hland⟩
  | confirmed submission _ _ chain _ hland => exact .inl ⟨submission, rfl, hland⟩
  | _ => exact .inr ⟨rfl, rfl⟩

/-! ## Turns -/

/-- What the phase knows of the account: a send was made at a stamp the account
has had, and behind the loop the stamp is the last one. -/
def InTurn (world : World) : Prop :=
  match world.phase with
  | .sending version instruction attempt =>
      version = instruction.generation.stamp ∧
        version.val ≤ (stampOf world.chain.data).val ∧ attempt ≤ 2
  | .verifying | .verified => stampOf world.chain.data = vaultVersionV6
  | _ => True

theorem generation_of_instructionFor {now : I64} {data : Bytes}
    {generation : Generation} {instruction : MigrateIx}
    (hpicked : instructionFor runtime vaultKey now data generation =
      some instruction) : instruction.generation = generation := by
  cases generation with
  | v5 =>
      simp only [instructionFor, Option.bind_eq_bind,
        Option.bind_eq_some_iff] at hpicked
      obtain ⟨picked, -, hpicked⟩ := hpicked
      cases picked with
      | plain =>
          obtain rfl := Option.some.inj hpicked
          rfl
      | withSession counterparty =>
          obtain ⟨⟨session, _⟩, -, hsession⟩ := Option.bind_eq_some_iff.mp hpicked
          obtain rfl := Option.some.inj hsession
          rfl
  | _ =>
      obtain rfl := Option.some.inj hpicked
      rfl

variable (runtime vaultKey includeMismatch) in
/-- The three ways out of the top of the loop. -/
theorem look_cases (now : I64) (data : Bytes) :
    (stampOf data = vaultVersionV6 ∧
      look runtime vaultKey includeMismatch now data = .verifying) ∨
    look runtime vaultKey includeMismatch now data = .failed ∨
    ∃ instruction, stampOf data = instruction.generation.stamp ∧
      look runtime vaultKey includeMismatch now data =
        .sending (stampOf data) instruction 0 := by
  unfold look
  by_cases hsix : stampOf data = vaultVersionV6
  · rw [if_pos hsix]
    exact .inl ⟨hsix, rfl⟩
  rw [if_neg hsix]
  refine .inr ?_
  cases hgeneration : generationOf (stampOf data) with
  | none => exact .inl rfl
  | some generation =>
      by_cases hpasses : passesSize includeMismatch data
      · simp only [if_pos hpasses]
        cases hpicked : instructionFor runtime vaultKey now data generation with
        | none => exact .inl rfl
        | some instruction =>
            rw [generationOf_eq_some_iff] at hgeneration
            refine .inr ⟨instruction, ?_, rfl⟩
            rw [hgeneration, generation_of_instructionFor hpicked]
      · simp only [if_neg hpasses]
        exact .inl trivial

/-- The three ways on from an error. -/
theorem rethink_cases (data : Bytes) (version : Byte) (instruction : MigrateIx)
    (attempt : ℕ) (transient : Bool) :
    (version < stampOf data ∧
      rethink data version instruction attempt transient = .reading) ∨
    rethink data version instruction attempt transient = .failed ∨
    (¬ version < stampOf data ∧ attempt ≠ 2 ∧
      rethink data version instruction attempt transient =
        .sending version instruction (attempt + 1)) := by
  unfold rethink
  split_ifs with hgrown hgiven
  · exact .inl ⟨hgrown, rfl⟩
  · exact .inr (.inl rfl)
  · exact .inr (.inr ⟨hgrown, fun hlast => hgiven (.inr hlast), rfl⟩)

theorem verify_cases (data : Bytes) :
    (stampOf data = vaultVersionV6 ∧ verify data = .verified) ∨
      verify data = .failed := by
  unfold verify
  split_ifs with hdone
  · exact .inl ⟨hdone.1, rfl⟩
  · exact .inr rfl

/-- A transaction that lands leaves the last stamp out of reach. -/
theorem land_bounds {chain after : OnChain} {submission : Submission}
    (hok : land runtime rent vaultKey chain submission = .ok after) :
    (stampOf chain.data).val < 6 ∧
      (stampOf after.data).val = (stampOf chain.data).val + 1 := by
  obtain ⟨hbefore, hafter, -⟩ := land_stamp hok
  exact ⟨hbefore ▸ stamp_lt_six _, hafter⟩

theorem Moves.inTurn {world next : World} {event : Event}
    (hmoves : Moves runtime rent vaultKey includeMismatch world event next)
    (hturn : InTurn world) : InTurn next := by
  obtain ⟨chain, phase⟩ := world
  cases hmoves with
  | landed submission after hland =>
      have hraised : (stampOf after.data).val = (stampOf chain.data).val + 1 :=
        (land_bounds hland).2
      have hlast : stampOf chain.data ≠ vaultVersionV6 :=
        ne_six_of_stamp (land_stamp hland).1
      cases phase with
      | sending version instruction attempt =>
          obtain ⟨hstamp, hle, hattempt⟩ : version = instruction.generation.stamp ∧
            version.val ≤ (stampOf chain.data).val ∧ attempt ≤ 2 := hturn
          exact ⟨hstamp, hle.trans (hraised ▸ Nat.le_succ _), hattempt⟩
      | verifying => exact absurd hturn hlast
      | verified => exact absurd hturn hlast
      | _ => trivial
  | looked now hphase =>
      rcases look_cases runtime vaultKey includeMismatch now chain.data with
        ⟨hsix, hlook⟩ | hlook | ⟨instruction, hstamp, hlook⟩
      · simp only [hlook]
        exact hsix
      · simp only [hlook]
        trivial
      · simp only [hlook]
        exact ⟨hstamp, Nat.le_refl _, Nat.zero_le _⟩
  | confirmed => trivial
  | thrown transient version instruction attempt hphase =>
      obtain rfl : phase = .sending version instruction attempt := hphase
      obtain ⟨hstamp, hle, hattempt⟩ := hturn
      rcases rethink_cases chain.data version instruction attempt transient with
        ⟨-, hnext⟩ | hnext | ⟨-, hmore, hnext⟩
      · simp only [hnext]
        trivial
      · simp only [hnext]
        trivial
      · simp only [hnext]
        exact ⟨hstamp, hle, by omega⟩
  | checked hphase =>
      rcases verify_cases chain.data with ⟨hsix, hnext⟩ | hnext
      · simp only [hnext]
        exact hsix
      · simp only [hnext]
        trivial
  | interrupted => trivial

/-! ## The end of a walk -/

/-- Five steps for every hop that is still to come: a look, at most three sends
and one landing; and what is left to do after the last one. -/
def rank (world : World) : ℕ :=
  let left := 6 - (stampOf world.chain.data).val
  match world.phase with
  | .reading => 5 * left + 4
  | .sending version _ attempt =>
      if version = stampOf world.chain.data then 5 * left + (3 - attempt)
      else 5 * left + 5
  | .verifying => 5 * left + 1
  | .verified | .failed => 5 * left

theorem Moves.rank_lt {world next : World} {event : Event}
    (hmoves : Moves runtime rent vaultKey includeMismatch world event next)
    (hturn : InTurn world) : rank next < rank world := by
  obtain ⟨chain, phase⟩ := world
  cases hmoves with
  | landed submission after hland =>
      obtain ⟨hopen, hraised⟩ : (stampOf chain.data).val < 6 ∧
        (stampOf after.data).val = (stampOf chain.data).val + 1 :=
          land_bounds hland
      cases phase with
      | sending version instruction attempt =>
          obtain ⟨-, hle, hattempt⟩ := hturn
          have hstale : version ≠ stampOf after.data := by
            intro hsame
            rw [hsame] at hle
            simp only at hle
            omega
          simp only [rank, if_neg hstale]
          split_ifs <;> omega
      | _ =>
          simp only [rank]
          omega
  | looked now hphase =>
      obtain rfl : phase = .reading := hphase
      rcases look_cases runtime vaultKey includeMismatch now chain.data with
        ⟨hsix, hlook⟩ | hlook | ⟨instruction, hstamp, hlook⟩
      · simp only [rank, hlook]
        omega
      · simp only [rank, hlook]
        omega
      · simp only [rank, hlook, if_true]
        omega
  | confirmed submission version attempt after hphase hland =>
      obtain rfl : phase = .sending version submission.instruction attempt :=
        hphase
      obtain ⟨hopen, hraised⟩ : (stampOf chain.data).val < 6 ∧
        (stampOf after.data).val = (stampOf chain.data).val + 1 :=
          land_bounds hland
      simp only [rank]
      split_ifs <;> omega
  | thrown transient version instruction attempt hphase =>
      obtain rfl : phase = .sending version instruction attempt := hphase
      obtain ⟨-, hle, hattempt⟩ := hturn
      rcases rethink_cases chain.data version instruction attempt transient with
        ⟨hgrown, hnext⟩ | hnext | ⟨hsame, hmore, hnext⟩
      · simp only [rank, hnext, if_neg (Fin.ne_of_lt hgrown)]
        omega
      · simp only [rank, hnext]
        split_ifs <;> omega
      · have hfresh : version = stampOf chain.data :=
          Fin.ext (Nat.le_antisymm hle (Fin.not_lt.mp hsame))
        simp only [rank, hnext, if_pos hfresh]
        omega
  | checked hphase =>
      obtain rfl : phase = .verifying := hphase
      rcases verify_cases chain.data with ⟨-, hnext⟩ | hnext
      · simp only [rank, hnext]
        omega
      · simp only [rank, hnext]
        omega
  | interrupted hverified hfailed =>
      cases phase with
      | sending version instruction attempt =>
          obtain ⟨-, -, hattempt⟩ := hturn
          simp only [rank]
          split_ifs <;> omega
      | verified => exact absurd rfl hverified
      | failed => exact absurd rfl hfailed
      | _ =>
          simp only [rank]
          omega

end Steps

/-! ## Runs -/

/-- The transactions that landed, newest first. -/
def landings (trace : List (Accepted World Event)) : List Submission :=
  trace.filterMap fun accepted => landingOf accepted.call

/-- The stamps they landed on, oldest first. -/
def hopsLanded (trace : List (Accepted World Event)) : List ℕ :=
  ((landings trace).map fun submission =>
    submission.instruction.generation.stamp.val).reverse

/-- The account is still to be migrated to the vault of its reading, or has
been. -/
inductive OnTheWay (runtime : Runtime) (vaultKey : Pubkey)
    (origin : VaultV5Reader) (landed : List Submission) (chain : OnChain) : Prop
  | older (generation : Generation)
      (hstamp : stampOf chain.data = generation.stamp)
      (hreading : readingOf chain.data generation = some origin)
  | arrived (last : Submission) (earlier : List Submission)
      (hlanded : landed = last :: earlier)
      (harrived : Arrived runtime vaultKey origin last chain)

section Runs

variable {runtime : Runtime} {rent : Rent} {vaultKey : Pubkey}
  {includeMismatch : Bool} {start : OnChain}
  {trace : List (Accepted World Event)} {world : World}

theorem landings_cons {latest : Accepted World Event} {submission : Submission}
    (hlanding : landingOf latest.call = some submission) :
    landings (latest :: trace) = submission :: landings trace :=
  List.filterMap_cons_some hlanding

theorem landings_cons_none {latest : Accepted World Event}
    (hlanding : landingOf latest.call = none) :
    landings (latest :: trace) = landings trace :=
  List.filterMap_cons_none hlanding

/-- The rule for what lands: what holds at the start and is kept by every
transaction that lands holds at the end of a walk. -/
theorem chain_invariant {phase : Phase}
    (invariant : List Submission → OnChain → Prop) (hstart : invariant [] start)
    (hland : ∀ landed chain submission after, invariant landed chain →
      land runtime rent vaultKey chain submission = .ok after →
      invariant (submission :: landed) after)
    (hrun : Run (walk runtime rent vaultKey includeMismatch) ⟨start, phase⟩ trace
      world) : invariant (landings trace) world.chain := by
  induction hrun with
  | start => exact hstart
  | accept hrun hstep ih =>
      rcases (moves_of_advance hstep).chain with
        ⟨submission, hlanding, hlanded⟩ | ⟨hlanding, hsame⟩
      · rw [landings_cons hlanding]
        exact hland _ _ _ _ ih hlanded
      · rw [landings_cons_none hlanding, hsame]
        exact ih
  | refuse _ _ ih => exact ih
  | environment _ hmove _ => exact hmove.elim

theorem OnTheWay.land {origin : VaultV5Reader} {landed : List Submission}
    {chain after : OnChain} {submission : Submission}
    (hway : OnTheWay runtime vaultKey origin landed chain)
    (hok : land runtime rent vaultKey chain submission = .ok after) :
    OnTheWay runtime vaultKey origin (submission :: landed) after ∧
      submission.dexterAuthority = origin.dexterAuthority := by
  have hbefore := (land_stamp hok).1
  cases hway with
  | arrived last earlier _ harrived =>
      exact absurd harrived.stamp (ne_six_of_stamp hbefore)
  | older generation hstamp hreading =>
      obtain rfl : generation = submission.instruction.generation :=
        stamp_injective (hstamp.symm.trans hbefore)
      cases hnext : nextOf submission.instruction.generation with
      | some next =>
          obtain ⟨settled, hsettled, rfl⟩ := land_older hnext hok
          obtain ⟨hafter, hrecorded⟩ := hopOf_reading hnext hsettled hreading
          have hstamp := (hopOf_stamp hnext hsettled).2.2
          exact ⟨.older next hstamp hafter, hrecorded.symm⟩
      | none =>
          have hlast := eq_v5_of_nextOf hnext
          rw [hlast] at hreading
          obtain ⟨found, hfound, -, hrecorded, harrived⟩ := land_last hlast hok
          obtain rfl := Option.some.inj (hreading.symm.trans hfound)
          exact ⟨.arrived submission landed rfl harrived, hrecorded.symm⟩

theorem OnTheWay.arrived_of_stamp {origin : VaultV5Reader}
    {landed : List Submission} {chain : OnChain}
    (hway : OnTheWay runtime vaultKey origin landed chain)
    (hsix : stampOf chain.data = vaultVersionV6) :
    ∃ last earlier, landed = last :: earlier ∧
      Arrived runtime vaultKey origin last chain := by
  cases hway with
  | arrived last earlier hlanded harrived =>
      exact ⟨last, earlier, hlanded, harrived⟩
  | older generation hstamp => exact absurd hsix (ne_six_of_stamp hstamp)

theorem onTheWay_of_run {origin : VaultV5Reader} {generation : Generation}
    {phase : Phase} (hstamp : stampOf start.data = generation.stamp)
    (hreading : readingOf start.data generation = some origin)
    (hrun : Run (walk runtime rent vaultKey includeMismatch) ⟨start, phase⟩ trace
      world) :
    OnTheWay runtime vaultKey origin (landings trace) world.chain ∧
      ∀ submission ∈ landings trace,
        submission.dexterAuthority = origin.dexterAuthority ∧
          submission.dexterAuthority ∈ submission.context.signers := by
  refine chain_invariant (fun landed chain =>
    OnTheWay runtime vaultKey origin landed chain ∧ ∀ submission ∈ landed,
      submission.dexterAuthority = origin.dexterAuthority ∧
        submission.dexterAuthority ∈ submission.context.signers) ?_ ?_ hrun
  · exact ⟨.older generation hstamp hreading, by simp⟩
  · rintro landed chain submission after ⟨hway, hsigned⟩ hok
    obtain ⟨hafter, hrecorded⟩ := hway.land hok
    exact ⟨hafter, List.forall_mem_cons.mpr
      ⟨⟨hrecorded, (land_stamp hok).2.2⟩, hsigned⟩⟩

theorem inTurn_of_run
    (hrun : Run (walk runtime rent vaultKey includeMismatch) ⟨start, .reading⟩
      trace world) : InTurn world := by
  refine Run.invariant InTurn ?_ ?_ ?_ hrun
  · trivial
  · intro before event after hturn hstep
    exact (moves_of_advance hstep).inTurn hturn
  · intro before after _ hmove
    exact hmove.elim

theorem stamp_of_verified
    (hrun : Run (walk runtime rent vaultKey includeMismatch) ⟨start, .reading⟩
      trace world) (hverified : world.phase = .verified) :
    stampOf world.chain.data = vaultVersionV6 := by
  have hturn := inTurn_of_run hrun
  rw [InTurn, hverified] at hturn
  exact hturn

/-- Every hop from the first stamp to the last one has landed, each of them
once. -/
theorem hops_of_run {phase : Phase}
    (hrun : Run (walk runtime rent vaultKey includeMismatch) ⟨start, phase⟩ trace
      world) :
    (stampOf start.data).val ≤ (stampOf world.chain.data).val ∧
      hopsLanded trace = List.range' (stampOf start.data).val
        ((stampOf world.chain.data).val - (stampOf start.data).val) := by
  refine chain_invariant (fun landed chain =>
    (stampOf start.data).val ≤ (stampOf chain.data).val ∧
      (landed.map fun submission =>
        submission.instruction.generation.stamp.val).reverse =
        List.range' (stampOf start.data).val
          ((stampOf chain.data).val - (stampOf start.data).val)) ?_ ?_ hrun
  · simp
  · rintro landed chain submission after ⟨hle, hhops⟩ hok
    obtain ⟨hbefore, hraised, -⟩ := land_stamp hok
    have hlength : (stampOf after.data).val - (stampOf start.data).val =
        ((stampOf chain.data).val - (stampOf start.data).val) + 1 := by omega
    refine ⟨by omega, ?_⟩
    rw [List.map_cons, List.reverse_cons, hhops, hlength, List.range'_concat,
      ← hbefore, Nat.one_mul, Nat.add_sub_cancel' hle]

theorem length_le_of_run
    (hrun : Run (walk runtime rent vaultKey includeMismatch) ⟨start, .reading⟩
      trace world) :
    trace.length ≤ 5 * (6 - (stampOf start.data).val) + 4 := by
  have hbound := hrun.length_add_rank_le rank
    (fun _ _ _ _ hbefore hstep =>
      (moves_of_advance hstep).rank_lt (inTurn_of_run hbefore))
    (fun _ _ hmove => hmove.elim)
  exact (Nat.le_add_right _ _).trans hbound

/-- A send whose stamp the account has left behind is refused for good. -/
theorem refused_of_stale {chain : OnChain} {submission : Submission}
    (hstale : submission.instruction.generation.stamp ≠ stampOf chain.data) :
    ∃ error, land runtime rent vaultKey chain submission = .error error := by
  cases hresult : land runtime rent vaultKey chain submission with
  | error error => exact ⟨error, rfl⟩
  | ok after => exact absurd (land_stamp hresult).1.symm hstale

/-- What holds after every run of the walk, from an account that is on its way
to the vault of `origin`. -/
structure Safe (runtime : Runtime) (rent : Rent) (vaultKey : Pubkey)
    (origin : VaultV5Reader) (start : OnChain)
    (trace : List (Accepted World Event)) (world : World) : Prop where
  onTheWay : OnTheWay runtime vaultKey origin (landings trace) world.chain
  inOrder : hopsLanded trace = List.range' (stampOf start.data).val
    ((stampOf world.chain.data).val - (stampOf start.data).val)
  signed : ∀ submission ∈ landings trace,
    submission.dexterAuthority = origin.dexterAuthority ∧
      submission.dexterAuthority ∈ submission.context.signers
  short : trace.length ≤ 5 * (6 - (stampOf start.data).val) + 4
  verified : world.phase = .verified →
    ∃ last earlier, landings trace = last :: earlier ∧
      Arrived runtime vaultKey origin last world.chain
  stale : ∀ version instruction attempt,
    world.phase = .sending version instruction attempt →
    version ≠ stampOf world.chain.data → ∀ submission : Submission,
      submission.instruction = instruction → ∃ error,
        land runtime rent vaultKey world.chain submission = .error error

/-- The walk is safe in every order of its own steps, of the migrations of
others, of lost confirmations and of interruptions.  The first hop out of V2
changes the stamp alone, so an account of V2 is read as one of V3. -/
theorem walk_safe {origin : VaultV5Reader} {generation : Generation}
    (hstamp : stampOf start.data = generation.stamp)
    (hreading : readingOf start.data generation = some origin)
    (hrun : Run (walk runtime rent vaultKey includeMismatch) ⟨start, .reading⟩
      trace world) : Safe runtime rent vaultKey origin start trace world := by
  obtain ⟨hway, hsigned⟩ := onTheWay_of_run hstamp hreading hrun
  have hturn := inTurn_of_run hrun
  refine ⟨hway, (hops_of_run hrun).2, hsigned, length_le_of_run hrun, ?_, ?_⟩
  · exact fun hverified => hway.arrived_of_stamp (stamp_of_verified hrun hverified)
  · rintro version _ attempt hsending hstale submission rfl
    rw [InTurn, hsending] at hturn
    exact refused_of_stale (hturn.1 ▸ hstale)

end Runs

/-! ## A walk with a lost confirmation -/

section Examples

open Deployment
open Chain

/-- The account of the sample vault in the layout of V3, with a live session. -/
def sampleChain : OnChain where
  data := sampleAccount.data
  lamports := sampleAccount.lamports
  sessionData _ := none
  paid := 0

def sampleSubmission (instruction : MigrateIx) : Submission where
  instruction := instruction
  context := plainContext [authority] now
  dexterAuthority := authority
  payer := authority
  payerLamports := 1000

/-- The first hop lands twice as a send and once on the chain. -/
def sampleEvents : List Event :=
  [.looked now, .landed (sampleSubmission (.migrate .v3)), .thrown true,
    .landed (sampleSubmission (.migrate .v3)), .looked now,
    .confirmed (sampleSubmission (.migrate .v4)), .looked now,
    .confirmed (sampleSubmission
      (.migrateV5ToV6WithSession sellerSession seller)),
    .looked now, .checked]

def sampleWalk : World × List (Accepted World Event) :=
  execute (walk sampleRuntime sampleRent Deployment.vaultKey false)
    ⟨sampleChain, .reading⟩ [] sampleEvents

theorem sampleChain_reading :
    readingOf sampleChain.data .v3 = some (atV5 sampleVault) := by
  have hread : (readFrozen vaultV3 vaultVersionV3
      sampleAccount.data).toOption = some sampleVault :=
    toOption_eq_some_iff.mpr ((readFrozen_eq_ok_iff
      (stamped_vaultV3 sampleVault)).mpr sampleAccount_image.encoded)
  simp only [readingOf, sampleChain, hread, Option.map_some]

theorem sampleChain_stamp : stampOf sampleChain.data = Generation.v3.stamp := by
  have hfront : vaultDiscriminator ++ vaultVersionV3 ::
      (vaultV3.encode sampleVault).tail <+: sampleChain.data :=
    sampleAccount_image.encoded
  exact stampOf_of_front hfront

theorem sampleWalk_run :
    Run (walk sampleRuntime sampleRent Deployment.vaultKey false)
      ⟨sampleChain, .reading⟩ sampleWalk.2 sampleWalk.1 :=
  Run.execute .start sampleEvents

theorem sampleWalk_steps : sampleWalk.1.phase = .verified ∧
    ∀ submission ∈ landings sampleWalk.2,
      submission.context.unixTimestamp = now := by
  decide +kernel

theorem walk_safe_sample :
    sampleWalk.1.phase = .verified ∧
      Safe sampleRuntime sampleRent Deployment.vaultKey (atV5 sampleVault)
        sampleChain sampleWalk.2 sampleWalk.1 :=
  ⟨sampleWalk_steps.1,
    walk_safe sampleChain_stamp sampleChain_reading sampleWalk_run⟩

end Examples

end DexterVault.WalkSafety
