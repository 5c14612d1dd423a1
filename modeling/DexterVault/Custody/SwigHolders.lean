import DexterVault.Accounting.SwigBinding
import DexterVault.Generations.Population

/-!
# Which vault a swig answers to

A vault account holds a swig in whatever layout it is, and may drive it while it
is still in an older one.  As long as no move gives a vault a swig that another
vault account holds, every swig answers to one vault, and the checks of a call
that drives it are the checks of that vault.
-/

namespace DexterVault.SwigHolders

open DexterVault.Framing
open DexterVault.Borsh
open DexterVault.Borsh.Codec
open DexterVault.Accounts
open DexterVault.Execution
open DexterVault.Transition
open DexterVault.Holding
open DexterVault.Backing
open DexterVault.Layouts
open DexterVault.Hops
open DexterVault.Legacy
open DexterVault.LegacyImages
open DexterVault.FleetWalk (v6Size)
open DexterVault.Program
open DexterVault.Storage
open DexterVault.SwigBinding (Bound Authorised)
open DexterVault.Population

/-! ## The swig in an account -/

/-- The swig of a vault account, read at an offset. -/
def swigIn (start : ℕ) (data : Bytes) : Option Pubkey :=
  if data.take 8 = vaultDiscriminator then
    ((array 32).decode (data.drop start)).map Prod.fst
  else
    none

/-- Behind the version, the bump and the passkey. -/
def swigOffset : ℕ := 43

/-- The two layouts without a version begin with the bump. -/
def legacySwigOffset : ℕ := 42

/-- The lengths tell the layouts without a version from the others. -/
def swigOfData (data : Bytes) : Option Pubkey :=
  if data.length = legacyV1Len ∨ data.length = legacyV15Len then
    swigIn legacySwigOffset data
  else
    swigIn swigOffset data

/-- The swig that a vault account holds, in whatever layout. -/
def heldSwig (storage : Buffers) (vaultKey : Pubkey) : Option Pubkey :=
  (storage.buffers.lookup vaultKey).bind swigOfData

/-- What a migration reads as the swig of the vault. -/
def carriedSwig (storage : Buffers) (start : ℕ) (vaultKey : Pubkey) :
    Option (Pubkey × Pubkey) :=
  ((storage.buffers.lookup vaultKey).bind (swigIn start)).map (vaultKey, ·)

/-- The vault to which a move gives a swig: the one it binds or migrates. -/
def takenSwig (storage : Buffers) : Move → Option (Pubkey × Pubkey)
  | .call call => call.boundSwig
  | .migrate _ _ accounts _ => carriedSwig storage swigOffset accounts.vault
  | .migrateV5ToV6WithSession _ accounts _ _ =>
      carriedSwig storage swigOffset accounts.vault
  | .migrateLegacyToV6 _ accounts _ =>
      carriedSwig storage legacySwigOffset accounts.vault

/-- A vault that is bound or migrated gets a swig that no other vault account
holds. -/
def BindsUnclaimed : Accepted Buffers Move → Prop :=
  TakesUnclaimed Bound heldSwig takenSwig

section Decisions

variable {storage : Buffers} {vaultKey swig : Pubkey}

theorem mem_keys_of_heldSwig (hheld : heldSwig storage vaultKey = some swig) :
    vaultKey ∈ storage.buffers.keys := by
  obtain ⟨data, hdata, -⟩ := Option.bind_eq_some_iff.mp hheld
  exact Finmap.mem_keys.mpr (Finmap.mem_of_lookup_eq_some hdata)

theorem unclaimed_iff : Unclaimed (heldSwig storage) vaultKey swig ↔
    ∀ other ∈ storage.buffers.keys, heldSwig storage other = some swig →
      other = vaultKey := by
  refine ⟨fun hunclaimed other _ => hunclaimed other, fun hkeys other hheld => ?_⟩
  exact hkeys other (mem_keys_of_heldSwig hheld) hheld

theorem unshared_iff : Unshared Bound (heldSwig storage) ↔
    ∀ left ∈ storage.buffers.keys, ∀ swig ∈ heldSwig storage left, Bound swig →
      Unclaimed (heldSwig storage) left swig := by
  constructor
  · intro hunshared left _ swig hleft hbound right hright
    exact hunshared right left swig hbound hright hleft
  · intro hkeys left right swig hbound hleft hright
    exact (hkeys left (mem_keys_of_heldSwig hleft) swig hleft hbound right
      hright).symm

instance : Decidable (Unclaimed (heldSwig storage) vaultKey swig) :=
  decidable_of_iff _ unclaimed_iff.symm

instance : Decidable (Unshared Bound (heldSwig storage)) :=
  decidable_of_iff _ unshared_iff.symm

instance : DecidablePred BindsUnclaimed := fun accepted =>
  inferInstanceAs (Decidable
    (∀ pair ∈ takenSwig accepted.before accepted.call, _ → _))

end Decisions

section Readings

variable {data : Bytes} {header : VaultHeader} {swig : Pubkey}

theorem swigIn_append {start : ℕ} {front rest : Bytes}
    (hdiscriminator : vaultDiscriminator <+: front)
    (hlength : front.length = start) :
    swigIn start (front ++ ((array 32).encode swig ++ rest)) = some swig := by
  obtain ⟨fields, rfl⟩ := hdiscriminator
  have hfront : (vaultDiscriminator ++ fields ++
      ((array 32).encode swig ++ rest)).take 8 = vaultDiscriminator := by
    rw [List.append_assoc]
    exact List.take_left' rfl
  rw [swigIn, if_pos hfront, List.drop_left' hlength, decode_encode_append]
  rfl

theorem swigIn_of_begins (hbegins : Begins header data) :
    swigIn swigOffset data = some header.swigAddress := by
  obtain ⟨slack, rfl⟩ := hbegins
  let front := vaultDiscriminator ++ (u8.encode header.version ++
    (u8.encode header.bump ++ (array 33).encode header.passkeyPubkey))
  have hfront : front.length = swigOffset := by
    simp [front, swigOffset, vaultDiscriminator]
  have hswig := @swigIn_append header.swigAddress swigOffset front
    ((u32.prod (u32.prod (pendingWithdrawal.option.prod
      ((array 32).prod (array 32))))).encode (header.coolingOffSeconds,
        header.pendingVoucherCount, header.pendingWithdrawal,
        header.identityClaim, header.dexterAuthority) ++ slack)
    (List.prefix_append _ _) hfront
  simpa [front, vaultHeader, encode_prod] using hswig

/-- An account that is longer than the layouts without a version. -/
theorem swigOfData_of_begins (hlong : legacyV15Len < data.length)
    (hbegins : Begins header data) :
    swigOfData data = some header.swigAddress := by
  have hlengths : legacyV1Len < legacyV15Len := by decide
  have hversioned :
      ¬ (data.length = legacyV1Len ∨ data.length = legacyV15Len) := by
    omega
  rw [swigOfData, if_neg hversioned, swigIn_of_begins hbegins]

/-- No account of the layouts without a version is read as a current vault. -/
theorem long_of_encoded {vault : Vault}
    (hfront : vaultDiscriminator ++ Layouts.vault.encode vault <+: data) :
    legacyV15Len < data.length := by
  have hheader := length_encode_header (vaultFields.symm vault).1
  have hle := hfront.length_le
  have hcredit (credit : CreditLine) : 18 ≤ (creditLine.encode credit).length := by
    obtain ⟨borrowed, standbyBacker, standbyCap, borrowRecoveryAt⟩ := credit
    cases standbyBacker <;> cases borrowRecoveryAt <;> simp [creditLine]
  have htail := hcredit (vaultFields.symm vault).2.2.2
  have hlengths : legacyV15Len = 183 ∧ vaultDiscriminator.length = 8 := ⟨rfl, rfl⟩
  rw [Layouts.vault, encode_equiv, encode_prod, encode_prod, encode_prod] at hle
  simp only [List.length_append, length_encode_lockOdometers] at hle
  omega

theorem swigOfData_of_encoded {vault : Vault}
    (hfront : vaultDiscriminator ++ Layouts.vault.encode vault <+: data) :
    swigOfData data = some vault.swigAddress := by
  have hbegins : Begins (vaultFields.symm vault).1 data := Begins.of_prefix hfront
  exact swigOfData_of_begins (long_of_encoded hfront) hbegins

theorem swigOfData_of_other {other : Bytes} (hother : other ≠ vaultDiscriminator)
    (hlength : other.length = 8) (hfront : other <+: data) :
    swigOfData data = none := by
  obtain ⟨rest, rfl⟩ := hfront
  have htake : (other ++ rest).take 8 ≠ vaultDiscriminator := by
    rwa [List.take_left' hlength]
  rw [swigOfData, swigIn, swigIn, if_neg htake, if_neg htake, ite_self]

/-- An account of the current layouts holds the swig of the vault it is, if it
is one. -/
theorem swigOfData_of_front {account : Account}
    (hcurrent : account.vaultV5? = none)
    (hfront : (kindOf account).discriminator ++ encodeAccount account <+: data) :
    swigOfData data = account.vault?.map Vault.swigAddress := by
  have hdiscriminators : sessionAccountDiscriminator ≠ vaultDiscriminator ∧
      lockedClaimDiscriminator ≠ vaultDiscriminator ∧
      standbyBackerDiscriminator ≠ vaultDiscriminator := by decide
  obtain ⟨hsession, hclaim, hbacker⟩ := hdiscriminators
  cases account with
  | vaultV5 image => cases hcurrent
  | vault vault => exact swigOfData_of_encoded hfront
  | session session =>
      exact swigOfData_of_other hsession rfl
        ((List.prefix_append _ _).trans hfront)
  | claim claim =>
      exact swigOfData_of_other hclaim rfl
        ((List.prefix_append _ _).trans hfront)
  | standbyBacker backer =>
      exact swigOfData_of_other hbacker rfl
        ((List.prefix_append _ _).trans hfront)

theorem readAccount_front {account : Account}
    (hread : readAccount data = some account) : account.vaultV5? = none ∧
      (kindOf account).discriminator ++ encodeAccount account <+: data := by
  simp only [readAccount, Option.bind_eq_bind, Option.bind_eq_some_iff,
    Option.pure_def, Option.some.injEq, Kind.at?_eq_some_iff] at hread
  obtain ⟨kind, hkind, ⟨value, rest⟩, hdecode, rfl⟩ := hread
  rw [kind.layout.decode_eq_some_iff] at hdecode
  have hdata : data = kind.discriminator ++ kind.layout.encode value ++ rest := by
    rw [List.append_assoc, ← hdecode, ← hkind, List.take_append_drop]
  cases kind <;> exact ⟨rfl, rest, hdata.symm⟩

theorem writeAccount_front {account : Account} {next : Bytes}
    (hwrite : writeAccount account data = some next) :
    (kindOf account).discriminator ++ encodeAccount account <+: next := by
  simp only [writeAccount, Option.ite_none_right_eq_some,
    Option.some.injEq] at hwrite
  obtain ⟨-, rfl⟩ := hwrite
  exact List.prefix_append _ _

end Readings

/-! ## What a move gives to a vault -/

section Steps

variable {runtime : Runtime} {rent : Rent} {storage after : Buffers}
  {key swig : Pubkey}

theorem lookup_view : (view storage).accounts.lookup key =
    (storage.buffers.lookup key).bind readAccount := lookup_readAll _ _ _

/-- No buffer is read as a typed V5 image. -/
theorem image_view : (view storage).vaultV5? key = none := by
  cases hread : (view storage).accounts.lookup key with
  | none => exact State.view_of_lookup_none hread
  | some account =>
      have hfound := hread
      rw [lookup_view] at hfound
      obtain ⟨data, -, haccount⟩ := Option.bind_eq_some_iff.mp hfound
      exact (State.view_of_lookup hread).trans (readAccount_front haccount).1

theorem heldSwig_of_view (hheld : SwigBinding.swigOf (view storage) key = some swig) :
    heldSwig storage key = some swig := by
  obtain ⟨vault, hvault, rfl⟩ := SwigBinding.swigOf_eq_some_iff.mp hheld
  have hlookup := State.lookup_of_vault? hvault
  rw [lookup_view] at hlookup
  obtain ⟨data, hdata, hread⟩ := Option.bind_eq_some_iff.mp hlookup
  obtain ⟨hcurrent, hfront⟩ := readAccount_front hread
  rw [heldSwig, hdata, Option.bind_some, swigOfData_of_front hcurrent hfront]
  rfl

/-- A call gives a swig to the vault it binds and to no other. -/
theorem call_moves {call : Call} {next : State}
    (hcalled : Called runtime storage after call next) :
    Moves Bound (heldSwig storage) (heldSwig after) call.boundSwig := by
  intro key swig hbound hheld
  by_cases hkey : key ∈ Locks.writable call
  case neg =>
    rw [heldSwig, lookup_save_of_notMem hcalled.saved hkey] at hheld
    exact .inl hheld
  -- the vault as the handler left it
  have hwritten : SwigBinding.swigOf next key = some swig := by
    cases hnext : next.accounts.lookup key with
    | none =>
        rw [heldSwig, lookup_save_of_none hcalled.saved hkey hnext] at hheld
        cases hheld
    | some account =>
        obtain ⟨_, buffer, hwrite, hbuffer⟩ :=
          lookup_save_of_some hcalled.saved hkey hnext
        have hcurrent : account.vaultV5? = none :=
          (State.view_of_lookup hnext).symm.trans
            (step_images hcalled.stepped key image_view)
        rw [heldSwig, hbuffer, Option.bind_some,
          swigOfData_of_front hcurrent (writeAccount_front hwrite),
          Option.map_eq_some_iff] at hheld
        obtain ⟨vault, hvault, rfl⟩ := hheld
        exact SwigBinding.swigOf_eq_some_iff.mpr
          ⟨vault, (State.view_of_lookup hnext).trans hvault, rfl⟩
  rcases SwigBinding.swigs_step hcalled.stepped key swig hbound hwritten with
    hbefore | htaken
  · exact .inl (heldSwig_of_view hbefore)
  · refine .inr ?_
    cases hcall : call.boundSwig with
    | some bound => rwa [SwigBinding.takenSwig, hcall] at htaken
    | none =>
        rw [SwigBinding.takenSwig, hcall] at htaken
        obtain ⟨vaultKey, -, himage⟩ := Option.bind_eq_some_iff.mp htaken
        rw [image_view] at himage
        cases himage

/-- A migrated vault holds what the migration reads. -/
theorem put_moves {data : Bytes} {carried : Pubkey}
    (hheld : swigOfData data = some carried)
    {taken : Option (Pubkey × Pubkey)} (htaken : taken = some (key, carried)) :
    Moves Bound (heldSwig storage) (heldSwig (put storage key data)) taken := by
  intro other swig _ hother
  by_cases hsame : other = key
  · subst hsame
    rw [heldSwig, lookup_put_self, Option.bind_some, hheld] at hother
    cases hother
    exact .inr htaken
  · rw [heldSwig, lookup_put_of_ne hsame] at hother
    exact .inl hother

theorem carriedSwig_of_begins {data : Bytes} {header : VaultHeader}
    (hdata : storage.buffers.lookup key = some data)
    (hbegins : Begins header data) :
    carriedSwig storage swigOffset key = some (key, header.swigAddress) := by
  rw [carriedSwig, hdata, Option.bind_some, swigIn_of_begins hbegins,
    Option.map_some]

theorem swigIn_legacy {legacy : LegacyVaultDecoded} {data : Bytes}
    (himage : IsLegacyImage legacy data) :
    swigIn legacySwigOffset data = some legacy.swigAddress := by
  obtain ⟨slack, rfl⟩ := himage.encoded
  let front := vaultDiscriminator ++
    (u8.encode legacy.bump ++ (array 33).encode legacy.passkeyPubkey)
  have hfront : front.length = legacySwigOffset := by
    simp [front, legacySwigOffset, vaultDiscriminator]
  have hswig := @swigIn_append legacy.swigAddress legacySwigOffset front
    (i64.encode legacy.coolingOffSeconds ++
      (u32.encode legacy.pendingVoucherCount ++
        (pendingWithdrawal.option.encode legacy.pendingWithdrawal ++
          (encodeBack legacy ++ slack))))
    (List.prefix_append _ _) hfront
  simpa [front, encodeLegacy, encodeFront] using hswig

/-- The step lemma. -/
theorem swigs_advance {move : Move}
    (hok : advance runtime rent storage move = .ok after) :
    Moves Bound (heldSwig storage) (heldSwig after) (takenSwig storage move) := by
  have hlong : legacyV15Len < v6Size := by decide
  cases move with
  | call call =>
      obtain ⟨next, hcalled⟩ := advance_call_ok hok
      exact call_moves hcalled
  | migrate generation context accounts purse =>
      simp only [advance, bind_eq_ok_iff, fetch_eq_ok_iff, pure_eq_ok_iff] at hok
      obtain ⟨account, ⟨hdata, -⟩, written, hhop, rfl⟩ := hok
      obtain ⟨hsize, header, version, hbefore, hafter⟩ := hopOf_begins hhop
      have hcarried := carriedSwig_of_begins hdata hbefore
      exact put_moves (swigOfData_of_begins (hlong.trans_le hsize) hafter) hcarried
  | migrateV5ToV6WithSession context accounts args purse =>
      simp only [advance, bind_eq_ok_iff, fetch_eq_ok_iff, pure_eq_ok_iff] at hok
      obtain ⟨account, ⟨hdata, -⟩, ⟨written, created⟩, hhop, rfl⟩ := hok
      obtain ⟨hcreated, hsize, header, version, hbefore, hafter⟩ :=
        migrateV5ToV6WithSession_begins hhop
      have hcarried := carriedSwig_of_begins hdata hbefore
      refine (put_moves (swigOfData_of_begins (hlong.trans_le hsize) hafter)
        hcarried).of_before fun other swig hother => ?_
      by_cases hsession : other = accounts.session
      · subst hsession
        rw [heldSwig, lookup_put_self, Option.bind_some,
          swigOfData_of_other (by decide) rfl hcreated] at hother
        cases hother
      · rwa [heldSwig, lookup_put_of_ne hsession] at hother
  | migrateLegacyToV6 context accounts purse =>
      simp only [advance, bind_eq_ok_iff, fetch_eq_ok_iff, pure_eq_ok_iff] at hok
      obtain ⟨account, ⟨hdata, -⟩, written, hmigrated, rfl⟩ := hok
      obtain ⟨legacy, v6, hlegacy, himage, hswig⟩ :=
        migrateLegacyToV6_image hmigrated
      refine put_moves (swigOfData_of_encoded himage.encoded) ?_
      rw [takenSwig, carriedSwig, hdata, Option.bind_some, swigIn_legacy hlegacy,
        hswig, Option.map_some]

end Steps

theorem tracked (runtime : Runtime) (rent : Rent) :
    Tracked Bound (population runtime rent) heldSwig takenSwig where
  step _ _ _ := swigs_advance
  environment before after hmove := by
    funext key
    rw [heldSwig, hmove, heldSwig]

/-! ## The calls after which a swig pays -/

/-- A call that drives a swig names a vault that holds it, in a layout that the
guard of the call admits, and no other vault does; that vault has authorised the
call. -/
def Isolated (runtime : Runtime) (accepted : Accepted Buffers Move) : Prop :=
  ∀ call, accepted.call = .call call → ∀ driven ∈ call.exit,
    heldSwig accepted.before driven.vault = some driven.swig ∧
    (Bound driven.swig →
      Unclaimed (heldSwig accepted.before) driven.vault driven.swig) ∧
    Authorised runtime (view accepted.before) call

/-- In a run that starts with no swig shared and gives no vault a swig that
another vault account holds, no swig is shared in any state, and each swig pays
only after calls that the one vault holding it authorised. -/
theorem swigs_isolated {runtime : Runtime} {rent : Rent} {start storage : Buffers}
    {trace : List (Accepted Buffers Move)}
    (hstart : Unshared Bound (heldSwig start))
    (hrun : Run (population runtime rent) start trace storage)
    (hbinds : Guarded (fun _ => BindsUnclaimed) trace) :
    Unshared Bound (heldSwig storage) ∧
      ∀ accepted ∈ trace, Isolated runtime accepted := by
  have htracked := tracked runtime rent
  refine ⟨htracked.unshared_run hstart hrun hbinds,
    hrun.forall_accepted (Isolated runtime) ?_ hbinds⟩
  rintro earlier before move after hreached hearlier - hstep call rfl driven hexit
  have hadvance : advance runtime rent before (.call call) = .ok after := hstep
  obtain ⟨next, hcalled⟩ := advance_call_ok hadvance
  obtain ⟨hview, hauthorised⟩ :=
    SwigBinding.exit_authorised hexit hcalled.stepped
  have hheld := heldSwig_of_view hview
  refine ⟨hheld, fun hbound other hother => ?_, hauthorised⟩
  exact htracked.unshared_run hstart hreached hearlier other driven.vault
    driven.swig hbound hother hheld

/-! ## A population of three layouts -/

section Examples

open Deployment
open DexterVault.Setup

/-- A vault of V5 with a withdrawal that is due. -/
def dueVault : VaultV5Reader where
  version := vaultVersionV5
  bump := 255
  passkeyPubkey := passkey
  swigAddress := swig
  coolingOffSeconds := 0
  pendingVoucherCount := 0
  pendingWithdrawal := some (withdrawalScope Deployment.now).pending
  identityClaim := Deployment.identityClaim
  dexterAuthority := authority
  activeSession := none
  outstandingLockedAmount := 0
  totalCrystallizedAmount := 0
  totalSettledAmount := 0
  borrowed := 0
  standbyBacker := none
  standbyCap := 0
  borrowRecoveryAt := none

/-- A vault without a version, bound to a swig of its own. -/
def boundRelic : LegacyVaultDecoded := { relic with swigAddress := filled 84 }

def relicVault : Pubkey := filled 40

/-- Both of them, and the tokens of the first one's wallet. -/
def mixed : Buffers where
  buffers :=
    (Finmap.singleton Deployment.vaultKey (resize 399
      (vaultDiscriminator ++ vaultV5Reader.encode dueVault))).insert relicVault
        (resize legacyV1Len (vaultDiscriminator ++ encodeLegacy boundRelic))
  rest := funded.tokens

def migrateRelic : Move :=
  .migrateLegacyToV6 (plainContext [legacyMigrateAdmin, authority] Deployment.now)
    ⟨relicVault, legacyMigrateAdmin, authority⟩ ⟨2000, 2000⟩

def migrateDue : Move :=
  .migrate .v5 (plainContext [authority] Deployment.now)
    ⟨Deployment.vaultKey, authority, authority⟩ ⟨3000, 0⟩

/-- A third vault is bound to a third swig. -/
def bindApart : Call :=
  .setSwig (passkeyContext rivalPasskey (setSwigMessage (filled 85)) []
    Deployment.now) rivalVault
    ⟨assertion (setSwigMessage (filled 85)), filled 85⟩

/-- The V5 vault pays its withdrawal, both vaults are migrated, and a new vault
is bound. -/
def mixedMoves : List Move :=
  [.call (finalizeAt Deployment.now), migrateDue, migrateRelic,
    .call createRival, .call bindApart]

/-- Ten lamports a byte. -/
def sampleRent : Rent := fun size => 10 * size

def afterMixed : Buffers × List (Accepted Buffers Move) :=
  Transition.execute (population sampleRuntime sampleRent) mixed [] mixedMoves

theorem mixed_run :
    Run (population sampleRuntime sampleRent) mixed afterMixed.2 afterMixed.1 :=
  Run.execute .start mixedMoves

theorem swigs_isolated_mixed :
    afterMixed.2.map Accepted.call = mixedMoves.reverse ∧
      Unshared Bound (heldSwig afterMixed.1) ∧
      ∀ accepted ∈ afterMixed.2, Isolated sampleRuntime accepted :=
  ⟨by decide +kernel,
    swigs_isolated (by decide +kernel) mixed_run (by decide +kernel)⟩

/-! ## A swig of two vaults -/

def rivalBoundTrace : Trace :=
  [⟨rivalCreated, bindRival, rivalBound⟩, ⟨bound, createRival, rivalCreated⟩] ++
    boundTrace

theorem rivalBound_run :
    Run (system sampleRuntime) funded rivalBoundTrace rivalBound := by
  obtain ⟨hcreate, hbind⟩ := rival_steps
  have hcreated : Run (system sampleRuntime) funded
      (⟨bound, createRival, rivalCreated⟩ :: boundTrace) rivalCreated :=
    bound_run.accept hcreate
  exact hcreated.accept hbind

/-- From no account at all, a second vault with another passkey is bound to the
swig of the first. -/
theorem swig_bound_twice : ∃ trace storage,
    Run (population sampleRuntime sampleRent) ⟨∅, funded.tokens⟩ trace storage ∧
      trace.map Accepted.call = [.call bindRival, .call createRival,
        .call bindSwig, .call createVault] ∧
      heldSwig storage Deployment.vaultKey = some Deployment.swig ∧
      heldSwig storage rivalVault = some Deployment.swig ∧
      ¬ Unshared Bound (heldSwig storage) := by
  have hsound : Sound accountFormat
      (⟨∅, funded.tokens⟩ : Buffers).buffers := sound_vacant
  have hview : view ⟨∅, funded.tokens⟩ = funded :=
    congrArg (fun state => State.mk state.accounts funded.tokens) view_vacant
  have hrun := rivalBound_run
  rw [← hview] at hrun
  obtain ⟨trace, storage, hreached, hcalls, hstate, -⟩ :=
    run_forth sampleRent hsound hrun
  have hleft : heldSwig storage Deployment.vaultKey = some Deployment.swig := by
    apply heldSwig_of_view
    rw [hstate]
    decide +kernel
  have hright : heldSwig storage rivalVault = some Deployment.swig := by
    apply heldSwig_of_view
    rw [hstate]
    decide +kernel
  refine ⟨trace, storage, hreached, hcalls, hleft, hright, fun hunshared => ?_⟩
  have hsame := hunshared _ _ _ (by decide) hleft hright
  exact absurd hsame (by decide)

end Examples

end DexterVault.SwigHolders
