import DexterVault.Generations.Landing
import DexterVault.Generations.LegacyImages
import DexterVault.Program.Storage

/-!
# Vaults of every layout side by side

The accounts of the program are the buffers they are kept in, of whatever
generation.  A call sees in them what the framework reads under the current
layout, so a vault with an older stamp is one more vault to it, which its version
guard admits or refuses.  The migrations take the accounts whose layout is
another one, the two without a version included, and work on the buffer itself.
-/

namespace DexterVault.Population

open DexterVault.Machine
open DexterVault.Framing
open DexterVault.Borsh
open DexterVault.Accounts
open DexterVault.Execution
open DexterVault.Transition
open DexterVault.Agreement
open DexterVault.Backing
open DexterVault.Layouts
open DexterVault.Reading
open DexterVault.Hops
open DexterVault.Landing
open DexterVault.Legacy
open DexterVault.LegacyImages
open DexterVault.FleetWalk (hopOf v6Size)
open DexterVault.Migration (upgradedVault MigrateV5ToV6
  MigrateV5ToV6WithSession MigrateV5ToV6WithSessionArgs)
open DexterVault.Program
open DexterVault.Storage

/-! ## Moves -/

/-- The lamports of the vault account and of the payer of a migration. -/
structure Purse where
  lamports : ℕ
  payerLamports : ℕ
  deriving DecidableEq

/-- One instruction.  The two calls that read a V5 image out of a typed account
find none here; on buffers they are the last two hops. -/
inductive Move
  | call (call : Call)
  | migrate (generation : Generation) (context : Context)
      (accounts : MigrateV5ToV6) (purse : Purse)
  | migrateV5ToV6WithSession (context : Context)
      (accounts : MigrateV5ToV6WithSession)
      (args : MigrateV5ToV6WithSessionArgs) (purse : Purse)
  | migrateLegacyToV6 (context : Context) (accounts : MigrateLegacyToV6)
      (purse : Purse)
  deriving DecidableEq

/-- Every account that the call declares can be read, unless none stands there
yet. -/
def Readable (storage : Buffers) (call : Call) : Prop :=
  ∀ key ∈ Locks.writable call, ∀ data ∈ storage.buffers.lookup key,
    (readAccount data).isSome

instance (storage : Buffers) (call : Call) : Decidable (Readable storage call) :=
  inferInstanceAs (Decidable (∀ key ∈ Locks.writable call,
    ∀ data ∈ storage.buffers.lookup key, (readAccount data).isSome))

/-- An account of the program, `owner = crate::ID`, with what it is worth. -/
def fetch (storage : Buffers) (key : Pubkey) (purse : Purse) : Result Funded := do
  let data ← okOr (storage.buffers.lookup key) RuntimeError.constraintOwner
  return ⟨data, purse.lamports, purse.payerLamports⟩

def put (storage : Buffers) (key : Pubkey) (data : Bytes) : Buffers :=
  { storage with buffers := storage.buffers.insert key data }

def advance (runtime : Runtime) (rent : Rent) (storage : Buffers) :
    Move → Result Buffers
  | .call call => do
      require (Readable storage call) RuntimeError.accountDidNotDeserialize
      storageStep runtime storage call
  | .migrate generation context accounts purse => do
      let account ← fetch storage accounts.vault purse
      let after ← hopOf generation rent context accounts account
      return put storage accounts.vault after.data
  | .migrateV5ToV6WithSession context accounts args purse => do
      let account ← fetch storage accounts.vault purse
      let (after, created) ← migrateV5ToV6WithSession runtime rent context
        accounts args (storage.buffers.lookup accounts.session) account
      return put (put storage accounts.session created) accounts.vault after.data
  | .migrateLegacyToV6 context accounts purse => do
      let account ← fetch storage accounts.vault purse
      let after ← migrateLegacyToV6 rent context accounts account
      return put storage accounts.vault after.data

/-- Tokens move without the program. -/
def population (runtime : Runtime) (rent : Rent) :
    System Buffers Move ProgramError where
  step := advance runtime rent
  environment before after := after.buffers = before.buffers

/-! ## What a move does -/

section Moves

variable {runtime : Runtime} {rent : Rent} {storage after : Buffers}
  {key : Pubkey} {data : Bytes} {purse : Purse}

theorem fetch_eq_ok_iff {account : Funded} :
    fetch storage key purse = .ok account ↔
      storage.buffers.lookup key = some account.data ∧
        account.lamports = purse.lamports ∧
        account.payerLamports = purse.payerLamports := by
  simp only [fetch, bind_eq_ok_iff, okOr_eq_ok_iff, pure_eq_ok_iff]
  constructor
  · rintro ⟨data, hdata, rfl⟩
    exact ⟨hdata, rfl, rfl⟩
  · obtain ⟨data, lamports, payerLamports⟩ := account
    rintro ⟨hdata, hlamports, hpayer⟩
    exact ⟨data, hdata, by rw [← hlamports, ← hpayer]⟩

@[simp]
theorem lookup_put_self :
    (put storage key data).buffers.lookup key = some data :=
  Finmap.lookup_insert _

theorem lookup_put_of_ne {other : Pubkey} (hother : other ≠ key) :
    (put storage key data).buffers.lookup other = storage.buffers.lookup other :=
  Finmap.lookup_insert_of_ne _ hother

/-- What an accepted call has read and written. -/
structure Called (runtime : Runtime) (storage after : Buffers) (call : Call)
    (next : State) : Prop where
  readable : Readable storage call
  stepped : step runtime (view storage) call = .ok next
  saved : save accountFormat next.accounts storage.buffers
    (Locks.writable call) = some after.buffers

theorem advance_call_ok {call : Call}
    (hok : advance runtime rent storage (.call call) = .ok after) :
    ∃ next, Called runtime storage after call next := by
  simp only [advance, bind_eq_ok_iff, require_eq_ok_iff] at hok
  obtain ⟨_, hreadable, hstep⟩ := hok
  rw [storageStep, keptStep, bind_eq_ok_iff] at hstep
  obtain ⟨next, hnext, hsave⟩ := hstep
  split at hsave
  · next buffers hbuffers =>
    cases hsave
    exact ⟨next, hreadable, hnext, hbuffers⟩
  · cases hsave

end Moves

/-! ## What a migration keeps -/

section Migrations

variable {rent : Rent} {context : Context} {account after : Funded}
  {header : VaultHeader} {data : Bytes}

/-- The account begins with the header. -/
def Begins (header : VaultHeader) (data : Bytes) : Prop :=
  vaultDiscriminator ++ vaultHeader.encode header <+: data

theorem Begins.of_prefix {rest : Bytes}
    (hfront : vaultDiscriminator ++ (vaultHeader.encode header ++ rest) <+: data) :
    Begins header data := by
  rw [← List.append_assoc] at hfront
  exact (List.prefix_append _ _).trans hfront

/-- Another stamp on the header. -/
def stamped (version : U8) (header : VaultHeader) : VaultHeader :=
  { header with version := version }

theorem Begins.set_stamp {version : U8} (hbegins : Begins header data) :
    Begins (stamped version header) (data.set 8 version) := by
  obtain ⟨slack, rfl⟩ := hbegins
  exact ⟨slack, rfl⟩

/-- A hop leaves an account of at least the current size whose header differs in
the stamp only. -/
theorem hopOf_begins {generation : Generation} {accounts : MigrateV5ToV6}
    (hok : hopOf generation rent context accounts account = .ok after) :
    v6Size ≤ after.data.length ∧ ∃ header version,
      Begins header account.data ∧
        Begins (stamped version header) after.data := by
  have hspace : 8 + vault.space = v6Size := rfl
  cases generation with
  | v2 =>
      obtain ⟨header, grown, hread, -, -, hgrown, rfl⟩ := migrateV2ToV3_inv hok
      obtain ⟨hsize, hfronts, -⟩ := growTo_ok hgrown
      have hbegins : Begins header account.data := prefix_of_readFrozen hread
      refine ⟨?_, header, _, hbegins, Begins.set_stamp (hfronts _ hbegins)⟩
      rw [List.length_set, hsize, hspace]
      exact Nat.le_max_right _ _
  | v3 =>
      obtain ⟨v3, grown, hread, -, -, hgrown, hfits, rfl⟩ := migrateUp_ok hok
      refine ⟨?_, (vaultV3Fields.symm v3).1, vaultVersionV4,
        Begins.of_prefix (prefix_of_readFrozen hread),
        Begins.of_prefix (List.prefix_append _ _)⟩
      rw [length_overwrite hfits, (growTo_ok hgrown).1]
      exact (by decide : v6Size ≤ 8 + vaultV4Frozen.space).trans
        (Nat.le_max_right _ _)
  | v4 =>
      obtain ⟨v4, grown, hread, -, -, hgrown, hfits, rfl⟩ := migrateUp_ok hok
      refine ⟨?_, (vaultV4Fields.symm v4).1, vaultVersionV5,
        Begins.of_prefix (prefix_of_readFrozen hread),
        Begins.of_prefix (List.prefix_append _ _)⟩
      rw [length_overwrite hfits, (growTo_ok hgrown).1]
      exact (by decide : v6Size ≤ 8 + vaultV5Frozen.space).trans
        (Nat.le_max_right _ _)
  | v5 =>
      obtain ⟨v5, hread, -, -, -, hwritten⟩ := migrateV5ToV6_inv hok
      have himage := (writeV6_ok hwritten).1
      have hfront := prefix_of_readFrozen (toOption_eq_some_iff.mp hread)
      exact ⟨himage.size.ge, (vaultV5ReaderFields.symm v5).1, vaultVersionV6,
        Begins.of_prefix hfront, Begins.of_prefix himage.encoded⟩

theorem migrateV5ToV6WithSession_begins {runtime : Runtime}
    {accounts : MigrateV5ToV6WithSession} {args : MigrateV5ToV6WithSessionArgs}
    {sessionData : Option Bytes} {created : Bytes}
    (hok : migrateV5ToV6WithSession runtime rent context accounts args
      sessionData account = .ok (after, created)) :
    sessionAccountDiscriminator <+: created ∧
      v6Size ≤ after.data.length ∧ ∃ header version,
        Begins header account.data ∧
          Begins (stamped version header) after.data := by
  obtain ⟨v5, _, _, hcarried⟩ := migrateV5ToV6WithSession_inv hok
  have himage := (writeV6_ok hcarried.written).1
  have hfront := prefix_of_readFrozen (toOption_eq_some_iff.mp hcarried.read)
  exact ⟨hcarried.created ▸ List.prefix_append _ _, himage.size.ge,
    (vaultV5ReaderFields.symm v5).1, vaultVersionV6,
    Begins.of_prefix hfront, Begins.of_prefix himage.encoded⟩

theorem migrateLegacyToV6_image {accounts : MigrateLegacyToV6}
    (hok : migrateLegacyToV6 rent context accounts account = .ok after) :
    ∃ legacy v6, IsLegacyImage legacy account.data ∧
      IsImage vault v6 after.data ∧ v6.swigAddress = legacy.swigAddress := by
  simp only [migrateLegacyToV6, bind_eq_ok_iff, require_eq_ok_iff,
    pure_eq_ok_iff] at hok
  obtain ⟨_, -, _, -, legacy, hlegacy, authority, -, image, himage, _, -, _, -,
    rfl⟩ := hok
  obtain ⟨written, v6, hwritten, hholds, hcarried⟩ :=
    encodeV6Image_ok legacy authority
  obtain rfl := Except.ok.inj (himage.symm.trans hwritten)
  refine ⟨legacy, v6, decodeLegacyVault_eq_ok_iff.mp hlegacy, ⟨?_, ?_⟩,
    hcarried.swig⟩
  · rw [length_overwrite (length_resize _ _).ge, length_resize]
    exact hholds.size
  · exact hholds.encoded.trans (List.prefix_append _ _)

end Migrations

/-! ## Accounts of the current layout among themselves -/

section Current

variable {runtime : Runtime} {storage : Buffers}

theorem readable_of_sound (hsound : Sound accountFormat storage.buffers)
    (call : Call) : Readable storage call := by
  intro key _ data hdata
  obtain ⟨account, hstored⟩ := hsound key data hdata
  rw [hstored.read]
  rfl

/-- Where every buffer holds an account of the current layout, the program over
typed accounts runs the same calls to the same accounts. -/
theorem run_forth (rent : Rent) {start : Buffers}
    (hsound : Sound accountFormat start.buffers) {trace : Trace} {state : State}
    (hrun : Run (system runtime) (view start) trace state) :
    ∃ moves storage, Run (population runtime rent) start moves storage ∧
      moves.map Accepted.call = trace.map (Move.call ∘ Accepted.call) ∧
      view storage = state ∧ Sound accountFormat storage.buffers := by
  induction hrun with
  | start => exact ⟨[], start, .start, rfl, rfl, hsound⟩
  | @accept trace state next call hrun hstep ih =>
      obtain ⟨moves, storage, hreached, hcalls, rfl, hsoundNow⟩ := ih
      obtain ⟨after, hafter, hview, hsoundAfter⟩ := (suited runtime).keptStep_ok
        RuntimeError.accountDidNotSerialize hsoundNow hstep
      have hadvance :
          (population runtime rent).step storage (.call call) = .ok after := by
        simp only [population, advance, bind_eq_ok_iff, require_eq_ok_iff]
        exact ⟨(), readable_of_sound hsoundNow call, hafter⟩
      refine ⟨_, after, hreached.accept hadvance, ?_, hview, hsoundAfter⟩
      rw [List.map_cons, List.map_cons, hcalls]
      rfl
  | refuse _ _ ih => exact ih
  | @environment trace state next hrun hmove ih =>
      obtain ⟨moves, storage, hreached, hcalls, rfl, hsoundNow⟩ := ih
      have hsame : next.accounts = (view storage).accounts :=
        (suited runtime).environment _ next hmove fun key record hrecord =>
          hsoundNow.storable hrecord
      refine ⟨moves, ⟨storage.buffers, next.tokens⟩, hreached.environment rfl,
        hcalls, ?_, hsoundNow⟩
      obtain ⟨accounts, tokens⟩ := next
      cases hsame
      rfl

end Current

end DexterVault.Population
