import DexterVault.Program.Change

/-!
# Where the accounts of the program stand

Every account is created at an address derived from the constant of its kind:
a vault from its identity, a session from its vault and counterparty, a claim
from its vault and voucher hash, a ledger from its financier.  The constants
differ from their first two bytes on, so no address is of two kinds.
-/

namespace DexterVault.Addresses

open DexterVault.Machine
open DexterVault.Framing
open DexterVault.Accounts
open DexterVault.Execution
open DexterVault.Setup
open DexterVault.Withdrawal
open DexterVault.Session
open DexterVault.Gate
open DexterVault.Voucher
open DexterVault.Claim
open DexterVault.Credit
open DexterVault.Migration
open DexterVault.Program

/-! ## Kinds of addresses -/

inductive Site
  | vault
  | session
  | claim
  | ledger
  deriving DecidableEq

namespace Site

/-- The constant that the seeds of a kind start with. -/
def seed : Site → Bytes
  | .vault => vaultSeed
  | .session => sessionSeed
  | .claim => lockedClaimSeed
  | .ledger => standbyBackerSeed

theorem two_le_length_seed (site : Site) : 2 ≤ site.seed.length := by
  cases site <;> decide

theorem take_seed_injective {left right : Site}
    (hsame : left.seed.take 2 = right.seed.take 2) : left = right := by
  cases left <;> cases right <;> first | rfl | exact absurd hsame (by decide)

/-- The key is an address of the program, derived from the constant of the
kind. -/
def At (runtime : Runtime) (site : Site) (key : Pubkey) : Prop :=
  ∃ seeds, runtime.createProgramAddress (site.seed :: seeds) programId =
    some key

variable {runtime : Runtime} {key : Pubkey}

theorem At.of_find {site : Site} {seeds : List Bytes} {bump : U8}
    (hfind : runtime.findProgramAddress (site.seed :: seeds) programId =
      some (key, bump)) : site.At runtime key :=
  ⟨_, Runtime.create_of_find hfind⟩

theorem At.of_sessionAddress {vault counterparty : Pubkey} {bump : U8}
    (haddress : SessionAddress runtime vault counterparty bump key) :
    Site.session.At runtime key :=
  ⟨_, haddress⟩

/-- No address is of two kinds. -/
theorem At.unique (hfree : runtime.CollisionFree) {left right : Site}
    (hleft : left.At runtime key) (hright : right.At runtime key) :
    left = right := by
  obtain ⟨leftSeeds, hleft⟩ := hleft
  obtain ⟨rightSeeds, hright⟩ := hright
  have hseeds := congrArg (List.take 2) (hfree _ _ _ _ _ hleft hright).1
  rw [List.flatten_cons, List.flatten_cons,
    List.take_append_of_le_length left.two_le_length_seed,
    List.take_append_of_le_length right.two_le_length_seed] at hseeds
  exact take_seed_injective hseeds

end Site

/-! ## Occupied addresses -/

def Occupied (state : State) (key : Pubkey) : Prop :=
  state.accounts.lookup key ≠ none

section Occupied

variable {state : State} {key other : Pubkey} {account : Account} {Data : Type}
  {read : Account → Option Data} {data : Data}

theorem occupied_of_view (hview : state.view read key = some data) :
    Occupied state key := by
  intro hvacant
  rw [State.view_of_lookup_none hvacant] at hview
  cases hview

theorem occupied_write :
    Occupied (state.write key account) other ↔
      other = key ∨ Occupied state other := by
  by_cases hkey : other = key
  · subst hkey
    simp [Occupied, State.write, Finmap.lookup_insert]
  · simp [Occupied, State.write, Finmap.lookup_insert_of_ne _ hkey, hkey]

theorem occupied_of_close (hoccupied : Occupied (state.close key) other) :
    Occupied state other := by
  intro hvacant
  apply hoccupied
  by_cases hkey : other = key
  · subst hkey
    exact Finmap.lookup_erase _ _
  · exact (Finmap.lookup_erase_ne hkey).trans hvacant

end Occupied

/-! ## Where a call may create an account -/

/-- Why an account stands at `key` after a call: one did before, the call locks
a voucher there, or the address is not of the kind of a claim. -/
inductive Standing (runtime : Runtime) (before : State) (call : Call)
    (key : Pubkey) : Prop
  | kept (hoccupied : Occupied before key)
  | locked (accounts : LockVoucher) (hcall : call.lock = some accounts)
      (hkey : accounts.claim = key)
  | site (site : Site) (hclaim : site ≠ .claim) (hat : site.At runtime key)

section Steps

variable {runtime : Runtime} {before middle after : State} {call : Call}
  {key : Pubkey}

/-- One more write, at a key where an account may stand. -/
theorem standing_write {account : Account}
    (hmiddle : ∀ other, Occupied middle other →
      Standing runtime before call other)
    (hkey : Standing runtime before call key) (other : Pubkey)
    (hoccupied : Occupied (middle.write key account) other) :
    Standing runtime before call other := by
  rcases occupied_write.mp hoccupied with rfl | hoccupied
  · exact hkey
  · exact hmiddle other hoccupied

/-- A write to an account that was found. -/
theorem standing_overwrite {account : Account} {Data : Type}
    {read : Account → Option Data} {data : Data}
    (hmiddle : ∀ other, Occupied middle other →
      Standing runtime before call other)
    (hfound : before.view read key = some data) (other : Pubkey)
    (hoccupied : Occupied (middle.write key account) other) :
    Standing runtime before call other :=
  standing_write hmiddle (.kept (occupied_of_view hfound)) other hoccupied

theorem standing_self (other : Pubkey) (hoccupied : Occupied before other) :
    Standing runtime before call other :=
  .kept hoccupied

theorem initializeVault_site {context : Context} {accounts : InitializeVault}
    {args : InitializeVaultArgs}
    (hok : initializeVault runtime context accounts args before = .ok after) :
    Site.vault.At runtime accounts.vault := by
  simp only [initializeVault, bind_eq_ok_iff, requireCanonical_eq_ok_iff]
    at hok
  obtain ⟨_, _, bump, hcanonical, -⟩ := hok
  exact .of_find hcanonical

/-- An accepted lock creates its claim at the address of the voucher hash. -/
theorem lockVoucher_canonical {context : Context} {accounts : LockVoucher}
    {args : LockVoucherArgs}
    (hok : lockVoucher runtime context accounts args before = .ok after) :
    ∃ bump, runtime.findProgramAddress
      (claimSeeds accounts.vault args.voucherHash) programId =
        some (accounts.claim, bump) := by
  simp only [lockVoucher, bind_eq_ok_iff, requireCanonical_eq_ok_iff] at hok
  obtain ⟨_, -, _, -, _, -, _, -, _, -, _, -, bump, hcanonical, -⟩ := hok
  exact ⟨bump, hcanonical⟩

/-- The gate writes to the siblings it finds. -/
theorem gateLoop_occupied {vaultKey sessionKey : Pubkey} {now : I64}
    {accts : List AccountMeta} {gate final : Gate}
    (hok : accts.foldlM (gateStep runtime vaultKey sessionKey now) gate =
      .ok final) (hoccupied : Occupied final.state key) :
    Occupied gate.state key := by
  induction accts generalizing gate with
  | nil =>
      rw [List.foldlM_nil, pure_eq_ok_iff] at hok
      rwa [hok]
  | cons acct accts ih =>
      rw [List.foldlM_cons, bind_eq_ok_iff] at hok
      obtain ⟨middle, hstep, hrest⟩ := hok
      have hmiddle := ih hrest
      obtain ⟨-, -, session, hsibling, hcase⟩ := gateStep_ok hstep
      rcases hcase with ⟨-, -, -, -, hstate⟩ | ⟨-, -, -, -, -, hstate⟩
      · rwa [hstate] at hmiddle
      · rw [hstate, occupied_write] at hmiddle
        rcases hmiddle with rfl | hmiddle
        · exact occupied_of_view hsibling.sessionAt
        · exact hmiddle

theorem registerSessionKey_standing {context : Context}
    {accounts : RegisterSessionKey} {args : RegisterSessionKeyArgs}
    (hok : registerSessionKey runtime context accounts args before = .ok after)
    (hoccupied : Occupied after key) : Standing runtime before call key := by
  obtain ⟨vault, ata, session, bump, gate, count, hregistered, hgate, -, rfl⟩ :=
    registerSessionKey_gate hok
  have hsite : Standing runtime before call accounts.session :=
    .site .session (by decide) (.of_find hregistered.canonical)
  have hswept : ∀ other, Occupied gate.state other →
      Standing runtime before call other :=
    fun other hoccupied => .kept (gateLoop_occupied hgate hoccupied)
  exact standing_overwrite (standing_write hswept hsite) hregistered.vaultAt key
    hoccupied

/-- Where an account stands after a call, there was one before, or the call
created it: one case for each instruction. -/
theorem step_standing (hok : step runtime before call = .ok after)
    (hoccupied : Occupied after key) : Standing runtime before call key := by
  cases call with
  | initializeVault =>
      have hat := initializeVault_site hok
      obtain ⟨-, bump, rfl⟩ := initializeVault_ok hok
      exact standing_write standing_self (.site .vault (by decide) hat) key
        hoccupied
  | setSwig =>
      obtain ⟨vault, hvault, -, rfl⟩ := setSwig_ok hok
      exact standing_overwrite standing_self hvault key hoccupied
  | setSwigAtomic =>
      obtain ⟨vault, hvault, -, rfl⟩ := setSwigAtomic_ok hok
      exact standing_overwrite standing_self hvault key hoccupied
  | settleVoucher _ _ args =>
      rcases settleVoucher_ok hok with ⟨hclose, -⟩ |
        ⟨-, vault, sessionKey, session, newOutstanding, hopened, rfl⟩
      · obtain ⟨vault, hvault, -, rfl⟩ := settleVoucher_closed hok hclose
        exact standing_overwrite standing_self hvault key hoccupied
      · exact standing_overwrite
          (standing_overwrite standing_self hopened.sessionAt) hopened.vaultAt
          key hoccupied
  | requestWithdrawal =>
      obtain ⟨vault, hrequested, rfl⟩ := requestWithdrawal_ok hok
      exact standing_overwrite standing_self hrequested.vaultAt key hoccupied
  | finalizeWithdrawal =>
      obtain ⟨vault, pending, ata, hfinalized, rfl⟩ := finalizeWithdrawal_ok hok
      exact standing_overwrite standing_self hfinalized.vaultAt key hoccupied
  | forceRelease =>
      obtain ⟨vault, pending, hreleased, rfl⟩ := forceRelease_ok hok
      exact standing_overwrite standing_self hreleased.vaultAt key hoccupied
  | rotatePasskey =>
      obtain ⟨vault, hvault, -, rfl⟩ := rotatePasskey_ok hok
      exact standing_overwrite standing_self hvault key hoccupied
  | rotateDexterAuthority =>
      obtain ⟨vault, hvault, rfl⟩ := rotateDexterAuthority_ok hok
      exact standing_overwrite standing_self hvault key hoccupied
  | provePasskey =>
      obtain rfl := provePasskey_unchanged hok
      exact .kept hoccupied
  | registerSessionKey => exact registerSessionKey_standing hok hoccupied
  | revokeSessionKey =>
      obtain ⟨vault, session, count, hrevoked, -, rfl⟩ := revokeSessionKey_ok hok
      exact standing_overwrite
        (standing_overwrite standing_self hrevoked.sessionAt) hrevoked.vaultAt
        key hoccupied
  | settleTabVoucher =>
      obtain ⟨vault, account, increment, hsettled, rfl⟩ := settleTabVoucher_ok hok
      exact standing_overwrite
        (standing_overwrite standing_self hsettled.admitted.sessionAt)
        hsettled.vaultAt key hoccupied
  | migrateV5ToV6 =>
      obtain ⟨v5, himage, rfl⟩ := migrateV5ToV6_ok hok
      exact standing_overwrite standing_self himage key hoccupied
  | migrateV5ToV6WithSession =>
      obtain ⟨v5, carried, bump, hmigrated, rfl⟩ :=
        migrateV5ToV6WithSession_ok hok
      have hat : Site.session.At runtime _ := .of_find hmigrated.canonical
      exact standing_overwrite
        (standing_write standing_self (.site .session (by decide) hat))
        hmigrated.imageAt key hoccupied
  | lockVoucher context accounts args =>
      obtain ⟨vault, account, ata, delta, outstanding, claimBump, hlocked, rfl⟩ :=
        lockVoucher_ok hok
      exact standing_overwrite
        (standing_overwrite
          (standing_write standing_self (.locked accounts rfl rfl))
          hlocked.admitted.sessionAt)
        hlocked.vaultAt key hoccupied
  | transferLockOwnership =>
      obtain ⟨claim, hclaim, -, rfl⟩ := transferLockOwnership_ok hok
      exact standing_overwrite standing_self hclaim key hoccupied
  | settleLockedVoucher =>
      obtain ⟨vault, claim, hsettled, rfl⟩ := settleLockedVoucher_ok hok
      exact standing_overwrite
        (standing_overwrite standing_self hsettled.claimAt) hsettled.vaultAt key
        hoccupied
  | recoverAbandonedLock =>
      obtain ⟨vault, claim, hrecovered, rfl⟩ := recoverAbandonedLock_ok hok
      exact standing_overwrite
        (standing_overwrite standing_self hrecovered.claimAt)
        hrecovered.vaultAt key hoccupied
  | openStandby =>
      obtain ⟨vault, backer, newAggregate, hopened, rfl⟩ := openStandby_ok hok
      exact standing_overwrite
        (standing_overwrite standing_self hopened.backerAt) hopened.vaultAt key
        hoccupied
  | drawCredit =>
      obtain ⟨vault, newBorrowed, recoveryAt, hdrawn, rfl⟩ := drawCredit_ok hok
      exact standing_overwrite standing_self hdrawn.vaultAt key hoccupied
  | repayCredit =>
      obtain ⟨vault, hexited, rfl⟩ := repayCredit_ok hok
      exact standing_overwrite standing_self hexited.vaultAt key hoccupied
  | seizeCollateral =>
      obtain ⟨vault, hexited, rfl⟩ := seizeCollateral_ok hok
      exact standing_overwrite standing_self hexited.vaultAt key hoccupied
  | setStandbyReserve =>
      obtain ⟨found, bump, hset, rfl⟩ := setStandbyReserve_ok hok
      have hat : Site.ledger.At runtime _ := .of_find hset.canonical
      exact standing_write standing_self (.site .ledger (by decide) hat) key
        hoccupied
  | closeStandby =>
      obtain ⟨vault, backer, hclosed, rfl⟩ := closeStandby_ok hok
      exact standing_overwrite
        (standing_overwrite standing_self hclosed.backerAt) hclosed.vaultAt key
        hoccupied
  | closeSession =>
      obtain ⟨session, hsession, -, rfl⟩ := closeSession_ok hok
      exact .kept (occupied_of_close hoccupied)

/-- The environment creates no account. -/
theorem environment_occupied (hmove : Environment before after)
    (hoccupied : Occupied after key) : Occupied before key := by
  cases hmove with
  | tokens => exact hoccupied
  | image himage =>
      rcases occupied_write.mp hoccupied with rfl | hoccupied
      · exact occupied_of_view himage
      · exact hoccupied
  | ledger _ hbacker =>
      rcases occupied_write.mp hoccupied with rfl | hoccupied
      · exact occupied_of_view hbacker
      · exact hoccupied

end Steps

end DexterVault.Addresses
