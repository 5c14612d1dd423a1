import DexterVault.Core.Backing
import DexterVault.Program.Deployment
import DexterVault.Program.Images
import DexterVault.Program.Locks
import DexterVault.State.Layouts

/-!
# The accounts as bytes

On chain an account is a buffer: the discriminator of its type, the Borsh
encoding of its fields and slack up to the size it was created with.  Anchor
reads the typed account out of the buffer before a handler runs, and writes the
accounts declared writable back afterwards.  From the first instruction on the
buffers hold what the typed store says, the write never fails, and the program
over buffers plays what the program over typed accounts plays.

Accounts still in the layout of V5 carry the discriminator of the current layout
and are not among the accounts here: none exists unless one was there before.
-/

namespace DexterVault.Storage

open DexterVault.Machine
open DexterVault.Framing
open DexterVault.KeyedSum
open DexterVault.Borsh
open DexterVault.Borsh.Codec
open DexterVault.Accounts
open DexterVault.Execution
open DexterVault.Transition
open DexterVault.Agreement
open DexterVault.Backing
open DexterVault.Layouts
open DexterVault.Setup
open DexterVault.Withdrawal
open DexterVault.Session
open DexterVault.Gate
open DexterVault.Voucher
open DexterVault.Claim
open DexterVault.Credit
open DexterVault.Migration
open DexterVault.Program

/-! ## The types of accounts -/

def lockedClaimStatus : Codec LockedClaimStatus :=
  @enumeration LockedClaimStatus 3 (by decide)
    { toFun
        | 0 => .pending
        | 1 => .settled
        | 2 => .abandoned
      invFun
        | .pending => 0
        | .settled => 1
        | .abandoned => 2
      left_inv := by decide
      right_inv := by
        rintro (_ | _ | _) <;> rfl }

def reserveKind : Codec ReserveKind :=
  boolean.equiv
    { toFun
        | false => .declared
        | true => .locked
      invFun
        | .declared => false
        | .locked => true
      left_inv := by decide
      right_inv := by
        rintro (_ | _) <;> rfl }

def lockedClaim : Codec LockedClaim :=
  (u8.prod (u8.prod ((array 32).prod ((array 32).prod ((array 32).prod (u64.prod
    (i64.prod (i64.option.prod (i64.option.prod ((array 32).prod
      (lockedClaimStatus.prod (i64.option.prod i64.option)))))))))))).equiv
    { toFun := fun (version, bump, vault, sessionPubkeyAtLock, voucherHash,
        amount, createdAt, maturityAt, holderRecoveryAt, currentHolder, status,
        settledAt, recoveredAt) =>
        ⟨version, bump, vault, sessionPubkeyAtLock, voucherHash, amount,
          createdAt, maturityAt, holderRecoveryAt, currentHolder, status,
          settledAt, recoveredAt⟩
      invFun := fun claim =>
        (claim.version, claim.bump, claim.vault, claim.sessionPubkeyAtLock,
          claim.voucherHash, claim.amount, claim.createdAt, claim.maturityAt,
          claim.holderRecoveryAt, claim.currentHolder, claim.status,
          claim.settledAt, claim.recoveredAt)
      left_inv := fun _ => rfl
      right_inv := fun _ => rfl }

def standbyBacker : Codec StandbyBacker :=
  (u8.prod (u8.prod ((array 32).prod (u64.prod (u64.prod reserveKind))))).equiv
    { toFun := fun (version, bump, financierSwig, committedReserve,
        aggregatePromised, reserveKind) =>
        ⟨version, bump, financierSwig, committedReserve, aggregatePromised,
          reserveKind⟩
      invFun := fun backer =>
        (backer.version, backer.bump, backer.financierSwig,
          backer.committedReserve, backer.aggregatePromised, backer.reserveKind)
      left_inv := fun _ => rfl
      right_inv := fun _ => rfl }

/-- `LockedClaim::DISCRIMINATOR`. -/
def lockedClaimDiscriminator : Bytes := [146, 227, 254, 205, 9, 82, 6, 245]

/-- `StandbyBacker::DISCRIMINATOR`. -/
def standbyBackerDiscriminator : Bytes := [91, 209, 78, 1, 228, 57, 152, 232]

/-- The `#[account]` structs. -/
inductive Kind
  | vault
  | session
  | claim
  | standbyBacker
  deriving DecidableEq

namespace Kind

abbrev Data : Kind → Type
  | vault => Vault
  | session => SessionAccount
  | claim => LockedClaim
  | standbyBacker => StandbyBacker

def discriminator : Kind → Bytes
  | vault => vaultDiscriminator
  | session => sessionAccountDiscriminator
  | claim => lockedClaimDiscriminator
  | standbyBacker => standbyBackerDiscriminator

def layout : (kind : Kind) → Codec kind.Data
  | vault => Layouts.vault
  | session => sessionAccount
  | claim => lockedClaim
  | standbyBacker => Storage.standbyBacker

def account : (kind : Kind) → kind.Data → Account
  | vault, data => .vault data
  | session, data => .session data
  | claim, data => .claim data
  | standbyBacker, data => .standbyBacker data

def read : (kind : Kind) → Account → Option kind.Data
  | vault => Account.vault?
  | session => Account.session?
  | claim => Account.claim?
  | standbyBacker => Account.standbyBacker?

/-- `space = 8 + T::INIT_SPACE`. -/
def size (kind : Kind) : ℕ := 8 + kind.layout.space

@[simp]
theorem length_discriminator (kind : Kind) : kind.discriminator.length = 8 := by
  cases kind <;> rfl

/-- The type whose discriminator stands at the front of a buffer. -/
def at? (data : Bytes) : Option Kind :=
  [vault, session, claim, standbyBacker].find? fun kind =>
    data.take 8 = kind.discriminator

/-- No two types share a discriminator. -/
theorem at?_eq_some_iff {kind : Kind} {data : Bytes} :
    at? data = some kind ↔ data.take 8 = kind.discriminator := by
  constructor
  · intro hfound
    simpa using List.find?_some hfound
  · intro hfront
    rw [at?, hfront]
    cases kind <;> rfl

/-- `try_deserialize`. -/
def tryDeserialize (kind : Kind) (data : Bytes) : Result kind.Data := do
  require (8 ≤ data.length) RuntimeError.accountDiscriminatorNotFound
  require (data.take 8 = kind.discriminator)
    RuntimeError.accountDiscriminatorMismatch
  let decoded ← okOr (kind.layout.decode (data.drop 8))
    RuntimeError.accountDidNotDeserialize
  return decoded.1

end Kind

/-- The type an account has on chain. -/
def kindOf : Account → Kind
  | .vault _ | .vaultV5 _ => .vault
  | .session _ => .session
  | .claim _ => .claim
  | .standbyBacker _ => .standbyBacker

def encodeAccount : Account → Bytes
  | .vault data => Layouts.vault.encode data
  | .vaultV5 data => vaultV5Reader.encode data
  | .session data => sessionAccount.encode data
  | .claim data => lockedClaim.encode data
  | .standbyBacker data => standbyBacker.encode data

/-- `try_serialize`. -/
def writeAccount (account : Account) (data : Bytes) : Option Bytes :=
  let out := (kindOf account).discriminator ++ encodeAccount account
  if out.length ≤ data.length then some (overwrite out data) else none

/-- The typed account in a buffer. -/
def readAccount (data : Bytes) : Option Account := do
  let kind ← Kind.at? data
  let decoded ← kind.layout.decode (data.drop 8)
  return kind.account decoded.1

/-- A buffer of the size of its type that holds the account, with any slack
behind the encoding. -/
structure IsStored (data : Bytes) (account : Account) : Prop where
  current : account.vaultV5? = none
  size : data.length = (kindOf account).size
  encoded : (kindOf account).discriminator ++ encodeAccount account <+: data

section Buffers

variable {data : Bytes} {account stored : Account} {kind : Kind}

@[simp]
theorem Kind.read_account (value : kind.Data) :
    kind.read (kind.account value) = some value := by
  cases kind <;> rfl

theorem Kind.read_eq_some_iff {value : kind.Data} :
    kind.read account = some value ↔ account = kind.account value := by
  cases kind <;> cases account <;>
    simp [Kind.read, Kind.account, Account.vault?, Account.session?,
      Account.claim?, Account.standbyBacker?]

/-- Every account but an image of V5 is data of its type. -/
theorem exists_data (hcurrent : account.vaultV5? = none) :
    ∃ value : (kindOf account).Data, account = (kindOf account).account value ∧
      encodeAccount account = (kindOf account).layout.encode value := by
  cases account with
  | vaultV5 data => cases hcurrent
  | vault data => exact ⟨data, rfl, rfl⟩
  | session data => exact ⟨data, rfl, rfl⟩
  | claim data => exact ⟨data, rfl, rfl⟩
  | standbyBacker data => exact ⟨data, rfl, rfl⟩

/-- A load out of the typed store is Anchor's load out of the buffer: the type
asked for has to be the one whose discriminator the buffer carries. -/
theorem read_readAccount {value : kind.Data} :
    (readAccount data).bind kind.read = some value ↔
      kind.tryDeserialize data = .ok value := by
  simp only [readAccount, Kind.tryDeserialize, bind_eq_ok_iff, require_eq_ok_iff,
    okOr_eq_ok_iff, pure_eq_ok_iff, Option.bind_eq_bind, Option.bind_eq_some_iff,
    Option.pure_def, Option.some.injEq, Kind.at?_eq_some_iff]
  constructor
  · rintro ⟨_, ⟨found, hfront, ⟨other, rest⟩, hdecode, rfl⟩, hread⟩
    have hlength : 8 ≤ data.length := by
      have hfrontLength := congrArg List.length hfront
      rw [Kind.length_discriminator, List.length_take] at hfrontLength
      omega
    rw [Kind.read_eq_some_iff] at hread
    have hkinds : found = kind := by
      cases found <;> cases kind <;> first | rfl | cases hread
    subst hkinds
    have hvalue : other = value := by
      have hboth := congrArg found.read hread
      rw [Kind.read_account, Kind.read_account] at hboth
      exact Option.some.inj hboth
    exact ⟨(), hlength, (), hfront, (other, rest), hdecode, hvalue⟩
  · rintro ⟨_, _, _, hfront, ⟨other, rest⟩, hdecode, rfl⟩
    exact ⟨_, ⟨kind, hfront, (other, rest), hdecode, rfl⟩, Kind.read_account _⟩

theorem IsStored.read (hstored : IsStored data account) :
    readAccount data = some account := by
  obtain ⟨value, haccount, hencode⟩ := exists_data hstored.current
  obtain ⟨slack, hdata⟩ := hstored.encoded
  rw [hencode, List.append_assoc] at hdata
  have hfront : Kind.at? data = some (kindOf account) := by
    rw [Kind.at?_eq_some_iff, ← hdata]
    exact List.take_left' (Kind.length_discriminator _)
  have hback : data.drop 8 = (kindOf account).layout.encode value ++ slack := by
    rw [← hdata]
    exact List.drop_left' (Kind.length_discriminator _)
  simp only [readAccount, hfront, hback, decode_encode_append,
    Option.bind_eq_bind, Option.bind_some, Option.pure_def]
  exact congrArg some haccount.symm

/-- Anchor allots enough for every account of the type. -/
theorem length_encoded_le (hcurrent : account.vaultV5? = none) :
    ((kindOf account).discriminator ++ encodeAccount account).length ≤
      (kindOf account).size := by
  obtain ⟨value, -, hencode⟩ := exists_data hcurrent
  rw [List.length_append, Kind.length_discriminator, hencode, Kind.size]
  exact Nat.add_le_add_left ((kindOf account).layout.length_encode_le value) 8

/-- A write into a buffer of the right size. -/
theorem writeAccount_stored (hcurrent : account.vaultV5? = none)
    (hsize : data.length = (kindOf account).size) :
    ∃ next, writeAccount account data = some next ∧ IsStored next account := by
  have hfits : ((kindOf account).discriminator ++ encodeAccount account).length ≤
      data.length := hsize ▸ length_encoded_le hcurrent
  refine ⟨_, if_pos hfits, hcurrent, ?_, List.prefix_append _ _⟩
  rw [length_overwrite hfits, hsize]

end Buffers

/-- How the accounts are kept: a buffer is allotted at the size of its type and
filled with zeros. -/
def accountFormat : Format Bytes Account Kind where
  kind := kindOf
  Storable account := account.vaultV5? = none
  read := readAccount
  fresh kind := List.replicate kind.size 0
  write := writeAccount
  Holds := IsStored
  storable hstored := hstored.current
  read_eq hstored := hstored.read
  write_fresh hcurrent := writeAccount_stored hcurrent List.length_replicate
  write_over hstored hkind hcurrent :=
    writeAccount_stored hcurrent (hkind ▸ hstored.size)

/-! ## An account keeps its type -/

/-- Where an account stands before and after, its type is the same. -/
def KeepsKinds (before after : State) : Prop :=
  ∀ key stored account, before.accounts.lookup key = some stored →
    after.accounts.lookup key = some account → kindOf account = kindOf stored

section Kinds

variable {runtime : Runtime} {before middle after : State} {key : Pubkey}
  {account stored : Account}

theorem KeepsKinds.refl (state : State) : KeepsKinds state state := by
  intro key stored account hstored haccount
  cases hstored.symm.trans haccount
  rfl

/-- A write over an account of the type. -/
theorem KeepsKinds.write (hkeeps : KeepsKinds before middle)
    (hstored : before.accounts.lookup key = some stored)
    (hkind : kindOf account = kindOf stored) :
    KeepsKinds before (middle.write key account) := by
  intro other found written hfound hwritten
  rw [Closing.lookup_write] at hwritten
  by_cases hother : other = key
  · subst hother
    rw [if_pos rfl] at hwritten
    cases hwritten
    cases hstored.symm.trans hfound
    exact hkind
  · rw [if_neg hother] at hwritten
    exact hkeeps other found written hfound hwritten

theorem KeepsKinds.write_vacant (hkeeps : KeepsKinds before middle)
    (hvacant : before.accounts.lookup key = none) :
    KeepsKinds before (middle.write key account) := by
  intro other found written hfound hwritten
  rw [Closing.lookup_write] at hwritten
  have hother : other ≠ key := by
    rintro rfl
    cases hvacant.symm.trans hfound
  rw [if_neg hother] at hwritten
  exact hkeeps other found written hfound hwritten

theorem KeepsKinds.close (hkeeps : KeepsKinds before middle) :
    KeepsKinds before (middle.close key) := by
  intro other found written hfound hwritten
  rw [Closing.lookup_close] at hwritten
  split at hwritten
  · cases hwritten
  · exact hkeeps other found written hfound hwritten

theorem KeepsKinds.write_vault (hkeeps : KeepsKinds before middle) {vault : Vault}
    (hvault : before.vault? key = some vault) (written : Vault) :
    KeepsKinds before (middle.write key (.vault written)) :=
  hkeeps.write (State.lookup_of_vault? hvault) rfl

theorem KeepsKinds.write_image (hkeeps : KeepsKinds before middle)
    {image : VaultV5Reader} (himage : before.vaultV5? key = some image)
    (written : Vault) : KeepsKinds before (middle.write key (.vault written)) :=
  hkeeps.write (State.lookup_of_vaultV5? himage) rfl

theorem KeepsKinds.write_session (hkeeps : KeepsKinds before middle)
    {session : SessionAccount} (hsession : before.session? key = some session)
    (written : SessionAccount) :
    KeepsKinds before (middle.write key (.session written)) :=
  hkeeps.write (State.lookup_of_session? hsession) rfl

theorem KeepsKinds.write_claim (hkeeps : KeepsKinds before middle)
    {claim : LockedClaim} (hclaim : before.claim? key = some claim)
    (written : LockedClaim) :
    KeepsKinds before (middle.write key (.claim written)) :=
  hkeeps.write (State.lookup_of_claim? hclaim) rfl

theorem KeepsKinds.write_backer (hkeeps : KeepsKinds before middle)
    {backer : StandbyBacker} (hbacker : before.standbyBacker? key = some backer)
    (written : StandbyBacker) :
    KeepsKinds before (middle.write key (.standbyBacker written)) :=
  hkeeps.write (State.lookup_of_standbyBacker? hbacker) rfl

/-- The sweep rewrites sessions.  It reads the state as swept so far, in which
the sessions were sessions before. -/
theorem gate_kinds {vaultKey sessionKey : Pubkey} {now : I64}
    {accts : List AccountMeta} {gate swept : Gate}
    (hkeeps : KeepsKinds before gate.state)
    (hback : ∀ key session, gate.state.session? key = some session →
      ∃ found, before.session? key = some found)
    (hok : accts.foldlM (gateStep runtime vaultKey sessionKey now) gate =
      .ok swept) : KeepsKinds before swept.state := by
  induction accts generalizing gate with
  | nil =>
      rw [List.foldlM_nil, pure_eq_ok_iff] at hok
      rwa [← hok]
  | cons acct accts ih =>
      rw [List.foldlM_cons, bind_eq_ok_iff] at hok
      obtain ⟨middle, hstep, hrest⟩ := hok
      obtain ⟨-, -, session, hsibling, hcase⟩ := gateStep_ok hstep
      rcases hcase with ⟨-, -, -, -, hstate⟩ | ⟨-, -, -, -, -, hstate⟩
      · exact ih (hstate ▸ hkeeps) (hstate ▸ hback) hrest
      · obtain ⟨found, hfound⟩ := hback _ _ hsibling.sessionAt
        refine ih (hstate ▸ hkeeps.write_session hfound _) ?_ hrest
        rw [hstate]
        intro key other hother
        rw [State.session?, State.view_write] at hother
        split at hother
        · next hkey => exact ⟨found, hkey ▸ hfound⟩
        · exact hback key other hother

theorem registerSessionKey_kinds {context : Context}
    {accounts : RegisterSessionKey} {args : RegisterSessionKeyArgs}
    (hok : registerSessionKey runtime context accounts args before = .ok after) :
    KeepsKinds before after := by
  obtain ⟨vault, _, session, bump, gate, _, hregistered, hgate, -, rfl⟩ :=
    registerSessionKey_gate hok
  have hswept : KeepsKinds before gate.state :=
    gate_kinds (.refl before) (fun _ session hsession => ⟨session, hsession⟩) hgate
  rcases hregistered.found with ⟨hvacant, -⟩ | hfound
  · exact (hswept.write_vacant hvacant).write_vault hregistered.vaultAt _
  · exact (hswept.write_session hfound _).write_vault hregistered.vaultAt _

theorem settleVoucher_kinds {context : Context} {accounts : SettleVoucher}
    {args : SettleVoucherArgs}
    (hok : settleVoucher runtime context accounts args before = .ok after) :
    KeepsKinds before after := by
  cases hincrement : args.increment with
  | true =>
      obtain ⟨vault, key, session, _, hopenable, -, rfl⟩ :=
        openable_of_ok hok hincrement
      exact ((KeepsKinds.refl before).write_session hopenable.sessionAt
        _).write_vault hopenable.vaultAt _
  | false =>
      obtain ⟨vault, hvault, -, rfl⟩ := settleVoucher_closed hok hincrement
      exact (KeepsKinds.refl before).write_vault hvault _

/-- The step lemma: no accepted call turns an account into one of another
type. -/
theorem step_kinds {call : Call} (hstep : step runtime before call = .ok after) :
    KeepsKinds before after := by
  have hrefl := KeepsKinds.refl before
  cases call with
  | initializeVault =>
      obtain ⟨hvacant, bump, rfl⟩ := initializeVault_ok hstep
      exact hrefl.write_vacant hvacant
  | setSwig =>
      obtain ⟨vault, hvault, -, rfl⟩ := setSwig_ok hstep
      exact hrefl.write_vault hvault _
  | setSwigAtomic =>
      obtain ⟨vault, hvault, -, rfl⟩ := setSwigAtomic_ok hstep
      exact hrefl.write_vault hvault _
  | settleVoucher => exact settleVoucher_kinds hstep
  | requestWithdrawal =>
      obtain ⟨vault, hrequested, rfl⟩ := requestWithdrawal_ok hstep
      exact hrefl.write_vault hrequested.vaultAt _
  | finalizeWithdrawal =>
      obtain ⟨vault, _, _, hfinalized, rfl⟩ := finalizeWithdrawal_ok hstep
      exact hrefl.write_vault hfinalized.vaultAt _
  | forceRelease =>
      obtain ⟨vault, _, hreleased, rfl⟩ := forceRelease_ok hstep
      exact hrefl.write_vault hreleased.vaultAt _
  | rotatePasskey =>
      obtain ⟨vault, hvault, -, rfl⟩ := rotatePasskey_ok hstep
      exact hrefl.write_vault hvault _
  | rotateDexterAuthority =>
      obtain ⟨vault, hvault, rfl⟩ := rotateDexterAuthority_ok hstep
      exact hrefl.write_vault hvault _
  | provePasskey =>
      obtain rfl := provePasskey_unchanged hstep
      exact hrefl
  | registerSessionKey => exact registerSessionKey_kinds hstep
  | revokeSessionKey =>
      obtain ⟨vault, session, _, hrevoked, -, rfl⟩ := revokeSessionKey_ok hstep
      exact (hrefl.write_session hrevoked.sessionAt _).write_vault
        hrevoked.vaultAt _
  | settleTabVoucher =>
      obtain ⟨vault, session, _, hsettled, rfl⟩ := settleTabVoucher_ok hstep
      exact (hrefl.write_session hsettled.admitted.sessionAt _).write_vault
        hsettled.vaultAt _
  | migrateV5ToV6 =>
      obtain ⟨v5, himage, rfl⟩ := migrateV5ToV6_ok hstep
      exact hrefl.write_image himage _
  | migrateV5ToV6WithSession =>
      obtain ⟨v5, _, bump, hmigrated, rfl⟩ := migrateV5ToV6WithSession_ok hstep
      exact (hrefl.write_vacant hmigrated.vacant).write_image hmigrated.imageAt _
  | lockVoucher =>
      obtain ⟨vault, session, _, _, _, _, hlocked, rfl⟩ := lockVoucher_ok hstep
      exact ((hrefl.write_vacant hlocked.vacant).write_session
        hlocked.admitted.sessionAt _).write_vault hlocked.vaultAt _
  | transferLockOwnership =>
      obtain ⟨claim, hclaim, -, rfl⟩ := transferLockOwnership_ok hstep
      exact hrefl.write_claim hclaim _
  | settleLockedVoucher =>
      obtain ⟨vault, claim, hsettled, rfl⟩ := settleLockedVoucher_ok hstep
      exact (hrefl.write_claim hsettled.claimAt _).write_vault hsettled.vaultAt _
  | recoverAbandonedLock =>
      obtain ⟨vault, claim, hrecovered, rfl⟩ := recoverAbandonedLock_ok hstep
      exact (hrefl.write_claim hrecovered.claimAt _).write_vault
        hrecovered.vaultAt _
  | openStandby =>
      obtain ⟨vault, backer, _, hopened, rfl⟩ := openStandby_ok hstep
      exact (hrefl.write_backer hopened.backerAt _).write_vault hopened.vaultAt _
  | drawCredit =>
      obtain ⟨vault, _, _, hdrawn, rfl⟩ := drawCredit_ok hstep
      exact hrefl.write_vault hdrawn.vaultAt _
  | repayCredit =>
      obtain ⟨vault, hexited, rfl⟩ := repayCredit_ok hstep
      exact hrefl.write_vault hexited.vaultAt _
  | seizeCollateral =>
      obtain ⟨vault, hexited, rfl⟩ := seizeCollateral_ok hstep
      exact hrefl.write_vault hexited.vaultAt _
  | setStandbyReserve =>
      obtain ⟨found, _, hset, rfl⟩ := setStandbyReserve_ok hstep
      rcases hset.ledgerAt with ⟨hvacant, -⟩ | hfound
      · exact hrefl.write_vacant hvacant
      · exact hrefl.write_backer hfound _
  | closeStandby =>
      obtain ⟨vault, backer, hclosed, rfl⟩ := closeStandby_ok hstep
      exact (hrefl.write_backer hclosed.backerAt _).write_vault hclosed.vaultAt _
  | closeSession =>
      obtain ⟨session, -, -, rfl⟩ := closeSession_ok hstep
      exact hrefl.close

end Kinds

/-! ## The program over buffers -/

def parts : State ≃ Store Pubkey Account × Store Pubkey TokenAccount where
  toFun state := (state.accounts, state.tokens)
  invFun parts := ⟨parts.1, parts.2⟩
  left_inv _ := rfl
  right_inv _ := rfl

/-- The buffers of the accounts, next to the token balances. -/
abbrev Buffers := Kept Pubkey Bytes (Store Pubkey TokenAccount)

/-- The typed accounts that the framework reads. -/
abbrev view (storage : Buffers) : State := storage.load accountFormat parts

/-- One instruction: the accounts are read, the handler runs, and the accounts
declared writable are written back. -/
def storageStep (runtime : Runtime) : Buffers → Call → Result Buffers :=
  keptStep accountFormat parts Locks.writable RuntimeError.accountDidNotSerialize
    (system runtime)

def storageSystem (runtime : Runtime) : System Buffers Call ProgramError :=
  keptSystem accountFormat parts Locks.writable
    RuntimeError.accountDidNotSerialize (system runtime)

/-- No account of the program exists yet. -/
def vacant : Buffers := ⟨∅, ∅⟩

/-- A typed load is a load of the type out of the buffer. -/
theorem load_view {storage : Buffers} {kind : Kind} {key : Pubkey}
    {value : kind.Data} :
    load kind.read (view storage) key = .ok value ↔
      ∃ data, storage.buffers.lookup key = some data ∧
        kind.tryDeserialize data = .ok value := by
  have hlookup : (view storage).accounts.lookup key =
      (storage.buffers.lookup key).bind readAccount := lookup_readAll _ _ _
  rw [load_eq_ok_iff, State.view, hlookup, Option.bind_assoc,
    Option.bind_eq_some_iff]
  simp only [read_readAccount]

theorem suited (runtime : Runtime) :
    Suited accountFormat parts Locks.writable (system runtime) where
  framed state call next hstep key hkey := by
    have hsame := Locks.step_frames call next hstep hkey
    exact (congrArg Prod.fst hsame).symm
  kinds _ _ _ hstep := step_kinds hstep
  storable state call next hstep hstorable key account haccount := by
    have hbefore : state.vaultV5? key = none := by
      cases hstored : state.accounts.lookup key with
      | none => exact State.view_of_lookup_none hstored
      | some stored =>
          exact (State.view_of_lookup hstored).trans (hstorable key stored hstored)
    have hafter := step_images hstep key hbefore
    rwa [State.vaultV5?, State.view_of_lookup haccount] at hafter
  environment state next hmove hstorable := by
    have hcurrent : ∀ key image, state.vaultV5? key ≠ some image := by
      intro key image himage
      cases hstorable key _ (State.lookup_of_vaultV5? himage)
    cases hmove with
    | tokens => rfl
    | image himage => exact absurd himage (hcurrent _ _)
    | ledger himage => exact absurd himage (hcurrent _ _)

section Plays

variable {runtime : Runtime}

theorem sound_vacant : Sound accountFormat vacant.buffers := by
  intro key data hdata
  cases hdata

theorem view_vacant : view vacant = genesis := by
  have haccounts : readAll readAccount vacant.buffers = ∅ := by
    apply Finmap.ext_lookup
    intro key
    rw [lookup_readAll]
    rfl
  exact congrArg (fun accounts => State.mk accounts ∅) haccounts

/-- The program over bytes is the program over typed accounts.  From no account
at all both play the same plays, call by call and verdict by verdict; whatever
was played, every buffer holds an account of its type with the room the type was
allotted, and a call fails over the buffers with the error it fails with over
the accounts, in particular never for lack of room. -/
theorem storage_refines (runtime : Runtime) (events : List (Event Call)) :
    (∀ state, Plays (system runtime) genesis events state ↔
      ∃ storage, Plays (storageSystem runtime) vacant events storage ∧
        view storage = state) ∧
    ∀ storage, Plays (storageSystem runtime) vacant events storage →
      (∀ key data, storage.buffers.lookup key = some data →
        ∃ account, IsStored data account) ∧
      ∀ call error, storageStep runtime storage call = .error error ↔
        step runtime (view storage) call = .error error := by
  have hback {storage : Buffers}
      (hplays : Plays (storageSystem runtime) vacant events storage) :=
    (suited runtime).plays_back sound_vacant hplays
  constructor
  · intro state
    rw [← view_vacant]
    constructor
    · intro hplays
      obtain ⟨storage, hstorage, hview, -⟩ := (suited runtime).plays_forth
        RuntimeError.accountDidNotSerialize sound_vacant hplays
      exact ⟨storage, hstorage, hview⟩
    · rintro ⟨storage, hstorage, rfl⟩
      exact (hback hstorage).1
  · intro storage hstorage
    exact ⟨(hback hstorage).2, fun call error =>
      (suited runtime).keptStep_error_iff (hback hstorage).2⟩

open DexterVault.Deployment in
/-- A vault is created and bound to a swig. -/
theorem storage_refines_bound : ∃ storage,
    Plays (storageSystem sampleRuntime) vacant
      [.call bindSwig true, .call createVault true, .environment] storage ∧
    view storage = bound ∧
    ∀ key data, storage.buffers.lookup key = some data →
      ∃ account, IsStored data account := by
  obtain ⟨hcreate, hbind, -⟩ := sample_steps
  have hfunded : Environment genesis funded := .tokens genesis funded.tokens
  have hcreated : Plays (system sampleRuntime) genesis
      [.call createVault true, .environment] created :=
    .accept (.environment .start hfunded) hcreate
  have hplays : Plays (system sampleRuntime) genesis
      [.call bindSwig true, .call createVault true, .environment] bound :=
    .accept hcreated hbind
  have hrefines := storage_refines sampleRuntime
    [.call bindSwig true, .call createVault true, .environment]
  obtain ⟨storage, hstorage, hview⟩ := (hrefines.1 bound).mp hplays
  exact ⟨storage, hstorage, hview, (hrefines.2 storage hstorage).1⟩

end Plays

end DexterVault.Storage
