import DexterVault.Program.Entrypoints
import DexterVault.Program.Locks

/-!
# From an instruction to a call

The entry point reads the function and its arguments out of the data, and takes
the accounts of the function from the front of the account list, in the order
of its accounts struct.  Here an account declared `mut` is checked to be
writable and a program or a sysvar to have its address; what a handler's
accounts struct checks beyond that is part of the handler.  The four migrations of
the layouts before V5 decode to no call.
-/

namespace DexterVault.RawCalls

open Set
open DexterVault.Machine
open DexterVault.Framing
open DexterVault.Wire
open DexterVault.Accounts
open DexterVault.Execution
open DexterVault.Locality
open DexterVault.Locks
open DexterVault.Entrypoints
open DexterVault.SwigCalls
open DexterVault.Program

/-! ## Account lists -/

def instructionsSysvarId : Pubkey :=
  ⟨[6, 167, 213, 23, 24, 123, 209, 102, 53, 218, 212, 4, 85, 253, 194, 192,
    193, 36, 198, 143, 33, 86, 117, 165, 219, 186, 203, 95, 8, 0, 0, 0], rfl⟩

/-- How an accounts struct declares one of its accounts. -/
inductive Slot
  | readonly
  | writable
  /-- Absent when the id of the program stands in its place. -/
  | optional
  | address (key : Pubkey)
  deriving DecidableEq

namespace Slot

def admits (slot : Slot) (passed : CpiMeta) : Bool :=
  match slot with
  | readonly => true
  | writable => passed.isWritable
  | optional => passed.key = programId || passed.isWritable
  | address key => passed.key = key

/-- Whether the account at a key may be written through the slot. -/
def writes (slot : Slot) (key : Pubkey) : Bool :=
  match slot with
  | writable => true
  | optional => key ≠ programId
  | readonly | address _ => false

end Slot

/-- The accounts of the struct, and those that remain. -/
def fetch : List Slot → List CpiMeta → Option (List Pubkey × List CpiMeta)
  | [], passed => some ([], passed)
  | _ :: _, [] => none
  | slot :: slots, found :: passed =>
      if slot.admits found then do
        let (keys, remaining) ← fetch slots passed
        return (found.key :: keys, remaining)
      else none

def writableKeys : List Slot → List Pubkey → List Pubkey
  | slot :: slots, key :: keys =>
      if slot.writes key then key :: writableKeys slots keys
      else writableKeys slots keys
  | _, _ => []

section Fetch

variable {slot : Slot} {slots : List Slot} {found : CpiMeta}
  {passed remaining : List CpiMeta} {keys : List Pubkey}

theorem fetch_cons_eq_some_iff :
    fetch (slot :: slots) (found :: passed) = some (keys, remaining) ↔
      slot.admits found = true ∧ ∃ rest,
        fetch slots passed = some (rest, remaining) ∧ keys = found.key :: rest := by
  simp only [fetch, Option.bind_eq_bind, Option.pure_def,
    Option.ite_none_right_eq_some, Option.bind_eq_some_iff, Prod.exists,
    Option.some.injEq, Prod.mk.injEq]
  constructor
  · rintro ⟨hadmits, rest, _, hrest, rfl, rfl⟩
    exact ⟨hadmits, rest, hrest, rfl⟩
  · rintro ⟨hadmits, rest, hrest, rfl⟩
    exact ⟨hadmits, rest, remaining, hrest, rfl, rfl⟩

theorem keys_of_fetch (hfetch : fetch slots passed = some (keys, remaining)) :
    passed.map CpiMeta.key = keys ++ remaining.map CpiMeta.key := by
  induction slots generalizing passed keys with
  | nil =>
      cases hfetch
      rfl
  | cons slot slots ih =>
      cases passed with
      | nil => cases hfetch
      | cons found passed =>
          obtain ⟨-, rest, hrest, rfl⟩ := fetch_cons_eq_some_iff.mp hfetch
          rw [List.map_cons, ih hrest, List.cons_append]

theorem remaining_suffix
    (hfetch : fetch slots passed = some (keys, remaining)) :
    remaining <:+ passed := by
  induction slots generalizing passed keys with
  | nil =>
      cases hfetch
      exact List.suffix_refl _
  | cons slot slots ih =>
      cases passed with
      | nil => cases hfetch
      | cons found passed =>
          obtain ⟨-, rest, hrest, rfl⟩ := fetch_cons_eq_some_iff.mp hfetch
          exact (ih hrest).trans (List.suffix_cons found passed)

theorem writable_of_admits (hadmits : slot.admits found = true)
    (hwrites : slot.writes found.key = true) : found.isWritable = true := by
  cases slot with
  | writable => exact hadmits
  | optional =>
      rcases (Bool.or_eq_true _ _).mp hadmits with hkey | hwritable
      · exact absurd (of_decide_eq_true hkey) (of_decide_eq_true hwrites)
      · exact hwritable
  | readonly => cases hwrites
  | address key => cases hwrites

/-- What is written through a slot was passed writable. -/
theorem writable_of_fetch
    (hfetch : fetch slots passed = some (keys, remaining)) :
    ∀ key ∈ writableKeys slots keys,
      ∃ found ∈ passed, found.key = key ∧ found.isWritable = true := by
  induction slots generalizing passed keys with
  | nil =>
      rw [writableKeys]
      · exact fun key hmem => nomatch hmem
      · exact nofun
  | cons slot slots ih =>
      cases passed with
      | nil => cases hfetch
      | cons found passed =>
          obtain ⟨hadmits, rest, hrest, rfl⟩ := fetch_cons_eq_some_iff.mp hfetch
          have hlater : ∀ key ∈ writableKeys slots rest,
              ∃ other ∈ found :: passed,
                other.key = key ∧ other.isWritable = true := by
            intro key hmem
            obtain ⟨other, hother, hkey⟩ := ih hrest key hmem
            exact ⟨other, List.mem_cons_of_mem _ hother, hkey⟩
          intro key hmem
          rw [writableKeys] at hmem
          split at hmem
          · next hwrites =>
            rcases List.mem_cons.mp hmem with rfl | hmem
            · exact ⟨found, List.mem_cons_self, rfl,
                writable_of_admits hadmits hwrites⟩
            · exact hlater key hmem
          · exact hlater key hmem

end Fetch

/-! ## The accounts structs -/

open Slot in
def slots : Entrypoint → List Slot
  | .initializeVault =>
      [writable, writable, readonly, address systemProgramId]
  | .setSwig | .requestWithdrawal | .forceRelease | .rotatePasskey =>
      [writable, address instructionsSysvarId]
  | .settleVoucher => [writable, readonly, optional]
  | .finalizeWithdrawal =>
      [readonly, readonly, writable, readonly, address instructionsSysvarId]
  | .rotateDexterAuthority => [writable, readonly]
  | .provePasskey => [readonly, address instructionsSysvarId]
  | .registerSessionKey =>
      [writable, readonly, readonly, readonly, address instructionsSysvarId,
        writable, writable, address systemProgramId]
  | .revokeSessionKey => [writable, writable, address instructionsSysvarId]
  | .settleTabVoucher =>
      [readonly, readonly, writable, writable, readonly,
        address instructionsSysvarId]
  | .setSwigAtomic =>
      [writable, writable, writable, writable, address swigProgramId,
        address systemProgramId, address instructionsSysvarId]
  | .migrateV2ToV3 | .migrateV3ToV4 | .migrateV4ToV5 | .migrateV5ToV6
  | .migrateLegacyToV6 =>
      [writable, readonly, writable, address systemProgramId]
  | .migrateV5ToV6WithSession =>
      [writable, readonly, writable, writable, address systemProgramId]
  | .lockVoucher =>
      [writable, readonly, readonly, readonly, writable, writable, readonly,
        readonly, writable, address systemProgramId,
        address instructionsSysvarId]
  | .transferLockOwnership => [writable, readonly]
  | .settleLockedVoucher =>
      [readonly, readonly, writable, writable, readonly, readonly]
  | .recoverAbandonedLock => [writable, writable, address instructionsSysvarId]
  | .openStandby =>
      [writable, readonly, writable, address instructionsSysvarId]
  | .drawCredit | .repayCredit | .seizeCollateral =>
      [readonly, readonly, writable, readonly, address instructionsSysvarId]
  | .setStandbyReserve =>
      [readonly, readonly, writable, writable, address systemProgramId]
  | .closeStandby =>
      [readonly, readonly, writable, writable, address instructionsSysvarId]
  | .closeSession => [readonly, writable, writable]

/-- An instruction in its transaction.  `swigCreated` is the outcome of the
calls into the Swig program, should it make them. -/
structure RawCall where
  context : Context
  swigCreated : Bool
  instruction : CpiInstruction
  deriving DecidableEq

/-- The call of a function on the accounts of its struct.  The migrations of
older layouts are not calls on V6 vaults. -/
def callOf (context : Context) (swigCreated : Bool)
    (remaining : List AccountMeta) :
    (entrypoint : Entrypoint) → Args entrypoint → List Pubkey → Option Call
  | .initializeVault, args, keys =>
      match keys with
      | [vault, payer, dexterAuthority, _] =>
          some (.initializeVault context ⟨vault, payer, dexterAuthority⟩ args)
      | _ => none
  | .setSwig, args, keys =>
      match keys with
      | [vault, _] => some (.setSwig context vault args)
      | _ => none
  | .settleVoucher, args, keys =>
      match keys with
      | [vault, dexterAuthority, session] =>
          let passed := if session = programId then none else some session
          some (.settleVoucher context ⟨vault, dexterAuthority, passed⟩ args)
      | _ => none
  | .requestWithdrawal, args, keys =>
      match keys with
      | [vault, _] => some (.requestWithdrawal context vault args)
      | _ => none
  | .finalizeWithdrawal, args, keys =>
      match keys with
      | [swig, swigWalletAddress, vault, vaultUsdcAta, _] =>
          some (.finalizeWithdrawal context
            ⟨swig, swigWalletAddress, vault, vaultUsdcAta⟩ args)
      | _ => none
  | .forceRelease, args, keys =>
      match keys with
      | [vault, _] => some (.forceRelease context vault args)
      | _ => none
  | .rotatePasskey, args, keys =>
      match keys with
      | [vault, _] => some (.rotatePasskey context vault args)
      | _ => none
  | .rotateDexterAuthority, args, keys =>
      match keys with
      | [vault, dexterAuthority] =>
          some (.rotateDexterAuthority context ⟨vault, dexterAuthority⟩ args)
      | _ => none
  | .provePasskey, args, keys =>
      match keys with
      | [vault, _] => some (.provePasskey context vault args)
      | _ => none
  | .registerSessionKey, args, keys =>
      match keys with
      | [vault, vaultUsdcAta, swig, swigWalletAddress, _, session, payer, _] =>
          some (.registerSessionKey context
            ⟨vault, vaultUsdcAta, swig, swigWalletAddress, session, payer,
              remaining⟩ args)
      | _ => none
  | .revokeSessionKey, args, keys =>
      match keys with
      | [vault, session, _] =>
          some (.revokeSessionKey context ⟨vault, session⟩ args)
      | _ => none
  | .settleTabVoucher, args, keys =>
      match keys with
      | [swig, swigWalletAddress, vault, session, dexterAuthority, _] =>
          some (.settleTabVoucher context
            ⟨swig, swigWalletAddress, vault, session, dexterAuthority⟩ args)
      | _ => none
  | .setSwigAtomic, args, keys =>
      match keys with
      | [vault, feePayer, swigAccount, _, _, _, _] =>
          some (.setSwigAtomic context ⟨vault, feePayer, swigAccount⟩
            { args with swigCreated := swigCreated })
      | _ => none
  | .migrateV5ToV6, _, keys =>
      match keys with
      | [vault, dexterAuthority, payer, _] =>
          some (.migrateV5ToV6 context ⟨vault, dexterAuthority, payer⟩)
      | _ => none
  | .migrateV5ToV6WithSession, args, keys =>
      match keys with
      | [vault, dexterAuthority, session, payer, _] =>
          some (.migrateV5ToV6WithSession context
            ⟨vault, dexterAuthority, session, payer⟩ args)
      | _ => none
  | .lockVoucher, args, keys =>
      match keys with
      | [vault, vaultUsdcAta, swig, swigWalletAddress, session, claim,
          sellerHolder, dexterAuthority, payer, _, _] =>
          some (.lockVoucher context
            ⟨vault, vaultUsdcAta, swig, swigWalletAddress, session, claim,
              sellerHolder, dexterAuthority, payer⟩ args)
      | _ => none
  | .transferLockOwnership, args, keys =>
      match keys with
      | [claim, currentHolder] =>
          some (.transferLockOwnership context ⟨claim, currentHolder⟩ args)
      | _ => none
  | .settleLockedVoucher, _, keys =>
      match keys with
      | [swig, swigWalletAddress, claim, vault, holder, dexterAuthority] =>
          some (.settleLockedVoucher context
            ⟨swig, swigWalletAddress, claim, vault, holder, dexterAuthority⟩)
      | _ => none
  | .recoverAbandonedLock, args, keys =>
      match keys with
      | [claim, vault, _] =>
          some (.recoverAbandonedLock context ⟨claim, vault⟩ args)
      | _ => none
  | .openStandby, args, keys =>
      match keys with
      | [vault, financierSwig, standbyBacker, _] =>
          some (.openStandby context ⟨vault, financierSwig, standbyBacker⟩ args)
      | _ => none
  | .drawCredit, args, keys =>
      match keys with
      | [financierSwig, financierSwigWalletAddress, vault, dexterAuthority, _] =>
          some (.drawCredit context
            ⟨financierSwig, financierSwigWalletAddress, vault, dexterAuthority⟩
            args)
      | _ => none
  | .repayCredit, args, keys =>
      match keys with
      | [swig, swigWalletAddress, vault, dexterAuthority, _] =>
          some (.repayCredit context
            ⟨swig, swigWalletAddress, vault, dexterAuthority⟩ args)
      | _ => none
  | .seizeCollateral, _, keys =>
      match keys with
      | [swig, swigWalletAddress, vault, dexterAuthority, _] =>
          some (.seizeCollateral context
            ⟨swig, swigWalletAddress, vault, dexterAuthority⟩)
      | _ => none
  | .setStandbyReserve, args, keys =>
      match keys with
      | [financierSwig, financierSwigWalletAddress, standbyBacker, feePayer, _] =>
          some (.setStandbyReserve context
            ⟨financierSwig, financierSwigWalletAddress, standbyBacker, feePayer⟩
            args)
      | _ => none
  | .closeStandby, args, keys =>
      match keys with
      | [financierSwig, financierSwigWalletAddress, vault, standbyBacker, _] =>
          some (.closeStandby context
            ⟨financierSwig, financierSwigWalletAddress, vault, standbyBacker⟩
            args)
      | _ => none
  | .closeSession, args, keys =>
      match keys with
      | [vault, session, dexterAuthority] =>
          some (.closeSession context ⟨vault, session, dexterAuthority⟩ args)
      | _ => none
  | .migrateV2ToV3, _, _ | .migrateV3ToV4, _, _ | .migrateV4ToV5, _, _
  | .migrateLegacyToV6, _, _ => none

namespace RawCall

/-- The accounts that remain, as the handlers see them. -/
def siblings (remaining : List CpiMeta) : List AccountMeta :=
  remaining.map fun found => ⟨found.key, found.isWritable⟩

def decode (raw : RawCall) : Option Call := do
  let request ← dispatch raw.instruction.data
  let (keys, remaining) ← fetch (slots request.1) raw.instruction.accounts
  callOf raw.context raw.swigCreated (siblings remaining) request.1 request.2 keys

/-- The accounts that the instruction passes, and those it passes writable. -/
def passed (raw : RawCall) : Locks Pubkey where
  reads := {key | ∃ found ∈ raw.instruction.accounts, found.key = key}
  writes := {key | ∃ found ∈ raw.instruction.accounts,
    found.key = key ∧ found.isWritable = true}

end RawCall

/-! ## A call touches what its instruction passes -/

section Passed

variable {context : Context} {swigCreated : Bool} {remaining : List AccountMeta}
  {entrypoint : Entrypoint} {args : Args entrypoint} {keys : List Pubkey}
  {call : Call}

theorem writable_of_callOf (hcall : callOf context swigCreated remaining
    entrypoint args keys = some call) :
    ∀ key ∈ Locks.writable call, key ∈ writableKeys (slots entrypoint) keys ∨
      ∃ found ∈ remaining, found.key = key ∧ found.isWritable = true := by
  cases entrypoint with
  | settleVoucher =>
      simp only [callOf] at hcall
      split at hcall
      · next vault dexterAuthority session =>
        cases hcall
        by_cases hsession : session = programId <;>
          simp [Locks.writable, writableKeys, slots, Slot.writes, hsession]
      · cases hcall
  | registerSessionKey =>
      simp only [callOf] at hcall
      split at hcall
      · cases hcall
        intro key hmem
        simp only [Locks.writable, List.mem_cons, List.mem_map,
          List.mem_filter] at hmem
        rcases hmem with rfl | rfl | ⟨found, ⟨hfound, hwritable⟩, rfl⟩
        · simp [writableKeys, slots, Slot.writes]
        · simp [writableKeys, slots, Slot.writes]
        · exact .inr ⟨found, hfound, rfl, hwritable⟩
      · cases hcall
  | migrateV2ToV3 | migrateV3ToV4 | migrateV4ToV5 | migrateLegacyToV6 =>
      cases hcall
  | initializeVault | setSwig | requestWithdrawal | finalizeWithdrawal
  | forceRelease | rotatePasskey | rotateDexterAuthority | provePasskey
  | revokeSessionKey | settleTabVoucher | setSwigAtomic | migrateV5ToV6
  | migrateV5ToV6WithSession | lockVoucher | transferLockOwnership
  | settleLockedVoucher | recoverAbandonedLock | openStandby | drawCredit
  | repayCredit | seizeCollateral | setStandbyReserve | closeStandby
  | closeSession =>
      simp only [callOf] at hcall
      split at hcall
      · cases hcall
        simp [Locks.writable, writableKeys, slots, Slot.writes]
      · cases hcall

theorem readable_of_callOf (hcall : callOf context swigCreated remaining
    entrypoint args keys = some call) :
    ∀ key ∈ readable call,
      key ∈ keys ∨ ∃ found ∈ remaining, found.key = key := by
  cases entrypoint with
  | registerSessionKey =>
      simp only [callOf] at hcall
      split at hcall
      · cases hcall
        intro key hmem
        simp only [readable, List.mem_cons, List.mem_map, List.mem_filter] at hmem
        rcases hmem with rfl | ⟨found, ⟨hfound, -⟩, rfl⟩
        · simp
        · exact .inr ⟨found, hfound, rfl⟩
      · cases hcall
  | migrateV2ToV3 | migrateV3ToV4 | migrateV4ToV5 | migrateLegacyToV6 =>
      cases hcall
  | initializeVault | setSwig | settleVoucher | requestWithdrawal
  | finalizeWithdrawal | forceRelease | rotatePasskey | rotateDexterAuthority
  | provePasskey | revokeSessionKey | settleTabVoucher | setSwigAtomic
  | migrateV5ToV6 | migrateV5ToV6WithSession | lockVoucher
  | transferLockOwnership | settleLockedVoucher | recoverAbandonedLock
  | openStandby | drawCredit | repayCredit | seizeCollateral
  | setStandbyReserve | closeStandby | closeSession =>
      simp only [callOf] at hcall
      split at hcall
      · cases hcall
        simp [readable]
      · cases hcall

end Passed

section Confinement

variable {raw : RawCall} {call : Call}

/-- Every account that a call locks is passed by its instruction. -/
theorem locks_passed (hdecode : raw.decode = some call) :
    (locks call).writes ⊆ raw.passed.writes ∧
      (locks call).reads ⊆ raw.passed.all := by
  simp only [RawCall.decode, Option.bind_eq_bind, Option.bind_eq_some_iff,
    Prod.exists] at hdecode
  obtain ⟨request, -, keys, remaining, hfetch, hcall⟩ := hdecode
  have hremaining : ∀ acct ∈ RawCall.siblings remaining,
      ∃ found ∈ raw.instruction.accounts,
        found.key = acct.key ∧ found.isWritable = acct.isWritable := by
    intro acct hmem
    obtain ⟨found, hfound, rfl⟩ := List.mem_map.mp hmem
    exact ⟨found, (remaining_suffix hfetch).subset hfound, rfl, rfl⟩
  constructor
  · intro key hkey
    rcases writable_of_callOf hcall key hkey with hslot | ⟨acct, hacct, rfl, hwrite⟩
    · exact writable_of_fetch hfetch key hslot
    · obtain ⟨found, hfound, hsame, hflag⟩ := hremaining acct hacct
      exact ⟨found, hfound, hsame, hflag.trans hwrite⟩
  · intro key hkey
    rcases readable_of_callOf hcall key hkey with hslot | ⟨acct, hacct, rfl⟩
    · have hmem : key ∈ raw.instruction.accounts.map CpiMeta.key := by
        rw [keys_of_fetch hfetch]
        exact List.mem_append_left _ hslot
      obtain ⟨found, hfound, hsame⟩ := List.mem_map.mp hmem
      exact .inl ⟨found, hfound, hsame⟩
    · obtain ⟨found, hfound, hsame, -⟩ := hremaining acct hacct
      exact .inl ⟨found, hfound, hsame⟩

/-- The program as the runtime enters it. -/
def entry (runtime : Runtime) : Transition.System State RawCall
    (Option ProgramError) :=
  behind RawCall.decode (system runtime)

/-- Whatever its bytes, an instruction changes no account that it does not pass
writable, and its outcome depends on the accounts it passes alone. -/
theorem entry_confined (runtime : Runtime) :
    Confined (entry runtime) cell RawCall.passed := by
  have hconfined : Confined (system runtime) cell locks :=
    ⟨fun _ call next hok => step_frames call next hok,
      fun _ _ call hsame => step_shares call hsame⟩
  exact hconfined.behind fun _ _ hdecode => locks_passed hdecode

end Confinement

end DexterVault.RawCalls
