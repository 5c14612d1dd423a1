import DexterVault.Instructions.Hops
import DexterVault.Program.Step

/-!
# Older vaults under the current program

The version guards of several instructions admit the stamps V2 to V5, and the
framework reads and writes every vault account in the current layout.  A call
on an older account therefore sees the fields that the current layout finds in
its bytes, and writes an encoding of the current layout over them.
-/

namespace DexterVault.Reading

open DexterVault.Machine
open DexterVault.Framing
open DexterVault.Borsh
open DexterVault.Borsh.Codec
open DexterVault.Accounts
open DexterVault.Execution
open DexterVault.Layouts
open DexterVault.Program
open DexterVault.Setup
open DexterVault.Withdrawal
open DexterVault.Credit

/-! ## Generations -/

inductive Generation
  | v2
  | v3
  | v4
  | v5
  deriving DecidableEq

namespace Generation

/-- The vault as the migration out of the generation reads it. -/
abbrev Value : Generation → Type
  | .v2 => VaultV2
  | .v3 => VaultV3
  | .v4 => VaultV4
  | .v5 => VaultV5Reader

/-- What follows the header. -/
abbrev Tail : Generation → Type
  | .v2 => Option SessionRegistrationV2
  | .v3 => Option SessionRegistrationV3
  | .v4 => Option SessionRegistration × LockOdometers
  | .v5 => Option SessionRegistration × LockOdometers × CreditLine

def layout : (generation : Generation) → Codec generation.Value
  | .v2 => vaultV2
  | .v3 => vaultV3
  | .v4 => vaultV4
  | .v5 => vaultV5Reader

def tail : (generation : Generation) → Codec generation.Tail
  | .v2 => sessionRegistrationV2.option
  | .v3 => sessionRegistrationV3.option
  | .v4 => sessionRegistration.option.prod lockOdometers
  | .v5 => sessionRegistration.option.prod (lockOdometers.prod creditLine)

def fields : (generation : Generation) →
    VaultHeader × generation.Tail ≃ generation.Value
  | .v2 => vaultV2Fields
  | .v3 => vaultV3Fields
  | .v4 => vaultV4Fields
  | .v5 => vaultV5ReaderFields

def stamp : Generation → U8
  | .v2 => vaultVersionV2
  | .v3 => vaultVersionV3
  | .v4 => vaultVersionV4
  | .v5 => vaultVersionV5

theorem layout_eq (generation : Generation) : generation.layout =
    (vaultHeader.prod generation.tail).equiv generation.fields := by
  cases generation <;> rfl

/-- Only the last of them passes the guard of the credit instructions. -/
theorem eq_v5_of_stamp {generation : Generation}
    (hstamp : generation.stamp = vaultVersionV5 ∨
      generation.stamp = vaultVersionV6) : generation = .v5 := by
  revert hstamp
  cases generation <;> decide

variable {generation : Generation}

def header (generation : Generation) (own : generation.Value) : VaultHeader :=
  (generation.fields.symm own).1

def tailOf (generation : Generation) (own : generation.Value) :
    generation.Tail :=
  (generation.fields.symm own).2

@[simp]
theorem header_fields (header : VaultHeader) (tail : generation.Tail) :
    generation.header (generation.fields (header, tail)) = header := by
  rw [Generation.header, Equiv.symm_apply_apply]

@[simp]
theorem tailOf_fields (header : VaultHeader) (tail : generation.Tail) :
    generation.tailOf (generation.fields (header, tail)) = tail := by
  rw [tailOf, Equiv.symm_apply_apply]

theorem encode_layout (header : VaultHeader) (tail : generation.Tail) :
    generation.layout.encode (generation.fields (header, tail)) =
      vaultHeader.encode header ++ generation.tail.encode tail := by
  rw [layout_eq, encode_equiv, Equiv.symm_apply_apply, encode_prod]

def hasSession : (generation : Generation) → generation.Tail → Bool
  | .v2, activeSession => activeSession.isSome
  | .v3, activeSession => activeSession.isSome
  | .v4, (activeSession, _) => activeSession.isSome
  | .v5, (activeSession, _, _) => activeSession.isSome

/-- A generation without the field holds zero, which is what its migration
writes. -/
def outstandingLockedAmount : (generation : Generation) → generation.Tail → U64
  | .v2, _ => 0
  | .v3, _ => 0
  | .v4, (_, odometers) => odometers.outstandingLockedAmount
  | .v5, (_, odometers, _) => odometers.outstandingLockedAmount

def borrowed : (generation : Generation) → generation.Tail → U64
  | .v2, _ => 0
  | .v3, _ => 0
  | .v4, _ => 0
  | .v5, (_, _, credit) => credit.borrowed

/-- A change of the credit line, where there is one. -/
def mapCredit (change : CreditLine → CreditLine) :
    (generation : Generation) → generation.Tail → generation.Tail
  | .v2, activeSession => activeSession
  | .v3, activeSession => activeSession
  | .v4, tail => tail
  | .v5, (activeSession, odometers, credit) =>
      (activeSession, odometers, change credit)

theorem mapCredit_id (tail : generation.Tail) :
    generation.mapCredit id tail = tail := by
  cases generation <;> rfl

end Generation

/-! ## Calls -/

/-- The vault of a call whose version guard admits older stamps. -/
def tolerantVault : Call → Option Pubkey
  | .setSwig _ vault _ => some vault
  | .setSwigAtomic _ accounts _ => some accounts.vault
  | .requestWithdrawal _ vault _ => some vault
  | .finalizeWithdrawal _ accounts _ => some accounts.vault
  | .forceRelease _ vault _ => some vault
  | .rotatePasskey _ vault _ => some vault
  | .rotateDexterAuthority _ accounts _ => some accounts.vault
  | .provePasskey _ vault _ => some vault
  | .openStandby _ accounts _ => some accounts.vault
  | .drawCredit _ accounts _ => some accounts.vault
  | .repayCredit _ accounts _ => some accounts.vault
  | .seizeCollateral _ accounts => some accounts.vault
  | .closeStandby _ accounts _ => some accounts.vault
  | _ => none

/-- The calls whose guard admits no older stamp than V5. -/
def movesCredit : Call → Bool
  | .openStandby .. | .drawCredit .. | .repayCredit .. | .seizeCollateral ..
  | .closeStandby .. => true
  | _ => false

/-- What a call is meant to change of the header. -/
def headerAfter (call : Call) (header : VaultHeader) : VaultHeader :=
  match call with
  | .setSwig _ _ args => { header with swigAddress := args.swigAddress }
  | .setSwigAtomic _ accounts _ =>
      { header with swigAddress := accounts.swigAccount }
  | .requestWithdrawal _ _ args =>
      { header with pendingWithdrawal := some args.pending }
  | .finalizeWithdrawal .. => { header with pendingWithdrawal := none }
  | .forceRelease .. =>
      { header with
        pendingVoucherCount := predecessor header.pendingVoucherCount }
  | .rotatePasskey _ _ args =>
      { header with passkeyPubkey := args.newPasskeyPubkey }
  | .rotateDexterAuthority _ _ args =>
      { header with dexterAuthority := args.newDexterAuthority }
  | _ => header

/-- What a call is meant to change of the credit line. -/
def creditAfter (call : Call) (credit : CreditLine) : CreditLine :=
  match call with
  | .openStandby _ accounts args =>
      { credit with
        standbyBacker := some accounts.financierSwig
        standbyCap := args.cap }
  | .drawCredit context _ args =>
      { credit with
        borrowed := saturatingAdd credit.borrowed args.amount
        borrowRecoveryAt := credit.borrowRecoveryAt <|>
          context.unixTimestamp.checkedAdd args.recoveryWindowSeconds }
  | .repayCredit _ _ args =>
      let borrowed :=
        saturatingSub credit.borrowed (min args.amount credit.borrowed)
      { credit with
        borrowed := borrowed
        borrowRecoveryAt :=
          if borrowed = 0 then none else credit.borrowRecoveryAt }
  | .seizeCollateral .. =>
      { credit with borrowed := 0, borrowRecoveryAt := none }
  | .closeStandby .. => { credit with standbyBacker := none, standbyCap := 0 }
  | _ => credit

/-- The vault of an older generation with only the fields changed that the call
is meant to change. -/
def Generation.intended (generation : Generation) (call : Call)
    (own : generation.Value) : generation.Value :=
  generation.fields (headerAfter call (generation.header own),
    generation.mapCredit (creditAfter call) (generation.tailOf own))

/-- What follows the header in the current layout. -/
abbrev CurrentTail := U8 × LockOdometers × CreditLine

def currentTail : Codec CurrentTail := u8.prod (lockOdometers.prod creditLine)

/-- The change of what follows the header in the current layout. -/
def tailAfter (call : Call) : CurrentTail → CurrentTail
  | (liveSessionCount, odometers, credit) =>
      (liveSessionCount, odometers, creditAfter call credit)

/-- A call on the data of its vault account: the framework decodes the account
before the handler runs and serializes it over the same data afterwards. -/
def runOnImage (runtime : Runtime) (call : Call) (vaultKey : Pubkey)
    (state : State) (data : Bytes) : Result (State × Bytes) := do
  let seen ← tryDeserialize vault data
  let next ← step runtime (state.write vaultKey (.vault seen)) call
  let written ← okOr (next.vault? vaultKey) RuntimeError.accountNotInitialized
  let after ← trySerialize vault written data
  return (next, after)

/-! ## What an accepted call writes -/

section Writes

variable {runtime : Runtime} {call : Call} {vaultKey : Pubkey}
  {state next : State} {header : VaultHeader} {tail : CurrentTail}

theorem recovery_eq_orElse {current recovery : Option I64} {now window : I64}
    (hok : armedRecovery current now window = .ok recovery) :
    recovery = (current <|> now.checkedAdd window) := by
  rcases armedRecovery_ok hok with ⟨rfl, deadline, rfl, harmed⟩ | ⟨hsome, rfl⟩
  · exact harmed.symm
  · cases recovery with
    | none => exact absurd rfl hsome
    | some deadline => rfl

/-- The vault that a tolerant call leaves in the state is the one it found, with
the changes it is meant to make. -/
theorem step_writes (hvault : tolerantVault call = some vaultKey)
    (hseen : state.vault? vaultKey = some (vaultFields (header, tail)))
    (hstep : step runtime state call = .ok next) :
    next.vault? vaultKey =
      some (vaultFields (headerAfter call header, tailAfter call tail)) := by
  obtain ⟨liveSessionCount, odometers, credit⟩ := tail
  have hfind {found : Vault} (hfound : state.vault? vaultKey = some found) :
      found = vaultFields (header, liveSessionCount, odometers, credit) :=
    Option.some.inj (hfound.symm.trans hseen)
  cases call with
  | setSwig context key args =>
      obtain rfl : key = vaultKey := Option.some.inj hvault
      obtain ⟨_, hfound, -, rfl⟩ := setSwig_ok hstep
      obtain rfl := hfind hfound
      exact State.view_write_self
  | setSwigAtomic context accounts args =>
      obtain rfl : accounts.vault = vaultKey := Option.some.inj hvault
      obtain ⟨_, hfound, -, rfl⟩ := setSwigAtomic_ok hstep
      obtain rfl := hfind hfound
      exact State.view_write_self
  | requestWithdrawal context key args =>
      obtain rfl : key = vaultKey := Option.some.inj hvault
      obtain ⟨_, hrequested, rfl⟩ := requestWithdrawal_ok hstep
      obtain rfl := hfind hrequested.vaultAt
      exact State.view_write_self
  | finalizeWithdrawal context accounts args =>
      obtain rfl : accounts.vault = vaultKey := Option.some.inj hvault
      obtain ⟨_, _, _, hfinalized, rfl⟩ := finalizeWithdrawal_ok hstep
      obtain rfl := hfind hfinalized.vaultAt
      exact State.view_write_self
  | forceRelease context key args =>
      obtain rfl : key = vaultKey := Option.some.inj hvault
      obtain ⟨_, _, hreleased, rfl⟩ := forceRelease_ok hstep
      obtain rfl := hfind hreleased.vaultAt
      exact State.view_write_self
  | rotatePasskey context key args =>
      obtain rfl : key = vaultKey := Option.some.inj hvault
      obtain ⟨_, hfound, -, rfl⟩ := rotatePasskey_ok hstep
      obtain rfl := hfind hfound
      exact State.view_write_self
  | rotateDexterAuthority context accounts args =>
      obtain rfl : accounts.vault = vaultKey := Option.some.inj hvault
      obtain ⟨_, hfound, rfl⟩ := rotateDexterAuthority_ok hstep
      obtain rfl := hfind hfound
      exact State.view_write_self
  | provePasskey context key args =>
      obtain rfl : key = vaultKey := Option.some.inj hvault
      rw [provePasskey_unchanged hstep]
      exact hseen
  | openStandby context accounts args =>
      obtain rfl : accounts.vault = vaultKey := Option.some.inj hvault
      obtain ⟨_, _, _, hopened, rfl⟩ := openStandby_ok hstep
      obtain rfl := hfind hopened.vaultAt
      exact State.view_write_self
  | drawCredit context accounts args =>
      obtain rfl : accounts.vault = vaultKey := Option.some.inj hvault
      obtain ⟨_, borrowed, _, hdrawn, rfl⟩ := drawCredit_ok hstep
      obtain rfl := hfind hdrawn.vaultAt
      have hsum : borrowed.val = credit.borrowed.val + args.amount.val :=
        hdrawn.borrowed
      have hborrowed : borrowed = saturatingAdd credit.borrowed args.amount := by
        apply Fin.ext
        rw [saturatingAdd_val_of_lt (hsum ▸ borrowed.isLt), hsum]
      rw [recovery_eq_orElse hdrawn.recovery, hborrowed]
      exact State.view_write_self
  | repayCredit context accounts args =>
      obtain rfl : accounts.vault = vaultKey := Option.some.inj hvault
      obtain ⟨_, hexited, rfl⟩ := repayCredit_ok hstep
      obtain rfl := hfind hexited.vaultAt
      exact State.view_write_self
  | seizeCollateral context accounts =>
      obtain rfl : accounts.vault = vaultKey := Option.some.inj hvault
      obtain ⟨_, hexited, rfl⟩ := seizeCollateral_ok hstep
      obtain rfl := hfind hexited.vaultAt
      exact State.view_write_self
  | closeStandby context accounts args =>
      obtain rfl : accounts.vault = vaultKey := Option.some.inj hvault
      obtain ⟨_, _, hclosed, rfl⟩ := closeStandby_ok hstep
      obtain rfl := hfind hclosed.vaultAt
      exact State.view_write_self
  | _ => cases hvault

/-- The guard of the credit instructions. -/
theorem version_of_movesCredit {seen : Vault}
    (hvault : tolerantVault call = some vaultKey)
    (hseen : state.vault? vaultKey = some seen)
    (hmoves : movesCredit call = true)
    (hstep : step runtime state call = .ok next) :
    seen.version = vaultVersionV5 ∨ seen.version = vaultVersionV6 := by
  have hfind {found : Vault} (hfound : state.vault? vaultKey = some found) :
      found = seen := Option.some.inj (hfound.symm.trans hseen)
  cases call with
  | openStandby context accounts args =>
      obtain rfl : accounts.vault = vaultKey := Option.some.inj hvault
      simp only [step, openStandby, requireVersionV5OrV6, loadVault,
        bind_eq_ok_iff, load_eq_ok_iff, require_eq_ok_iff] at hstep
      obtain ⟨found, hfound, _, _, _, _, _, hversion, -⟩ := hstep
      exact hfind hfound ▸ hversion
  | drawCredit context accounts args =>
      obtain rfl : accounts.vault = vaultKey := Option.some.inj hvault
      simp only [step, drawCredit, requireVersionV5OrV6, loadVault,
        bind_eq_ok_iff, load_eq_ok_iff, require_eq_ok_iff] at hstep
      obtain ⟨found, hfound, _, _, _, _, _, hversion, -⟩ := hstep
      exact hfind hfound ▸ hversion
  | repayCredit context accounts args =>
      obtain rfl : accounts.vault = vaultKey := Option.some.inj hvault
      simp only [step, repayCredit, requireVersionV5OrV6, loadVault,
        bind_eq_ok_iff, load_eq_ok_iff, require_eq_ok_iff] at hstep
      obtain ⟨found, hfound, _, _, _, _, _, _, _, hversion, -⟩ := hstep
      exact hfind hfound ▸ hversion
  | seizeCollateral context accounts =>
      obtain rfl : accounts.vault = vaultKey := Option.some.inj hvault
      simp only [step, seizeCollateral, requireVersionV5OrV6, loadVault,
        bind_eq_ok_iff, load_eq_ok_iff, require_eq_ok_iff] at hstep
      obtain ⟨found, hfound, _, _, _, _, _, _, _, hversion, -⟩ := hstep
      exact hfind hfound ▸ hversion
  | closeStandby context accounts args =>
      obtain rfl : accounts.vault = vaultKey := Option.some.inj hvault
      simp only [step, closeStandby, closeStandbyCore, requireVersionV5OrV6,
        loadVault, bind_eq_ok_iff, load_eq_ok_iff, require_eq_ok_iff] at hstep
      obtain ⟨found, hfound, _, _, _, _, _, _, _, _, _, _, _, ⟨_, hversion, -⟩,
        -⟩ := hstep
      exact hfind hfound ▸ hversion
  | _ => cases hmoves

end Writes

end DexterVault.Reading
