import DexterVault.Custody.ValueBinding
import DexterVault.Program.RawTransaction

/-!
# What moves the money of a swig

`set_swig_atomic` adds three roles.  Under two of them the Swig program relies on
an instruction of the vault program, each with a marker that the data of the
instruction must start with.  Of the thirty functions of the program these are
the discriminators of two: under these two roles the wallet pays behind a
withdrawal that the passkey has signed or behind a voucher that a session key has
signed, and behind nothing else.  Under the third role, the one of the session
master, it pays up to a limit with no instruction of the vault program at all;
such a payment is a foreign instruction here.
-/

namespace DexterVault.SwigRoles

open DexterVault.Machine
open DexterVault.Framing
open DexterVault.Wire
open DexterVault.Accounts
open DexterVault.Execution
open DexterVault.Webauthn
open DexterVault.Withdrawal
open DexterVault.Voucher
open DexterVault.SwigCompat
open DexterVault.SwigCalls
open DexterVault.Program
open DexterVault.Transactions
open DexterVault.Entrypoints
open DexterVault.RawCalls
open DexterVault.RawTransactions

variable {runtime : Runtime} {markers : Markers}

/-! ## The markers of a swig -/

/-- The marker of a role that relies on the vault program; the session role has
none. -/
def vaultMarker : SwigMessage → Option Bytes
  | .addAuthorityV1 _ (.programExec program marker) _ _ =>
      if program = programId then some marker else none
  | _ => none

/-- The markers of the roles of that kind that `set_swig_atomic` adds. -/
def registered (accounts : SetSwigAtomic) (args : SetSwigAtomicArgs) :
    List Bytes :=
  (messages accounts args).filterMap fun request => vaultMarker request.2

theorem registered_eq (accounts : SetSwigAtomic) (args : SetSwigAtomicArgs) :
    registered accounts args =
      [Entrypoint.finalizeWithdrawal.discriminator,
        Entrypoint.settleTabVoucher.discriminator] := rfl

/-! ## What stands behind a payment -/

/-- A call that one of the two keys of a user stands behind, on a vault that is
bound to the swig. -/
inductive Warranted (runtime : Runtime) (before : State) (swig wallet : Pubkey) :
    Call → Prop
  | withdrawal {context : Context} {accounts : FinalizeWithdrawal}
      {args : Assertion} {vault : Vault} {pending : PendingWithdrawal}
      {ata : TokenAccount} (hswig : accounts.swig = swig)
      (hwallet : accounts.swigWalletAddress = wallet)
      (hfinalized : Finalized runtime context accounts args before vault pending
        ata) :
      Warranted runtime before swig wallet
        (.finalizeWithdrawal context accounts args)
  | voucher {context : Context} {accounts : SettleTabVoucher}
      {args : SettleTabVoucherArgs} {vault : Vault} {account : SessionAccount}
      {increment : U64} (hswig : accounts.swig = swig)
      (hwallet : accounts.swigWalletAddress = wallet)
      (hsettled : TabSettled runtime context accounts args before vault account
        increment) :
      Warranted runtime before swig wallet (.settleTabVoucher context accounts args)

section Payments

variable {context : Context} {swigCreated : Bool} {remaining : List AccountMeta}
  {entrypoint : Entrypoint} {args : Args entrypoint} {keys : List Pubkey}
  {call : Call} {before after : State} {swig wallet : Pubkey}

theorem warranted_of_ok
    (hentrypoint : entrypoint = .finalizeWithdrawal ∨
      entrypoint = .settleTabVoucher)
    (hcall : callOf context swigCreated remaining entrypoint args keys =
      some call)
    (hdriven : Call.drivenWallet call = some (swig, wallet))
    (hstep : step runtime before call = .ok after) :
    Warranted runtime before swig wallet call := by
  rcases hentrypoint with rfl | rfl
  · simp only [callOf] at hcall
    split at hcall
    · cases hcall
      cases hdriven
      obtain ⟨vault, pending, ata, hfinalized, -⟩ := finalizeWithdrawal_ok hstep
      exact .withdrawal rfl rfl hfinalized
    · cases hcall
  · simp only [callOf] at hcall
    split at hcall
    · cases hcall
      cases hdriven
      obtain ⟨vault, account, increment, hsettled, -⟩ := settleTabVoucher_ok hstep
      exact .voucher rfl rfl hsettled
    · cases hcall

end Payments

/-- What stands right before a payment under a role that relies on the vault
program: an instruction of that program with the swig and its wallet in front,
which is a warranted call unless it runs on an older layout. -/
structure PaidBehind (runtime : Runtime) (swig wallet : Pubkey)
    (transfer : Transfer) (last : RawItem) : Prop where
  accounts : [swig, wallet] <+: last.instruction.accounts.map CpiMeta.key
  entered : ∃ entrypoint : Entrypoint,
    (entrypoint = .finalizeWithdrawal ∨ entrypoint = .settleTabVoucher) ∧
      entrypoint.discriminator <+: last.instruction.data
  warranted : last.deed = .image ∨ ∃ swigCreated call before between after,
    last.deed = .vault swigCreated call ∧
      Warranted runtime before swig wallet call ∧
      step runtime before call = .ok between ∧
      transferChecked wallet transfer between = .ok after

/-- In every transaction that lands, a swig with the two roles of
`set_swig_atomic` that rely on the vault program pays under them behind nothing
but a finalized withdrawal or a settled voucher. -/
theorem pays_behind {raw : RawTransaction} {start finish : State}
    {accounts : SetSwigAtomic} {args : SetSwigAtomicArgs} {swig wallet : Pubkey}
    {transfer : Transfer} {earlier later : List RawItem} {item : RawItem}
    (hlands : RawLands runtime markers raw start finish)
    (hroles : markers swig = registered accounts args)
    (hitems : raw.items = earlier ++ item :: later)
    (hdeed : item.deed = .signV2 swig wallet transfer) :
    ∃ front last, earlier = front ++ [last] ∧
      PaidBehind runtime swig wallet transfer last := by
  have hexecutes := hlands.executes
  rw [hitems] at hexecutes
  obtain ⟨between, after, hreached, hdoes, -⟩ := hexecutes.split
  rw [Does, hdeed] at hdoes
  obtain ⟨hexec, hpaid⟩ := hdoes
  rcases List.eq_nil_or_concat' earlier with rfl | ⟨front, last, rfl⟩
  · exact hexec.elim
  refine ⟨front, last, rfl, ?_⟩
  rw [List.getLast?_concat] at hexec
  obtain ⟨hprogram, haccounts, marker, hmarker, hfront⟩ := hexec
  -- the marker is one of the two discriminators
  rw [hroles, registered_eq] at hmarker
  obtain ⟨entrypoint, hentrypoint, rfl⟩ : ∃ entrypoint : Entrypoint,
      (entrypoint = .finalizeWithdrawal ∨ entrypoint = .settleTabVoucher) ∧
        marker = entrypoint.discriminator := by
    simp only [List.mem_cons, List.not_mem_nil, or_false] at hmarker
    rcases hmarker with rfl | rfl
    · exact ⟨_, .inl rfl, rfl⟩
    · exact ⟨_, .inr rfl, rfl⟩
  refine ⟨haccounts, ⟨entrypoint, hentrypoint, hfront⟩, ?_⟩
  by_cases hlayout : last.deed = .image
  · exact .inl hlayout
  right
  obtain ⟨before, middle, -, hcalled, hdone⟩ := hreached.split
  cases hdone
  have hat : raw.items[front.length]? = some last := by
    rw [hitems, List.append_assoc, List.getElem?_append_right (Nat.le_refl _),
      Nat.sub_self]
    rfl
  obtain ⟨swigCreated, call, _, keys, _, hlast, hfetch, hcall⟩ :=
    call_of_front (hlands.decodes _ last hat) hprogram hlayout hfront
  rw [Does, hlast] at hcalled
  have hdrives : entrypoint ∈ drivers := by
    rcases hentrypoint with rfl | rfl <;> decide
  have hdriven := drivenWallet_of_callOf hdrives hfetch hcall haccounts
  exact ⟨swigCreated, call, before, between, after, hlast,
    warranted_of_ok hentrypoint hcall hdriven hcalled, hcalled, hpaid⟩

/-! ## The withdrawal of 10 with its account lists -/

section Examples

open Deployment
open ValueBinding

def sampleAccounts : SetSwigAtomic :=
  ⟨Deployment.vaultKey, authority, swig, walletKey⟩

def sampleArgs : SetSwigAtomicArgs :=
  ⟨assertion [], FixedBytes.zero, 255, 254, authority⟩

def sampleRoles : Markers := fun _ => registered sampleAccounts sampleArgs

def finalizeArgs : Assertion :=
  assertion (finalizeWithdrawalMessage storedWithdrawal)

def consentRaw : CpiInstruction :=
  ⟨consentInstruction.programId, [], consentInstruction.data⟩

def finalizeRaw : CpiInstruction where
  programId := programId
  accounts :=
    [⟨swig, false, true⟩, ⟨walletKey, false, true⟩,
      ⟨Deployment.vaultKey, false, true⟩, ⟨ataKey, false, false⟩,
      ⟨instructionsSysvarId, false, false⟩]
  data := (request.encode ⟨.finalizeWithdrawal, finalizeArgs⟩).getD []

def signRaw : CpiInstruction := ⟨swigProgramId, [], []⟩

def rawContext : Context where
  instructions :=
    [consentInstruction, ⟨programId, finalizeRaw.data⟩, signInstruction]
  currentIndex := 1
  signers := []
  unixTimestamp := Deployment.now

def rawFinalizeCall : Call :=
  .finalizeWithdrawal rawContext
    ⟨swig, walletKey, Deployment.vaultKey, ataKey⟩ finalizeArgs

def payee : Transfer := ⟨ataKey, usdcMainnet, payeeAccount, 10⟩

def signItem : RawItem := ⟨signRaw, .signV2 swig walletKey payee⟩

def rawWithdrawal : RawTransaction where
  items :=
    [⟨consentRaw, .foreign⟩, ⟨finalizeRaw, .vault false rawFinalizeCall⟩,
      signItem]
  signers := []
  unixTimestamp := Deployment.now

theorem rawFinalize_steps :
    RawCall.decode ⟨rawContext, false, finalizeRaw⟩ = some rawFinalizeCall ∧
      step sampleRuntime (withdrawing (some storedWithdrawal) 100 0 0)
        rawFinalizeCall = .ok (withdrawing none 100 0 0) ∧
      Entrypoint.finalizeWithdrawal.discriminator <+: finalizeRaw.data := by
  decide +kernel

theorem rawWithdrawal_lands :
    RawLands sampleRuntime sampleRoles rawWithdrawal
      (withdrawing (some storedWithdrawal) 100 0 0) paid := by
  obtain ⟨hdecode, hstep, hfront⟩ := rawFinalize_steps
  constructor
  · intro index item hitem
    match index with
    | 0 =>
        cases hitem
        show consentInstruction.programId ≠ programId
        decide
    | 1 =>
        cases hitem
        exact ⟨rfl, hdecode⟩
    | 2 =>
        cases hitem
        rfl
    | index + 3 => cases hitem
  · have hconsent : Environment (withdrawing (some storedWithdrawal) 100 0 0)
        (withdrawing (some storedWithdrawal) 100 0 0) := .tokens _ _
    have hexec : RawProgramExec sampleRoles swig walletKey
        (some ⟨finalizeRaw, .vault false rawFinalizeCall⟩) :=
      ⟨rfl, List.prefix_append _ _, _, List.mem_cons_self, hfront⟩
    exact .item hconsent (.item hstep (.item ⟨hexec, paid_transfer⟩ .done))

theorem lands_of_raw_withdrawal :
    Lands sampleRuntime sampleRoles rawWithdrawal.transaction
      (withdrawing (some storedWithdrawal) 100 0 0) paid := by
  refine lands_of_raw rfl ?_ ?_ rawWithdrawal_lands
  · intro _ marker hmarker
    rw [sampleRoles, registered_eq, List.mem_pair] at hmarker
    rcases hmarker with rfl | rfl
    · exact ⟨_, by decide, rfl⟩
    · exact ⟨_, by decide, rfl⟩
  · intro item hmem himage
    simp only [rawWithdrawal, signItem, List.mem_cons, List.not_mem_nil,
      or_false] at hmem
    rcases hmem with rfl | rfl | rfl <;> cases himage

theorem pays_behind_withdrawal : ∃ front last,
    [⟨consentRaw, .foreign⟩, ⟨finalizeRaw, .vault false rawFinalizeCall⟩] =
        front ++ [last] ∧
      PaidBehind sampleRuntime swig walletKey payee last := by
  have hroles : sampleRoles swig = registered sampleAccounts sampleArgs := rfl
  have hitems : rawWithdrawal.items =
      [⟨consentRaw, .foreign⟩, ⟨finalizeRaw, .vault false rawFinalizeCall⟩] ++
        [signItem] := rfl
  exact pays_behind rawWithdrawal_lands hroles hitems rfl

end Examples

end DexterVault.SwigRoles
