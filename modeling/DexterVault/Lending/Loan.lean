import DexterVault.Core.History
import DexterVault.Program.Deployment
import DexterVault.Program.Images
import DexterVault.Program.TermsChange

/-!
# The loan of a vault

A financier backs a vault up to a cap, the vault draws against the cap, and the
loan goes back by repayment or seizure.  Five instructions write the four
fields of this credit line; together they keep the loan within the cap and
every unit that was drawn accounted for.
-/

namespace DexterVault.Loan

open DexterVault.Machine
open DexterVault.Accounts
open DexterVault.Execution
open DexterVault.Transition
open DexterVault.Credit
open DexterVault.Program

variable {runtime : Runtime} {vaultKey : Pubkey}

/-! ## The credit line -/

structure CreditLine where
  borrowed : U64
  standbyBacker : Option Pubkey
  standbyCap : U64
  borrowRecoveryAt : Option I64

def creditLine (terms : VaultTerms) : CreditLine where
  borrowed := terms.borrowed
  standbyBacker := terms.standbyBacker
  standbyCap := terms.standbyCap
  borrowRecoveryAt := terms.borrowRecoveryAt

def creditLine? (state : State) (vaultKey : Pubkey) : Option CreditLine :=
  (state.terms? vaultKey).map creditLine

/-- The line after a repayment. -/
def repaidLine (line : CreditLine) (amount : U64) : CreditLine :=
  let borrowed := saturatingSub line.borrowed (min amount line.borrowed)
  { line with
    borrowed := borrowed
    borrowRecoveryAt := if borrowed = 0 then none else line.borrowRecoveryAt }

/-- The vault whose credit line a call writes. -/
def creditVault : Call → Option Pubkey
  | .openStandby _ accounts _ => some accounts.vault
  | .drawCredit _ accounts _ => some accounts.vault
  | .repayCredit _ accounts _ => some accounts.vault
  | .seizeCollateral _ accounts => some accounts.vault
  | .closeStandby _ accounts _ => some accounts.vault
  | _ => none

/-- What an accepted call makes of the credit line of one vault. -/
inductive CreditMove (before : State) (vaultKey : Pubkey) :
    Call → Option CreditLine → Prop
  | kept {call : Call} (hother : creditVault call ≠ some vaultKey) :
      CreditMove before vaultKey call (creditLine? before vaultKey)
  | created {call : Call} (hother : creditVault call = none)
      (hvacant : before.terms? vaultKey = none) :
      CreditMove before vaultKey call (some ⟨0, none, 0, none⟩)
  | migrated {call : Call} {image : VaultV5Reader} {line : CreditLine}
      (himage : before.vaultV5? vaultKey = some image) :
      CreditMove before vaultKey call (some line)
  | opened {context : Context} {accounts : OpenStandby} {args : OpenStandbyArgs}
      {line : CreditLine} (hkey : accounts.vault = vaultKey)
      (hline : creditLine? before vaultKey = some line)
      (hcovers : line.borrowed ≤ args.cap) :
      CreditMove before vaultKey (.openStandby context accounts args)
        (some { line with
          standbyBacker := some accounts.financierSwig
          standbyCap := args.cap })
  | drawn {context : Context} {accounts : DrawCredit} {args : DrawCreditArgs}
      {line : CreditLine} {newBorrowed : U64} {recoveryAt : Option I64}
      (hkey : accounts.vault = vaultKey)
      (hline : creditLine? before vaultKey = some line)
      (hbacker : line.standbyBacker ≠ none)
      (hborrowed : newBorrowed.val = line.borrowed.val + args.amount.val)
      (hcap : newBorrowed ≤ line.standbyCap)
      (hrecovery : armedRecovery line.borrowRecoveryAt context.unixTimestamp
        args.recoveryWindowSeconds = .ok recoveryAt) :
      CreditMove before vaultKey (.drawCredit context accounts args)
        (some { line with
          borrowed := newBorrowed
          borrowRecoveryAt := recoveryAt })
  | repaid {context : Context} {accounts : CreditExit} {args : RepayCreditArgs}
      {line : CreditLine} (hkey : accounts.vault = vaultKey)
      (hline : creditLine? before vaultKey = some line)
      (hborrowed : 0 < line.borrowed) :
      CreditMove before vaultKey (.repayCredit context accounts args)
        (some (repaidLine line args.amount))
  | seized {context : Context} {accounts : CreditExit} {line : CreditLine}
      (hkey : accounts.vault = vaultKey)
      (hline : creditLine? before vaultKey = some line)
      (hborrowed : 0 < line.borrowed) :
      CreditMove before vaultKey (.seizeCollateral context accounts)
        (some { line with borrowed := 0, borrowRecoveryAt := none })
  | closed {context : Context} {accounts : CloseStandby}
      {args : CloseStandbyArgs} {line : CreditLine}
      (hkey : accounts.vault = vaultKey)
      (hline : creditLine? before vaultKey = some line)
      (hrepaid : line.borrowed = 0) :
      CreditMove before vaultKey (.closeStandby context accounts args)
        (some { line with standbyBacker := none, standbyCap := 0 })

section Moves

variable {before after : State} {call : Call}

theorem creditLine?_of_vault? {vault : Vault}
    (hvault : before.vault? vaultKey = some vault) :
    creditLine? before vaultKey = some (creditLine vault.terms) := by
  rw [creditLine?, State.terms?_of_vault? hvault, Option.map_some]

theorem creditVault_ne (hother : call.termsVault ≠ some vaultKey) :
    creditVault call ≠ some vaultKey := by
  cases call with
  | openStandby => exact hother
  | drawCredit => exact hother
  | repayCredit => exact hother
  | seizeCollateral => exact hother
  | closeStandby => exact hother
  | _ => exact (Option.some_ne_none vaultKey).symm

/-- Other terms may change, the line stays. -/
theorem CreditMove.of_same {vault : Vault} {written : VaultTerms}
    (hother : creditVault call = none)
    (hvault : before.vault? vaultKey = some vault)
    (hsame : creditLine written = creditLine vault.terms) :
    CreditMove before vaultKey call ((some written).map creditLine) := by
  rw [Option.map_some, hsame, ← creditLine?_of_vault? hvault]
  apply CreditMove.kept
  rw [hother]
  exact (Option.some_ne_none vaultKey).symm

theorem step_credit (vaultKey : Pubkey)
    (hstep : step runtime before call = .ok after) :
    CreditMove before vaultKey call (creditLine? after vaultKey) := by
  have hmove := step_move vaultKey hstep
  rw [creditLine?]
  generalize after.terms? vaultKey = moved at hmove ⊢
  cases hmove with
  | kept hother => exact .kept (creditVault_ne hother)
  | created hkey hvacant => exact .created rfl hvacant
  | migrated hcall himage => exact .migrated himage
  | tabOpened _ _ hvault => exact .of_same rfl hvault rfl
  | tabClosed _ _ hvault => exact .of_same rfl hvault rfl
  | tabSettled _ hvault => exact .of_same rfl hvault rfl
  | requested hrequested => exact .of_same rfl hrequested.vaultAt rfl
  | finalized hkey hfinalized =>
      exact .of_same rfl (hkey ▸ hfinalized.vaultAt) rfl
  | released hreleased => exact .of_same rfl hreleased.vaultAt rfl
  | rotated hvault => exact .of_same rfl hvault rfl
  | standbyOpened hkey hopened =>
      exact .opened hkey (creditLine?_of_vault? (hkey ▸ hopened.vaultAt))
        hopened.covers
  | drawn hkey hdrawn =>
      have hbacker := hdrawn.backer.trans_ne (Option.some_ne_none _)
      exact .drawn hkey (creditLine?_of_vault? (hkey ▸ hdrawn.vaultAt)) hbacker
        hdrawn.borrowed hdrawn.withinCap hdrawn.recovery
  | repaid hkey hexited =>
      exact .repaid hkey (creditLine?_of_vault? (hkey ▸ hexited.vaultAt))
        hexited.borrowed
  | seized hkey hexited =>
      exact .seized hkey (creditLine?_of_vault? (hkey ▸ hexited.vaultAt))
        hexited.borrowed
  | standbyClosed hkey hclosed =>
      exact .closed hkey (creditLine?_of_vault? (hkey ▸ hclosed.vaultAt))
        hclosed.repaid

theorem environment_credit (hmove : Environment before after) :
    creditLine? after vaultKey = creditLine? before vaultKey := by
  rw [creditLine?, environment_terms hmove, creditLine?]

end Moves

/-! ## The loan stays within the cap -/

structure Covered (line : CreditLine) : Prop where
  withinCap : line.borrowed ≤ line.standbyCap
  unbacked : line.standbyBacker = none →
    line.borrowed = 0 ∧ line.standbyCap = 0

/-- The invariant: the vault was never an image, and its loan is covered. -/
structure LoanCovered (vaultKey : Pubkey) (state : State) : Prop where
  noImage : state.vaultV5? vaultKey = none
  covered : ∀ line, creditLine? state vaultKey = some line → Covered line

theorem repaidLine_borrowed_le (line : CreditLine) (amount : U64) :
    (repaidLine line amount).borrowed ≤ line.borrowed :=
  Nat.sub_le _ _

section Steps

variable {before after : State} {call : Call}

/-- The step lemma. -/
theorem loanCovered_step (hloan : LoanCovered vaultKey before)
    (hstep : step runtime before call = .ok after) :
    LoanCovered vaultKey after := by
  constructor
  case noImage => exact step_images hstep vaultKey hloan.noImage
  case covered =>
    have hmove := step_credit vaultKey hstep
    intro line hafter
    rw [hafter] at hmove
    generalize hmoved : some line = moved at hmove
    cases hmove with
    | kept hother => exact hloan.covered line hmoved.symm
    | created hother hvacant =>
        cases hmoved
        exact ⟨le_refl _, fun _ => ⟨rfl, rfl⟩⟩
    | migrated himage => cases himage.symm.trans hloan.noImage
    | opened hkey hline hcovers =>
        cases hmoved
        exact ⟨hcovers, fun hnone => by cases hnone⟩
    | drawn hkey hline hbacker hborrowed hcap hrecovery =>
        cases hmoved
        exact ⟨hcap, fun hnone => absurd hnone hbacker⟩
    | @repaid _ _ args found hkey hline hborrowed =>
        cases hmoved
        have hcovered := hloan.covered found hline
        constructor
        · exact le_trans (repaidLine_borrowed_le found args.amount)
            hcovered.withinCap
        · intro hnone
          exact absurd (hcovered.unbacked hnone).1 hborrowed.ne'
    | @seized _ _ found hkey hline hborrowed =>
        cases hmoved
        have hcovered := hloan.covered found hline
        constructor
        · exact Nat.zero_le _
        · exact fun hnone => ⟨rfl, (hcovered.unbacked hnone).2⟩
    | closed hkey hline hrepaid =>
        cases hmoved
        exact ⟨hrepaid.le, fun _ => ⟨hrepaid, rfl⟩⟩

/-- The run lemma. -/
theorem loanCovered_run {start state : State} {trace : Trace}
    (hvacant : NoVault start vaultKey)
    (hrun : Run (system runtime) start trace state) :
    LoanCovered vaultKey state := by
  apply hrun.invariant (LoanCovered vaultKey)
  · constructor
    · exact hvacant.image
    · intro line hline
      rw [creditLine?, hvacant.terms] at hline
      cases hline
  · exact fun before call after hloan hstep => loanCovered_step hloan hstep
  · intro before after hloan hmove
    constructor
    · exact environment_images hmove vaultKey hloan.noImage
    · rw [environment_credit hmove]
      exact hloan.covered

end Steps

/-! ## Every unit drawn is accounted for -/

/-- The loan of a vault, zero where there is no vault. -/
def owed (vaultKey : Pubkey) (state : State) : ℕ :=
  (creditLine? state vaultKey).elim 0 fun line => line.borrowed.val

def drawnAmount (vaultKey : Pubkey) (accepted : Accepted State Call) : ℕ :=
  match accepted.call with
  | .drawCredit _ accounts args =>
      if accounts.vault = vaultKey then args.amount.val else 0
  | _ => 0

/-- What a repayment takes off the loan, clamped to the loan. -/
def clampedRepayment (vaultKey : Pubkey) (accepted : Accepted State Call) : ℕ :=
  match accepted.call with
  | .repayCredit _ accounts args =>
      if accounts.vault = vaultKey then
        min args.amount.val (owed vaultKey accepted.before)
      else
        0
  | _ => 0

def seizedAmount (vaultKey : Pubkey) (accepted : Accepted State Call) : ℕ :=
  match accepted.call with
  | .seizeCollateral _ accounts =>
      if accounts.vault = vaultKey then owed vaultKey accepted.before else 0
  | _ => 0

section Balance

variable {before after : State} {call : Call}

theorem owed_of_line {line : CreditLine}
    (hline : creditLine? before vaultKey = some line) :
    owed vaultKey before = line.borrowed.val := by
  rw [owed, hline, Option.elim_some]

/-- A call on another vault moves nothing of this one. -/
theorem amounts_of_other (hother : creditVault call ≠ some vaultKey) :
    drawnAmount vaultKey ⟨before, call, after⟩ = 0 ∧
      clampedRepayment vaultKey ⟨before, call, after⟩ = 0 ∧
      seizedAmount vaultKey ⟨before, call, after⟩ = 0 := by
  have hne : ∀ key, creditVault call = some key → key ≠ vaultKey := by
    rintro key hkey rfl
    exact hother hkey
  cases call with
  | drawCredit => exact ⟨if_neg (hne _ rfl), rfl, rfl⟩
  | repayCredit => exact ⟨rfl, if_neg (hne _ rfl), rfl⟩
  | seizeCollateral => exact ⟨rfl, rfl, if_neg (hne _ rfl)⟩
  | _ => exact ⟨rfl, rfl, rfl⟩

theorem repaidLine_borrowed_val (line : CreditLine) (amount : U64) :
    (repaidLine line amount).borrowed.val + min amount.val line.borrowed.val =
      line.borrowed.val := by
  change line.borrowed.val - (min amount line.borrowed).val + _ = _
  have hmin : (min amount line.borrowed).val =
      min amount.val line.borrowed.val := Fin.coe_min amount line.borrowed
  omega

/-- One call moves the loan by what it draws, repays and seizes. -/
theorem owed_step (hnone : before.vaultV5? vaultKey = none)
    (hstep : step runtime before call = .ok after) :
    owed vaultKey before + drawnAmount vaultKey ⟨before, call, after⟩ =
      owed vaultKey after +
        (clampedRepayment vaultKey ⟨before, call, after⟩ +
          seizedAmount vaultKey ⟨before, call, after⟩) := by
  have hmove := step_credit vaultKey hstep
  generalize hafter : creditLine? after vaultKey = moved at hmove
  cases hmove with
  | kept hother =>
      obtain ⟨hdrawn, hrepaid, hseized⟩ := amounts_of_other hother
      rw [hdrawn, hrepaid, hseized, owed, owed, hafter]
  | created hother hvacant =>
      have hne : creditVault call ≠ some vaultKey := by
        rw [hother]
        exact (Option.some_ne_none vaultKey).symm
      obtain ⟨hdrawn, hrepaid, hseized⟩ := amounts_of_other hne
      rw [hdrawn, hrepaid, hseized, owed_of_line hafter, owed, creditLine?,
        hvacant]
      rfl
  | migrated himage => cases himage.symm.trans hnone
  | opened hkey hline hcovers =>
      rw [owed_of_line hafter, owed_of_line hline]
      rfl
  | @drawn context accounts args _ _ _ hkey hline hbacker hborrowed =>
      have hamount : drawnAmount vaultKey
          ⟨before, .drawCredit context accounts args, after⟩ =
            args.amount.val := if_pos hkey
      rw [owed_of_line hafter, owed_of_line hline, hamount, ← hborrowed]
      rfl
  | @repaid context accounts args line hkey hline hborrowed =>
      have hamount : clampedRepayment vaultKey
          ⟨before, .repayCredit context accounts args, after⟩ =
            min args.amount.val (owed vaultKey before) := if_pos hkey
      rw [owed_of_line hafter, hamount, owed_of_line hline]
      exact (repaidLine_borrowed_val line args.amount).symm
  | @seized context accounts line hkey hline hborrowed =>
      have hamount : seizedAmount vaultKey
          ⟨before, .seizeCollateral context accounts, after⟩ =
            owed vaultKey before := if_pos hkey
      rw [owed_of_line hafter, hamount, owed_of_line hline]
      change line.borrowed.val + 0 = 0 + (0 + line.borrowed.val)
      omega
  | closed hkey hline hrepaid =>
      rw [owed_of_line hafter, owed_of_line hline]
      rfl

end Balance

section Runs

variable {start state : State} {trace : Trace}

/-- What was drawn is what was repaid, what was seized and what is owed. -/
theorem loan_balanced (hvacant : NoVault start vaultKey)
    (hrun : Run (system runtime) start trace state) :
    moved (drawnAmount vaultKey) trace =
      moved (clampedRepayment vaultKey) trace +
        moved (seizedAmount vaultKey) trace + owed vaultKey state := by
  have hbalance := hrun.balanced (owed vaultKey) (drawnAmount vaultKey)
    (fun accepted => clampedRepayment vaultKey accepted +
      seizedAmount vaultKey accepted)
    (fun earlier before call after hearlier hstep =>
      owed_step (loanCovered_run hvacant hearlier).noImage hstep)
    (fun before after hmove => by rw [owed, environment_credit hmove, owed])
  have hstart : owed vaultKey start = 0 := by
    rw [owed, creditLine?, hvacant.terms]
    rfl
  rw [moved_add, hstart] at hbalance
  omega

/-- A vault that was created in a run owes no more than its cap and owes
nothing without a backer, and what was drawn over the run is what was repaid,
what was seized and what it owes. -/
theorem loan_within_cap (hvacant : NoVault start vaultKey)
    (hrun : Run (system runtime) start trace state) :
    ∀ vault, state.vault? vaultKey = some vault →
      vault.borrowed ≤ vault.standbyCap ∧
      (vault.standbyBacker = none →
        vault.borrowed = 0 ∧ vault.standbyCap = 0) ∧
      moved (drawnAmount vaultKey) trace =
        moved (clampedRepayment vaultKey) trace +
          moved (seizedAmount vaultKey) trace + vault.borrowed.val := by
  intro vault hvault
  have hline := creditLine?_of_vault? hvault
  have hcovered := (loanCovered_run hvacant hrun).covered _ hline
  have hbalance := loan_balanced hvacant hrun
  rw [owed_of_line hline] at hbalance
  exact ⟨hcovered.withinCap, hcovered.unbacked, hbalance⟩

end Runs

section Examples

open DexterVault.Deployment

/-! ### A financier that backs the sample vault -/

def financier : Pubkey := filled 5

def financierWallet : Pubkey :=
  ⟨[57, 173, 106, 96, 208, 122, 59, 150, 216, 19, 116, 166, 17, 190, 254, 115,
    64, 102, 236, 47, 175, 151, 45, 38, 218, 157, 126, 174, 101, 242, 185,
    246], rfl⟩

def backerKey : Pubkey :=
  ⟨[83, 111, 233, 53, 65, 148, 38, 98, 226, 25, 93, 110, 45, 187, 76, 61, 65,
    177, 16, 229, 18, 213, 167, 202, 28, 221, 13, 80, 137, 169, 159, 207], rfl⟩

def lendingRuntime : Runtime :=
  tableRuntime (derivations ++
    [⟨(swigWalletSeeds financier ++ [[255]]).flatten, swigProgramId,
        financierWallet⟩,
      ⟨(standbyBackerSeeds financier ++ [[255]]).flatten, programId,
        backerKey⟩])

def setReserve (reserve : U64) : Call :=
  .setStandbyReserve (plainContext [financierWallet, authority] now)
    ⟨financier, financierWallet, backerKey, authority⟩ ⟨reserve⟩

def openLine (cap : U64) : Call :=
  let message := openStandbyMessage Deployment.vaultKey financier cap
  .openStandby (passkeyContext passkey message [] now)
    ⟨Deployment.vaultKey, financier, backerKey⟩ ⟨assertion message, cap⟩

def draw (amount : U64) (window now : I64) : Call :=
  .drawCredit (plainContext [authority] now)
    ⟨financier, financierWallet, Deployment.vaultKey, authority⟩ ⟨amount, window⟩

def repay (amount : U64) (now : I64) : Call :=
  .repayCredit (plainContext [authority] now)
    ⟨swig, walletKey, Deployment.vaultKey, authority⟩ ⟨amount⟩

def seize (now : I64) : Call :=
  .seizeCollateral (plainContext [authority] now)
    ⟨swig, walletKey, Deployment.vaultKey, authority⟩

/-- The ledger of the financier, with a reserve of 100. -/
def ledgerOf (aggregatePromised : U64) : StandbyBacker :=
  ⟨1, 255, financier, 100, aggregatePromised, .declared⟩

def reserved : State := bound.write backerKey (.standbyBacker (ledgerOf 0))

/-- The vault is backed up to 50. -/
def backed (borrowed : U64) (borrowRecoveryAt : Option I64) : State :=
  (funded.write Deployment.vaultKey (.vault { boundVault with
    borrowed := borrowed
    standbyBacker := some financier
    standbyCap := 50
    borrowRecoveryAt := borrowRecoveryAt })).write backerKey
      (.standbyBacker (ledgerOf 50))

theorem lending_steps :
    step lendingRuntime funded createVault = .ok created ∧
      step lendingRuntime created bindSwig = .ok bound ∧
      step lendingRuntime bound (setReserve 100) = .ok reserved ∧
      step lendingRuntime reserved (openLine 50) = .ok (backed 0 none) := by
  decide +kernel

def backedTrace : Trace :=
  ⟨reserved, openLine 50, backed 0 none⟩ ::
    ⟨bound, setReserve 100, reserved⟩ :: boundTrace

theorem backed_run :
    Run (system lendingRuntime) funded backedTrace (backed 0 none) := by
  obtain ⟨hcreate, hbind, hreserve, hopen⟩ := lending_steps
  have hcreated : Run (system lendingRuntime) funded
      [⟨funded, createVault, created⟩] created := .accept .start hcreate
  have hbound : Run (system lendingRuntime) funded boundTrace bound :=
    hcreated.accept hbind
  have hreserved : Run (system lendingRuntime) funded
      (⟨bound, setReserve 100, reserved⟩ :: boundTrace) reserved :=
    hbound.accept hreserve
  exact hreserved.accept hopen

/-- The vault draws 30, repays 10 and loses the rest to a seizure. -/
def lendingTrace : Trace :=
  ⟨backed 20 (some (I64.saturate 1060)), seize (I64.saturate 1060),
      backed 0 none⟩ ::
    ⟨backed 30 (some (I64.saturate 1060)), repay 10 Deployment.now,
      backed 20 (some (I64.saturate 1060))⟩ ::
    ⟨backed 0 none, draw 30 (I64.saturate 60) Deployment.now,
      backed 30 (some (I64.saturate 1060))⟩ :: backedTrace

theorem loan_steps :
    step lendingRuntime (backed 0 none)
        (draw 30 (I64.saturate 60) Deployment.now) =
          .ok (backed 30 (some (I64.saturate 1060))) ∧
      step lendingRuntime (backed 30 (some (I64.saturate 1060)))
        (repay 10 Deployment.now) =
          .ok (backed 20 (some (I64.saturate 1060))) ∧
      step lendingRuntime (backed 20 (some (I64.saturate 1060)))
        (seize (I64.saturate 1060)) = .ok (backed 0 none) := by
  decide +kernel

theorem lending_run :
    Run (system lendingRuntime) funded lendingTrace (backed 0 none) := by
  obtain ⟨hdraw, hrepay, hseize⟩ := loan_steps
  have hdrawn : Run (system lendingRuntime) funded
      (⟨backed 0 none, draw 30 (I64.saturate 60) Deployment.now,
        backed 30 (some (I64.saturate 1060))⟩ :: backedTrace)
      (backed 30 (some (I64.saturate 1060))) := backed_run.accept hdraw
  have hrepaid : Run (system lendingRuntime) funded lendingTrace.tail
      (backed 20 (some (I64.saturate 1060))) := hdrawn.accept hrepay
  exact hrepaid.accept hseize

theorem loan_within_cap_seized :
    (0 : U64) ≤ 50 ∧
      moved (drawnAmount Deployment.vaultKey) lendingTrace =
        moved (clampedRepayment Deployment.vaultKey) lendingTrace +
          moved (seizedAmount Deployment.vaultKey) lendingTrace +
          (0 : U64).val := by
  obtain ⟨hcap, -, hbalance⟩ :=
    loan_within_cap ⟨by decide +kernel, by decide +kernel⟩ lending_run _
      (rfl : (backed 0 none).vault? Deployment.vaultKey = some _)
  exact ⟨hcap, hbalance⟩

example : moved (drawnAmount Deployment.vaultKey) lendingTrace = 30 ∧
    moved (clampedRepayment Deployment.vaultKey) lendingTrace = 10 ∧
    moved (seizedAmount Deployment.vaultKey) lendingTrace = 20 := by
  decide +kernel

end Examples

end DexterVault.Loan
