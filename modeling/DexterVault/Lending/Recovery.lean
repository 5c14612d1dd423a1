import DexterVault.Lending.Loan

/-!
# The recovery deadline of a loan

The first draw arms the deadline after which the collateral may be seized, and
the deadline goes away with the loan.  It is the deadline of the open loan as
long as no draw of zero arms one for a loan that does not exist.
-/

namespace DexterVault.Recovery

open DexterVault.Machine
open DexterVault.Accounts
open DexterVault.Execution
open DexterVault.Transition
open DexterVault.Credit
open DexterVault.Program
open DexterVault.Loan

variable {runtime : Runtime} {vaultKey : Pubkey}

/-! ## The draw that opens a loan -/

/-- The accepted call raises the loan of the vault from zero. -/
def OpensLoan (vaultKey : Pubkey) (accepted : Accepted State Call) : Prop :=
  0 < drawnAmount vaultKey accepted ∧ owed vaultKey accepted.before = 0

instance (accepted : Accepted State Call) :
    Decidable (OpensLoan vaultKey accepted) :=
  inferInstanceAs (Decidable (_ ∧ _))

/-- The time of a draw and its recovery window, added up. -/
def drawDeadline : Call → Option ℤ
  | .drawCredit context _ args =>
      some (context.unixTimestamp.val + args.recoveryWindowSeconds.val)
  | _ => none

/-- The deadline of the newest loan of the vault. -/
def LoanDeadline (vaultKey : Pubkey) (trace : Trace) (deadline : ℤ) : Prop :=
  ∃ opening, Latest (OpensLoan vaultKey) trace opening ∧
    drawDeadline opening.call = some deadline

/-- A seizure of the vault comes after the deadline of the loan it takes. -/
def SeizedInTime (vaultKey : Pubkey) (earlier : Trace)
    (accepted : Accepted State Call) : Prop :=
  match accepted.call with
  | .seizeCollateral context accounts => accounts.vault = vaultKey →
      ∃ deadline, LoanDeadline vaultKey earlier deadline ∧
        deadline ≤ context.unixTimestamp.val
  | _ => True

/-! ## The condition on the calls -/

/-- The vault from which a call draws nothing. -/
def emptyDraw : Call → Option Pubkey
  | .drawCredit _ accounts args =>
      if args.amount = 0 then some accounts.vault else none
  | _ => none

/-- A draw of zero from the vault finds an open loan. -/
def DrawsOnLoan (vaultKey : Pubkey) (accepted : Accepted State Call) : Prop :=
  emptyDraw accepted.call = some vaultKey →
    ∀ vault ∈ accepted.before.vault? vaultKey, 0 < vault.borrowed

instance (accepted : Accepted State Call) :
    Decidable (DrawsOnLoan vaultKey accepted) :=
  inferInstanceAs (Decidable (_ →
    ∀ vault ∈ accepted.before.vault? vaultKey, _ < _))

/-! ## The invariant -/

/-- The line has a deadline exactly while it has a loan, and it is the one of
that loan. -/
structure DeadlineOfLoan (vaultKey : Pubkey) (trace : Trace)
    (line : CreditLine) : Prop where
  armed : line.borrowRecoveryAt = none ↔ line.borrowed = 0
  opened : ∀ deadline, line.borrowRecoveryAt = some deadline →
    LoanDeadline vaultKey trace deadline.val

structure DeadlineKept (vaultKey : Pubkey) (trace : Trace) (state : State) :
    Prop where
  noImage : state.vaultV5? vaultKey = none
  kept : ∀ line, creditLine? state vaultKey = some line →
    DeadlineOfLoan vaultKey trace line

section Steps

variable {trace : Trace} {before after : State} {call : Call}

/-- A call that opens no loan leaves the newest loan what it was. -/
theorem LoanDeadline.behind {deadline : ℤ}
    (hopens : ¬ OpensLoan vaultKey ⟨before, call, after⟩)
    (hdeadline : LoanDeadline vaultKey trace deadline) :
    LoanDeadline vaultKey (⟨before, call, after⟩ :: trace) deadline := by
  obtain ⟨opening, hlatest, hcall⟩ := hdeadline
  exact ⟨opening, .behind hopens hlatest, hcall⟩

theorem not_opensLoan_of_undrawn
    (hundrawn : drawnAmount vaultKey ⟨before, call, after⟩ = 0) :
    ¬ OpensLoan vaultKey ⟨before, call, after⟩ := by
  rintro ⟨hdrawn, -⟩
  rw [hundrawn] at hdrawn
  exact absurd hdrawn (lt_irrefl 0)

/-- A call that draws nothing keeps the invariant of the line when it keeps the
deadline, or clears it with the loan. -/
theorem DeadlineOfLoan.undrawn {line written : CreditLine}
    (hline : DeadlineOfLoan vaultKey trace line)
    (hundrawn : drawnAmount vaultKey ⟨before, call, after⟩ = 0)
    (hwritten : written.borrowRecoveryAt = none ↔ written.borrowed = 0)
    (hkept : ∀ deadline, written.borrowRecoveryAt = some deadline →
      line.borrowRecoveryAt = some deadline) :
    DeadlineOfLoan vaultKey (⟨before, call, after⟩ :: trace) written where
  armed := hwritten
  opened := fun deadline hdeadline =>
    .behind (not_opensLoan_of_undrawn hundrawn)
      (hline.opened deadline (hkept deadline hdeadline))

/-- A draw either opens a loan and arms its deadline, or adds to the loan. -/
theorem DeadlineOfLoan.drawn {context : Context} {accounts : DrawCredit}
    {args : DrawCreditArgs} {line : CreditLine} {newBorrowed : U64}
    {recoveryAt : Option I64} (hkey : accounts.vault = vaultKey)
    (hline : DeadlineOfLoan vaultKey trace line)
    (howed : owed vaultKey before = line.borrowed.val)
    (hborrowed : newBorrowed.val = line.borrowed.val + args.amount.val)
    (hrecovery : armedRecovery line.borrowRecoveryAt context.unixTimestamp
      args.recoveryWindowSeconds = .ok recoveryAt)
    (hloan : args.amount = 0 → 0 < line.borrowed) :
    DeadlineOfLoan vaultKey
      (⟨before, .drawCredit context accounts args, after⟩ :: trace)
      { line with borrowed := newBorrowed, borrowRecoveryAt := recoveryAt } := by
  have hamount : drawnAmount vaultKey
      ⟨before, .drawCredit context accounts args, after⟩ = args.amount.val :=
    if_pos hkey
  have hpositive : newBorrowed ≠ 0 := by
    intro hzero
    rw [hzero] at hborrowed
    have hparts := Nat.add_eq_zero_iff.mp hborrowed.symm
    have hopen := hloan (Fin.ext hparts.2)
    rw [Fin.lt_def, hparts.1] at hopen
    exact absurd hopen (lt_irrefl 0)
  rcases armedRecovery_ok hrecovery with ⟨hnone, deadline, rfl, harmed⟩ |
    ⟨hsome, rfl⟩
  · -- nothing is owed, so this draw is the one that opens the loan
    have hzero : line.borrowed = 0 := hline.armed.mp hnone
    have hsum := I64.ofInt?_eq_some_iff.mp harmed
    constructor
    · exact ⟨fun hnone => absurd hnone (Option.some_ne_none deadline),
        fun hzero => absurd hzero hpositive⟩
    · rintro _ ⟨⟩
      refine ⟨_, .here ⟨?_, ?_⟩, ?_⟩
      · rw [hamount]
        apply Nat.pos_of_ne_zero
        intro hempty
        have hopen := hloan (Fin.ext hempty)
        rw [hzero] at hopen
        exact absurd hopen (lt_irrefl 0)
      · exact howed.trans (congrArg Fin.val hzero)
      · rw [hsum]
        rfl
  · constructor
    · exact ⟨fun hnone => absurd hnone hsome,
        fun hzero => absurd hzero hpositive⟩
    · intro deadline hdeadline
      apply LoanDeadline.behind _ (hline.opened deadline hdeadline)
      rintro ⟨-, hunowed⟩
      exact hsome (hline.armed.mpr (Fin.ext (howed.symm.trans hunowed)))

/-- The step lemma. -/
theorem deadlineKept_step (hdeadline : DeadlineKept vaultKey trace before)
    (hdraws : DrawsOnLoan vaultKey ⟨before, call, after⟩)
    (hstep : step runtime before call = .ok after) :
    DeadlineKept vaultKey (⟨before, call, after⟩ :: trace) after := by
  constructor
  case noImage => exact step_images hstep vaultKey hdeadline.noImage
  case kept =>
    have hmove := step_credit vaultKey hstep
    intro line hafter
    rw [hafter] at hmove
    generalize hmoved : some line = moved at hmove
    cases hmove with
    | kept hother =>
        have hline := hdeadline.kept line hmoved.symm
        exact hline.undrawn (amounts_of_other hother).1 hline.armed
          fun _ hsame => hsame
    | created hother hvacant =>
        cases hmoved
        exact ⟨⟨fun _ => rfl, fun _ => rfl⟩, fun _ hnone => by cases hnone⟩
    | migrated himage => cases himage.symm.trans hdeadline.noImage
    | opened hkey hline hcovers =>
        cases hmoved
        have hfound := hdeadline.kept _ hline
        exact hfound.undrawn rfl hfound.armed fun _ hsame => hsame
    | @drawn _ _ args found _ _ hkey hline hbacker hborrowed hcap hrecovery =>
        cases hmoved
        have hfound := hdeadline.kept _ hline
        apply hfound.drawn hkey (owed_of_line hline) hborrowed hrecovery
        intro hzero
        obtain ⟨terms, hterms, rfl⟩ := Option.map_eq_some_iff.mp hline
        obtain ⟨vault, hvault, rfl⟩ := State.vault?_of_terms? hterms
        apply hdraws _ vault hvault
        rw [← hkey]
        exact if_pos hzero
    | @repaid _ _ args found hkey hline hborrowed =>
        cases hmoved
        have hfound := hdeadline.kept _ hline
        apply hfound.undrawn rfl
        · have hsome : found.borrowRecoveryAt ≠ none := fun hnone =>
            hborrowed.ne' (hfound.armed.mp hnone)
          simp only [repaidLine]
          split
          · next hzero => exact ⟨fun _ => hzero, fun _ => rfl⟩
          · next hopen =>
              exact ⟨fun hnone => absurd hnone hsome,
                fun hzero => absurd hzero hopen⟩
        · intro deadline hrecovery
          simp only [repaidLine] at hrecovery
          split at hrecovery
          · cases hrecovery
          · exact hrecovery
    | seized hkey hline hborrowed =>
        cases hmoved
        exact (hdeadline.kept _ hline).undrawn rfl
          ⟨fun _ => rfl, fun _ => rfl⟩ fun _ hnone => by cases hnone
    | closed hkey hline hrepaid =>
        cases hmoved
        have hfound := hdeadline.kept _ hline
        exact hfound.undrawn rfl hfound.armed fun _ hsame => hsame

end Steps

/-! ## Runs -/

section Runs

variable {start state : State} {trace : Trace}

/-- The run lemma. -/
theorem deadlineKept_run (hvacant : NoVault start vaultKey)
    (hrun : Run (system runtime) start trace state)
    (hdraws : Guarded (fun _ => DrawsOnLoan vaultKey) trace) :
    DeadlineKept vaultKey trace state := by
  apply hrun.history_invariant (DeadlineKept vaultKey) _ _ _ hdraws
  · constructor
    · exact hvacant.image
    · intro line hline
      rw [creditLine?, hvacant.terms] at hline
      cases hline
  · exact fun earlier before call after hdeadline hstep hmeets =>
      deadlineKept_step hdeadline hmeets hstep
  · intro earlier before after hdeadline hmove
    constructor
    · exact environment_images hmove vaultKey hdeadline.noImage
    · rw [environment_credit hmove]
      exact hdeadline.kept

/-- In every run in which no draw of zero finds the vault without a loan, a
deadline is set exactly while something is borrowed, and no seizure comes before
the time and the window of the draw that opened the loan it takes. -/
theorem deadline_of_open_loan
    (hvacant : NoVault start vaultKey)
    (hrun : Run (system runtime) start trace state)
    (hdraws : Guarded (fun _ => DrawsOnLoan vaultKey) trace) :
    (∀ vault, state.vault? vaultKey = some vault →
      (vault.borrowRecoveryAt = none ↔ vault.borrowed = 0)) ∧
    Guarded (SeizedInTime vaultKey) trace := by
  constructor
  · intro vault hvault
    have hline := creditLine?_of_vault? hvault
    exact ((deadlineKept_run hvacant hrun hdraws).kept _ hline).armed
  · apply hrun.guarded_of_step (SeizedInTime vaultKey) _ hdraws
    intro earlier before call after hearlier hguard _ hstep
    have hdeadline := deadlineKept_run hvacant hearlier hguard
    cases call with
    | seizeCollateral context accounts =>
        rintro rfl
        obtain ⟨vault, hexited, -⟩ := seizeCollateral_ok hstep
        have hline := creditLine?_of_vault? hexited.vaultAt
        obtain ⟨deadline, harmed, hdue⟩ :=
          seizeCollateral_due hstep hexited.vaultAt
        exact ⟨deadline.val,
          (hdeadline.kept _ hline).opened deadline harmed, hdue⟩
    | _ => trivial

end Runs

section Examples

open Deployment

theorem deadline_of_open_loan_seized :
    (∀ vault, (backed 0 none).vault? Deployment.vaultKey = some vault →
      (vault.borrowRecoveryAt = none ↔ vault.borrowed = 0)) ∧
    Guarded (SeizedInTime Deployment.vaultKey) lendingTrace :=
  deadline_of_open_loan ⟨by decide +kernel, by decide +kernel⟩ lending_run
    (show Guarded (fun _ => DrawsOnLoan Deployment.vaultKey) lendingTrace by
      decide +kernel)

/-! A draw of zero arms a deadline without a loan.  The loan drawn next has a
window of a week, and is seized in the same second. -/

def armedState : State := backed 0 (some (I64.saturate 1000))
def exposedState : State := backed 30 (some (I64.saturate 1000))

def emptyDrawn : Call := draw 0 I64.zero Deployment.now
def weekDrawn : Call := draw 30 (I64.saturate (7 * 24 * 60 * 60)) Deployment.now

theorem exposed_steps :
    step lendingRuntime (backed 0 none) emptyDrawn = .ok armedState ∧
      step lendingRuntime armedState weekDrawn = .ok exposedState ∧
      step lendingRuntime exposedState (seize Deployment.now) =
        .ok (backed 0 none) := by
  decide +kernel

def armedTrace : Trace :=
  ⟨backed 0 none, emptyDrawn, armedState⟩ :: backedTrace

def exposedTrace : Trace := ⟨armedState, weekDrawn, exposedState⟩ :: armedTrace

def exposedSeizedTrace : Trace :=
  ⟨exposedState, seize Deployment.now, backed 0 none⟩ :: exposedTrace

theorem armed_run : Run (system lendingRuntime) funded armedTrace armedState :=
  backed_run.accept exposed_steps.1

theorem exposedSeized_run :
    Run (system lendingRuntime) funded exposedSeizedTrace (backed 0 none) := by
  obtain ⟨-, hdraw, hseize⟩ := exposed_steps
  have hexposed : Run (system lendingRuntime) funded exposedTrace exposedState :=
    armed_run.accept hdraw
  exact hexposed.accept hseize

/-- The opening of the only loan is the draw of 30. -/
theorem exposed_deadline {deadline : ℤ}
    (hdeadline : LoanDeadline Deployment.vaultKey exposedTrace deadline) :
    deadline = 1000 + 7 * 24 * 60 * 60 := by
  obtain ⟨opening, hlatest, hcall⟩ := hdeadline
  cases hlatest with
  | here _ => exact (Option.some.inj hcall).symm
  | behind hunmarked _ => exact absurd (by decide +kernel) hunmarked

theorem deadline_of_no_loan :
    Run (system lendingRuntime) funded armedTrace armedState ∧
    (¬ ∀ vault, armedState.vault? Deployment.vaultKey = some vault →
      (vault.borrowRecoveryAt = none ↔ vault.borrowed = 0)) ∧
    Run (system lendingRuntime) funded exposedSeizedTrace (backed 0 none) ∧
    Guarded ClockAdvances exposedSeizedTrace ∧
    ¬ Guarded (SeizedInTime Deployment.vaultKey) exposedSeizedTrace := by
  refine ⟨armed_run, ?_, exposedSeized_run, by decide +kernel, ?_⟩
  · intro harmed
    have hvault : armedState.vault? Deployment.vaultKey =
        some { boundVault with
          borrowed := 0
          standbyBacker := some financier
          standbyCap := 50
          borrowRecoveryAt := some (I64.saturate 1000) } := by decide +kernel
    cases (harmed _ hvault).mpr rfl
  · rintro ⟨hseized, -⟩
    obtain ⟨deadline, hdeadline, hdue⟩ := hseized rfl
    rw [exposed_deadline hdeadline] at hdue
    exact absurd hdue (by decide)

end Examples

end DexterVault.Recovery
