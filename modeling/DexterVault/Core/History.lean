import DexterVault.Core.Transition
import Mathlib.Algebra.BigOperators.Group.List.Basic
import Mathlib.Tactic.Ring

/-!
# Events in the history of a run

A trace lists the accepted calls newest first.  A law about what came before a
call is a law about the calls behind it in the trace.
-/

namespace DexterVault.Transition

variable {State Call Error : Type*} {system : System State Call Error}
  {start : State}

/-- `found` is the newest marked call of the trace. -/
inductive Latest (marked : Accepted State Call → Prop) :
    List (Accepted State Call) → Accepted State Call → Prop
  | here {found : Accepted State Call} {earlier : List (Accepted State Call)}
      (hmarked : marked found) : Latest marked (found :: earlier) found
  | behind {latest found : Accepted State Call}
      {earlier : List (Accepted State Call)} (hunmarked : ¬ marked latest)
      (hfound : Latest marked earlier found) :
      Latest marked (latest :: earlier) found

/-- The newest marked call of a trace is a call of the trace. -/
theorem Latest.mem {marked : Accepted State Call → Prop}
    {trace : List (Accepted State Call)} {found : Accepted State Call}
    (hfound : Latest marked trace found) : found ∈ trace := by
  induction hfound with
  | here _ => exact List.mem_cons_self
  | behind _ _ ih => exact List.mem_cons_of_mem _ ih

/-- The rule for calls with what came before them: what every step has that is
taken from a state reached by a guarded run, every accepted call of a guarded
run has. -/
theorem Run.guarded_of_step
    {guard : List (Accepted State Call) → Accepted State Call → Prop}
    (property : List (Accepted State Call) → Accepted State Call → Prop)
    (hstep : ∀ earlier before call after, Run system start earlier before →
      Guarded guard earlier → guard earlier ⟨before, call, after⟩ →
      system.step before call = .ok after →
      property earlier ⟨before, call, after⟩)
    {trace : List (Accepted State Call)} {state : State}
    (hrun : Run system start trace state) (hguard : Guarded guard trace) :
    Guarded property trace := by
  induction hrun with
  | start => trivial
  | accept hrun haccepted ih =>
      exact ⟨hstep _ _ _ _ hrun hguard.2 hguard.1 haccepted, ih hguard.2⟩
  | refuse _ _ ih => exact ih hguard
  | environment _ _ ih => exact ih hguard

/-- What the accepted calls of a trace move altogether. -/
def moved (amount : Accepted State Call → ℕ)
    (trace : List (Accepted State Call)) : ℕ :=
  (trace.map amount).sum

section Moved

variable {amount : Accepted State Call → ℕ}
  {trace : List (Accepted State Call)}

@[simp] theorem moved_nil : moved amount [] = 0 := rfl

@[simp] theorem moved_cons (latest : Accepted State Call) :
    moved amount (latest :: trace) = amount latest + moved amount trace :=
  List.sum_cons

theorem moved_add (other : Accepted State Call → ℕ) :
    moved (fun accepted => amount accepted + other accepted) trace =
      moved amount trace + moved other trace :=
  List.sum_map_add

end Moved

/-- The rule for balances: a level that every accepted call raises by what it
adds and lowers by what it takes, and that the environment leaves alone, is at
the end of a run what was added less what was taken. -/
theorem Run.balanced (level : State → ℕ) (added taken : Accepted State Call → ℕ)
    (hstep : ∀ earlier before call after, Run system start earlier before →
      system.step before call = .ok after →
      level before + added ⟨before, call, after⟩ =
        level after + taken ⟨before, call, after⟩)
    (henvironment : ∀ before after, system.environment before after →
      level after = level before)
    {trace : List (Accepted State Call)} {state : State}
    (hrun : Run system start trace state) :
    level start + moved added trace = level state + moved taken trace := by
  induction hrun with
  | start => rfl
  | accept hrun haccepted ih =>
      have hlatest := hstep _ _ _ _ hrun haccepted
      rw [moved_cons, moved_cons]
      omega
  | refuse _ _ ih => exact ih
  | environment _ hmove ih => rw [ih, henvironment _ _ hmove]

end DexterVault.Transition
