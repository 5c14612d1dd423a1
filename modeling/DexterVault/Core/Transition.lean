import Mathlib.Tactic.Common

/-!
# Runs of a guarded transition system

A call either fails, and then leaves the state alone, or produces the next
state; between two calls the environment may move.  A run keeps the list of
its accepted calls, newest first, so that a property of a whole history is a
property of that list.
-/

namespace DexterVault.Transition

/-- The calls a system answers and the moves of its environment. -/
structure System (State Call Error : Type*) where
  step : State → Call → Except Error State
  environment : State → State → Prop

/-- One accepted call, with the states before and after it. -/
structure Accepted (State Call : Type*) where
  before : State
  call : Call
  after : State

variable {State Call Error : Type*}

/-- `Run system start trace state`: from `start` the system reaches `state`,
having accepted exactly the calls of `trace`. -/
inductive Run (system : System State Call Error) (start : State) :
    List (Accepted State Call) → State → Prop
  | start : Run system start [] start
  | accept {trace : List (Accepted State Call)} {state next : State}
      {call : Call} : Run system start trace state →
      system.step state call = .ok next →
      Run system start (⟨state, call, next⟩ :: trace) next
  | refuse {trace : List (Accepted State Call)} {state : State} {call : Call}
      {error : Error} : Run system start trace state →
      system.step state call = .error error → Run system start trace state
  | environment {trace : List (Accepted State Call)} {state next : State} :
      Run system start trace state → system.environment state next →
      Run system start trace next

/-- Every accepted call satisfies `guard`, which may look at the calls accepted
before it. -/
def Guarded (guard : List (Accepted State Call) → Accepted State Call → Prop) :
    List (Accepted State Call) → Prop
  | [] => True
  | latest :: earlier => guard earlier latest ∧ Guarded guard earlier

instance decidableGuarded
    (guard : List (Accepted State Call) → Accepted State Call → Prop)
    [∀ earlier latest, Decidable (guard earlier latest)] :
    ∀ trace, Decidable (Guarded guard trace)
  | [] => isTrue trivial
  | latest :: earlier =>
      have := decidableGuarded guard earlier
      inferInstanceAs (Decidable (guard earlier latest ∧ Guarded guard earlier))

variable {system : System State Call Error} {start : State}

/-- The invariant rule for histories: what holds at the start, is preserved by
every accepted call that meets the guard and by every environment move, holds
at the end of every guarded run. -/
theorem Run.history_invariant
    {guard : List (Accepted State Call) → Accepted State Call → Prop}
    (invariant : List (Accepted State Call) → State → Prop)
    (hstart : invariant [] start)
    (haccept : ∀ trace state call next, invariant trace state →
      system.step state call = .ok next → guard trace ⟨state, call, next⟩ →
      invariant (⟨state, call, next⟩ :: trace) next)
    (henvironment : ∀ trace state next, invariant trace state →
      system.environment state next → invariant trace next)
    {trace : List (Accepted State Call)} {state : State}
    (hrun : Run system start trace state) (hguard : Guarded guard trace) :
    invariant trace state := by
  induction hrun with
  | start => exact hstart
  | accept _ hstep ih =>
      exact haccept _ _ _ _ (ih hguard.2) hstep hguard.1
  | refuse _ _ ih => exact ih hguard
  | environment _ hmove ih => exact henvironment _ _ _ (ih hguard) hmove

theorem guarded_true (trace : List (Accepted State Call)) :
    Guarded (fun _ _ => True) trace := by
  induction trace with
  | nil => trivial
  | cons latest earlier ih => exact ⟨trivial, ih⟩

/-- The invariant rule for states. -/
theorem Run.invariant (invariant : State → Prop) (hstart : invariant start)
    (haccept : ∀ state call next, invariant state →
      system.step state call = .ok next → invariant next)
    (henvironment : ∀ state next, invariant state →
      system.environment state next → invariant next)
    {trace : List (Accepted State Call)} {state : State}
    (hrun : Run system start trace state) : invariant state :=
  hrun.history_invariant (fun _ => invariant) hstart
    (fun _ state call next hinv hstep _ => haccept state call next hinv hstep)
    (fun _ => henvironment) (guarded_true trace)

/-- The invariant rule for states, under a guard on the accepted calls. -/
theorem Run.guarded_invariant {guard : Accepted State Call → Prop}
    (invariant : State → Prop) (hstart : invariant start)
    (haccept : ∀ state call next, invariant state →
      system.step state call = .ok next → guard ⟨state, call, next⟩ →
      invariant next)
    (henvironment : ∀ state next, invariant state →
      system.environment state next → invariant next)
    {trace : List (Accepted State Call)} {state : State}
    (hrun : Run system start trace state)
    (hguard : Guarded (fun _ => guard) trace) : invariant state :=
  hrun.history_invariant (fun _ => invariant) hstart
    (fun _ => haccept) (fun _ => henvironment) hguard

/-- Every accepted call of a run was a step of the system from a state the run
had reached by then. -/
theorem Run.reached_before {trace : List (Accepted State Call)} {state : State}
    (hrun : Run system start trace state)
    {later earlier : List (Accepted State Call)} {accepted : Accepted State Call}
    (htrace : trace = later ++ accepted :: earlier) :
    Run system start earlier accepted.before ∧
      system.step accepted.before accepted.call = .ok accepted.after := by
  induction hrun generalizing later with
  | start => simp at htrace
  | @accept trace state next call hrun hstep ih =>
      cases later with
      | nil =>
          simp only [List.nil_append, List.cons.injEq] at htrace
          obtain ⟨rfl, rfl⟩ := htrace
          exact ⟨hrun, hstep⟩
      | cons latest later =>
          simp only [List.cons_append, List.cons.injEq] at htrace
          exact ih htrace.2
  | refuse _ _ ih => exact ih htrace
  | environment _ _ ih => exact ih htrace

/-- Every accepted call of a trace was a step of the system, from a state
reached by a part of the run. -/
theorem Run.step_of_mem {trace : List (Accepted State Call)} {state : State}
    (hrun : Run system start trace state) {accepted : Accepted State Call}
    (hmem : accepted ∈ trace) :
    ∃ later earlier, trace = later ++ accepted :: earlier ∧
      Run system start earlier accepted.before ∧
      system.step accepted.before accepted.call = .ok accepted.after := by
  obtain ⟨later, earlier, htrace⟩ := List.append_of_mem hmem
  obtain ⟨hearlier, hstep⟩ := hrun.reached_before htrace
  exact ⟨later, earlier, htrace, hearlier, hstep⟩

/-- The rule for accepted calls: what every step has that is taken from a state
reached by a guarded run, every accepted call of a guarded run has. -/
theorem Run.forall_accepted
    {guard : List (Accepted State Call) → Accepted State Call → Prop}
    (property : Accepted State Call → Prop)
    (hstep : ∀ earlier before call after, Run system start earlier before →
      Guarded guard earlier → guard earlier ⟨before, call, after⟩ →
      system.step before call = .ok after → property ⟨before, call, after⟩)
    {trace : List (Accepted State Call)} {state : State}
    (hrun : Run system start trace state) (hguard : Guarded guard trace) :
    ∀ accepted ∈ trace, property accepted := by
  induction hrun with
  | start => exact fun _ hmem => absurd hmem List.not_mem_nil
  | accept hrun haccepted ih =>
      intro accepted hmem
      rcases List.mem_cons.mp hmem with rfl | hearlier
      · exact hstep _ _ _ _ hrun hguard.2 hguard.1 haccepted
      · exact ih hguard.2 accepted hearlier
  | refuse _ _ ih => exact ih hguard
  | environment _ _ ih => exact ih hguard

theorem Guarded.mono
    {guard weaker : List (Accepted State Call) → Accepted State Call → Prop}
    (hweaker : ∀ earlier latest, guard earlier latest → weaker earlier latest)
    {trace : List (Accepted State Call)} (hguard : Guarded guard trace) :
    Guarded weaker trace := by
  induction trace with
  | nil => trivial
  | cons latest earlier ih => exact ⟨hweaker _ _ hguard.1, ih hguard.2⟩

theorem Guarded.and
    {left right : List (Accepted State Call) → Accepted State Call → Prop}
    {trace : List (Accepted State Call)} (hleft : Guarded left trace)
    (hright : Guarded right trace) :
    Guarded (fun earlier latest => left earlier latest ∧ right earlier latest)
      trace := by
  induction trace with
  | nil => trivial
  | cons latest earlier ih =>
      exact ⟨⟨hleft.1, hright.1⟩, ih hleft.2 hright.2⟩

/-- Calls executed one after the other, with the accepted ones recorded; a
refused call changes nothing. -/
def execute (system : System State Call Error) (state : State)
    (trace : List (Accepted State Call)) :
    List Call → State × List (Accepted State Call)
  | [] => (state, trace)
  | call :: calls =>
      match system.step state call with
      | .ok next => execute system next (⟨state, call, next⟩ :: trace) calls
      | .error _ => execute system state trace calls

/-- Executing a list of calls extends a run. -/
theorem Run.execute {trace : List (Accepted State Call)} {state : State}
    (hrun : Run system start trace state) (calls : List Call) :
    Run system start (Transition.execute system state trace calls).2
      (Transition.execute system state trace calls).1 := by
  induction calls generalizing state trace with
  | nil => exact hrun
  | cons call calls ih =>
      unfold Transition.execute
      cases hstep : system.step state call with
      | ok next => exact ih (.accept hrun hstep)
      | error error => exact ih (.refuse hrun hstep)

end DexterVault.Transition
