import DexterVault.Core.Transition

/-!
# Systems that come to an end

A rank that every accepted call lowers bounds the length of a run.  Where every
state on the way to a goal has a call that lowers the rank and keeps to the way,
there is a run to the goal.
-/

namespace DexterVault.Transition

variable {State Call Error : Type*} {system : System State Call Error}
  {start : State}

/-- A run goes on from where another one ended. -/
theorem Run.append {earlier later : List (Accepted State Call)}
    {middle state : State} (hearlier : Run system start earlier middle)
    (hlater : Run system middle later state) :
    Run system start (later ++ earlier) state := by
  induction hlater with
  | start => exact hearlier
  | accept _ hstep ih => exact .accept ih hstep
  | refuse _ hstep ih => exact .refuse ih hstep
  | environment _ hmove ih => exact .environment ih hmove

/-- The rule for termination: a run accepts no more calls than its rank falls. -/
theorem Run.length_add_rank_le (rank : State → ℕ)
    (hstep : ∀ earlier before call after, Run system start earlier before →
      system.step before call = .ok after → rank after < rank before)
    (henvironment : ∀ before after, system.environment before after →
      rank after ≤ rank before)
    {trace : List (Accepted State Call)} {state : State}
    (hrun : Run system start trace state) :
    trace.length + rank state ≤ rank start := by
  induction hrun with
  | start => exact Nat.le_of_eq (Nat.zero_add _)
  | accept hrun haccepted ih =>
      have hlower := hstep _ _ _ _ hrun haccepted
      rw [List.length_cons]
      omega
  | refuse _ _ ih => exact ih
  | environment _ hmove ih =>
      have hlower := henvironment _ _ hmove
      omega

/-- The rule for progress: a call that may be made, lowers the rank and stays on
the way leads to the goal in the end. -/
theorem exists_run_of_descent (rank : State → ℕ) {way goal : State → Prop}
    {permitted : Call → Prop}
    (hstep : ∀ before, way before → ¬ goal before → ∃ call after,
      permitted call ∧ system.step before call = .ok after ∧ way after ∧
        rank after < rank before) :
    ∀ state, way state → ∃ trace final, Run system state trace final ∧
      way final ∧ goal final ∧ ∀ accepted ∈ trace, permitted accepted.call := by
  intro state hway
  induction hrank : rank state using Nat.strongRecOn generalizing state with
  | ind bound ih =>
      by_cases hgoal : goal state
      · exact ⟨[], state, .start, hway, hgoal, by simp⟩
      obtain ⟨call, after, hpermitted, haccepted, hafter, hlower⟩ :=
        hstep state hway hgoal
      obtain ⟨trace, final, hrun, hfinal, hreached, hcalls⟩ :=
        ih (rank after) (hrank ▸ hlower) after hafter rfl
      refine ⟨trace ++ [⟨state, call, after⟩], final,
        Run.append (.accept .start haccepted) hrun, hfinal, hreached, ?_⟩
      intro accepted hmem
      rcases List.mem_append.mp hmem with hlater | hfirst
      · exact hcalls accepted hlater
      · obtain rfl := List.mem_singleton.mp hfirst
        exact hpermitted

end DexterVault.Transition
