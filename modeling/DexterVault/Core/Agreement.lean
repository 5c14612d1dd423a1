import DexterVault.Core.Transition

/-!
# Agreement of computations and of systems

Two fallible computations agree when both fail, with whatever errors, or both
succeed with related values.  Agreement goes through sequences and loops of
steps.  A relation whose states agree on every call, and follow each other
through the moves of the environment, is a bisimulation: from related states
the same calls are accepted in every order, and related states are reached.
-/

namespace DexterVault.Agreement

open DexterVault.Transition

/-! ## Computations -/

section Computations

variable {Error Error' Value Value' Output Output' : Type}
  {related : Value → Value' → Prop} {goal : Output → Output' → Prop}

/-- Both fail, or both succeed with related values. -/
structure Agrees (related : Value → Value' → Prop) (left : Except Error Value)
    (right : Except Error' Value') : Prop where
  forth : ∀ value, left = .ok value →
    ∃ other, right = .ok other ∧ related value other
  back : ∀ other, right = .ok other → ∃ value, left = .ok value

theorem Agrees.of_fails {left : Except Error Value}
    {right : Except Error' Value'} (hleft : ∀ value, left ≠ .ok value)
    (hright : ∀ value, right ≠ .ok value) : Agrees related left right where
  forth value hok := absurd hok (hleft value)
  back other hok := absurd hok (hright other)

theorem Agrees.refl {related : Value → Value → Prop}
    {computation : Except Error Value}
    (hrelated : ∀ value, computation = .ok value → related value value) :
    Agrees related computation computation where
  forth value hok := ⟨value, hok, hrelated value hok⟩
  back value hok := ⟨value, hok⟩

theorem Agrees.pure {left : Value} {right : Value'}
    (hrelated : related left right) :
    Agrees related (Pure.pure left : Except Error Value)
      (Pure.pure right : Except Error' Value') where
  forth := by
    rintro _ ⟨⟩
    exact ⟨right, rfl, hrelated⟩
  back _ _ := ⟨left, rfl⟩

/-- Weakening, with the successes at hand. -/
theorem Agrees.imp {weaker : Value → Value' → Prop} {left : Except Error Value}
    {right : Except Error' Value'} (hagrees : Agrees related left right)
    (hweaker : ∀ value other, left = .ok value → related value other →
      weaker value other) : Agrees weaker left right := by
  refine ⟨fun value hok => ?_, hagrees.back⟩
  obtain ⟨other, hother, hrelated⟩ := hagrees.forth value hok
  exact ⟨other, hother, hweaker value other hok hrelated⟩

theorem mapError_eq_ok_iff {convert : Error → Error'} {value : Value}
    {computation : Except Error Value} :
    computation.mapError convert = .ok value ↔ computation = .ok value := by
  cases computation with
  | ok found => rw [Except.mapError, Except.ok.injEq, Except.ok.injEq]
  | error => exact ⟨nofun, nofun⟩

theorem toOption_eq_some_iff {value : Value} {computation : Except Error Value} :
    computation.toOption = some value ↔ computation = .ok value := by
  cases computation with
  | ok found => rw [Except.toOption, Option.some.injEq, Except.ok.injEq]
  | error => exact ⟨nofun, nofun⟩

/-- What errors say plays no role. -/
theorem Agrees.mapError {Error'' Error''' : Type} {left : Except Error Value}
    {right : Except Error' Value'} (hagrees : Agrees related left right)
    (convert : Error → Error'') (convert' : Error' → Error''') :
    Agrees related (left.mapError convert) (right.mapError convert') where
  forth value hok := by
    obtain ⟨other, hother, hrelated⟩ :=
      hagrees.forth value (mapError_eq_ok_iff.mp hok)
    exact ⟨other, mapError_eq_ok_iff.mpr hother, hrelated⟩
  back other hok := by
    obtain ⟨value, hvalue⟩ := hagrees.back other (mapError_eq_ok_iff.mp hok)
    exact ⟨value, mapError_eq_ok_iff.mpr hvalue⟩

/-- First steps that agree, and rests that agree on related values. -/
theorem Agrees.bind {left : Except Error Value} {right : Except Error' Value'}
    {leftRest : Value → Except Error Output}
    {rightRest : Value' → Except Error' Output'}
    (hfirst : Agrees related left right)
    (hrest : ∀ value other, left = .ok value → related value other →
      Agrees goal (leftRest value) (rightRest other)) :
    Agrees goal (left >>= leftRest) (right >>= rightRest) := by
  cases left with
  | ok value =>
      obtain ⟨other, rfl, hrelated⟩ := hfirst.forth value rfl
      exact hrest value other rfl hrelated
  | error =>
      cases right with
      | ok other =>
          obtain ⟨value, hok⟩ := hfirst.back other rfl
          cases hok
      | error => exact .of_fails (fun _ hok => nomatch hok) fun _ hok => nomatch hok

/-- First steps that succeed with the same values. -/
theorem Agrees.bind_same {left : Except Error Value}
    {right : Except Error' Value} {leftRest : Value → Except Error Output}
    {rightRest : Value → Except Error' Output'}
    (hfirst : ∀ value, left = .ok value ↔ right = .ok value)
    (hrest : ∀ value, left = .ok value →
      Agrees goal (leftRest value) (rightRest value)) :
    Agrees goal (left >>= leftRest) (right >>= rightRest) := by
  have hagrees : Agrees (· = ·) left right :=
    ⟨fun value hok => ⟨value, (hfirst value).mp hok, rfl⟩,
      fun value hok => ⟨value, (hfirst value).mpr hok⟩⟩
  apply hagrees.bind
  rintro value _ hok rfl
  exact hrest value hok

/-- A first step that both computations share. -/
theorem Agrees.bind_self {first : Except Error Value}
    {leftRest : Value → Except Error Output}
    {rightRest : Value → Except Error Output'}
    (hrest : ∀ value, first = .ok value →
      Agrees goal (leftRest value) (rightRest value)) :
    Agrees goal (first >>= leftRest) (first >>= rightRest) :=
  Agrees.bind_same (fun _ => Iff.rfl) hrest

/-- Loops over one list whose bodies agree keep the relation. -/
theorem Agrees.foldlM {Item : Type} {items : List Item}
    {leftBody : Value → Item → Except Error Value}
    {rightBody : Value' → Item → Except Error' Value'} {left : Value}
    {right : Value'} (hstart : related left right)
    (hbody : ∀ item left right, related left right →
      Agrees related (leftBody left item) (rightBody right item)) :
    Agrees related (items.foldlM leftBody left)
      (items.foldlM rightBody right) := by
  induction items generalizing left right with
  | nil => exact Agrees.pure hstart
  | cons item items ih =>
      rw [List.foldlM_cons, List.foldlM_cons]
      exact (hbody item left right hstart).bind fun _ _ _ hnext => ih hnext

/-- The same where the bodies agree on the items of the list only. -/
theorem Agrees.foldlM_mem {Item : Type} {items : List Item}
    {leftBody : Value → Item → Except Error Value}
    {rightBody : Value' → Item → Except Error' Value'} {left : Value}
    {right : Value'} (hstart : related left right)
    (hbody : ∀ item ∈ items, ∀ left right, related left right →
      Agrees related (leftBody left item) (rightBody right item)) :
    Agrees related (items.foldlM leftBody left)
      (items.foldlM rightBody right) := by
  induction items generalizing left right with
  | nil => exact Agrees.pure hstart
  | cons item items ih =>
      rw [List.foldlM_cons, List.foldlM_cons]
      apply (hbody item List.mem_cons_self left right hstart).bind
      intro _ _ _ hnext
      exact ih hnext fun other hmem => hbody other (List.mem_cons_of_mem _ hmem)

end Computations

/-! ## Systems -/

section Systems

variable {State Call Error : Type} {system : System State Call Error}

/-- What happens in a play: a call, with whether it was accepted, or a move of
the environment. -/
inductive Event (Call : Type)
  | call (call : Call) (accepted : Bool)
  | environment

/-- `Plays system start events state`: from `start`, the events, newest first,
lead to `state`. -/
inductive Plays (system : System State Call Error) (start : State) :
    List (Event Call) → State → Prop
  | start : Plays system start [] start
  | accept {events : List (Event Call)} {state next : State} {call : Call} :
      Plays system start events state → system.step state call = .ok next →
      Plays system start (.call call true :: events) next
  | refuse {events : List (Event Call)} {state : State} {call : Call}
      {error : Error} : Plays system start events state →
      system.step state call = .error error →
      Plays system start (.call call false :: events) state
  | environment {events : List (Event Call)} {state next : State} :
      Plays system start events state → system.environment state next →
      Plays system start (.environment :: events) next

/-- Related states agree on the allowed calls, and follow each other through
the moves of the environment. -/
structure Bisimulation (system : System State Call Error)
    (allowed : Call → Prop) (related : State → State → Prop) : Prop where
  step : ∀ left right call, related left right → allowed call →
    Agrees related (system.step left call) (system.step right call)
  forth : ∀ left right next, related left right →
    system.environment left next →
    ∃ other, system.environment right other ∧ related next other
  back : ∀ left right other, related left right →
    system.environment right other →
    ∃ next, system.environment left next ∧ related next other

section Bisimulation

variable {allowed : Call → Prop} {related : State → State → Prop}

/-- The calls of the events are allowed. -/
def AllowedAll (allowed : Call → Prop) (events : List (Event Call)) : Prop :=
  ∀ call accepted, .call call accepted ∈ events → allowed call

theorem AllowedAll.tail {event : Event Call} {events : List (Event Call)}
    (hallowed : AllowedAll allowed (event :: events)) :
    AllowedAll allowed events :=
  fun call accepted hmem => hallowed call accepted (List.mem_cons_of_mem _ hmem)

theorem AllowedAll.head {call : Call} {accepted : Bool}
    {events : List (Event Call)}
    (hallowed : AllowedAll allowed (.call call accepted :: events)) :
    allowed call :=
  hallowed call accepted List.mem_cons_self

/-- A play of the left state is a play of the right one. -/
theorem Bisimulation.plays (hbisimulation : Bisimulation system allowed related)
    {left right final : State} {events : List (Event Call)}
    (hrelated : related left right) (hallowed : AllowedAll allowed events)
    (hplays : Plays system left events final) :
    ∃ other, Plays system right events other ∧ related final other := by
  induction hplays with
  | start => exact ⟨right, .start, hrelated⟩
  | @accept events state next call _ hstep ih =>
      obtain ⟨middle, hmiddle, hsame⟩ := ih hallowed.tail
      have hagrees := hbisimulation.step state middle call hsame hallowed.head
      obtain ⟨other, hother, hnext⟩ := hagrees.forth next hstep
      exact ⟨other, .accept hmiddle hother, hnext⟩
  | @refuse events state call error _ hstep ih =>
      obtain ⟨middle, hmiddle, hsame⟩ := ih hallowed.tail
      have hagrees := hbisimulation.step state middle call hsame hallowed.head
      cases hother : system.step middle call with
      | ok other =>
          obtain ⟨next, hnext⟩ := hagrees.back other hother
          cases hstep.symm.trans hnext
      | error => exact ⟨middle, .refuse hmiddle hother, hsame⟩
  | environment _ hmove ih =>
      obtain ⟨middle, hmiddle, hsame⟩ := ih hallowed.tail
      obtain ⟨other, hother, hnext⟩ := hbisimulation.forth _ _ _ hsame hmove
      exact ⟨other, .environment hmiddle hother, hnext⟩

/-- The relation read from right to left is a bisimulation as well. -/
theorem Bisimulation.symm (hbisimulation : Bisimulation system allowed related) :
    Bisimulation system allowed fun left right => related right left where
  step left right call hrelated hallowed := by
    have hagrees := hbisimulation.step right left call hrelated hallowed
    constructor
    · intro value hok
      obtain ⟨other, hother⟩ := hagrees.back value hok
      obtain ⟨found, hfound, hsame⟩ := hagrees.forth other hother
      cases hok.symm.trans hfound
      exact ⟨other, hother, hsame⟩
    · intro other hok
      obtain ⟨value, hvalue, -⟩ := hagrees.forth other hok
      exact ⟨value, hvalue⟩
  forth left right next hrelated hmove :=
    hbisimulation.back right left next hrelated hmove
  back left right other hrelated hmove :=
    hbisimulation.forth right left other hrelated hmove

end Bisimulation

end Systems

end DexterVault.Agreement
