import DexterVault.Core.Transition

/-!
# Assets with one holder

Every holder holds one asset at most.  Some assets stand for holding nothing and
may be held by any number of holders; the others are real.  As long as a call
gives its holder no real asset that somebody else holds, no two holders share
one.
-/

namespace DexterVault.Holding

open DexterVault.Transition

variable {Holder Asset : Type*} {real : Asset → Prop}

/-- No two holders hold the same real asset. -/
def Unshared (real : Asset → Prop) (held : Holder → Option Asset) : Prop :=
  ∀ left right asset, real asset → held left = some asset →
    held right = some asset → left = right

/-- Nobody but `holder` holds the asset. -/
def Unclaimed (held : Holder → Option Asset) (holder : Holder)
    (asset : Asset) : Prop :=
  ∀ other, held other = some asset → other = holder

/-- What is held afterwards was held before by the same holder, or is what the
holder takes. -/
def Moves (real : Asset → Prop) (before after : Holder → Option Asset)
    (taken : Option (Holder × Asset)) : Prop :=
  ∀ holder asset, real asset → after holder = some asset →
    before holder = some asset ∨ taken = some (holder, asset)

section Rules

variable {before after : Holder → Option Asset}
  {taken : Option (Holder × Asset)} {holder : Holder} {asset : Asset}

theorem Unclaimed.of_le (hunclaimed : Unclaimed after holder asset)
    (hle : ∀ other, before other = some asset → after other = some asset) :
    Unclaimed before holder asset :=
  fun other hheld => hunclaimed other (hle other hheld)

theorem Moves.of_le
    (hle : ∀ holder asset, after holder = some asset →
      before holder = some asset) : Moves real before after taken :=
  fun holder asset _ hheld => .inl (hle holder asset hheld)

theorem Moves.of_before {between : Holder → Option Asset}
    (hmoves : Moves real between after taken)
    (hle : ∀ holder asset, between holder = some asset →
      before holder = some asset) : Moves real before after taken :=
  fun holder asset hreal hheld =>
    (hmoves holder asset hreal hheld).imp_left (hle holder asset)

/-- The step rule. -/
theorem Unshared.step (hunshared : Unshared real before)
    (hmoves : Moves real before after taken)
    (htaken : ∀ pair ∈ taken, real pair.2 → Unclaimed before pair.1 pair.2) :
    Unshared real after := by
  intro left right asset hreal hleft hright
  rcases hmoves left asset hreal hleft with hleftBefore | hleftTakes
  · rcases hmoves right asset hreal hright with hrightBefore | hrightTakes
    · exact hunshared left right asset hreal hleftBefore hrightBefore
    · exact htaken _ hrightTakes hreal left hleftBefore
  · rcases hmoves right asset hreal hright with hrightBefore | hrightTakes
    · exact (htaken _ hleftTakes hreal right hrightBefore).symm
    · cases hleftTakes.symm.trans hrightTakes
      rfl

end Rules

/-! ## Runs -/

section Runs

variable {State Call Error : Type*} {system : System State Call Error}
  {held : State → Holder → Option Asset}
  {takes : State → Call → Option (Holder × Asset)}

/-- Nobody else holds what the call takes. -/
def TakesUnclaimed (real : Asset → Prop) (held : State → Holder → Option Asset)
    (takes : State → Call → Option (Holder × Asset))
    (accepted : Accepted State Call) : Prop :=
  ∀ pair ∈ takes accepted.before accepted.call, real pair.2 →
    Unclaimed (held accepted.before) pair.1 pair.2

/-- A call gives its holder what it takes and nothing else, and the environment
gives nothing. -/
structure Tracked (real : Asset → Prop) (system : System State Call Error)
    (held : State → Holder → Option Asset)
    (takes : State → Call → Option (Holder × Asset)) : Prop where
  step : ∀ state call next, system.step state call = .ok next →
    Moves real (held state) (held next) (takes state call)
  environment : ∀ state next, system.environment state next →
    held next = held state

/-- The run rule. -/
theorem Tracked.unshared_run (htracked : Tracked real system held takes)
    {start state : State} {trace : List (Accepted State Call)}
    (hstart : Unshared real (held start)) (hrun : Run system start trace state)
    (htakes : Guarded (fun _ => TakesUnclaimed real held takes) trace) :
    Unshared real (held state) := by
  refine hrun.guarded_invariant (fun state => Unshared real (held state)) hstart
    ?_ ?_ htakes
  · intro before call after hunshared hstep hunclaimed
    exact hunshared.step (htracked.step before call after hstep) hunclaimed
  · intro before after hunshared hmove
    rwa [htracked.environment before after hmove]

end Runs

end DexterVault.Holding
