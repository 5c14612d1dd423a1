import DexterVault.Core.Agreement
import Mathlib.Data.Set.Function
import Mathlib.Data.Set.Lattice
import Mathlib.Order.CompletePartialOrder

/-!
# Systems whose calls declare what they touch

The state is a family of cells, and every call declares the cells it may read
and the cells it may write.  A system keeps to the declarations when an accepted
call changes no cell outside its writes, and when the cells a call declares
decide whether it is accepted and what it writes.  Calls whose declarations do
not conflict may then be served in any order, and whoever is interested in some
cells only may drop every call that does not write them.
-/

namespace DexterVault.Locality

open Set
open DexterVault.Agreement
open DexterVault.Transition

/-- The cells a call declares. -/
structure Locks (Key : Type) where
  reads : Set Key
  writes : Set Key

def Locks.all {Key : Type} (locks : Locks Key) : Set Key :=
  locks.reads ∪ locks.writes

variable {State Key Cell Call Error : Type}

/-- The system keeps to the declared cells. -/
structure Confined (system : System State Call Error) (cell : State → Key → Cell)
    (locks : Call → Locks Key) : Prop where
  framed : ∀ state call next, system.step state call = .ok next →
    EqOn (cell state) (cell next) (locks call).writesᶜ
  determined : ∀ left right call,
    EqOn (cell left) (cell right) (locks call).all →
    Agrees (fun next other => EqOn (cell next) (cell other) (locks call).all)
      (system.step left call) (system.step right call)

/-- Neither call writes what the other one declares. -/
structure Independent (locks : Call → Locks Key) (first second : Call) :
    Prop where
  forth : Disjoint (locks first).writes (locks second).all
  back : Disjoint (locks second).writes (locks first).all

/-! ## Serving calls -/

/-- One call, with whether it was accepted; a refused call changes nothing. -/
def perform (system : System State Call Error) (state : State) (call : Call) :
    State × Bool :=
  match system.step state call with
  | .ok next => (next, true)
  | .error _ => (state, false)

/-- Calls served one after the other, with the verdict on each. -/
def serve (system : System State Call Error) (state : State) :
    List Call → State × List (Call × Bool)
  | [] => (state, [])
  | call :: calls =>
      let performed := perform system state call
      let rest := serve system performed.1 calls
      (rest.1, (call, performed.2) :: rest.2)

/-- The verdicts on some of the calls. -/
def verdictsOn (inside : Call → Bool) (verdicts : List (Call × Bool)) :
    List (Call × Bool) :=
  verdicts.filter fun verdict => inside verdict.1

section Serving

variable {system : System State Call Error} {state : State} {call : Call}
  {calls : List Call}

theorem perform_of_ok {next : State} (hok : system.step state call = .ok next) :
    perform system state call = (next, true) := by
  rw [perform, hok]

@[simp]
theorem serve_nil : serve system state [] = (state, []) := rfl

theorem serve_cons : serve system state (call :: calls) =
    ((serve system (perform system state call).1 calls).1,
      (call, (perform system state call).2) ::
        (serve system (perform system state call).1 calls).2) := rfl

theorem serve_append (others : List Call) :
    serve system state (calls ++ others) =
      ((serve system (serve system state calls).1 others).1,
        (serve system state calls).2 ++
          (serve system (serve system state calls).1 others).2) := by
  induction calls generalizing state with
  | nil => rfl
  | cons call calls ih =>
      rw [List.cons_append, serve_cons, serve_cons, ih]
      rfl

theorem verdictsOn_cons (inside : Call → Bool) (verdict : Bool)
    (verdicts : List (Call × Bool)) :
    verdictsOn inside ((call, verdict) :: verdicts) =
      if inside call then (call, verdict) :: verdictsOn inside verdicts
      else verdictsOn inside verdicts :=
  List.filter_cons

end Serving

section Confined

variable {system : System State Call Error} {cell : State → Key → Cell}
  {locks : Call → Locks Key} {left right state : State} {keys : Set Key}
  {call : Call}

/-- A call leaves the cells alone that it does not write. -/
theorem Confined.perform_apart (hconfined : Confined system cell locks)
    (state : State) (hkeys : Disjoint (locks call).writes keys) :
    EqOn (cell state) (cell (perform system state call).1) keys := by
  unfold perform
  cases hstep : system.step state call with
  | ok next =>
      exact (hconfined.framed state call next hstep).mono
        hkeys.symm.subset_compl_right
  | error => exact eqOn_refl _ _

/-- States that share the cells of a call give it the same verdict, and go on
sharing what they shared. -/
theorem Confined.perform_same (hconfined : Confined system cell locks)
    (hkeys : (locks call).all ⊆ keys)
    (hsame : EqOn (cell left) (cell right) keys) :
    EqOn (cell (perform system left call).1)
        (cell (perform system right call).1) keys ∧
      (perform system left call).2 = (perform system right call).2 := by
  have hagrees := hconfined.determined left right call (hsame.mono hkeys)
  unfold perform
  cases hleft : system.step left call with
  | error error =>
      cases hright : system.step right call with
      | error other => exact ⟨hsame, rfl⟩
      | ok other =>
          obtain ⟨next, hnext⟩ := hagrees.back other hright
          cases hleft.symm.trans hnext
  | ok next =>
      obtain ⟨other, hright, hwritten⟩ := hagrees.forth next hleft
      rw [hright]
      refine ⟨fun key hkey => ?_, rfl⟩
      by_cases hwrites : key ∈ (locks call).writes
      · exact hwritten (mem_union_right _ hwrites)
      · -- neither side writes the cell
        calc cell next key = cell left key :=
              (hconfined.framed left call next hleft hwrites).symm
          _ = cell right key := hsame hkey
          _ = cell other key := hconfined.framed right call other hright hwrites

theorem Confined.step_same (hconfined : Confined system cell locks)
    (hkeys : (locks call).all ⊆ keys)
    (hsame : EqOn (cell left) (cell right) keys) :
    Agrees (fun next other => EqOn (cell next) (cell other) keys)
      (system.step left call) (system.step right call) := by
  have hagrees := hconfined.determined left right call (hsame.mono hkeys)
  obtain ⟨hcells, -⟩ := hconfined.perform_same hkeys hsame
  refine ⟨fun next hok => ?_, hagrees.back⟩
  obtain ⟨other, hother, -⟩ := hagrees.forth next hok
  rw [perform_of_ok hok, perform_of_ok hother] at hcells
  exact ⟨other, hother, hcells⟩

/-- The rule for views: to somebody who reads some cells only, a schedule looks
like the schedule without the calls that write none of them, provided the other
calls declare nothing else.  Their verdicts are the same as well. -/
theorem Confined.serve_filter (hconfined : Confined system cell locks)
    (inside : Call → Bool) {calls : List Call}
    (hinside : ∀ call ∈ calls, inside call = true → (locks call).all ⊆ keys)
    (houtside : ∀ call ∈ calls, inside call = false →
      Disjoint (locks call).writes keys)
    (hsame : EqOn (cell left) (cell right) keys) :
    EqOn (cell (serve system left calls).1)
        (cell (serve system right (calls.filter inside)).1) keys ∧
      verdictsOn inside (serve system left calls).2 =
        (serve system right (calls.filter inside)).2 := by
  induction calls generalizing left right with
  | nil => exact ⟨hsame, rfl⟩
  | cons call calls ih =>
      have hinsideRest : ∀ other ∈ calls, inside other = true →
          (locks other).all ⊆ keys :=
        fun other hmem => hinside other (List.mem_cons_of_mem _ hmem)
      have houtsideRest : ∀ other ∈ calls, inside other = false →
          Disjoint (locks other).writes keys :=
        fun other hmem => houtside other (List.mem_cons_of_mem _ hmem)
      rw [serve_cons]
      cases hcall : inside call with
      | true =>
          have hperformed := hconfined.perform_same
            (hinside call List.mem_cons_self hcall) hsame
          obtain ⟨hcells, hverdicts⟩ :=
            ih hinsideRest houtsideRest hperformed.1
          rw [List.filter_cons_of_pos hcall, serve_cons, verdictsOn_cons,
            if_pos hcall, hverdicts, hperformed.2]
          exact ⟨hcells, rfl⟩
      | false =>
          have happart := hconfined.perform_apart left
            (houtside call List.mem_cons_self hcall)
          have hnot : ¬ inside call = true := by simp [hcall]
          rw [List.filter_cons_of_neg hnot, verdictsOn_cons, if_neg hnot]
          exact ih hinsideRest houtsideRest (happart.symm.trans hsame)

/-- A schedule leaves the cells alone that none of its calls writes. -/
theorem Confined.serve_apart (hconfined : Confined system cell locks)
    {calls : List Call}
    (hkeys : ∀ call ∈ calls, Disjoint (locks call).writes keys) :
    EqOn (cell state) (cell (serve system state calls).1) keys := by
  have hserved := hconfined.serve_filter (fun _ => false)
    (fun _ _ hinside => nomatch hinside) (fun call hmem _ => hkeys call hmem)
    (eqOn_refl (cell state) keys)
  rw [List.filter_eq_nil_iff.mpr (by simp)] at hserved
  exact hserved.1.symm

/-- States that share the cells of every call of a schedule give each of them
the same verdict. -/
theorem Confined.serve_same (hconfined : Confined system cell locks)
    {calls : List Call} (hkeys : ∀ call ∈ calls, (locks call).all ⊆ keys)
    (hsame : EqOn (cell left) (cell right) keys) :
    (serve system left calls).2 = (serve system right calls).2 := by
  induction calls generalizing left right with
  | nil => rfl
  | cons call calls ih =>
      obtain ⟨hcells, hverdict⟩ :=
        hconfined.perform_same (hkeys call List.mem_cons_self) hsame
      have hrest := ih
        (fun other hmem => hkeys other (List.mem_cons_of_mem _ hmem)) hcells
      rw [serve_cons, serve_cons, hverdict, hrest]

/-- Independent calls may be served in either order. -/
theorem Confined.perform_comm (hconfined : Confined system cell locks)
    (hext : Function.Injective cell) (state : State) {first second : Call}
    (hindependent : Independent locks first second) :
    (perform system (perform system state first).1 second).1 =
        (perform system (perform system state second).1 first).1 ∧
      (perform system (perform system state first).1 second).2 =
        (perform system state second).2 ∧
      (perform system (perform system state second).1 first).2 =
        (perform system state first).2 := by
  have hsecond := hconfined.perform_same Subset.rfl
    (hconfined.perform_apart state hindependent.forth)
  have hfirst := hconfined.perform_same Subset.rfl
    (hconfined.perform_apart state hindependent.back)
  refine ⟨hext (funext fun key => ?_), hsecond.2.symm, hfirst.2.symm⟩
  by_cases hwrites : key ∈ (locks second).all
  · -- the first call does not write the cell
    have hapart : Disjoint (locks first).writes {key} :=
      disjoint_singleton_right.mpr fun hmem =>
        disjoint_left.mp hindependent.forth hmem hwrites
    calc cell (perform system (perform system state first).1 second).1 key
        = cell (perform system state second).1 key := (hsecond.1 hwrites).symm
      _ = cell (perform system (perform system state second).1 first).1 key :=
        hconfined.perform_apart _ hapart rfl
  · -- the second call does not write the cell
    have hapart : Disjoint (locks second).writes {key} :=
      disjoint_singleton_right.mpr fun hmem =>
        hwrites (mem_union_right _ hmem)
    have hbefore : EqOn (cell state) (cell (perform system state second).1)
        ((locks first).all ∪ {key}) :=
      hconfined.perform_apart _
        (disjoint_union_right.mpr ⟨hindependent.back, hapart⟩)
    calc cell (perform system (perform system state first).1 second).1 key
        = cell (perform system state first).1 key :=
          (hconfined.perform_apart _ hapart rfl).symm
      _ = cell (perform system (perform system state second).1 first).1 key :=
          (hconfined.perform_same subset_union_left hbefore).1
            (mem_union_right _ rfl)

end Confined

/-! ## Requests in front of calls -/

/-- The system behind a decoder: what does not decode is refused without an
error of the system. -/
def behind {Raw : Type} (decode : Raw → Option Call)
    (system : System State Call Error) : System State Raw (Option Error) where
  step state raw :=
    match decode raw with
    | some call => (system.step state call).mapError some
    | none => .error none
  environment := system.environment

/-- Requests that declare at least what their calls declare keep to it. -/
theorem Confined.behind {Raw : Type} {system : System State Call Error}
    {cell : State → Key → Cell} {locks : Call → Locks Key}
    (hconfined : Confined system cell locks) {decode : Raw → Option Call}
    {passed : Raw → Locks Key}
    (hpassed : ∀ raw call, decode raw = some call →
      (locks call).writes ⊆ (passed raw).writes ∧
        (locks call).reads ⊆ (passed raw).all) :
    Confined (behind decode system) cell passed where
  framed state raw next hok := by
    simp only [Locality.behind] at hok
    split at hok
    · next call hdecode =>
      obtain ⟨hwrites, -⟩ := hpassed raw call hdecode
      have hstep := mapError_eq_ok_iff.mp hok
      exact (hconfined.framed state call next hstep).mono
        (compl_subset_compl.mpr hwrites)
    · cases hok
  determined left right raw hsame := by
    simp only [Locality.behind]
    split
    · next call hdecode =>
      obtain ⟨hwrites, hreads⟩ := hpassed raw call hdecode
      have hall : (locks call).all ⊆ (passed raw).all :=
        union_subset hreads (hwrites.trans subset_union_right)
      exact (hconfined.step_same hall hsame).mapError some some
    · exact .of_fails (fun _ hok => nomatch hok) fun _ hok => nomatch hok

/-! ## Schedules -/

/-- The second schedule arises from the first one by swapping neighbours that
are independent. -/
inductive Rescheduled (independent : Call → Call → Prop) :
    List Call → List Call → Prop
  | refl (calls : List Call) : Rescheduled independent calls calls
  | swap {first second : Call} (hindependent : independent first second)
      (calls : List Call) :
      Rescheduled independent (first :: second :: calls)
        (second :: first :: calls)
  | cons (call : Call) {calls others : List Call}
      (hcalls : Rescheduled independent calls others) :
      Rescheduled independent (call :: calls) (call :: others)
  | trans {calls others finals : List Call}
      (hleft : Rescheduled independent calls others)
      (hright : Rescheduled independent others finals) :
      Rescheduled independent calls finals

/-- Swapping independent neighbours changes neither the state at the end nor the
verdict on any call. -/
theorem Confined.serve_rescheduled {system : System State Call Error}
    {cell : State → Key → Cell} {locks : Call → Locks Key}
    (hconfined : Confined system cell locks) (hext : Function.Injective cell)
    {calls others : List Call}
    (hcalls : Rescheduled (Independent locks) calls others) (state : State) :
    (serve system state calls).1 = (serve system state others).1 ∧
      (serve system state calls).2.Perm (serve system state others).2 := by
  induction hcalls generalizing state with
  | refl calls => exact ⟨rfl, .refl _⟩
  | @swap first second hindependent calls =>
      obtain ⟨hstate, hsecond, hfirst⟩ :=
        hconfined.perform_comm hext state hindependent
      rw [serve_cons, serve_cons, serve_cons, serve_cons, hstate, hsecond,
        hfirst]
      exact ⟨rfl, .swap _ _ _⟩
  | cons call _ ih =>
      obtain ⟨hstate, hverdicts⟩ := ih (perform system state call).1
      rw [serve_cons, serve_cons]
      exact ⟨hstate, .cons _ hverdicts⟩
  | trans _ _ hleft hright =>
      exact ⟨(hleft state).1.trans (hright state).1,
        (hleft state).2.trans (hright state).2⟩

/-- `Interleaved left right whole`: the schedule merges the two, each in its own
order. -/
inductive Interleaved : List Call → List Call → List Call → Prop
  | nil : Interleaved [] [] []
  | left {call : Call} {left right whole : List Call}
      (hrest : Interleaved left right whole) :
      Interleaved (call :: left) right (call :: whole)
  | right {call : Call} {left right whole : List Call}
      (hrest : Interleaved left right whole) :
      Interleaved left (call :: right) (call :: whole)

section Interleaving

variable {independent : Call → Call → Prop} {left right whole : List Call}

/-- A call that is independent of a schedule may wait for its end. -/
theorem Rescheduled.postpone {call : Call}
    (hcall : ∀ other ∈ left, independent call other) :
    Rescheduled independent (call :: (left ++ right))
      (left ++ call :: right) := by
  induction left with
  | nil => exact .refl _
  | cons first left ih =>
      refine .trans (.swap (hcall first List.mem_cons_self) _) ?_
      exact .cons first
        (ih fun other hmem => hcall other (List.mem_cons_of_mem _ hmem))

/-- A merge of two independent schedules may be served one schedule after the
other. -/
theorem Interleaved.rescheduled (hwhole : Interleaved left right whole)
    (hindependent : ∀ first ∈ right, ∀ second ∈ left,
      independent first second) :
    Rescheduled independent whole (left ++ right) := by
  induction hwhole with
  | nil => exact .refl _
  | left _ ih =>
      exact .cons _ (ih fun first hfirst second hsecond =>
        hindependent first hfirst second (List.mem_cons_of_mem _ hsecond))
  | right _ ih =>
      refine .trans (.cons _ (ih fun first hfirst second hsecond =>
        hindependent first (List.mem_cons_of_mem _ hfirst) second hsecond)) ?_
      exact .postpone (hindependent _ List.mem_cons_self)

end Interleaving

end DexterVault.Locality
