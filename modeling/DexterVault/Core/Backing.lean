import DexterVault.Core.Agreement
import DexterVault.Core.KeyedSum

/-!
# Records kept in buffers

A system is specified over a store of typed records, and runs over a store of
raw buffers: it reads the records out of the buffers, takes a step and writes
the records it declared back, a new record into a fresh buffer and a stored one
over the buffer it was read from.  When a step changes declared records only, a
record keeps its kind, and the buffer of a kind has room for all records of the
kind, no write fails and the two systems play the same plays.
-/

namespace DexterVault.Backing

open DexterVault.Agreement
open DexterVault.KeyedSum
open DexterVault.Transition

variable {Key Buffer Record Kind Rest State Call Error : Type}

/-- How records are kept.  A buffer that holds a record takes every storable
record of its kind. -/
structure Format (Buffer Record Kind : Type) where
  kind : Record → Kind
  Storable : Record → Prop
  read : Buffer → Option Record
  fresh : Kind → Buffer
  /-- `none` where the record does not fit. -/
  write : Record → Buffer → Option Buffer
  Holds : Buffer → Record → Prop
  storable : ∀ {buffer record}, Holds buffer record → Storable record
  read_eq : ∀ {buffer record}, Holds buffer record → read buffer = some record
  write_fresh : ∀ {record}, Storable record →
    ∃ next, write record (fresh (kind record)) = some next ∧ Holds next record
  write_over : ∀ {buffer stored record}, Holds buffer stored →
    kind record = kind stored → Storable record →
    ∃ next, write record buffer = some next ∧ Holds next record

/-! ## Reading a store -/

section Reading

/-- The records that can be read, each at the key of its buffer. -/
def readAll (read : Buffer → Option Record) (buffers : Store Key Buffer) :
    Store Key Record where
  entries := buffers.entries.filterMap fun entry =>
    (read entry.2).map (Sigma.mk entry.1)
  nodupKeys := by
    obtain ⟨⟨entries⟩, hentries⟩ := buffers
    have hpairs := List.nodupKeys_iff_pairwise.mp hentries
    refine List.nodupKeys_iff_pairwise.mpr (hpairs.filterMap _ ?_)
    intro left right hne found hfound other hother
    obtain ⟨_, -, rfl⟩ := Option.map_eq_some_iff.mp hfound
    obtain ⟨_, -, rfl⟩ := Option.map_eq_some_iff.mp hother
    exact hne

theorem lookup_readAll [DecidableEq Key] (read : Buffer → Option Record)
    (buffers : Store Key Buffer) (key : Key) :
    (readAll read buffers).lookup key = (buffers.lookup key).bind read := by
  apply Option.ext
  intro record
  have hentry : Sigma.mk key record ∈ (readAll read buffers).entries ↔
      ∃ entry ∈ buffers.entries, (read entry.2).map (Sigma.mk entry.1) =
        some (⟨key, record⟩ : Σ _ : Key, Record) := Multiset.mem_filterMap _ _
  rw [← Option.mem_def, Finmap.mem_lookup_iff, hentry, Option.bind_eq_some_iff]
  constructor
  · rintro ⟨⟨found, buffer⟩, hmem, hread⟩
    obtain ⟨value, hvalue, heq⟩ := Option.map_eq_some_iff.mp hread
    cases heq
    exact ⟨buffer, Finmap.mem_lookup_iff.mpr hmem, hvalue⟩
  · rintro ⟨buffer, hbuffer, hread⟩
    exact ⟨⟨key, buffer⟩, Finmap.mem_lookup_iff.mp hbuffer,
      Option.map_eq_some_iff.mpr ⟨record, hread, rfl⟩⟩

end Reading

/-! ## Writing declared records -/

section Writing

variable [DecidableEq Key] (format : Format Buffer Record Kind)

/-- The declared records go back into their buffers; the buffer of a record that
is gone goes too. -/
def save (after : Store Key Record) (buffers : Store Key Buffer) :
    List Key → Option (Store Key Buffer)
  | [] => some buffers
  | key :: keys =>
      match after.lookup key with
      | none => save after (buffers.erase key) keys
      | some record => do
          let buffer := (buffers.lookup key).getD (format.fresh (format.kind record))
          let written ← format.write record buffer
          save after (buffers.insert key written) keys

/-- Every buffer holds a record. -/
def Sound (buffers : Store Key Buffer) : Prop :=
  ∀ key buffer, buffers.lookup key = some buffer →
    ∃ record, format.Holds buffer record

variable {format} {after : Store Key Record} {buffers : Store Key Buffer}
  {key : Key} {keys : List Key}

theorem Sound.holds (hsound : Sound format buffers) {buffer : Buffer}
    {record : Record} (hbuffer : buffers.lookup key = some buffer)
    (hread : (readAll format.read buffers).lookup key = some record) :
    format.Holds buffer record := by
  obtain ⟨stored, hstored⟩ := hsound key buffer hbuffer
  rw [lookup_readAll, hbuffer, Option.bind_some, format.read_eq hstored] at hread
  cases hread
  exact hstored

theorem Sound.storable (hsound : Sound format buffers) {record : Record}
    (hread : (readAll format.read buffers).lookup key = some record) :
    format.Storable record := by
  have hfound := hread
  rw [lookup_readAll] at hfound
  obtain ⟨buffer, hbuffer, -⟩ := Option.bind_eq_some_iff.mp hfound
  exact format.storable (hsound.holds hbuffer hread)

theorem Sound.insert (hsound : Sound format buffers) {buffer : Buffer}
    {record : Record} (hholds : format.Holds buffer record) :
    Sound format (buffers.insert key buffer) := by
  intro other found hfound
  by_cases hother : other = key
  · subst hother
    rw [Finmap.lookup_insert] at hfound
    cases hfound
    exact ⟨record, hholds⟩
  · rw [Finmap.lookup_insert_of_ne _ hother] at hfound
    exact hsound other found hfound

theorem Sound.erase (hsound : Sound format buffers) :
    Sound format (buffers.erase key) := by
  intro other found hfound
  by_cases hother : other = key
  · subst hother
    rw [Finmap.lookup_erase] at hfound
    cases hfound
  · rw [Finmap.lookup_erase_ne hother] at hfound
    exact hsound other found hfound

section Saved

variable {written : Store Key Buffer}

theorem lookup_save_of_notMem (hsave : save format after buffers keys = some written)
    (hkey : key ∉ keys) : written.lookup key = buffers.lookup key := by
  induction keys generalizing buffers with
  | nil =>
      cases hsave
      rfl
  | cons first keys ih =>
      obtain ⟨hfirst, hrest⟩ := List.ne_and_not_mem_of_not_mem_cons hkey
      rw [save] at hsave
      split at hsave
      · rw [ih hsave hrest, Finmap.lookup_erase_ne hfirst]
      · obtain ⟨buffer, -, hsave⟩ := Option.bind_eq_some_iff.mp hsave
        rw [ih hsave hrest, Finmap.lookup_insert_of_ne _ hfirst]

/-- A declared record that is gone leaves no buffer behind. -/
theorem lookup_save_of_none (hsave : save format after buffers keys = some written)
    (hkey : key ∈ keys) (hgone : after.lookup key = none) :
    written.lookup key = none := by
  induction keys generalizing buffers with
  | nil => exact absurd hkey List.not_mem_nil
  | cons first keys ih =>
      by_cases hrest : key ∈ keys
      · rw [save] at hsave
        split at hsave
        · exact ih hsave hrest
        · obtain ⟨buffer, -, hsave⟩ := Option.bind_eq_some_iff.mp hsave
          exact ih hsave hrest
      · obtain rfl := List.eq_or_mem_of_mem_cons hkey |>.resolve_right hrest
        rw [save, hgone] at hsave
        rw [lookup_save_of_notMem hsave hrest, Finmap.lookup_erase]

/-- A declared record stands in the buffer it was written into. -/
theorem lookup_save_of_some {record : Record}
    (hsave : save format after buffers keys = some written) (hkey : key ∈ keys)
    (hrecord : after.lookup key = some record) :
    ∃ buffer next, format.write record buffer = some next ∧
      written.lookup key = some next := by
  induction keys generalizing buffers with
  | nil => exact absurd hkey List.not_mem_nil
  | cons first keys ih =>
      by_cases hrest : key ∈ keys
      · rw [save] at hsave
        split at hsave
        · exact ih hsave hrest
        · obtain ⟨buffer, -, hsave⟩ := Option.bind_eq_some_iff.mp hsave
          exact ih hsave hrest
      · obtain rfl := List.eq_or_mem_of_mem_cons hkey |>.resolve_right hrest
        rw [save, hrecord] at hsave
        obtain ⟨next, hwrite, hsave⟩ := Option.bind_eq_some_iff.mp hsave
        refine ⟨_, next, hwrite, ?_⟩
        rw [lookup_save_of_notMem hsave hrest, Finmap.lookup_insert]

end Saved

/-- A record that goes back into its buffer fits, and is what the buffer holds
then. -/
theorem Sound.written (hsound : Sound format buffers) {record : Record}
    (hstorable : format.Storable record)
    (hkind : ∀ stored, (readAll format.read buffers).lookup key = some stored →
      format.kind record = format.kind stored) :
    ∃ written, format.write record ((buffers.lookup key).getD
        (format.fresh (format.kind record))) = some written ∧
      format.Holds written record := by
  cases hbuffer : buffers.lookup key with
  | none => exact format.write_fresh hstorable
  | some buffer =>
      obtain ⟨stored, hstored⟩ := hsound key buffer hbuffer
      refine format.write_over hstored (hkind stored ?_) hstorable
      rw [lookup_readAll, hbuffer, Option.bind_some, format.read_eq hstored]

/-- The rule for the way back: declared records of unchanged kind can be written,
and then every record reads as it should, those that were not declared as long as
they did not change. -/
theorem Sound.save (hsound : Sound format buffers)
    (hstorable : ∀ key record, after.lookup key = some record →
      format.Storable record)
    (hkinds : ∀ key stored record,
      (readAll format.read buffers).lookup key = some stored →
      after.lookup key = some record → format.kind record = format.kind stored)
    (hframed : ∀ key ∉ keys,
      after.lookup key = (readAll format.read buffers).lookup key) :
    ∃ written, save format after buffers keys = some written ∧
      Sound format written ∧ readAll format.read written = after := by
  induction keys generalizing buffers with
  | nil =>
      refine ⟨buffers, rfl, hsound, Finmap.ext_lookup fun key => ?_⟩
      exact (hframed key List.not_mem_nil).symm
  | cons key keys ih =>
      rw [Backing.save]
      cases hafter : after.lookup key with
      | none =>
          have hread : ∀ other, other ≠ key →
              (readAll format.read (buffers.erase key)).lookup other =
                (readAll format.read buffers).lookup other := by
            intro other hother
            rw [lookup_readAll, lookup_readAll, Finmap.lookup_erase_ne hother]
          have hgone :
              (readAll format.read (buffers.erase key)).lookup key = none := by
            rw [lookup_readAll, Finmap.lookup_erase, Option.bind_none]
          refine ih hsound.erase ?_ ?_
          · intro other stored record hstored hrecord
            have hother : other ≠ key := by
              rintro rfl
              cases hafter.symm.trans hrecord
            exact hkinds other stored record (hread other hother ▸ hstored) hrecord
          · intro other hother
            by_cases hsame : other = key
            · rw [hsame, hafter, hgone]
            · rw [hread other hsame]
              exact hframed other (List.not_mem_cons_of_ne_of_not_mem hsame hother)
      | some record =>
          obtain ⟨buffer, hwrite, hholds⟩ := hsound.written
            (hstorable key record hafter)
            fun stored hstored => hkinds key stored record hstored hafter
          have hread : ∀ other, other ≠ key →
              (readAll format.read (buffers.insert key buffer)).lookup other =
                (readAll format.read buffers).lookup other := by
            intro other hother
            rw [lookup_readAll, lookup_readAll,
              Finmap.lookup_insert_of_ne _ hother]
          have hwritten :
              (readAll format.read (buffers.insert key buffer)).lookup key =
                some record := by
            rw [lookup_readAll, Finmap.lookup_insert, Option.bind_some,
              format.read_eq hholds]
          simp only [hwrite, Option.bind_eq_bind, Option.bind_some]
          refine ih (hsound.insert hholds) ?_ ?_
          · intro other stored found hstored hfound
            by_cases hsame : other = key
            · subst hsame
              cases hwritten.symm.trans hstored
              cases hafter.symm.trans hfound
              rfl
            · exact hkinds other stored found (hread other hsame ▸ hstored) hfound
          · intro other hother
            by_cases hsame : other = key
            · rw [hsame, hafter, hwritten]
            · rw [hread other hsame]
              exact hframed other (List.not_mem_cons_of_ne_of_not_mem hsame hother)

end Writing

/-! ## The system over buffers -/

/-- The buffers, next to what is not kept in buffers. -/
structure Kept (Key Buffer Rest : Type) where
  buffers : Store Key Buffer
  rest : Rest

section Systems

variable (format : Format Buffer Record Kind)
  (parts : State ≃ Store Key Record × Rest)

def Kept.load (kept : Kept Key Buffer Rest) : State :=
  parts.symm (readAll format.read kept.buffers, kept.rest)

@[simp]
theorem Kept.parts_load {kept : Kept Key Buffer Rest} :
    parts (kept.load format parts) =
      (readAll format.read kept.buffers, kept.rest) :=
  parts.apply_symm_apply _

variable [DecidableEq Key] (declared : Call → List Key) (full : Error)
  (system : System State Call Error)

def keptStep (kept : Kept Key Buffer Rest) (call : Call) :
    Except Error (Kept Key Buffer Rest) := do
  let next ← system.step (kept.load format parts) call
  match save format (parts next).1 kept.buffers (declared call) with
  | some buffers => .ok ⟨buffers, (parts next).2⟩
  | none => .error full

/-- The environment does not write to the buffers. -/
def keptSystem : System (Kept Key Buffer Rest) Call Error where
  step := keptStep format parts declared full system
  environment before after := after.buffers = before.buffers ∧
    system.environment (before.load format parts) (after.load format parts)

/-- What the steps of a system have to do with the format of its records. -/
structure Suited : Prop where
  framed : ∀ state call next, system.step state call = .ok next →
    ∀ key ∉ declared call, (parts next).1.lookup key = (parts state).1.lookup key
  kinds : ∀ state call next, system.step state call = .ok next →
    ∀ key stored record, (parts state).1.lookup key = some stored →
      (parts next).1.lookup key = some record →
      format.kind record = format.kind stored
  storable : ∀ state call next, system.step state call = .ok next →
    (∀ key record, (parts state).1.lookup key = some record →
      format.Storable record) →
    ∀ key record, (parts next).1.lookup key = some record →
      format.Storable record
  environment : ∀ state next, system.environment state next →
    (∀ key record, (parts state).1.lookup key = some record →
      format.Storable record) → (parts next).1 = (parts state).1

variable {format} {parts} {declared} {full} {system}
  {kept : Kept Key Buffer Rest} {call : Call}

theorem keptStep_error {error : Error}
    (herror : system.step (kept.load format parts) call = .error error) :
    keptStep format parts declared full system kept call = .error error := by
  rw [keptStep, herror]
  rfl

/-- A step over the records is a step over the buffers. -/
theorem Suited.keptStep_ok (hsuited : Suited format parts declared system)
    (full : Error) (hsound : Sound format kept.buffers) {next : State}
    (hok : system.step (kept.load format parts) call = .ok next) :
    ∃ after, keptStep format parts declared full system kept call = .ok after ∧
      after.load format parts = next ∧ Sound format after.buffers := by
  have hstorable := hsuited.storable _ call next hok
  have hkinds := hsuited.kinds _ call next hok
  have hframed := hsuited.framed _ call next hok
  rw [Kept.parts_load] at hstorable hkinds hframed
  obtain ⟨written, hwritten, hsoundNext, hread⟩ := hsound.save
    (hstorable fun key record hrecord => hsound.storable hrecord) hkinds hframed
  refine ⟨⟨written, (parts next).2⟩, ?_, ?_, hsoundNext⟩
  · rw [keptStep, hok]
    simp only [hwritten, bind, Except.bind]
  · rw [Kept.load, hread]
    exact parts.symm_apply_apply next

/-- No step fails for lack of room: the system over buffers fails with the errors
of the system over records. -/
theorem Suited.keptStep_error_iff (hsuited : Suited format parts declared system)
    (hsound : Sound format kept.buffers) {error : Error} :
    keptStep format parts declared full system kept call = .error error ↔
      system.step (kept.load format parts) call = .error error := by
  constructor
  · intro herror
    cases hstep : system.step (kept.load format parts) call with
    | error other =>
        cases (keptStep_error hstep).symm.trans herror
        rfl
    | ok next =>
        obtain ⟨after, hafter, -⟩ := hsuited.keptStep_ok full hsound hstep
        cases hafter.symm.trans herror
  · exact keptStep_error

/-- The rule for plays: what the system plays over the records it plays over the
buffers. -/
theorem Suited.plays_forth (hsuited : Suited format parts declared system)
    (full : Error) (hsound : Sound format kept.buffers) {events : List (Event Call)}
    {final : State} (hplays : Plays system (kept.load format parts) events final) :
    ∃ after, Plays (keptSystem format parts declared full system) kept events
      after ∧ after.load format parts = final ∧ Sound format after.buffers := by
  induction hplays with
  | start => exact ⟨kept, .start, rfl, hsound⟩
  | accept _ hstep ih =>
      obtain ⟨middle, hmiddle, rfl, hsoundMiddle⟩ := ih
      obtain ⟨after, hafter, hload, hsoundAfter⟩ :=
        hsuited.keptStep_ok full hsoundMiddle hstep
      exact ⟨after, .accept hmiddle hafter, hload, hsoundAfter⟩
  | refuse _ hstep ih =>
      obtain ⟨middle, hmiddle, rfl, hsoundMiddle⟩ := ih
      exact ⟨middle, .refuse hmiddle (keptStep_error hstep), rfl, hsoundMiddle⟩
  | @environment _ _ next _ hmove ih =>
      obtain ⟨middle, hmiddle, rfl, hsoundMiddle⟩ := ih
      have hrecords := hsuited.environment _ next hmove
      rw [Kept.parts_load] at hrecords
      let after : Kept Key Buffer Rest := ⟨middle.buffers, (parts next).2⟩
      have hload : after.load format parts = next := by
        have hsame : (parts next).1 = readAll format.read middle.buffers :=
          hrecords fun _ _ hrecord => hsoundMiddle.storable hrecord
        rw [Kept.load, ← hsame]
        exact parts.symm_apply_apply next
      refine ⟨after, .environment hmiddle ⟨rfl, ?_⟩, hload, hsoundMiddle⟩
      rwa [hload]

/-- And the other way round: every play leads to buffers that hold the records. -/
theorem Suited.plays_back (hsuited : Suited format parts declared system)
    (hsound : Sound format kept.buffers) {events : List (Event Call)}
    {after : Kept Key Buffer Rest}
    (hplays : Plays (keptSystem format parts declared full system) kept events
      after) :
    Plays system (kept.load format parts) events (after.load format parts) ∧
      Sound format after.buffers := by
  induction hplays with
  | start => exact ⟨.start, hsound⟩
  | @accept _ middle next call _ hstep ih =>
      cases hrecords : system.step (middle.load format parts) call with
      | error error => cases (keptStep_error hrecords).symm.trans hstep
      | ok found =>
          obtain ⟨other, hother, hload, hsoundOther⟩ :=
            hsuited.keptStep_ok full ih.2 hrecords
          cases hother.symm.trans hstep
          exact ⟨.accept ih.1 (hload ▸ hrecords), hsoundOther⟩
  | refuse _ hstep ih =>
      exact ⟨.refuse ih.1 ((hsuited.keptStep_error_iff ih.2).mp hstep), ih.2⟩
  | environment _ hmove ih =>
      exact ⟨.environment ih.1 hmove.2, hmove.1.symm ▸ ih.2⟩

end Systems

end DexterVault.Backing
