import DexterVault.Program.RawCalls
import DexterVault.Program.Transaction

/-!
# Transactions as the runtime sees them

Instructions carry account lists and bytes.  What an instruction of the vault
program does is what the entry point makes of it, and the check by which
`SignV2` relies on the instruction before it compares the first two keys of its
account list and the first bytes of its data.  `Transactions` speaks of calls
and of the swig they drive instead; a swig whose markers are discriminators of
driving instructions cannot tell the difference while these run on V6 vaults.
-/

namespace DexterVault.RawTransactions

open DexterVault.Machine
open DexterVault.Framing
open DexterVault.Wire
open DexterVault.Accounts
open DexterVault.Execution
open DexterVault.SwigCalls
open DexterVault.Program
open DexterVault.Transactions
open DexterVault.Entrypoints
open DexterVault.RawCalls

/-! ## Items -/

/-- What an instruction does.  An instruction of the vault program is a call, or
it runs on an account in a layout older than V6.  A `SignV2` is one that pays
under a role that relies on the instruction before it; under any other role, the
session role included, it is foreign. -/
inductive Deed
  | vault (swigCreated : Bool) (call : Call)
  | image
  | signV2 (swig wallet : Pubkey) (transfer : Transfer)
  | foreign

structure RawItem where
  instruction : CpiInstruction
  deed : Deed

def RawItem.sysvarEntry (item : RawItem) : Instruction :=
  ⟨item.instruction.programId, item.instruction.data⟩

/-- The item without its account list. -/
def RawItem.item (item : RawItem) : Item :=
  match item.deed with
  | .vault _ call => .vault item.sysvarEntry call
  | .signV2 swig wallet transfer => .signV2 item.sysvarEntry swig wallet transfer
  | .image | .foreign => .foreign item.sysvarEntry

/-- Instructions of the vault program get past the entry point, and a call is
what it decodes; `SignV2` belongs to the Swig program. -/
def RawItem.Decodes (context : Context) (item : RawItem) : Prop :=
  match item.deed with
  | .vault swigCreated call =>
      item.instruction.programId = programId ∧
        RawCall.decode ⟨context, swigCreated, item.instruction⟩ = some call
  | .image =>
      item.instruction.programId = programId ∧
        ∃ message, dispatch item.instruction.data = some message
  | .signV2 _ _ _ => item.instruction.programId = swigProgramId
  | .foreign => item.instruction.programId ≠ programId

/-- Swig's check of the preceding instruction. -/
def RawProgramExec (markers : Markers) (swig wallet : Pubkey) :
    Option RawItem → Prop
  | some item =>
      item.instruction.programId = programId ∧
        [swig, wallet] <+: item.instruction.accounts.map CpiMeta.key ∧
        ∃ marker ∈ markers swig, marker <+: item.instruction.data
  | none => False

/-- One item behind `previous`. -/
def Does (runtime : Runtime) (markers : Markers) (previous : Option RawItem)
    (item : RawItem) (before after : State) : Prop :=
  match item.deed with
  | .vault _ call => step runtime before call = .ok after
  | .signV2 swig wallet transfer =>
      RawProgramExec markers swig wallet previous ∧
        transferChecked wallet transfer before = .ok after
  | .image | .foreign => Environment before after

/-- The execution of the items that follow `previous`. -/
inductive RawExecutes (runtime : Runtime) (markers : Markers) :
    Option RawItem → State → List RawItem → State → Prop
  | done {previous : Option RawItem} {state : State} :
      RawExecutes runtime markers previous state [] state
  | item {previous : Option RawItem} {before between after : State}
      {item : RawItem} {rest : List RawItem}
      (hdoes : Does runtime markers previous item before between)
      (hrest : RawExecutes runtime markers (some item) between rest after) :
      RawExecutes runtime markers previous before (item :: rest) after

structure RawTransaction where
  items : List RawItem
  signers : List Pubkey
  unixTimestamp : I64

def RawTransaction.transaction (raw : RawTransaction) : Transaction where
  items := raw.items.map RawItem.item
  signers := raw.signers
  unixTimestamp := raw.unixTimestamp

structure RawLands (runtime : Runtime) (markers : Markers) (raw : RawTransaction)
    (before after : State) : Prop where
  decodes : ∀ index (item : RawItem), raw.items[index]? = some item →
    item.Decodes (raw.transaction.contextAt index)
  executes : RawExecutes runtime markers none before raw.items after

/-! ## Adjacent items -/

section Adjacent

variable {runtime : Runtime} {markers : Markers} {previous : Option RawItem}
  {start finish : State}
  {earlier later : List RawItem} {item : RawItem}

/-- An item runs behind the one before it. -/
theorem RawExecutes.split (hexecutes : RawExecutes runtime markers previous start
    (earlier ++ item :: later) finish) :
    ∃ before after, RawExecutes runtime markers previous start earlier before ∧
      Does runtime markers (earlier.getLast?.or previous) item before after ∧
        RawExecutes runtime markers (some item) after later finish := by
  induction earlier generalizing previous start with
  | nil =>
      cases hexecutes with
      | item hdoes hrest => exact ⟨_, _, .done, hdoes, hrest⟩
  | cons first earlier ih =>
      cases hexecutes with
      | item hdoes hrest =>
          obtain ⟨before, after, hreached, hitem, hlater⟩ := ih hrest
          refine ⟨before, after, .item hdoes hreached, ?_, hlater⟩
          cases hlast : earlier.getLast? with
          | none =>
              obtain rfl := List.getLast?_eq_none_iff.mp hlast
              exact hitem
          | some last =>
              rw [hlast] at hitem
              have hsame : (first :: earlier).getLast? = some last := by
                rw [List.getLast?_cons, hlast, Option.getD_some]
              rw [hsame]
              exact hitem

end Adjacent

/-! ## What decoding keeps -/

section Decoding

variable {context : Context} {swigCreated : Bool} {remaining : List AccountMeta}
  {entrypoint : Entrypoint} {args : Args entrypoint} {keys : List Pubkey}
  {call : Call}

theorem name_of_callOf (hcall : callOf context swigCreated remaining entrypoint
    args keys = some call) :
    Call.name call = entrypoint.name ∧ call.context = context := by
  cases entrypoint with
  | migrateV2ToV3 | migrateV3ToV4 | migrateV4ToV5 | migrateLegacyToV6 =>
      cases hcall
  | _ =>
      simp only [callOf] at hcall
      split at hcall
      · cases hcall
        exact ⟨rfl, rfl⟩
      · cases hcall

/-- The instructions that drive the wallet of a swig. -/
def drivers : List Entrypoint :=
  [.finalizeWithdrawal, .settleTabVoucher, .settleLockedVoucher, .drawCredit,
    .repayCredit, .seizeCollateral]

theorem driven_of_callOf (hdrives : entrypoint ∈ drivers)
    (hcall : callOf context swigCreated remaining entrypoint args keys =
      some call) :
    ∃ swig wallet, Call.drivenWallet call = some (swig, wallet) ∧
      [swig, wallet] <+: keys := by
  simp only [drivers, List.mem_cons, List.not_mem_nil, or_false] at hdrives
  rcases hdrives with rfl | rfl | rfl | rfl | rfl | rfl <;>
    simp only [callOf] at hcall <;> split at hcall <;> cases hcall <;>
    exact ⟨_, _, rfl, List.prefix_append _ _⟩

/-- The wallet that a call drives stands at the front of its account list. -/
theorem drivenWallet_of_callOf {swig wallet : Pubkey} {passed rest : List CpiMeta}
    (hdrives : entrypoint ∈ drivers)
    (hfetch : fetch (slots entrypoint) passed = some (keys, rest))
    (hcall : callOf context swigCreated remaining entrypoint args keys =
      some call)
    (hfront : [swig, wallet] <+: passed.map CpiMeta.key) :
    Call.drivenWallet call = some (swig, wallet) := by
  obtain ⟨first, second, hdriven, hkeys⟩ := driven_of_callOf hdrives hcall
  -- both pairs are the first two keys
  have hpair : [first, second] <+: passed.map CpiMeta.key := by
    rw [keys_of_fetch hfetch]
    exact hkeys.trans (List.prefix_append _ _)
  have hsame : [first, second] = [swig, wallet] :=
    (List.prefix_of_prefix_length_le hpair hfront (Nat.le_refl 2)).eq_of_length rfl
  obtain ⟨rfl, rfl⟩ : first = swig ∧ second = wallet := by
    simpa using hsame
  exact hdriven

end Decoding

section Items

variable {runtime : Runtime} {markers : Markers} {context : Context}
  {item : RawItem} {entrypoint : Entrypoint}

/-- An instruction with a discriminator is a call of its function, or runs on an
older layout. -/
theorem call_of_front (hdecodes : item.Decodes context)
    (hprogram : item.instruction.programId = programId)
    (hlayout : item.deed ≠ .image)
    (hfront : entrypoint.discriminator <+: item.instruction.data) :
    ∃ swigCreated call args keys remaining,
      item.deed = .vault swigCreated call ∧
        fetch (slots entrypoint) item.instruction.accounts =
          some (keys, remaining) ∧
        callOf context swigCreated (RawCall.siblings remaining) entrypoint args
          keys = some call := by
  unfold RawItem.Decodes at hdecodes
  split at hdecodes
  · next swigCreated call hdeed =>
    obtain ⟨-, hdecode⟩ := hdecodes
    simp only [RawCall.decode, Option.bind_eq_bind, Option.bind_eq_some_iff,
      Prod.exists] at hdecode
    obtain ⟨⟨found, args⟩, hdispatch, keys, remaining, hfetch, hcall⟩ := hdecode
    obtain rfl : found = entrypoint := entrypoint_of_dispatch hdispatch hfront
    exact ⟨swigCreated, call, args, keys, remaining, hdeed, hfetch, hcall⟩
  · next hdeed => exact absurd hdeed hlayout
  · rw [hprogram] at hdecodes
    exact absurd hdecodes (by decide)
  · exact absurd hprogram hdecodes

/-- Every marker on a swig is the discriminator of an instruction that drives
the wallet. -/
def MarksDrivers (markers : Markers) : Prop :=
  ∀ swig, ∀ marker ∈ markers swig,
    ∃ entrypoint ∈ drivers, marker = entrypoint.discriminator

/-- The item is decoded, and is no run of a driver on an older layout. -/
structure RawItem.Current (item : RawItem) : Prop where
  decodes : ∃ context, item.Decodes context
  layout : item.deed = .image → ∀ entrypoint ∈ drivers,
    ¬ entrypoint.discriminator <+: item.instruction.data

/-- Then the check of the account list is the check of the call. -/
theorem programExec_of_raw {swig wallet : Pubkey} {previous : Option RawItem}
    (hmarks : MarksDrivers markers) (hcurrent : ∀ item ∈ previous, item.Current)
    (hraw : RawProgramExec markers swig wallet previous) :
    ProgramExec markers swig wallet (previous.map RawItem.item) := by
  cases previous with
  | none => exact hraw
  | some item =>
      obtain ⟨hprogram, haccounts, marker, hmarker, hfront⟩ := hraw
      obtain ⟨entrypoint, hdrives, hdiscriminator⟩ := hmarks swig marker hmarker
      obtain ⟨⟨context, hitem⟩, hlayout⟩ := hcurrent item rfl
      rw [hdiscriminator] at hfront
      have hnew : item.deed ≠ .image := fun himage =>
        hlayout himage entrypoint hdrives hfront
      obtain ⟨_, call, _, keys, _, hdeed, hfetch, hcall⟩ :=
        call_of_front hitem hprogram hnew hfront
      have hdriven := drivenWallet_of_callOf hdrives hfetch hcall haccounts
      rw [Option.map_some, RawItem.item, hdeed]
      exact ⟨hprogram, hdriven, marker, hmarker, hdiscriminator ▸ hfront⟩

/-- The run lemma. -/
theorem executes_of_raw {previous : Option RawItem} {items : List RawItem}
    {start finish : State} (hmarks : MarksDrivers markers)
    (hprevious : ∀ item ∈ previous, item.Current)
    (hcurrent : ∀ item ∈ items, item.Current)
    (hraw : RawExecutes runtime markers previous start items finish) :
    Executes runtime markers (previous.map RawItem.item) start
      (items.map RawItem.item) finish := by
  induction hraw with
  | done => exact .done
  | @item previous before between after item rest hdoes hrest ih =>
      have hlater := ih
        (fun other hother => hcurrent other
          (Option.mem_some.mp hother ▸ List.mem_cons_self))
        fun other hother => hcurrent other (List.mem_cons_of_mem _ hother)
      unfold Does at hdoes
      rw [List.map_cons, RawItem.item]
      rw [Option.map_some, RawItem.item] at hlater
      split at hdoes
      · next hdeed =>
        simp only [hdeed] at hlater ⊢
        exact .vault hdoes hlater
      · next hdeed =>
        simp only [hdeed] at hlater ⊢
        exact .signV2 (programExec_of_raw hmarks hprevious hdoes.1) hdoes.2 hlater
      · next hdeed =>
        simp only [hdeed] at hlater ⊢
        exact .foreign hdoes hlater
      · next hdeed =>
        simp only [hdeed] at hlater ⊢
        exact .foreign hdoes hlater

end Items

section Landing

variable {runtime : Runtime} {item : RawItem} {instruction : Instruction}
  {raw : RawCall} {call : Call}

theorem deed_of_item (hitem : item.item = .vault instruction call) :
    ∃ swigCreated, item.deed = .vault swigCreated call ∧
      item.sysvarEntry = instruction := by
  unfold RawItem.item at hitem
  split at hitem
  · next swigCreated found hdeed =>
    cases hitem
    exact ⟨swigCreated, hdeed, rfl⟩
  all_goals cases hitem

/-- The data of a decoded call begins with the hash of its name. -/
theorem front_of_decode (hhash : runtime.sha256 = Sha256.digest)
    (hdecode : raw.decode = some call) :
    Transactions.discriminator runtime call <+: raw.instruction.data ∧
      call.context = raw.context := by
  simp only [RawCall.decode, Option.bind_eq_bind, Option.bind_eq_some_iff,
    Prod.exists] at hdecode
  obtain ⟨message, hdispatch, _, _, -, hcall⟩ := hdecode
  obtain ⟨hname, hcontext⟩ := name_of_callOf hcall
  have hdiscriminator : Transactions.discriminator runtime call =
      message.1.discriminator := by
    rw [Transactions.discriminator, hhash, hname]
    exact (Entrypoint.discriminator_eq_hash message.1
      (Entrypoint.mem_entrypoints message.1)).symm
  exact ⟨hdiscriminator ▸ discriminator_at_front hdispatch, hcontext⟩

end Landing

/-- A transaction that lands with its account lists lands as a transaction of
calls, unless one of its instructions drives a wallet from an account in an older
layout: what holds of those transactions holds of the instructions the runtime
sees. -/
theorem lands_of_raw {runtime : Runtime} {markers : Markers}
    {raw : RawTransaction} {start finish : State}
    (hhash : runtime.sha256 = Sha256.digest) (hmarks : MarksDrivers markers)
    (hlayout : ∀ item ∈ raw.items, item.deed = .image →
      ∀ entrypoint ∈ drivers,
        ¬ entrypoint.discriminator <+: item.instruction.data)
    (hraw : RawLands runtime markers raw start finish) :
    Lands runtime markers raw.transaction start finish where
  decoded index instruction call hitem := by
    have hmapped : (raw.items[index]?).map RawItem.item =
        some (.vault instruction call) := by
      rw [← List.getElem?_map]
      exact hitem
    obtain ⟨item, hat, hsame⟩ := Option.map_eq_some_iff.mp hmapped
    obtain ⟨swigCreated, hdeed, rfl⟩ := deed_of_item hsame
    have hdecodes := hraw.decodes index item hat
    rw [RawItem.Decodes, hdeed] at hdecodes
    obtain ⟨hprogram, hdecode⟩ := hdecodes
    obtain ⟨hfront, hcontext⟩ := front_of_decode hhash hdecode
    exact ⟨hprogram, hfront, hcontext⟩
  executes := by
    refine executes_of_raw hmarks ?_ ?_ hraw.executes
    · rintro _ ⟨⟩
    intro item hmem
    obtain ⟨index, hlt, hat⟩ := List.getElem_of_mem hmem
    have hdecodes := hraw.decodes index item
      (List.getElem?_eq_some_iff.mpr ⟨hlt, hat⟩)
    exact ⟨⟨_, hdecodes⟩, hlayout item hmem⟩

end DexterVault.RawTransactions
