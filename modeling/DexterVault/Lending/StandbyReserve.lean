import DexterVault.Lending.Loan

/-!
# The reserve of a financier

The ledger of a financier counts what is promised to all the vaults it backs.
Each opening, resizing and closing of a standby moves the counter by the change
of one cap, so it stays the sum of the caps and within the committed reserve.
-/

namespace DexterVault.StandbyReserve

open Function
open DexterVault.Machine
open DexterVault.Accounts
open DexterVault.Execution
open DexterVault.KeyedSum
open DexterVault.Transition
open DexterVault.Credit
open DexterVault.Program
open DexterVault.Loan

variable {runtime : Runtime} {financier : Pubkey}

/-! ## What a vault is promised -/

/-- Who backs a vault, and up to which amount. -/
structure Backing where
  standbyBacker : Option Pubkey
  standbyCap : U64

def backing (terms : VaultTerms) : Backing where
  standbyBacker := terms.standbyBacker
  standbyCap := terms.standbyCap

def backing? (state : State) (vaultKey : Pubkey) : Option Backing :=
  (state.terms? vaultKey).map backing

/-- The cap that the financier has promised. -/
def promise (financier : Pubkey) (backing : Backing) : ℕ :=
  if backing.standbyBacker = some financier then backing.standbyCap.val else 0

/-- The loan that the financier has given. -/
def loanFrom (financier : Pubkey) (terms : VaultTerms) : ℕ :=
  if terms.standbyBacker = some financier then terms.borrowed.val else 0

/-- The sum of the caps of all vaults that the financier backs. -/
def promisedTotal (state : State) (financier : Pubkey) : ℕ :=
  total (fun account => account.vault?.elim 0 fun vault =>
    promise financier (backing vault.terms)) state.accounts

/-- The sum of the loans of all vaults that the financier backs. -/
def borrowedTotal (state : State) (financier : Pubkey) : ℕ :=
  total (fun account => account.vault?.elim 0 fun vault =>
    loanFrom financier vault.terms) state.accounts

section Sums

variable {state before after : State} {vaultKey : Pubkey}

theorem weightAt_vault (state : State) (weight : Vault → ℕ) (key : Pubkey) :
    weightAt (fun account => account.vault?.elim 0 weight) state.accounts key =
      (state.vault? key).elim 0 weight := by
  rw [weightAt, State.vault?, State.view]
  cases state.accounts.lookup key <;> rfl

theorem weightAt_backing (state : State) (financier key : Pubkey) :
    weightAt (fun account => account.vault?.elim 0 fun vault =>
        promise financier (backing vault.terms)) state.accounts key =
      (backing? state key).elim 0 (promise financier) := by
  rw [weightAt_vault, backing?, State.terms?]
  cases state.vault? key <;> rfl

theorem promisedTotal_congr
    (hsame : ∀ key, (backing? after key).elim 0 (promise financier) =
      (backing? before key).elim 0 (promise financier)) :
    promisedTotal after financier = promisedTotal before financier := by
  apply total_congr
  intro key
  rw [weightAt_backing, weightAt_backing, hsame]

/-- A new backing of one vault exchanges the old promise for the new one. -/
theorem promisedTotal_update {written : Backing}
    (hbackings : backing? after = update (backing? before) vaultKey
      (some written)) (financier : Pubkey) :
    promisedTotal after financier +
        (backing? before vaultKey).elim 0 (promise financier) =
      promisedTotal before financier + promise financier written := by
  have hagree : ∀ other ≠ vaultKey,
      weightAt (fun account => account.vault?.elim 0 fun vault =>
          promise financier (backing vault.terms)) after.accounts other =
        weightAt (fun account => account.vault?.elim 0 fun vault =>
          promise financier (backing vault.terms)) before.accounts other := by
    intro other hother
    rw [weightAt_backing, weightAt_backing, hbackings, update_of_ne hother]
  have hexchange := total_exchange hagree
  rw [weightAt_backing, weightAt_backing, hbackings, update_self] at hexchange
  exact hexchange

/-- Every promise is part of the sum. -/
theorem promise_le_total {found : Backing}
    (hbacking : backing? state vaultKey = some found) (financier : Pubkey) :
    promise financier found ≤ promisedTotal state financier := by
  have hle := weightAt_le_total (fun account =>
    account.vault?.elim 0 fun vault => promise financier (backing vault.terms))
    state.accounts vaultKey
  rw [weightAt_backing, hbacking, Option.elim_some] at hle
  exact hle

theorem promisedTotal_eq_zero
    (hunbacked : ∀ key found, backing? state key = some found →
      found.standbyBacker ≠ some financier) :
    promisedTotal state financier = 0 := by
  apply total_eq_zero
  intro key
  rw [weightAt_backing]
  cases hbacking : backing? state key with
  | none => rfl
  | some found => exact if_neg (hunbacked key found hbacking)

/-- Loans within their caps add up to no more than the promises. -/
theorem borrowedTotal_le
    (hcovered : ∀ key vault, state.vault? key = some vault →
      vault.borrowed ≤ vault.standbyCap) (financier : Pubkey) :
    borrowedTotal state financier ≤ promisedTotal state financier := by
  apply total_le_total
  intro key
  rw [weightAt_vault, weightAt_vault]
  cases hvault : state.vault? key with
  | none => exact le_refl _
  | some vault =>
      have hle := hcovered key vault hvault
      change loanFrom financier vault.terms ≤
        promise financier (backing vault.terms)
      by_cases hbacked : vault.standbyBacker = some financier
      · calc loanFrom financier vault.terms
          _ = vault.borrowed.val := if_pos hbacked
          _ ≤ vault.standbyCap.val := hle
          _ = promise financier (backing vault.terms) := (if_pos hbacked).symm
      · calc loanFrom financier vault.terms
          _ = 0 := if_neg hbacked
          _ ≤ promise financier (backing vault.terms) := Nat.zero_le _

end Sums

/-! ## What one call does to backings and ledgers -/

/-- The parts of an accepted call that the reserve depends on.  Closing a
standby is a change of the backing to none. -/
inductive ReserveMove (runtime : Runtime) (before after : State) : Prop
  | kept (hbackings : backing? after = backing? before)
      (hbackers : after.standbyBacker? = before.standbyBacker?)
  | created {vaultKey : Pubkey} (hvacant : backing? before vaultKey = none)
      (hbackings : backing? after =
        update (backing? before) vaultKey (some ⟨none, 0⟩))
      (hbackers : after.standbyBacker? = before.standbyBacker?)
  | reserveSet {accounts : SetStandbyReserve} {args : SetStandbyReserveArgs}
      {found : StandbyBacker} {bump : U8}
      (hset : ReserveSet runtime accounts args before found bump)
      (hbackings : backing? after = backing? before)
      (hbackers : after.standbyBacker? =
        update before.standbyBacker? accounts.standbyBacker
          (some { initializedBacker found bump accounts.financierSwig with
            committedReserve := args.newReserve }))
  | rebacked {vaultKey backerKey : Pubkey} {found written : Backing}
      {backer : StandbyBacker} {newAggregate : U64}
      (hfound : backing? before vaultKey = some found)
      (hbacker : before.standbyBacker? backerKey = some backer)
      (hfoundBacker : ∀ existing ∈ found.standbyBacker,
        existing = backer.financierSwig)
      (hwrittenBacker : ∀ existing ∈ written.standbyBacker,
        existing = backer.financierSwig)
      (haggregate : newAggregate.val =
        backer.aggregatePromised.val + promise backer.financierSwig written -
          promise backer.financierSwig found)
      (hreserve : newAggregate ≤ backer.committedReserve ∨
        newAggregate ≤ backer.aggregatePromised)
      (hbackings : backing? after =
        update (backing? before) vaultKey (some written))
      (hbackers : after.standbyBacker? =
        update before.standbyBacker? backerKey
          (some { backer with aggregatePromised := newAggregate })) :
      ReserveMove runtime before after

section Moves

variable {before after : State} {vaultKey : Pubkey}

theorem backing?_of_vault? {vault : Vault}
    (hvault : before.vault? vaultKey = some vault) :
    backing? before vaultKey = some (backing vault.terms) := by
  rw [backing?, State.terms?_of_vault? hvault, Option.map_some]

theorem backing?_of_terms {terms : VaultTerms}
    (hterms : after.terms? = update before.terms? vaultKey (some terms)) :
    backing? after = update (backing? before) vaultKey (some (backing terms)) := by
  funext key
  rw [backing?, hterms, update_apply, update_apply]
  split <;> rfl

/-- Other terms may change, the backing stays. -/
theorem ReserveMove.of_same {vault : Vault} {written : VaultTerms}
    (hvault : before.vault? vaultKey = some vault)
    (hviews : HasTerms after (update before.terms? vaultKey (some written))
      before.standbyBacker?)
    (hsame : backing written = backing vault.terms) : ReserveMove runtime before after := by
  apply ReserveMove.kept _ hviews.backers
  rw [backing?_of_terms hviews.terms, hsame, ← backing?_of_vault? hvault,
    update_eq_self]

theorem promise_of_backed {found : Backing}
    (hbacked : found.standbyBacker = some financier) :
    promise financier found = found.standbyCap.val :=
  if_pos hbacked

/-- The replaced cap of a vault is what its one possible backer has promised. -/
theorem promise_eq_replacedCap {vault : Vault}
    (hsame : ∀ existing ∈ vault.standbyBacker, existing = financier) :
    promise financier (backing vault.terms) = (replacedCap vault).val := by
  cases hbacker : vault.standbyBacker with
  | none =>
      have hterms : (backing vault.terms).standbyBacker = none := hbacker
      rw [promise, replacedCap, hterms, hbacker]
      rfl
  | some existing =>
      obtain rfl := hsame existing hbacker
      rw [promise_of_backed hbacker, replacedCap, hbacker]
      rfl

theorem reserveMove_opened {accounts : OpenStandby} {args : OpenStandbyArgs}
    {vault : Vault} {backer : StandbyBacker} {newAggregate : U64}
    (hopened : StandbyOpened accounts args before vault backer newAggregate)
    (hviews : HasTerms after
      (update before.terms? accounts.vault (some { vault.terms with
        standbyBacker := some accounts.financierSwig
        standbyCap := args.cap }))
      (update before.standbyBacker? accounts.standbyBacker
        (some { backer with aggregatePromised := newAggregate }))) :
    ReserveMove runtime before after := by
  have hfinancier := hopened.financier
  have hfound : ∀ existing ∈ vault.standbyBacker,
      existing = backer.financierSwig := fun existing hexisting =>
    (hopened.sameBacker existing hexisting).trans hfinancier.symm
  have hwritten : promise backer.financierSwig
      ⟨some accounts.financierSwig, args.cap⟩ = args.cap.val :=
    if_pos (congrArg some hfinancier.symm)
  have haggregate := resizedAggregate_ok hopened.aggregate
  apply ReserveMove.rebacked (backing?_of_vault? hopened.vaultAt)
    hopened.backerAt hfound _ _ _ (backing?_of_terms hviews.terms)
    hviews.backers
  · rintro existing ⟨⟩
    exact hfinancier.symm
  · rw [promise_eq_replacedCap hfound]
    change _ = _ + promise _ ⟨some accounts.financierSwig, args.cap⟩ - _
    rw [hwritten]
    rcases haggregate with ⟨hle, -, hval⟩ | ⟨hlt, hval⟩
    · rw [Fin.le_def] at hle
      omega
    · rw [Fin.lt_def] at hlt
      omega
  · rcases haggregate with ⟨-, hreserve, -⟩ | ⟨-, hval⟩
    · exact .inl hreserve
    · exact .inr (by rw [Fin.le_def]; omega)

theorem reserveMove_closed {accounts : CloseStandby} {vault : Vault}
    {backer : StandbyBacker}
    (hclosed : StandbyClosed accounts before vault backer)
    (hviews : HasTerms after
      (update before.terms? accounts.vault (some { vault.terms with
        standbyBacker := none
        standbyCap := 0 }))
      (update before.standbyBacker? accounts.standbyBacker
        (some { backer with
          aggregatePromised :=
            saturatingSub backer.aggregatePromised vault.standbyCap }))) :
    ReserveMove runtime before after := by
  apply ReserveMove.rebacked (backing?_of_vault? hclosed.vaultAt)
    hclosed.backerAt _ _ _ _ (backing?_of_terms hviews.terms) hviews.backers
  · intro existing hexisting
    exact Option.some.inj (hexisting.symm.trans hclosed.sameBacker)
  · exact fun existing hexisting => by cases hexisting
  · have hfound : promise backer.financierSwig (backing vault.terms) =
        vault.standbyCap.val := if_pos hclosed.sameBacker
    rw [hfound]
    rfl
  · exact .inr (Nat.sub_le _ _)

theorem step_reserve {call : Call}
    (hnone : ∀ key, before.vaultV5? key = none)
    (hstep : step runtime before call = .ok after) :
    ReserveMove runtime before after := by
  cases step_terms hstep with
  | kept hkeeps hviews =>
      apply ReserveMove.kept _ hviews.backers
      funext key
      rw [backing?, hviews.terms, backing?]
  | created hvacant hviews =>
      apply ReserveMove.created _ (backing?_of_terms hviews.terms)
        hviews.backers
      rw [backing?, hvacant, Option.map_none]
  | migrated hcall himage hviews => cases himage.symm.trans (hnone _)
  | tabOpened _ hvault hviews => exact .of_same hvault hviews rfl
  | tabClosed _ hvault hviews => exact .of_same hvault hviews rfl
  | tabSettled hvault hviews => exact .of_same hvault hviews rfl
  | requested hrequested hviews => exact .of_same hrequested.vaultAt hviews rfl
  | finalized hfinalized hviews => exact .of_same hfinalized.vaultAt hviews rfl
  | released hreleased hviews => exact .of_same hreleased.vaultAt hviews rfl
  | rotated hvault hviews => exact .of_same hvault hviews rfl
  | reserveSet hset hviews =>
      apply ReserveMove.reserveSet hset _ hviews.backers
      funext key
      rw [backing?, hviews.terms, backing?]
  | standbyOpened hopened hviews => exact reserveMove_opened hopened hviews
  | drawn hdrawn hviews => exact .of_same hdrawn.vaultAt hviews rfl
  | repaid hexited hviews => exact .of_same hexited.vaultAt hviews rfl
  | seized hexited hviews => exact .of_same hexited.vaultAt hviews rfl
  | standbyClosed hclosed hviews => exact reserveMove_closed hclosed hviews

end Moves

/-! ## The invariant -/

/-- A ledger at its canonical address counts the promises of its financier. -/
structure LedgerKept (runtime : Runtime) (state : State) (key : Pubkey)
    (backer : StandbyBacker) : Prop where
  initialized : backer.version ≠ 0
  canonical : ∃ bump, runtime.findProgramAddress
    (standbyBackerSeeds backer.financierSwig) programId = some (key, bump)
  promised : backer.aggregatePromised.val =
    promisedTotal state backer.financierSwig
  reserved : backer.aggregatePromised ≤ backer.committedReserve

structure ReserveKept (runtime : Runtime) (state : State) : Prop where
  noImage : ∀ key, state.vaultV5? key = none
  ledgers : ∀ key backer, state.standbyBacker? key = some backer →
    LedgerKept runtime state key backer
  backed : ∀ key found financier, backing? state key = some found →
    found.standbyBacker = some financier →
      ∃ backerKey backer, state.standbyBacker? backerKey = some backer ∧
        backer.financierSwig = financier

section Steps

variable {before after : State} {key other : Pubkey}
  {backer otherBacker : StandbyBacker}

/-- A financier has one ledger. -/
theorem LedgerKept.unique (hledger : LedgerKept runtime before key backer)
    (hother : LedgerKept runtime before other otherBacker)
    (hsame : otherBacker.financierSwig = backer.financierSwig) :
    other = key := by
  obtain ⟨bump, hcanonical⟩ := hledger.canonical
  obtain ⟨otherBump, hotherCanonical⟩ := hother.canonical
  rw [hsame, hcanonical] at hotherCanonical
  exact (congrArg Prod.fst (Option.some.inj hotherCanonical)).symm

theorem LedgerKept.congr (hledger : LedgerKept runtime before key backer)
    (htotal : promisedTotal after backer.financierSwig =
      promisedTotal before backer.financierSwig) :
    LedgerKept runtime after key backer where
  initialized := hledger.initialized
  canonical := hledger.canonical
  promised := hledger.promised.trans htotal.symm
  reserved := hledger.reserved

/-- A change of the backings that leaves every promise and every ledger alone. -/
theorem ReserveKept.keep (hkept : ReserveKept runtime before)
    (himages : ∀ key, after.vaultV5? key = none)
    (htotal : ∀ financier,
      promisedTotal after financier = promisedTotal before financier)
    (hbackers : after.standbyBacker? = before.standbyBacker?)
    (hbacked : ∀ key found financier, backing? after key = some found →
      found.standbyBacker = some financier →
        ∃ beforeKey, ∃ was, backing? before beforeKey = some was ∧
          was.standbyBacker = some financier) :
    ReserveKept runtime after where
  noImage := himages
  ledgers := by
    intro key backer hbacker
    rw [hbackers] at hbacker
    exact (hkept.ledgers key backer hbacker).congr (htotal _)
  backed := by
    intro key found financier hfound hfinancier
    obtain ⟨beforeKey, was, hwas, hsame⟩ :=
      hbacked key found financier hfound hfinancier
    rw [hbackers]
    exact hkept.backed beforeKey was financier hwas hsame

/-- The ledger that a call to `set_standby_reserve` writes: a new one counts no
promise, because no vault is backed by a financier without a ledger. -/
theorem ledgerKept_set {accounts : SetStandbyReserve}
    {args : SetStandbyReserveArgs} {found : StandbyBacker} {bump : U8}
    (hkept : ReserveKept runtime before)
    (hset : ReserveSet runtime accounts args before found bump)
    (htotal : ∀ financier,
      promisedTotal after financier = promisedTotal before financier) :
    LedgerKept runtime after accounts.standbyBacker
      { initializedBacker found bump accounts.financierSwig with
        committedReserve := args.newReserve } := by
  rcases hset.ledgerAt with ⟨hvacant, rfl⟩ | hfound
  · have hunbacked : promisedTotal before accounts.financierSwig = 0 := by
      apply promisedTotal_eq_zero
      intro key was hwas hbacked
      obtain ⟨backerKey, backer, hbacker, hfinancier⟩ :=
        hkept.backed key was _ hwas hbacked
      obtain ⟨otherBump, hcanonical⟩ :=
        (hkept.ledgers backerKey backer hbacker).canonical
      rw [hfinancier, hset.canonical] at hcanonical
      obtain rfl := congrArg Prod.fst (Option.some.inj hcanonical)
      rw [State.standbyBacker?, State.view_of_lookup_none hvacant] at hbacker
      cases hbacker
    constructor
    case initialized => exact (by decide : standbyBackerVersionV1 ≠ 0)
    case canonical => exact ⟨bump, hset.canonical⟩
    case promised => exact ((htotal _).trans hunbacked).symm
    case reserved => exact hset.promised
  · have hledger := hkept.ledgers _ found hfound
    have hsame : initializedBacker found bump accounts.financierSwig = found :=
      if_neg hledger.initialized
    have hpromised := hset.promised
    rw [hsame] at hpromised ⊢
    constructor
    case initialized => exact hledger.initialized
    case canonical => exact hledger.canonical
    case promised => exact hledger.promised.trans (htotal _).symm
    case reserved => exact hpromised

/-- The step lemma for a changed backing. -/
theorem reserveKept_rebacked {vaultKey : Pubkey} {found written : Backing}
    {newAggregate : U64} (hkept : ReserveKept runtime before)
    (himages : ∀ key, after.vaultV5? key = none)
    (hfound : backing? before vaultKey = some found)
    (hbacker : before.standbyBacker? key = some backer)
    (hfoundBacker : ∀ existing ∈ found.standbyBacker,
      existing = backer.financierSwig)
    (hwrittenBacker : ∀ existing ∈ written.standbyBacker,
      existing = backer.financierSwig)
    (haggregate : newAggregate.val =
      backer.aggregatePromised.val + promise backer.financierSwig written -
        promise backer.financierSwig found)
    (hreserve : newAggregate ≤ backer.committedReserve ∨
      newAggregate ≤ backer.aggregatePromised)
    (hbackings : backing? after =
      update (backing? before) vaultKey (some written))
    (hbackers : after.standbyBacker? =
      update before.standbyBacker? key
        (some { backer with aggregatePromised := newAggregate })) :
    ReserveKept runtime after := by
  have hledger := hkept.ledgers key backer hbacker
  have hexchange := promisedTotal_update hbackings
  rw [hfound] at hexchange
  -- a vault that another financier could back promises nothing to it
  have hforeign : ∀ backing : Backing, ∀ financier ≠ backer.financierSwig,
      (∀ existing ∈ backing.standbyBacker, existing = backer.financierSwig) →
        promise financier backing = 0 :=
    fun backing financier hne hbacking =>
      if_neg fun hsame => hne (hbacking financier hsame)
  constructor
  case noImage => exact himages
  case ledgers =>
    intro other otherBacker hother
    rw [hbackers, update_apply] at hother
    split at hother
    · next hkey =>
        subst hkey
        cases hother
        constructor
        case initialized => exact hledger.initialized
        case canonical => exact hledger.canonical
        case promised =>
          have htotal := hexchange backer.financierSwig
          have hpart := promise_le_total hfound backer.financierSwig
          have hcounted := hledger.promised
          change newAggregate.val = promisedTotal after backer.financierSwig
          rw [Option.elim_some] at htotal
          omega
        case reserved =>
          exact hreserve.elim id fun hle => le_trans hle hledger.reserved
    · next hkey =>
        have hotherLedger := hkept.ledgers other otherBacker hother
        have hne : otherBacker.financierSwig ≠ backer.financierSwig :=
          fun hsame => hkey (hledger.unique hotherLedger hsame)
        apply hotherLedger.congr
        have htotal := hexchange otherBacker.financierSwig
        rw [Option.elim_some, hforeign found _ hne hfoundBacker,
          hforeign written _ hne hwrittenBacker] at htotal
        exact htotal
  case backed =>
    intro other was financier hwas hbacked
    have hstays : ∀ beforeKey beforeBacker,
        before.standbyBacker? beforeKey = some beforeBacker →
        beforeBacker.financierSwig = financier →
        ∃ backerKey backer, after.standbyBacker? backerKey = some backer ∧
          backer.financierSwig = financier := by
      intro beforeKey beforeBacker hbefore hfinancier
      by_cases hkey : beforeKey = key
      · subst hkey
        obtain rfl := Option.some.inj (hbefore.symm.trans hbacker)
        exact ⟨beforeKey,
          { beforeBacker with aggregatePromised := newAggregate },
          by rw [hbackers, update_self], hfinancier⟩
      · refine ⟨beforeKey, beforeBacker, ?_, hfinancier⟩
        rw [hbackers, update_of_ne hkey]
        exact hbefore
    rw [hbackings, update_apply] at hwas
    split at hwas
    · cases hwas
      exact hstays key backer hbacker (hwrittenBacker financier hbacked).symm
    · obtain ⟨beforeKey, beforeBacker, hbefore, hfinancier⟩ :=
        hkept.backed other was financier hwas hbacked
      exact hstays beforeKey beforeBacker hbefore hfinancier

/-- The step lemma. -/
theorem reserveKept_step {call : Call} (hkept : ReserveKept runtime before)
    (hstep : step runtime before call = .ok after) :
    ReserveKept runtime after := by
  have himages : ∀ key, after.vaultV5? key = none :=
    fun key => step_images hstep key (hkept.noImage key)
  cases step_reserve hkept.noImage hstep with
  | kept hbackings hbackers =>
      apply hkept.keep himages _ hbackers
      · intro key found financier hfound hfinancier
        rw [hbackings] at hfound
        exact ⟨key, found, hfound, hfinancier⟩
      · exact fun financier => promisedTotal_congr fun key => by rw [hbackings]
  | @created vaultKey hvacant hbackings hbackers =>
      apply hkept.keep himages _ hbackers
      · intro key found financier hfound hfinancier
        rw [hbackings, update_apply] at hfound
        split at hfound
        · cases hfound
          cases hfinancier
        · exact ⟨key, found, hfound, hfinancier⟩
      · intro financier
        apply promisedTotal_congr
        intro key
        rw [hbackings, update_apply]
        split
        · next hkey =>
            rw [hkey, hvacant]
            rfl
        · rfl
  | @reserveSet accounts args found bump hset hbackings hbackers =>
      have htotal : ∀ financier,
          promisedTotal after financier = promisedTotal before financier :=
        fun financier => promisedTotal_congr fun key => by rw [hbackings]
      constructor
      case noImage => exact himages
      case ledgers =>
        intro key backer hbacker
        rw [hbackers, update_apply] at hbacker
        split at hbacker
        · next hkey =>
            cases hbacker
            rw [hkey]
            exact ledgerKept_set hkept hset htotal
        · exact (hkept.ledgers key backer hbacker).congr (htotal _)
      case backed =>
        intro key was financier hwas hbacked
        rw [hbackings] at hwas
        obtain ⟨backerKey, backer, hbacker, hfinancier⟩ :=
          hkept.backed key was financier hwas hbacked
        by_cases hkey : backerKey = accounts.standbyBacker
        · subst hkey
          refine ⟨accounts.standbyBacker, _, by rw [hbackers, update_self], ?_⟩
          rcases hset.ledgerAt with ⟨hvacant, -⟩ | hfound
          · rw [State.standbyBacker?, State.view_of_lookup_none hvacant]
              at hbacker
            cases hbacker
          · obtain rfl := Option.some.inj (hfound.symm.trans hbacker)
            have hledger := hkept.ledgers _ found hfound
            rw [initializedBacker, if_neg hledger.initialized]
            exact hfinancier
        · refine ⟨backerKey, backer, ?_, hfinancier⟩
          rw [hbackers, update_of_ne hkey]
          exact hbacker
  | rebacked hfound hbacker hfoundBacker hwrittenBacker haggregate hreserve
      hbackings hbackers =>
      exact reserveKept_rebacked hkept himages hfound hbacker hfoundBacker
        hwrittenBacker haggregate hreserve hbackings hbackers

end Steps

/-! ## Runs -/

/-- The saturating subtractions that lower the aggregate are exact. -/
def SubtractsExactly (accepted : Accepted State Call) : Prop :=
  match accepted.call with
  | .openStandby _ accounts args =>
      ∀ vault ∈ accepted.before.vault? accounts.vault,
        ∀ backer ∈ accepted.before.standbyBacker? accounts.standbyBacker,
          args.cap < replacedCap vault →
            saturatingSub (replacedCap vault) args.cap ≤
              backer.aggregatePromised
  | .closeStandby _ accounts _ =>
      ∀ vault ∈ accepted.before.vault? accounts.vault,
        ∀ backer ∈ accepted.before.standbyBacker? accounts.standbyBacker,
          vault.standbyCap ≤ backer.aggregatePromised
  | _ => True

/-- There are no vaults and no ledgers yet. -/
structure Unbacked (state : State) : Prop where
  vaults : ∀ key, NoVault state key
  ledgers : ∀ key, state.standbyBacker? key = none

section Runs

variable {start state before after : State} {trace : Trace} {call : Call}

/-- The run lemma. -/
theorem reserveKept_run (hstart : Unbacked start)
    (hrun : Run (system runtime) start trace state) :
    ReserveKept runtime state := by
  apply hrun.invariant (ReserveKept runtime)
  · constructor
    case noImage => exact fun key => (hstart.vaults key).image
    case ledgers =>
      intro key backer hbacker
      rw [hstart.ledgers key] at hbacker
      cases hbacker
    case backed =>
      intro key found financier hfound
      rw [backing?, (hstart.vaults key).terms] at hfound
      cases hfound
  · exact fun before call after hkept hstep => reserveKept_step hkept hstep
  · intro before after hkept hmove
    have himages := environment_images hmove
    have hbackings : backing? after = backing? before := by
      funext key
      rw [backing?, environment_terms hmove, backing?]
    apply hkept.keep (fun key => himages key (hkept.noImage key))
    · exact fun financier => promisedTotal_congr fun key => by rw [hbackings]
    · cases hmove with
      | tokens tokens => rfl
      | image himage written => cases himage.symm.trans (hkept.noImage _)
      | ledger himage hbacker written =>
          cases himage.symm.trans (hkept.noImage _)
    · intro key found financier hfound hfinancier
      rw [hbackings] at hfound
      exact ⟨key, found, hfound, hfinancier⟩

/-- What is taken off the aggregate was part of it. -/
theorem subtractsExactly_step (hkept : ReserveKept runtime before)
    (hstep : step runtime before call = .ok after) :
    SubtractsExactly ⟨before, call, after⟩ := by
  cases call with
  | openStandby context accounts args =>
      intro vault hvault backer hbacker _
      obtain ⟨found, ledger, newAggregate, hopened, -⟩ := openStandby_ok hstep
      obtain rfl := Option.some.inj (hopened.vaultAt.symm.trans hvault)
      obtain rfl := Option.some.inj (hopened.backerAt.symm.trans hbacker)
      have hpart := promise_le_total (backing?_of_vault? hopened.vaultAt)
        ledger.financierSwig
      have hreplaced := promise_eq_replacedCap fun existing hexisting =>
        (hopened.sameBacker existing hexisting).trans hopened.financier.symm
      have hpromised := (hkept.ledgers _ ledger hopened.backerAt).promised
      calc (saturatingSub (replacedCap found) args.cap).val
        _ ≤ (replacedCap found).val := Nat.sub_le _ _
        _ = promise ledger.financierSwig (backing found.terms) :=
            hreplaced.symm
        _ ≤ promisedTotal before ledger.financierSwig := hpart
        _ = ledger.aggregatePromised.val := hpromised.symm
  | closeStandby context accounts args =>
      intro vault hvault backer hbacker
      obtain ⟨found, ledger, hclosed, -⟩ := closeStandby_ok hstep
      obtain rfl := Option.some.inj (hclosed.vaultAt.symm.trans hvault)
      obtain rfl := Option.some.inj (hclosed.backerAt.symm.trans hbacker)
      have hpart := promise_le_total (backing?_of_vault? hclosed.vaultAt)
        ledger.financierSwig
      have hpromised := (hkept.ledgers _ ledger hclosed.backerAt).promised
      calc found.standbyCap.val
        _ = promise ledger.financierSwig (backing found.terms) :=
            (if_pos hclosed.sameBacker).symm
        _ ≤ promisedTotal before ledger.financierSwig := hpart
        _ = ledger.aggregatePromised.val := hpromised.symm
  | _ => trivial

/-- In every run from a state without vaults and ledgers, the aggregate of every
ledger is the sum of the caps its financier backs and within the committed
reserve, no more than the reserve is borrowed, and no subtraction from an
aggregate clamps. -/
theorem reserve_covers_promises (hstart : Unbacked start)
    (hrun : Run (system runtime) start trace state) :
    (∀ key backer, state.standbyBacker? key = some backer →
      backer.aggregatePromised.val =
        promisedTotal state backer.financierSwig ∧
      backer.aggregatePromised ≤ backer.committedReserve ∧
      borrowedTotal state backer.financierSwig ≤
        backer.committedReserve.val) ∧
    ∀ accepted ∈ trace, SubtractsExactly accepted := by
  constructor
  · intro key backer hbacker
    have hledger := (reserveKept_run hstart hrun).ledgers key backer hbacker
    refine ⟨hledger.promised, hledger.reserved, ?_⟩
    have hcovered : ∀ vaultKey vault, state.vault? vaultKey = some vault →
        vault.borrowed ≤ vault.standbyCap := by
      intro vaultKey vault hvault
      have hloan := loanCovered_run (hstart.vaults vaultKey) hrun
      exact (hloan.covered _ (creditLine?_of_vault? hvault)).withinCap
    calc borrowedTotal state backer.financierSwig
      _ ≤ promisedTotal state backer.financierSwig := borrowedTotal_le hcovered _
      _ = backer.aggregatePromised.val := hledger.promised.symm
      _ ≤ backer.committedReserve.val := hledger.reserved
  · apply hrun.forall_accepted SubtractsExactly _ (guarded_true trace)
    intro earlier before call after hearlier _ _ hstep
    exact subtractsExactly_step (reserveKept_run hstart hearlier) hstep

end Runs

section Examples

open Deployment

theorem unbacked_funded : Unbacked funded := by
  constructor
  · intro key
    constructor <;> exact State.view_of_lookup_none (Finmap.lookup_empty key)
  · exact fun key => State.view_of_lookup_none (Finmap.lookup_empty key)

theorem reserve_covers_promises_lent :
    (∀ key backer, (backed 0 none).standbyBacker? key = some backer →
      backer.aggregatePromised.val =
        promisedTotal (backed 0 none) backer.financierSwig ∧
      backer.aggregatePromised ≤ backer.committedReserve ∧
      borrowedTotal (backed 0 none) backer.financierSwig ≤
        backer.committedReserve.val) ∧
    ∀ accepted ∈ lendingTrace, SubtractsExactly accepted :=
  reserve_covers_promises unbacked_funded lending_run

example : promisedTotal (backed 30 none) Loan.financier = 50 ∧
    borrowedTotal (backed 30 none) Loan.financier = 30 := by
  decide +kernel

end Examples

end DexterVault.StandbyReserve
