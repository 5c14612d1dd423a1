import DexterVault.Program.Change
import DexterVault.Program.Deployment

/-!
# Conservation of locked claims

A vault keeps three counters of what its claims have locked.  Along every run
the outstanding amount is the sum over the pending claims of the vault, and the
two lifetime odometers are the sums over all its claims and over the settled
ones, as far as these fit.
-/

namespace DexterVault.Claims

open Function
open DexterVault.Machine
open DexterVault.Accounts
open DexterVault.Execution
open DexterVault.KeyedSum
open DexterVault.Transition
open DexterVault.Voucher
open DexterVault.Claim
open DexterVault.Migration
open DexterVault.Program

variable {runtime : Runtime} {vaultKey : Pubkey}

/-! ## Sums over the claims of a vault -/

/-- The amount of a claim of the vault that has the status. -/
def claimWeight (vaultKey : Pubkey) (status : LockedClaimStatus)
    (claim : LockedClaim) : ℕ :=
  if claim.vault = vaultKey ∧ claim.status = status then claim.amount.val else 0

/-- The sum of the amounts of the claims of the vault that have the status. -/
def claimTotal (state : State) (vaultKey : Pubkey)
    (status : LockedClaimStatus) : ℕ :=
  total (fun account => account.claim?.elim 0 (claimWeight vaultKey status))
    state.accounts

/-- Everything that claims of the vault have ever locked: a claim account is
never closed. -/
def lockedTotal (state : State) (vaultKey : Pubkey) : ℕ :=
  claimTotal state vaultKey .pending + claimTotal state vaultKey .settled +
    claimTotal state vaultKey .abandoned

section Sums

variable {state before after : State} {key : Pubkey} {claim : LockedClaim}
  {status : LockedClaimStatus}

theorem weightAt_claim (state : State) (weight : LockedClaim → ℕ)
    (key : Pubkey) :
    weightAt (fun account => account.claim?.elim 0 weight) state.accounts key =
      (state.claim? key).elim 0 weight := by
  rw [weightAt, State.claim?, State.view]
  cases state.accounts.lookup key <;> rfl

theorem claimWeight_of_status (hvault : claim.vault = vaultKey)
    (hstatus : claim.status = status) :
    claimWeight vaultKey status claim = claim.amount.val :=
  if_pos ⟨hvault, hstatus⟩

theorem claimWeight_of_status_ne (hstatus : claim.status ≠ status) :
    claimWeight vaultKey status claim = 0 :=
  if_neg fun hboth => hstatus hboth.2

theorem claimWeight_of_vault_ne (hvault : claim.vault ≠ vaultKey) :
    claimWeight vaultKey status claim = 0 :=
  if_neg fun hboth => hvault hboth.1

theorem claimTotal_congr (hclaims : after.claim? = before.claim?)
    (vaultKey : Pubkey) (status : LockedClaimStatus) :
    claimTotal after vaultKey status = claimTotal before vaultKey status := by
  apply total_congr
  intro key
  rw [weightAt_claim, weightAt_claim, hclaims]

/-- Writing one claim exchanges its old weight for its new one. -/
theorem claimTotal_update
    (hclaims : after.claim? = update before.claim? key (some claim))
    (vaultKey : Pubkey) (status : LockedClaimStatus) :
    claimTotal after vaultKey status +
        (before.claim? key).elim 0 (claimWeight vaultKey status) =
      claimTotal before vaultKey status + claimWeight vaultKey status claim := by
  have hagree : ∀ other ≠ key,
      weightAt (fun account =>
          account.claim?.elim 0 (claimWeight vaultKey status))
          after.accounts other =
        weightAt (fun account =>
          account.claim?.elim 0 (claimWeight vaultKey status))
          before.accounts other := by
    intro other hother
    rw [weightAt_claim, weightAt_claim, hclaims, update_of_ne hother]
  have hexchange := total_exchange hagree
  rw [weightAt_claim, weightAt_claim, hclaims, update_self] at hexchange
  exact hexchange

/-- Every pending claim is part of the sum. -/
theorem amount_le_claimTotal (hclaim : state.claim? key = some claim)
    (hvault : claim.vault = vaultKey) :
    claim.amount.val ≤ claimTotal state vaultKey claim.status := by
  have hle := weightAt_le_total
    (fun account => account.claim?.elim 0 (claimWeight vaultKey claim.status))
    state.accounts key
  rw [weightAt_claim, hclaim, Option.elim_some,
    claimWeight_of_status hvault rfl] at hle
  exact hle

theorem claimTotal_eq_zero
    (hnone : ∀ key claim, state.claim? key = some claim →
      claim.vault ≠ vaultKey) (status : LockedClaimStatus) :
    claimTotal state vaultKey status = 0 := by
  apply total_eq_zero
  intro key
  rw [weightAt_claim]
  cases hclaim : state.claim? key with
  | none => rfl
  | some claim => exact claimWeight_of_vault_ne (hnone key claim hclaim)

end Sums

/-! ## The counters of a vault -/

/-- The counters that locks, settlements and recoveries move. -/
structure LockCounters where
  outstanding : U64
  crystallized : U64
  settled : U64

def counters (ledger : VaultLedger) : LockCounters where
  outstanding := ledger.outstandingLockedAmount
  crystallized := ledger.totalCrystallizedAmount
  settled := ledger.totalSettledAmount

/-- The counters are the sums; the lifetime odometers stop at the greatest
value they can hold. -/
structure Balanced (counters : LockCounters)
    (totals : LockedClaimStatus → ℕ) : Prop where
  outstanding : counters.outstanding.val = totals .pending
  crystallized : counters.crystallized.val =
    min (totals .pending + totals .settled + totals .abandoned) (2 ^ 64 - 1)
  settled : counters.settled.val = min (totals .settled) (2 ^ 64 - 1)

section Counters

variable {counters : LockCounters} {before after : LockedClaimStatus → ℕ}
  {amount : U64}

theorem balanced_zero (hzero : ∀ status, before status = 0) :
    Balanced ⟨0, 0, 0⟩ before := by
  constructor <;> simp [hzero]

/-- A new pending claim. -/
theorem Balanced.lock (hbalanced : Balanced counters before) {outstanding : U64}
    (houtstanding : outstanding.val = counters.outstanding.val + amount.val)
    (hpending : after .pending = before .pending + amount.val)
    (hsettled : after .settled = before .settled)
    (habandoned : after .abandoned = before .abandoned) :
    Balanced
      ⟨outstanding, saturatingAdd counters.crystallized amount,
        counters.settled⟩ after := by
  obtain ⟨hcounter, hcrystallized, hpaid⟩ := hbalanced
  constructor
  case outstanding => rw [houtstanding, hcounter, hpending]
  case crystallized =>
    rw [saturatingAdd_val, hcrystallized, hpending, hsettled, habandoned]
    omega
  case settled => rw [hpaid, hsettled]

/-- A pending claim is settled. -/
theorem Balanced.settle (hbalanced : Balanced counters before)
    (hpending : after .pending + amount.val = before .pending)
    (hsettled : after .settled = before .settled + amount.val)
    (habandoned : after .abandoned = before .abandoned) :
    Balanced
      ⟨saturatingSub counters.outstanding amount, counters.crystallized,
        saturatingAdd counters.settled amount⟩ after := by
  obtain ⟨hcounter, hcrystallized, hpaid⟩ := hbalanced
  constructor
  case outstanding =>
    rw [saturatingSub_val, hcounter]
    omega
  case crystallized =>
    rw [hcrystallized, hsettled, habandoned]
    omega
  case settled =>
    rw [saturatingAdd_val, hpaid, hsettled]
    omega

/-- A pending claim is recovered by the buyer. -/
theorem Balanced.recover (hbalanced : Balanced counters before)
    (hpending : after .pending + amount.val = before .pending)
    (hsettled : after .settled = before .settled)
    (habandoned : after .abandoned = before .abandoned + amount.val) :
    Balanced
      ⟨saturatingSub counters.outstanding amount, counters.crystallized,
        counters.settled⟩ after := by
  obtain ⟨hcounter, hcrystallized, hpaid⟩ := hbalanced
  constructor
  case outstanding =>
    rw [saturatingSub_val, hcounter]
    omega
  case crystallized =>
    rw [hcrystallized, hsettled, habandoned]
    omega
  case settled => rw [hpaid, hsettled]

end Counters

/-! ## The invariant -/

/-- The counters of the vault are balanced with its claims, and no claim names
the vault before it exists. -/
structure Conserved (vaultKey : Pubkey) (state : State) : Prop where
  balanced : ∀ ledger, state.ledger? vaultKey = some ledger →
    Balanced (counters ledger) (claimTotal state vaultKey)
  housed : state.ledger? vaultKey = none → ∀ key claim,
    state.claim? key = some claim → claim.vault ≠ vaultKey

/-- The vault does not come out of a V5 image. -/
def Initializes (vaultKey : Pubkey) (accepted : Accepted State Call) : Prop :=
  accepted.call.migratedVault ≠ some vaultKey

instance (accepted : Accepted State Call) :
    Decidable (Initializes vaultKey accepted) :=
  inferInstanceAs (Decidable (_ ≠ _))

section Steps

variable {before after : State} {key other : Pubkey} {ledger written : VaultLedger}

/-- A change that moves neither the counters of the vault nor a claim. -/
theorem Conserved.keep (hconserved : Conserved vaultKey before)
    (hcounters : (after.ledger? vaultKey).map counters =
      (before.ledger? vaultKey).map counters)
    (hclaims : after.claim? = before.claim?) : Conserved vaultKey after := by
  constructor
  case balanced =>
    intro ledger hledger
    rw [hledger, Option.map_some, eq_comm, Option.map_eq_some_iff] at hcounters
    obtain ⟨earlier, hearlier, hsame⟩ := hcounters
    rw [← hsame, funext (claimTotal_congr hclaims vaultKey)]
    exact hconserved.balanced earlier hearlier
  case housed =>
    intro hnone key claim hclaim
    rw [hnone, Option.map_none, eq_comm, Option.map_eq_none_iff] at hcounters
    rw [hclaims] at hclaim
    exact hconserved.housed hcounters key claim hclaim

/-- A change of a claim and of its vault leaves the other vaults alone. -/
theorem Conserved.elsewhere (hconserved : Conserved vaultKey before)
    (hother : other ≠ vaultKey)
    (hledgers : after.ledger? = update before.ledger? other (some written))
    {claim : LockedClaim} (hvault : claim.vault = other)
    (hbefore : ∀ earlier ∈ before.claim? key, earlier.vault = other)
    (hclaims : after.claim? = update before.claim? key (some claim)) :
    Conserved vaultKey after := by
  have hledger : after.ledger? vaultKey = before.ledger? vaultKey := by
    rw [hledgers, update_of_ne hother.symm]
  have htotals : claimTotal after vaultKey = claimTotal before vaultKey := by
    funext status
    have hexchange := claimTotal_update hclaims vaultKey status
    have hnew : claimWeight vaultKey status claim = 0 :=
      claimWeight_of_vault_ne (by rw [hvault]; exact hother)
    have hold : (before.claim? key).elim 0 (claimWeight vaultKey status) = 0 := by
      cases hearlier : before.claim? key with
      | none => rfl
      | some earlier =>
          exact claimWeight_of_vault_ne
            (by rw [hbefore earlier hearlier]; exact hother)
    omega
  constructor
  case balanced =>
    intro ledger hfound
    rw [htotals]
    exact hconserved.balanced ledger (hledger ▸ hfound)
  case housed =>
    intro hnone address found hfound
    rw [hclaims] at hfound
    by_cases haddress : address = key
    · subst haddress
      rw [update_self] at hfound
      rw [← Option.some.inj hfound, hvault]
      exact hother
    · rw [update_of_ne haddress] at hfound
      exact hconserved.housed (hledger ▸ hnone) address found hfound

/-- A change of a claim and of its vault, as seen from that vault. -/
theorem Conserved.here
    (hledgers : after.ledger? = update before.ledger? vaultKey (some written))
    (hbalanced : Balanced (counters written) (claimTotal after vaultKey)) :
    Conserved vaultKey after := by
  constructor
  case balanced =>
    intro ledger hfound
    rw [hledgers, update_self] at hfound
    rw [← Option.some.inj hfound]
    exact hbalanced
  case housed =>
    intro hnone
    rw [hledgers, update_self] at hnone
    cases hnone

/-- What a lock does to the sums. -/
theorem claimTotal_lock {claim : LockedClaim}
    (hvacant : before.claim? key = none) (hvault : claim.vault = vaultKey)
    (hpending : claim.status = .pending)
    (hclaims : after.claim? = update before.claim? key (some claim)) :
    claimTotal after vaultKey .pending =
        claimTotal before vaultKey .pending + claim.amount.val ∧
      claimTotal after vaultKey .settled = claimTotal before vaultKey .settled ∧
      claimTotal after vaultKey .abandoned =
        claimTotal before vaultKey .abandoned := by
  have hexchange := claimTotal_update hclaims vaultKey
  simp only [hvacant, Option.elim_none, Nat.add_zero] at hexchange
  refine ⟨?_, ?_, ?_⟩
  · rw [hexchange, claimWeight_of_status hvault hpending]
  · rw [hexchange, claimWeight_of_status_ne (by simp [hpending])]
    rfl
  · rw [hexchange, claimWeight_of_status_ne (by simp [hpending])]
    rfl

/-- What the end of a claim does to the sums: its amount moves from the pending
ones to those of its new status. -/
theorem claimTotal_end {claim : LockedClaim} (ended : LockedClaim)
    (hclaim : before.claim? key = some claim) (hvault : claim.vault = vaultKey)
    (hpending : claim.status = .pending) (hended : ended.status ≠ .pending)
    (hsameVault : ended.vault = claim.vault)
    (hamount : ended.amount = claim.amount)
    (hclaims : after.claim? = update before.claim? key (some ended)) :
    claimTotal after vaultKey .pending + claim.amount.val =
        claimTotal before vaultKey .pending ∧
      claimTotal after vaultKey ended.status =
        claimTotal before vaultKey ended.status + claim.amount.val ∧
      ∀ status, status ≠ .pending → status ≠ ended.status →
        claimTotal after vaultKey status = claimTotal before vaultKey status := by
  have hexchange := claimTotal_update hclaims vaultKey
  simp only [hclaim, Option.elim_some] at hexchange
  have hendedVault : ended.vault = vaultKey := hsameVault.trans hvault
  refine ⟨?_, ?_, ?_⟩
  · have hpendingTotal := hexchange .pending
    rw [claimWeight_of_status hvault hpending,
      claimWeight_of_status_ne hended] at hpendingTotal
    exact hpendingTotal
  · have hendedTotal := hexchange ended.status
    rw [claimWeight_of_status_ne (by rw [hpending]; exact hended.symm),
      claimWeight_of_status hendedVault rfl, hamount] at hendedTotal
    exact hendedTotal
  · intro status hstatus hother
    have htotal := hexchange status
    rw [claimWeight_of_status_ne (by rw [hpending]; exact hstatus.symm),
      claimWeight_of_status_ne hother.symm] at htotal
    exact htotal

/-- A new vault has no claim. -/
theorem Conserved.created (hconserved : Conserved vaultKey before)
    (hvacant : before.ledger? vaultKey = none)
    (hzero : counters written = ⟨0, 0, 0⟩)
    (hledgers : after.ledger? = update before.ledger? vaultKey (some written))
    (hclaims : after.claim? = before.claim?) : Conserved vaultKey after := by
  refine .here hledgers ?_
  rw [hzero, funext (claimTotal_congr hclaims vaultKey)]
  exact balanced_zero (claimTotal_eq_zero (hconserved.housed hvacant))

theorem conserved_locked (hconserved : Conserved vaultKey before)
    {context : Context} {accounts : LockVoucher} {args : LockVoucherArgs}
    {vault : Vault} {account : SessionAccount} {ata : TokenAccount}
    {delta proposedOutstanding : U64} {claimBump : U8}
    (hlocked : Locked runtime context accounts args before vault account ata
      delta proposedOutstanding)
    (hledgers : after.ledger? = update before.ledger? accounts.vault
      (some { vault.ledger with
        outstandingLockedAmount := proposedOutstanding
        totalCrystallizedAmount :=
          saturatingAdd vault.totalCrystallizedAmount delta }))
    (hclaims : after.claim? = update before.claim? accounts.claim
      (some (newClaim claimBump accounts.vault accounts.sellerHolder
        account.session.sessionPubkey delta context.unixTimestamp args))) :
    Conserved vaultKey after := by
  have hvacant : before.claim? accounts.claim = none :=
    State.view_of_lookup_none hlocked.vacant
  by_cases hvault : accounts.vault = vaultKey
  · subst hvault
    have hbefore := hconserved.balanced _
      (State.ledger?_of_vault? hlocked.vaultAt)
    obtain ⟨hpending, hsettled, habandoned⟩ :=
      claimTotal_lock hvacant rfl rfl hclaims
    exact .here hledgers
      (hbefore.lock hlocked.outstanding hpending hsettled habandoned)
  · refine hconserved.elsewhere hvault hledgers rfl ?_ hclaims
    simp [hvacant]

/-- The end of a claim, settled or recovered, is a matter of its own vault. -/
theorem conserved_ended (hconserved : Conserved vaultKey before)
    {claim : LockedClaim} (ended : LockedClaim)
    (hledger : before.ledger? other = some ledger)
    (hclaim : before.claim? key = some claim) (hvault : claim.vault = other)
    (hpending : claim.status = .pending) (hended : ended.status ≠ .pending)
    (hsameVault : ended.vault = claim.vault)
    (hamount : ended.amount = claim.amount)
    (hledgers : after.ledger? = update before.ledger? other (some written))
    (hclaims : after.claim? = update before.claim? key (some ended))
    (hbalanced : ∀ totals totals' : LockedClaimStatus → ℕ,
      totals' .pending + claim.amount.val = totals .pending →
      totals' ended.status = totals ended.status + claim.amount.val →
      (∀ status, status ≠ .pending → status ≠ ended.status →
        totals' status = totals status) →
      Balanced (counters ledger) totals → Balanced (counters written) totals') :
    Conserved vaultKey after := by
  by_cases hother : other = vaultKey
  · subst hother
    obtain ⟨hfell, hrose, hothers⟩ := claimTotal_end ended hclaim hvault
      hpending hended hsameVault hamount hclaims
    exact .here hledgers
      (hbalanced _ _ hfell hrose hothers (hconserved.balanced _ hledger))
  · refine hconserved.elsewhere hother hledgers (hsameVault.trans hvault) ?_
      hclaims
    intro earlier hearlier
    rw [← Option.some.inj (hclaim.symm.trans hearlier)]
    exact hvault

theorem conserved_settled (hconserved : Conserved vaultKey before)
    {context : Context} {accounts : SettleLockedVoucher} {vault : Vault}
    {claim : LockedClaim}
    (hsettled : ClaimSettled context accounts before vault claim)
    (hledgers : after.ledger? = update before.ledger? accounts.vault
      (some { vault.ledger with
        outstandingLockedAmount :=
          saturatingSub vault.outstandingLockedAmount claim.amount
        totalSettledAmount :=
          saturatingAdd vault.totalSettledAmount claim.amount }))
    (hclaims : after.claim? = update before.claim? accounts.claim
      (some { claim with
        status := .settled
        settledAt := some context.unixTimestamp })) :
    Conserved vaultKey after := by
  refine conserved_ended hconserved
    { claim with status := .settled, settledAt := some context.unixTimestamp }
    (State.ledger?_of_vault? hsettled.vaultAt) hsettled.claimAt
    hsettled.sameVault hsettled.pending nofun rfl rfl hledgers hclaims ?_
  intro totals totals' hfell hrose hothers hbalanced
  exact hbalanced.settle hfell hrose (hothers .abandoned nofun nofun)

theorem conserved_recovered (hconserved : Conserved vaultKey before)
    {context : Context} {accounts : RecoverAbandonedLock}
    {args : Webauthn.Assertion} {vault : Vault} {claim : LockedClaim}
    (hrecovered : ClaimRecovered runtime context accounts args before vault
      claim)
    (hledgers : after.ledger? = update before.ledger? accounts.vault
      (some { vault.ledger with
        outstandingLockedAmount :=
          saturatingSub vault.outstandingLockedAmount claim.amount }))
    (hclaims : after.claim? = update before.claim? accounts.claim
      (some { claim with
        status := .abandoned
        recoveredAt := some context.unixTimestamp })) :
    Conserved vaultKey after := by
  refine conserved_ended hconserved
    { claim with
      status := .abandoned
      recoveredAt := some context.unixTimestamp }
    (State.ledger?_of_vault? hrecovered.vaultAt) hrecovered.claimAt
    hrecovered.sameVault hrecovered.pending nofun rfl rfl hledgers hclaims ?_
  intro totals totals' hfell hrose hothers hbalanced
  exact hbalanced.recover hfell (hothers .settled nofun nofun) hrose

/-- A new holder changes no sum. -/
theorem conserved_transferred (hconserved : Conserved vaultKey before)
    {claim : LockedClaim} {holder : Pubkey}
    (hclaim : before.claim? key = some claim)
    (hledgers : after.ledger? = before.ledger?)
    (hclaims : after.claim? = update before.claim? key
      (some { claim with currentHolder := holder })) :
    Conserved vaultKey after := by
  have htotals : claimTotal after vaultKey = claimTotal before vaultKey := by
    funext status
    have hexchange := claimTotal_update hclaims vaultKey status
    rw [hclaim, Option.elim_some] at hexchange
    exact Nat.add_right_cancel hexchange
  constructor
  case balanced =>
    intro ledger hledger
    rw [hledgers] at hledger
    rw [htotals]
    exact hconserved.balanced ledger hledger
  case housed =>
    intro hnone address found hfound
    rw [hledgers] at hnone
    rw [hclaims] at hfound
    by_cases haddress : address = key
    · subst haddress
      rw [update_self] at hfound
      rw [← Option.some.inj hfound]
      exact hconserved.housed hnone address claim hclaim
    · rw [update_of_ne haddress] at hfound
      exact hconserved.housed hnone address found hfound

/-- The step lemma. -/
theorem conserved_step {call : Call} (hconserved : Conserved vaultKey before)
    (hinitializes : Initializes vaultKey ⟨before, call, after⟩)
    (hstep : step runtime before call = .ok after) :
    Conserved vaultKey after := by
  cases step_change hstep with
  | quiet _ hsame => exact hconserved.keep (by rw [hsame.ledgers]) hsame.claims
  | @created _ accounts _ _ _ hvacant hledger hviews =>
      subst hledger
      by_cases hvault : accounts.vault = vaultKey
      · subst hvault
        exact hconserved.created hvacant rfl hviews.ledgers hviews.claims
      · refine hconserved.keep ?_ hviews.claims
        rw [hviews.ledgers, update_of_ne (Ne.symm hvault)]
  | bound _ hledger _ hviews =>
      exact hconserved.keep
        (State.ledger?_map_write hviews.ledgers hledger rfl vaultKey)
        hviews.claims
  | tabOpened _ hviews => exact hconserved.keep (by rw [hviews.ledgers]) hviews.claims
  | tabSettled _ hviews =>
      exact hconserved.keep (by rw [hviews.ledgers]) hviews.claims
  | locked hlocked hviews =>
      exact conserved_locked hconserved hlocked hviews.ledgers hviews.claims
  | transferred hclaim hviews =>
      exact conserved_transferred hconserved hclaim hviews.ledgers hviews.claims
  | claimSettled hsettled hviews =>
      exact conserved_settled hconserved hsettled hviews.ledgers hviews.claims
  | claimRecovered hrecovered hviews =>
      exact conserved_recovered hconserved hrecovered hviews.ledgers
        hviews.claims
  | registered hregistered _ hviews =>
      exact hconserved.keep
        (State.ledger?_map_write hviews.ledgers
          (State.ledger?_of_vault? hregistered.vaultAt) rfl vaultKey)
        hviews.claims
  | revoked hrevoked _ hviews =>
      exact hconserved.keep
        (State.ledger?_map_write hviews.ledgers
          (State.ledger?_of_vault? hrevoked.vaultAt) rfl vaultKey)
        hviews.claims
  | closed _ _ hviews => exact hconserved.keep (by rw [hviews.ledgers]) hviews.claims
  | @migrated _ accounts _ _ _ hviews =>
      have hother : accounts.vault ≠ vaultKey := fun hvault =>
        hinitializes (congrArg some hvault)
      refine hconserved.keep ?_ hviews.claims
      rw [hviews.ledgers, update_of_ne hother.symm]
  | @migratedWithSession _ accounts _ _ _ _ _ _ hviews =>
      have hother : accounts.vault ≠ vaultKey := fun hvault =>
        hinitializes (congrArg some hvault)
      refine hconserved.keep ?_ hviews.claims
      rw [hviews.ledgers, update_of_ne hother.symm]

end Steps

theorem conserved_start {state : State} (hstart : OnlyImages state) :
    Conserved vaultKey state := by
  constructor
  case balanced =>
    intro ledger hledger
    rw [hstart.1] at hledger
    cases hledger
  case housed =>
    intro _ key claim hclaim
    rw [hstart.2.2] at hclaim
    cases hclaim

/-- The run lemma. -/
theorem conserved_run {start state : State} {trace : Trace}
    (hstart : OnlyImages start) (hrun : Run (system runtime) start trace state)
    (hinitializes : Guarded (fun _ => Initializes vaultKey) trace) :
    Conserved vaultKey state := by
  refine hrun.guarded_invariant (Conserved vaultKey) (conserved_start hstart)
    ?_ ?_ hinitializes
  · intro before call after hconserved hstep hmeets
    exact conserved_step hconserved hmeets hstep
  · intro before after hconserved hmove
    have hviews := environment_views hmove
    exact hconserved.keep (by rw [hviews.ledgers]) hviews.claims

/-! ## Exact arithmetic -/

/-- A settled or recovered claim is part of the reservation it is taken from. -/
def SubtractsExactly (vaultKey : Pubkey) (accepted : Accepted State Call) :
    Prop :=
  ∀ vault ∈ accepted.before.vault? vaultKey,
    (∀ accounts ∈ accepted.call.settleLocked, accounts.vault = vaultKey →
      ∀ claim ∈ accepted.before.claim? accounts.claim,
        claim.amount ≤ vault.outstandingLockedAmount) ∧
    (∀ accounts ∈ accepted.call.recoverLock, accounts.vault = vaultKey →
      ∀ claim ∈ accepted.before.claim? accounts.claim,
        claim.amount ≤ vault.outstandingLockedAmount)

/-- The amount of a new claim fits into the lifetime odometer of the vault and
into that of the session, the amount of a settled one into the settled
odometer. -/
def AddsExactly (vaultKey : Pubkey) (accepted : Accepted State Call) : Prop :=
  ∀ vault ∈ accepted.before.vault? vaultKey,
    (∀ accounts ∈ accepted.call.lock, accounts.vault = vaultKey →
      ∀ claim ∈ accepted.after.claim? accounts.claim,
        vault.totalCrystallizedAmount.val + claim.amount.val < 2 ^ 64 ∧
        ∀ account ∈ accepted.before.session? accounts.session,
          account.session.crystallizedCumulative.val + claim.amount.val <
            2 ^ 64) ∧
    (∀ accounts ∈ accepted.call.settleLocked, accounts.vault = vaultKey →
      ∀ claim ∈ accepted.before.claim? accounts.claim,
        vault.totalSettledAmount.val + claim.amount.val < 2 ^ 64)

/-- The amount of a new claim is part of the exposure of the session, so that
taking it out does not clamp. -/
def ExposureExact (accepted : Accepted State Call) : Prop :=
  ∀ accounts ∈ accepted.call.lock,
    ∀ claim ∈ accepted.after.claim? accounts.claim,
      ∀ account ∈ accepted.before.session? accounts.session,
        claim.amount ≤ account.session.currentOutstanding

instance (accepted : Accepted State Call) :
    Decidable (ExposureExact accepted) :=
  inferInstanceAs (Decidable (∀ accounts ∈ accepted.call.lock,
    ∀ claim ∈ accepted.after.claim? accounts.claim,
      ∀ account ∈ accepted.before.session? accounts.session, _))

section Exact

variable {before after : State} {call : Call}

theorem Conserved.amount_le (hconserved : Conserved vaultKey before)
    {vault : Vault} {key : Pubkey} {claim : LockedClaim}
    (hvault : before.vault? vaultKey = some vault)
    (hclaim : before.claim? key = some claim) (hsame : claim.vault = vaultKey)
    (hpending : claim.status = .pending) :
    claim.amount ≤ vault.outstandingLockedAmount := by
  have hbalanced := hconserved.balanced _ (State.ledger?_of_vault? hvault)
  have hle := amount_le_claimTotal hclaim hsame
  rw [hpending, ← hbalanced.outstanding] at hle
  exact hle

theorem subtractsExactly_step (hconserved : Conserved vaultKey before)
    (hstep : step runtime before call = .ok after) :
    SubtractsExactly vaultKey ⟨before, call, after⟩ := by
  intro vault hvault
  constructor
  · rintro accounts hcall rfl claim hclaim
    cases call with
    | settleLockedVoucher =>
        cases hcall
        obtain ⟨_, _, hsettled, -⟩ := settleLockedVoucher_ok hstep
        obtain rfl := Option.some.inj (hsettled.claimAt.symm.trans hclaim)
        exact hconserved.amount_le hvault hclaim hsettled.sameVault
          hsettled.pending
    | _ => cases hcall
  · rintro accounts hcall rfl claim hclaim
    cases call with
    | recoverAbandonedLock =>
        cases hcall
        obtain ⟨_, _, hrecovered, -⟩ := recoverAbandonedLock_ok hstep
        obtain rfl := Option.some.inj (hrecovered.claimAt.symm.trans hclaim)
        exact hconserved.amount_le hvault hclaim hrecovered.sameVault
          hrecovered.pending
    | _ => cases hcall

theorem addsExactly_step (hconserved : Conserved vaultKey before)
    (hfits : lockedTotal after vaultKey < 2 ^ 64)
    (hstep : step runtime before call = .ok after) :
    AddsExactly vaultKey ⟨before, call, after⟩ := by
  intro vault hvault
  have hbalanced := hconserved.balanced _ (State.ledger?_of_vault? hvault)
  have hcrystallized : vault.totalCrystallizedAmount.val = _ :=
    hbalanced.crystallized
  have hpaid : vault.totalSettledAmount.val = _ := hbalanced.settled
  rw [lockedTotal] at hfits
  constructor
  · rintro accounts hcall rfl claim hclaim
    cases call with
    | lockVoucher =>
        cases hcall
        cases step_change hstep with
        | quiet hquiet => cases hquiet
        | bound hcall => cases hcall
        | @locked _ _ _ _ _ _ _ delta _ _ hlocked hviews =>
            rw [hviews.claims, update_self] at hclaim
            obtain rfl := Option.some.inj hclaim
            have htotals : claimTotal after accounts.vault .pending =
                  claimTotal before accounts.vault .pending + delta.val ∧
                claimTotal after accounts.vault .settled =
                  claimTotal before accounts.vault .settled ∧
                claimTotal after accounts.vault .abandoned =
                  claimTotal before accounts.vault .abandoned :=
              claimTotal_lock (State.view_of_lookup_none hlocked.vacant) rfl rfl
                hviews.claims
            have hdelta := hlocked.deltaIs
            change vault.totalCrystallizedAmount.val + delta.val < _ ∧ _
            refine ⟨by omega, fun account haccount => ?_⟩
            obtain rfl := Option.some.inj
              (hlocked.admitted.sessionAt.symm.trans haccount)
            change _ + delta.val < _
            omega
    | _ => cases hcall
  · rintro accounts hcall rfl claim hclaim
    cases call with
    | settleLockedVoucher =>
        cases hcall
        cases step_change hstep with
        | quiet hquiet => cases hquiet
        | bound hcall => cases hcall
        | @claimSettled _ _ _ _ found hsettled hviews =>
            obtain rfl : found = claim :=
              Option.some.inj (hsettled.claimAt.symm.trans hclaim)
            have hrose : claimTotal after accounts.vault .settled =
                claimTotal before accounts.vault .settled + found.amount.val :=
              (claimTotal_end
                { found with
                  status := .settled
                  settledAt := some _ }
                hsettled.claimAt hsettled.sameVault hsettled.pending nofun rfl
                rfl hviews.claims).2.1
            omega
    | _ => cases hcall

end Exact

/-- The counters of a vault as its claims determine them. -/
structure Accounted (state : State) (vaultKey : Pubkey) (vault : Vault) :
    Prop where
  outstanding : vault.outstandingLockedAmount.val =
    claimTotal state vaultKey .pending
  lifetime : lockedTotal state vaultKey < 2 ^ 64 →
    vault.totalCrystallizedAmount.val =
        vault.totalSettledAmount.val + vault.outstandingLockedAmount.val +
          claimTotal state vaultKey .abandoned ∧
      vault.totalSettledAmount.val = claimTotal state vaultKey .settled

theorem Conserved.accounted {state : State} {vault : Vault}
    (hconserved : Conserved vaultKey state)
    (hvault : state.vault? vaultKey = some vault) :
    Accounted state vaultKey vault := by
  have hbalanced := hconserved.balanced _ (State.ledger?_of_vault? hvault)
  have houtstanding : vault.outstandingLockedAmount.val = _ :=
    hbalanced.outstanding
  have hcrystallized : vault.totalCrystallizedAmount.val = _ :=
    hbalanced.crystallized
  have hsettled : vault.totalSettledAmount.val = _ := hbalanced.settled
  refine ⟨houtstanding, fun hfits => ?_⟩
  rw [lockedTotal] at hfits
  omega

/-- In every run, the counters of every vault that was not migrated are the
sums over its claims; taking a claim out of the reservation is always exact,
and adding one to a lifetime odometer is exact as long as the lifetime total
fits. -/
theorem claims_conserved {start state : State} {trace : Trace}
    (hstart : OnlyImages start) (hrun : Run (system runtime) start trace state)
    (hinitializes : Guarded (fun _ => Initializes vaultKey) trace) :
    (∀ vault, state.vault? vaultKey = some vault →
      Accounted state vaultKey vault) ∧
    ∀ accepted ∈ trace, SubtractsExactly vaultKey accepted ∧
      (lockedTotal accepted.after vaultKey < 2 ^ 64 →
        AddsExactly vaultKey accepted) := by
  constructor
  · intro vault hvault
    exact (conserved_run hstart hrun hinitializes).accounted hvault
  · refine hrun.forall_accepted _ ?_ hinitializes
    intro earlier before call after hrun hearlier _ hstep
    have hconserved := conserved_run hstart hrun hearlier
    exact ⟨subtractsExactly_step hconserved hstep,
      fun hfits => addsExactly_step hconserved hfits hstep⟩

theorem claims_conserved_locked :
    Accounted Deployment.locked Deployment.vaultKey Deployment.lockedVault ∧
      claimTotal Deployment.locked Deployment.vaultKey .pending = 60 := by
  have hconserved := claims_conserved Deployment.onlyImages_funded
    Deployment.locked_run (show Guarded
      (fun _ => Initializes Deployment.vaultKey) Deployment.lockedTrace by
        decide +kernel)
  exact ⟨hconserved.1 _ (by decide +kernel), by decide +kernel⟩

/-- A lock of 60 without an open tab: the exposure of the session is zero and
stays zero. -/
theorem lock_without_exposure :
    Run (system Deployment.sampleRuntime) Deployment.funded
        Deployment.lockedTrace Deployment.locked ∧
      lockedTotal Deployment.locked Deployment.vaultKey = 60 ∧
      ¬ ∀ accepted ∈ Deployment.lockedTrace, ExposureExact accepted :=
  ⟨Deployment.locked_run, by decide +kernel, by decide +kernel⟩

end DexterVault.Claims
